import Bartender.Plugins.Runner
import Bartender.Python.Conversions

/-!
# Requests, commands and their parameters

The documents that the request validator reads. A parameter of type
`Dictionary` can declare nested parameters, so a command's parameters form a
tree. The attributes that do not depend on the nested parameters are kept in
one record, since every check except the type conversion only reads those.
-/

namespace Bartender

/-- The declared type of a parameter, compared whatever its case. -/
inductive ParameterType
  | string
  | integer
  | float
  | any
  | boolean
  | dictionary
  | date
  | dateTime
  | other (name : String)
  deriving DecidableEq, Repr

def ParameterType.name : ParameterType → String
  | string => "String"
  | integer => "Integer"
  | float => "Float"
  | any => "Any"
  | boolean => "Boolean"
  | dictionary => "Dictionary"
  | date => "Date"
  | dateTime => "DateTime"
  | other name => name

inductive ChoicesType
  | static
  | url
  | command
  | other (name : String)
  deriving DecidableEq, Repr

structure Choices where
  type : ChoicesType
  value : PyValue
  strict : Bool
  details : PyDict

/-- `Choices.TYPES`. -/
def choicesTypes : PyValue := .list [.str "static", .str "url", .str "command"]

structure ParameterInfo where
  key : String
  type : ParameterType
  multi : Bool
  optional : Bool
  nullable : Bool
  default : PyValue
  choices : Option Choices
  maximum : Option ℤ
  minimum : Option ℤ
  regex : Option String

structure Parameter where
  info : ParameterInfo
  parameters : List Parameter

structure Command where
  name : String
  commandType : String
  outputType : String
  parameters : List Parameter

structure SystemDocument extends System where
  commands : List Command

def SystemDocument.instanceNames (system : SystemDocument) : List String :=
  system.instances.map (·.name)

structure Request where
  system : String
  systemVersion : String
  instanceName : String
  command : Option String
  commandType : Option String
  outputType : Option String
  parameters : PyDict

def declaredKeys (parameters : List Parameter) : List PyKey :=
  parameters.map fun p => .str p.info.key

section Trees

variable (P : ParameterInfo → Prop)

mutual

def Parameter.Everywhere : Parameter → Prop
  | ⟨info, parameters⟩ => P info ∧ Parameter.AllEverywhere parameters

def Parameter.AllEverywhere : List Parameter → Prop
  | [] => True
  | p :: rest => p.Everywhere ∧ Parameter.AllEverywhere rest

end

theorem Parameter.Everywhere.here {P : ParameterInfo → Prop} {p : Parameter}
    (h : p.Everywhere P) : P p.info := by
  cases p
  exact h.1

mutual

theorem Parameter.everywhere_of_forall {P : ParameterInfo → Prop} (h : ∀ info, P info)
    (p : Parameter) : p.Everywhere P := by
  obtain ⟨info, parameters⟩ := p
  exact ⟨h info, Parameter.allEverywhere_of_forall h parameters⟩

theorem Parameter.allEverywhere_of_forall {P : ParameterInfo → Prop} (h : ∀ info, P info)
    (parameters : List Parameter) : Parameter.AllEverywhere P parameters := by
  match parameters with
  | [] => trivial
  | p :: rest =>
    exact ⟨Parameter.everywhere_of_forall h p, Parameter.allEverywhere_of_forall h rest⟩

end

end Trees

mutual

def Parameter.KeysDistinct : Parameter → Prop
  | ⟨_, parameters⟩ => (declaredKeys parameters).Nodup ∧ Parameter.AllKeysDistinct parameters

def Parameter.AllKeysDistinct : List Parameter → Prop
  | [] => True
  | p :: rest => p.KeysDistinct ∧ Parameter.AllKeysDistinct rest

end

/-- The sibling keys of a parameter tree are distinct. -/
def SiblingKeysDistinct (parameters : List Parameter) : Prop :=
  (declaredKeys parameters).Nodup ∧ Parameter.AllKeysDistinct parameters

/-- A required parameter without default, choices or constraints. -/
def plainParameter (key : String) (type : ParameterType) : ParameterInfo where
  key := key
  type := type
  multi := false
  optional := false
  nullable := false
  default := .none
  choices := none
  maximum := none
  minimum := none
  regex := none

def sampleCommand (parameters : List Parameter) : Command :=
  ⟨"run", "ACTION", "STRING", parameters⟩

def sampleSystem (parameters : List Parameter) : SystemDocument where
  id := 1
  name := "echo"
  version := "1.0"
  instances := [⟨1, "default"⟩]
  commands := [sampleCommand parameters]

def sampleRequest (parameters : PyDict) : Request :=
  ⟨"echo", "1.0", "default", some "run", some "ACTION", some "STRING", parameters⟩

end Bartender
