import Bartender.Library.InsertionDict

/-!
# Variables in strings

The functions of `env_help`, on lists of characters. Which characters count as
letters and digits is left open.
-/

namespace Bartender

/-- `str.isalpha` and `str.isdigit` of single characters. -/
structure CharClass where
  isAlpha : Char → Bool
  isDigit : Char → Bool

def CharClass.ascii : CharClass := ⟨Char.isAlpha, Char.isDigit⟩

def backslash : Char := Char.ofNat 92

namespace EnvHelp

variable (chars : CharClass)

def endsWithBackslash (s : List Char) : Bool := s.getLast? == some backslash

/-- The parts from an index on, each tested against the part before it. -/
def containsFrom : List Char → List (List Char) → Bool
  | _, [] => false
  | previous, part :: rest =>
    if part.head?.elim true (!chars.isAlpha ·) then containsFrom part rest
    else if endsWithBackslash previous then containsFrom part rest
    else true

def stringContainsEnvironmentVar (s : List Char) : Bool :=
  match s.splitOn '$' with
  | [] => false
  | first :: rest =>
    if rest.isEmpty then false
    else if !(first.head?.elim true (!chars.isAlpha ·)) && !endsWithBackslash first then true
    else containsFrom chars first rest

def isStringEnvironmentVariable (s : List Char) : Bool := s.head?.elim false chars.isAlpha

def getEnvironmentVarNameFromString (s : List Char) : List Char :=
  s.takeWhile fun c => chars.isAlpha c || chars.isDigit c || c == '_'

/-- `str.replace` of a nonempty string: after a match its characters are skipped. -/
def replaceFrom (old new : List Char) : ℕ → List Char → List Char
  | _, [] => []
  | skip + 1, _ :: rest => replaceFrom old new skip rest
  | 0, c :: rest =>
    if old.isPrefixOf (c :: rest) then new ++ replaceFrom old new (old.length - 1) rest
    else c :: replaceFrom old new 0 rest

/-- The parts after the first, appended to what is expanded so far. -/
def expandParts (env : List (String × String)) : List Char → List (List Char) → List Char
  | expandedValue, [] => expandedValue
  | expandedValue, part :: rest =>
    if endsWithBackslash expandedValue then
      expandParts env (expandedValue ++ '$' :: part) rest
    else if isStringEnvironmentVariable chars part then
      let key := getEnvironmentVarNameFromString chars part
      let value := (InsertionDict.get? env (String.ofList key)).getD ""
      expandParts env (expandedValue ++ replaceFrom key value.toList 0 part) rest
    else expandParts env (expandedValue ++ '$' :: part) rest

/-- `expand_string_with_environment_var`; the replacement also rewrites later
occurrences of the variable's name in the same part. -/
def expandStringWithEnvironmentVar (s : String) (env : List (String × String)) : String :=
  match s.toList.splitOn '$' with
  | [] => ""
  | first :: rest => String.ofList (expandParts chars env first rest)

end EnvHelp

end Bartender
