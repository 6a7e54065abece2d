import Mathlib.Data.Int.Notation
import Mathlib.Data.List.Basic

/-!
# Configuration modules

A `beer.conf` is executed as a module, so that any Python value may be bound to
any of its names. The values are split as far as the code that reads them does;
what remains is left open, together with what the interpreter does with a value
as a whole.
-/

namespace Bartender

/-- A value bound in a configuration. `Obj` are the objects of all other types. -/
inductive ConfValue (Obj : Type)
  | none
  | str (s : String)
  | list (values : List (ConfValue Obj))
  | tuple (values : List (ConfValue Obj))
  | dict (entries : List (ConfValue Obj × ConfValue Obj))
  | other (object : Obj)

namespace ConfValue

variable {Obj : Type}

/-- `isinstance(value, str)`. -/
def isStr : ConfValue Obj → Bool
  | str _ => true
  | _ => false

theorem isStr_iff {value : ConfValue Obj} : value.isStr = true ↔ ∃ s, value = .str s := by
  cases value <;> simp [isStr]

end ConfValue

/-- The names bound in the executed file. -/
abbrev ConfigModule (Obj : Type) := String → Option (ConfValue Obj)

/-- `getattr(config_module, name, default)`. -/
def ConfigModule.getattr {Obj : Type} (config : ConfigModule Obj) (name : String)
    (default : ConfValue Obj) : ConfValue Obj :=
  (config name).getD default

/-- An upper-case name of `logging`: a level, or something that is none. -/
inductive LoggingAttribute
  | level (n : ℤ)
  | noLevel
  deriving DecidableEq

/-- What the interpreter does with values. Nothing is returned where a method of a
value raises. `same` is identity or `==`; `keyIn` looks a value up among the keys
of a dictionary, which are in no order, and `sameKey` is what it goes by. A
path-like object has a path, and may also have the methods of a string that are
tried on an entry point. The attribute of `logging` is the one under the upper-case
text of a value, or `INFO` by default. -/
structure Interpreter (Obj : Type) where
  same : ConfValue Obj → ConfValue Obj → Option Bool
  sameKey : ConfValue Obj → ConfValue Obj → Bool
  keyIn : ConfValue Obj → List (ConfValue Obj) → Option Bool
  prints : ConfValue Obj → Bool
  strLacksAttribute : ConfValue Obj → Bool
  fspath : Obj → Option String
  startsWithModule : Obj → Option Bool
  moduleName : Obj → Option String
  items : Obj → Option (List (ConfValue Obj))
  loggingAttribute : ConfValue Obj → LoggingAttribute
  same_str : ∀ s t, same (.str s) (.str t) = some (s == t)
  sameKey_str : ∀ s t, sameKey (.str s) (.str t) = (s == t)
  keyIn_iff : ∀ {key keys found}, keyIn key keys = some found →
    (found = true ↔ ∃ k ∈ keys, sameKey key k = true)
  keyIn_str : ∀ s (names : List String), (keyIn (.str s) (names.map .str)).isSome = true
  prints_str : ∀ s, prints (.str s) = true
  prints_none : prints .none = true

namespace Interpreter

variable {Obj : Type} (py : Interpreter Obj)

/-- `value in values` for a list, which is compared item by item. -/
def isIn (value : ConfValue Obj) : List (ConfValue Obj) → Option Bool
  | [] => some false
  | v :: values =>
    match py.same value v with
    | some false => isIn value values
    | answer => answer

theorem exists_of_isIn {value : ConfValue Obj} {values : List (ConfValue Obj)}
    (h : py.isIn value values = some true) : ∃ v ∈ values, py.same value v = some true := by
  induction values with
  | nil => cases h
  | cons v values ih =>
    rw [isIn] at h
    split at h
    · obtain ⟨w, hw, hsame⟩ := ih h
      exact ⟨w, List.mem_cons_of_mem v hw, hsame⟩
    · exact ⟨v, List.mem_cons_self, h⟩

theorem isIn_ne_false {value : ConfValue Obj} {values : List (ConfValue Obj)}
    (h : ∃ v ∈ values, py.same value v = some true) : py.isIn value values ≠ some false := by
  obtain ⟨v, hv, hsame⟩ := h
  induction hv with
  | head values =>
    rw [isIn, hsame]
    nofun
  | tail w _ ih =>
    rw [isIn]
    split
    · exact ih
    · assumption

/-- What `for` makes of a value. -/
def iterate : ConfValue Obj → Option (List (ConfValue Obj))
  | .none => none
  | .str s => some (s.toList.map fun c => .str (String.ofList [c]))
  | .list values | .tuple values => some values
  | .dict entries => some (entries.map (·.1))
  | .other object => py.items object

/-- `entries.get(key)`. -/
def get? (entries : List (ConfValue Obj × ConfValue Obj)) (key : ConfValue Obj) :
    Option (Option (ConfValue Obj)) :=
  (py.keyIn key (entries.map (·.1))).map fun _ =>
    (entries.find? fun entry => py.sameKey key entry.1).map (·.2)

theorem exists_get?_of_keyIn {entries : List (ConfValue Obj × ConfValue Obj)}
    {key : ConfValue Obj} (h : py.keyIn key (entries.map (·.1)) = some true) :
    ∃ entry ∈ entries, py.get? entries key = some (some entry.2) := by
  obtain ⟨k, hk, hsame⟩ := (py.keyIn_iff h).mp rfl
  obtain ⟨entry, hentry, rfl⟩ := List.mem_map.mp hk
  have hsome : (entries.find? fun entry => py.sameKey key entry.1).isSome = true :=
    List.find?_isSome.mpr ⟨entry, hentry, hsame⟩
  obtain ⟨found, hfound⟩ := Option.isSome_iff_exists.mp hsome
  exact ⟨found, List.mem_of_find?_eq_some hfound, by rw [get?, h, hfound]; rfl⟩

theorem same_self_str (name : String) : py.same (.str name) (.str name) = some true := by
  rw [py.same_str, beq_self_eq_true]

theorem keyIn_map_str (name : String) (names : List String) :
    py.keyIn (.str name) (names.map .str) = some (decide (name ∈ names)) := by
  obtain ⟨found, hfound⟩ := Option.isSome_iff_exists.mp (py.keyIn_str name names)
  have hiff := py.keyIn_iff hfound
  simp only [List.mem_map, exists_exists_and_eq_and, py.sameKey_str, beq_iff_eq,
    exists_eq_right'] at hiff
  rw [hfound, Option.some.injEq, Bool.eq_iff_iff, hiff, decide_eq_true_iff]

/-- The entries once `entries[key] = value` has been done. -/
def put (key value : ConfValue Obj) :
    List (ConfValue Obj × ConfValue Obj) → List (ConfValue Obj × ConfValue Obj)
  | [] => [(key, value)]
  | (k, v) :: rest =>
    if py.sameKey key k then (k, value) :: rest else (k, v) :: put key value rest

/-- `entries[key] = value`. -/
def assign (key value : ConfValue Obj) (entries : List (ConfValue Obj × ConfValue Obj)) :
    Option (List (ConfValue Obj × ConfValue Obj)) :=
  (py.keyIn key (entries.map (·.1))).map fun _ => py.put key value entries

theorem put_of_not_mem {key value : ConfValue Obj}
    {entries : List (ConfValue Obj × ConfValue Obj)}
    (h : ∀ entry ∈ entries, py.sameKey key entry.1 = false) :
    py.put key value entries = entries ++ [(key, value)] := by
  induction entries with
  | nil => rfl
  | cons entry rest ih =>
    obtain ⟨hentry, hrest⟩ := List.forall_mem_cons.mp h
    rw [put, hentry, if_neg Bool.false_ne_true, ih hrest, List.cons_append]

end Interpreter

section PlainObjects

variable {Obj : Type} [DecidableEq Obj]

/-- Whether two values are equal, where neither is a list, a tuple or a dictionary. -/
def plainSame : ConfValue Obj → ConfValue Obj → Bool
  | .none, .none => true
  | .str s, .str t => s == t
  | .other x, .other y => x == y
  | _, _ => false

def plainHashable : ConfValue Obj → Bool
  | .none | .str _ | .other _ => true
  | _ => false

/-- Objects without any methods but `str()`, which may raise. -/
def objectInterpreter (printsObject : Obj → Bool) : Interpreter Obj where
  same value v := some (plainSame value v)
  sameKey := plainSame
  keyIn key keys := if plainHashable key then some (keys.any (plainSame key)) else none
  prints
    | .other object => printsObject object
    | _ => true
  strLacksAttribute _ := false
  fspath _ := none
  startsWithModule _ := none
  moduleName _ := none
  items _ := none
  loggingAttribute
    | .str "BASIC_FORMAT" => .noLevel
    | _ => .level 20
  same_str _ _ := rfl
  sameKey_str _ _ := rfl
  keyIn_iff h := by
    split_ifs at h
    rw [← Option.some.inj h, List.any_eq_true]
  keyIn_str _ _ := rfl
  prints_str _ := rfl
  prints_none := rfl

end PlainObjects

/-- No objects besides strings, lists, tuples and dictionaries. -/
def plainInterpreter : Interpreter Empty := objectInterpreter Empty.elim

/-- The tests of `os.path` that are made. -/
structure FileSystem where
  isdir : String → Bool
  isfile : String → Bool

/-- `str.startswith`. -/
def startsWith (s start : String) : Bool := start.toList.isPrefixOf s.toList

/-- `os.path.join` of two paths. -/
def join (path name : String) : String :=
  if startsWith name "/" then name
  else if path = "" ∨ path.toList.getLast? = some '/' then path ++ name
  else path ++ "/" ++ name

/-- One component of a path after the others, of which the last one is first. -/
def stepInto (absolute : Bool) (parents : List (List Char)) (part : List Char) :
    List (List Char) :=
  if part = [] ∨ part = ['.'] then parents
  else if part = ['.', '.'] then
    match parents with
    | [] => if absolute then [] else [part]
    | last :: others => if last = ['.', '.'] then part :: parents else others
  else part :: parents

/-- The components of a path, without those that a `..` takes back. -/
def components (path : String) : List (List Char) :=
  ((path.toList.splitOn '/').foldl (stepInto (startsWith path "/")) []).reverse

/-- A path that leads to somewhere below another one. -/
def Under (path below : String) : Prop :=
  startsWith path "/" = startsWith below "/" ∧
    ∃ rest, components below = components path ++ rest ∧ rest ≠ [] ∧ ['.', '.'] ∉ rest

end Bartender
