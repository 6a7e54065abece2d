import Bartender.Library.Binary64
import Bartender.Library.InsertionDict

/-!
# Python values

The values that the JSON decoder produces and that documents hold, with the
built-in operations applied to them: equality, containment, truth, iteration
and the `dict` constructor. Dictionary keys are the hashable values; `1`,
`True` and `1.0` are one key.
-/

namespace Bartender

open Binary64 (Double)

inductive PyKey
  | none
  | bool (value : Bool)
  | int (value : ℤ)
  | float (value : Double)
  | str (value : String)
  deriving DecidableEq

inductive PyValue
  | none
  | bool (value : Bool)
  | int (value : ℤ)
  | float (value : Double)
  | str (value : String)
  | list (values : List PyValue)
  | dict (entries : List (PyKey × PyValue))

abbrev PyDict := List (PyKey × PyValue)

/-- A `%` format and what it is applied to. -/
structure Message where
  format : String
  arguments : List PyValue

/-- The exceptions. The text of an interpreter exception only reaches the log. -/
inductive PyError
  | modelValidationError (message : Message)
  | typeError
  | valueError
  | overflowError
  | keyError
  | attributeError
  | other (name : String)

/-- A number, exactly: finite ones in units of `2 ^ -1074`. -/
inductive Number
  | nan
  | infinity (negative : Bool)
  | units (value : ℤ)
  deriving DecidableEq

namespace Number

def ofInt (n : ℤ) : Number := .units (n * Binary64.one)

def ofBool (b : Bool) : Number := ofInt (if b then 1 else 0)

def ofDouble : Double → Number
  | .nan => .nan
  | .infinity negative => .infinity negative
  | .finite negative magnitude => .units (Double.signedUnits negative magnitude.val)

/-- `==` on numbers: `nan` differs from itself. -/
def eq : Number → Number → Bool
  | .nan, _ => false
  | .infinity s, .infinity t => s == t
  | .units m, .units n => m == n
  | _, _ => false

def lt : Number → Number → Bool
  | .nan, _ => false
  | _, .nan => false
  | .infinity negative, .infinity negative' => negative && !negative'
  | .infinity negative, .units _ => negative
  | .units _, .infinity negative => !negative
  | .units m, .units n => decide (m < n)

theorem lt_ofInt (m n : ℤ) : (ofInt m).lt (ofInt n) = decide (m < n) := by
  unfold ofInt lt
  rw [decide_eq_decide, Int.mul_lt_mul_right (by exact_mod_cast Binary64.one_pos)]

end Number

namespace PyKey

/-- What decides whether two keys are the same. The JSON decoder has a single
`nan` object, so as a key it is the same as itself. -/
inductive Identity
  | none
  | number (value : Number)
  | str (value : String)
  deriving DecidableEq

def identity : PyKey → Identity
  | .none => .none
  | .bool b => .number (.ofBool b)
  | .int n => .number (.ofInt n)
  | .float x => .number (.ofDouble x)
  | .str s => .str s

instance : BEq PyKey := ⟨fun a b => a.identity == b.identity⟩

theorem beq_iff {a b : PyKey} : (a == b) = true ↔ a.identity = b.identity := by
  show (a.identity == b.identity) = true ↔ _
  exact beq_iff_eq

instance : EquivBEq PyKey where
  rfl := beq_iff.mpr rfl
  symm h := beq_iff.mpr (beq_iff.mp h).symm
  trans h h' := beq_iff.mpr ((beq_iff.mp h).trans (beq_iff.mp h'))

@[simp] theorem str_beq_str (a b : String) : (PyKey.str a == PyKey.str b) = (a == b) := by
  rw [Bool.eq_iff_iff, beq_iff]
  simp [identity]

def toValue : PyKey → PyValue
  | .none => .none
  | .bool b => .bool b
  | .int n => .int n
  | .float x => .float x
  | .str s => .str s

end PyKey

namespace PyValue

/-- The key a value makes; lists and dictionaries are not hashable. -/
def toKey : PyValue → Except PyError PyKey
  | .none => .ok .none
  | .bool b => .ok (.bool b)
  | .int n => .ok (.int n)
  | .float x => .ok (.float x)
  | .str s => .ok (.str s)
  | .list _ => .error .typeError
  | .dict _ => .error .typeError

def isNone : PyValue → Bool
  | .none => true
  | _ => false

@[simp] theorem isNone_iff {value : PyValue} : value.isNone = true ↔ value = .none := by
  cases value <;> simp [isNone]

/-- The number a value is, for comparisons; booleans are numbers. -/
def number? : PyValue → Option Number
  | .bool b => some (.ofBool b)
  | .int n => some (.ofInt n)
  | .float x => some (.ofDouble x)
  | _ => Option.none

mutual

/-- `==`. Numbers of different types compare by value; dictionaries compare
whatever their order. -/
def eq : PyValue → PyValue → Bool
  | .none, b => b.isNone
  | .str s, .str t => s == t
  | .list xs, .list ys => eqList xs ys
  | .dict d, .dict e => d.length == e.length && eqEntries d e
  | a, b =>
    match a.number?, b.number? with
    | some m, some n => m.eq n
    | _, _ => false

def eqList : List PyValue → List PyValue → Bool
  | [], [] => true
  | x :: xs, y :: ys => eq x y && eqList xs ys
  | _, _ => false

def eqEntries : List (PyKey × PyValue) → List (PyKey × PyValue) → Bool
  | [], _ => true
  | (k, v) :: rest, e =>
    (match InsertionDict.get? e k with
      | some w => eq v w
      | Option.none => false) && eqEntries rest e

end

/-- `value in values`. -/
def isIn (value : PyValue) (values : List PyValue) : Bool :=
  values.any fun v => value.eq v

/-- Whether `if value` is taken. -/
def truth : PyValue → Bool
  | .none => false
  | .bool b => b
  | .int n => n != 0
  | .float x => !(Number.ofDouble x).eq (.units 0)
  | .str s => s != ""
  | .list xs => !xs.isEmpty
  | .dict d => !d.isEmpty

def iter : PyValue → Except PyError (List PyValue)
  | .str s => .ok (s.toList.map fun c => .str (String.ofList [c]))
  | .list xs => .ok xs
  | .dict d => .ok (d.map fun entry => entry.1.toValue)
  | _ => .error .typeError

/-- An element of a dictionary update sequence: two items, the first hashable. -/
def toEntry (element : PyValue) : Except PyError (PyKey × PyValue) :=
  match element.iter with
  | .error e => .error e
  | .ok [k, v] => k.toKey.map fun key => (key, v)
  | .ok _ => .error .valueError

/-- The entries of an update sequence, added one after the other. -/
def updateFrom (dict : PyDict) : List PyValue → Except PyError PyDict
  | [] => .ok dict
  | element :: rest =>
    match element.toEntry with
    | .error e => .error e
    | .ok entry => updateFrom (InsertionDict.set dict entry.1 entry.2) rest

/-- `dict(value)`. -/
def toDict : PyValue → Except PyError PyDict
  | .dict d => .ok d
  | value =>
    match value.iter with
    | .error e => .error e
    | .ok elements => updateFrom [] elements

end PyValue

/-- The interpreter's `TypeError` and `ValueError`. -/
def PyError.IsConversion : PyError → Prop
  | .typeError => True
  | .valueError => True
  | _ => False

namespace PyValue

theorem iter_error {value : PyValue} {e : PyError} (h : value.iter = .error e) :
    e.IsConversion := by
  cases value <;> cases h <;> trivial

theorem toKey_error {value : PyValue} {e : PyError} (h : value.toKey = .error e) :
    e.IsConversion := by
  cases value <;> cases h <;> trivial

theorem toEntry_error {element : PyValue} {e : PyError} (h : element.toEntry = .error e) :
    e.IsConversion := by
  unfold toEntry at h
  split at h
  · next e' he =>
    cases h
    exact iter_error he
  · next k v _ =>
    cases hk : k.toKey with
    | error e' =>
      rw [hk] at h
      cases h
      exact toKey_error hk
    | ok key =>
      rw [hk] at h
      cases h
  · cases h
    trivial

theorem updateFrom_error {dict : PyDict} {elements : List PyValue} {e : PyError}
    (h : updateFrom dict elements = .error e) : e.IsConversion := by
  induction elements generalizing dict with
  | nil => cases h
  | cons element rest ih =>
    rw [updateFrom] at h
    cases hentry : element.toEntry with
    | error e' =>
      rw [hentry] at h
      cases h
      exact toEntry_error hentry
    | ok entry =>
      rw [hentry] at h
      exact ih h

theorem toDict_error {value : PyValue} {e : PyError} (h : value.toDict = .error e) :
    e.IsConversion := by
  unfold toDict at h
  split at h
  · cases h
  · split at h
    · next e' he =>
      cases h
      exact iter_error he
    · exact updateFrom_error h

end PyValue

end Bartender
