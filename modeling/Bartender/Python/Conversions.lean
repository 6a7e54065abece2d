import Bartender.Python.Values
import Mathlib.Data.List.DropRight

/-!
# The `int` and `float` constructors

Numerals in strings follow the interpreter's grammar: surrounding white space,
a sign, digits of any script, single underscores between digits, and for
`float` a point, an exponent or one of the special names. A numeral too large
for a double is read as infinity, while an integer too large raises.
-/

namespace Bartender

open Binary64 (Double)

/-- The zeros of the decimal digits outside ASCII, in Unicode 12.1. -/
def unicodeZeros : List ℕ :=
  [0x660, 0x6f0, 0x7c0, 0x966, 0x9e6, 0xa66, 0xae6, 0xb66, 0xbe6, 0xc66, 0xce6, 0xd66, 0xde6,
    0xe50, 0xed0, 0xf20, 0x1040, 0x1090, 0x17e0, 0x1810, 0x1946, 0x19d0, 0x1a80, 0x1a90, 0x1b50,
    0x1bb0, 0x1c40, 0x1c50, 0xa620, 0xa8d0, 0xa900, 0xa9d0, 0xa9f0, 0xaa50, 0xabf0, 0xff10,
    0x104a0, 0x10d30, 0x11066, 0x110f0, 0x11136, 0x111d0, 0x112f0, 0x11450, 0x114d0, 0x11650,
    0x116c0, 0x11730, 0x118e0, 0x11c50, 0x11d50, 0x11da0, 0x16a60, 0x16b50, 0x1d7ce, 0x1d7d8,
    0x1d7e2, 0x1d7ec, 0x1d7f6, 0x1e140, 0x1e2f0, 0x1e950]

def unicodeSpaces : List ℕ :=
  [0x85, 0xa0, 0x1680, 0x2000, 0x2001, 0x2002, 0x2003, 0x2004, 0x2005, 0x2006, 0x2007, 0x2008,
    0x2009, 0x200a, 0x2028, 0x2029, 0x202f, 0x205f, 0x3000]

/-- White space, digits of other scripts and everything else, as ASCII. -/
def charToAscii (c : Char) : Option Char :=
  if c.toNat < 127 then some c
  else if c.toNat ∈ unicodeSpaces then some ' '
  else
    (unicodeZeros.find? fun z => z ≤ c.toNat && c.toNat < z + 10).map fun z =>
      Char.ofNat ('0'.toNat + (c.toNat - z))

/-- Reading stops at a character that is neither. -/
def decimalAndSpaceToAscii : List Char → List Char
  | [] => []
  | c :: rest =>
    match charToAscii c with
    | some a => a :: decimalAndSpaceToAscii rest
    | none => ['?']

def numeral (s : String) : List Char :=
  if s.toList.all fun c => c.toNat < 128 then s.toList else decimalAndSpaceToAscii s.toList

def isAsciiSpace (c : Char) : Bool :=
  c == ' ' || (9 ≤ c.toNat && c.toNat ≤ 13)

def readSign : List Char → Bool × List Char
  | '-' :: rest => (true, rest)
  | '+' :: rest => (false, rest)
  | chars => (false, chars)

def digitsValue (digits : List Char) : ℕ :=
  digits.foldl (fun n c => 10 * n + (c.toNat - '0'.toNat)) 0

def isGroupedDigits : List Char → Bool
  | [] => false
  | [c] => c.isDigit
  | c :: '_' :: rest => c.isDigit && isGroupedDigits rest
  | c :: rest => c.isDigit && isGroupedDigits rest

/-- The integer that `int` reads in a string. -/
def parseInt (s : String) : Option ℤ :=
  let (negative, chars) := readSign ((numeral s).dropWhile isAsciiSpace)
  let body := chars.takeWhile fun c => c.isDigit || c == '_'
  let rest := chars.dropWhile fun c => c.isDigit || c == '_'
  if isGroupedDigits body && rest.all isAsciiSpace then
    let value : ℤ := digitsValue (body.filter Char.isDigit)
    some (if negative then -value else value)
  else none

/-- Drops the underscores, each of which stands between two digits. -/
def dropUnderscores : Char → List Char → Option (List Char)
  | previous, [] => if previous == '_' then none else some []
  | previous, c :: rest =>
    if c == '_' then
      if previous.isDigit then dropUnderscores c rest else none
    else if previous == '_' && !c.isDigit then none
    else (dropUnderscores c rest).map (c :: ·)

/-- `digits * 10 ^ exponent`, rounded to the nearest double. -/
def decimalToDouble (negative : Bool) (digits : ℕ) (exponent : ℤ) : Double :=
  if 0 ≤ exponent then
    Binary64.ofRatio negative (digits * 10 ^ exponent.toNat * Binary64.one) 1
  else Binary64.ofRatio negative (digits * Binary64.one) (10 ^ (-exponent).toNat)

/-- An exponent at the end of a numeral; none counts as zero. -/
def readExponent : List Char → Option ℤ
  | [] => some 0
  | c :: rest =>
    if c == 'e' || c == 'E' then
      let (negative, digits) := readSign rest
      if !digits.isEmpty && digits.all Char.isDigit then
        some (if negative then -digitsValue digits else digitsValue digits)
      else none
    else none

/-- A numeral without white space, sign or underscores. -/
def readDecimal (negative : Bool) (chars : List Char) : Option Double :=
  let whole := chars.takeWhile Char.isDigit
  let rest := chars.dropWhile Char.isDigit
  let (fraction, tail) :=
    match rest with
    | '.' :: more => (more.takeWhile Char.isDigit, more.dropWhile Char.isDigit)
    | _ => ([], rest)
  if whole.isEmpty && fraction.isEmpty then none
  else (readExponent tail).map fun exponent =>
    decimalToDouble negative (digitsValue (whole ++ fraction)) (exponent - fraction.length)

/-- The double that `float` reads in a string. -/
def parseFloat (s : String) : Option Double :=
  let trimmed := ((numeral s).dropWhile isAsciiSpace).rdropWhile isAsciiSpace
  (dropUnderscores ' ' trimmed).bind fun chars =>
    let (negative, body) := readSign chars
    let lower := body.map Char.toLower
    if lower == "inf".toList || lower == "infinity".toList then some (.infinity negative)
    else if lower == "nan".toList then some .nan
    else readDecimal negative body

/-- `int(value)`. -/
def pyInt : PyValue → Except PyError ℤ
  | .bool b => .ok (if b then 1 else 0)
  | .int n => .ok n
  | .float .nan => .error .valueError
  | .float (.infinity _) => .error .overflowError
  | .float (.finite negative magnitude) => .ok (Double.truncate negative magnitude.val)
  | .str s => (parseInt s).elim (.error .valueError) .ok
  | _ => .error .typeError

/-- `float(value)`. -/
def pyFloat : PyValue → Except PyError Double
  | .bool b => .ok (Binary64.ofRatio false (if b then Binary64.one else 0) 1)
  | .int n => (Binary64.ofInt? n).elim (.error .overflowError) .ok
  | .float x => .ok x
  | .str s => (parseFloat s).elim (.error .valueError) .ok
  | _ => .error .typeError

theorem eq_ofInt_ofDouble_iff {n : ℤ} {x : Double} :
    (Number.ofInt n).eq (.ofDouble x) = true ↔ x.EqInt n := by
  cases x with
  | nan => simp [Number.ofInt, Number.ofDouble, Number.eq, Double.EqInt]
  | infinity negative => simp [Number.ofInt, Number.ofDouble, Number.eq, Double.EqInt]
  | finite negative magnitude =>
    show (n * Binary64.one == Double.signedUnits negative magnitude.val) = true ↔
      Double.signedUnits negative magnitude.val = n * Binary64.one
    rw [beq_iff_eq]
    exact eq_comm

theorem pyInt_eq_overflowError {value : PyValue} :
    pyInt value = .error .overflowError ↔ ∃ negative, value = .float (.infinity negative) := by
  cases value with
  | float x => cases x <;> simp [pyInt]
  | str s => cases h : parseInt s <;> simp [pyInt, h]
  | _ => simp [pyInt]

theorem pyFloat_eq_overflowError {value : PyValue} :
    pyFloat value = .error .overflowError ↔
      ∃ n, value = .int n ∧ Binary64.ofInt? n = none := by
  cases value with
  | int n => cases h : Binary64.ofInt? n <;> simp [pyFloat, h]
  | str s => cases h : parseFloat s <;> simp [pyFloat, h]
  | _ => simp [pyFloat]

theorem pyInt_error {value : PyValue} {e : PyError} (h : pyInt value = .error e) :
    e.IsConversion ∨ e = .overflowError := by
  cases value with
  | float x =>
    cases x <;> cases h
    · exact .inl trivial
    · exact .inr rfl
  | str s =>
    cases hs : parseInt s <;> simp only [pyInt, hs] at h <;> cases h
    exact .inl trivial
  | bool b => cases h
  | int n => cases h
  | _ =>
    cases h
    exact .inl trivial

theorem pyFloat_error {value : PyValue} {e : PyError} (h : pyFloat value = .error e) :
    e.IsConversion ∨ e = .overflowError := by
  cases value with
  | int n =>
    cases hn : Binary64.ofInt? n <;> simp only [pyFloat, hn] at h <;> cases h
    exact .inr rfl
  | str s =>
    cases hs : parseFloat s <;> simp only [pyFloat, hs] at h <;> cases h
    exact .inl trivial
  | bool b => cases h
  | float x => cases h
  | _ =>
    cases h
    exact .inl trivial

end Bartender
