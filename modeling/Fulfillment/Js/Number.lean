import Fulfillment.Js.JsonText

/-! `Number(v)`. A value that is no number can become one that JSON cannot hold. -/

namespace Js

inductive Number
  | nan
  | infinity (negative : Bool)
  | finite (q : Rat)
  deriving DecidableEq, Repr

namespace Number

def ofRat (q : Rat) : Number := if infinite q then .infinity (q < 0) else .finite q

/-- `n > bound`. -/
def exceeds (bound : Rat) : Number → Bool
  | .nan => false
  | .infinity negative => !negative
  | .finite q => bound < q

/-- `n || 0`. -/
def orZero : Number → Number
  | .nan => .finite 0
  | n => n

def negate : Number → Number
  | .nan => .nan
  | .infinity negative => .infinity (!negative)
  | .finite q => .finite (-q)

/-- The number as `JSON` has it, which has no `NaN`. -/
def toJson : Number → Json
  | .nan => .null
  | .infinity negative => .num (if negative then -Js.infinity else Js.infinity)
  | .finite q => .num q

/-! ## Arithmetic -/

/-- `m + n`, rounded to the nearest double. -/
def add : Number → Number → Number
  | .finite p, .finite q => .ofRat (double (binary p + binary q))
  | .infinity negative, .infinity negative' => if negative = negative' then .infinity negative else .nan
  | .infinity negative, .finite _ | .finite _, .infinity negative => .infinity negative
  | .nan, _ | _, .nan => .nan

/-- `m * n`, rounded to the nearest double. -/
def mul : Number → Number → Number
  | .finite p, .finite q => .ofRat (double (binary p * binary q))
  | .infinity negative, .infinity negative' => .infinity (negative ≠ negative')
  | .infinity negative, .finite q | .finite q, .infinity negative =>
    if q = 0 then .nan else .infinity (negative ≠ decide (q < 0))
  | .nan, _ | _, .nan => .nan

theorem ofRat_finite {p q : Rat} (h : ofRat p = .finite q) : infinite q = false := by
  unfold ofRat at h
  split at h
  · cases h
  · rename_i small
    cases h
    exact Bool.eq_false_iff.mpr small

/-- A sum that is a number is a finite one. -/
theorem add_finite {m n : Number} {q : Rat} (h : m.add n = .finite q) : infinite q = false := by
  unfold add at h
  split at h
  · exact ofRat_finite h
  · split at h <;> cases h
  all_goals cases h

example : (ofRat (1 / 10)).mul (ofRat 3) = ofRat (30000000000000004 / 10 ^ 17) ∧
    (ofRat (10 ^ 308)).mul (ofRat 10) = .infinity false := by
  decide +kernel

end Number

/-- White space and line ends, as `trim` drops them. -/
def isSpace (c : Char) : Bool :=
  c.toNat ∈ [0x9, 0xA, 0xB, 0xC, 0xD, 0x20, 0xA0, 0x1680, 0x2028, 0x2029, 0x202F, 0x205F, 0x3000, 0xFEFF] ||
    (0x2000 ≤ c.toNat && c.toNat ≤ 0x200A)

def trim (cs : List Char) : List Char := ((cs.dropWhile isSpace).reverse.dropWhile isSpace).reverse

/-- Digits of a base up to 16, at least one and nothing else. -/
def radixNumber (base : Nat) (cs : List Char) : Number :=
  match cs.mapM hexValue with
  | some (d :: ds) => if (d :: ds).all (· < base) then .ofRat (double ((d :: ds).foldl (fun n d => base * n + d) 0 : Nat)) else .nan
  | _ => .nan

/-- The digits after the point, if there is one. -/
def decimalFraction : List Char → List Nat × List Char
  | '.' :: cs => takeDigits cs
  | cs => ([], cs)

/-- `d+[.d*]` or `.d+`, with an exponent or not. -/
def decimalNumber (cs : List Char) : Number :=
  let (whole, rest) := takeDigits cs
  let (fraction, rest) := decimalFraction rest
  if whole = [] ∧ fraction = [] then .nan
  else
    match parseExponent rest with
    | some (exponent, []) => .ofRat (double (scientific (whole ++ fraction) (exponent - fraction.length)))
    | _ => .nan

def unsignedNumber (cs : List Char) : Number :=
  if cs = "Infinity".toList then .infinity false else decimalNumber cs

/-- `Number(s)` for a text. -/
def textNumber (s : String) : Number :=
  match trim s.toList with
  | [] => .finite 0
  | '0' :: 'x' :: cs | '0' :: 'X' :: cs => radixNumber 16 cs
  | '0' :: 'o' :: cs | '0' :: 'O' :: cs => radixNumber 8 cs
  | '0' :: 'b' :: cs | '0' :: 'B' :: cs => radixNumber 2 cs
  | '-' :: cs => (unsignedNumber cs).negate
  | '+' :: cs => unsignedNumber cs
  | cs => unsignedNumber cs

/-- `Number(v)`; arrays and objects are read through their text. -/
def toNumber : Option Json → Except JsError Number
  | none => .ok .nan
  | some .null => .ok (.finite 0)
  | some (.bool b) => .ok (.finite (if b then 1 else 0))
  | some (.num q) => .ok (.ofRat q)
  | some (.str s) => .ok (textNumber s)
  | some v => v.toText.map textNumber

@[simp] theorem toNumber_num (q : Rat) : toNumber (some (.num q)) = .ok (.ofRat q) := rfl

end Js
