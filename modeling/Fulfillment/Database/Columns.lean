import Fulfillment.Js.Number

/-! What PostgreSQL refuses to store in a column. The excess of a string over its
length may be blanks; PostgreSQL cuts them off, a row of the model keeps them. -/

namespace Fulfillment

open Js

def columnError : JsError where
  message := "value too long for type character varying"

/-- No text can hold the character U+0000. A lone surrogate becomes U+FFFD on its way. -/
def fitsText (s : String) : Bool := s.toList.all (· ≠ '\u0000')

def fitsVarchar (n : Nat) (s : String) : Bool := (s.toList.drop n).all (· = ' ') && fitsText s

/-- What a column holds of a text that it takes. -/
def storedVarchar (n : Nat) (s : String) : String :=
  String.ofList ((s.toList.take n).map fun c => if c = loneSurrogate then '\uFFFD' else c)

/-- A column by which the row is looked up later: a text that is cut would not be found. -/
def fitsKey (n : Nat) (s : String) : Bool := s.toList.length ≤ n && fitsText s

/-- `JSON.stringify` writes both characters as escapes, which `JSONB` refuses. -/
def fitsJsonbText (s : String) : Bool := s.toList.all fun c => c ≠ '\u0000' && c ≠ loneSurrogate

/-- A number as a `DECIMAL(10, 2)` column stores it: in cents, halves rounded away from zero. -/
def roundCents (q : Rat) : Rat :=
  let cents : Nat := (200 * q.num.natAbs + q.den) / (2 * q.den)
  (if q.num < 0 then -(cents : Rat) else cents) / 100

/-- At most eight digits stand before the point. -/
def fitsDecimal (q : Rat) : Bool := (roundCents q).num.natAbs < 100000000 * (roundCents q).den

/-- The column takes `NaN`, and no infinite number. -/
def storedCents : Number → Number
  | .finite q => .finite (roundCents q)
  | n => n

def fitsCents : Number → Bool
  | .finite q => fitsDecimal q
  | .infinity _ => false
  | .nan => true

example : roundCents (1 / 3) = 33 / 100 ∧ roundCents (-1 / 200) = -1 / 100 := by decide +kernel

def fitsInt (i : Int) : Bool := -2147483648 ≤ i ∧ i ≤ 2147483647

mutual
def fitsJsonb : Json → Bool
  | .null | .bool _ | .num _ => true
  | .str s => fitsJsonbText s
  | .arr xs => elementsFitJsonb xs
  | .obj fs => fieldsFitJsonb fs

def elementsFitJsonb : List Json → Bool
  | [] => true
  | x :: xs => fitsJsonb x && elementsFitJsonb xs

def fieldsFitJsonb : List (String × Json) → Bool
  | [] => true
  | (k, x) :: fs => fitsJsonbText k && fitsJsonb x && fieldsFitJsonb fs
end

theorem elementsFitJsonb_iff {xs : List Json} : elementsFitJsonb xs = true ↔ ∀ x ∈ xs, fitsJsonb x = true := by
  induction xs with
  | nil => simp [elementsFitJsonb]
  | cons x xs ih => simp [elementsFitJsonb, ih]

theorem fieldsFitJsonb_iff {fs : Fields} :
    fieldsFitJsonb fs = true ↔ ∀ f ∈ fs, fitsJsonbText f.1 = true ∧ fitsJsonb f.2 = true := by
  induction fs with
  | nil => simp [fieldsFitJsonb]
  | cons f fs ih =>
    obtain ⟨k, v⟩ := f
    rw [fieldsFitJsonb, List.forall_mem_cons, Bool.and_eq_true, Bool.and_eq_true, ih]

/-- A record fits if its values do. -/
theorem fieldsFitJsonb_record {entries : List (String × Option Json)} :
    fieldsFitJsonb (record entries) = true ↔
      ∀ e ∈ entries, ∀ v, e.2 = some v → fitsJsonbText e.1 = true ∧ fitsJsonb v = true := by
  rw [fieldsFitJsonb_iff]
  simp only [record, List.mem_filterMap, Option.map_eq_some_iff]
  constructor
  · intro h e he v hv
    exact h (e.1, v) ⟨e, he, v, hv, rfl⟩
  · rintro h f ⟨e, he, v, hv, rfl⟩
    exact h e he v hv

end Fulfillment
