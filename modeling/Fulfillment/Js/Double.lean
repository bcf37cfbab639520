import Mathlib

/-!
# Doubles

A number is held as the shortest decimal that reads as it, which is what
`String(x)` prints, and not as its binary value.
-/

namespace Js

/-- The whole number nearest to `n / d`; a half goes to the even one. -/
def roundHalfEven (n d : Nat) : Nat :=
  if d < 2 * (n % d) ∨ (2 * (n % d) = d ∧ n / d % 2 = 1) then n / d + 1 else n / d

/-- `n / d` rounded to a multiple of `b ^ e`. -/
def roundToPower (b n d : Nat) (e : Int) : Rat :=
  let m := roundHalfEven (n * b ^ (-e).toNat) (d * b ^ e.toNat)
  if 0 ≤ e then (m * b ^ e.toNat : Nat) else mkRat m (b ^ (-e).toNat)

/-- The exponent of the last of the 53 bits of `n / d`. Subnormal numbers share the least one. -/
def lastBit (n d : Nat) : Int :=
  let e : Int := n.log2 - d.log2 - 53
  max (-1074) (if n * 2 ^ (-e).toNat < 2 ^ 53 * (d * 2 ^ e.toNat) then e else e + 1)

/-- The binary value nearest to `|q|`, were there no largest one. -/
def nearest (q : Rat) : Rat := roundToPower 2 q.num.natAbs q.den (lastBit q.num.natAbs q.den)

/-- The binary value of the number that `q` is read as. -/
def binary (q : Rat) : Rat := if q < 0 then -nearest q else nearest q

/-- What stands for the number `Infinity`. It is larger than the others, and no whole number. -/
@[irreducible] def infinity : Rat := mkRat (2 ^ 1025 + 1) 2

/-- The decimals nearest to the binary value `x`, of one digit more each. A bit is about
0.301 decimal digits, so the first ones have too few. -/
def decimalsNear (x : Rat) : List Rat :=
  let size : Int := (x.num.natAbs.log2 - x.den.log2) * 1233 / 4096
  (List.range 20).map fun i => roundToPower 10 x.num.natAbs x.den (size + 1 - i)

/-- The size of the number that `q` is read as. -/
def magnitude (q : Rat) : Rat :=
  if 2 ^ 1024 ≤ nearest q then infinity else ((decimalsNear (nearest q)).find? (nearest · = nearest q)).getD |q|

/-- The number that `q` is read as. There is one zero. -/
def double (q : Rat) : Rat := if q < 0 then -magnitude q else magnitude q

example : double 9007199254740993 = 9007199254740992 ∧ double (1 / 10 ^ 400) = 0 ∧ double (-10 ^ 400) = -infinity := by
  decide +kernel

theorem infinity_den : infinity.den = 2 := by decide +kernel

theorem nearest_neg (q : Rat) : nearest (-q) = nearest q := by
  simp only [nearest, Rat.num_neg_eq_neg_num, Int.natAbs_neg, Rat.neg_den]

theorem magnitude_neg (q : Rat) : magnitude (-q) = magnitude q := by
  simp only [magnitude, nearest_neg, abs_neg]

theorem nearest_abs (q : Rat) : nearest |q| = nearest q := by
  rcases abs_choice q with same | opposite
  · rw [same]
  · rw [opposite, nearest_neg]

theorem roundToPower_nonneg (b n d : Nat) (e : Int) : 0 ≤ roundToPower b n d e := by
  unfold roundToPower
  split
  · exact Nat.cast_nonneg _
  · exact Rat.mkRat_nonneg (Int.natCast_nonneg _) _

theorem magnitude_nonneg (q : Rat) : 0 ≤ magnitude q := by
  unfold magnitude
  split
  · decide +kernel
  · cases found : (decimalsNear (nearest q)).find? (nearest · = nearest q) with
    | none => exact abs_nonneg q
    | some c =>
      obtain ⟨i, -, rfl⟩ := List.mem_map.mp (List.mem_of_find?_eq_some found)
      exact roundToPower_nonneg ..

/-- The decimal reads as the same binary value. -/
theorem nearest_magnitude {q : Rat} (bounded : ¬2 ^ 1024 ≤ nearest q) : nearest (magnitude q) = nearest q := by
  rw [magnitude, if_neg bounded]
  cases found : (decimalsNear (nearest q)).find? (nearest · = nearest q) with
  | none => exact nearest_abs q
  | some c =>
    have same := List.find?_some found
    exact of_decide_eq_true same

/-- What is a number already is read as itself. -/
theorem magnitude_magnitude (q : Rat) : magnitude (magnitude q) = magnitude q := by
  by_cases bounded : 2 ^ 1024 ≤ nearest q
  · have large : magnitude q = infinity := if_pos bounded
    rw [large]
    decide +kernel
  · have same := nearest_magnitude bounded
    have read : magnitude (magnitude q) =
        ((decimalsNear (nearest q)).find? (nearest · = nearest q)).getD |magnitude q| := by
      rw [magnitude, same, if_neg bounded]
    rw [read, abs_of_nonneg (magnitude_nonneg q)]
    cases found : (decimalsNear (nearest q)).find? (nearest · = nearest q) with
    | none => rfl
    | some c => rw [magnitude, if_neg bounded, found]; rfl

theorem double_neg (q : Rat) : double (-q) = -double q := by
  unfold double
  rcases lt_trichotomy q 0 with negative | rfl | positive
  · rw [if_neg (by simpa using negative.le), if_pos negative, magnitude_neg, neg_neg]
  · decide +kernel
  · rw [if_pos (by simpa using positive), if_neg (not_lt.mpr positive.le), magnitude_neg]

theorem double_double (q : Rat) : double (double q) = double q := by
  have read (p : Rat) : double (magnitude p) = magnitude p := by
    rw [double, if_neg (not_lt.mpr (magnitude_nonneg p)), magnitude_magnitude]
  rcases lt_or_ge q 0 with negative | nonneg
  · rw [show double q = -magnitude q from if_pos negative, double_neg, read]
  · rw [show double q = magnitude q from if_neg (not_lt.mpr nonneg), read]

/-- A decimal with `k` digits after the point at most. -/
def IsDecimal (q : Rat) : Prop := ∃ k, q.den ∣ 10 ^ k

theorem roundToPower_decimal (n d : Nat) (e : Int) : IsDecimal (roundToPower 10 n d e) := by
  unfold roundToPower
  split
  · exact ⟨0, (Rat.den_natCast _).dvd⟩
  · refine ⟨(-e).toNat, ?_⟩
    rw [Rat.mkRat_eq_divInt]
    exact Int.natCast_dvd_natCast.mp (Rat.den_dvd _ _)

theorem double_decimal {q : Rat} (h : IsDecimal q) : IsDecimal (double q) := by
  have size : IsDecimal (magnitude q) := by
    unfold magnitude
    split
    · exact ⟨1, by decide +kernel⟩
    · cases found : (decimalsNear (nearest q)).find? (nearest · = nearest q) with
      | none =>
        rcases abs_choice q with same | opposite
        · rwa [Option.getD_none, same]
        · rwa [Option.getD_none, opposite, IsDecimal, Rat.neg_den]
      | some c =>
        obtain ⟨i, -, rfl⟩ := List.mem_map.mp (List.mem_of_find?_eq_some found)
        exact roundToPower_decimal ..
  unfold double
  split
  · rwa [IsDecimal, Rat.neg_den]
  · exact size

end Js
