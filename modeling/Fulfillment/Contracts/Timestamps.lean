import Fulfillment.Contracts.Envelope
import Fulfillment.Js.Date

/-! What the clock writes until the year 9999 is a datetime. -/

namespace Js

theorem padLeft_chars {width n : Nat} (hw : 0 < width) (hn : n < 10 ^ width) :
    (padLeft width n).toList.length = width ∧ ∀ c ∈ (padLeft width n).toList, c.isDigit = true := by
  have short : (Nat.toDigits 10 n).length ≤ width := (Nat.length_toDigits_le_iff (by omega) hw).mpr hn
  have written : (padLeft width n).toList =
      List.replicate (width - (Nat.toDigits 10 n).length) '0' ++ Nat.toDigits 10 n := by
    simp [padLeft, Nat.repr_eq_ofList_toDigits]
  rw [written]
  constructor
  · simp only [List.length_append, List.length_replicate]
    omega
  · intro c hc
    rcases List.mem_append.mp hc with padding | digit
    · rw [List.eq_of_mem_replicate padding]
      rfl
    · exact Nat.isDigit_of_mem_toDigits (by omega) (by omega) digit

/-- Four digits hold the year of a date from 1970 to 9998, and two its month and day. -/
theorem civilFromDays_bounds {days : Int} (low : 0 ≤ days) (high : days < 2932532) :
    0 ≤ (civilFromDays days).1 ∧ (civilFromDays days).1 ≤ 9999 ∧ (civilFromDays days).2.1 < 100 ∧
      (civilFromDays days).2.2 < 100 := by
  simp only [civilFromDays]
  generalize hz : days + 719468 = z
  generalize hera : z / 146097 = era
  generalize hdoe : (z % 146097).toNat = doe
  generalize hyoe : (doe - doe / 1460 + doe / 36524 - doe / 146096) / 365 = yoe
  generalize hdoy : doe - (365 * yoe + yoe / 4 - yoe / 100) = doy
  generalize hmp : (5 * doy + 2) / 153 = mp
  have era_bounds : 0 ≤ era ∧ era ≤ 24 := by omega
  have doe_bound : doe < 146097 := by omega
  have yoe_bound : yoe ≤ 399 := by omega
  have last_era : era = 24 → yoe ≤ 398 := by omega
  have doy_bound : doy < 1000 := by omega
  have month_bound : (if mp < 10 then mp + 3 else mp - 9) < 100 := by split <;> omega
  have day_bound : doy - (153 * mp + 2) / 5 + 1 < 100 := by omega
  have year_bounds : 0 ≤ Int.ofNat yoe + era * 400 ∧ Int.ofNat yoe + era * 400 ≤ 9998 := by
    simp only [Int.ofNat_eq_natCast]
    omega
  refine ⟨?_, ?_, month_bound, day_bound⟩
  · split <;> omega
  · split <;> omega

end Js

namespace Fulfillment

open Js

theorem matchesPattern_append {ps cs : List Char} (h : matchesPattern ps cs = some []) (qs ds : List Char) :
    matchesPattern (ps ++ qs) (cs ++ ds) = matchesPattern qs ds := by
  induction ps generalizing cs with
  | nil =>
    cases h
    rfl
  | cons p ps ih =>
    cases cs with
    | nil => cases h
    | cons c cs =>
      simp only [matchesPattern, List.cons_append] at h ⊢
      by_cases fits : if p = 'd' then '0' ≤ c ∧ c ≤ '9' else c = p
      · rw [if_pos fits] at h ⊢
        exact ih h
      · rw [if_neg fits] at h
        cases h

theorem digits_match {width : Nat} {cs : List Char} (length : cs.length = width) (digits : ∀ c ∈ cs, c.isDigit = true) :
    matchesPattern (List.replicate width 'd') cs = some [] := by
  induction cs generalizing width with
  | nil =>
    subst length
    rfl
  | cons c cs ih =>
    subst length
    have digit := digits c List.mem_cons_self
    have fits : if 'd' = 'd' then '0' ≤ c ∧ c ≤ '9' else c = 'd' := by
      simp only [Char.isDigit, Bool.and_eq_true, decide_eq_true_eq] at digit
      exact digit
    rw [List.length_cons, List.replicate_succ, matchesPattern, if_pos fits]
    exact ih rfl fun x hx => digits x (List.mem_cons_of_mem _ hx)

theorem padLeft_matches {width n : Nat} (hw : 0 < width) (hn : n < 10 ^ width) (qs ds : List Char) :
    matchesPattern (List.replicate width 'd' ++ qs) ((padLeft width n).toList ++ ds) = matchesPattern qs ds := by
  obtain ⟨length, digits⟩ := padLeft_chars hw hn
  exact matchesPattern_append (digits_match length digits) qs ds

theorem char_matches (c : Char) (hc : c ≠ 'd') (qs ds : List Char) :
    matchesPattern (c :: qs) (c :: ds) = matchesPattern qs ds := by
  have fits : if c = 'd' then '0' ≤ c ∧ c ≤ '9' else c = c := by
    rw [if_neg hc]
  rw [matchesPattern, if_pos fits]

/-- An instant from 1970 until the year 9999. -/
def Instant (ms : Int) : Prop := 0 ≤ ms ∧ ms < 253370764800000

theorem startsLikeDatetime_toISOString {ms : Int} (h : Instant ms) : startsLikeDatetime (toISOString ms) = true := by
  obtain ⟨low, high⟩ := h
  obtain ⟨year_low, year_high, month, day⟩ := @civilFromDays_bounds (ms / 86400000) (by omega) (by omega)
  generalize hdate : civilFromDays (ms / 86400000) = date at year_low year_high month day
  obtain ⟨y, m, d⟩ := date
  have written : "dddd-dd-ddTdd:dd:dd".toList =
      List.replicate 4 'd' ++ ('-' :: (List.replicate 2 'd' ++ ('-' :: (List.replicate 2 'd' ++ ('T' ::
        (List.replicate 2 'd' ++ (':' :: (List.replicate 2 'd' ++ (':' :: (List.replicate 2 'd' ++ [])))))))))) := by
    decide
  have hy : y.toNat < 10 ^ 4 := by
    simp only at year_low year_high
    omega
  have hm : m < 10 ^ 2 := month
  have hd : d < 10 ^ 2 := day
  have hours : (ms % 86400000).toNat / 3600000 < 10 ^ 2 := by omega
  have minutes : (ms % 86400000).toNat / 60000 % 60 < 10 ^ 2 := by omega
  have seconds : (ms % 86400000).toNat / 1000 % 60 < 10 ^ 2 := by omega
  have dash : "-".toList = ['-'] := rfl
  have letter : "T".toList = ['T'] := rfl
  have colon : ":".toList = [':'] := rfl
  rw [startsLikeDatetime, written]
  simp only [toISOString, hdate, if_pos (And.intro year_low year_high), String.toList_append, List.append_assoc, dash,
    letter, colon, List.cons_append, List.nil_append]
  rw [padLeft_matches (by decide) hy, char_matches _ (by decide), padLeft_matches (by decide) hm,
    char_matches _ (by decide), padLeft_matches (by decide) hd, char_matches _ (by decide),
    padLeft_matches (by decide) hours, char_matches _ (by decide), padLeft_matches (by decide) minutes,
    char_matches _ (by decide), padLeft_matches (by decide) seconds]
  rfl

theorem datetimeField_toISOString {ms : Int} (h : Instant ms) :
    datetimeField (some (.str (toISOString ms))) = some (toISOString ms) := by
  simp [datetimeField, startsLikeDatetime_toISOString h]

end Fulfillment
