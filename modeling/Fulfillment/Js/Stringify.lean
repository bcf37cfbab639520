import Fulfillment.Js.JsonText
import Mathlib

/-!
# `JSON.stringify`

`JSON.parse` reads back what is written of a value that JavaScript can hold, but
for its infinite numbers, and every value that it reads is one.
-/

namespace Js

/-- Every lone surrogate is written like the first of the low ones, which pairs with none before it. -/
def quoteChar (c : Char) : List Char :=
  if c = '"' then ['\\', '"']
  else if c = '\\' then ['\\', '\\']
  else if c = '\n' then ['\\', 'n']
  else if c = '\r' then ['\\', 'r']
  else if c = '\t' then ['\\', 't']
  else if c = Char.ofNat 8 then ['\\', 'b']
  else if c = Char.ofNat 12 then ['\\', 'f']
  else if c.toNat < 0x20 then ['\\', 'u', '0', '0', Nat.digitChar (c.toNat / 16), Nat.digitChar (c.toNat % 16)]
  else if c = loneSurrogate then ['\\', 'u', 'd', 'c', '0', '0']
  else [c]

def quote (s : String) : List Char := '"' :: s.toList.flatMap quoteChar ++ ['"']

mutual
def Json.write : Json → List Char
  | .null => ['n', 'u', 'l', 'l']
  | .bool true => ['t', 'r', 'u', 'e']
  | .bool false => ['f', 'a', 'l', 's', 'e']
  | .num q => if infinite q then ['n', 'u', 'l', 'l'] else (decimalText q).toList
  | .str s => quote s
  | .arr [] => ['[', ']']
  | .arr (x :: xs) => '[' :: x.write ++ writeElements xs
  | .obj [] => ['{', '}']
  | .obj ((k, v) :: fs) => '{' :: quote k ++ ':' :: v.write ++ writeMembers fs

/-- The elements after the first one, and the end of the array. -/
def writeElements : List Json → List Char
  | [] => [']']
  | x :: xs => ',' :: x.write ++ writeElements xs

def writeMembers : List (String × Json) → List Char
  | [] => ['}']
  | (k, v) :: fs => ',' :: quote k ++ ':' :: v.write ++ writeMembers fs
end

/-- `JSON.stringify(v)`. -/
def Json.stringify (v : Json) : String := String.ofList v.write

mutual
/-- Numbers are doubles, and objects have no key twice. -/
def Json.Writable : Json → Prop
  | .null | .bool _ | .str _ => True
  | .num q => IsDecimal q ∧ double q = q
  | .arr xs => WritableElements xs
  | .obj fs => (fs.map Prod.fst).Nodup ∧ WritableMembers fs

def WritableElements : List Json → Prop
  | [] => True
  | x :: xs => x.Writable ∧ WritableElements xs

def WritableMembers : List (String × Json) → Prop
  | [] => True
  | (_, v) :: fs => v.Writable ∧ WritableMembers fs
end

/-! ## Strings -/

theorem hex4_digitChar : ∀ n < 32, hex4 '0' '0' (Nat.digitChar (n / 16)) (Nat.digitChar (n % 16)) = some n := by
  decide

/-- The unit that a character is written as. -/
def charUnit (c : Char) : Nat := if c = loneSurrogate then 0xDC00 else c.toNat

theorem scanString_quoteChar (c : Char) (cs : List Char) :
    scanString (quoteChar c ++ cs) = (scanString cs).map fun r => (charUnit c :: r.1, r.2) := by
  have pass : ∀ (n : Nat) (o : Option (List Nat × List Char)),
      (o.bind fun r => some (n :: r.1, r.2)) = o.map fun r => (n :: r.1, r.2) := by
    intro n o
    cases o <;> rfl
  have escaped {d : Char} {cs' : List Char} (plain : d ≠ loneSurrogate)
      (scans : scanString cs' = (scanString cs).bind fun r => some (d.toNat :: r.1, r.2)) :
      scanString cs' = (scanString cs).map fun r => (charUnit d :: r.1, r.2) := by
    rw [scans, pass, charUnit, if_neg plain]
  unfold quoteChar
  split_ifs with h1 h2 h3 h4 h5 h6 h7 h8 h9
  · subst h1
    exact escaped (by decide) (by simp [scanString, simpleEscape])
  · subst h2
    exact escaped (by decide) (by simp [scanString, simpleEscape])
  · subst h3
    exact escaped (by decide) (by simp [scanString, simpleEscape])
  · subst h4
    exact escaped (by decide) (by simp [scanString, simpleEscape])
  · subst h5
    exact escaped (by decide) (by simp [scanString, simpleEscape])
  · subst h6
    exact escaped (by decide) (by simp [scanString, simpleEscape])
  · subst h7
    exact escaped (by decide) (by simp [scanString, simpleEscape])
  · have plain : c ≠ loneSurrogate := by
      rintro rfl
      exact absurd h8 (by decide)
    exact escaped plain (by simp [scanString, hex4_digitChar _ h8])
  · rw [charUnit, if_pos h9, ← pass]
    simp only [List.cons_append, List.nil_append, scanString]
    rfl
  · exact escaped h9 (by simp [scanString, h2, h8])

theorem scanString_quote (cs rest : List Char) :
    scanString (cs.flatMap quoteChar ++ '"' :: rest) = some (cs.map charUnit, rest) := by
  induction cs with
  | nil => rfl
  | cons c cs ih => rw [List.flatMap_cons, List.append_assoc, scanString_quoteChar, ih, Option.map_some, List.map_cons]

/-- No character is written as the first unit of a pair. -/
theorem charUnit_unpaired (c : Char) : ¬(0xD800 ≤ charUnit c ∧ charUnit c < 0xDC00) := by
  have valid : c.toNat < 0xD800 ∨ (0xDFFF < c.toNat ∧ c.toNat < 0x110000) := c.valid
  unfold charUnit
  split
  · omega
  · omega

theorem unitChar_charUnit (c : Char) : unitChar (charUnit c) = c := by
  have valid : c.toNat < 0xD800 ∨ (0xDFFF < c.toNat ∧ c.toNat < 0x110000) := c.valid
  by_cases lone : c = loneSurrogate
  · rw [charUnit, if_pos lone, lone]
    rfl
  · have kept : ¬(0xD800 ≤ c.toNat ∧ c.toNat < 0xE000) := by omega
    rw [charUnit, if_neg lone, unitChar, if_neg kept, Char.ofNat_toNat, textChar, if_neg lone]

theorem joinUnits_map (cs : List Char) : joinUnits (cs.map charUnit) = cs := by
  induction cs with
  | nil => rfl
  | cons c cs ih =>
    cases cs with
    | nil => simp [joinUnits, unitChar_charUnit]
    | cons d ds =>
      have unpaired : ¬(0xD800 ≤ charUnit c ∧ charUnit c < 0xDC00 ∧ 0xDC00 ≤ charUnit d ∧ charUnit d < 0xE000) :=
        fun h => charUnit_unpaired c ⟨h.1, h.2.1⟩
      rw [List.map_cons, List.map_cons, joinUnits, if_neg unpaired, unitChar_charUnit, ← List.map_cons, ih]

theorem quote_append (s : String) (rest : List Char) :
    quote s ++ rest = '"' :: (s.toList.flatMap quoteChar ++ '"' :: rest) := by
  simp [quote]

theorem parseString_quote (s : String) (rest : List Char) :
    parseString (s.toList.flatMap quoteChar ++ '"' :: rest) = some (s, rest) := by
  simp [parseString, scanString_quote, joinUnits_map]

/-! ## Numbers -/

/-- The digits are those of a number below ten each. -/
def IsDigits (ds : List Nat) (cs : List Char) : Prop := cs = ds.map Nat.digitChar ∧ ∀ d ∈ ds, d < 10

/-- What follows a value: nothing, or a sign of its array or object. -/
def Ends (rest : List Char) : Prop := ∀ c ∈ rest.head?, c = ',' ∨ c = ']' ∨ c = '}'

theorem digitChar_digit {d : Nat} (h : d < 10) :
    ('0' ≤ Nat.digitChar d ∧ Nat.digitChar d ≤ '9') ∧ (Nat.digitChar d).toNat - '0'.toNat = d := by
  revert d
  decide

theorem takeDigits_append {ds : List Nat} {cs rest : List Char} (h : IsDigits ds cs)
    (stops : ∀ c ∈ rest.head?, ¬('0' ≤ c ∧ c ≤ '9')) : takeDigits (cs ++ rest) = (ds, rest) := by
  obtain ⟨rfl, small⟩ := h
  induction ds with
  | nil =>
    cases rest with
    | nil => rfl
    | cons c rest => simp only [List.map_nil, List.nil_append, takeDigits, if_neg (stops c rfl)]
  | cons d ds ih =>
    obtain ⟨digit, value⟩ := digitChar_digit (small d List.mem_cons_self)
    have tail := ih fun d' hd' => small d' (List.mem_cons_of_mem _ hd')
    simp only [List.map_cons, List.cons_append, takeDigits, if_pos digit, value, tail]

theorem ofDigits_append (ds es : List Nat) : ofDigits (ds ++ es) = ofDigits ds * 10 ^ es.length + ofDigits es := by
  have start : ∀ (es : List Nat) n, es.foldl (fun n d => 10 * n + d) n = n * 10 ^ es.length + ofDigits es := by
    intro es
    induction es with
    | nil => simp [ofDigits]
    | cons e es ih =>
      intro n
      rw [ofDigits, List.foldl_cons, List.foldl_cons, ih, ih (10 * 0 + e), List.length_cons]
      ring
  rw [ofDigits, List.foldl_append, start]
  rfl

/-- The digits of a natural number. -/
theorem toDigits_digits (n : Nat) : ∃ ds, IsDigits ds (Nat.toDigits 10 n) ∧ ofDigits ds = n ∧ ds ≠ [] ∧
    (ds.head? = some 0 → ds = [0]) := by
  induction n using Nat.strong_induction_on with
  | _ n ih =>
    by_cases small : n < 10
    · refine ⟨[n], ⟨Nat.toDigits_of_lt_base small, by simpa⟩, by simp [ofDigits], by simp, ?_⟩
      intro zero
      cases zero
      rfl
    · obtain ⟨ds, ⟨written, below⟩, value, nonempty, leading⟩ := ih (n / 10) (by omega)
      have last : n % 10 < 10 := Nat.mod_lt n (by omega)
      refine ⟨ds ++ [n % 10], ⟨?_, ?_⟩, ?_, by simp, ?_⟩
      · rw [Nat.toDigits_of_base_le (by omega) (by omega), written, List.map_append, List.map_singleton]
      · intro d hd
        rcases List.mem_append.mp hd with hd | hd
        · exact below d hd
        · rwa [List.mem_singleton.mp hd]
      · rw [ofDigits_append, value]
        simp only [ofDigits, List.length_singleton, List.foldl_cons, List.foldl_nil]
        omega
      · intro zero
        rw [List.head?_append_of_ne_nil _ nonempty] at zero
        rw [leading zero] at value
        simp only [ofDigits, List.foldl_cons, List.foldl_nil] at value
        omega

/-- A fraction that ends is written to its end. -/
theorem fractionDigits_digits {fuel r d : Nat} (h : r < d) (ends : d ∣ r * 10 ^ fuel) :
    ∃ ds, IsDigits ds (fractionDigits fuel r d) ∧ ofDigits ds * d = r * 10 ^ ds.length := by
  induction fuel generalizing r with
  | zero =>
    have zero : r = 0 := Nat.eq_zero_of_dvd_of_lt (by simpa using ends) h
    exact ⟨[], ⟨rfl, by simp⟩, by simp [ofDigits, zero]⟩
  | succ fuel ih =>
    by_cases zero : r = 0
    · exact ⟨[], ⟨by simp [fractionDigits, zero], by simp⟩, by simp [ofDigits, zero]⟩
    · have positive : 0 < d := by omega
      have split := Nat.div_add_mod (10 * r) d
      have ends' : d ∣ 10 * r % d * 10 ^ fuel := by
        have whole : r * 10 ^ (fuel + 1) = d * (10 * r / d * 10 ^ fuel) + 10 * r % d * 10 ^ fuel := by
          calc r * 10 ^ (fuel + 1) = 10 * r * 10 ^ fuel := by ring
            _ = (d * (10 * r / d) + 10 * r % d) * 10 ^ fuel := by rw [split]
            _ = _ := by ring
        rw [whole] at ends
        exact (Nat.dvd_add_right (Nat.dvd_mul_right _ _)).mp ends
      obtain ⟨ds, ⟨written, below⟩, value⟩ := ih (Nat.mod_lt _ positive) ends'
      have digit : 10 * r / d < 10 := Nat.div_lt_of_lt_mul (by omega)
      refine ⟨10 * r / d :: ds, ⟨?_, ?_⟩, ?_⟩
      · rw [fractionDigits, if_neg zero, written, List.map_cons]
      · intro d' hd'
        rcases List.mem_cons.mp hd' with rfl | hd'
        · exact digit
        · exact below d' hd'
      · rw [← List.singleton_append, ofDigits_append, add_mul, value, List.length_append, List.length_singleton]
        simp only [ofDigits, List.foldl_cons, List.foldl_nil]
        calc (10 * 0 + 10 * r / d) * 10 ^ ds.length * d + 10 * r % d * 10 ^ ds.length
            = (d * (10 * r / d) + 10 * r % d) * 10 ^ ds.length := by ring
          _ = 10 * r * 10 ^ ds.length := by rw [split]
          _ = r * 10 ^ (1 + ds.length) := by ring

/-- Ten to the power of the denominator is enough. -/
theorem dvd_pow_self_of_dvd_pow {d k : Nat} (h : d ∣ 10 ^ k) : d ∣ 10 ^ d := by
  have split : d ∣ 2 ^ k * 5 ^ k := by rwa [← mul_pow]
  obtain ⟨y, z, hy, hz, rfl⟩ := (Nat.dvd_mul).mp split
  obtain ⟨a, -, rfl⟩ := (Nat.dvd_prime_pow Nat.prime_two).mp hy
  obtain ⟨b, -, rfl⟩ := (Nat.dvd_prime_pow Nat.prime_five).mp hz
  have ha : a ≤ 2 ^ a * 5 ^ b :=
    Nat.lt_two_pow_self.le.trans (Nat.le_mul_of_pos_right _ (Nat.pow_pos (by decide)))
  have hb : b ≤ 2 ^ a * 5 ^ b :=
    (Nat.lt_pow_self (by decide)).le.trans (Nat.le_mul_of_pos_left _ (Nat.pow_pos (by decide)))
  calc 2 ^ a * 5 ^ b ∣ 2 ^ (2 ^ a * 5 ^ b) * 5 ^ (2 ^ a * 5 ^ b) := Nat.mul_dvd_mul (pow_dvd_pow 2 ha) (pow_dvd_pow 5 hb)
    _ = 10 ^ (2 ^ a * 5 ^ b) := (mul_pow 2 5 _).symm

mutual
def Json.decWritable : (v : Json) → Decidable v.Writable
  | .null | .bool _ | .str _ => isTrue trivial
  | .num q =>
    have : Decidable (IsDecimal q) :=
      decidable_of_iff (q.den ∣ 10 ^ q.den) ⟨fun h => ⟨_, h⟩, fun ⟨_, h⟩ => dvd_pow_self_of_dvd_pow h⟩
    inferInstanceAs (Decidable (_ ∧ _))
  | .arr xs => decWritableElements xs
  | .obj fs =>
    have := decWritableMembers fs
    inferInstanceAs (Decidable (_ ∧ _))

def decWritableElements : (xs : List Json) → Decidable (WritableElements xs)
  | [] => isTrue trivial
  | x :: xs =>
    have := x.decWritable
    have := decWritableElements xs
    inferInstanceAs (Decidable (_ ∧ _))

def decWritableMembers : (fs : List (String × Json)) → Decidable (WritableMembers fs)
  | [] => isTrue trivial
  | (_, v) :: fs =>
    have := v.decWritable
    have := decWritableMembers fs
    inferInstanceAs (Decidable (_ ∧ _))
end

instance (v : Json) : Decidable v.Writable := v.decWritable

theorem Ends.not_digit {rest : List Char} (h : Ends rest) : ∀ c ∈ rest.head?, ¬('0' ≤ c ∧ c ≤ '9') := by
  intro c hc
  rcases h c hc with rfl | rfl | rfl <;> decide

theorem parseExponent_ends {rest : List Char} (h : Ends rest) : parseExponent rest = some (0, rest) := by
  cases rest with
  | nil => rfl
  | cons c rest => rcases h c rfl with rfl | rfl | rfl <;> rfl

/-- A whole part and a fraction, as they are written. -/
theorem parseUnsigned_digits {whole fraction : List Nat} {cs fs rest : List Char} (digits : IsDigits whole cs)
    (nonempty : whole ≠ []) (leading : whole.head? = some 0 → whole = [0]) (decimals : IsDigits fraction fs)
    (ends : Ends rest) :
    parseUnsigned (cs ++ (if fs = [] then [] else '.' :: fs) ++ rest) =
      some (double ((ofDigits (whole ++ fraction) : Rat) / 10 ^ fraction.length), rest) := by
  have exact : scientific (whole ++ fraction) (0 - fraction.length) =
      (ofDigits (whole ++ fraction) : Rat) / 10 ^ fraction.length := by
    unfold scientific
    split
    · have empty : fraction.length = 0 := by omega
      simp [empty]
    · simp
  have accepted : ¬(whole = [] ∨ (whole.head? = some 0 ∧ whole.length ≠ 1)) := by
    rintro (empty | ⟨zero, long⟩)
    · exact nonempty empty
    · rw [leading zero] at long
      exact long rfl
  rw [parseUnsigned, List.append_assoc]
  by_cases none : fraction = []
  · have unwritten : fs = [] := by rw [decimals.1, none, List.map_nil]
    have stops : parseFraction rest = some ([], rest) := by
      cases rest with
      | nil => rfl
      | cons c rest => rcases ends c rfl with rfl | rfl | rfl <;> rfl
    rw [if_pos unwritten, List.nil_append, takeDigits_append digits ends.not_digit]
    subst none
    simpa [accepted, stops, parseExponent_ends ends] using congrArg double exact
  · have written : fs ≠ [] := by simpa [decimals.1] using none
    have point : ∀ c ∈ ('.' :: (fs ++ rest)).head?, ¬('0' ≤ c ∧ c ≤ '9') := by
      rintro c ⟨⟩
      decide
    have fractional : parseFraction ('.' :: (fs ++ rest)) = some (fraction, rest) := by
      simp only [parseFraction, takeDigits_append decimals ends.not_digit]
    rw [if_neg written, List.cons_append, takeDigits_append digits point]
    simpa [accepted, fractional, parseExponent_ends ends] using congrArg double exact

/-- The text of `r / d`. -/
def unsignedText (r d : Nat) : List Char :=
  Nat.toDigits 10 (r / d) ++
    if fractionDigits d (r % d) d = [] then [] else '.' :: fractionDigits d (r % d) d

theorem decimalText_toList (q : Rat) :
    (decimalText q).toList = (if q.num < 0 then ['-'] else []) ++ unsignedText q.num.natAbs q.den := by
  rw [decimalText, unsignedText, Nat.toString_eq_ofList_toDigits]
  split_ifs <;> simp

theorem unsignedText_head (r d : Nat) : ∃ c cs, unsignedText r d = Nat.digitChar c :: cs ∧ c < 10 := by
  obtain ⟨digits, ⟨written, below⟩, -, nonempty, -⟩ := toDigits_digits (r / d)
  cases digits with
  | nil => exact absurd rfl nonempty
  | cons c cs =>
    rw [unsignedText, written]
    exact ⟨c, _, rfl, below c List.mem_cons_self⟩

theorem parseUnsigned_text {r d k : Nat} (positive : 0 < d) (decimal : d ∣ 10 ^ k) {rest : List Char} (ends : Ends rest) :
    parseUnsigned (unsignedText r d ++ rest) = some (double ((r : Rat) / d), rest) := by
  obtain ⟨whole, digits, value, nonempty, leading⟩ := toDigits_digits (r / d)
  obtain ⟨fraction, decimals, part⟩ := fractionDigits_digits (Nat.mod_lt r positive)
    (Dvd.dvd.mul_left (dvd_pow_self_of_dvd_pow decimal) _)
  have amount : (ofDigits (whole ++ fraction) : Rat) / 10 ^ fraction.length = r / d := by
    rw [div_eq_div_iff (pow_ne_zero _ (by decide)) (Nat.cast_ne_zero.mpr positive.ne'), ofDigits_append, value]
    have split := Nat.div_add_mod r d
    norm_cast
    calc (r / d * 10 ^ fraction.length + ofDigits fraction) * d
        = r / d * 10 ^ fraction.length * d + ofDigits fraction * d := by ring
      _ = (d * (r / d) + r % d) * 10 ^ fraction.length := by rw [part]; ring
      _ = r * 10 ^ fraction.length := by rw [split]
  rw [unsignedText, parseUnsigned_digits digits nonempty leading decimals ends, amount]

/-- The text of a number that JavaScript can hold is read as that number. -/
theorem parseNumber_decimalText {q : Rat} (decimal : IsDecimal q) (held : double q = q) {rest : List Char}
    (ends : Ends rest) : parseNumber ((decimalText q).toList ++ rest) = some (q, rest) := by
  obtain ⟨k, decimal⟩ := decimal
  have read := parseUnsigned_text (r := q.num.natAbs) q.den_pos decimal ends
  have exact : (q.num : Rat) / q.den = q := Rat.num_div_den q
  rw [decimalText_toList]
  by_cases negative : q.num < 0
  · have sign : (q.num.natAbs : Rat) / q.den = -q := by
      rw [← Int.cast_natCast, Int.ofNat_natAbs_of_nonpos negative.le, Int.cast_neg, neg_div, exact]
    rw [if_pos negative, List.append_assoc, List.singleton_append, parseNumber, read, sign, double_neg, held]
    simp
  · have sign : (q.num.natAbs : Rat) / q.den = q := by
      rw [← Int.cast_natCast, Int.natAbs_of_nonneg (by omega), exact]
    obtain ⟨c, cs, head, small⟩ := unsignedText_head q.num.natAbs q.den
    rw [if_neg negative, List.nil_append, parseNumber, read, sign, held]
    intro cs' minus
    rw [head, List.cons_append, List.cons.injEq] at minus
    obtain ⟨⟨digit, -⟩, -⟩ := digitChar_digit small
    rw [minus.1] at digit
    exact absurd digit (by decide)

/-! ## Values -/

/-- A character that a value starts with. -/
def Opens (c : Char) : Prop := ¬(c = ' ' ∨ c = '\t' ∨ c = '\n' ∨ c = '\r') ∧ c ≠ ']' ∧ c ≠ '}'

instance (c : Char) : Decidable (Opens c) := inferInstanceAs (Decidable (_ ∧ _))

theorem skipSpace_of_opens {c : Char} (h : Opens c) (cs : List Char) : skipSpace (c :: cs) = c :: cs := if_neg h.1

theorem decimalText_opens (q : Rat) : ∃ c cs, (decimalText q).toList = c :: cs ∧ Opens c ∧
    c ≠ 'n' ∧ c ≠ 't' ∧ c ≠ 'f' ∧ c ≠ '"' ∧ c ≠ '[' ∧ c ≠ '{' := by
  rw [decimalText_toList]
  by_cases negative : q.num < 0
  · rw [if_pos negative]
    exact ⟨'-', _, rfl, by decide, by decide, by decide, by decide, by decide, by decide, by decide⟩
  · obtain ⟨d, cs, head, small⟩ := unsignedText_head q.num.natAbs q.den
    rw [if_neg negative, head]
    refine ⟨_, cs, rfl, ?_⟩
    clear head
    revert d
    decide

theorem write_opens (v : Json) : ∃ c cs, v.write = c :: cs ∧ Opens c := by
  cases v with
  | null => exact ⟨_, _, rfl, by decide⟩
  | bool b => cases b <;> exact ⟨_, _, rfl, by decide⟩
  | num q =>
    rw [Json.write]
    split
    · exact ⟨_, _, rfl, by decide⟩
    · obtain ⟨c, cs, head, opens, -⟩ := decimalText_opens q
      exact ⟨c, cs, head, opens⟩
  | str s => exact ⟨_, _, rfl, by decide⟩
  | arr xs => cases xs <;> exact ⟨_, _, rfl, by decide⟩
  | obj fs => cases fs <;> exact ⟨_, _, rfl, by decide⟩

theorem write_length_pos (v : Json) : 0 < v.write.length := by
  obtain ⟨c, cs, head, -⟩ := write_opens v
  rw [head]
  exact Nat.succ_pos _

theorem parseValue_number {fuel : Nat} {q : Rat} (h : (Json.num q).Writable) {rest : List Char} (ends : Ends rest) :
    parseValue (fuel + 1) ((decimalText q).toList ++ rest) = some (.num q, rest) := by
  obtain ⟨c, cs, head, opens, n, t, f, quoted, array, object⟩ := decimalText_opens q
  have read := parseNumber_decimalText h.1 h.2 ends
  rw [head, List.cons_append] at read ⊢
  rw [parseValue, skipSpace_of_opens opens]
  simp [n, t, f, quoted, array, object, read]

theorem parseValue_array {fuel : Nat} {x : Json} {xs ys : List Json} {rest : List Char}
    (h : parseElements fuel (x.write ++ (writeElements xs ++ rest)) = some (ys, rest)) :
    parseValue (fuel + 1) ((Json.arr (x :: xs)).write ++ rest) = some (.arr ys, rest) := by
  have text : (Json.arr (x :: xs)).write ++ rest = '[' :: (x.write ++ (writeElements xs ++ rest)) := by
    simp [Json.write]
  obtain ⟨c, cs, head, opens⟩ := write_opens x
  rw [head, List.cons_append] at text h
  rw [text, parseValue, skipSpace_of_opens (by decide)]
  simp [skipSpace_of_opens opens, opens.2.1, h]

theorem parseElements_last {fuel : Nat} {x y : Json} {rest : List Char}
    (h : parseValue fuel (x.write ++ ']' :: rest) = some (y, ']' :: rest)) :
    parseElements (fuel + 1) (x.write ++ ']' :: rest) = some ([y], rest) := by
  rw [parseElements, h]
  rfl

theorem parseElements_more {fuel : Nat} {x y : Json} {ys : List Json} {more rest : List Char}
    (h : parseValue fuel (x.write ++ ',' :: more) = some (y, ',' :: more))
    (others : parseElements fuel more = some (ys, rest)) :
    parseElements (fuel + 1) (x.write ++ ',' :: more) = some (y :: ys, rest) := by
  rw [parseElements, h]
  simp [skipSpace, others]

theorem Fields.set_append {fs : Fields} {k : String} {v : Json} (h : k ∉ fs.map Prod.fst) : fs.set k v = fs ++ [(k, v)] := by
  induction fs with
  | nil => rfl
  | cons f fs ih =>
    obtain ⟨other, absent⟩ := not_or.mp (List.mem_cons.not.mp h)
    rw [Fields.set, if_neg (Ne.symm other), ih absent, List.cons_append]

theorem parseValue_object {fuel : Nat} {k : String} {v : Json} {fs read : Fields} {rest : List Char}
    (h : parseMembers fuel (quote k ++ ':' :: (v.write ++ (writeMembers fs ++ rest))) [] = some (read, rest)) :
    parseValue (fuel + 1) ((Json.obj ((k, v) :: fs)).write ++ rest) = some (.obj read, rest) := by
  have text : (Json.obj ((k, v) :: fs)).write ++ rest =
      '{' :: (quote k ++ ':' :: (v.write ++ (writeMembers fs ++ rest))) := by
    simp [Json.write]
  rw [quote_append] at text h
  rw [text, parseValue, skipSpace_of_opens (by decide)]
  simp [skipSpace_of_opens (c := '"') (by decide), h]

theorem parseMembers_last {fuel : Nat} {k : String} {v w : Json} {rest : List Char} (fs : Fields)
    (h : parseValue fuel (v.write ++ '}' :: rest) = some (w, '}' :: rest)) :
    parseMembers (fuel + 1) (quote k ++ ':' :: (v.write ++ '}' :: rest)) fs = some (fs.set k w, rest) := by
  rw [quote_append, parseMembers, skipSpace_of_opens (by decide)]
  simp [parseString_quote, skipSpace, h]

theorem parseMembers_more {fuel : Nat} {k : String} {v w : Json} {more rest : List Char} {fs fs' : Fields}
    (h : parseValue fuel (v.write ++ ',' :: more) = some (w, ',' :: more))
    (others : parseMembers fuel more (fs.set k w) = some (fs', rest)) :
    parseMembers (fuel + 1) (quote k ++ ':' :: (v.write ++ ',' :: more)) fs = some (fs', rest) := by
  rw [quote_append, parseMembers, skipSpace_of_opens (by decide)]
  simp [parseString_quote, skipSpace, h, others]

theorem ends_cons {c : Char} (rest : List Char) (h : c = ',' ∨ c = ']' ∨ c = '}') : Ends (c :: rest) := by
  rintro c' ⟨⟩
  exact h

/-- What is written is read back, whatever follows it. -/
theorem parse_write (fuel : Nat) :
    (∀ (v : Json) (rest : List Char), v.Writable → v.write.length ≤ fuel → Ends rest →
      parseValue fuel (v.write ++ rest) = some (v.written, rest)) ∧
    (∀ (x : Json) (xs : List Json) (rest : List Char), x.Writable → WritableElements xs →
      x.write.length + (writeElements xs).length ≤ fuel →
      parseElements fuel (x.write ++ (writeElements xs ++ rest)) = some (writtenElements (x :: xs), rest)) ∧
    ∀ (k : String) (v : Json) (fs before : Fields) (rest : List Char), v.Writable → WritableMembers fs →
      (before.map Prod.fst ++ ((k, v) :: fs).map Prod.fst).Nodup →
      (quote k).length + v.write.length + (writeMembers fs).length ≤ fuel →
      parseMembers fuel (quote k ++ ':' :: (v.write ++ (writeMembers fs ++ rest))) before =
        some (before ++ writtenFields ((k, v) :: fs), rest) := by
  induction fuel with
  | zero =>
    refine ⟨?_, ?_, ?_⟩
    · intro v rest _ enough
      have positive := write_length_pos v
      omega
    · intro x xs rest _ _ enough
      have positive := write_length_pos x
      omega
    · intro k v fs before rest _ _ _ enough
      have positive := write_length_pos v
      omega
  | succ fuel ih =>
    obtain ⟨value, elements, members⟩ := ih
    refine ⟨?_, ?_, ?_⟩
    · intro v rest h enough ends
      cases v with
      | null => rfl
      | bool b => cases b <;> rfl
      | num q =>
        rw [Json.write, Json.written]
        split
        · rfl
        · exact parseValue_number h ends
      | str s =>
        rw [Json.write, quote_append, parseValue, skipSpace_of_opens (by decide)]
        simp [parseString_quote, Json.written]
      | arr xs =>
        cases xs with
        | nil => rfl
        | cons x xs =>
          obtain ⟨first, others⟩ := h
          simp only [Json.write, List.length_cons, List.length_append] at enough
          exact parseValue_array (elements x xs rest first others (by omega))
      | obj fs =>
        cases fs with
        | nil => rfl
        | cons f fs =>
          obtain ⟨k, v⟩ := f
          obtain ⟨distinct, first, others⟩ := h
          simp only [Json.write, List.length_cons, List.length_append] at enough
          exact parseValue_object (members k v fs [] rest first others distinct (by omega))
    · intro x xs rest first others enough
      cases xs with
      | nil =>
        simp only [writeElements, List.length_singleton] at enough
        exact parseElements_last (value x _ first (by omega) (ends_cons rest (by decide)))
      | cons y ys =>
        obtain ⟨second, others⟩ := others
        have text : writeElements (y :: ys) ++ rest = ',' :: (y.write ++ (writeElements ys ++ rest)) := by
          simp [writeElements]
        simp only [writeElements, List.length_cons, List.length_append] at enough
        have read := value x (',' :: (y.write ++ (writeElements ys ++ rest))) first (by omega) (ends_cons _ (by decide))
        rw [text]
        exact parseElements_more read (elements y ys rest second others (by omega))
    · intro k v fs before rest first others distinct enough
      have fresh : k ∉ before.map Prod.fst := by
        intro old
        exact (List.nodup_append.mp distinct).2.2 k old k List.mem_cons_self rfl
      cases fs with
      | nil =>
        simp only [writeMembers, List.length_singleton] at enough
        rw [writtenFields, writtenFields, ← Fields.set_append fresh]
        exact parseMembers_last before (value v _ first (by omega) (ends_cons rest (by decide)))
      | cons f fs =>
        obtain ⟨l, w⟩ := f
        obtain ⟨second, others⟩ := others
        have text : writeMembers ((l, w) :: fs) ++ rest =
            ',' :: (quote l ++ ':' :: (w.write ++ (writeMembers fs ++ rest))) := by
          simp [writeMembers]
        simp only [writeMembers, List.length_cons, List.length_append] at enough
        have read := value v (',' :: (quote l ++ ':' :: (w.write ++ (writeMembers fs ++ rest)))) first (by omega)
          (ends_cons _ (by decide))
        have further := members l w fs (before ++ [(k, v.written)]) rest second others (by simpa using distinct) (by omega)
        rw [← Fields.set_append fresh] at further
        rw [text, parseMembers_more read further, Fields.set_append fresh, List.append_assoc, List.singleton_append]
        rfl

/-- `JSON.parse(JSON.stringify(v))`. -/
theorem Json.parse_stringify {v : Json} (h : v.Writable) : Json.parse v.stringify = some v.written := by
  have read := (parse_write (v.write.length + 1)).1 v [] h (by omega) (by rintro c ⟨⟩)
  rw [List.append_nil] at read
  rw [Json.parse, Json.stringify, String.length_ofList, String.toList_ofList, read]
  rfl

/-! ## What is read can be written -/

theorem scientific_decimal (digits : List Nat) (scale : Int) : IsDecimal (scientific digits scale) := by
  unfold scientific
  split
  · refine ⟨0, ?_⟩
    norm_cast
  · refine ⟨(-scale).toNat, ?_⟩
    rw [← Nat.cast_ofNat, ← Nat.cast_pow, Rat.natCast_div_eq_divInt]
    exact Int.natCast_dvd_natCast.mp (Rat.den_dvd _ _)

theorem parseUnsigned_writable {cs rest : List Char} {q : Rat} (h : parseUnsigned cs = some (q, rest)) :
    (Json.num q).Writable := by
  simp only [parseUnsigned, Option.bind_eq_bind] at h
  split at h
  · cases h
  · obtain ⟨⟨fraction, rest'⟩, -, h⟩ := Option.bind_eq_some_iff.mp h
    obtain ⟨⟨exponent, rest''⟩, -, h⟩ := Option.bind_eq_some_iff.mp h
    rw [Option.pure_def, Option.some.injEq, Prod.mk.injEq] at h
    rw [← h.1]
    exact ⟨double_decimal (scientific_decimal _ _), double_double _⟩

theorem parseNumber_writable {cs rest : List Char} {q : Rat} (h : parseNumber cs = some (q, rest)) :
    (Json.num q).Writable := by
  unfold parseNumber at h
  split at h
  · obtain ⟨⟨p, rest'⟩, hp, h⟩ := Option.bind_eq_some_iff.mp h
    cases h
    obtain ⟨decimal, held⟩ := parseUnsigned_writable hp
    exact ⟨by rwa [IsDecimal, Rat.neg_den], by rw [double_neg, held]⟩
  · exact parseUnsigned_writable h

theorem Fields.mem_set_keys {fs : Fields} {k l : String} {v : Json} (h : l ∈ (fs.set k v).map Prod.fst) :
    l = k ∨ l ∈ fs.map Prod.fst := by
  induction fs with
  | nil => exact .inl (List.mem_singleton.mp h)
  | cons f fs ih =>
    rw [Fields.set] at h
    split at h
    · rename_i same
      rcases List.mem_cons.mp h with first | other
      · exact .inl first
      · exact .inr (List.mem_cons_of_mem _ other)
    · rcases List.mem_cons.mp h with first | other
      · exact .inr (first ▸ List.mem_cons_self)
      · exact (ih other).imp id (List.mem_cons_of_mem _)

theorem Fields.set_nodup {fs : Fields} (h : (fs.map Prod.fst).Nodup) (k : String) (v : Json) :
    ((fs.set k v).map Prod.fst).Nodup := by
  induction fs with
  | nil => simp [Fields.set]
  | cons f fs ih =>
    obtain ⟨fresh, others⟩ := List.nodup_cons.mp h
    rw [Fields.set]
    split
    · rename_i same
      exact List.nodup_cons.mpr ⟨same ▸ fresh, others⟩
    · rename_i different
      refine List.nodup_cons.mpr ⟨fun old => ?_, ih others⟩
      rcases Fields.mem_set_keys old with same | old
      · exact different same
      · exact fresh old

theorem Fields.set_writable {fs : Fields} (h : WritableMembers fs) {v : Json} (writable : v.Writable) (k : String) :
    WritableMembers (fs.set k v) := by
  induction fs with
  | nil => exact ⟨writable, trivial⟩
  | cons f fs ih =>
    obtain ⟨first, others⟩ := h
    rw [Fields.set]
    split
    · exact ⟨writable, others⟩
    · exact ⟨first, ih others⟩

theorem parse_writable (fuel : Nat) :
    (∀ cs v rest, parseValue fuel cs = some (v, rest) → v.Writable) ∧
    (∀ cs xs rest, parseElements fuel cs = some (xs, rest) → WritableElements xs) ∧
    ∀ cs fs fs' rest, parseMembers fuel cs fs = some (fs', rest) → (Json.obj fs).Writable → (Json.obj fs').Writable := by
  induction fuel with
  | zero => exact ⟨nofun, nofun, nofun⟩
  | succ fuel ih =>
    obtain ⟨value, elements, members⟩ := ih
    refine ⟨?_, ?_, ?_⟩
    · intro cs v rest h
      rw [parseValue] at h
      split at h
      case h_4 =>
        obtain ⟨p, -, written⟩ := Option.map_eq_some_iff.mp h
        cases written
        trivial
      case h_5 =>
        split at h
        · cases h
          trivial
        · obtain ⟨p, hp, written⟩ := Option.map_eq_some_iff.mp h
          cases written
          exact elements _ _ _ hp
      case h_6 =>
        split at h
        · cases h
          exact ⟨List.nodup_nil, trivial⟩
        · obtain ⟨p, hp, written⟩ := Option.map_eq_some_iff.mp h
          cases written
          exact members _ _ _ _ hp ⟨List.nodup_nil, trivial⟩
      case h_7 =>
        obtain ⟨p, hp, written⟩ := Option.map_eq_some_iff.mp h
        cases written
        exact parseNumber_writable hp
      all_goals
        cases h
        trivial
    · intro cs xs rest h
      rw [parseElements] at h
      obtain ⟨⟨x, rest'⟩, hx, h⟩ := Option.bind_eq_some_iff.mp h
      simp only at h
      split at h
      · obtain ⟨⟨ys, rest''⟩, hys, h⟩ := Option.bind_eq_some_iff.mp h
        cases h
        exact ⟨value _ _ _ hx, elements _ _ _ hys⟩
      · cases h
        exact ⟨value _ _ _ hx, trivial⟩
      · cases h
    · intro cs fs fs' rest h writable
      rw [parseMembers] at h
      split at h
      · obtain ⟨⟨k, rest'⟩, -, h⟩ := Option.bind_eq_some_iff.mp h
        simp only at h
        split at h
        · obtain ⟨⟨v, rest''⟩, hv, h⟩ := Option.bind_eq_some_iff.mp h
          have added : (Json.obj (fs.set k v)).Writable :=
            ⟨Fields.set_nodup writable.1 k v, Fields.set_writable writable.2 (value _ _ _ hv) k⟩
          simp only at h
          split at h
          · exact members _ _ _ _ h added
          · cases h
            exact added
          · cases h
        · cases h
      · cases h

theorem Json.parse_writable {raw : String} {v : Json} (h : Json.parse raw = some v) : v.Writable := by
  unfold Json.parse at h
  split at h
  · rename_i w rest read
    split at h
    · cases h
      exact (Js.parse_writable _).1 _ _ _ read
    · cases h
  · cases h

end Js
