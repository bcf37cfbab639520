import Fulfillment.Js.Double

/-!
# JavaScript values that JSON text can make

`undefined` is `none`, so a property read is an `Option Json`. A number is a
`double`, held as its shortest decimal; `infinity` stands for the infinite ones,
and NaN is left out. A lone surrogate in a string, which no `Char` is, is held
as `loneSurrogate`. The character that is taken for this is read as another.
-/

namespace Js

inductive Json
  | null
  | bool (b : Bool)
  | num (q : Rat)
  | str (s : String)
  | arr (elements : List Json)
  | obj (fields : List (String × Json))
  deriving Repr, Inhabited

/-- The last of the noncharacters stands for a lone surrogate. -/
def loneSurrogate : Char := Char.ofNat 0x10FFFF

/-- A character of a text. The last of the noncharacters is read as the one before it. -/
def textChar (c : Char) : Char := if c = loneSurrogate then Char.ofNat 0x10FFFE else c

/-- An exception as a catch block sees it. -/
structure JsError where
  message : String
  stack : Option String := none
  deriving DecidableEq, Repr, Inhabited

abbrev Fields := List (String × Json)

mutual
def Json.decEq : (a b : Json) → Decidable (a = b)
  | .null, .null => isTrue rfl
  | .bool a, .bool b => decidable_of_iff (a = b) (by simp)
  | .num a, .num b => decidable_of_iff (a = b) (by simp)
  | .str a, .str b => decidable_of_iff (a = b) (by simp)
  | .arr a, .arr b =>
    have := decEqElements a b
    decidable_of_iff (a = b) (by simp)
  | .obj a, .obj b =>
    have := decEqFields a b
    decidable_of_iff (a = b) (by simp)
  | .null, .bool _ | .null, .num _ | .null, .str _ | .null, .arr _ | .null, .obj _
  | .bool _, .null | .bool _, .num _ | .bool _, .str _ | .bool _, .arr _ | .bool _, .obj _
  | .num _, .null | .num _, .bool _ | .num _, .str _ | .num _, .arr _ | .num _, .obj _
  | .str _, .null | .str _, .bool _ | .str _, .num _ | .str _, .arr _ | .str _, .obj _
  | .arr _, .null | .arr _, .bool _ | .arr _, .num _ | .arr _, .str _ | .arr _, .obj _
  | .obj _, .null | .obj _, .bool _ | .obj _, .num _ | .obj _, .str _ | .obj _, .arr _ =>
    isFalse nofun

def decEqElements : (a b : List Json) → Decidable (a = b)
  | [], [] => isTrue rfl
  | [], _ :: _ | _ :: _, [] => isFalse nofun
  | x :: xs, y :: ys =>
    have := Json.decEq x y
    have := decEqElements xs ys
    decidable_of_iff (x = y ∧ xs = ys) (by simp)

def decEqFields : (a b : List (String × Json)) → Decidable (a = b)
  | [], [] => isTrue rfl
  | [], _ :: _ | _ :: _, [] => isFalse nofun
  | (k, x) :: xs, (l, y) :: ys =>
    have := Json.decEq x y
    have := decEqFields xs ys
    decidable_of_iff (k = l ∧ x = y ∧ xs = ys) (by simp [and_assoc])
end

instance : DecidableEq Json := Json.decEq

def Fields.get (fs : Fields) (k : String) : Option Json := fs.lookup k

/-- An object literal. Serialising it leaves out the undefined properties. -/
def record (entries : List (String × Option Json)) : Fields :=
  entries.filterMap fun e => e.2.map fun v => (e.1, v)

theorem get_record_of_not_mem {entries : List (String × Option Json)} {k : String}
    (h : k ∉ entries.map Prod.fst) : (record entries).get k = none := by
  induction entries with
  | nil => rfl
  | cons e es ih =>
    obtain ⟨hne, hes⟩ := not_or.mp (List.mem_cons.not.mp h)
    cases hv : e.2 with
    | none => simpa [record, hv] using ih hes
    | some v =>
      have : (k == e.1) = false := by simpa using hne
      simpa [record, hv, Fields.get, List.lookup_cons, this] using ih hes

/-- Reading a property of an object literal gives what was written there. -/
theorem get_record {entries : List (String × Option Json)} (h : (entries.map Prod.fst).Nodup)
    {k : String} {v : Option Json} (hv : (k, v) ∈ entries) : (record entries).get k = v := by
  induction entries with
  | nil => cases hv
  | cons e es ih =>
    obtain ⟨hfresh, hes⟩ := List.nodup_cons.mp h
    rcases List.mem_cons.mp hv with rfl | hv
    · cases v with
      | none => simpa [record, Fields.get] using get_record_of_not_mem hfresh
      | some v => simp [record, Fields.get]
    · have hne : k ≠ e.1 := fun he => hfresh (he ▸ List.mem_map_of_mem hv)
      have hb : (k == e.1) = false := by simpa using hne
      cases he : e.2 with
      | none => simpa [record, he] using ih hes hv
      | some w => simpa [record, he, Fields.get, List.lookup_cons, hb] using ih hes hv

/-- `Boolean(v)`. -/
def truthy : Option Json → Bool
  | none | some .null => false
  | some (.bool b) => b
  | some (.num q) => q ≠ 0
  | some (.str s) => s ≠ ""
  | some (.arr _) | some (.obj _) => true

/-- `v || d`. -/
def orElse (v : Option Json) (d : Json) : Json :=
  match v with
  | some j => if truthy (some j) then j else d
  | none => d

theorem orElse_of_truthy {j : Json} (h : truthy (some j) = true) (d : Json) :
    orElse (some j) d = j := by
  simp [orElse, h]

/-- Decimal digits of `r / d`, a fraction below one. -/
def fractionDigits : (fuel : Nat) → (r d : Nat) → List Char
  | 0, _, _ => []
  | fuel + 1, r, d => if r = 0 then [] else Nat.digitChar (10 * r / d) :: fractionDigits fuel (10 * r % d) d

def infinite (q : Rat) : Bool := q = infinity ∨ q = -infinity

theorem infinite_whole {q : Rat} (whole : q.den = 1) : infinite q = false := by
  rw [infinite, decide_eq_false_iff_not]
  rintro (rfl | rfl)
  · rw [infinity_den] at whole
    cases whole
  · rw [Rat.neg_den, infinity_den] at whole
    cases whole

/-- The digits of a number, without the exponent form of very large and very small ones. -/
def decimalText (q : Rat) : String :=
  let whole := toString (q.num.natAbs / q.den)
  let fraction := fractionDigits q.den (q.num.natAbs % q.den) q.den
  (if q.num < 0 then "-" else "") ++ whole ++
    if fraction = [] then "" else "." ++ String.ofList fraction

/-- `String(x)` for a number. -/
def numberToString (q : Rat) : String :=
  if infinite q then if q < 0 then "-Infinity" else "Infinity" else decimalText q

mutual
/-- `String(v)`. An object with a `toString` property of its own hides the
inherited method, and converting it throws. -/
def Json.toText : Json → Except JsError String
  | .null => .ok "null"
  | .bool b => .ok (if b then "true" else "false")
  | .num q => .ok (numberToString q)
  | .str s => .ok s
  | .arr xs => (elementTexts xs).map (String.intercalate ",")
  | .obj fs =>
    if (Fields.get fs "toString").isSome then .error { message := "Cannot convert object to primitive value" }
    else .ok "[object Object]"

def elementTexts : List Json → Except JsError (List String)
  | [] => .ok []
  | .null :: xs => (elementTexts xs).map ("" :: ·)
  | x :: xs => x.toText.bind fun t => (elementTexts xs).map (t :: ·)
end

mutual
/-- What is left of a value in the text `JSON.stringify` writes of it: an infinite number is written as `null`. -/
def Json.written : Json → Json
  | .null => .null
  | .bool b => .bool b
  | .num q => if infinite q then .null else .num q
  | .str s => .str s
  | .arr xs => .arr (writtenElements xs)
  | .obj fs => .obj (writtenFields fs)

def writtenElements : List Json → List Json
  | [] => []
  | x :: xs => x.written :: writtenElements xs

def writtenFields : List (String × Json) → List (String × Json)
  | [] => []
  | (k, v) :: fs => (k, v.written) :: writtenFields fs
end

mutual
theorem Json.written_written : (v : Json) → v.written.written = v.written
  | .null | .bool _ | .str _ => rfl
  | .num q => by
    rw [Json.written]
    split
    · rfl
    · rename_i finite
      rw [Json.written, if_neg finite]
  | .arr xs => congrArg Json.arr (writtenElements_written xs)
  | .obj fs => congrArg Json.obj (writtenFields_written fs)

theorem writtenElements_written : (xs : List Json) → writtenElements (writtenElements xs) = writtenElements xs
  | [] => rfl
  | x :: xs => by rw [writtenElements, writtenElements, x.written_written, writtenElements_written xs]

theorem writtenFields_written : (fs : List (String × Json)) → writtenFields (writtenFields fs) = writtenFields fs
  | [] => rfl
  | (k, v) :: fs => by rw [writtenFields, writtenFields, v.written_written, writtenFields_written fs]
end

/-- A value substituted into a template literal. -/
def text : Option Json → Except JsError String
  | none => .ok "undefined"
  | some j => j.toText

@[simp] theorem text_str (s : String) : text (some (.str s)) = .ok s := by
  simp [text, Json.toText]

end Js
