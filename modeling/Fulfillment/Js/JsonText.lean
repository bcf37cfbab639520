import Fulfillment.Js.Json

/-! `JSON.parse`. Fuel bounds the nesting of calls; the length of the text is
enough, because every call below the top consumes a character first. -/

namespace Js

def skipSpace : List Char → List Char
  | [] => []
  | c :: cs => if c = ' ' ∨ c = '\t' ∨ c = '\n' ∨ c = '\r' then skipSpace cs else c :: cs

/-- The value of a hexadecimal digit of a `\u` escape. -/
def hexValue (c : Char) : Option Nat :=
  if '0' ≤ c ∧ c ≤ '9' then some (c.toNat - '0'.toNat)
  else if 'a' ≤ c ∧ c ≤ 'f' then some (c.toNat - 'a'.toNat + 10)
  else if 'A' ≤ c ∧ c ≤ 'F' then some (c.toNat - 'A'.toNat + 10)
  else none

def hex4 (a b c d : Char) : Option Nat := do
  let a ← hexValue a
  let b ← hexValue b
  let c ← hexValue c
  let d ← hexValue d
  return ((a * 16 + b) * 16 + c) * 16 + d

def simpleEscape : Char → Option Char
  | '"' => some '"'
  | '\\' => some '\\'
  | '/' => some '/'
  | 'b' => some (Char.ofNat 8)
  | 'f' => some (Char.ofNat 12)
  | 'n' => some '\n'
  | 'r' => some '\r'
  | 't' => some '\t'
  | _ => none

/-- The rest of a string literal, after the opening quote, as code units. A
plain character is kept as its code point, an escape as the unit it names. -/
def scanString : List Char → Option (List Nat × List Char)
  | [] => none
  | '"' :: cs => some ([], cs)
  | '\\' :: 'u' :: a :: b :: c :: d :: cs => do
    let u ← hex4 a b c d
    let (us, rest) ← scanString cs
    return (u :: us, rest)
  | '\\' :: e :: cs => do
    let u ← simpleEscape e
    let (us, rest) ← scanString cs
    return (u.toNat :: us, rest)
  | c :: cs =>
    if c.toNat < 0x20 ∨ c = '\\' then none
    else do
      let (us, rest) ← scanString cs
      return (c.toNat :: us, rest)

/-- A unit that belongs to no pair. -/
def unitChar (u : Nat) : Char := if 0xD800 ≤ u ∧ u < 0xE000 then loneSurrogate else textChar (Char.ofNat u)

/-- Joins surrogate pairs. -/
def joinUnits : List Nat → List Char
  | [] => []
  | [u] => [unitChar u]
  | u :: v :: us =>
    if 0xD800 ≤ u ∧ u < 0xDC00 ∧ 0xDC00 ≤ v ∧ v < 0xE000 then
      textChar (Char.ofNat (0x10000 + (u - 0xD800) * 0x400 + (v - 0xDC00))) :: joinUnits us
    else unitChar u :: joinUnits (v :: us)

def parseString (cs : List Char) : Option (String × List Char) := do
  let (us, rest) ← scanString cs
  return (String.ofList (joinUnits us), rest)

def takeDigits : List Char → List Nat × List Char
  | [] => ([], [])
  | c :: cs =>
    if '0' ≤ c ∧ c ≤ '9' then
      let (ds, rest) := takeDigits cs
      ((c.toNat - '0'.toNat) :: ds, rest)
    else ([], c :: cs)

def ofDigits (ds : List Nat) : Nat := ds.foldl (fun n d => 10 * n + d) 0

/-- A fraction `.d+`, if there is one. -/
def parseFraction : List Char → Option (List Nat × List Char)
  | '.' :: cs =>
    match takeDigits cs with
    | ([], _) => none
    | (ds, rest) => some (ds, rest)
  | cs => some ([], cs)

/-- An exponent `e[+-]?d+`, if there is one. -/
def parseExponent (cs : List Char) : Option (Int × List Char) :=
  let digits (sign : Int) (cs : List Char) : Option (Int × List Char) :=
    match takeDigits cs with
    | ([], _) => none
    | (ds, rest) => some (sign * (ofDigits ds : Int), rest)
  match cs with
  | 'e' :: '+' :: cs | 'E' :: '+' :: cs => digits 1 cs
  | 'e' :: '-' :: cs | 'E' :: '-' :: cs => digits (-1) cs
  | 'e' :: cs | 'E' :: cs => digits 1 cs
  | cs => some (0, cs)

/-- The number that a literal denotes, before it is read as a double. -/
def scientific (digits : List Nat) (scale : Int) : Rat :=
  if 0 ≤ scale then (ofDigits digits : Rat) * 10 ^ scale.toNat else (ofDigits digits : Rat) / 10 ^ (-scale).toNat

def parseUnsigned (cs : List Char) : Option (Rat × List Char) := do
  let (whole, rest) := takeDigits cs
  -- a leading zero stands alone
  if whole = [] ∨ (whole.head? = some 0 ∧ whole.length ≠ 1) then none
  let (fraction, rest) ← parseFraction rest
  let (exponent, rest) ← parseExponent rest
  return (double (scientific (whole ++ fraction) (exponent - fraction.length)), rest)

def parseNumber : List Char → Option (Rat × List Char)
  | '-' :: cs => do
    let (q, rest) ← parseUnsigned cs
    return (-q, rest)
  | cs => parseUnsigned cs

/-- Assigns a property: in place when the object has it, else as its last one. -/
def Fields.set : Fields → String → Json → Fields
  | [], k, v => [(k, v)]
  | (k', v') :: fs, k, v => if k' = k then (k, v) :: fs else (k', v') :: Fields.set fs k v

mutual
def parseValue : Nat → List Char → Option (Json × List Char)
  | 0, _ => none
  | fuel + 1, cs =>
    match skipSpace cs with
    | 'n' :: 'u' :: 'l' :: 'l' :: rest => some (.null, rest)
    | 't' :: 'r' :: 'u' :: 'e' :: rest => some (.bool true, rest)
    | 'f' :: 'a' :: 'l' :: 's' :: 'e' :: rest => some (.bool false, rest)
    | '"' :: rest => (parseString rest).map fun (s, rest) => (.str s, rest)
    | '[' :: rest =>
      match skipSpace rest with
      | ']' :: rest => some (.arr [], rest)
      | rest => (parseElements fuel rest).map fun (xs, rest) => (.arr xs, rest)
    | '{' :: rest =>
      match skipSpace rest with
      | '}' :: rest => some (.obj [], rest)
      | rest => (parseMembers fuel rest []).map fun (fs, rest) => (.obj fs, rest)
    | rest => (parseNumber rest).map fun (q, rest) => (.num q, rest)

def parseElements : Nat → List Char → Option (List Json × List Char)
  | 0, _ => none
  | fuel + 1, cs => do
    let (x, rest) ← parseValue fuel cs
    match skipSpace rest with
    | ',' :: rest =>
      let (xs, rest) ← parseElements fuel rest
      return (x :: xs, rest)
    | ']' :: rest => return ([x], rest)
    | _ => none

/-- Members up to the closing brace. A repeated key overwrites the earlier value. -/
def parseMembers : Nat → List Char → Fields → Option (Fields × List Char)
  | 0, _, _ => none
  | fuel + 1, cs, fs =>
    match skipSpace cs with
    | '"' :: rest => do
      let (k, rest) ← parseString rest
      match skipSpace rest with
      | ':' :: rest =>
        let (v, rest) ← parseValue fuel rest
        match skipSpace rest with
        | ',' :: rest => parseMembers fuel rest (fs.set k v)
        | '}' :: rest => return (fs.set k v, rest)
        | _ => none
      | _ => none
    | _ => none
end

/-- `JSON.parse(raw)`; `none` is its `SyntaxError`. -/
def Json.parse (raw : String) : Option Json :=
  match parseValue (raw.length + 1) raw.toList with
  | some (v, rest) => if skipSpace rest = [] then some v else none
  | none => none

/-- The characters of a text are enough to parse it. -/
theorem Json.parse_ofList {raw : String} {cs : List Char} (text : raw = String.ofList cs) :
    Json.parse raw = (parseValue (cs.length + 1) cs).bind fun r => if skipSpace r.2 = [] then some r.1 else none := by
  rw [text, Json.parse, String.toList_ofList, String.length_ofList]
  cases parseValue (cs.length + 1) cs <;> rfl

theorem append_ofList {s t : String} {cs ds : List Char} (hs : s = String.ofList cs) (ht : t = String.ofList ds) :
    s ++ t = String.ofList (cs ++ ds) := by
  rw [hs, ht, String.ofList_append]

/-- More fuel reads the same. -/
theorem parse_more (fuel : Nat) :
    (∀ cs r, parseValue fuel cs = some r → parseValue (fuel + 1) cs = some r) ∧
    (∀ cs r, parseElements fuel cs = some r → parseElements (fuel + 1) cs = some r) ∧
    ∀ cs fs r, parseMembers fuel cs fs = some r → parseMembers (fuel + 1) cs fs = some r := by
  induction fuel with
  | zero => exact ⟨nofun, nofun, nofun⟩
  | succ fuel ih =>
    obtain ⟨value, elements, members⟩ := ih
    refine ⟨?_, ?_, ?_⟩
    · intro cs r h
      rw [parseValue] at h ⊢
      split at h
      case h_5 rest heq =>
        simp only
        split at h
        · exact h
        · obtain ⟨p, hp, rfl⟩ := Option.map_eq_some_iff.mp h
          rw [elements _ _ hp]
          rfl
      case h_6 rest heq =>
        simp only
        split at h
        · exact h
        · obtain ⟨p, hp, rfl⟩ := Option.map_eq_some_iff.mp h
          rw [members _ _ _ hp]
          rfl
      all_goals exact h
    · intro cs r h
      rw [parseElements] at h ⊢
      obtain ⟨⟨x, rest⟩, hx, h⟩ := Option.bind_eq_some_iff.mp h
      simp only [value cs _ hx, Option.bind_eq_bind, Option.bind_some] at h ⊢
      split at h
      · rename_i rest' heq
        obtain ⟨⟨xs, rest''⟩, hxs, h⟩ := Option.bind_eq_some_iff.mp h
        simp only [elements _ _ hxs, Option.bind_some]
        exact h
      · exact h
      · cases h
    · intro cs fs r h
      rw [parseMembers] at h ⊢
      split at h
      · obtain ⟨⟨k, rest⟩, hk, h⟩ := Option.bind_eq_some_iff.mp h
        simp only [hk, Option.bind_eq_bind, Option.bind_some] at h ⊢
        split at h
        · obtain ⟨⟨v, rest'⟩, hv, h⟩ := Option.bind_eq_some_iff.mp h
          simp only [value _ _ hv, Option.bind_some] at h ⊢
          split at h
          · exact members _ _ _ h
          · exact h
          · cases h
        · cases h
      · cases h

/-- A blank before the text changes nothing. -/
theorem Json.parse_blank {raw : String} {v : Json} (h : Json.parse raw = some v) :
    Json.parse (" " ++ raw) = some v := by
  unfold Json.parse at h ⊢
  split at h
  · rename_i w rest hw
    have blank : parseValue ((" " ++ raw).length + 1) (" " ++ raw).toList = parseValue (raw.length + 1 + 1) raw.toList := by
      have size : (" " ++ raw).length = raw.length + 1 := by
        rw [String.length_append, Nat.add_comm]
        rfl
      have chars : (" " ++ raw).toList = ' ' :: raw.toList := by simp
      rw [size, chars, parseValue, parseValue]
      rfl
    rw [blank, (parse_more _).1 _ _ hw]
    exact h
  · cases h

end Js
