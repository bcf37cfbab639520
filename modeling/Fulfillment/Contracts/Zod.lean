import Fulfillment.Js.Json

/-! What the schema builders accept. A schema is a test on a property value,
`none` being an absent or undefined property. -/

namespace Zod

open Js

abbrev Schema := Option Json → Bool

def string : Schema
  | some (.str _) => true
  | _ => false

/-- `z.string().min(1)`. -/
def nonEmpty : Schema
  | some (.str s) => s ≠ ""
  | _ => false

/-- `z.number().positive()`. -/
def positive : Schema
  | some (.num q) => 0 < q
  | _ => false

/-- `z.number().int().positive()`. -/
def positiveInt : Schema
  | some (.num q) => 0 < q ∧ q.den = 1
  | _ => false

/-- `.optional()` and `.default(...)` both accept an absent value. -/
def optional (schema : Schema) : Schema
  | none => true
  | v => schema v

/-- `z.array(element).min(1)`. -/
def nonEmptyArray (element : Schema) : Schema
  | some (.arr xs) => xs ≠ [] ∧ xs.all fun x => element (some x)
  | _ => false

/-- `z.number().min(low).max(high)`. -/
def between (low high : Rat) : Schema
  | some (.num q) => low ≤ q ∧ q ≤ high
  | _ => false

/-- `z.enum([...])`. -/
def oneOf (names : List String) : Schema
  | some (.str s) => s ∈ names
  | _ => false

/-- `z.array(element)`. -/
def array (element : Schema) : Schema
  | some (.arr xs) => xs.all fun x => element (some x)
  | _ => false

/-- `z.record(z.unknown())`. -/
def record : Schema
  | some (.obj _) => true
  | _ => false

/-- `z.object({...})`; other properties are allowed and stripped. -/
def object (shape : List (String × Schema)) : Schema
  | some (.obj fs) => shape.all fun (k, schema) => schema (Fields.get fs k)
  | _ => false

theorem nonEmpty_iff {v : Option Json} : nonEmpty v = true ↔ ∃ s, v = some (.str s) ∧ s ≠ "" := by
  unfold nonEmpty
  split <;> simp_all

theorem positive_iff {v : Option Json} : positive v = true ↔ ∃ q, v = some (.num q) ∧ 0 < q := by
  unfold positive
  split <;> simp_all

theorem nonEmptyArray_iff {element : Schema} {v : Option Json} :
    nonEmptyArray element v = true ↔
      ∃ xs, v = some (.arr xs) ∧ xs ≠ [] ∧ ∀ x ∈ xs, element (some x) = true := by
  unfold nonEmptyArray
  split <;> simp_all

end Zod
