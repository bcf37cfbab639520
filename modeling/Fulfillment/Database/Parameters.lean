import Fulfillment.Database.Columns

/-!
# Query parameters

What a JavaScript value becomes in a column. The driver writes a value as text
and PostgreSQL reads the text as the type of the column; the parts of that
which are not in the repository are fields of `Postgres`.
-/

namespace Fulfillment

open Js

/-- The driver and the input functions of PostgreSQL. -/
structure Postgres where
  /-- The text for an array or an object. -/
  literal : Json → String
  integer : String → Option Int
  numeric : String → Option Rat
  timestamp : String → Option Int
  /-- `toISOString` of the `Date` that a stored timestamp is read as. -/
  isoString : Int → String
  /-- A timestamp that was read can be written again. -/
  reads_back : ∀ s t, timestamp s = some t → (timestamp (isoString t)).isSome = true

/-- A server, as far as the texts of one instant, of integers and of empty arrays and objects go. -/
def Postgres.sample : Postgres where
  literal _ := "\x7b\x7d"
  integer s := s.toInt?
  numeric s := s.toInt?.map fun i => i
  timestamp
    | "2026-01-01T10:00:00.000Z" => some 1767261600000
    | _ => none
  isoString _ := "2026-01-01T10:00:00.000Z"
  reads_back _ _ _ := rfl

def nullError : JsError where
  message := "null value violates not-null constraint"

def syntaxError : JsError where
  message := "invalid input syntax"

/-- The text of a parameter; `null` and `undefined` are `NULL`. -/
def Postgres.paramText (pg : Postgres) : Option Json → Option String
  | none | some .null => none
  | some (.str s) => some s
  | some (.bool b) => some (if b then "true" else "false")
  | some (.num q) => some (numberToString q)
  | some v => some (pg.literal v)

/-- A column that may be `NULL`. -/
def nullable {α : Type} (read : String → Except JsError α) : Option String → Except JsError (Option α)
  | none => .ok none
  | some s => (read s).map some

/-- A `NOT NULL` column. -/
def notNull {α : Type} : Except JsError (Option α) → Except JsError α
  | .ok (some a) => .ok a
  | .ok none => .error nullError
  | .error e => .error e

def readText (s : String) : Except JsError String := if fitsText s then .ok s else .error columnError

def readVarchar (n : Nat) (s : String) : Except JsError String := if fitsVarchar n s then .ok s else .error columnError

namespace Postgres

variable (pg : Postgres)

def text (v : Option Json) : Except JsError (Option String) := nullable readText (pg.paramText v)

def varchar (n : Nat) (v : Option Json) : Except JsError (Option String) := nullable (readVarchar n) (pg.paramText v)

/-- `DECIMAL(10, 2)`. The text of a number denotes that number. -/
def decimal (v : Option Json) : Except JsError (Option Rat) :=
  let store (q : Rat) : Except JsError (Option Rat) :=
    if fitsDecimal q then .ok (some (roundCents q)) else .error columnError
  match v with
  | some (.num q) => store q
  | v =>
    match pg.paramText v with
    | none => .ok none
    | some s =>
      match pg.numeric s with
      | some q => store q
      | none => .error syntaxError

def int (v : Option Json) : Except JsError (Option Int) :=
  match v with
  | some (.num q) => if q.den = 1 ∧ fitsInt q.num then .ok (some q.num) else .error syntaxError
  | v =>
    match pg.paramText v with
    | none => .ok none
    | some s =>
      match pg.integer s with
      | some i => if fitsInt i then .ok (some i) else .error columnError
      | none => .error syntaxError

def readTimestamp (s : String) : Except JsError Int :=
  match pg.timestamp s with
  | some t => .ok t
  | none => .error syntaxError

def timestampParam (v : Option Json) : Except JsError (Option Int) := nullable pg.readTimestamp (pg.paramText v)

end Postgres

def jsonb (v : Json) : Except JsError Json := if fitsJsonb v then .ok v else .error syntaxError

/-- The time of an event as the columns hold it, if they can. -/
def eventTime (pg : Postgres) (occurredAt : String) : Int := (pg.timestamp occurredAt).getD 0

theorem eventTime_of_read {pg : Postgres} {occurredAt : String} {time : Int} (h : pg.readTimestamp occurredAt = .ok time) :
    eventTime pg occurredAt = time := by
  unfold Postgres.readTimestamp at h
  split at h
  · rename_i t ht
    cases h
    rw [eventTime, ht]
    rfl
  · cases h

theorem bind_returns {α β : Type} {x : Except JsError α} {f : α → Except JsError β} {b : β}
    (h : (x >>= f) = .ok b) : ∃ a, x = .ok a ∧ f a = .ok b := by
  cases x with
  | error e => cases h
  | ok a => exact ⟨a, rfl, h⟩

theorem notNull_returns {α : Type} {x : Except JsError (Option α)} {a : α} (h : notNull x = .ok a) :
    x = .ok (some a) := by
  unfold notNull at h
  split at h
  · rw [Except.ok.inj h]
  · cases h
  · cases h

theorem varchar_returns {pg : Postgres} {n : Nat} {v : Option Json} {s : String} (h : pg.varchar n v = .ok (some s)) :
    pg.paramText v = some s := by
  unfold Postgres.varchar at h
  cases ht : pg.paramText v with
  | none =>
    rw [ht] at h
    cases h
  | some t =>
    rw [ht, nullable, readVarchar] at h
    by_cases fits : fitsVarchar n t = true
    · rw [if_pos fits] at h
      cases h
      rfl
    · rw [if_neg fits] at h
      cases h

end Fulfillment
