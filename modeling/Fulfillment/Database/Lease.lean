import Fulfillment.Relational.Table

/-!
# The lease columns

`outbox_events` and `dlq_outbox` share their lease columns and the statements
on them; they differ in the columns a statement never writes, which are `body`
here. Times and durations are whole milliseconds, and `now` is
`CURRENT_TIMESTAMP`.
-/

namespace Fulfillment

open Relational

inductive LeaseStatus
  | pending
  | processing
  | published
  | failed
  deriving DecidableEq, Repr

structure Leased (β : Type) where
  id : String
  body : β
  status : LeaseStatus
  attempts : Nat
  lastError : Option String
  leaseOwner : Option String
  leasedAt : Option Int
  leaseExpiresAt : Option Int
  createdAt : Int
  publishedAt : Option Int
  deriving DecidableEq, Repr

abbrev LeaseTable (β : Type) := Table (Leased.id (β := β))

variable {β : Type}

/-- `workerId || null`: an empty worker id is no worker id. -/
def workerParam : Option String → Option String
  | some w => if w = "" then none else some w
  | none => none

/-- A freshly inserted row. -/
def Leased.fresh (id : String) (body : β) (now : Int) : Leased β where
  id := id
  body := body
  status := .pending
  attempts := 0
  lastError := none
  leaseOwner := none
  leasedAt := none
  leaseExpiresAt := none
  createdAt := now
  publishedAt := none

def insertPending (id : String) (body : β) (now : Int) (t : LeaseTable β) : LeaseTable β :=
  t.insertOrIgnore (.fresh id body now)

/-- The rows a claim may take. -/
def Leased.claimable (now : Int) (r : Leased β) : Bool :=
  (r.status = .pending ∨ r.status = .processing ∧ r.leaseExpiresAt.all (· < now)) ∧ r.attempts < 10

def Leased.claim (workerId : String) (leaseDuration now : Int) (r : Leased β) : Leased β :=
  { r with
    status := .processing
    leaseOwner := some workerId
    leasedAt := some now
    leaseExpiresAt := some (now + leaseDuration)
    attempts := r.attempts + 1 }

/-- The inner `SELECT ... ORDER BY created_at LIMIT ... FOR UPDATE SKIP LOCKED`.
`locked` are the rows other statements hold at that moment. -/
def claimTargets (limit : Nat) (now : Int) (locked : String → Bool) (t : LeaseTable β) :
    List (Leased β) :=
  ((t.rows.filter fun r => r.claimable now && !locked r.id).mergeSort
    fun a b => a.createdAt ≤ b.createdAt).take limit

/-- Claims rows for a worker; returns them as updated. -/
def claimPending (limit : Nat) (workerId : String) (leaseDuration now : Int)
    (locked : String → Bool) (t : LeaseTable β) : List (Leased β) × LeaseTable β :=
  let targets := claimTargets limit now locked t
  (targets.map (Leased.claim workerId leaseDuration now),
    t.update (fun r => r.id ∈ targets.map Leased.id) (Leased.claim workerId leaseDuration now)
      fun _ => rfl)

/-- The guard of both marks. -/
def Leased.heldBy (id : String) (workerId : Option String) (r : Leased β) : Bool :=
  r.id = id ∧ r.status = .processing ∧ (workerParam workerId = none ∨ r.leaseOwner = workerParam workerId)

def Leased.publish (now : Int) (r : Leased β) : Leased β :=
  { r with
    status := .published
    publishedAt := some now
    leaseOwner := none
    leaseExpiresAt := none }

def Leased.fail (error : String) (r : Leased β) : Leased β :=
  { r with
    lastError := some error
    leaseOwner := none
    leaseExpiresAt := none
    status := if 10 ≤ r.attempts then .failed else .pending }

def markPublished (id : String) (workerId : Option String) (now : Int) (t : LeaseTable β) :
    Bool × LeaseTable β :=
  (t.rows.any (Leased.heldBy id workerId),
    t.update (Leased.heldBy id workerId) (Leased.publish now) fun _ => rfl)

def markFailed (id error : String) (workerId : Option String) (t : LeaseTable β) :
    Bool × LeaseTable β :=
  (t.rows.any (Leased.heldBy id workerId),
    t.update (Leased.heldBy id workerId) (Leased.fail error) fun _ => rfl)

end Fulfillment
