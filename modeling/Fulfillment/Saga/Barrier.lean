import Fulfillment.Database.Service

namespace Fulfillment

open Js

/-- `s || d` on strings. -/
def orString (s d : String) : String := if s = "" then d else s

/-- The local variables a fulfilled barrier leaves to the emission of `OrderCancelled`. -/
structure CancelNotice where
  completedList : List String
  failureReason : String
  userId : Json
  deriving DecidableEq, Repr

/-- The list after `completedList.push(action)`, guarded against duplicates. -/
def withCompleted (ctx : SagaContext) (completedAction : String) : List String :=
  let completedList := ctx.compensationsCompleted.getD []
  if completedAction ∈ completedList then completedList else completedList ++ [completedAction]

def pendingCompensations (ctx : SagaContext) : List String :=
  ctx.compensationsPending.getD ["PAYMENT_REFUND"]

def allCompensationsCompleted (ctx : SagaContext) (completedAction : String) : Bool :=
  (pendingCompensations ctx).all fun action => action ∈ withCompleted ctx completedAction

/-- What the barrier saves for a saga it found `COMPENSATING`. -/
def barrierRow (currentSaga : SagaRow) (orderId completedAction correlationId : String) : SagaRow where
  sagaId := orString currentSaga.sagaId ("saga_" ++ orderId)
  aggregateId := orderId
  sagaType := orString currentSaga.sagaType "ORDER_FULFILLMENT"
  state := if allCompensationsCompleted currentSaga.context completedAction then .cancelled else .compensating
  currentStep :=
    if allCompensationsCompleted currentSaga.context completedAction then "TERMINAL_CANCELLED"
    else "COMPENSATING_WAITING_" ++ completedAction
  correlationId := correlationId
  context := { currentSaga.context with
    compensationsCompleted := some (withCompleted currentSaga.context completedAction) }
  failureReason := currentSaga.failureReason

def cancelNotice (currentSaga : SagaRow) (completedAction : String) : Option CancelNotice :=
  if allCompensationsCompleted currentSaga.context completedAction then
    some {
      completedList := withCompleted currentSaga.context completedAction
      failureReason := (orNull currentSaga.failureReason).getD "Order cancelled after full compensation"
      userId := orElse currentSaga.context.userId (.str "unknown") }
  else none

/-- The transaction of `handleCompensationCompletion`: the row lock taken by
the re-read makes it one step. The first component is the row it saved. -/
def executeBarrierUpdate (sagaParam : SagaRow) (completedAction correlationId : String) (db : Db) :
    Option SagaRow × Option CancelNotice :=
  let orderId := sagaParam.aggregateId
  let currentSaga := (db.getSagaByAggregateId orderId).getD sagaParam
  if currentSaga.state = .compensating then
    (some (barrierRow currentSaga orderId completedAction correlationId),
      cancelNotice currentSaga completedAction)
  else (none, none)

end Fulfillment
