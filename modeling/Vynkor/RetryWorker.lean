import Vynkor.Orchestrator

/-! The worker that delivers stored events again. Its sweep selects the pending events,
counts a retry for each of them and prunes old rows, one statement after the other;
other tasks may use the store in between. -/

namespace Vynkor

structure RetryPolicy where
  maxRetries : Nat
  retentionSecs : Nat

/-- Events are left alone for their first seconds. -/
def retryAgeSecs : Nat := 10

/-- The worker, before its next statement. -/
inductive Sweep where
  | sleeping
  | counting (pending left : List Event)
  | redelivering (left : List Event)
  deriving DecidableEq

/-- The events that are selected and not counted yet. -/
def Sweep.uncounted : Sweep → List Event
  | .counting _ left => left
  | _ => []

structure StoreTasks where
  store : EventStore := ∅
  sweep : Sweep := .sleeping

inductive StoreAction where
  | persist (now : Moment) (event : Event)
  | markDelivered (eventId : String)
  | select (now : Moment)
  | increment
  | prune (now : Moment)
  | redeliver

namespace StoreTasks
variable (policy : RetryPolicy) (tasks : StoreTasks)

def select (now : Moment) : Option StoreTasks :=
  match tasks.sweep with
  | .sleeping =>
    let pending := tasks.store.pendingOlderThan now retryAgeSecs
    some { tasks with sweep := .counting pending pending }
  | _ => none

def increment : Option StoreTasks :=
  match tasks.sweep with
  | .counting pending (event :: left) => some {
      store := tasks.store.incrementRetryOrDead event.eventId policy.maxRetries
      sweep := .counting pending left }
  | _ => none

def prune (now : Moment) : Option StoreTasks :=
  match tasks.sweep with
  | .counting pending [] => some {
      store := tasks.store.prune now policy.retentionSecs
      sweep := .redelivering pending }
  | _ => none

def redeliver : Option StoreTasks :=
  match tasks.sweep with
  | .redelivering (_ :: left) => some { tasks with sweep := .redelivering left }
  | .redelivering [] => some { tasks with sweep := .sleeping }
  | _ => none

def step : StoreAction → Option StoreTasks
  | .persist now event => some { tasks with store := tasks.store.persist now event }
  | .markDelivered eventId => some { tasks with store := tasks.store.markDelivered eventId }
  | .select now => tasks.select now
  | .increment => tasks.increment policy
  | .prune now => tasks.prune policy now
  | .redeliver => tasks.redeliver

end StoreTasks

/-- The kernel and the worker, which runs if there is a store. -/
structure Outbox (β : Type) where
  kernel : Kernel β := {}
  sweep : Sweep := .sleeping

inductive OutboxAction (β : Type) where
  | kernel (action : Action β)
  | select (now : Moment)
  | increment
  | prune (now : Moment)
  | redeliver (now : Moment)

namespace Outbox
variable {β : Type} (ctx : Context β) (policy : RetryPolicy) (outbox : Outbox β)

def work (change : StoreTasks → Option StoreTasks) : Option (Outbox β) :=
  match outbox.kernel.router.store with
  | none => none
  | some store => (change { store, sweep := outbox.sweep }).map fun tasks => {
      kernel := outbox.kernel.setRouter { outbox.kernel.router with store := some tasks.store }
      sweep := tasks.sweep }

/-- Delivers the next selected event to those who subscribe to its type now. -/
def redeliver (now : Moment) : Option (Outbox β) :=
  match outbox.sweep with
  | .redelivering (event :: left) => some {
      kernel := outbox.kernel.setRouter (outbox.kernel.router.deliver ctx now event)
      sweep := .redelivering left }
  | .redelivering [] => some { outbox with sweep := .sleeping }
  | _ => none

def step : OutboxAction β → Option (Outbox β)
  | .kernel action => (outbox.kernel.step ctx action).map fun kernel => { outbox with kernel }
  | .select now => outbox.work fun tasks => tasks.select now
  | .increment => outbox.work fun tasks => tasks.increment policy
  | .prune now => outbox.work fun tasks => tasks.prune policy now
  | .redeliver now => outbox.redeliver ctx now

end Outbox
end Vynkor
