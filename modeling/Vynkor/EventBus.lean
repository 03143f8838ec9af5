import Vynkor.Registry

/-! Subscriptions and the event outbox. The sets of the bus are lists without
duplicates; SQLite failures, which the kernel only logs, are left out. -/

namespace Vynkor

structure EventBus where
  subscriptions : DashMap String (List String) := ∅
  byPlugin : DashMap String (List String) := ∅

namespace EventBus

def addSubscriber (subscriptions : DashMap String (List String)) (eventType pluginId : String) :
    DashMap String (List String) :=
  subscriptions.insert eventType (((subscriptions.get eventType).getD []).insert pluginId)

def removeSubscriber (subscriptions : DashMap String (List String)) (eventType pluginId : String) :
    DashMap String (List String) :=
  subscriptions.update eventType fun subscribers => subscribers.filter (· ≠ pluginId)

def subscribe (bus : EventBus) (pluginId : String) (eventTypes : List String) : EventBus where
  subscriptions := eventTypes.foldl (fun subscriptions eventType => addSubscriber subscriptions eventType pluginId)
    bus.subscriptions
  byPlugin := bus.byPlugin.insert pluginId
    (eventTypes.foldl (fun types eventType => types.insert eventType) ((bus.byPlugin.get pluginId).getD []))

def unsubscribe (bus : EventBus) (pluginId : String) (eventTypes : List String) : EventBus where
  subscriptions := eventTypes.foldl (fun subscriptions eventType => removeSubscriber subscriptions eventType pluginId)
    bus.subscriptions
  byPlugin := bus.byPlugin.update pluginId fun types =>
    eventTypes.foldl (fun types eventType => types.filter (· ≠ eventType)) types

def unsubscribeAll (bus : EventBus) (pluginId : String) : EventBus :=
  match bus.byPlugin.get pluginId with
  | none => bus
  | some types => {
      subscriptions := types.foldl (fun subscriptions eventType => removeSubscriber subscriptions eventType pluginId)
        bus.subscriptions
      byPlugin := bus.byPlugin.erase pluginId }

def subscribers (bus : EventBus) (eventType : String) : List String := (bus.subscriptions.get eventType).getD []

/-- Exact subscribers of the type together with the wildcard ones. -/
def targets (bus : EventBus) (eventType : String) : List String :=
  bus.subscribers eventType ∪ bus.subscribers "*"

end EventBus

inductive EventStatus where
  | pending | delivered | dead
  deriving DecidableEq

structure EventRow where
  eventType : String
  payloadJson : Bytes
  status : EventStatus
  createdAt : Nat
  retryCount : Nat
  deriving DecidableEq

/-- The events table, by its primary key. -/
abbrev EventStore := DashMap String EventRow

namespace EventStore

/-- Re-inserting a known event id is ignored. -/
def persist (store : EventStore) (now : Moment) (event : Event) : EventStore :=
  if store.containsKey event.eventId then store
  else store.insert event.eventId {
    eventType := event.eventType, payloadJson := event.payloadJson, status := .pending,
    createdAt := now.unixMillis / 1000, retryCount := 0 }

def markDelivered (store : EventStore) (eventId : String) : EventStore :=
  store.update eventId fun row => { row with status := .delivered }

/-- The pending events that were stored at least so many seconds ago. -/
def pendingOlderThan (store : EventStore) (now : Moment) (ageSecs : Nat) : List Event :=
  (store.toList.filter fun (_, row) => row.status = .pending ∧ row.createdAt ≤ now.unixSecs - ageSecs).map
    fun (eventId, row) => {
      eventId, eventType := row.eventType, payloadJson := row.payloadJson, retryCount := row.retryCount % UInt32.size }

/-- Two statements under one lock; neither asks for the status of the row. -/
def incrementRetryOrDead (store : EventStore) (eventId : String) (maxRetries : Nat) : EventStore :=
  let counted := store.update eventId fun row => { row with retryCount := row.retryCount + 1 }
  counted.update eventId fun row => if maxRetries ≤ row.retryCount then { row with status := .dead } else row

/-- Pending events are never pruned. -/
def prune (store : EventStore) (now : Moment) (retentionSecs : Nat) : EventStore :=
  store.retain fun _ row =>
    !((row.status = .delivered ∨ row.status = .dead) ∧ row.createdAt ≤ now.unixSecs - retentionSecs)

end EventStore
end Vynkor
