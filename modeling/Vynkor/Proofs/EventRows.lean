import Vynkor.RetryWorker

/-! The row of one event under each statement of the store, and which tasks may change
it once it is marked delivered. -/

namespace Vynkor.Proofs
open DashMap Execution
variable {row : EventRow} {policy : RetryPolicy} {tasks next : StoreTasks} {eventId : String}

section Rows
variable {store : EventStore} {now : Moment} {event : Event} {eventId other : String} {retentionSecs : Nat}

def freshRow (now : Moment) (event : Event) : EventRow where
  eventType := event.eventType
  payloadJson := event.payloadJson
  status := .pending
  createdAt := now.unixSecs
  retryCount := 0

def deliveredRow (row : EventRow) : EventRow := { row with status := .delivered }

def retriedRow (maxRetries : Nat) (row : EventRow) : EventRow :=
  { row with
    retryCount := row.retryCount + 1
    status := if maxRetries ≤ row.retryCount + 1 then .dead else row.status }

def isDue (now : Moment) (row : EventRow) : Bool :=
  row.status = .pending ∧ row.createdAt ≤ now.unixSecs - retryAgeSecs

theorem get_persist : (store.persist now event).get other =
    if other = event.eventId then some ((store.get other).getD (freshRow now event)) else store.get other := by
  rw [EventStore.persist, DashMap.containsKey]
  cases found : store.get event.eventId with
  | some row =>
    rw [if_pos (by rfl)]
    split
    next same => simp [same, found]
    · rfl
  | none =>
    rw [if_neg (by simp), get_insert]
    split
    next same =>
      rw [same, found]
      rfl
    · rfl

theorem get_markDelivered : (store.markDelivered eventId).get other =
    if other = eventId then (store.get other).map deliveredRow else store.get other :=
  get_update store eventId other _

theorem get_incrementRetryOrDead {maxRetries : Nat} : (store.incrementRetryOrDead eventId maxRetries).get other =
    if other = eventId then (store.get other).map (retriedRow maxRetries) else store.get other := by
  simp only [EventStore.incrementRetryOrDead, get_update]
  split
  next same =>
    rw [Option.map_map]
    congr 1
    funext row
    simp only [Function.comp_apply, retriedRow]
    split <;> rfl
  · rfl

theorem get_prune (found : (store.prune now retentionSecs).get other = some row) :
    store.get other = some row := by
  rw [EventStore.prune, get_retain] at found
  exact (Option.filter_eq_some_iff.mp found).1

theorem get_prune_pending (found : store.get other = some row) (pending : row.status = .pending) :
    (store.prune now retentionSecs).get other = some row := by
  rw [EventStore.prune, get_retain, found]
  simp [Option.filter, pending]

theorem mem_pendingOlderThan : eventId ∈ (store.pendingOlderThan now retryAgeSecs).map Event.eventId ↔
    ∃ row, store.get eventId = some row ∧ isDue now row = true := by
  simp only [EventStore.pendingOlderThan, List.map_map, List.mem_map, List.mem_filter, Prod.exists]
  constructor
  · rintro ⟨id, row, ⟨member, due⟩, rfl⟩
    exact ⟨row, (mem_toList _ _ _).mp member, due⟩
  · rintro ⟨row, found, due⟩
    exact ⟨eventId, row, ⟨(mem_toList _ _ _).mpr found, due⟩, rfl⟩

end Rows

section Statements

/-- What one statement may do to the row of an event. -/
inductive RowStep (policy : RetryPolicy) (tasks : StoreTasks) (eventId : String) :
    StoreAction → Option EventRow → Prop where
  | same {action} : RowStep policy tasks eventId action (tasks.store.get eventId)
  | stored {now event} (own : event.eventId = eventId) (absent : tasks.store.get eventId = none) :
      RowStep policy tasks eventId (.persist now event) (some (freshRow now event))
  | marked {row : EventRow} (found : tasks.store.get eventId = some row) :
      RowStep policy tasks eventId (.markDelivered eventId) (some (deliveredRow row))
  | counted {row : EventRow} (found : tasks.store.get eventId = some row)
      (selected : eventId ∈ tasks.sweep.uncounted.map Event.eventId) :
      RowStep policy tasks eventId .increment (some (retriedRow policy.maxRetries row))
  | pruned {now row} (found : tasks.store.get eventId = some row)
      (terminal : row.status ≠ .pending) : RowStep policy tasks eventId (.prune now) none

theorem RowStep.kept {action after} (same : tasks.store.get eventId = after) :
    RowStep policy tasks eventId action after := by
  subst same
  exact .same

inductive StoreStep (policy : RetryPolicy) (tasks : StoreTasks) : StoreAction → StoreTasks → Prop where
  | persisted {now event} :
      StoreStep policy tasks (.persist now event) { tasks with store := tasks.store.persist now event }
  | marked {eventId : String} :
      StoreStep policy tasks (.markDelivered eventId) { tasks with store := tasks.store.markDelivered eventId }
  | selected {now pending} (due : pending = tasks.store.pendingOlderThan now retryAgeSecs) :
      StoreStep policy tasks (.select now) { tasks with sweep := .counting pending pending }
  | counted {pending left event} (sweeping : tasks.sweep = .counting pending (event :: left)) :
      StoreStep policy tasks .increment {
        store := tasks.store.incrementRetryOrDead event.eventId policy.maxRetries
        sweep := .counting pending left }
  | pruned {now pending} :
      StoreStep policy tasks (.prune now) {
        store := tasks.store.prune now policy.retentionSecs
        sweep := .redelivering pending }
  | redelivered {sweep} (done : sweep.uncounted = []) :
      StoreStep policy tasks .redeliver { tasks with sweep }

variable {action : StoreAction}

theorem store_step (step : tasks.step policy action = some next) :
    StoreStep policy tasks action next := by
  cases action with
  | persist now event =>
    cases step
    exact .persisted
  | markDelivered id =>
    cases step
    exact .marked
  | select now =>
    simp only [StoreTasks.step, StoreTasks.select] at step
    split at step
    · cases step
      exact .selected rfl
    · cases step
  | increment =>
    simp only [StoreTasks.step, StoreTasks.increment] at step
    split at step
    next sweeping =>
      cases step
      exact .counted sweeping
    · cases step
  | prune now =>
    simp only [StoreTasks.step, StoreTasks.prune] at step
    split at step
    · cases step
      exact .pruned
    · cases step
  | redeliver =>
    simp only [StoreTasks.step, StoreTasks.redeliver] at step
    split at step
    · cases step
      exact .redelivered rfl
    · cases step
      exact .redelivered rfl
    · cases step

theorem prune_row (policy : RetryPolicy) (tasks : StoreTasks) (now : Moment) (eventId : String) :
    RowStep policy tasks eventId (.prune now) ((tasks.store.prune now policy.retentionSecs).get eventId) := by
  cases kept : (tasks.store.prune now policy.retentionSecs).get eventId with
  | some row => exact .kept (get_prune kept)
  | none =>
    cases found : tasks.store.get eventId with
    | none => exact .kept found
    | some row =>
      refine .pruned found ?_
      intro pending
      cases kept.symm.trans (get_prune_pending found pending)

theorem step_row (step : tasks.step policy action = some next) :
    RowStep policy tasks eventId action (next.store.get eventId) := by
  cases store_step step with
  | persisted =>
    rw [get_persist]
    split
    next own =>
      cases found : tasks.store.get eventId with
      | none => exact .stored own.symm found
      | some row => exact .kept found
    · exact .same
  | marked =>
    rw [get_markDelivered]
    split
    next own =>
      subst own
      cases found : tasks.store.get eventId with
      | none => exact .kept found
      | some row => exact .marked found
    · exact .same
  | counted sweeping =>
    rw [get_incrementRetryOrDead]
    split
    next own =>
      cases found : tasks.store.get eventId with
      | none => exact .kept found
      | some row =>
        refine .counted found ?_
        rw [sweeping, own]
        exact List.mem_map_of_mem List.mem_cons_self
    · exact .same
  | @pruned now => exact prune_row policy tasks now eventId
  | selected | redelivered => exact .same

theorem step_uncounted (step : tasks.step policy action = some next)
    (listed : eventId ∈ next.sweep.uncounted.map Event.eventId) :
    eventId ∈ tasks.sweep.uncounted.map Event.eventId ∨
      ∃ row, tasks.store.get eventId = some row ∧ row.status = .pending := by
  cases store_step step with
  | persisted | marked => exact .inl listed
  | selected due =>
    rw [due] at listed
    obtain ⟨row, found, due⟩ := mem_pendingOlderThan.mp listed
    simp only [isDue, Bool.decide_and, Bool.and_eq_true, decide_eq_true_eq] at due
    exact .inr ⟨row, found, due.1⟩
  | @counted _ _ event sweeping =>
    rw [sweeping]
    exact .inl (List.mem_cons_of_mem event.eventId listed)
  | pruned => cases listed
  | redelivered done =>
    rw [done] at listed
    cases listed

end Statements

section Delivered
variable {count : Nat} {action : StoreAction}

/-- The row, if it is still there, is delivered and has its count, and the worker does
not have the event on its list. -/
structure MarkedFinal (eventId : String) (count : Nat) (tasks : StoreTasks) : Prop where
  unlisted : eventId ∉ tasks.sweep.uncounted.map Event.eventId
  row : ∀ row, tasks.store.get eventId = some row → row.status = .delivered ∧ row.retryCount = count

/-- No event is stored under the id after the row is gone. -/
def notReused (eventId : String) (tasks : StoreTasks) : StoreAction → Bool
  | .persist _ event => event.eventId ≠ eventId ∨ tasks.store.containsKey eventId
  | _ => true

theorem RowStep.markedFinal {after : Option EventRow}
    (change : RowStep policy tasks eventId action after) (settled : MarkedFinal eventId count tasks)
    (allowed : notReused eventId tasks action = true)
    (found : after = some row) : row.status = .delivered ∧ row.retryCount = count := by
  cases change with
  | same => exact settled.row row found
  | stored own absent => simp [notReused, own, DashMap.containsKey, absent] at allowed
  | marked before =>
    cases found
    exact ⟨rfl, (settled.row _ before).2⟩
  | counted _ selected => exact absurd selected settled.unlisted
  | pruned => cases found

theorem MarkedFinal.step (settled : MarkedFinal eventId count tasks)
    (allowed : notReused eventId tasks action = true) (step : tasks.step policy action = some next) :
    MarkedFinal eventId count next := by
  refine ⟨?_, fun row found => (step_row step).markedFinal settled allowed found⟩
  intro listed
  rcases step_uncounted step listed with before | ⟨row, found, pending⟩
  · exact settled.unlisted before
  · rw [(settled.row row found).1] at pending
    cases pending

/-- If the worker has not selected the event when it is marked, the mark is final: the row
stays delivered with the count it had, until it is pruned. -/
theorem delivered_is_final (policy : RetryPolicy) (tasks marked later : StoreTasks) (eventId : String) (row : EventRow)
    (found : tasks.store.get eventId = some row) (unlisted : eventId ∉ tasks.sweep.uncounted.map Event.eventId)
    (step : tasks.step policy (.markDelivered eventId) = some marked)
    (run : Run (StoreTasks.step policy) (notReused eventId) marked later) :
    ∀ after, later.store.get eventId = some after → after.status = .delivered ∧ after.retryCount = row.retryCount := by
  have start : MarkedFinal eventId row.retryCount marked := by
    cases step
    refine ⟨unlisted, ?_⟩
    intro after held
    dsimp only at held
    rw [get_markDelivered, if_pos rfl, found] at held
    cases held
    exact ⟨rfl, rfl⟩
  have settled : MarkedFinal eventId row.retryCount later := by
    apply run.preserves start
    intro state action next allowed step settled
    exact settled.step allowed step
  exact settled.row

end Delivered

def onceOnly : RetryPolicy := { maxRetries := 1, retentionSecs := 3600 }

def rang : Event := { eventId := "evt-door-0-0", eventType := "plugin.door.rang", payloadJson := [], retryCount := 0 }

def atSecond (second : Nat) : Moment := { instant := fromSecs second, unixMillis := second * 1000 }

def doorTasks (actions : List StoreAction) : Option StoreTasks := exec (StoreTasks.step onceOnly) unguarded {} actions

def rangStored : StoreTasks := (doorTasks [.persist (atSecond 10000) rang]).get (by decide +kernel)

def rangMarked : StoreTasks := (rangStored.step onceOnly (.markDelivered rang.eventId)).get (by decide +kernel)

def rangLater : StoreTasks :=
  (exec (StoreTasks.step onceOnly) (notReused rang.eventId) rangMarked
    [.select (atSecond 10020), .prune (atSecond 10020)]).get
    (by decide +kernel)

theorem delivered_is_final_rang : (rangLater.store.get rang.eventId).isSome ∧
    ∀ after, rangLater.store.get rang.eventId = some after → after.status = .delivered ∧ after.retryCount = 0 :=
  ⟨by decide +kernel,
    delivered_is_final onceOnly rangStored rangMarked rangLater rang.eventId (freshRow (atSecond 10000) rang)
      (by decide +kernel) (by decide +kernel) (Option.some_get _).symm (exec_get_run (by decide +kernel))⟩

def rangLate : List StoreAction :=
  [.persist (atSecond 10000) rang, .select (atSecond 10020), .markDelivered rang.eventId, .increment]

theorem delivered_turns_dead :
    ((doorTasks (rangLate.take 3)).bind fun tasks => tasks.store.get rang.eventId).map
        (fun row => (row.status, row.retryCount)) = some (.delivered, 0) ∧
      ((doorTasks rangLate).bind fun tasks => tasks.store.get rang.eventId).map
        (fun row => (row.status, row.retryCount)) = some (.dead, 1) := by
  decide +kernel

end Vynkor.Proofs
