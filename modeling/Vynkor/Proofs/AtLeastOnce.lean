import Vynkor.Proofs.EventRows
import Vynkor.Proofs.Publications
import Vynkor.Scenario

/-! The kernel and the retry worker on one events table: how long a published event
stays pending. Every step of theirs is a statement of the store, or none. -/

namespace Vynkor.Proofs
open Execution RouterState
variable {β : Type} {ctx : Context β} {policy : RetryPolicy} {outbox next : Outbox β} {action : OutboxAction β}

section Refinement
variable {store : EventStore}

def RecordChange.statement : RecordChange → Option StoreAction
  | .quiet => none
  | .system now event | .plugin now event => some (.persist now event)
  | .acknowledged eventId => some (.markDelivered eventId)

def statement (ctx : Context β) (outbox : Outbox β) : OutboxAction β → Option StoreAction
  | .kernel action => (stepChange ctx outbox.kernel action).statement
  | .select now => some (.select now)
  | .increment => some .increment
  | .prune now => some (.prune now)
  | .redeliver _ => some .redeliver

def Executes (policy : RetryPolicy) (tasks next : StoreTasks) : Option StoreAction → Prop
  | none => next = tasks
  | some statement => tasks.step policy statement = some next

theorem RecordChange.executes (policy : RetryPolicy) (change : RecordChange) (seq : Nat) (sweep : Sweep) :
    ∃ later, (change.apply { store := some store, eventSeq := seq }).store = some later ∧
      Executes policy { store, sweep } { store := later, sweep } change.statement := by
  cases change with
  | quiet => exact ⟨store, rfl, rfl⟩
  | system now event | plugin now event => exact ⟨store.persist now event, rfl, rfl⟩
  | acknowledged eventId => exact ⟨store.markDelivered eventId, rfl, rfl⟩

theorem work_executes (change : StoreTasks → Option StoreTasks) (present : outbox.kernel.router.store = some store)
    (step : outbox.work change = some next) :
    ∃ later, next.kernel.router.store = some later ∧
      change { store, sweep := outbox.sweep } = some { store := later, sweep := next.sweep } := by
  simp only [Outbox.work, present] at step
  obtain ⟨tasks, worked, rfl⟩ := Option.map_eq_some_iff.mp step
  exact ⟨tasks.store, rfl, worked⟩

theorem outbox_executes (present : outbox.kernel.router.store = some store)
    (step : outbox.step ctx policy action = some next) :
    ∃ later, next.kernel.router.store = some later ∧
      Executes policy { store, sweep := outbox.sweep } { store := later, sweep := next.sweep }
        (statement ctx outbox action) := by
  cases action with
  | kernel action =>
    obtain ⟨kernel, moved, rfl⟩ := Option.map_eq_some_iff.mp step
    have changed := congrArg Records.store (step_records moved)
    have before : records outbox.kernel.router = { store := some store, eventSeq := outbox.kernel.router.eventSeq } := by
      rw [records, present]
    rw [before] at changed
    obtain ⟨later, applied, executes⟩ := (stepChange ctx outbox.kernel action).executes policy
      outbox.kernel.router.eventSeq outbox.sweep
    exact ⟨later, changed.trans applied, executes⟩
  | select now => exact work_executes (fun tasks => tasks.select now) present step
  | increment => exact work_executes (fun tasks => tasks.increment policy) present step
  | prune now => exact work_executes (fun tasks => tasks.prune policy now) present step
  | redeliver now =>
    simp only [Outbox.step, Outbox.redeliver] at step
    split at step
    next event left sweeping =>
      cases step
      refine ⟨store, ?_, ?_⟩
      · have told : Talk Anything outbox.kernel.router (outbox.kernel.router.deliver ctx now event) :=
          deliver_talk fun _ _ _ => trivial
        exact (congrArg Records.store told.records).trans present
      · simp [Executes, statement, StoreTasks.step, StoreTasks.redeliver, sweeping]
    next sweeping =>
      cases step
      exact ⟨store, present, by simp [Executes, statement, StoreTasks.step, StoreTasks.redeliver, sweeping]⟩
    · cases step

end Refinement

section Pending
variable {event : Event} {pluginId : String} {store : EventStore} {row : EventRow}

def acknowledger (ctx : Context β) (eventId : String) (outbox : Outbox β) : OutboxAction β → Option String
  | .kernel (.route now) =>
    match outbox.kernel.incoming with
    | [] => none
    | msg :: _ =>
      match routedChange ctx now msg outbox.kernel.router with
      | .acknowledged acked => if acked = eventId then some (outbox.kernel.router.senderId msg) else none
      | _ => none
  | _ => none

section
variable (ctx : Context β) (eventId pluginId : String) (outbox : Outbox β) (action : OutboxAction β)

def othersSilent : Bool :=
  (acknowledger ctx eventId outbox action).all (· == pluginId)

def selfSilent : Bool :=
  acknowledger ctx eventId outbox action != some pluginId

end

def rowIn (outbox : Outbox β) (eventId : String) : Option EventRow :=
  outbox.kernel.router.store.bind fun store => store.get eventId

def retriable (policy : RetryPolicy) (eventId : String) (outbox : Outbox β) : Bool :=
  (rowIn outbox eventId).all fun row => row.retryCount < policy.maxRetries

def unanswered (ctx : Context β) (policy : RetryPolicy) (eventId pluginId : String) (outbox : Outbox β)
    (action : OutboxAction β) : Bool :=
  othersSilent ctx eventId pluginId outbox action && selfSilent ctx eventId pluginId outbox action &&
    retriable policy eventId outbox

theorem acknowledger_of_mark {eventId : String} (marks : statement ctx outbox action = some (.markDelivered eventId)) :
    (acknowledger ctx eventId outbox action).isSome = true := by
  cases action with
  | kernel action =>
    cases action with
    | route now =>
      simp only [statement, stepChange] at marks
      split at marks
      · cases marks
      next msg rest head =>
        cases change : routedChange ctx now msg outbox.kernel.router with
        | acknowledged acked =>
          rw [change] at marks
          cases marks
          simp [acknowledger, head, change]
        | quiet | system | plugin =>
          rw [change] at marks
          cases marks
    | publishLeft transport now =>
      simp only [statement, stepChange] at marks
      split at marks <;> cases marks
    | _ => cases marks
  | _ => cases marks

/-- The event has its row, which is pending as long as there are retries left. -/
structure Waiting (policy : RetryPolicy) (event : Event) (store : EventStore) (row : EventRow) : Prop where
  found : store.get event.eventId = some row
  eventType : row.eventType = event.eventType
  payloadJson : row.payloadJson = event.payloadJson
  pending : row.retryCount < policy.maxRetries → row.status = .pending

theorem Waiting.retried {store later : EventStore} (waiting : Waiting policy event store row)
    (left : row.retryCount < policy.maxRetries)
    (found : later.get event.eventId = some (retriedRow policy.maxRetries row)) :
    Waiting policy event later (retriedRow policy.maxRetries row) := by
  refine ⟨found, waiting.eventType, waiting.payloadJson, ?_⟩
  intro more
  have below : ¬policy.maxRetries ≤ row.retryCount + 1 := Nat.not_le.mpr more
  simp only [retriedRow, if_neg below]
  exact waiting.pending left

theorem Waiting.statement {later sweep action} (waiting : Waiting policy event store row)
    (left : row.retryCount < policy.maxRetries)
    (unmarked : action ≠ .markDelivered event.eventId)
    (step : StoreTasks.step policy { store, sweep } action = some later) :
    ∃ row, Waiting policy event later.store row := by
  have change : RowStep policy { store, sweep } event.eventId action (later.store.get event.eventId) := step_row step
  generalize held : later.store.get event.eventId = after at change
  cases change with
  | same => exact ⟨row, held.trans waiting.found, waiting.eventType, waiting.payloadJson, waiting.pending⟩
  | stored _ absent => cases absent.symm.trans waiting.found
  | marked => exact absurd rfl unmarked
  | counted found =>
    cases found.symm.trans waiting.found
    exact ⟨_, waiting.retried left held⟩
  | pruned found terminal =>
    cases found.symm.trans waiting.found
    exact absurd (waiting.pending left) terminal

theorem Waiting.step (present : outbox.kernel.router.store = some store)
    (waiting : Waiting policy event store row)
    (allowed : unanswered ctx policy event.eventId pluginId outbox action = true)
    (step : outbox.step ctx policy action = some next) :
    ∃ later row, next.kernel.router.store = some later ∧ Waiting policy event later row := by
  obtain ⟨later, kept, executes⟩ := outbox_executes present step
  simp only [unanswered, Bool.and_eq_true] at allowed
  obtain ⟨⟨others, own⟩, retries⟩ := allowed
  have left : row.retryCount < policy.maxRetries := by
    simpa [retriable, rowIn, present, waiting.found] using retries
  cases executed : Proofs.statement ctx outbox action with
  | none =>
    rw [executed] at executes
    obtain ⟨rfl, _⟩ := StoreTasks.mk.inj executes
    exact ⟨later, row, kept, waiting⟩
  | some action =>
    rw [executed] at executes
    have unmarked : action ≠ .markDelivered event.eventId := by
      rintro rfl
      obtain ⟨acking, known⟩ := Option.isSome_iff_exists.mp (acknowledger_of_mark executed)
      simp only [othersSilent, selfSilent, known, Option.all_some, beq_iff_eq] at others own
      simp [others] at own
    obtain ⟨after, held⟩ := waiting.statement left unmarked executes
    exact ⟨later, after, kept, held⟩

theorem waiting_due {now : Moment} (waiting : Waiting policy event store row)
    (left : row.retryCount < policy.maxRetries) (old : row.createdAt ≤ now.unixSecs - retryAgeSecs) :
    ∃ copy ∈ store.pendingOlderThan now retryAgeSecs, copy.eventId = event.eventId ∧
      copy.eventType = event.eventType ∧ copy.payloadJson = event.payloadJson := by
  refine ⟨_, List.mem_map_of_mem (List.mem_filter.mpr ⟨(DashMap.mem_toList _ _ _).mpr waiting.found, ?_⟩), rfl,
    waiting.eventType, waiting.payloadJson⟩
  simp [waiting.pending left, old]

theorem published_waiting {before published : Outbox β} {action : Action β}
    (present : before.kernel.router.store = some store) (unused : store.get event.eventId = none)
    (publishes : (stepChange ctx before.kernel action).event = some event)
    (step : before.step ctx policy (.kernel action) = some published) :
    ∃ stored row, published.kernel.router.store = some stored ∧ Waiting policy event stored row := by
  obtain ⟨stored, kept, executes⟩ := outbox_executes present step
  obtain ⟨now, persists⟩ : ∃ now, statement ctx before (.kernel action) = some (.persist now event) := by
    simp only [statement]
    cases change : stepChange ctx before.kernel action with
    | system now | plugin now =>
      rw [change] at publishes
      cases publishes
      exact ⟨now, rfl⟩
    | quiet | acknowledged =>
      rw [change] at publishes
      cases publishes
  rw [persists] at executes
  obtain ⟨rfl, _⟩ := StoreTasks.mk.inj (Option.some.inj executes)
  refine ⟨_, freshRow now event, kept, ?_, rfl, rfl, fun _ => rfl⟩
  rw [get_persist, if_pos rfl, unused]
  rfl

/-- If no other plugin acknowledges it, an event that a plugin has not acknowledged stays
pending while it has retries left, and every sweep that finds it old enough selects it. -/
theorem pending_until_acknowledged (ctx : Context β) (policy : RetryPolicy) (before published later : Outbox β)
    (action : Action β) (event : Event) (store : EventStore) (pluginId : String)
    (present : before.kernel.router.store = some store) (unused : store.get event.eventId = none)
    (publishes : (stepChange ctx before.kernel action).event = some event)
    (step : before.step ctx policy (.kernel action) = some published)
    (run : Run (Outbox.step ctx policy) (unanswered ctx policy event.eventId pluginId) published later) :
    ∃ stored row, later.kernel.router.store = some stored ∧ stored.get event.eventId = some row ∧
      (row.retryCount < policy.maxRetries → row.status = .pending ∧
        ∀ now, row.createdAt ≤ now.unixSecs - retryAgeSecs →
          ∃ copy ∈ stored.pendingOlderThan now retryAgeSecs, copy.eventId = event.eventId ∧
            copy.eventType = event.eventType ∧ copy.payloadJson = event.payloadJson) := by
  obtain ⟨stored, row, kept, waiting⟩ :
      ∃ stored row, later.kernel.router.store = some stored ∧ Waiting policy event stored row := by
    apply run.preserves (published_waiting present unused publishes step)
    intro state action next allowed step held
    obtain ⟨stored, row, present, waiting⟩ := held
    exact waiting.step present allowed step
  refine ⟨stored, row, kept, waiting.found, ?_⟩
  intro left
  exact ⟨waiting.pending left, fun now old => waiting_due waiting left old⟩

end Pending

section Porch
open Scenario

def threeRetries : RetryPolicy := { maxRetries := 3, retentionSecs := 3600 }

def porchReceives (conn : Nat) (payload : Payload) : List (OutboxAction Packet) :=
  [.kernel (.receive (sends conn "kernel" payload)), .kernel (.route start)]

def porchOpens : List (OutboxAction Packet) :=
  [.kernel (.accept 1 .uds), .kernel (.accept 2 .uds), .kernel (.accept 3 .uds)] ++
    porchReceives 1 (.pluginRegister { pluginId := "lamp" }) ++
    porchReceives 2 (.pluginRegister { pluginId := "clock" }) ++
    porchReceives 1 (.subscribe ["system.plugin_joined"]) ++ porchReceives 2 (.subscribe ["system.plugin_joined"]) ++
    [.kernel (.receive (hello 3 "door"))]

def porch (actions : List (OutboxAction Packet)) : Option (Outbox Packet) :=
  exec (Outbox.step context threeRetries) unguarded { kernel := { router := { store := some ∅ } } } actions

def doorWaits : Outbox Packet := (porch porchOpens).get (by decide +kernel)

def doorJoins : Outbox Packet := (doorWaits.step context threeRetries (.kernel (.route start))).get (by decide +kernel)

def doorStore : EventStore := doorWaits.kernel.router.store.get (by decide +kernel)

def doorEvent : Event := (stepChange context doorWaits.kernel (.route start)).event.get (by decide +kernel)

def doorLater : Outbox Packet :=
  (exec (Outbox.step context threeRetries) (unanswered context threeRetries doorEvent.eventId "lamp") doorJoins
    [.select (atSecond 20), .increment, .increment, .increment, .prune (atSecond 20), .redeliver (atSecond 20)]).get
      (by decide +kernel)

theorem pending_until_acknowledged_door :
    ∃ stored row, doorLater.kernel.router.store = some stored ∧ stored.get doorEvent.eventId = some row ∧
      (row.retryCount < 3 → row.status = .pending ∧
        ∀ now, row.createdAt ≤ now.unixSecs - retryAgeSecs →
          ∃ copy ∈ stored.pendingOlderThan now retryAgeSecs, copy.eventId = doorEvent.eventId ∧
            copy.eventType = doorEvent.eventType ∧ copy.payloadJson = doorEvent.payloadJson) :=
  pending_until_acknowledged context threeRetries doorWaits doorJoins doorLater (.route start) doorEvent doorStore "lamp"
    (Option.some_get _).symm (by decide +kernel) (Option.some_get _).symm (Option.some_get _).symm
    (exec_get_run (by decide +kernel))

example : (rowIn doorLater doorEvent.eventId).map (fun row => (row.status, row.retryCount)) = some (.pending, 1) := by
  decide +kernel

def doorAcked : Outbox Packet :=
  (exec (Outbox.step context threeRetries) unguarded doorJoins
    (porchReceives 2 (.eventAck doorEvent.eventId) ++ [.select (atSecond 20)])).get (by decide +kernel)

/-- The lamp is registered and subscribed and has not acknowledged the event, which is
delivered and not selected any more. -/
theorem pending_ended_by_other :
    Run (Outbox.step context threeRetries) unguarded doorJoins doorAcked ∧
    (rowIn doorJoins doorEvent.eventId).map (fun row => (row.status, row.retryCount)) = some (.pending, 0) ∧
    "lamp" ∈ doorAcked.kernel.router.bus.targets doorEvent.eventType ∧
    (doorAcked.kernel.router.registry.get "lamp").isSome ∧
    (rowIn doorAcked doorEvent.eventId).map (fun row => (row.status, row.retryCount)) = some (.delivered, 0) ∧
    ¬∃ copy ∈ doorAcked.sweep.uncounted, copy.eventId = doorEvent.eventId :=
  ⟨exec_get_run (by decide +kernel), by decide +kernel, by decide +kernel, by decide +kernel, by decide +kernel,
    by decide +kernel⟩

end Porch
end Vynkor.Proofs
