import Vynkor.Proofs.AtLeastOnce

/-! How often the worker delivers an event again that nobody acknowledges. A sweep selects
the event, counts a retry, which may leave it dead, and then delivers it from the list it
selected. -/

namespace Vynkor.Proofs
open Execution
variable {policy : RetryPolicy} {eventId : String}

/-- Beside a run, what became of one event: when it was stored, how often it was delivered
again, and how many sweeps are over that found it older than the retry age. -/
structure Retold where
  storedAt : Option Nat := none
  redelivered : Nat := 0
  sweeps : Nat := 0
  sweeping : Bool := false
  deriving DecidableEq

namespace Retold
variable (eventId : String) (retold : Retold)

def olderThan (now : Moment) : Bool :=
  retold.storedAt.any fun millis => millis + 1000 * retryAgeSecs < now.unixMillis

/-- The worker delivers the next event on its list, or is through with it. -/
def tell : Sweep → Retold
  | .redelivering (event :: _) =>
    if event.eventId = eventId then { retold with redelivered := retold.redelivered + 1 } else retold
  | .redelivering [] => { retold with sweeps := retold.sweeps + retold.sweeping.toNat, sweeping := false }
  | _ => retold

def after (sweep : Sweep) : StoreAction → Retold
  | .persist now event =>
    if event.eventId = eventId then { retold with storedAt := some now.unixMillis } else retold
  | .select now => { retold with sweeping := retold.olderThan now }
  | .redeliver => retold.tell eventId sweep
  | _ => retold

def permits : StoreAction → Bool
  | .persist _ event => event.eventId ≠ eventId ∨ retold.storedAt = none
  | .markDelivered acked => acked ≠ eventId
  | _ => true

end Retold

section Counting
variable {tasks next : StoreTasks} {retold : Retold} {action : StoreAction} {row after : Option EventRow}
  {uncounted owed millis : Nat}

def copies (eventId : String) (events : List Event) : Nat := (events.map Event.eventId).count eventId

def owedIn (eventId : String) : Sweep → Nat
  | .sleeping => 0
  | .counting pending _ => copies eventId pending
  | .redelivering left => copies eventId left

theorem copies_cons (event : Event) (events : List Event) :
    copies eventId (event :: events) = copies eventId events + if event.eventId = eventId then 1 else 0 := by
  simp [copies, List.count_cons]

theorem copies_selected (store : EventStore) (now : Moment) :
    copies eventId (store.pendingOlderThan now retryAgeSecs) =
      if (store.get eventId).any (isDue now) then 1 else 0 := by
  have once : ((store.pendingOlderThan now retryAgeSecs).map Event.eventId).Nodup := by
    rw [EventStore.pendingOlderThan, List.map_map]
    exact DashMap.nodup_keys_filter store _
  have listed : eventId ∈ (store.pendingOlderThan now retryAgeSecs).map Event.eventId ↔
      (store.get eventId).any (isDue now) = true := by
    rw [mem_pendingOlderThan]
    cases store.get eventId with
    | none => simp
    | some row => simp
  split
  next due => exact List.count_eq_one_of_mem once (listed.mpr due)
  next idle => exact List.count_eq_zero.mpr fun member => idle (listed.mp member)

/-- Where the event stands once it is stored. The retries that are counted and those that
are about to be are the deliveries made and owed. -/
inductive RetryStage (policy : RetryPolicy) (row : Option EventRow) (uncounted owed : Nat) (retold : Retold)
    (millis : Nat) : Prop where
  | pending (held : EventRow) (found : row = some held) (status : held.status = .pending)
      (created : held.createdAt = millis / 1000) (left : held.retryCount < max 1 policy.maxRetries)
      (counted : held.retryCount + uncounted = retold.redelivered + owed)
      (swept : retold.sweeps + retold.sweeping.toNat ≤ retold.redelivered + owed)
  | spent (dead : ∀ held, row = some held → held.status = .dead) (counted : uncounted = 0)
      (total : retold.redelivered + owed = max 1 policy.maxRetries)

structure Reckoned (policy : RetryPolicy) (row : Option EventRow) (uncounted owed : Nat) (retold : Retold) :
    Prop where
  once : uncounted ≤ owed ∧ owed ≤ 1
  ahead : 0 < owed → retold.sweeps ≤ retold.redelivered
  unstored : retold.storedAt = none → row = none ∧ owed = 0 ∧ retold.redelivered = 0 ∧ retold.sweeps = 0 ∧
    retold.sweeping = false
  stored : ∀ millis, retold.storedAt = some millis → RetryStage policy row uncounted owed retold millis

theorem Reckoned.persisted (tally : Reckoned policy row uncounted owed retold) (unstored : retold.storedAt = none)
    (now : Moment) (event : Event) :
    Reckoned policy (some (freshRow now event)) uncounted owed { retold with storedAt := some now.unixMillis } := by
  obtain ⟨absent, none, told, sweeps, idle⟩ := tally.unstored unstored
  have uncountedNone : uncounted = 0 := by
    have := tally.once
    omega
  refine ⟨tally.once, tally.ahead, by simp, ?_⟩
  intro millis stored
  cases stored
  refine .pending (freshRow now event) rfl rfl rfl (by simp [freshRow]) ?_ ?_
  · simp [freshRow, uncountedNone, none, told]
  · simp [idle, sweeps]

theorem isDue_iff {held now} : isDue now held = true ↔
    held.status = .pending ∧ held.createdAt ≤ now.unixSecs - retryAgeSecs := by
  simp [isDue]

theorem due_of_older {held now} (status : held.status = .pending)
    (created : held.createdAt = millis / 1000) (older : millis + 1000 * retryAgeSecs < now.unixMillis) :
    isDue now held = true := by
  refine isDue_iff.mpr ⟨status, ?_⟩
  simp only [Moment.unixSecs, retryAgeSecs] at older ⊢
  omega

theorem Reckoned.selected (tally : Reckoned policy row 0 0 retold) (now : Moment) {chosen}
    (selected : chosen = if row.any (isDue now) then 1 else 0) :
    Reckoned policy row chosen chosen { retold with sweeping := retold.olderThan now } := by
  have single : chosen ≤ 1 := by
    rw [selected]
    split <;> omega
  refine ⟨⟨le_rfl, single⟩, ?_, ?_, ?_⟩
  · intro positive
    have due : row.any (isDue now) = true := by
      by_contra idle
      rw [if_neg idle] at selected
      omega
    cases stored : retold.storedAt with
    | none =>
      rw [(tally.unstored stored).1] at due
      simp at due
    | some millis =>
      cases tally.stored millis stored with
      | pending held found status created left counted swept =>
        dsimp only
        omega
      | spent dead counted total =>
        cases row with
        | none => simp at due
        | some held =>
          have pending := (isDue_iff.mp due).1
          rw [dead held rfl] at pending
          cases pending
  · intro (unstored : retold.storedAt = none)
    obtain ⟨absent, none, told, sweeps, _⟩ := tally.unstored unstored
    subst absent
    exact ⟨rfl, by simpa using selected, told, sweeps, by simp [Retold.olderThan, unstored]⟩
  · intro millis (stored : retold.storedAt = some millis)
    cases tally.stored millis stored with
    | pending held found status created left counted swept =>
      refine .pending held found status created left (by dsimp only; omega) ?_
      cases older : retold.olderThan now with
      | false =>
        simp only [Bool.toNat_false]
        omega
      | true =>
        have due : isDue now held = true := by
          rw [Retold.olderThan, stored] at older
          exact due_of_older status created (of_decide_eq_true older)
        rw [found, Option.any_some, if_pos due] at selected
        simp only [Bool.toNat_true]
        omega
    | spent dead counted total =>
      have unchosen : chosen = 0 := by
        rw [selected, if_neg]
        intro due
        cases row with
        | none => simp at due
        | some held =>
          have pending := (isDue_iff.mp due).1
          rw [dead held rfl] at pending
          cases pending
      subst unchosen
      exact .spent dead rfl total

theorem Reckoned.counted (tally : Reckoned policy row (uncounted + 1) owed retold) :
    Reckoned policy (row.map (retriedRow policy.maxRetries)) uncounted owed retold := by
  have once := tally.once
  refine ⟨by omega, tally.ahead, ?_, ?_⟩
  · intro unstored
    have := (tally.unstored unstored).2.1
    omega
  · intro millis stored
    cases tally.stored millis stored with
    | spent dead counted total => cases counted
    | pending held found status created left counted swept =>
      subst found
      by_cases last : policy.maxRetries ≤ held.retryCount + 1
      · refine .spent ?_ (by omega) (by omega)
        intro after same
        cases same
        simp [retriedRow, last]
      · refine .pending (retriedRow policy.maxRetries held) rfl (by simp [retriedRow, last, status]) created ?_ ?_ swept
        · simp only [retriedRow]
          omega
        · simp only [retriedRow]
          omega

theorem Reckoned.pruned (tally : Reckoned policy row 0 owed retold)
    (kept : after = row ∨ after = none ∧ ∃ held, row = some held ∧ held.status ≠ .pending) :
    Reckoned policy after 0 owed retold := by
  rcases kept with rfl | ⟨rfl, held, rfl, terminal⟩
  · exact tally
  · refine ⟨tally.once, tally.ahead, ?_, ?_⟩
    · intro unstored
      cases (tally.unstored unstored).1
    · intro millis stored
      cases tally.stored millis stored with
      | pending found same status =>
        cases same
        exact absurd status terminal
      | spent dead counted total => exact .spent (by simp) counted total

theorem Reckoned.redelivered (tally : Reckoned policy row 0 (owed + 1) retold) :
    Reckoned policy row 0 owed { retold with redelivered := retold.redelivered + 1 } := by
  have once := tally.once
  refine ⟨by omega, by omega, ?_, ?_⟩
  · intro unstored
    cases (tally.unstored unstored).2.1
  · intro millis stored
    cases tally.stored millis stored with
    | pending held found status created left counted swept =>
      refine .pending held found status created left ?_ ?_
      · dsimp only
        omega
      · dsimp only
        omega
    | spent dead counted total =>
      refine .spent dead rfl ?_
      dsimp only
      omega

theorem Reckoned.swept (tally : Reckoned policy row 0 0 retold) :
    Reckoned policy row 0 0 { retold with sweeps := retold.sweeps + retold.sweeping.toNat, sweeping := false } := by
  refine ⟨tally.once, by simp, ?_, ?_⟩
  · intro unstored
    obtain ⟨absent, none, told, sweeps, idle⟩ := tally.unstored unstored
    exact ⟨absent, none, told, by simp [sweeps, idle], rfl⟩
  · intro millis stored
    cases tally.stored millis stored with
    | pending held found status created left counted swept =>
      exact .pending held found status created left counted swept
    | spent dead counted total => exact .spent dead counted total

def ReckonedIn (policy : RetryPolicy) (eventId : String) (tasks : StoreTasks) (retold : Retold) : Prop :=
  Reckoned policy (tasks.store.get eventId) (copies eventId tasks.sweep.uncounted) (owedIn eventId tasks.sweep) retold

section
variable (tally : ReckonedIn policy eventId tasks retold)
include tally

theorem ReckonedIn.persist (now : Moment) (event : Event)
    (allowed : retold.permits eventId (.persist now event) = true) :
    ReckonedIn policy eventId { tasks with store := tasks.store.persist now event }
      (retold.after eventId tasks.sweep (.persist now event)) := by
  simp only [ReckonedIn, Retold.after, get_persist, eq_comm] at tally ⊢
  split
  next own =>
    have unstored : retold.storedAt = none := by simpa [Retold.permits, own] using allowed
    rw [(tally.unstored unstored).1]
    exact tally.persisted unstored now event
  · exact tally

theorem ReckonedIn.select (now : Moment) (step : tasks.select now = some next) :
    ReckonedIn policy eventId next (retold.after eventId tasks.sweep (.select now)) := by
  simp only [StoreTasks.select] at step
  split at step
  next asleep =>
    cases step
    rw [ReckonedIn, asleep] at tally
    exact tally.selected now (copies_selected tasks.store now)
  · cases step

theorem ReckonedIn.increment (step : tasks.increment policy = some next) : ReckonedIn policy eventId next retold := by
  simp only [StoreTasks.increment] at step
  split at step
  next pending event left counting =>
    cases step
    rw [ReckonedIn, counting, Sweep.uncounted, copies_cons] at tally
    rw [ReckonedIn, get_incrementRetryOrDead]
    by_cases own : event.eventId = eventId
    · rw [if_pos own] at tally
      rw [if_pos own.symm]
      exact tally.counted
    · rw [if_neg own] at tally
      rw [if_neg fun same => own same.symm]
      exact tally
  · cases step

theorem ReckonedIn.prune (now : Moment)
    (step : tasks.prune policy now = some next) : ReckonedIn policy eventId next retold := by
  have change := prune_row policy tasks now eventId
  simp only [StoreTasks.prune] at step
  split at step
  next pending counting =>
    cases step
    rw [ReckonedIn, counting] at tally
    apply Reckoned.pruned tally
    dsimp only
    generalize (tasks.store.prune now policy.retentionSecs).get eventId = after at change ⊢
    cases change with
    | same => exact .inl rfl
    | pruned found terminal => exact .inr ⟨rfl, _, found, terminal⟩
  · cases step

theorem ReckonedIn.redeliver (step : tasks.redeliver = some next) :
    ReckonedIn policy eventId next (retold.after eventId tasks.sweep .redeliver) := by
  simp only [StoreTasks.redeliver] at step
  split at step
  next event left redelivering =>
    cases step
    rw [ReckonedIn, redelivering, owedIn, copies_cons] at tally
    rw [Retold.after, redelivering, Retold.tell]
    by_cases own : event.eventId = eventId
    · rw [if_pos own] at tally ⊢
      exact tally.redelivered
    · rw [if_neg own] at tally ⊢
      exact tally
  next redelivering =>
    cases step
    rw [ReckonedIn, redelivering] at tally
    rw [Retold.after, redelivering]
    exact tally.swept
  · cases step

theorem ReckonedIn.step (allowed : retold.permits eventId action = true) (step : tasks.step policy action = some next) :
    ReckonedIn policy eventId next (retold.after eventId tasks.sweep action) := by
  cases action with
  | persist now event =>
    cases step
    exact tally.persist now event allowed
  | markDelivered acked =>
    cases step
    have other : eventId ≠ acked := by
      rintro rfl
      simp [Retold.permits] at allowed
    rw [ReckonedIn, get_markDelivered, if_neg other]
    exact tally
  | select now => exact tally.select now step
  | increment => exact tally.increment step
  | prune now => exact tally.prune now step
  | redeliver => exact tally.redeliver step

theorem ReckonedIn.settled (swept : policy.maxRetries < retold.sweeps) :
    retold.redelivered = max 1 policy.maxRetries ∧
      ∀ row, tasks.store.get eventId = some row → row.status = .dead := by
  have once := tally.once
  have ahead := tally.ahead
  cases stored : retold.storedAt with
  | none =>
    obtain ⟨_, _, _, none, _⟩ := tally.unstored stored
    omega
  | some millis =>
    cases tally.stored millis stored with
    | pending held found status created left counted swept => omega
    | spent dead counted total => exact ⟨by omega, dead⟩

end

end Counting

section Worker
variable {β : Type} {ctx : Context β} {outbox next : Outbox β} {retold : Retold} {action : OutboxAction β}
  {state : Outbox β × Retold}

def retoldStep (ctx : Context β) (policy : RetryPolicy) (eventId : String) (state : Outbox β × Retold)
    (action : OutboxAction β) : Option (Outbox β × Retold) :=
  (state.1.step ctx policy action).map fun next =>
    (next, (statement ctx state.1 action).elim state.2 (state.2.after eventId state.1.sweep))

def toldOnce (ctx : Context β) (eventId : String) (state : Outbox β × Retold) (action : OutboxAction β) : Bool :=
  (statement ctx state.1 action).all (state.2.permits eventId)

def ReckonedOutbox (policy : RetryPolicy) (eventId : String) (state : Outbox β × Retold) : Prop :=
  ∃ store, state.1.kernel.router.store = some store ∧
    ReckonedIn policy eventId { store, sweep := state.1.sweep } state.2

theorem retoldStep_reckoned {after} (allowed : toldOnce ctx eventId state action = true)
    (step : retoldStep ctx policy eventId state action = some after)
    (tally : ReckonedOutbox policy eventId state) : ReckonedOutbox policy eventId after := by
  obtain ⟨store, present, tally⟩ := tally
  obtain ⟨next, moved, rfl⟩ := Option.map_eq_some_iff.mp step
  obtain ⟨later, kept, executes⟩ := outbox_executes present moved
  refine ⟨later, kept, ?_⟩
  simp only [toldOnce] at allowed
  cases executed : statement ctx state.1 action with
  | none =>
    rw [executed] at executes
    rw [executes]
    exact tally
  | some action =>
    rw [executed] at executes allowed
    exact tally.step allowed executes

theorem Retold.sweeps_le_after (retold : Retold) (eventId : String) (sweep : Sweep) (action : StoreAction) :
    retold.sweeps ≤ (retold.after eventId sweep action).sweeps := by
  cases action with
  | persist now event =>
    simp only [Retold.after]
    split <;> exact le_rfl
  | redeliver =>
    simp only [Retold.after]
    fun_cases Retold.tell eventId retold sweep <;> simp
  | _ => exact le_rfl

theorem sweeps_le_of_run {later}
    (run : Run (retoldStep ctx policy eventId) (toldOnce ctx eventId) state later) :
    state.2.sweeps ≤ later.2.sweeps := by
  apply run.preserves
  · exact le_rfl
  intro before action after _ step grown
  obtain ⟨next, moved, rfl⟩ := Option.map_eq_some_iff.mp step
  refine grown.trans ?_
  cases statement ctx before.1 action with
  | none => exact le_rfl
  | some action => exact before.2.sweeps_le_after eventId before.1.sweep action

theorem ReckonedOutbox.settled (tally : ReckonedOutbox policy eventId state)
    (swept : policy.maxRetries + 1 ≤ state.2.sweeps) :
    state.2.redelivered = max 1 policy.maxRetries ∧ ∀ row, rowIn state.1 eventId = some row → row.status = .dead := by
  obtain ⟨store, present, tally⟩ := tally
  obtain ⟨told, dead⟩ := tally.settled swept
  refine ⟨told, ?_⟩
  intro row found
  rw [rowIn, present] at found
  exact dead row found

/-- Once there have been more sweeps than retries, an event that is stored once and never
acknowledged has been delivered again as often as there are retries, but once at least;
then it is dead, and no sweep delivers it any more. -/
theorem redelivered_exactly (ctx : Context β) (policy : RetryPolicy) (eventId : String) (start : Outbox β)
    (store : EventStore) (present : start.kernel.router.store = some store) (unused : store.get eventId = none)
    (asleep : start.sweep = .sleeping) (state : Outbox β × Retold)
    (run : Run (retoldStep ctx policy eventId) (toldOnce ctx eventId) (start, {}) state)
    (swept : policy.maxRetries + 1 ≤ state.2.sweeps) :
    (state.2.redelivered = policy.maxRetries ↔ 0 < policy.maxRetries) ∧
      state.2.redelivered = max 1 policy.maxRetries ∧ (∀ row, rowIn state.1 eventId = some row → row.status = .dead) ∧
      ∀ later, Run (retoldStep ctx policy eventId) (toldOnce ctx eventId) state later →
        later.2.redelivered = state.2.redelivered := by
  have tally : ∀ reached, Run (retoldStep ctx policy eventId) (toldOnce ctx eventId) (start, {}) reached →
      ReckonedOutbox policy eventId reached := by
    intro reached run
    apply run.preserves
    · refine ⟨store, present, ?_⟩
      rw [ReckonedIn, asleep, unused]
      exact ⟨⟨le_rfl, Nat.zero_le 1⟩, fun _ => le_rfl, fun _ => ⟨rfl, rfl, rfl, rfl, rfl⟩, by simp⟩
    intro before action after allowed step tally
    exact retoldStep_reckoned allowed step tally
  obtain ⟨told, dead⟩ := (tally state run).settled swept
  refine ⟨by omega, told, dead, ?_⟩
  intro later rest
  rw [told]
  exact ((tally later (run.trans rest)).settled (swept.trans (sweeps_le_of_run rest))).1

end Worker

section Bulb
open Scenario

def bulbId : String := "sys-joined-bulb-10000000"

def bulbStart : Outbox Packet := { kernel := { router := { store := some ∅ } } }

def bulbJoins : List (OutboxAction Packet) :=
  [.kernel (.accept 1 .uds), .kernel (.receive (hello 1 "bulb")),
    .kernel (.route (atSecond 10000))]

def sweepAt (second pending : Nat) : List (OutboxAction Packet) :=
  [.select (atSecond second)] ++ List.replicate pending .increment ++ [.prune (atSecond second)] ++
    List.replicate (pending + 1) (.redeliver (atSecond second))

def bulbRun (policy : RetryPolicy) : Option (Outbox Packet × Retold) :=
  exec (retoldStep context policy bulbId) (toldOnce context bulbId) (bulbStart, {})
    (bulbJoins ++ sweepAt 10020 1 ++ sweepAt 10030 0)

def bulbEnd : Outbox Packet × Retold := (bulbRun onceOnly).get (by decide +kernel)

theorem redelivered_exactly_bulb : bulbEnd.2.redelivered = 1 ∧
    (rowIn bulbEnd.1 bulbId).map EventRow.status = some .dead := by
  have run : Run (retoldStep context onceOnly bulbId) (toldOnce context bulbId)
      (bulbStart, {}) bulbEnd := exec_get_run (by decide +kernel)
  obtain ⟨_, told, dead, _⟩ := redelivered_exactly context onceOnly bulbId bulbStart ∅ rfl rfl rfl
    bulbEnd run (by decide +kernel)
  have present : (rowIn bulbEnd.1 bulbId).isSome = true := by decide +kernel
  obtain ⟨row, found⟩ := Option.isSome_iff_exists.mp present
  rw [found, Option.map_some, dead row found]
  exact ⟨told, rfl⟩

def noRetries : RetryPolicy := { maxRetries := 0, retentionSecs := 3600 }

def bulbUnretried : Outbox Packet × Retold := (bulbRun noRetries).get (by decide +kernel)

/-- Without retries the first sweep still delivers the event again. -/
theorem redelivered_without_retries :
    Run (retoldStep context noRetries bulbId) (toldOnce context bulbId)
      (bulbStart, {}) bulbUnretried ∧
      noRetries.maxRetries + 1 ≤ bulbUnretried.2.sweeps ∧ bulbUnretried.2.redelivered = 1 ∧
      (rowIn bulbUnretried.1 bulbId).map EventRow.status = some .dead :=
  ⟨exec_get_run (by decide +kernel), by decide +kernel, by decide +kernel, by decide +kernel⟩

end Bulb
end Vynkor.Proofs
