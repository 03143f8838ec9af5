import Vynkor.Announcements
import Vynkor.Proofs.EventRows
import Vynkor.Proofs.Publications
import Vynkor.Proofs.SupervisorSteps
import Vynkor.Scenario

/-! The ids of the events of one kernel process. They are built in four places, and an
id that is used twice costs the second event its row in the table. -/

namespace Vynkor.Proofs
open Execution RouterState
variable {β : Type} {ctx : Context β} {action : HostAction β}

/-- Where an event comes from, with all that makes up its id. -/
inductive Origin where
  | plugin (senderId : String) (millis seq : Nat)
  | joined (pluginId : String) (millis : Nat)
  | left (pluginId : String) (millis : Nat)
  | died (pluginId : String) (restartCount : UInt32)
  deriving DecidableEq

def Origin.eventId : Origin → String
  | .plugin senderId millis seq => s!"evt-{senderId}-{millis}-{seq}"
  | .joined pluginId millis => s!"sys-joined-{pluginId}-{millis}"
  | .left pluginId millis => s!"sys-left-{pluginId}-{millis}"
  | .died pluginId restartCount => s!"sys-died-{pluginId}-{restartCount.toNat}"

def Origin.stem : Origin → String
  | .plugin senderId millis _ => "evt-" ++ senderId ++ "-" ++ toString millis
  | .joined pluginId _ => "sys-joined-" ++ pluginId
  | .left pluginId _ => "sys-left-" ++ pluginId
  | .died pluginId _ => "sys-died-" ++ pluginId

def Origin.number : Origin → Nat
  | .plugin _ _ seq => seq
  | .joined _ millis | .left _ millis => millis
  | .died _ restartCount => restartCount.toNat

theorem eventId_eq (origin : Origin) : origin.eventId = origin.stem ++ "-" ++ toString origin.number := by
  cases origin <;> rfl

theorem stem_inj {first second : Origin} (stems : first.stem = second.stem) (numbers : first.number = second.number) :
    first = second := by
  have texts := congrArg String.toList stems
  cases first with
  | plugin senderId millis seq =>
    cases second with
    | plugin otherId otherMillis otherSeq =>
      obtain ⟨names, rfl⟩ := Text.numbered_inj stems
      obtain rfl : senderId = otherId := by
        apply String.toList_injective
        simpa using congrArg String.toList names
      obtain rfl : seq = otherSeq := numbers
      rfl
    | _ => simp [Origin.stem] at texts
  | joined pluginId millis =>
    cases second with
    | joined otherId otherMillis =>
      obtain rfl : pluginId = otherId := String.toList_injective (by simpa [Origin.stem] using texts)
      obtain rfl : millis = otherMillis := numbers
      rfl
    | _ => simp [Origin.stem] at texts
  | left pluginId millis =>
    cases second with
    | left otherId otherMillis =>
      obtain rfl : pluginId = otherId := String.toList_injective (by simpa [Origin.stem] using texts)
      obtain rfl : millis = otherMillis := numbers
      rfl
    | _ => simp [Origin.stem] at texts
  | died pluginId restartCount =>
    cases second with
    | died otherId otherCount =>
      obtain rfl : pluginId = otherId := String.toList_injective (by simpa [Origin.stem] using texts)
      obtain rfl : restartCount = otherCount := UInt32.toNat_inj.mp numbers
      rfl
    | _ => simp [Origin.stem] at texts

/-- The four kinds of ids do not overlap, and each can be read back. -/
theorem eventId_injective {first second : Origin} (same : first.eventId = second.eventId) : first = second := by
  rw [eventId_eq, eventId_eq] at same
  obtain ⟨stems, numbers⟩ := Text.numbered_inj same
  exact stem_inj stems numbers

section Publishing
variable (ctx : Context β)

def routedOrigin (now : Moment) (msg : IncomingMessage β) (st : RouterState β) : Option Origin :=
  match routedChange ctx now msg st, payloadIn ctx.wire (.frame msg.frame) with
  | .system .., some (.pluginRegister register) => some (.joined register.pluginId now.unixMillis)
  | .plugin .., some (.eventPublish _) => some (.plugin (st.senderId msg) now.unixMillis st.eventSeq)
  | _, _ => none

def publishedOrigin (host : Host β) : HostAction β → Option Origin
  | .kernel (.route now) =>
    match host.kernel.incoming with
    | [] => none
    | msg :: _ => routedOrigin ctx now msg host.kernel.router
  | .kernel (.publishLeft transport now) =>
    (host.kernel.inHand transport .found).map fun leaving => .left leaving.pluginId now.unixMillis
  | .announce _ =>
    match host.notice with
    | some (.counted pluginId _ restartCount) => some (.died pluginId restartCount)
    | _ => none
  | _ => none

def hostChange (host : Host β) : HostAction β → RecordChange
  | .kernel action => stepChange ctx host.kernel action
  | .announce now =>
    match host.notice with
    | some (.counted pluginId willRestart restartCount) => .system now (diedEvent pluginId restartCount willRestart)
    | _ => .quiet
  | _ => .quiet

end Publishing

section Steps
variable {host next : Host β}

theorem routedOrigin_event {now msg st} :
    (routedChange ctx now msg st).event.map Event.eventId = (routedOrigin ctx now msg st).map Origin.eventId := by
  simp only [routedOrigin]
  cases gate : admits ctx now msg st && ctx.wire.targetAsStr msg.frame.target == some "kernel" with
  | false =>
    have quiet : routedChange ctx now msg st = .quiet := by simp only [routedChange, gate]; rfl
    rw [quiet]
    rfl
  | true =>
    cases held : payloadIn ctx.wire (.frame msg.frame) with
    | none =>
      have quiet : routedChange ctx now msg st = .quiet := by simp only [routedChange, gate, held]; rfl
      rw [quiet]
      rfl
    | some payload =>
      cases passes : isRegister (some payload) || st.registry.isRegistered msg.connId with
      | false =>
        have quiet : routedChange ctx now msg st = .quiet := by simp only [routedChange, gate, held, passes]; rfl
        rw [quiet]
        rfl
      | true =>
        have change : routedChange ctx now msg st = payloadChange ctx now msg st payload := by
          simp only [routedChange, gate, held, passes]
          rfl
        rw [change]
        cases payload with
        | pluginRegister register =>
          simp only [payloadChange]
          cases ctx.admitRegister now register with
          | error => rfl
          | ok admitted =>
            obtain ⟨manifest, secret⟩ := admitted
            dsimp only
            cases st.registerPlugin now msg register manifest <;> rfl
        | eventPublish request =>
          simp only [payloadChange]
          split <;> rfl
        | _ => rfl

theorem runKernel_some {action} (step : host.runKernel ctx action = some next) :
    (∀ event now, action ≠ .publishDied event now) ∧
      ∃ kernel, host.kernel.step ctx action = some kernel ∧ next = { host with kernel } := by
  simp only [Host.runKernel] at step
  split at step
  · cases step
  next other =>
    obtain ⟨kernel, moved, rfl⟩ := Option.map_eq_some_iff.mp step
    exact ⟨other, kernel, moved, rfl⟩

theorem announce_some {now} (step : host.announce ctx now = some next) :
    ∃ pluginId willRestart restartCount, host.notice = some (.counted pluginId willRestart restartCount) ∧
      next = { host with
        kernel := host.kernel.setRouter
          (host.kernel.router.publish ctx now (diedEvent pluginId restartCount willRestart))
        notice := none } := by
  simp only [Host.announce] at step
  split at step
  next pluginId willRestart restartCount held =>
    cases step
    exact ⟨pluginId, willRestart, restartCount, held, rfl⟩
  · cases step

theorem count_kernel (step : host.count = some next) : next.kernel = host.kernel := by
  simp only [Host.count] at step
  split at step
  · cases step
    rfl
  · cases step

theorem supervise_kernel {action} (step : host.supervise action = some next) :
    next.kernel = host.kernel := by
  simp only [Host.supervise] at step
  split at step
  · obtain ⟨_, _, rfl⟩ := Option.map_eq_some_iff.mp step
    rfl
  · split at step
    · cases step
    · obtain ⟨_, _, rfl⟩ := Option.map_eq_some_iff.mp step
      rfl
  · split at step
    · cases step
    · obtain ⟨_, _, rfl⟩ := Option.map_eq_some_iff.mp step
      rfl
  · obtain ⟨_, _, rfl⟩ := Option.map_eq_some_iff.mp step
    rfl

theorem host_records (step : host.step ctx action = some next) :
    records next.kernel.router = (hostChange ctx host action).apply (records host.kernel.router) := by
  cases action with
  | kernel action =>
    obtain ⟨_, kernel, moved, rfl⟩ := runKernel_some step
    exact step_records moved
  | supervise action =>
    rw [supervise_kernel step]
    rfl
  | count =>
    rw [count_kernel step]
    rfl
  | announce now =>
    obtain ⟨pluginId, willRestart, restartCount, held, rfl⟩ := announce_some step
    simp only [hostChange, held]
    exact records_publish _

theorem publishedOrigin_event (step : host.step ctx action = some next) :
    (hostChange ctx host action).event.map Event.eventId = (publishedOrigin ctx host action).map Origin.eventId := by
  cases action with
  | kernel action =>
    obtain ⟨other, _, _, rfl⟩ := runKernel_some step
    cases action with
    | route now =>
      simp only [hostChange, stepChange, publishedOrigin]
      cases host.kernel.incoming with
      | nil => rfl
      | cons msg rest => exact routedOrigin_event
    | publishLeft transport now =>
      simp only [hostChange, stepChange, publishedOrigin]
      cases host.kernel.inHand transport .found <;> rfl
    | publishDied event now => exact absurd rfl (other event now)
    | _ => rfl
  | announce now =>
    obtain ⟨pluginId, willRestart, restartCount, held, _⟩ := announce_some step
    simp only [hostChange, publishedOrigin, held]
    rfl
  | _ => rfl

end Steps

/-- The host with a record of every event it has published, in order. -/
structure Chronicle (β : Type) where
  host : Host β := {}
  published : List Origin := []

section Chronicles

def Chronicle.step (ctx : Context β) (chronicle : Chronicle β) (action : HostAction β) : Option (Chronicle β) :=
  (chronicle.host.step ctx action).map fun host =>
    { host, published := chronicle.published ++ (publishedOrigin ctx chronicle.host action).toList }

def Chronicle.start (store : Option EventStore) : Chronicle β := { host := { kernel := { router := { store } } } }

/-- The kernel has told of the same plugin before: that it joined or left in the same
millisecond, or died with the same count of restarts. -/
def retold (published : List Origin) : Origin → Bool
  | .plugin .. => false
  | origin => published.contains origin

/-- No event of the kernel is retold, the numbers of plugin events have not come round,
and the process has found no row of an earlier one under the id. -/
def newToTable (ctx : Context β) (found : Option EventStore) (chronicle : Chronicle β) (action : HostAction β) : Bool :=
  (publishedOrigin ctx chronicle.host action).all fun origin =>
    !retold chronicle.published origin && decide (chronicle.host.kernel.router.eventSeq + 1 < UInt64.size) &&
      !found.any fun store => store.containsKey origin.eventId

variable {found : Option EventStore} {chronicle next : Chronicle β} {origin : Origin} {host after : Host β}
  {senderId eventId : String} {seq : Nat} {store later : EventStore}

/-- What is published is told once, plugin events have numbers that are used up, and
every row of the table was found there or is of an event that was published. -/
structure ToldOnce (found : Option EventStore) (chronicle : Chronicle β) : Prop where
  once : chronicle.published.Nodup
  numbered : ∀ senderId millis seq, .plugin senderId millis seq ∈ chronicle.published →
    seq < chronicle.host.kernel.router.eventSeq
  known : ∀ store eventId, chronicle.host.kernel.router.store = some store → store.containsKey eventId = true →
    (∃ initial, found = some initial ∧ initial.containsKey eventId = true) ∨
      ∃ origin ∈ chronicle.published, origin.eventId = eventId

theorem toldOnce_start : ToldOnce found (Chronicle.start found : Chronicle β) where
  once := List.nodup_nil
  numbered := by simp [Chronicle.start]
  known store eventId present stored := .inl ⟨store, present, stored⟩

theorem chronicle_some (step : chronicle.step ctx action = some next) :
    chronicle.host.step ctx action = some next.host ∧
      next.published = chronicle.published ++ (publishedOrigin ctx chronicle.host action).toList := by
  obtain ⟨host, moved, rfl⟩ := Option.map_eq_some_iff.mp step
  exact ⟨moved, rfl⟩

theorem plugin_change {host millis seq}
    (publishes : publishedOrigin ctx host action = some (.plugin senderId millis seq)) :
    seq = host.kernel.router.eventSeq ∧ ∃ now event, hostChange ctx host action = .plugin now event := by
  cases action with
  | kernel action =>
    cases action with
    | route now =>
      simp only [publishedOrigin, hostChange, stepChange] at publishes ⊢
      cases waiting : host.kernel.incoming with
      | nil =>
        rw [waiting] at publishes
        cases publishes
      | cons msg rest =>
        rw [waiting] at publishes
        simp only [routedOrigin] at publishes
        split at publishes
        · cases publishes
        next now event _ change _ =>
          cases publishes
          exact ⟨rfl, now, event, change⟩
        · cases publishes
    | publishLeft transport now =>
      obtain ⟨_, _, same⟩ := Option.map_eq_some_iff.mp publishes
      cases same
    | _ => cases publishes
  | announce now =>
    simp only [publishedOrigin] at publishes
    split at publishes <;> cases publishes
  | _ => cases publishes

theorem eventSeq_step (step : host.step ctx action = some after)
    (fits : (publishedOrigin ctx host action).isSome → host.kernel.router.eventSeq + 1 < UInt64.size) :
    host.kernel.router.eventSeq ≤ after.kernel.router.eventSeq := by
  have numbers := congrArg Records.eventSeq (host_records step)
  have named := publishedOrigin_event step
  cases change : hostChange ctx host action with
  | plugin now event =>
    rw [change] at numbers named
    have published : (publishedOrigin ctx host action).isSome = true := by
      rw [← Option.isSome_map, ← named]
      rfl
    have counted : after.kernel.router.eventSeq = nextSeq host.kernel.router.eventSeq := numbers
    rw [counted, nextSeq, Nat.mod_eq_of_lt (fits published)]
    exact Nat.le_succ _
  | _ =>
    rw [change] at numbers
    exact Nat.le_of_eq numbers.symm

theorem plugin_numbered {millis}
    (step : host.step ctx action = some after) (fits : host.kernel.router.eventSeq + 1 < UInt64.size)
    (publishes : publishedOrigin ctx host action = some (.plugin senderId millis seq)) :
    seq < after.kernel.router.eventSeq := by
  obtain ⟨rfl, now, event, change⟩ := plugin_change publishes
  have numbers := congrArg Records.eventSeq (host_records step)
  rw [change] at numbers
  have counted : after.kernel.router.eventSeq = nextSeq host.kernel.router.eventSeq := numbers
  rw [counted, nextSeq, Nat.mod_eq_of_lt fits]
  exact Nat.lt_succ_self _

theorem RecordChange.adds {change : RecordChange}
    (applied : (change.apply { store := some store, eventSeq := seq }).store = some later)
    (stored : later.containsKey eventId = true) :
    store.containsKey eventId = true ∨ change.event.map Event.eventId = some eventId := by
  rw [DashMap.containsKey] at stored ⊢
  cases change with
  | quiet =>
    cases applied
    exact .inl stored
  | system now event | plugin now event =>
    cases applied
    rw [get_persist] at stored
    split at stored
    next same => exact .inr (congrArg some same.symm)
    · exact .inl stored
  | acknowledged marked =>
    cases applied
    rw [get_markDelivered] at stored
    split at stored
    · exact .inl (by simpa using stored)
    · exact .inl stored

theorem row_known (step : host.step ctx action = some after)
    (present : after.kernel.router.store = some later) (stored : later.containsKey eventId = true) :
    (∃ store, host.kernel.router.store = some store ∧ store.containsKey eventId = true) ∨
      (publishedOrigin ctx host action).map Origin.eventId = some eventId := by
  have changed := congrArg Records.store (host_records step)
  rw [← publishedOrigin_event step]
  cases before : host.kernel.router.store with
  | none =>
    have empty : (records host.kernel.router).store = none := before
    have none : after.kernel.router.store = none := by
      refine changed.trans ?_
      cases hostChange ctx host action <;> simp [RecordChange.apply, empty]
    cases none.symm.trans present
  | some store =>
    have shape : records host.kernel.router = { store := some store, eventSeq := host.kernel.router.eventSeq } := by
      rw [records, before]
    rw [shape] at changed
    exact (RecordChange.adds (changed.symm.trans present) stored).imp (fun old => ⟨store, rfl, old⟩) id

section
variable (accounted : ToldOnce found chronicle) (allowed : newToTable ctx found chronicle action = true)
include accounted allowed

theorem unpublished (publishes : publishedOrigin ctx chronicle.host action = some origin) :
    origin ∉ chronicle.published := by
  simp only [newToTable, publishes, Option.all_some, Bool.and_eq_true, Bool.not_eq_true'] at allowed
  intro told
  cases origin with
  | plugin senderId millis seq =>
    -- a new event takes the next number, and every number told before is below it
    obtain ⟨same, _⟩ := plugin_change publishes
    have used := accounted.numbered senderId millis seq told
    omega
  | joined | left | died => simp [retold, told] at allowed

theorem absent_row (publishes : publishedOrigin ctx chronicle.host action = some origin)
    (present : chronicle.host.kernel.router.store = some store) : store.get origin.eventId = none := by
  have unknown := unpublished accounted allowed publishes
  simp only [newToTable, publishes, Option.all_some, Bool.and_eq_true, Bool.not_eq_true'] at allowed
  cases held : store.get origin.eventId with
  | none => rfl
  | some row =>
    have stored : store.containsKey origin.eventId = true := by rw [DashMap.containsKey, held]; rfl
    rcases accounted.known store origin.eventId present stored with ⟨initial, rfl, old⟩ | ⟨other, told, same⟩
    · simp [old] at allowed
    · -- the id tells the origin, so the row would be of this very event, told before
      rw [eventId_injective same] at told
      exact absurd told unknown

theorem ToldOnce.step (step : chronicle.step ctx action = some next) : ToldOnce found next := by
  obtain ⟨moved, told⟩ := chronicle_some step
  have fits : (publishedOrigin ctx chronicle.host action).isSome →
      chronicle.host.kernel.router.eventSeq + 1 < UInt64.size := by
    intro published
    obtain ⟨origin, publishes⟩ := Option.isSome_iff_exists.mp published
    simp only [newToTable, publishes, Option.all_some, Bool.and_eq_true, decide_eq_true_eq] at allowed
    exact allowed.1.2
  have grown := eventSeq_step moved fits
  refine ⟨?_, ?_, ?_⟩
  · rw [told]
    cases publishes : publishedOrigin ctx chronicle.host action with
    | none => simpa using accounted.once
    | some origin =>
      have unknown := unpublished accounted allowed publishes
      exact List.nodup_append_comm.mp (List.nodup_cons.mpr ⟨unknown, accounted.once⟩)
  · intro senderId millis seq listed
    rw [told, List.mem_append] at listed
    rcases listed with earlier | now
    · exact Nat.lt_of_lt_of_le (accounted.numbered senderId millis seq earlier) grown
    · have publishes := Option.mem_toList.mp now
      exact plugin_numbered moved (fits (by rw [publishes]; rfl)) publishes
  · intro store eventId present stored
    rw [told]
    rcases row_known moved present stored with ⟨before, held, old⟩ | now
    · refine (accounted.known before eventId held old).imp id ?_
      rintro ⟨origin, listed, same⟩
      exact ⟨origin, List.mem_append_left _ listed, same⟩
    · obtain ⟨origin, publishes, same⟩ := Option.map_eq_some_iff.mp now
      exact .inr ⟨origin, List.mem_append_right _ (Option.mem_toList.mpr publishes), same⟩

end

/-- As long as the kernel does not tell of a plugin twice in the same words, every event
has an id of its own, and a fresh row in the table. -/
theorem event_ids_unique (ctx : Context β) (found : Option EventStore) (chronicle : Chronicle β)
    (run : Run (Chronicle.step ctx) (newToTable ctx found) (Chronicle.start found) chronicle) :
    (chronicle.published.map Origin.eventId).Nodup ∧
    ∀ action next origin store, newToTable ctx found chronicle action = true → chronicle.step ctx action = some next →
      publishedOrigin ctx chronicle.host action = some origin → chronicle.host.kernel.router.store = some store →
      store.get origin.eventId = none ∧ ∃ now event later, event.eventId = origin.eventId ∧
        next.host.kernel.router.store = some later ∧ later.get origin.eventId = some (freshRow now event) := by
  have accounted : ToldOnce found chronicle := by
    apply run.preserves toldOnce_start
    intro state action next allowed step accounted
    exact accounted.step allowed step
  refine ⟨accounted.once.map fun _ _ => eventId_injective, ?_⟩
  intro action next origin store allowed step publishes present
  have absent := absent_row accounted allowed publishes present
  obtain ⟨moved, _⟩ := chronicle_some step
  refine ⟨absent, ?_⟩
  have changed := congrArg Records.store (host_records moved)
  have named := publishedOrigin_event moved
  rw [publishes] at named
  obtain ⟨event, announced, same⟩ := Option.map_eq_some_iff.mp named
  have stored : ∀ now, (store.persist now event).get origin.eventId = some (freshRow now event) := by
    intro now
    rw [get_persist, if_pos same.symm, absent]
    rfl
  have shape : (records chronicle.host.kernel.router).store = some store := present
  cases change : hostChange ctx chronicle.host action with
  | quiet | acknowledged =>
    rw [change] at announced
    cases announced
  | system now | plugin now =>
    rw [change] at announced changed
    cases announced
    refine ⟨now, event, store.persist now event, same, changed.trans ?_, stored now⟩
    simp [RecordChange.apply, shape]

end Chronicles

section Nursery
open Scenario

def overseen (actions : List Supervisor.Action) : List (HostAction Packet) := actions.map .supervise

def lifetime (number epoch second : Nat) : List (HostAction Packet) :=
  overseen (starts number {} ++ dies epoch ++ decides) ++ [.count, .announce (atSecond second)] ++
    overseen [.forget, .countStopped]

def registersOn (conn : Nat) (now : Moment) : List (HostAction Packet) :=
  [.kernel (.accept conn .uds), .kernel (.receive (hello conn "notes")),
    .kernel (.route now)]

def chronicled (guard : Chronicle Packet → HostAction Packet → Bool) (actions : List (HostAction Packet)) :
    Option (Chronicle Packet) :=
  exec (Chronicle.step context) guard (.start (some ∅)) actions

def firstLife : Chronicle Packet :=
  (chronicled (newToTable context (some ∅)) (registersOn 1 (atSecond 1) ++ lifetime 1 1 2)).get (by decide +kernel)

theorem event_ids_unique_firstLife : (firstLife.published.map Origin.eventId).Nodup ∧
    firstLife.published.map Origin.eventId = ["sys-joined-notes-1000", "sys-died-notes-0"] :=
  ⟨(event_ids_unique context (some ∅) firstLife (exec_get_run (by decide +kernel))).1, by decide +kernel⟩

def secondLife : Chronicle Packet := (chronicled unguarded (lifetime 1 1 2 ++ lifetime 2 2 20)).get (by decide +kernel)

def quickReturn : Chronicle Packet :=
  (chronicled unguarded (registersOn 1 (atSecond 1) ++ [.kernel (.stop "notes")] ++ registersOn 2 (atSecond 1))).get
    (by decide +kernel)

/-- The second event has the id of the first, and the table keeps the row of the first. -/
theorem event_ids_repeat :
    Run (Chronicle.step context) unguarded (.start (some ∅)) secondLife ∧
    secondLife.published.map Origin.eventId = ["sys-died-notes-0", "sys-died-notes-0"] ∧
    (secondLife.host.kernel.router.store.bind fun store => store.get "sys-died-notes-0").map EventRow.createdAt = some 2 ∧
    Run (Chronicle.step context) unguarded (.start (some ∅)) quickReturn ∧
    quickReturn.published.map Origin.eventId = ["sys-joined-notes-1000", "sys-joined-notes-1000"] :=
  ⟨exec_get_run (by decide +kernel), by decide +kernel, by decide +kernel, exec_get_run (by decide +kernel),
    by decide +kernel⟩

end Nursery
end Vynkor.Proofs
