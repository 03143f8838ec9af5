import Vynkor.Data.History
import Vynkor.Proofs.Instances

/-! Which exit a manual restart is paired with. The request is a flag of the plugin
and the exits are those of its instances, so the two agree only if requests, exits
and registrations of one plugin do not overlap. -/

namespace Vynkor.Proofs
open DashMap Execution History Supervisor

section Requests

/-- A restart found the instance registered before it had exited, and the plugin has
not been stopped since. -/
def Requested (history : List Supervisor.Event) (id : String) (epoch : Nat) : Prop :=
  ∃ before between, history = before ++ .restartCalled id epoch :: between ∧
    .exited id epoch ∉ before ∧ .stopCalled id ∉ between

def handling : Monitor → Option (ExitEvent × Bool)
  | .taken event forced | .current event forced | .unstopped event forced => some (event, forced)
  | _ => none

def handledIn (history : List Supervisor.Event) (id : String) (epoch : Nat) : Bool :=
  history.any fun event =>
    match event with
    | .handled other number _ => other == id && number == epoch
    | _ => false

def flags (id : String) : Call → Bool
  | .flagging other _ => other == id
  | _ => false

/-- Restarts, exits and registrations of one plugin keep apart: a restart finds a
running instance and sets the flag while that is registered; the monitor takes the
flag when no other instance is registered and no restart is under way; an instance
is registered or removed when there is no flag for it and the exit before it has
been handled; and a stop clears the flag before another instance is registered. -/
def keepApart (state : PluginSupervisor) : Action → Bool
  | .restartPlugin _ id => (state.entries.get id).all (state.processes.runs ·.epoch)
  | .flagForced number =>
    match state.calls.get number with
    | some (.flagging id epoch) => (state.entries.get id).any (·.epoch == epoch)
    | _ => true
  | .clearForced number =>
    match state.calls.get number with
    | some (.clearing id _) => !state.forcedRestarts.containsKey id || !state.entries.containsKey id
    | _ => true
  | .takeForced =>
    match state.monitor with
    | .received event =>
      (!state.forcedRestarts.containsKey event.pluginId ||
        (state.entries.get event.pluginId).all (·.epoch == event.epoch)) &&
      state.calls.values.all (!flags event.pluginId ·)
    | _ => true
  | .insertEntry task =>
    match state.spawns.get task with
    | some spawn =>
      !state.forcedRestarts.containsKey spawn.pluginId &&
      (state.entries.get spawn.pluginId).all (handledIn state.history spawn.pluginId ·.epoch) &&
      (handling state.monitor).all (·.1.pluginId != spawn.pluginId)
    | none => true
  | .forget =>
    match state.monitor with
    | .forgetting event =>
      (state.entries.get event.pluginId).all (handledIn state.history event.pluginId ·.epoch)
    | _ => true
  | _ => true

/-- The exit of the instance is neither handled nor about to be. -/
structure Open (state : PluginSupervisor) (id : String) (epoch : Nat) : Prop where
  unhandled : ∀ manual, .handled id epoch manual ∉ state.history
  untaken : ∀ event forced, handling state.monitor = some (event, forced) →
    event.pluginId = id → event.epoch ≠ epoch

def Flagged (state : PluginSupervisor) (id : String) (epoch : Nat) : Prop :=
  (∃ number, state.calls.get number = some (.flagging id epoch)) ∨ state.forcedRestarts.containsKey id = true

/-- The flag of a plugin is that of its registered instance. -/
structure Attributed (state : PluginSupervisor) : Prop where
  marked : ∀ id entry, state.entries.get id = some entry → Flagged state id entry.epoch →
    Requested state.history id entry.epoch ∧ Open state id entry.epoch
  taken : ∀ event entry, handling state.monitor = some (event, true) →
    state.entries.get event.pluginId = some entry →
      entry.epoch = event.epoch ∧ Requested state.history event.pluginId event.epoch
  kept : ∀ id epoch, Requested state.history id epoch →
    (∀ manual, .handled id epoch manual ∉ state.history) →
      (∃ entry, state.entries.get id = some entry ∧ entry.epoch = epoch) ∧ (Flagged state id epoch ∨
        ∃ event, handling state.monitor = some (event, true) ∧ event.pluginId = id ∧ event.epoch = epoch)

/-- The entry of the plugin is replaced or removed, and the exit of its instance has been
handled. -/
structure Renewed (state next : PluginSupervisor) (id : String) : Prop where
  done : ∀ entry, state.entries.get id = some entry → ∃ manual, .handled id entry.epoch manual ∈ state.history
  unmarked : ∀ entry, next.entries.get id = some entry → ¬Flagged state id entry.epoch
  untaken : ∀ entry, next.entries.get id = some entry → ∀ exit forced,
    handling state.monitor = some (exit, forced) → exit.pluginId ≠ id

variable {state next : PluginSupervisor} {action : Action} {id : String} {epoch : Nat}
  {history : List Supervisor.Event} {event : Supervisor.Event} {exit : ExitEvent} {released : PluginSupervisor}
  {number : Nat} {entry : PluginEntry} {forced : Bool}

theorem handling_pending (holds : handling state.monitor = some (exit, forced)) :
    exit ∈ pending state := by
  have await : awaited state.monitor = some exit := by
    cases current : state.monitor <;> simp [current, handling, awaited] at holds ⊢
    all_goals exact holds.1
  rw [pending, await]
  exact List.mem_cons_self

theorem requested_iff : Requested history id epoch ↔ Since history
    (fun before event => event = .restartCalled id epoch ∧ .exited id epoch ∉ before) (.stopCalled id) := by
  constructor
  · rintro ⟨before, between, rfl, running, unstopped⟩
    exact ⟨before, _, between, rfl, ⟨rfl, running⟩, unstopped⟩
  · rintro ⟨before, _, between, rfl, ⟨rfl, running⟩, unstopped⟩
    exact ⟨before, between, rfl, running, unstopped⟩

theorem requested_snoc : Requested (history ++ [event]) id epoch ↔
    event = .restartCalled id epoch ∧ .exited id epoch ∉ history ∨
      Requested history id epoch ∧ event ≠ .stopCalled id := by
  rw [requested_iff, since_snoc, requested_iff]

theorem handledIn_mem (handled : handledIn history id epoch = true) : ∃ manual, .handled id epoch manual ∈ history := by
  obtain ⟨event, member, same⟩ := List.any_eq_true.mp handled
  cases event with
  | handled other number manual =>
    simp only [Bool.and_eq_true, beq_iff_eq] at same
    exact ⟨manual, same.1 ▸ same.2 ▸ member⟩
  | _ => cases same

theorem Attributed.decides (attributed : Attributed state)
    (unhandled : ∀ manual, .handled exit.pluginId exit.epoch manual ∉ state.history)
    (holds : handling state.monitor = some (exit, forced))
    (requested : Requested state.history exit.pluginId exit.epoch) :
    (∃ entry, state.entries.get exit.pluginId = some entry ∧ entry.epoch = exit.epoch) ∧ forced = true := by
  obtain ⟨⟨entry, held, own⟩, remembered⟩ := attributed.kept _ _ requested unhandled
  refine ⟨⟨entry, held, own⟩, ?_⟩
  rcases remembered with marked | ⟨other, taken, _⟩
  · have fresh := (attributed.marked _ entry held (own ▸ marked)).2
    exact absurd own.symm (fresh.untaken exit forced holds rfl)
  · cases holds.symm.trans taken
    rfl

theorem Open.later (fresh : Open state id epoch)
    (handled : ∀ manual, .handled id epoch manual ∈ next.history → .handled id epoch manual ∈ state.history)
    (monitor : ∀ exit forced, handling next.monitor = some (exit, forced) → exit.pluginId = id →
      handling state.monitor = some (exit, forced)) : Open next id epoch := by
  refine ⟨?_, ?_⟩
  · intro manual noted
    exact fresh.unhandled manual (handled manual noted)
  · intro exit forced holds own
    exact fresh.untaken exit forced (monitor exit forced holds own) own

section
variable (attributed : Attributed state) {manual : Bool}
include attributed

theorem Attributed.keep (entries : ∀ id, next.entries.get id = state.entries.get id ∨ Renewed state next id)
    (requests : ∀ id epoch, Requested next.history id epoch ↔ Requested state.history id epoch)
    (handled : ∀ id epoch manual, .handled id epoch manual ∈ next.history ↔
      .handled id epoch manual ∈ state.history)
    (calls : ∀ number id epoch, next.calls.get number = some (.flagging id epoch) ↔
      state.calls.get number = some (.flagging id epoch))
    (forced : next.forcedRestarts = state.forcedRestarts)
    (monitor : handling next.monitor = handling state.monitor) : Attributed next := by
  have marks : ∀ id epoch, Flagged next id epoch ↔ Flagged state id epoch := by simp [Flagged, calls, forced]
  refine ⟨?_, ?_, ?_⟩
  · intro id entry held marked
    rw [marks] at marked
    rcases entries id with same | renewed
    · obtain ⟨requested, fresh⟩ := attributed.marked id entry (same ▸ held) marked
      exact ⟨(requests _ _).mpr requested,
        fresh.later (fun manual => (handled _ _ manual).mp) (fun _ _ holds _ => monitor ▸ holds)⟩
    · exact absurd marked (renewed.unmarked entry held)
  · intro exit entry holds held
    rw [monitor] at holds
    rcases entries exit.pluginId with same | renewed
    · obtain ⟨own, requested⟩ := attributed.taken exit entry holds (same ▸ held)
      exact ⟨own, (requests _ _).mpr requested⟩
    · exact absurd rfl (renewed.untaken entry held exit true holds)
  · intro id epoch requested unhandled
    simp only [handled] at unhandled
    obtain ⟨⟨entry, held, own⟩, remembered⟩ :=
      attributed.kept id epoch ((requests _ _).mp requested) unhandled
    rcases entries id with same | renewed
    · rw [marks, monitor]
      exact ⟨⟨entry, same.trans held, own⟩, remembered⟩
    · obtain ⟨manual, noted⟩ := renewed.done entry held
      exact absurd (own ▸ noted) (unhandled manual)

theorem Attributed.handle
    (holds : handling state.monitor = some (exit, forced)) (done : handling next.monitor = none)
    (grown : next.history = state.history ++ [.handled exit.pluginId exit.epoch manual])
    (calls : next.calls = state.calls) (flags : next.forcedRestarts = state.forcedRestarts)
    (entries : next.entries = state.entries) : Attributed next := by
  have requests : ∀ {id epoch}, Requested next.history id epoch ↔ Requested state.history id epoch := by
    intro id epoch
    simp [grown, requested_snoc]
  have marks : ∀ {id epoch}, Flagged next id epoch ↔ Flagged state id epoch := by simp [Flagged, calls, flags]
  refine ⟨?_, by simp [done], ?_⟩
  · intro id entry held marked
    obtain ⟨requested, fresh⟩ := attributed.marked id entry (entries ▸ held) (marks.mp marked)
    refine ⟨requests.mpr requested, ?_, by simp [done]⟩
    intro other noted
    rw [grown, List.mem_append, List.mem_singleton, Supervisor.Event.handled.injEq] at noted
    rcases noted with earlier | ⟨sameId, sameEpoch, _⟩
    · exact fresh.unhandled other earlier
    · exact fresh.untaken exit forced holds sameId.symm sameEpoch.symm
  · intro id epoch requested unhandled
    obtain ⟨held, remembered⟩ := attributed.kept id epoch (requests.mp requested)
      fun other noted => unhandled other (grown ▸ List.mem_append_left _ noted)
    refine ⟨entries ▸ held, ?_⟩
    rcases remembered with marked | ⟨other, taken, rfl, rfl⟩
    · exact .inl (marks.mpr marked)
    · cases holds.symm.trans taken
      exact absurd (grown ▸ List.mem_append_right _ List.mem_cons_self) (unhandled manual)

theorem Attributed.restart (reported : Reported state) (free : state.calls.get number = none)
    (held : state.entries.get id = some entry) (runs : state.processes.runs entry.epoch = true) :
    Attributed { state with
      calls := state.calls.insert number (.flagging id entry.epoch)
      history := state.history ++ [.restartCalled id entry.epoch] } := by
  have status : state.processes.status entry.epoch = some .running := by simpa [Processes.runs] using runs
  have unexited : .exited id entry.epoch ∉ state.history := by
    intro noted
    rw [(reported.exits id entry.epoch noted).1] at runs
    cases runs
  have fresh : Open state id entry.epoch := by
    refine ⟨?_, ?_⟩
    · intro manual noted
      cases status.symm.trans (reported.handled id entry.epoch manual noted)
    · intro exit forced holds _ same
      have queued := reported.queued exit (handling_pending holds)
      cases status.symm.trans (same ▸ queued)
  have requests : ∀ {other epoch}, Requested state.history other epoch →
      Requested (state.history ++ [.restartCalled id entry.epoch]) other epoch := by
    intro other epoch requested
    exact requested_snoc.mpr (.inr ⟨requested, by simp⟩)
  refine ⟨?_, ?_, ?_⟩
  · intro name found known marked
    have asked : name = id ∧ found = entry ∨ Flagged state name found.epoch := by
      rcases marked with ⟨other, called⟩ | flagged
      · rw [get_insert] at called
        split at called
        · simp only [Option.some.injEq, Call.flagging.injEq] at called
          obtain ⟨rfl, _⟩ := called
          exact .inl ⟨rfl, Option.some.inj (known.symm.trans held)⟩
        · exact .inr (.inl ⟨other, called⟩)
      · exact .inr (.inr flagged)
    rcases asked with ⟨rfl, rfl⟩ | before
    · exact ⟨requested_snoc.mpr (.inl ⟨rfl, unexited⟩), fresh.later (by simp) (fun _ _ holds _ => holds)⟩
    · obtain ⟨requested, fresh⟩ := attributed.marked name found known before
      exact ⟨requests requested, fresh.later (by simp) (fun _ _ holds _ => holds)⟩
  · intro exit found holds known
    obtain ⟨own, requested⟩ := attributed.taken exit found holds known
    exact ⟨own, requests requested⟩
  · intro name epoch requested unhandled
    rcases requested_snoc.mp requested with ⟨same, _⟩ | ⟨requested, _⟩
    · cases same
      exact ⟨⟨entry, held, rfl⟩, .inl (.inl ⟨number, get_insert_self _ _ _⟩)⟩
    · obtain ⟨known, remembered⟩ := attributed.kept name epoch requested fun manual noted =>
        unhandled manual (List.mem_append_left _ noted)
      refine ⟨known, remembered.imp_left (Or.imp_left ?_)⟩
      rintro ⟨other, called⟩
      have apart : other ≠ number := by
        rintro rfl
        rw [free] at called
        cases called
      exact ⟨other, by rw [get_insert, if_neg apart]; exact called⟩

theorem Attributed.flag (called : state.calls.get number = some (.flagging id entry.epoch))
    (held : state.entries.get id = some entry) : Attributed { state with
      forcedRestarts := state.forcedRestarts.insert id ()
      calls := state.calls.erase number } := by
  refine ⟨?_, attributed.taken, ?_⟩
  · intro name found known marked
    have before : Flagged state name found.epoch := by
      rcases marked with ⟨other, pending⟩ | flagged
      · exact .inl ⟨other, (get_erase_eq_some.mp pending).2⟩
      · rw [DashMap.containsKey, get_insert] at flagged
        split at flagged
        next same =>
          subst same
          cases held.symm.trans known
          exact .inl ⟨number, called⟩
        · exact .inr flagged
    obtain ⟨requested, fresh⟩ := attributed.marked name found known before
    exact ⟨requested, fresh.unhandled, fresh.untaken⟩
  · intro name epoch requested unhandled
    obtain ⟨known, remembered⟩ := attributed.kept name epoch requested unhandled
    refine ⟨known, remembered.imp_left ?_⟩
    rintro (⟨other, pending⟩ | flagged)
    · by_cases same : other = number
      · subst same
        cases called.symm.trans pending
        exact .inr (by simp [DashMap.containsKey])
      · exact .inl ⟨other, by rw [get_erase, if_neg same]; exact pending⟩
    · refine .inr ?_
      rw [DashMap.containsKey, get_insert]
      split
      · rfl
      · exact flagged

theorem Attributed.clear (called : state.calls.get number = some (.clearing id epoch))
    (unused : state.forcedRestarts.containsKey id = true → state.entries.get id = none) :
    Attributed { state with
      forcedRestarts := state.forcedRestarts.erase id
      calls := state.calls.insert number (.waiting id epoch) } := by
  refine ⟨?_, attributed.taken, ?_⟩
  · intro name found known marked
    have before : Flagged state name found.epoch := by grind [Flagged, DashMap.containsKey]
    obtain ⟨requested, fresh⟩ := attributed.marked name found known before
    exact ⟨requested, fresh.unhandled, fresh.untaken⟩
  · intro name born requested unhandled
    obtain ⟨⟨entry, held, own⟩, remembered⟩ := attributed.kept name born requested unhandled
    refine ⟨⟨entry, held, own⟩, remembered.imp_left ?_⟩
    rintro (⟨other, pending⟩ | flagged)
    · exact .inl ⟨other, by grind⟩
    · exact .inr (by grind [DashMap.containsKey])

/-- The monitor takes the flag for an exit: no other instance is registered, and no
restart is about to set it. -/
theorem Attributed.take (holds : state.monitor = .received exit)
    (own : state.forcedRestarts.containsKey exit.pluginId = true →
      ∀ entry, state.entries.get exit.pluginId = some entry → entry.epoch = exit.epoch)
    (settled : ∀ number epoch, state.calls.get number ≠ some (.flagging exit.pluginId epoch)) :
    Attributed { state with
      monitor := .taken exit (state.forcedRestarts.containsKey exit.pluginId)
      forcedRestarts := state.forcedRestarts.erase exit.pluginId } := by
  refine ⟨?_, ?_, ?_⟩
  · intro id entry held marked
    have before : Flagged state id entry.epoch ∧ id ≠ exit.pluginId := by grind [Flagged, DashMap.containsKey]
    obtain ⟨requested, fresh⟩ := attributed.marked id entry held before.1
    refine ⟨requested, fresh.later (fun _ noted => noted) ?_⟩
    intro event forced taken same
    simp only [handling, Option.some.injEq, Prod.mk.injEq] at taken
    exact absurd (taken.1 ▸ same).symm before.2
  · intro event entry taken held
    simp only [handling, Option.some.injEq, Prod.mk.injEq] at taken
    obtain ⟨rfl, flagged⟩ := taken
    have same := own flagged entry held
    exact ⟨same, same ▸ (attributed.marked _ entry held (.inr flagged)).1⟩
  · intro id epoch requested unhandled
    obtain ⟨⟨entry, held, same⟩, remembered⟩ := attributed.kept id epoch requested unhandled
    refine ⟨⟨entry, held, same⟩, ?_⟩
    rcases remembered with (pending | flagged) | ⟨event, taken, _⟩
    · exact .inl (.inl pending)
    · by_cases mine : id = exit.pluginId
      · subst mine
        refine .inr ⟨exit, by rw [← flagged]; rfl, rfl, ?_⟩
        exact (own flagged entry held).symm.trans same
      · refine .inl (.inr ?_)
        rw [DashMap.containsKey, get_erase, if_neg mine]
        exact flagged
    · rw [holds] at taken
      cases taken

theorem Attributed.stop (free : state.calls.get number = none) : Attributed { state with
      entries := state.entries.erase id
      calls := state.calls.insert number (.recording id epoch)
      history := state.history ++ [.stopCalled id] } := by
  have requests : ∀ {other born}, Requested (state.history ++ [.stopCalled id]) other born ↔
      Requested state.history other born ∧ other ≠ id := by
    intro other born
    simp [requested_snoc, eq_comm]
  refine ⟨?_, ?_, ?_⟩
  · intro name entry held marked
    have before : Flagged state name entry.epoch := by grind [Flagged]
    obtain ⟨apart, known⟩ := get_erase_eq_some.mp held
    obtain ⟨requested, fresh⟩ := attributed.marked name entry known before
    exact ⟨requests.mpr ⟨requested, apart⟩, fresh.later (by simp) (fun _ _ holds _ => holds)⟩
  · intro exit entry holds held
    obtain ⟨apart, known⟩ := get_erase_eq_some.mp held
    obtain ⟨own, requested⟩ := attributed.taken exit entry holds known
    exact ⟨own, requests.mpr ⟨requested, apart⟩⟩
  · intro name born requested unhandled
    obtain ⟨requested, apart⟩ := requests.mp requested
    obtain ⟨⟨entry, held, own⟩, remembered⟩ := attributed.kept name born requested fun manual noted =>
      unhandled manual (List.mem_append_left _ noted)
    refine ⟨⟨entry, ?_, own⟩, remembered.imp_left (Or.imp_left ?_)⟩
    · rw [get_erase, if_neg apart]
      exact held
    · rintro ⟨other, called⟩
      exact ⟨other, by grind⟩

end

theorem handling_released (tracked : Tracked state) {task spawn} (job : state.spawns.get task = some spawn)
    (monitor : released.monitor = state.monitor) :
    handling (released.release task).monitor = handling state.monitor := by
  rw [release_monitor]
  split
  next same =>
    subst same
    rw [tracked.respawning spawn job]
    rfl
  · rw [monitor]

theorem flagging_released (tracked : Tracked state) {task spawn} (job : state.spawns.get task = some spawn)
    (calls : released.calls = state.calls) (number : Nat) (id : String) (epoch : Nat) :
    (released.release task).calls.get number = some (.flagging id epoch) ↔
      state.calls.get number = some (.flagging id epoch) := by
  rw [release_calls, calls]
  split
  next same =>
    subst same
    simp [tracked.spawning number spawn job]
  · rfl

theorem Attributed.moves (tracked : Tracked state) (retired : Retired state) (reported : Reported state)
    (attributed : Attributed state) (guarded : keepApart state action = true)
    (moves : Moves state action next) : Attributed next := by
  cases moves with
  | spawnPlugin free | returned called =>
    exact attributed.keep (fun _ => .inl rfl) (by simp [requested_snoc]) (by simp) (by grind) rfl rfl
  | refused called | admitted called | recorded called =>
    exact attributed.keep (fun _ => .inl rfl) (fun _ _ => .rfl) (fun _ _ _ => .rfl) (by grind) rfl rfl
  | created | exited =>
    exact attributed.keep (fun _ => .inl rfl) (by simp [requested_snoc]) (by simp) (fun _ _ _ => .rfl) rfl rfl
  | uncreated job | failed job =>
    exact attributed.keep (by simp) (by simp) (by simp) (flagging_released tracked job rfl) (by simp)
      (handling_released tracked job rfl)
  | reaped | reported | unstoppable | unrestartable =>
    exact attributed.keep (fun _ => .inl rfl) (fun _ _ => .rfl) (fun _ _ _ => .rfl) (fun _ _ _ => .rfl) rfl rfl
  | received holds | current holds | unstopped holds | cancelled holds | woken holds | counted holds =>
    exact attributed.keep (fun _ => .inl rfl) (fun _ _ => .rfl) (fun _ _ _ => .rfl) (fun _ _ _ => .rfl) rfl
      (by rw [holds]; rfl)
  | stale holds | stoppedBefore holds | undecided holds | restarts holds | givesUp holds =>
    exact attributed.handle (by rw [holds]; rfl) rfl rfl rfl rfl rfl
  | stopped free held => exact attributed.stop free
  | cleared called =>
    refine attributed.clear called ?_
    intro flagged
    simp only [keepApart, called, flagged, Bool.not_true, Bool.false_or, Bool.not_eq_true'] at guarded
    simpa [DashMap.containsKey] using guarded
  | restarted free held =>
    refine attributed.restart reported free held ?_
    simpa [keepApart, held] using guarded
  | flagged called =>
    simp only [keepApart, called] at guarded
    obtain ⟨entry, held, same⟩ := (Option.any_eq_true _ _).mp guarded
    rw [← eq_of_beq same] at called
    exact attributed.flag called held
  | taken holds =>
    simp only [keepApart, holds, Bool.and_eq_true, Bool.or_eq_true, Bool.not_eq_true'] at guarded
    refine attributed.take holds ?_ ?_
    · intro flagged entry held
      simpa [flagged, held] using guarded.1
    · intro number epoch called
      have unflagged := List.all_eq_true.mp guarded.2 _ ((mem_values _ _).mpr ⟨number, called⟩)
      simp [flags] at unflagged
  | @inserted task spawn epoch job made =>
    have unwatched := tracked.jobs task spawn epoch job made
    simp only [keepApart, job, Bool.and_eq_true, Bool.not_eq_true'] at guarded
    obtain ⟨⟨unflagged, done⟩, untaken⟩ := guarded
    refine attributed.keep ?_ (by simp) (by simp) (flagging_released tracked job rfl) (by simp)
      (handling_released tracked job rfl)
    intro id
    rw [release_entries, get_insert]
    split
    next same =>
      subst same
      refine .inr ⟨?_, ?_, ?_⟩
      · intro entry held
        exact handledIn_mem (by simpa [held] using done)
      · rintro entry held (⟨number, called⟩ | flagged)
        · rw [release_entries, get_insert_self] at held
          cases held
          have watched := retired.called number _ _ _ called rfl
          rw [unwatched] at watched
          cases watched
        · rw [unflagged] at flagged
          cases flagged
      · intro entry _ exit forced holds
        simpa [holds] using untaken
    · exact .inl rfl
  | @forgotten event holds =>
    simp only [keepApart, holds] at guarded
    refine attributed.keep ?_ (fun _ _ => .rfl) (fun _ _ _ => .rfl) (fun _ _ _ => .rfl) rfl (by rw [holds]; rfl)
    intro id
    rw [get_erase]
    split
    next same =>
      subst same
      refine .inr ⟨?_, by simp, by simp⟩
      intro entry held
      exact handledIn_mem (by simpa [held] using guarded)
    · exact .inl rfl

theorem attributed_empty : Attributed {} := by
  refine ⟨?_, ?_, ?_⟩
  · intro _ _ held
    cases held
  · intro _ _ holds
    cases holds
  · rintro _ _ ⟨before, between, split, _⟩
    simp at split

theorem Attributed.judges {manual} (retired : Retired state) (reported : Reported state)
    (attributed : Attributed state) (moves : Moves state action next)
    (grown : next.history = state.history ++ [.handled id epoch manual]) :
    manual = true ↔ Requested state.history id epoch := by
  have judged : ∀ exit forced, handling state.monitor = some (exit, forced) →
      Requested state.history exit.pluginId exit.epoch →
        (∃ entry, state.entries.get exit.pluginId = some entry ∧ entry.epoch = exit.epoch) ∧ forced = true :=
    fun exit forced holds => attributed.decides (fun manual =>
      reported.unhandled exit (handling_pending holds) _ manual) holds
  have passed : ∀ exit forced, handling state.monitor = some (exit, forced) →
      (∀ entry, state.entries.get exit.pluginId = some entry → entry.epoch ≠ exit.epoch) →
        (false = true ↔ Requested state.history exit.pluginId exit.epoch) := by
    intro exit forced holds other
    refine ⟨by simp, ?_⟩
    intro requested
    obtain ⟨⟨entry, held, own⟩, _⟩ := judged exit forced holds requested
    exact absurd own (other entry held)
  cases moves with
  | @stale exit forced holds other =>
    obtain ⟨rfl, rfl, rfl⟩ : exit.pluginId = id ∧ exit.epoch = epoch ∧ false = manual := by simpa using grown
    exact passed exit forced (by rw [holds]; rfl) other
  | @stoppedBefore exit forced holds recorded =>
    obtain ⟨rfl, rfl, rfl⟩ : exit.pluginId = id ∧ exit.epoch = epoch ∧ false = manual := by simpa using grown
    exact passed exit forced (by rw [holds]; rfl) (retired.stopped _ _ recorded _)
  | @undecided exit forced holds absent =>
    obtain ⟨rfl, rfl, rfl⟩ : exit.pluginId = id ∧ exit.epoch = epoch ∧ false = manual := by simpa using grown
    exact passed exit forced (by rw [holds]; rfl) (by simp [absent])
  | @restarts exit forced entry holds held | @givesUp exit forced entry holds held =>
    obtain ⟨rfl, rfl, rfl⟩ : exit.pluginId = id ∧ exit.epoch = epoch ∧ forced = manual := by simpa using grown
    constructor
    · rintro rfl
      exact (attributed.taken exit entry (by rw [holds]; rfl) held).2
    · intro requested
      exact (judged exit forced (by rw [holds]; rfl) requested).2
  | uncreated | inserted | failed => simp at grown
  | _ => simp at grown

/-- As long as restarts, exits and registrations of one plugin keep apart, the
monitor takes an exit for a manual restart exactly when a restart found that instance
before it exited and no stop came since. -/
theorem manual_restart_iff (state : PluginSupervisor) (run : Run PluginSupervisor.step keepApart {} state) :
    ∀ before id epoch manual after, state.history = before ++ .handled id epoch manual :: after →
      (manual = true ↔ Requested before id epoch) := by
  have invariant : Tracked state ∧ Retired state ∧ Reported state ∧ Attributed state ∧
      Always state.history fun before event => ∀ id epoch manual, event = .handled id epoch manual →
        (manual = true ↔ Requested before id epoch) := by
    apply run.preserves
    · exact ⟨tracked_empty, retired_empty, reported_empty, attributed_empty, always_nil⟩
    intro state action next allowed step holds
    obtain ⟨tracked, retired, reported, attributed, judged⟩ := holds
    have moves := step_moves step
    refine ⟨tracked.moves moves, retired.moves tracked moves, reported.moves tracked moves,
      attributed.moves tracked retired reported allowed moves, ?_⟩
    rcases moves.history with ⟨same, _⟩ | ⟨event, grown, _⟩
    · exact same ▸ judged
    · rw [grown]
      apply judged.snoc
      rintro id epoch manual rfl
      exact attributed.judges retired reported moves grown
  intro before id epoch manual after split
  exact invariant.2.2.2.2 before _ after split id epoch manual rfl

end Requests

def stubborn : PluginConfig where
  restartPolicy := .never

def restarts (number : Nat) : List Action := [.restartPlugin number "notes", .flagForced number]

def requested : List Action := starts 1 stubborn ++ restarts 2 ++ dies 1 ++ decides

def requestedEnd : PluginSupervisor := (exec PluginSupervisor.step keepApart {} requested).get (by decide +kernel)

theorem manual_restart_iff_requested : requestedEnd.history.getLast? = some (.handled "notes" 1 true) ∧
    ∀ before id epoch manual after, requestedEnd.history = before ++ .handled id epoch manual :: after →
      (manual = true ↔ Requested before id epoch) :=
  ⟨by decide +kernel, manual_restart_iff requestedEnd (exec_get_run (by decide +kernel))⟩

/-- The exit of the first instance is still queued when a restart of the second one
is requested. -/
def consumed : List Action :=
  starts 1 stubborn ++ dies 1 ++ stops 2 ++ [.stopReturn 2 false] ++ starts 3 stubborn ++ restarts 4 ++
    [.receive, .takeForced, .isCurrent] ++ dies 2 ++ decides

def consumedEnd : PluginSupervisor := (exec PluginSupervisor.step unguarded {} consumed).get (by decide +kernel)

/-- A restart is requested during the backoff of the first instance. -/
def inherited : List Action :=
  starts 1 persistent ++ dies 1 ++ decides ++ restarts 2 ++ [.wake, .create .monitor true, .insertEntry .monitor] ++
    dies 2 ++ decides

def inheritedEnd : PluginSupervisor := (exec PluginSupervisor.step unguarded {} inherited).get (by decide +kernel)

/-- The old exit uses up the request for the second instance, which is not taken for
a manual restart; and the second instance inherits a request made for the first. -/
theorem restart_request_misplaced :
    (Run PluginSupervisor.step unguarded {} consumedEnd ∧
      ∃ before, consumedEnd.history = before ++ [.handled "notes" 2 false] ∧ Requested before "notes" 2) ∧
    Run PluginSupervisor.step unguarded {} inheritedEnd ∧
      ∃ before, inheritedEnd.history = before ++ [.handled "notes" 2 true] ∧ ¬Requested before "notes" 2 := by
  refine ⟨⟨exec_get_run (by decide +kernel), consumedEnd.history.dropLast, by decide +kernel, ?_⟩,
    exec_get_run (by decide +kernel), inheritedEnd.history.dropLast, by decide +kernel, ?_⟩
  · exact ⟨consumedEnd.history.take 7, (consumedEnd.history.drop 8).dropLast, by decide +kernel⟩
  · rintro ⟨before, between, split, _⟩
    have absent : .restartCalled "notes" 2 ∉ inheritedEnd.history.dropLast := by decide +kernel
    exact absent (split ▸ by simp)

end Vynkor.Proofs
