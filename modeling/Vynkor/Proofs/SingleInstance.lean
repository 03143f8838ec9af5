import Vynkor.Proofs.SupervisorSteps

/-! At most one process of a plugin runs outside of a stop, and it is registered or
about to be, if starts for one plugin do not overlap and no process is given up
while it still runs. -/

namespace Vynkor.Proofs
open DashMap Execution Supervisor

def starting (state : PluginSupervisor) (id : String) : Bool := state.spawns.values.any (·.pluginId == id)

def registeredRuns (state : PluginSupervisor) (id : String) : Bool :=
  (state.entries.get id).any (state.processes.runs ·.epoch)

/-- Starts for one plugin do not overlap; the monitor restarts or removes only what
has exited; and neither a handshake nor a stop gives up on a running process. -/
def oneStartAtATime (state : PluginSupervisor) : Action → Bool
  | .check number =>
    match state.calls.get number with
    | some (.spawn id _) => state.entries.containsKey id || !starting state id
    | _ => true
  | .wake =>
    match state.monitor with
    | .sleeping event _ _ => state.stoppedEpochs.get event.pluginId == some event.epoch ||
        !starting state event.pluginId && !registeredRuns state event.pluginId
    | _ => true
  | .forget =>
    match state.monitor with
    | .forgetting event => !registeredRuns state event.pluginId
    | _ => true
  | .failHandshake task _ =>
    match state.spawns.get task with
    | some { created := some epoch, .. } => !state.processes.runs epoch
    | _ => true
  | .stopReturn number _ =>
    match state.calls.get number with
    | some (.waiting _ epoch) => !state.processes.runs epoch
    | _ => true
  | _ => true

def UnderStop (calls : DashMap Nat Call) (epoch : Nat) : Prop :=
  ∃ number call, calls.get number = some call ∧ stopping call = some epoch

/-- The process runs and no stop is in progress for it. -/
structure Live (state : PluginSupervisor) (id : String) (epoch : Nat) : Prop where
  own : ∃ watched, owner state.processes epoch = some (id, watched)
  runs : state.processes.runs epoch = true
  unstopped : ¬UnderStop state.calls epoch

/-- The process is the registered instance, or its start has yet to register it. -/
def Supervised (state : PluginSupervisor) (id : String) (epoch : Nat) : Prop :=
  (∃ entry, state.entries.get id = some entry ∧ entry.epoch = epoch) ∨
    ∃ task spawn, state.spawns.get task = some spawn ∧ spawn.pluginId = id ∧ spawn.created = some epoch

structure Exclusive (state : PluginSupervisor) : Prop where
  single : ∀ task other spawn rival, state.spawns.get task = some spawn → state.spawns.get other = some rival →
    spawn.pluginId = rival.pluginId → task = other
  vacant : ∀ task spawn entry, state.spawns.get task = some spawn →
    state.entries.get spawn.pluginId = some entry → state.processes.runs entry.epoch = false
  supervised : ∀ id epoch, Live state id epoch → Supervised state id epoch

variable {state next : PluginSupervisor} {action : Action} {id : String} {epoch : Nat} {spawn : Spawn}
  {task : Task} {calls : DashMap Nat Call} {entry : PluginEntry}

theorem not_starting (none : starting state id = false)
    (job : state.spawns.get task = some spawn) : spawn.pluginId ≠ id := by
  rw [starting, List.any_eq_false] at none
  simpa using none spawn ((mem_values _ _).mpr ⟨task, job⟩)

theorem not_registeredRuns (dead : registeredRuns state id = false)
    (held : state.entries.get id = some entry) : state.processes.runs entry.epoch = false := by
  simpa [registeredRuns, held] using dead

theorem Exclusive.unique (sole : Exclusive state) {other}
    (first : Live state id epoch) (second : Live state id other) : epoch = other := by
  have runs := first.runs
  have otherRuns := second.runs
  rcases sole.supervised id epoch first with ⟨entry, held, rfl⟩ | ⟨task, spawn, job, same, made⟩
  · rcases sole.supervised id other second with ⟨entry', registered', rfl⟩ | ⟨task, spawn, job, same, made⟩
    · cases held.symm.trans registered'
      rfl
    · rw [sole.vacant task spawn entry job (same ▸ held)] at runs
      cases runs
  · rcases sole.supervised id other second with ⟨entry, held, rfl⟩ | ⟨task', spawn', job', same', made'⟩
    · rw [sole.vacant task spawn entry job (same ▸ held)] at otherRuns
      cases otherRuns
    · obtain rfl := sole.single task task' spawn spawn' job job' (same.trans same'.symm)
      cases job.symm.trans job'
      exact Option.some.inj (made.symm.trans made')

theorem Exclusive.keep (sole : Exclusive state)
    (spawns : ∀ task spawn, next.spawns.get task = some spawn → state.spawns.get task = some spawn)
    (entries : ∀ id entry, next.entries.get id = some entry → state.entries.get id = some entry)
    (runs : ∀ epoch, next.processes.runs epoch = true → state.processes.runs epoch = true)
    (live : ∀ id epoch, Live next id epoch → Live state id epoch)
    (supervised : ∀ id epoch, Live next id epoch → Supervised state id epoch → Supervised next id epoch) :
    Exclusive next := by
  refine ⟨?_, ?_, ?_⟩
  · intro task other spawn rival job rivalJob same
    exact sole.single task other spawn rival (spawns _ _ job) (spawns _ _ rivalJob) same
  · intro task spawn entry job held
    have dead := sole.vacant task spawn entry (spawns _ _ job) (entries _ _ held)
    cases alive : next.processes.runs entry.epoch with
    | false => rfl
    | true =>
      rw [runs _ alive] at dead
      cases dead
  · intro id epoch alive
    exact supervised id epoch alive (sole.supervised id epoch (live id epoch alive))

theorem not_underStop (none : calls.values.all (fun call => (stopping call).isNone) = true) :
    ¬UnderStop calls epoch := by
  rintro ⟨number, call, called, stops⟩
  have quiet := List.all_eq_true.mp none call ((mem_values calls call).mpr ⟨number, called⟩)
  rw [stops] at quiet
  cases quiet

theorem UnderStop.later {calls later} (under : UnderStop calls epoch) (number : Nat)
    (others : ∀ other, other ≠ number → later.get other = calls.get other)
    (own : ∀ call, calls.get number = some call → stopping call = some epoch →
      ∃ call, later.get number = some call ∧ stopping call = some epoch) : UnderStop later epoch := by
  obtain ⟨other, call, called, stops⟩ := under
  by_cases same : other = number
  · subst same
    exact ⟨other, own call called stops⟩
  · exact ⟨other, call, (others other same).trans called, stops⟩

theorem UnderStop.inserted {calls} (under : UnderStop calls epoch) {number call}
    (own : ∀ before, calls.get number = some before → stopping before = some epoch → stopping call = some epoch) :
    UnderStop (calls.insert number call) epoch := by
  apply under.later number
  · intro other apart
    rw [get_insert, if_neg apart]
  · intro before called stops
    exact ⟨call, get_insert_self _ _ _, own before called stops⟩

theorem UnderStop.erased (under : UnderStop calls epoch) {number call}
    (called : calls.get number = some call) (other : stopping call ≠ some epoch) :
    UnderStop (calls.erase number) epoch := by
  apply under.later number
  · intro other apart
    rw [get_erase, if_neg apart]
  · intro before found stops
    cases called.symm.trans found
    exact absurd stops other

theorem UnderStop.released (tracked : Tracked state)
    (job : state.spawns.get task = some spawn) (under : UnderStop state.calls epoch)
    {released : PluginSupervisor} (same : released.calls = state.calls) :
    UnderStop (released.release task).calls epoch := by
  rw [← same] at under
  cases task with
  | monitor => exact under
  | call number =>
    have spawning := tracked.spawning number spawn job
    rw [← same] at spawning
    exact under.erased spawning (by simp [stopping])

theorem Exclusive.start (sole : Exclusive state) {task spawn} (free : state.spawns.get task = none)
    (alone : ∀ other rival, state.spawns.get other = some rival → rival.pluginId ≠ spawn.pluginId)
    (dead : ∀ entry, state.entries.get spawn.pluginId = some entry → state.processes.runs entry.epoch = false)
    (spawns : next.spawns = state.spawns.insert task spawn) (entries : next.entries = state.entries)
    (processes : next.processes = state.processes)
    (stops : ∀ epoch, UnderStop state.calls epoch → UnderStop next.calls epoch) : Exclusive next := by
  have single := sole.single
  have vacant := sole.vacant
  refine ⟨?_, ?_, ?_⟩
  · grind
  · grind
  · intro id epoch live
    have before : Live state id epoch :=
      ⟨processes ▸ live.own, processes ▸ live.runs, fun under => live.unstopped (stops epoch under)⟩
    rcases sole.supervised id epoch before with ⟨entry, held, same⟩ | ⟨other, rival, job, own, made⟩
    · exact .inl ⟨entry, entries ▸ held, same⟩
    · refine .inr ⟨other, rival, ?_, own, made⟩
      rw [spawns, get_insert, if_neg]
      · exact job
      · rintro rfl
        rw [free] at job
        cases job

theorem Exclusive.finish (tracked : Tracked state) (sole : Exclusive state)
    (job : state.spawns.get task = some spawn)
    (ended : ∀ epoch, spawn.created = some epoch → state.processes.runs epoch = false)
    {released : PluginSupervisor} (spawns : released.spawns = state.spawns)
    (entries : released.entries = state.entries) (processes : released.processes = state.processes)
    (calls : released.calls = state.calls) : Exclusive (released.release task) := by
  have jobs : ∀ other rival, (released.release task).spawns.get other = some rival →
      state.spawns.get other = some rival := by
    rw [release_spawns, spawns]
    grind
  refine sole.keep jobs (by simp [entries]) (by simp [processes]) ?_ ?_
  · intro id epoch live
    refine ⟨?_, ?_, fun under => live.unstopped (under.released tracked job calls)⟩
    · simpa [processes] using live.own
    · simpa [processes] using live.runs
  · intro id epoch live supervised
    rcases supervised with held | ⟨other, rival, rivalJob, own, made⟩
    · exact .inl (by simpa [entries] using held)
    · refine .inr ⟨other, rival, ?_, own, made⟩
      rw [release_spawns, spawns, get_erase, if_neg]
      · exact rivalJob
      · rintro rfl
        cases job.symm.trans rivalJob
        have runs := live.runs
        rw [release_processes, processes, ended epoch made] at runs
        cases runs

theorem Exclusive.recall (sole : Exclusive state) (spawns : next.spawns = state.spawns)
    (entries : next.entries = state.entries) (processes : next.processes = state.processes)
    (stops : ∀ epoch, state.processes.runs epoch = true → UnderStop state.calls epoch →
      UnderStop next.calls epoch) : Exclusive next := by
  refine sole.keep (by simp [spawns]) (by simp [entries]) (by simp [processes]) ?_ ?_
  · intro id epoch live
    have runs : state.processes.runs epoch = true := processes ▸ live.runs
    exact ⟨processes ▸ live.own, runs, fun under => live.unstopped (stops epoch runs under)⟩
  · intro id epoch _ supervised
    rw [Supervised, spawns, entries]
    exact supervised

theorem Exclusive.unlist (sole : Exclusive state) {name} (spawns : next.spawns = state.spawns)
    (entries : next.entries = state.entries.erase name) (processes : next.processes = state.processes)
    (stops : ∀ epoch, UnderStop state.calls epoch → UnderStop next.calls epoch)
    (dead : ∀ entry, state.entries.get name = some entry → ¬Live next name entry.epoch) : Exclusive next := by
  refine sole.keep (by simp [spawns]) ?_ (by simp [processes]) ?_ ?_
  · grind
  · intro id epoch live
    exact ⟨processes ▸ live.own, processes ▸ live.runs, fun under => live.unstopped (stops epoch under)⟩
  · intro id epoch live supervised
    rcases supervised with ⟨entry, held, rfl⟩ | started
    · refine .inl ⟨entry, ?_, rfl⟩
      rw [entries, get_erase, if_neg]
      · exact held
      · rintro rfl
        exact dead entry held live
    · exact .inr (by rwa [spawns])

section
variable (tracked : Tracked state) (sole : Exclusive state)
include tracked sole

theorem Exclusive.create (job : state.spawns.get task = some spawn) (new : spawn.created = none) {history} :
    Exclusive { state with
      nextEpoch := state.nextEpoch + 1
      processes := state.processes.insert (state.nextEpoch + 1) { pluginId := spawn.pluginId }
      spawns := state.spawns.insert task { spawn with created := some (state.nextEpoch + 1) }
      history } := by
  have single := sole.single
  have fresh : ∀ id entry, state.entries.get id = some entry → entry.epoch ≠ state.nextEpoch + 1 := by
    intro id entry held same
    have below := tracked.fresh entry.epoch (by rw [tracked.entries id entry held]; rfl)
    omega
  refine ⟨?_, ?_, ?_⟩
  · grind
  · intro other rival entry rivalJob held
    have vacant := sole.vacant other
    have apart := fresh _ _ held
    grind [Processes.runs]
  · intro id epoch live
    by_cases created : epoch = state.nextEpoch + 1
    · subst created
      obtain ⟨watched, own⟩ := live.own
      simp at own
      exact .inr ⟨task, _, get_insert_self _ _ _, own.1, rfl⟩
    · have before : Live state id epoch := by
        refine ⟨by simpa [created] using live.own, ?_, live.unstopped⟩
        simpa [Processes.runs, created] using live.runs
      rcases sole.supervised id epoch before with held | ⟨other, rival, rivalJob, own, made⟩
      · exact .inl held
      · refine .inr ⟨other, rival, ?_, own, made⟩
        grind

theorem Exclusive.enter (job : state.spawns.get task = some spawn) (made : spawn.created = some epoch) :
    Exclusive ({ state with
      entries := state.entries.insert spawn.pluginId
        { config := spawn.config, restartCount := spawn.restartCount, epoch }
      processes := state.processes.update epoch .watch }.release task) := by
  have single := sole.single
  refine ⟨?_, ?_, ?_⟩
  · grind
  · intro other rival entry rivalJob held
    have vacant := sole.vacant other
    simp only [release_entries, release_spawns, release_processes] at rivalJob held ⊢
    grind [Processes.runs]
  · intro id other live
    have runs : state.processes.runs other = true := by simpa [Processes.runs] using live.runs
    have before : Live state id other := by
      refine ⟨?_, runs, fun under => live.unstopped (under.released tracked job rfl)⟩
      obtain ⟨watched, own⟩ := live.own
      simp only [release_processes, owner_watch] at own
      split at own
      · obtain ⟨known, found, same⟩ := Option.map_eq_some_iff.mp own
        cases same
        exact ⟨known.2, found⟩
      · exact ⟨watched, own⟩
    rcases sole.supervised id other before with listed | started
    · obtain ⟨entry, held, rfl⟩ := listed
      have vacant := sole.vacant task spawn entry job
      refine .inl ⟨entry, ?_, rfl⟩
      simp only [release_entries]
      grind
    · obtain ⟨rivalTask, rival, rivalJob, own, rivalMade⟩ := started
      by_cases same : rivalTask = task
      · subst same
        cases job.symm.trans rivalJob
        cases made.symm.trans rivalMade
        refine .inl ⟨⟨spawn.config, spawn.restartCount, epoch⟩, ?_, rfl⟩
        simp [own]
      · refine .inr ⟨rivalTask, rival, ?_, own, rivalMade⟩
        rw [release_spawns, get_erase, if_neg same]
        exact rivalJob

theorem Exclusive.moves (guarded : oneStartAtATime state action = true) (moves : Moves state action next) :
    Exclusive next := by
  cases moves with
  | spawnPlugin free | restarted free =>
    refine sole.recall rfl rfl rfl ?_
    intro epoch _ under
    exact under.inserted (by simp [free])
  | recorded called | cleared called =>
    refine sole.recall rfl rfl rfl ?_
    intro epoch _ under
    exact under.inserted (by simp [called, stopping])
  | refused called | flagged called =>
    refine sole.recall rfl rfl rfl ?_
    intro epoch _ under
    exact under.erased called (by simp [stopping])
  | returned called =>
    -- what the stop leaves behind does not run
    simp only [oneStartAtATime, called, Bool.not_eq_true'] at guarded
    refine sole.recall rfl rfl rfl ?_
    intro epoch runs under
    apply under.erased called
    rintro ⟨rfl⟩
    rw [guarded] at runs
    cases runs
  | @stopped number name entry free held =>
    refine sole.unlist rfl rfl rfl ?_ ?_
    · intro epoch under
      exact under.inserted (by simp [free])
    · intro found known live
      cases held.symm.trans known
      exact live.unstopped ⟨number, _, get_insert_self _ _ _, rfl⟩
  | @forgotten event holds =>
    simp only [oneStartAtATime, holds, Bool.not_eq_true'] at guarded
    refine sole.unlist rfl rfl rfl (fun _ => id) ?_
    intro entry held live
    have runs : state.processes.runs entry.epoch = true := live.runs
    rw [not_registeredRuns guarded held] at runs
    cases runs
  | @admitted number name config called absent =>
    have alone : starting state name = false := by
      simpa [oneStartAtATime, called, DashMap.containsKey, absent] using guarded
    have free : state.spawns.get (.call number) = none := by
      cases job : state.spawns.get (.call number) with
      | none => rfl
      | some spawn => cases called.symm.trans (tracked.spawning number spawn job)
    refine sole.start free (fun _ _ job => not_starting alone job) (by simp [absent]) rfl rfl rfl ?_
    intro epoch under
    exact under.inserted (by simp [called, stopping])
  | woken holds unrecorded =>
    simp only [oneStartAtATime, holds, Bool.or_eq_true, beq_iff_eq, unrecorded, false_or, Bool.and_eq_true,
      Bool.not_eq_true'] at guarded
    have free : state.spawns.get .monitor = none := by
      cases job : state.spawns.get .monitor with
      | none => rfl
      | some spawn => cases holds.symm.trans (tracked.respawning spawn job)
    exact sole.start free (fun _ _ job => not_starting guarded.1 job)
      (fun _ held => not_registeredRuns guarded.2 held) rfl rfl rfl (fun _ => id)
  | created job new => exact sole.create tracked job new
  | uncreated job new => exact sole.finish tracked job (by simp [new]) rfl rfl rfl rfl
  | @failed task late spawn epoch job made =>
    have ended : state.processes.runs epoch = false := by
      obtain ⟨_, _, _, created⟩ := spawn
      obtain rfl : created = some epoch := made
      simpa [oneStartAtATime, job] using guarded
    exact sole.finish tracked job (by simp [made, ended]) rfl rfl rfl rfl
  | inserted job made => exact sole.enter tracked job made
  | exited | reaped | reported =>
    refine sole.keep (fun _ _ => id) (fun _ _ => id) ?_ ?_ (fun _ _ _ => id)
    · intro epoch runs
      exact runs_become _ _ _ (by simp) runs
    · intro id epoch live
      exact ⟨by simpa using live.own, runs_become _ _ _ (by simp) live.runs, live.unstopped⟩
  | received | taken | current | stale | stoppedBefore | unstopped | undecided | restarts | givesUp | cancelled
  | counted => exact sole.recall rfl rfl rfl (fun _ _ => id)
  | unstoppable | unrestartable => exact sole

end

theorem Exclusive.keeps_entry (sole : Exclusive state) (guarded : oneStartAtATime state action = true)
    (moves : Moves state action next) (unstopped : ∀ number id, action ≠ .stopPlugin number id)
    (held : state.entries.get id = some entry) (runs : state.processes.runs entry.epoch = true) :
    next.entries.get id = some entry := by
  cases moves with
  | stopped => exact absurd rfl (unstopped _ _)
  | uncreated | failed => simpa using held
  | @inserted task spawn epoch job made =>
    have vacant := sole.vacant task spawn entry job
    rw [release_entries]
    grind
  | forgotten holds =>
    simp only [oneStartAtATime, holds, Bool.not_eq_true'] at guarded
    rw [get_erase, if_neg]
    · exact held
    · rintro rfl
      rw [not_registeredRuns guarded held] at runs
      cases runs
  | _ => exact held

/-- If starts for one plugin do not overlap and nothing is given up while it runs,
then one process of a plugin runs at most outside of stops, it is supervised, and
nothing but a stop takes its entry away. -/
theorem one_instance_supervised (state : PluginSupervisor)
    (run : Run PluginSupervisor.step oneStartAtATime {} state) :
    (∀ id epoch other, Live state id epoch → Live state id other → epoch = other) ∧
    (∀ id epoch, Live state id epoch → Supervised state id epoch) ∧
    ∀ action next, oneStartAtATime state action = true → state.step action = some next →
      (∀ number id, action ≠ .stopPlugin number id) → ∀ id entry, state.entries.get id = some entry →
        state.processes.runs entry.epoch = true → next.entries.get id = some entry := by
  have invariant : Tracked state ∧ Exclusive state := by
    apply run.preserves
    · refine ⟨tracked_empty, ?_, ?_, ?_⟩
      · intro _ _ _ _ job
        cases job
      · intro _ _ _ job
        cases job
      · intro _ _ live
        obtain ⟨_, own⟩ := live.own
        cases own
    intro state action next allowed step holds
    have moves := step_moves step
    exact ⟨holds.1.moves moves, holds.2.moves holds.1 allowed moves⟩
  obtain ⟨tracked, sole⟩ := invariant
  refine ⟨fun _ _ _ => sole.unique, sole.supervised, ?_⟩
  intro action next allowed step unstopped id entry held runs
  exact sole.keeps_entry allowed (step_moves step) unstopped held runs

/-- The plugin is started, exits, is restarted by the monitor, stopped and started. -/
def successive : List Action :=
  starts 1 persistent ++ dies 1 ++ decides ++ [.wake, .create .monitor true, .insertEntry .monitor] ++ stops 2 ++
    dies 2 ++ [.stopReturn 2 false] ++ starts 3 persistent

def successiveEnd : PluginSupervisor := (exec PluginSupervisor.step oneStartAtATime {} successive).get (by decide +kernel)

theorem one_instance_supervised_successive : successiveEnd.processes.runs 3 = true ∧
    ∀ id epoch, Live successiveEnd id epoch → Supervised successiveEnd id epoch :=
  ⟨by decide +kernel, (one_instance_supervised successiveEnd (exec_get_run (by decide +kernel))).2.1⟩

/-- Two starts of one plugin pass the check before either has registered. -/
def overlapping : List Action := [.spawnPlugin 1 "notes" {}, .spawnPlugin 2 "notes" {}, .check 1, .check 2,
  .create (.call 1) true, .create (.call 2) true, .insertEntry (.call 1)]

def overlappingEnd : PluginSupervisor := (exec PluginSupervisor.step unguarded {} overlapping).get (by decide +kernel)

def overwrittenEnd : PluginSupervisor := (overlappingEnd.step (.insertEntry (.call 2))).get (by decide +kernel)

/-- Both run, no stop is in progress, and the second takes the entry of the first. -/
theorem overlapping_starts : Run PluginSupervisor.step unguarded {} overlappingEnd ∧
    Live overlappingEnd "notes" 1 ∧ Live overlappingEnd "notes" 2 ∧
    overlappingEnd.step (.insertEntry (.call 2)) = some overwrittenEnd ∧
    (overlappingEnd.entries.get "notes").map PluginEntry.epoch = some 1 ∧
    (overwrittenEnd.entries.get "notes").map PluginEntry.epoch = some 2 ∧ overwrittenEnd.processes.runs 1 = true := by
  have unstopped (epoch : Nat) : ¬UnderStop overlappingEnd.calls epoch := not_underStop (by decide +kernel)
  refine ⟨exec_get_run (by decide +kernel), ⟨⟨true, by decide +kernel⟩, by decide +kernel, unstopped 1⟩,
    ⟨⟨false, by decide +kernel⟩, by decide +kernel, unstopped 2⟩, (Option.some_get _).symm, ?_⟩
  decide +kernel

end Vynkor.Proofs
