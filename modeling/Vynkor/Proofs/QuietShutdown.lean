import Vynkor.Proofs.SignalSteps

/-! A graceful shutdown during which the monitor restarts nothing: no process is
started, and every one that ran gets its signals. -/

namespace Vynkor.Proofs
open DashMap Execution Supervisor
variable {since : List Trace}

def found : Monitor → Option ExitEvent
  | .current event _ | .unstopped event _ | .forgetting event => some event
  | _ => none

def resting : Monitor → Bool
  | .sleeping _ _ _ | .respawning => false
  | _ => true

/-- No call is in progress, the monitor is not about to restart or to forget a plugin,
and every process that runs is registered. -/
structure Calm (supervisor : PluginSupervisor) : Prop where
  calls : ∀ number, supervisor.calls.get number = none
  resting : resting supervisor.monitor = true
  found : found supervisor.monitor = none
  registered : ∀ epoch, supervisor.processes.runs epoch = true →
    ∃ id entry, supervisor.entries.get id = some entry ∧ entry.epoch = epoch

/-- No call is made, and no exit that the monitor decides on calls for a restart. -/
def restartsNothing (state : Signalling) : Deed → Bool
  | .act (.spawnPlugin _ _ _) | .act (.stopPlugin _ _) | .act (.restartPlugin _ _) => false
  | .act .decision =>
    match state.supervisor.monitor with
    | .unstopped event forced => (state.supervisor.entries.get event.pluginId).all fun entry =>
        !PluginSupervisor.shouldRestart entry forced event.success
    | _ => true
  | _ => true

section Events

def ExitedBefore (mark : Trace) (since : List Trace) (epoch : Nat) : Prop :=
  ∃ before after, since = before ++ mark :: after ∧ .exited epoch ∈ before

/-- SIGTERM, unless the process has exited before all were sent. -/
def Terminated (since : List Trace) (epoch : Nat) : Prop :=
  .sent .term epoch ∈ since ∨ ExitedBefore .terminated since epoch

/-- SIGKILL, unless the process has exited before all grace periods have begun. -/
def Killed (since : List Trace) (epoch : Nat) : Prop :=
  .sent .kill epoch ∈ since ∨ ExitedBefore .armed since epoch

variable {epoch : Nat}

theorem ExitedBefore.grow {mark} (exited : ExitedBefore mark since epoch) (more : List Trace) :
    ExitedBefore mark (since ++ more) epoch := by
  obtain ⟨before, after, rfl, member⟩ := exited
  exact ⟨before, after ++ more, by simp, member⟩

theorem exitedBefore_snoc (mark : Trace) (exited : .exited epoch ∈ since) : ExitedBefore mark (since ++ [mark]) epoch :=
  ⟨since, [], rfl, exited⟩

theorem Terminated.grow (terminated : Terminated since epoch) (more : List Trace) : Terminated (since ++ more) epoch := by
  rcases terminated with sent | exited
  · exact .inl (List.mem_append_left more sent)
  · exact .inr (exited.grow more)

theorem Killed.grow (killed : Killed since epoch) (more : List Trace) : Killed (since ++ more) epoch := by
  rcases killed with sent | exited
  · exact .inl (List.mem_append_left more sent)
  · exact .inr (exited.grow more)

end Events

section Supervisor

structure Quiet (start supervisor : PluginSupervisor) (since : List Trace) : Prop where
  calls : ∀ number, supervisor.calls.get number = none
  resting : resting supervisor.monitor = true
  found : ∀ event, found supervisor.monitor = some event → supervisor.processes.runs event.epoch = false ∧
    ∀ entry, supervisor.entries.get event.pluginId = some entry → entry.epoch = event.epoch
  processes : ∀ epoch, (owner supervisor.processes epoch).isSome = true → (owner start.processes epoch).isSome = true
  exits : ∀ epoch, start.processes.runs epoch = true → supervisor.processes.runs epoch = false → .exited epoch ∈ since
  entries : ∀ id entry, supervisor.entries.get id = some entry → start.entries.get id = some entry
  kept : ∀ id entry, start.entries.get id = some entry → start.processes.runs entry.epoch = true →
    supervisor.entries.get id = some entry ∨ .exited entry.epoch ∈ since

variable {start supervisor next : PluginSupervisor} {status : Supervisor.Status} {epoch : Nat}

theorem Quiet.grow (quiet : Quiet start supervisor since) (more : List Trace) :
    Quiet start supervisor (since ++ more) := by
  refine { quiet with exits := ?_, kept := ?_ }
  · intro epoch ran ended
    exact List.mem_append_left more (quiet.exits epoch ran ended)
  · intro id entry held ran
    exact (quiet.kept id entry held ran).imp_right (List.mem_append_left more)

theorem Quiet.turn (quiet : Quiet start supervisor since) (calls : next.calls = supervisor.calls)
    (processes : next.processes = supervisor.processes) (entries : next.entries = supervisor.entries)
    (rests : Proofs.resting next.monitor = true)
    (finds : ∀ event, Proofs.found next.monitor = some event → supervisor.processes.runs event.epoch = false ∧
      ∀ entry, supervisor.entries.get event.pluginId = some entry → entry.epoch = event.epoch) :
    Quiet start next since := by
  refine ⟨?_, rests, ?_, ?_, ?_, ?_, ?_⟩
  · rw [calls]
    exact quiet.calls
  · rw [processes, entries]
    exact finds
  · rw [processes]
    exact quiet.processes
  · rw [processes]
    exact quiet.exits
  · rw [entries]
    exact quiet.entries
  · rw [entries]
    exact quiet.kept

theorem Quiet.become (quiet : Quiet start supervisor since) {epoch events history more} (ended : status ≠ .running)
    (noted : supervisor.processes.runs epoch = true → .exited epoch ∈ more) :
    Quiet start { supervisor with
      processes := supervisor.processes.update epoch (.become status)
      events
      history } (since ++ more) := by
  have stays : ∀ other, supervisor.processes.runs other = false →
      Processes.runs (supervisor.processes.update epoch (.become status)) other = false := by
    intro other stopped
    by_contra runs
    have before := runs_become supervisor.processes epoch other ended (Bool.not_eq_false _ ▸ runs)
    rw [stopped] at before
    cases before
  refine ⟨quiet.calls, quiet.resting, ?_, ?_, ?_, quiet.entries, (quiet.grow more).kept⟩
  · intro event holds
    exact ⟨stays _ (quiet.found event holds).1, (quiet.found event holds).2⟩
  · intro other known
    rw [owner_become] at known
    exact quiet.processes other known
  · intro other ran stopped
    rw [List.mem_append]
    cases running : supervisor.processes.runs other with
    | false => exact .inl (quiet.exits other ran running)
    | true =>
      -- only the one that the step is about stops running
      by_cases same : other = epoch
      · exact .inr (same ▸ noted (same ▸ running))
      · rw [Processes.runs, status_become, if_neg same, ← Processes.runs, running] at stopped
        cases stopped

theorem runs_eq_false {processes : Processes}
    (known : processes.status epoch = some status) (ended : status ≠ .running) : processes.runs epoch = false := by
  rw [Processes.runs, known]
  simpa using ended

theorem Quiet.idle (quiet : Quiet start supervisor since) (tracked : Tracked supervisor) (task : Task) :
    supervisor.spawns.get task = none := by
  rw [Option.eq_none_iff_forall_ne_some]
  intro spawn job
  cases task with
  | monitor =>
    have rests := quiet.resting
    rw [tracked.respawning spawn job] at rests
    cases rests
  | call number =>
    have called := tracked.spawning number spawn job
    rw [quiet.calls] at called
    cases called

theorem Quiet.forget (quiet : Quiet start supervisor since) {event count}
    (holds : Proofs.found supervisor.monitor = some event) :
    Quiet start { supervisor with
      monitor := .counting event.pluginId count
      entries := supervisor.entries.erase event.pluginId } since := by
  obtain ⟨stopped, own⟩ := quiet.found event holds
  refine ⟨quiet.calls, rfl, ?_, quiet.processes, quiet.exits, ?_, ?_⟩
  · intro other same
    cases same
  · intro id entry held
    exact quiet.entries id entry (get_erase_eq_some.mp held).2
  · intro id entry held ran
    rcases quiet.kept id entry held ran with stays | exited
    · by_cases same : id = event.pluginId
      · subst same
        rw [← own entry stays] at stopped
        exact .inr (quiet.exits entry.epoch ran stopped)
      · exact .inl (get_erase_eq_some.mpr ⟨same, stays⟩)
    · exact .inr exited

theorem Quiet.moves {state : Signalling} {action : Action} (quiet : Quiet start state.supervisor since)
    (kept : Kept state) (guarded : restartsNothing state (.act action) = true)
    (moves : Moves state.supervisor action next) : Quiet start next (since ++ action.traces) := by
  cases moves with
  | spawnPlugin | unstoppable | stopped | unrestartable | restarted => cases guarded
  | refused called | admitted called | recorded called | cleared called | returned called | flagged called =>
    rw [quiet.calls] at called
    cases called
  | created job | uncreated job | inserted job | failed job =>
    rw [quiet.idle kept.tracked] at job
    cases job
  | exited found running => exact quiet.become (by simp) (fun _ => List.mem_singleton_self _)
  | reaped found ended =>
    refine quiet.become (by simp) ?_
    rw [runs_eq_false (status_found found ended) (by simp)]
    exact fun running => by cases running
  | reported found ended =>
    refine quiet.become (by simp) ?_
    rw [runs_eq_false (status_found found ended) (by simp)]
    exact fun running => by cases running
  | received | taken | stale | stoppedBefore | counted =>
    exact (quiet.grow _).turn rfl rfl rfl rfl (by simp [Proofs.found])
  | @current event forced entry holds held own =>
    refine (quiet.grow _).turn rfl rfl rfl rfl ?_
    intro other same
    cases same
    constructor
    · have queued := kept.reported.queued event (by simp [pending, holds, awaited])
      exact runs_eq_false queued (by simp)
    · intro current found
      rw [held] at found
      cases found
      exact own
  | unstopped holds | undecided holds | givesUp holds =>
    refine (quiet.grow _).turn rfl rfl rfl rfl ?_
    intro event same
    exact quiet.found event (by rw [holds]; exact same)
  | restarts holds held chosen =>
    simp only [restartsNothing, holds, held, Option.all_some, chosen] at guarded
    cases guarded
  | cancelled holds | woken holds =>
    have rests := quiet.resting
    rw [holds] at rests
    cases rests
  | forgotten holds => exact (quiet.grow _).forget (by rw [holds]; rfl)

end Supervisor

section Phases

/-- What the shutdown has still to do about a process that ran when it began. -/
def Outstanding (since : List Trace) (timers : List Nat) (id : String) (epoch : Nat) : Shutdown → Prop
  | .off => False
  | .terminating sweep => id ∈ sweep.left ∨ .sent .term epoch ∈ since ∨ .exited epoch ∈ since
  | .arming sweep => Terminated since epoch ∧
      (id ∈ sweep.left ∨ epoch ∈ timers ∨ .sent .kill epoch ∈ since ∨ .exited epoch ∈ since)
  | .awaiting => Terminated since epoch ∧ (epoch ∈ timers ∨ Killed since epoch)
  | .returned => Terminated since epoch ∧ Killed since epoch

structure Closing (start : Signalling) (since : List Trace) (state : Signalling) : Prop where
  log : state.log = start.log ++ since
  begun : state.shutdown ≠ .off
  quiet : Quiet start.supervisor state.supervisor since
  progress : ∀ id entry, start.supervisor.entries.get id = some entry →
    start.supervisor.processes.runs entry.epoch = true → Outstanding since state.timers id entry.epoch state.shutdown

variable {start state next : Signalling} {sweep : Sweep} {entry : PluginEntry} {id : String} {shutdown : Shutdown}
  {timers : List Nat} {more : List Trace}

theorem Outstanding.grow {epoch} (progress : Outstanding since timers id epoch shutdown) (more : List Trace) :
    Outstanding (since ++ more) timers id epoch shutdown := by
  have member : ∀ event, event ∈ since → event ∈ since ++ more := fun _ => List.mem_append_left more
  cases shutdown with
  | off => exact progress
  | terminating sweep => exact progress.imp_right (Or.imp (member _) (member _))
  | arming sweep =>
    exact ⟨progress.1.grow more, progress.2.imp_right (Or.imp_right (Or.imp (member _) (member _)))⟩
  | awaiting => exact ⟨progress.1.grow more, progress.2.imp_right (Killed.grow · more)⟩
  | returned => exact ⟨progress.1.grow more, progress.2.grow more⟩

theorem Closing.keep (closing : Closing start since state) (log : next.log = state.log ++ more)
    (quiet : Quiet start.supervisor next.supervisor (since ++ more)) (shutdown : next.shutdown = state.shutdown)
    (timers : next.timers = state.timers) : Closing start (since ++ more) next := by
  refine ⟨?_, ?_, quiet, ?_⟩
  · rw [log, closing.log, List.append_assoc]
  · rw [shutdown]
    exact closing.begun
  · intro id entry held ran
    rw [shutdown, timers]
    exact (closing.progress id entry held ran).grow more

theorem Closing.advance (closing : Closing start since state) {log} (grown : log = state.log ++ more)
    (begun : shutdown ≠ .off)
    (progress : ∀ id entry, state.supervisor.entries.get id = some entry ∨ .exited entry.epoch ∈ since →
      (∀ other, state.supervisor.entries.get id = some other → other = entry) →
      Outstanding since state.timers id entry.epoch state.shutdown →
      Outstanding (since ++ more) timers id entry.epoch shutdown) :
    Closing start (since ++ more) { state with shutdown, timers, log } := by
  refine ⟨?_, begun, closing.quiet.grow more, ?_⟩
  · rw [grown, closing.log, List.append_assoc]
  · intro id entry held ran
    refine progress id entry (closing.quiet.kept id entry held ran) ?_ (closing.progress id entry held ran)
    intro other found
    have same := closing.quiet.entries id other found
    rw [held] at same
    cases same
    rfl

theorem left_visited {left : List String} {visited : String} {before after : Prop} (progress : id ∈ left ∨ before)
    (now : id = visited → after) (later : before → after) : id ∈ left.erase visited ∨ after := by
  by_cases same : id = visited
  · exact .inr (now same)
  · exact progress.imp (List.mem_erase_of_ne same).mpr later

section
variable (closing : Closing start since state)
include closing

section
variable (phase : state.shutdown = .terminating sweep)
include phase

theorem Closing.termed (held : state.supervisor.entries.get id = some entry) :
    Closing start (since ++ [.sent .term entry.epoch]) { state with
      shutdown := .terminating { left := sweep.left.erase id, seen := id :: sweep.seen }
      log := state.log ++ [.sent .term entry.epoch] } := by
  refine closing.advance rfl (by simp) ?_
  intro name own _ unique progress
  rw [phase] at progress
  refine left_visited progress ?_ (Or.imp (List.mem_append_left _) (List.mem_append_left _))
  rintro rfl
  cases unique entry held
  exact .inl (List.mem_append_right _ (List.mem_singleton_self _))

theorem Closing.unregistered (absent : state.supervisor.entries.get id = none) :
    Closing start (since ++ []) { state with
      shutdown := .terminating { left := sweep.left.erase id, seen := id :: sweep.seen } } := by
  refine closing.advance (List.append_nil _).symm (by simp) ?_
  intro name own present _ progress
  rw [phase] at progress
  rw [List.append_nil]
  refine left_visited progress ?_ fun done => done
  rintro rfl
  -- what is no longer registered has exited
  rw [absent] at present
  exact .inr (present.resolve_left (by simp))

theorem Closing.termDone (done : sweep.left = []) : Closing start (since ++ [.terminated]) { state with
      shutdown := .arming { left := state.supervisor.entries.keys }
      log := state.log ++ [.terminated] } := by
  refine closing.advance rfl (by simp) ?_
  intro name own present _ progress
  rw [phase] at progress
  constructor
  · rcases progress with listed | sent | exited
    · rw [done] at listed
      cases listed
    · exact .inl (List.mem_append_left _ sent)
    · exact .inr (exitedBefore_snoc .terminated exited)
  · rcases present with held | exited
    · exact .inl ((mem_keys _ _).mpr (by rw [held]; rfl))
    · exact .inr (.inr (.inr (List.mem_append_left _ exited)))

end

theorem Closing.armed (phase : state.shutdown = .arming sweep)
    (held : state.supervisor.entries.get id = some entry) :
    Closing start (since ++ []) { state with
      shutdown := .arming { left := sweep.left.erase id, seen := id :: sweep.seen }
      timers := entry.epoch :: state.timers } := by
  refine closing.advance (List.append_nil _).symm (by simp) ?_
  intro name own _ unique progress
  rw [phase] at progress
  rw [List.append_nil]
  refine ⟨progress.1, left_visited progress.2 ?_ (Or.imp_left (List.mem_cons_of_mem _))⟩
  rintro rfl
  cases unique entry held
  exact .inl List.mem_cons_self

theorem Closing.unarmed (phase : state.shutdown = .arming sweep) (absent : state.supervisor.entries.get id = none) :
    Closing start (since ++ []) { state with
      shutdown := .arming { left := sweep.left.erase id, seen := id :: sweep.seen } } := by
  refine closing.advance (List.append_nil _).symm (by simp) ?_
  intro name own present _ progress
  rw [phase] at progress
  rw [List.append_nil]
  refine ⟨progress.1, left_visited progress.2 ?_ fun done => done⟩
  rintro rfl
  rw [absent] at present
  exact .inr (.inr (present.resolve_left (by simp)))

theorem Closing.armDone (phase : state.shutdown = .arming sweep) (done : sweep.left = []) :
    Closing start (since ++ [.armed]) { state with shutdown := .awaiting, log := state.log ++ [.armed] } := by
  refine closing.advance rfl (by simp) ?_
  intro name own _ _ progress
  rw [phase] at progress
  refine ⟨progress.1.grow _, ?_⟩
  rcases progress.2 with listed | due | sent | exited
  · rw [done] at listed
    cases listed
  · exact .inl due
  · exact .inr (.inl (List.mem_append_left _ sent))
  · exact .inr (.inr (exitedBefore_snoc .armed exited))

theorem Closing.fired (epoch : Nat) : Closing start (since ++ [.sent .kill epoch]) { state with
      timers := state.timers.erase epoch
      log := state.log ++ [.sent .kill epoch] } := by
  have left : ∀ other, other ∈ state.timers →
      other ∈ state.timers.erase epoch ∨ .sent .kill other ∈ since ++ [.sent .kill epoch] := by
    intro other due
    by_cases same : other = epoch
    · exact .inr (by simp [same])
    · exact .inl ((List.mem_erase_of_ne same).mpr due)
  refine closing.advance rfl closing.begun ?_
  intro name own _ _ progress
  have grown := progress.grow [.sent .kill epoch]
  cases phase : state.shutdown with
  | off => exact absurd phase closing.begun
  | terminating | returned =>
    rw [phase] at grown
    exact grown
  | arming sweep =>
    rw [phase] at grown
    refine ⟨grown.1, ?_⟩
    rcases grown.2 with listed | due | done
    · exact .inl listed
    · exact .inr ((left _ due).imp_right .inl)
    · exact .inr (.inr done)
  | awaiting =>
    rw [phase] at grown
    refine ⟨grown.1, ?_⟩
    rcases grown.2 with due | killed
    · exact (left _ due).imp_right .inl
    · exact .inr killed

theorem Closing.returned (phase : state.shutdown = .awaiting)
    (done : state.timers = []) : Closing start (since ++ []) { state with shutdown := .returned } := by
  refine closing.advance (List.append_nil _).symm (by simp) ?_
  intro name own _ _ progress
  rw [phase, done] at progress
  rw [List.append_nil]
  exact ⟨progress.1, progress.2.resolve_left List.not_mem_nil⟩

end

theorem Closing.signals {deed} (closing : Closing start since state) (kept : Kept state)
    (guarded : restartsNothing state deed = true) (signals : Signals state deed next) :
    ∃ more, Closing start (since ++ more) next := by
  cases signals with
  | act admitted moves => exact ⟨_, closing.keep rfl (closing.quiet.moves kept guarded moves) rfl rfl⟩
  | waits | terminated | escalated | killed => exact ⟨_, closing.keep rfl (closing.quiet.grow _) rfl rfl⟩
  | ticked | spared => exact ⟨[], closing.keep (List.append_nil _).symm (closing.quiet.grow _) rfl rfl⟩
  | begun off => exact absurd off closing.begun
  | termed phase held => exact ⟨_, closing.termed phase held⟩
  | unregistered phase absent => exact ⟨_, closing.unregistered phase absent⟩
  | termDone phase done => exact ⟨_, closing.termDone phase done⟩
  | armed phase held => exact ⟨_, closing.armed phase held⟩
  | unarmed phase absent => exact ⟨_, closing.unarmed phase absent⟩
  | armDone phase done => exact ⟨_, closing.armDone phase done⟩
  | fired due => exact ⟨_, closing.fired _⟩
  | returned phase done => exact ⟨_, closing.returned phase done⟩

theorem closing_begun (calm : Calm start.supervisor) (begun : start.step .gracefulShutdown = some state) :
    Closing start [] state := by
  cases step_signals begun with
  | begun off phase =>
    refine ⟨(List.append_nil _).symm, ?_, ?_, ?_⟩
    · rw [phase]
      split <;> simp
    · refine ⟨calm.calls, calm.resting, ?_, fun _ => id, ?_, fun _ _ => id, fun _ _ held _ => .inl held⟩
      · intro event holds
        rw [calm.found] at holds
        cases holds
      · intro epoch ran ended
        rw [ran] at ended
        cases ended
    · intro id entry held ran
      have listed : id ∈ start.supervisor.entries.keys := (mem_keys _ _).mpr (by rw [held]; rfl)
      rw [phase]
      split
      next empty =>
        rw [empty] at listed
        cases listed
      · exact .inl listed

end Phases

/-- Once the shutdown has begun no process is started, and when it returns every process
that ran has got SIGTERM and, if it outlived its grace period, SIGKILL. -/
theorem shutdown_reaches_all {start began final : Signalling} (reached : Run Signalling.step unguarded {} start)
    (calm : Calm start.supervisor) (begun : start.step .gracefulShutdown = some began)
    (run : Run Signalling.step restartsNothing began final) :
    (∀ epoch, (owner final.supervisor.processes epoch).isSome = true →
      (owner start.supervisor.processes epoch).isSome = true) ∧
    ∃ since, final.log = start.log ++ since ∧
      (final.shutdown = .returned → ∀ epoch, start.supervisor.processes.runs epoch = true →
        Terminated since epoch ∧ Killed since epoch) := by
  have kept : Kept began := (kept_empty.run reached).signals (step_signals begun)
  have closes : Kept final ∧ ∃ since, Closing start since final := by
    apply run.preserves ⟨kept, [], closing_begun calm begun⟩
    intro state deed next guarded step holds
    obtain ⟨kept, since, closing⟩ := holds
    have signals := step_signals step
    obtain ⟨more, closing⟩ := closing.signals kept guarded signals
    exact ⟨kept.signals signals, _, closing⟩
  obtain ⟨_, since, closing⟩ := closes
  refine ⟨closing.quiet.processes, since, closing.log, ?_⟩
  intro returned epoch ran
  obtain ⟨id, entry, held, rfl⟩ := calm.registered epoch ran
  have progress := closing.progress id entry held ran
  rw [returned] at progress
  exact progress

def oneShot : PluginConfig where
  restartPolicy := .never

def oneRuns (config : PluginConfig) : Option Signalling := exec Signalling.step unguarded {} ((starts 1 config).map .act)

def oneShotRuns : Signalling := (oneRuns oneShot).get (by decide +kernel)

def oneShotBegan : Signalling := (oneShotRuns.step .gracefulShutdown).get (by decide +kernel)

def oneShotEnd : Signalling :=
  (exec Signalling.step restartsNothing oneShotBegan
    ([.termNext "notes", .termDone, .armNext "notes", .armDone] ++ ends 1 ++ decides.map .act ++
      [.act .forget, .act .countStopped, .fire 1, .shutdownReturn])).get (by decide +kernel)

theorem oneShotRuns_calm : Calm oneShotRuns.supervisor := by
  have calls : oneShotRuns.supervisor.calls.keys = [] := by decide +kernel
  have processes : oneShotRuns.supervisor.processes.keys = [1] := by decide +kernel
  refine ⟨?_, by decide +kernel, by decide +kernel, ?_⟩
  · intro number
    by_contra present
    have listed := (mem_keys _ number).mpr (Option.isSome_iff_ne_none.mpr present)
    rw [calls] at listed
    cases listed
  · intro epoch runs
    have known : (oneShotRuns.supervisor.processes.get epoch).isSome = true := by
      cases none : oneShotRuns.supervisor.processes.get epoch with
      | none => simp [Processes.runs, Processes.status, none] at runs
      | some => rfl
    have listed := (mem_keys _ epoch).mpr known
    rw [processes, List.mem_singleton] at listed
    subst listed
    exact ⟨"notes", { config := oneShot, restartCount := 0, epoch := 1 }, by decide +kernel, rfl⟩

theorem shutdown_reaches_all_oneShot : oneShotRuns.step .gracefulShutdown = some oneShotBegan ∧
    Run Signalling.step restartsNothing oneShotBegan oneShotEnd ∧ oneShotEnd.shutdown = .returned ∧
    ∃ since, oneShotEnd.log = oneShotRuns.log ++ since ∧ Terminated since 1 ∧ Killed since 1 := by
  have begun : oneShotRuns.step .gracefulShutdown = some oneShotBegan := (Option.some_get _).symm
  have run : Run Signalling.step restartsNothing oneShotBegan oneShotEnd := exec_get_run (by decide +kernel)
  have returned : oneShotEnd.shutdown = .returned := by decide +kernel
  obtain ⟨_, since, log, reaches⟩ :=
    shutdown_reaches_all (exec_get_run (by decide +kernel)) oneShotRuns_calm begun run
  exact ⟨begun, run, returned, since, log, reaches returned 1 (by decide +kernel)⟩

def persistentRuns : Signalling := (oneRuns persistent).get (by decide +kernel)

def persistentBegan : Signalling := (persistentRuns.step .gracefulShutdown).get (by decide +kernel)

def persistentEnd : Signalling :=
  (exec Signalling.step unguarded persistentBegan
    ([.termNext "notes", .termDone, .armNext "notes", .armDone] ++ ends 1 ++ decides.map .act ++
      [.act .wake, .act (.create .monitor true), .act (.insertEntry .monitor), .fire 1, .shutdownReturn])).get
    (by decide +kernel)

/-- The monitor goes on restarting plugins, and the shutdown leaves a process that it has
not signalled. -/
theorem shutdown_leaves_restarted : Run Signalling.step unguarded {} persistentRuns ∧
    persistentRuns.step .gracefulShutdown = some persistentBegan ∧
    Run Signalling.step unguarded persistentBegan persistentEnd ∧ persistentEnd.shutdown = .returned ∧
    persistentRuns.supervisor.processes.get 2 = none ∧ persistentEnd.supervisor.processes.runs 2 = true ∧
    persistentEnd.log = [.sent .term 1, .terminated, .armed, .exited 1, .waited 1, .sent .kill 1] := by
  refine ⟨exec_get_run (by decide +kernel), (Option.some_get _).symm, exec_get_run (by decide +kernel), ?_⟩
  decide +kernel

end Vynkor.Proofs
