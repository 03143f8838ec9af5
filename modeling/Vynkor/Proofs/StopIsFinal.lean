import Vynkor.Data.History
import Vynkor.Proofs.SupervisorSteps

/-! A plugin that was stopped stays stopped, if it was at rest when the stop
returned. A later cycle of start and stop during the backoff of an old exit is
what undoes a stop. -/

namespace Vynkor.Proofs
open Execution Supervisor History

/-- A start that has yet to check, or a stop that has yet to record its epoch. -/
def unsettles (id : String) : Call → Bool
  | .spawn other _ | .recording other _ => other == id
  | _ => false

/-- The decision to restart that the monitor sleeps on, if it is about the plugin, is
about the instance that was stopped last. -/
def cancelsRestart (state : PluginSupervisor) (id : String) : Bool :=
  match state.monitor with
  | .sleeping event _ _ => event.pluginId != id || state.stoppedEpochs.get id == some event.epoch
  | _ => true

def atRest (state : PluginSupervisor) (id : String) : Bool :=
  !state.entries.containsKey id && state.spawns.values.all (·.pluginId != id) &&
    state.calls.values.all (!unsettles id ·) && cancelsRestart state id

def returnsAtRest (state : PluginSupervisor) : Action → Bool
  | .stopReturn number _ =>
    match state.calls.get number with
    | some (.waiting id _) => atRest state id
    | _ => true
  | _ => true

structure AtRest (state : PluginSupervisor) (id : String) : Prop where
  unregistered : state.entries.get id = none
  spawns : ∀ task spawn, state.spawns.get task = some spawn → spawn.pluginId ≠ id
  calls : ∀ number call, state.calls.get number = some call → unsettles id call = false
  cancels : ∀ event config count, state.monitor = .sleeping event config count → event.pluginId = id →
    state.stoppedEpochs.get id = some event.epoch

variable {state next : PluginSupervisor} {action : Action} {id : String}

theorem atRest_sound (rest : atRest state id = true) : AtRest state id := by
  simp only [atRest, Bool.and_eq_true, Bool.not_eq_true', List.all_eq_true, DashMap.mem_values] at rest
  obtain ⟨⟨⟨unregistered, spawns⟩, calls⟩, cancels⟩ := rest
  refine ⟨?_, ?_, ?_, ?_⟩
  · simpa [DashMap.containsKey] using unregistered
  · intro task spawn job
    simpa using spawns spawn ⟨task, job⟩
  · intro number call called
    exact calls call ⟨number, called⟩
  · intro event config count sleeping own
    simpa [cancelsRestart, sleeping, own] using cancels

theorem AtRest.moves (rest : AtRest state id) (moves : Moves state action next)
    (uncalled : ∀ number config, action ≠ .spawnPlugin number id config) : AtRest next id := by
  obtain ⟨unregistered, spawns, calls, cancels⟩ := rest
  cases moves with
  | spawnPlugin free | refused called | stopped free held | recorded called | cleared called | returned called
  | restarted free held | flagged called =>
    refine ⟨?_, spawns, ?_, ?_⟩ <;> grind [unsettles]
  | admitted called absent => refine ⟨unregistered, ?_, ?_, cancels⟩ <;> grind [unsettles]
  | created job new => refine ⟨unregistered, ?_, calls, cancels⟩; grind
  | uncreated job | inserted job | failed job => constructor <;> grind
  | exited | reaped | reported => exact ⟨unregistered, spawns, calls, cancels⟩
  | received | taken | current | stale | stoppedBefore | unstopped | undecided | givesUp | cancelled | counted =>
    exact ⟨unregistered, spawns, calls, by simp⟩
  | restarts holds held =>
    refine ⟨unregistered, spawns, calls, ?_⟩
    grind
  | woken holds unrecorded =>
    refine ⟨unregistered, ?_, calls, by simp⟩
    grind
  | forgotten => refine ⟨?_, spawns, calls, by simp⟩; grind
  | unstoppable | unrestartable => exact ⟨unregistered, spawns, calls, cancels⟩

/-- A process is only started by a job for its plugin, so not while that is at rest. -/
def StartedAfterCall (before : List Supervisor.Event) (event : Supervisor.Event) : Prop :=
  ∀ id epoch, event = .created id epoch →
    ¬Since before (fun _ earlier => earlier = .stopReturned id) (.spawnCalled id)

structure Final (state : PluginSupervisor) : Prop where
  quiet : ∀ id, Since state.history (fun _ event => event = .stopReturned id) (.spawnCalled id) →
    AtRest state id
  started : Always state.history StartedAfterCall

theorem Final.moves (final : Final state) (guarded : returnsAtRest state action = true)
    (moves : Moves state action next) : Final next := by
  rcases moves.history with ⟨same, uncalled⟩ | ⟨event, grown, notes⟩
  · refine ⟨?_, same ▸ final.started⟩
    intro id since
    exact (final.quiet id (same ▸ since)).moves moves fun number config => uncalled number id config
  · refine ⟨?_, grown ▸ final.started.snoc ?_⟩
    · intro id since
      rw [grown, since_snoc] at since
      rcases since with rfl | ⟨since, different⟩
      · cases notes with
        | stopReturned called =>
          have rest : AtRest state id := atRest_sound (by simpa [returnsAtRest, called] using guarded)
          exact rest.moves moves (by simp)
      · apply (final.quiet id since).moves moves
        rintro number config rfl
        cases notes
        exact different rfl
    · rintro id epoch rfl since
      cases notes with
      | created job => exact (final.quiet _ since).spawns _ _ job rfl

/-- In a run in which every stop returns with its plugin at rest, no process of the
plugin is started after that until a start is called. -/
theorem no_start_after_stop (state : PluginSupervisor)
    (run : Run PluginSupervisor.step returnsAtRest {} state) :
    ∀ id epoch before after, state.history = before ++ .created id epoch :: after →
      ∀ earlier between, before = earlier ++ .stopReturned id :: between → .spawnCalled id ∈ between := by
  have final : Final state := by
    apply run.preserves
    · exact ⟨fun _ since => absurd since not_since_nil, always_nil⟩
    intro state action next allowed step final
    exact final.moves allowed (step_moves step)
  intro id epoch before after created earlier between returned
  by_contra uncalled
  exact final.started before _ after created id epoch rfl ⟨earlier, _, between, returned, rfl, uncalled⟩

def stopInBackoff : List Action := starts 1 persistent ++ dies 1 ++ decides ++ stops 2 ++ [.stopReturn 2 false, .wake]

def stopInBackoffEnd : PluginSupervisor :=
  (exec PluginSupervisor.step returnsAtRest {} stopInBackoff).get (by decide +kernel)

theorem no_start_after_stop_backoff : Supervisor.Event.stopReturned "notes" ∈ stopInBackoffEnd.history ∧
    ∀ id epoch before after, stopInBackoffEnd.history = before ++ .created id epoch :: after →
      ∀ earlier between, before = earlier ++ .stopReturned id :: between → .spawnCalled id ∈ between :=
  ⟨by decide +kernel, no_start_after_stop stopInBackoffEnd (exec_get_run (by decide +kernel))⟩

/-- The plugin is stopped, started and stopped again during the backoff. -/
def stopTwiceInBackoff : List Action :=
  starts 1 persistent ++ dies 1 ++ decides ++ stops 2 ++ [.stopReturn 2 false] ++ starts 3 persistent ++ stops 4 ++
    dies 2 ++ [.stopReturn 4 false, .wake, .create .monitor true]

def stopTwiceInBackoffEnd : PluginSupervisor :=
  (exec PluginSupervisor.step unguarded {} stopTwiceInBackoff).get (by decide +kernel)

/-- The second stop has overwritten what the first one recorded, and the monitor
starts the plugin that is stopped. -/
theorem start_after_stop : Run PluginSupervisor.step unguarded {} stopTwiceInBackoffEnd ∧
    ∃ before, stopTwiceInBackoffEnd.history = before ++ [.created "notes" 3] ∧
      ∃ earlier, before = earlier ++ [.stopReturned "notes"] :=
  ⟨exec_get_run (by decide +kernel), stopTwiceInBackoffEnd.history.dropLast, by decide +kernel,
    stopTwiceInBackoffEnd.history.dropLast.dropLast, by decide +kernel⟩

end Vynkor.Proofs
