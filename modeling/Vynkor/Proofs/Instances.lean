import Vynkor.Proofs.SupervisorSteps

/-! Instances of a plugin and their exits: one that was stopped is not registered
again, and every exit is reported once and handled once. -/

namespace Vynkor.Proofs
open Supervisor

section Instances

def subject : Call → Option (String × Nat)
  | .recording id epoch | .clearing id epoch | .waiting id epoch | .flagging id epoch => some (id, epoch)
  | .spawn _ _ | .spawning => none

/-- An instance that was stopped was registered once and will not be again. -/
structure Retired (state : PluginSupervisor) : Prop where
  called : ∀ number call id epoch, state.calls.get number = some call → subject call = some (id, epoch) →
    owner state.processes epoch = some (id, true)
  recorded : ∀ id epoch, state.stoppedEpochs.get id = some epoch →
    owner state.processes epoch = some (id, true)
  stopping : ∀ number call epoch, state.calls.get number = some call → stopping call = some epoch →
    ∀ id entry, state.entries.get id = some entry → entry.epoch ≠ epoch
  stopped : ∀ name epoch, state.stoppedEpochs.get name = some epoch →
    ∀ id entry, state.entries.get id = some entry → entry.epoch ≠ epoch

def awaited : Monitor → Option ExitEvent
  | .received event | .taken event _ | .current event _ | .unstopped event _ => some event
  | _ => none

def pending (state : PluginSupervisor) : List ExitEvent := (awaited state.monitor).toList ++ state.events

/-- Every exit is reported once and handled once. -/
structure Reported (state : PluginSupervisor) : Prop where
  exits : ∀ id epoch, .exited id epoch ∈ state.history → state.processes.runs epoch = false ∧
    (owner state.processes epoch).isSome = true
  queued : ∀ event ∈ pending state, state.processes.status event.epoch = some .reported
  unhandled : ∀ event ∈ pending state, ∀ id manual, .handled id event.epoch manual ∉ state.history
  once : ((pending state).map ExitEvent.epoch).Nodup
  handled : ∀ id epoch manual, .handled id epoch manual ∈ state.history →
    state.processes.status epoch = some .reported

def decisionOf : Supervisor.Event → Option (String × Nat × Bool)
  | .handled id epoch manual => some (id, epoch, manual)
  | _ => none

def lastDecision (history : List Supervisor.Event) : Option (String × Nat × Bool) := history.reverse.findSome? decisionOf

@[simp, grind =] theorem lastDecision_snoc (history : List Supervisor.Event) (event : Supervisor.Event) :
    lastDecision (history ++ [event]) = (decisionOf event).or (lastDecision history) := by
  rw [lastDecision, List.reverse_append, List.reverse_singleton, List.singleton_append, List.findSome?_cons, lastDecision]
  cases decisionOf event <;> rfl

/-- A process without a wait task is not reaped. -/
def Unreaped (state : PluginSupervisor) : Prop :=
  ∀ epoch id, owner state.processes epoch = some (id, false) → state.processes.gone epoch = false

variable {state next : PluginSupervisor} {action : Action} {epoch : Nat} {event : ExitEvent}

theorem stopping_subject {call} (stops : stopping call = some epoch) :
    ∃ id, subject call = some (id, epoch) := by
  cases call with
  | recording id _ | clearing id _ | waiting id _ =>
    cases stops
    exact ⟨id, rfl⟩
  | spawn | spawning | flagging => cases stops

theorem retired_empty : Retired {} := by
  refine ⟨?_, ?_, ?_, ?_⟩
  · intro _ _ _ _ called
    cases called
  · intro _ _ recorded
    cases recorded
  · intro _ _ _ called
    cases called
  · intro _ _ recorded
    cases recorded

theorem Retired.moves (tracked : Tracked state) (retired : Retired state)
    (moves : Moves state action next) : Retired next := by
  have entries := tracked.entries
  obtain ⟨called, recorded, stopping, stopped⟩ := retired
  cases moves with
  | spawnPlugin | refused | admitted | returned | flagged | cleared | restarted =>
    refine ⟨?_, recorded, ?_, stopped⟩ <;> grind [subject, Proofs.stopping]
  | recorded => refine ⟨?_, ?_, ?_, ?_⟩ <;> grind [subject, Proofs.stopping]
  | stopped free held => refine ⟨?_, recorded, ?_, ?_⟩ <;> grind [subject, Proofs.stopping]
  | created job new =>
    have fresh := tracked.fresh
    refine ⟨?_, ?_, stopping, stopped⟩ <;> grind
  | uncreated | failed => refine ⟨?_, ?_, ?_, ?_⟩ <;> grind
  | @inserted task spawn epoch job made =>
    -- only an instance that was never registered is
    have unwatched := tracked.jobs task spawn epoch job made
    refine ⟨?_, ?_, ?_, ?_⟩
    · grind
    · grind
    · intro number call other found stops id entry held
      obtain ⟨name, about⟩ := stopping_subject stops
      simp only [release_entries, release_calls] at held found
      grind
    · grind
  | exited | reaped | reported => exact ⟨by simpa using called, by simpa using recorded, stopping, stopped⟩
  | forgotten => refine ⟨called, recorded, ?_, ?_⟩ <;> grind
  | _ => exact ⟨called, recorded, stopping, stopped⟩

theorem reported_empty : Reported {} := by
  refine ⟨?_, ?_, ?_, List.nodup_nil, ?_⟩
  · intro _ _ noted
    cases noted
  · intro _ member
    cases member
  · intro _ member
    cases member
  · intro _ _ _ noted
    cases noted

theorem Reported.keep (reported : Reported state)
    (exited : ∀ epoch, state.processes.runs epoch = false → (owner state.processes epoch).isSome = true →
      next.processes.runs epoch = false ∧ (owner next.processes epoch).isSome = true)
    (final : ∀ epoch, state.processes.status epoch = some .reported → next.processes.status epoch = some .reported)
    (queue : pending next = pending state)
    (exits : ∀ id epoch, .exited id epoch ∈ next.history → .exited id epoch ∈ state.history ∨
      next.processes.runs epoch = false ∧ (owner next.processes epoch).isSome = true)
    (handled : ∀ id epoch manual, .handled id epoch manual ∈ next.history →
      .handled id epoch manual ∈ state.history) : Reported next := by
  refine ⟨?_, ?_, ?_, queue ▸ reported.once, ?_⟩
  · intro id epoch noted
    rcases exits id epoch noted with earlier | now
    · obtain ⟨ended, known⟩ := reported.exits id epoch earlier
      exact exited epoch ended known
    · exact now
  · intro event member
    exact final event.epoch (reported.queued event (queue ▸ member))
  · intro event member id manual noted
    exact reported.unhandled event (queue ▸ member) id manual (handled id event.epoch manual noted)
  · intro id epoch manual noted
    exact final epoch (reported.handled id epoch manual (handled id epoch manual noted))

theorem pending_released (tracked : Tracked state) {task : Task} {spawn : Spawn}
    (job : state.spawns.get task = some spawn) {released : PluginSupervisor}
    (monitor : released.monitor = state.monitor) (events : released.events = state.events) :
    pending (released.release task) = pending state := by
  rw [pending, release_monitor, release_events, events, pending]
  split
  next same =>
    subst same
    rw [tracked.respawning spawn job]
    rfl
  · rw [monitor]

theorem Reported.handle (reported : Reported state) {manual}
    (holds : awaited state.monitor = some event) (processes : next.processes = state.processes)
    (events : next.events = state.events) (done : awaited next.monitor = none)
    (grown : next.history = state.history ++ [.handled event.pluginId event.epoch manual]) : Reported next := by
  have before : pending state = event :: state.events := by rw [pending, holds]; rfl
  have after : pending next = state.events := by rw [pending, done, events]; rfl
  have once := reported.once
  rw [before, List.map_cons, List.nodup_cons] at once
  refine ⟨?_, ?_, ?_, after ▸ once.2, ?_⟩
  · simpa [grown, processes] using reported.exits
  · intro other member
    rw [processes]
    exact reported.queued other (before ▸ List.mem_cons_of_mem _ (after ▸ member))
  · intro other member id manual noted
    rw [after] at member
    rw [grown, List.mem_append, List.mem_singleton] at noted
    rcases noted with earlier | same
    · exact reported.unhandled other (before ▸ List.mem_cons_of_mem _ member) id manual earlier
    · rw [Supervisor.Event.handled.injEq] at same
      exact once.1 (List.mem_map.mpr ⟨other, member, same.2.1⟩)
  · intro id epoch manual noted
    rw [grown, List.mem_append, List.mem_singleton] at noted
    rw [processes]
    rcases noted with earlier | same
    · exact reported.handled id epoch manual earlier
    · cases same
      exact reported.queued event (before ▸ List.mem_cons_self)

theorem Reported.report (reported : Reported state) {success}
    (status : state.processes.status event.epoch = some (.reaped success)) :
    Reported { state with
      processes := state.processes.update event.epoch (.become .reported)
      events := state.events ++ [event] } := by
  have queue : pending { state with
      processes := state.processes.update event.epoch (.become .reported)
      events := state.events ++ [event] } = pending state ++ [event] := by
    rw [pending, pending, List.append_assoc]
  have final : ∀ epoch, state.processes.status epoch = some .reported →
      Processes.status (state.processes.update event.epoch (.become .reported)) epoch = some .reported := by
    intro epoch before
    rw [status_become, before]
    split <;> rfl
  refine ⟨?_, ?_, ?_, ?_, ?_⟩
  · intro id epoch noted
    obtain ⟨ended, known⟩ := reported.exits id epoch noted
    refine ⟨?_, by simpa using known⟩
    grind [Processes.runs]
  · intro other member
    rw [queue, List.mem_append, List.mem_singleton] at member
    rcases member with earlier | rfl
    · exact final other.epoch (reported.queued other earlier)
    · simp [status]
  · intro other member id manual noted
    rw [queue, List.mem_append, List.mem_singleton] at member
    rcases member with earlier | rfl
    · exact reported.unhandled other earlier id manual noted
    · cases status.symm.trans (reported.handled id other.epoch manual noted)
  · rw [queue, List.map_append, List.map_singleton, List.nodup_append_comm, List.singleton_append, List.nodup_cons]
    refine ⟨?_, reported.once⟩
    intro member
    obtain ⟨other, earlier, same⟩ := List.mem_map.mp member
    cases status.symm.trans (same ▸ reported.queued other earlier)
  · intro id epoch manual noted
    exact final epoch (reported.handled id epoch manual noted)

theorem Reported.moves (tracked : Tracked state) (reported : Reported state)
    (moves : Moves state action next) : Reported next := by
  cases moves with
  | spawnPlugin | stopped | returned | restarted =>
    exact reported.keep (fun _ => .intro) (fun _ => id) rfl (fun _ _ noted => .inl (by simpa using noted)) (by simp)
  | refused | admitted | recorded | cleared | flagged | unstoppable | unrestartable =>
    exact reported.keep (fun _ => .intro) (fun _ => id) rfl (fun _ _ => .inl) (fun _ _ _ => id)
  | created job new =>
    have fresh := tracked.fresh
    refine reported.keep ?_ ?_ rfl (fun _ _ noted => .inl (by simpa using noted)) (by simp)
    · intro epoch ended known
      have below := fresh epoch known
      grind [Processes.runs]
    · intro epoch final
      have below := fresh epoch (by rw [← status_isSome, final]; rfl)
      grind
  | uncreated job | failed job =>
    refine reported.keep ?_ (by simp) (pending_released tracked job rfl rfl)
      (fun _ _ noted => .inl (by simpa using noted)) (by simp)
    rw [release_processes]
    exact fun _ => .intro
  | inserted job =>
    refine reported.keep ?_ (by simp) (pending_released tracked job rfl rfl)
      (fun _ _ noted => .inl (by simpa using noted)) (by simp)
    intro epoch ended known
    rw [release_processes, Processes.runs, status_watch, owner_watch]
    refine ⟨ended, ?_⟩
    split
    · rwa [Option.isSome_map]
    · exact known
  | @exited epoch success process found running =>
    have status : state.processes.status epoch = some .running := status_found found running
    have known : (owner state.processes epoch).isSome = true := by rw [← status_isSome, status]; rfl
    refine reported.keep ?_ ?_ rfl ?_ (by simp)
    · intro other stopped known
      refine ⟨?_, by simpa using known⟩
      grind [Processes.runs]
    · grind
    · intro id other noted
      rw [List.mem_append, List.mem_singleton] at noted
      rcases noted with earlier | same
      · exact .inl earlier
      · cases same
        refine .inr ⟨?_, by simpa using known⟩
        simp [Processes.runs, status]
  | @reaped epoch success process found ended =>
    have status : state.processes.status epoch = some (.exited success) := status_found found ended
    refine reported.keep ?_ ?_ rfl (fun _ _ => .inl) (fun _ _ _ => id)
    · intro other stopped known
      refine ⟨?_, by simpa using known⟩
      grind [Processes.runs]
    · grind
  | reported found ended => exact reported.report (status_found found ended)
  | @received event rest idle queue =>
    refine reported.keep (fun _ => .intro) (fun _ => id) ?_ (fun _ _ => .inl) (fun _ _ _ => id)
    simp [pending, idle, queue, awaited]
  | taken holds | current holds | unstopped holds | cancelled holds | woken holds | forgotten holds | counted holds =>
    refine reported.keep (fun _ => .intro) (fun _ => id) ?_ (fun _ _ => .inl) (fun _ _ _ => id)
    simp [pending, holds, awaited]
  | stale holds | stoppedBefore holds | undecided holds | restarts holds | givesUp holds =>
    exact reported.handle (by rw [holds]; rfl) rfl rfl rfl rfl

theorem unreaped_empty : Unreaped {} := by
  intro _ _ known
  cases known

theorem Unreaped.become (unreaped : Unreaped state) {status events history}
    (attended : ∀ id, owner state.processes epoch = some (id, false) → ended status = false) :
    Unreaped { state with
      processes := state.processes.update epoch (.become status)
      events
      history } := by
  intro other id known
  rw [owner_become] at known
  rw [gone_become]
  split
  next same =>
    subst same
    rw [attended id known, Bool.and_false]
  · exact unreaped other id known

theorem Unreaped.moves (unreaped : Unreaped state) (moves : Moves state action next) : Unreaped next := by
  cases moves with
  | created job new =>
    intro epoch id known
    rw [owner_insert] at known
    rw [gone_eq, status_insert]
    split at known
    next fresh =>
      rw [if_pos fresh]
      rfl
    next other =>
      rw [if_neg other, ← gone_eq]
      exact unreaped epoch id known
  | uncreated | failed =>
    intro epoch id known
    rw [release_processes] at known ⊢
    exact unreaped epoch id known
  | @inserted task spawn epoch job made =>
    intro other id known
    rw [release_processes, owner_watch] at known
    rw [release_processes, gone_eq, status_watch, ← gone_eq]
    split at known
    next =>
      -- its wait task has been started
      cases found : owner state.processes other with
      | none => simp [found] at known
      | some process => simp [found] at known
    · exact unreaped other id known
  | exited => exact unreaped.become fun _ _ => rfl
  | reaped found closed watched =>
    refine unreaped.become ?_
    intro id known
    simp [owner, found, watched] at known
  | @reported epoch success process found closed =>
    refine unreaped.become ?_
    intro id known
    have alive := unreaped epoch id known
    rw [gone_eq, status_found found closed] at alive
    cases alive
  | _ => exact unreaped

theorem Unreaped.watched (unreaped : Unreaped state)
    (final : state.processes.status epoch = some .reported) :
    ∃ id, owner state.processes epoch = some (id, true) := by
  have known : (owner state.processes epoch).isSome = true := by rw [← status_isSome, final]; rfl
  obtain ⟨⟨id, watched⟩, found⟩ := Option.isSome_iff_exists.mp known
  cases watched with
  | true => exact ⟨id, found⟩
  | false =>
    have alive := unreaped epoch id found
    rw [gone_eq, final] at alive
    cases alive

theorem Moves.watched (tracked : Tracked state) (moves : Moves state action next) {id}
    (known : owner state.processes epoch = some (id, true)) : owner next.processes epoch = some (id, true) := by
  cases moves with
  | created job new =>
    rw [owner_insert, if_neg]
    · exact known
    · intro same
      have below := tracked.fresh epoch (by rw [known]; rfl)
      omega
  | uncreated | failed => rwa [release_processes]
  | inserted job made =>
    rw [release_processes, owner_watch]
    split
    · rw [known, Option.map_some]
    · exact known
  | exited | reaped | reported => rwa [owner_become]
  | _ => exact known

end Instances
end Vynkor.Proofs
