import Vynkor.Data.History
import Vynkor.Proofs.SignalSteps

/-! No signal to an instance that was waited for. -/

namespace Vynkor.Proofs
open DashMap Execution History Supervisor

def signals : Call → Option Nat
  | .recording _ epoch | .clearing _ epoch | .flagging _ epoch => some epoch
  | .spawn _ _ | .spawning | .waiting _ _ => none

def owes (state : Signalling) (epoch : Nat) : Bool :=
  state.supervisor.calls.values.any (signals · == some epoch) || state.terms.values.contains epoch ||
    state.timers.contains epoch || state.watchdog.any (·.2 == epoch)

def unwaited (state : Signalling) (id : String) : Bool :=
  (state.supervisor.entries.get id).all fun entry => !state.waited entry.epoch

/-- Tasks turn to instances that have not been waited for, the wait task returns when no
task is going to signal its instance, and no grace period of a stop ends after that. -/
def inTime (state : Signalling) : Deed → Bool
  | .act (.stopPlugin _ id) | .act (.restartPlugin _ id) | .termNext id | .armNext id => unwaited state id
  | .tick => state.supervisor.entries.values.all fun entry => !state.waited entry.epoch
  | .wait epoch => !owes state epoch
  | .escalate number =>
    match state.supervisor.calls.get number with
    | some (.waiting _ epoch) => !state.waited epoch
    | _ => true
  | _ => true

/-- Every instance that is going to be signalled has not been waited for. -/
structure Owing (state : Signalling) : Prop where
  calls : ∀ number call epoch, state.supervisor.calls.get number = some call → signals call = some epoch →
    .waited epoch ∉ state.log
  terms : ∀ number epoch, state.terms.get number = some epoch → .waited epoch ∉ state.log
  timers : ∀ epoch ∈ state.timers, .waited epoch ∉ state.log
  watchdog : ∀ id epoch, (id, epoch) ∈ state.watchdog → .waited epoch ∉ state.log

def Timely (before : List Trace) (event : Trace) : Prop :=
  ∀ signal epoch, event = .sent signal epoch → .waited epoch ∉ before

variable {state next : Signalling} {epoch : Nat}

section Steps

theorem waited_eq_false : state.waited epoch = false ↔ .waited epoch ∉ state.log := by
  simp [Signalling.waited]

theorem unwaited_registered {id entry} (fresh : unwaited state id = true)
    (held : state.supervisor.entries.get id = some entry) : .waited entry.epoch ∉ state.log := by
  rw [unwaited, held] at fresh
  simpa [Signalling.waited] using fresh

variable {action : Action} {deed : Deed}

theorem Moves.signals {supervisor moved} (moves : Moves supervisor action moved)
    {number epoch call} (called : moved.calls.get number = some call) (going : signals call = some epoch) :
    (∃ before, supervisor.calls.get number = some before ∧ Proofs.signals before = some epoch) ∨
      ∃ id entry, supervisor.entries.get id = some entry ∧ entry.epoch = epoch ∧
        (action = .stopPlugin number id ∨ action = .restartPlugin number id) := by
  cases moves <;> grind [Proofs.signals]

theorem due_get {number : Nat} (owed : (state.due action).get number = some epoch) :
    state.terms.get number = some epoch ∨
      ∃ call, state.supervisor.calls.get number = some call ∧ signals call = some epoch := by
  cases action <;> grind [Signalling.due, signals]

theorem waited_logged {log epoch} :
    .waited epoch ∈ log ++ action.traces ↔ .waited epoch ∈ log := by
  cases action <;> simp [Action.traces]

theorem not_owes (free : owes state epoch = false) :
    (∀ number call, state.supervisor.calls.get number = some call → signals call ≠ some epoch) ∧
      (∀ number, state.terms.get number ≠ some epoch) ∧ epoch ∉ state.timers ∧ ∀ id, (id, epoch) ∉ state.watchdog := by
  simp only [owes, Bool.or_eq_false_iff, List.any_eq_false, beq_iff_eq, List.contains_eq_mem, decide_eq_false_iff_not,
    mem_values] at free
  obtain ⟨⟨⟨calls, terms⟩, timers⟩, watchdog⟩ := free
  refine ⟨?_, ?_, timers, ?_⟩
  · intro number call called
    exact calls call ⟨number, called⟩
  · intro number owed
    exact terms ⟨number, owed⟩
  · intro id listed
    exact watchdog (id, epoch) listed rfl

end Steps

theorem Owing.keep (owing : Owing state)
    (calls : next.supervisor = state.supervisor)
    (terms : ∀ number epoch, next.terms.get number = some epoch → state.terms.get number = some epoch)
    (timers : ∀ epoch ∈ next.timers, epoch ∈ state.timers ∨ .waited epoch ∉ state.log)
    (watchdog : ∀ id epoch, (id, epoch) ∈ next.watchdog → (id, epoch) ∈ state.watchdog ∨ .waited epoch ∉ state.log)
    (log : ∀ epoch, .waited epoch ∈ next.log → .waited epoch ∈ state.log) : Owing next := by
  refine ⟨?_, ?_, ?_, ?_⟩
  · intro number call epoch called going waited
    rw [calls] at called
    exact owing.calls number call epoch called going (log epoch waited)
  · intro number epoch owed waited
    exact owing.terms number epoch (terms number epoch owed) (log epoch waited)
  · intro epoch listed waited
    rcases timers epoch listed with before | fresh
    · exact owing.timers epoch before (log epoch waited)
    · exact fresh (log epoch waited)
  · intro id epoch listed waited
    rcases watchdog id epoch listed with before | fresh
    · exact owing.watchdog id epoch before (log epoch waited)
    · exact fresh (log epoch waited)

theorem Owing.signals {deed : Deed} (owing : Owing state) (guarded : inTime state deed = true)
    (signals : Signals state deed next) : Owing next := by
  cases signals with
  | @act action supervisor admitted moves =>
    refine ⟨?_, ?_, ?_, ?_⟩
    · intro number call epoch called going waited
      rw [waited_logged] at waited
      rcases moves.signals called going with ⟨before, found, same⟩ | ⟨id, entry, held, rfl, chosen⟩
      · exact owing.calls number before epoch found same waited
      · rcases chosen with rfl | rfl
        · exact unwaited_registered guarded held waited
        · exact unwaited_registered guarded held waited
    · intro number epoch owed waited
      rw [waited_logged] at waited
      rcases due_get owed with before | ⟨call, called, going⟩
      · exact owing.terms number epoch before waited
      · exact owing.calls number call epoch called going waited
    · intro epoch listed waited
      exact owing.timers epoch listed (waited_logged.mp waited)
    · intro id epoch listed waited
      exact owing.watchdog id epoch listed (waited_logged.mp waited)
  | @waits epoch process success found ended =>
    -- nobody is going to signal the instance whose id becomes free
    obtain ⟨calls, terms, timers, watchdog⟩ := not_owes (by simpa [inTime] using guarded)
    refine ⟨?_, ?_, ?_, ?_⟩
    · have before := owing.calls
      grind
    · have before := owing.terms
      grind
    · have before := owing.timers
      grind
    · have before := owing.watchdog
      grind
  | terminated owed =>
    refine owing.keep rfl ?_ (fun _ => .inl) (fun _ _ => .inl) (by simp)
    intro number epoch stays
    exact (get_erase_eq_some.mp stays).2
  | armed phase held =>
    refine owing.keep rfl (fun _ _ => id) ?_ (fun _ _ => .inl) (fun _ => id)
    intro epoch listed
    rcases List.mem_cons.mp listed with rfl | before
    · exact .inr (unwaited_registered guarded held)
    · exact .inl before
  | fired due =>
    refine owing.keep rfl (fun _ _ => id) ?_ (fun _ _ => .inl) (by simp)
    intro epoch listed
    exact .inl (List.mem_of_mem_erase listed)
  | ticked =>
    refine owing.keep rfl (fun _ _ => id) (fun _ => .inl) ?_ (fun _ => id)
    intro id epoch listed
    obtain ⟨held, member, same⟩ := List.mem_map.mp listed
    cases same
    have found := (mem_toList _ _ _).mp member
    have fresh := List.all_eq_true.mp guarded held.2 ((mem_values _ _).mpr ⟨_, found⟩)
    exact .inr (waited_eq_false.mp (by simpa using fresh))
  | killed listed | spared listed =>
    refine owing.keep rfl (fun _ _ => id) (fun _ => .inl) ?_ (by simp)
    intro id epoch member
    exact .inl (listed ▸ List.mem_cons_of_mem _ member)
  | escalated | termed | termDone | armDone =>
    exact owing.keep rfl (fun _ _ => id) (fun _ => .inl) (fun _ _ => .inl) (by simp)
  | begun | unregistered | unarmed | returned =>
    exact owing.keep rfl (fun _ _ => id) (fun _ => .inl) (fun _ _ => .inl) (fun _ => id)

theorem timely_signals {deed : Deed} (owing : Owing state) (guarded : inTime state deed = true)
    (signals : Signals state deed next) (timely : Always state.log Timely) : Always next.log Timely := by
  have sends : ∀ signal epoch, .waited epoch ∉ state.log → Always (state.log ++ [.sent signal epoch]) Timely := by
    intro signal epoch fresh
    refine timely.snoc ?_
    intro _ _ same
    cases same
    exact fresh
  have notes : ∀ event, (∀ signal epoch, event ≠ .sent signal epoch) → Always (state.log ++ [event]) Timely := by
    intro event other
    refine timely.snoc ?_
    intro signal epoch same
    exact absurd same (other signal epoch)
  cases signals with
  | @act action supervisor admitted moves =>
    cases action with
    | exit => exact notes _ (by simp)
    | _ => simpa only [Action.traces, List.append_nil] using timely
  | terminated owed => exact sends _ _ (owing.terms _ _ owed)
  | escalated called =>
    simp only [inTime, called] at guarded
    exact sends _ _ (waited_eq_false.mp (by simpa using guarded))
  | termed phase held => exact sends _ _ (unwaited_registered guarded held)
  | fired due => exact sends _ _ (owing.timers _ due)
  | killed listed => exact sends _ _ (owing.watchdog _ _ (listed ▸ List.mem_cons_self))
  | waits | termDone | armDone => exact notes _ (by simp)
  | begun | unregistered | armed | unarmed | returned | ticked | spared => exact timely

theorem owing_empty : Owing {} := by
  refine ⟨?_, ?_, ?_, ?_⟩
  · intro _ _ _ called
    cases called
  · intro _ _ owed
    cases owed
  · intro _ listed
    cases listed
  · intro _ _ listed
    cases listed

/-- A signal goes to an instance whose process id is not yet free. -/
theorem signals_before_reaping (run : Run Signalling.step inTime {} state) (before after : List Trace) (signal : Signal)
    (epoch : Nat) (sent : state.log = before ++ .sent signal epoch :: after) : .waited epoch ∉ before := by
  have always : Owing state ∧ Always state.log Timely := by
    apply run.preserves ⟨owing_empty, always_nil⟩
    intro middle deed next guarded step holds
    have signals := step_signals step
    exact ⟨holds.1.signals guarded signals, timely_signals holds.1 guarded signals holds.2⟩
  exact always.2 before (.sent signal epoch) after sent signal epoch rfl

def replacedEnd : Signalling :=
  (exec Signalling.step inTime {}
    ((starts 1 persistent).map .act ++ [.act (.restartPlugin 2 "notes"), .act (.flagForced 2), .terminate 2] ++
      ends 1 ++ decides.map .act ++ [.act .wake, .act (.create .monitor true), .act (.insertEntry .monitor)] ++
      (stops 3).map .act ++ [.terminate 3] ++ ends 2)).get (by decide +kernel)

theorem signals_before_reaping_replaced : Run Signalling.step inTime {} replacedEnd ∧
    replacedEnd.log = [.sent .term 1, .exited 1, .waited 1, .sent .term 2, .exited 2, .waited 2] ∧
    Trace.waited 2 ∉ [.sent .term 1, .exited 1, .waited 1] := by
  have run : Run Signalling.step inTime {} replacedEnd := exec_get_run (by decide +kernel)
  have log : replacedEnd.log = [.sent .term 1, .exited 1, .waited 1, .sent .term 2, .exited 2, .waited 2] := by
    decide +kernel
  exact ⟨run, log, signals_before_reaping run [.sent .term 1, .exited 1, .waited 1] [.exited 2, .waited 2] .term 2 log⟩

/-- A plugin exits on the SIGTERM of a shutdown, before its timer fires. -/
def lateTimerEnd : Signalling :=
  (exec Signalling.step unguarded {} ((starts 1 {}).map .act ++ shutsDown ++ ends 1 ++ [.fire 1])).get
    (by decide +kernel)

/-- A plugin is stopped while the monitor waits to restart it. -/
def lateStopEnd : Signalling :=
  (exec Signalling.step unguarded {}
    ((starts 1 persistent).map .act ++ ends 1 ++ decides.map .act ++ (stops 2).map .act ++ [.terminate 2])).get
    (by decide +kernel)

/-- The ids are kept in timers, and in entries during a backoff, beyond the life of the
process. -/
theorem reaped_id_signalled :
    (Run Signalling.step unguarded {} lateTimerEnd ∧
      lateTimerEnd.log = [.sent .term 1, .terminated, .armed, .exited 1, .waited 1, .sent .kill 1]) ∧
    (Run Signalling.step unguarded {} lateStopEnd ∧ lateStopEnd.log = [.exited 1, .waited 1, .sent .term 1]) := by
  refine ⟨⟨exec_get_run (by decide +kernel), ?_⟩, exec_get_run (by decide +kernel), ?_⟩
  · decide +kernel
  · decide +kernel

end Vynkor.Proofs
