import Vynkor.Proofs.SignalSteps
import Vynkor.Scenario
import Vynkor.Shutdown

/-! Who a graceful shutdown reaches, and what it waits for. -/

namespace Vynkor.Proofs
open Execution PluginRegistry Supervisor

section Alone
variable {state : Signalling} {supervisor : PluginSupervisor} {id : String} {seen : List String}

def ownDeed (_ : Signalling) : Deed → Bool
  | .gracefulShutdown | .termNext _ | .termDone | .armNext _ | .armDone | .fire _ | .shutdownReturn => true
  | _ => false

def epochs (supervisor : PluginSupervisor) (ids : List String) : List Nat :=
  ids.filterMap fun id => (supervisor.entries.get id).map PluginEntry.epoch

theorem mem_epochs {epoch} :
    epoch ∈ epochs supervisor supervisor.entries.keys ↔ ∃ entry ∈ supervisor.entries.values, entry.epoch = epoch := by
  simp only [epochs, List.mem_filterMap, Option.map_eq_some_iff, DashMap.mem_values]
  constructor
  · rintro ⟨id, _, entry, held, same⟩
    exact ⟨entry, ⟨id, held⟩, same⟩
  · rintro ⟨entry, ⟨id, held⟩, same⟩
    exact ⟨id, (DashMap.mem_keys _ _).mpr (by rw [held]; rfl), entry, held, same⟩

theorem epochs_cons (supervisor : PluginSupervisor) (id : String) (rest : List String) :
    epochs supervisor (id :: rest) = epochs supervisor [id] ++ epochs supervisor rest :=
  List.filterMap_append (l := [id])

theorem sweep_next {rest} (apart : (seen ++ id :: rest).Nodup) :
    id ∉ seen ∧ (id :: seen ++ rest).Nodup := by
  refine ⟨?_, List.perm_middle.nodup_iff.mp apart⟩
  intro member
  exact (List.nodup_append.mp apart).2.2 id member id List.mem_cons_self rfl

theorem termNext_alone {rest}
    (phase : state.shutdown = .terminating ⟨id :: rest, seen⟩) (unseen : id ∉ seen) :
    state.step (.termNext id) = some { state with
      shutdown := .terminating ⟨rest, id :: seen⟩
      log := state.log ++ (epochs state.supervisor [id]).map (.sent .term) } := by
  cases held : state.supervisor.entries.get id with
  | none => simp [Signalling.step, Signalling.termNext, phase, Sweep.visit, unseen, held, epochs]
  | some entry =>
    simp [Signalling.step, Signalling.termNext, phase, Sweep.visit, unseen, held, epochs, Signalling.send,
      Signalling.note]

theorem armNext_alone {rest}
    (phase : state.shutdown = .arming ⟨id :: rest, seen⟩) (unseen : id ∉ seen) :
    state.step (.armNext id) = some { state with
      shutdown := .arming ⟨rest, id :: seen⟩
      timers := epochs state.supervisor [id] ++ state.timers } := by
  cases held : state.supervisor.entries.get id with
  | none => simp [Signalling.step, Signalling.armNext, phase, Sweep.visit, unseen, held, epochs]
  | some entry => simp [Signalling.step, Signalling.armNext, phase, Sweep.visit, unseen, held, epochs]

theorem terminating_alone (left seen : List String) (phase : state.shutdown = .terminating ⟨left, seen⟩)
    (apart : (seen ++ left).Nodup) : ∃ seen, Run Signalling.step ownDeed state { state with
      shutdown := .terminating ⟨[], seen⟩
      log := state.log ++ (epochs state.supervisor left).map (.sent .term) } := by
  induction left generalizing state seen with
  | nil =>
    refine ⟨seen, ?_⟩
    rw [← phase]
    simpa [epochs] using Run.refl state
  | cons id rest ih =>
    obtain ⟨unseen, again⟩ := sweep_next apart
    have step := termNext_alone phase unseen
    obtain ⟨seen, run⟩ := @ih { state with
      shutdown := .terminating ⟨rest, id :: seen⟩
      log := state.log ++ (epochs state.supervisor [id]).map (.sent .term) } (id :: seen) rfl again
    refine ⟨seen, .trans (.step (.refl state) rfl step) ?_⟩
    rw [epochs_cons state.supervisor id rest, List.map_append, ← List.append_assoc]
    exact run

theorem arming_alone (left seen : List String) (phase : state.shutdown = .arming ⟨left, seen⟩)
    (apart : (seen ++ left).Nodup) : ∃ seen timers, Run Signalling.step ownDeed state { state with
      shutdown := .arming ⟨[], seen⟩
      timers } ∧ ∀ epoch, epoch ∈ timers ↔ epoch ∈ epochs state.supervisor left ∨ epoch ∈ state.timers := by
  induction left generalizing state seen with
  | nil =>
    refine ⟨seen, state.timers, ?_, by simp [epochs]⟩
    rw [← phase]
    exact .refl state
  | cons id rest ih =>
    obtain ⟨unseen, again⟩ := sweep_next apart
    have step := armNext_alone phase unseen
    obtain ⟨seen, timers, run, members⟩ := @ih { state with
      shutdown := .arming ⟨rest, id :: seen⟩
      timers := epochs state.supervisor [id] ++ state.timers } (id :: seen) rfl again
    refine ⟨seen, timers, .trans (.step (.refl state) rfl step) run, ?_⟩
    intro epoch
    rw [members, epochs_cons state.supervisor id rest, List.mem_append, List.mem_append, or_left_comm, or_assoc]

theorem timers_alone (timers : List Nat) (due : state.timers = timers) : Run Signalling.step ownDeed state { state with
      timers := []
      log := state.log ++ timers.map (.sent .kill) } := by
  induction timers generalizing state with
  | nil =>
    rw [List.map_nil, List.append_nil, ← due]
    exact .refl state
  | cons epoch rest ih =>
    have step : state.step (.fire epoch) = some { state with
        timers := rest
        log := state.log ++ [.sent .kill epoch] } := by
      simp [Signalling.step, Signalling.fire, due, Signalling.send, Signalling.note]
    refine .trans (.step (.refl state) rfl step) ?_
    have run := @ih { state with timers := rest, log := state.log ++ [.sent .kill epoch] } rfl
    rw [List.append_assoc] at run
    exact run

theorem termDone_alone (phase : state.shutdown = .terminating ⟨[], seen⟩) :
    state.step .termDone = some { state with
      shutdown := .arming ⟨state.supervisor.entries.keys, []⟩
      log := state.log ++ [.terminated] } := by
  simp [Signalling.step, Signalling.termDone, phase, Signalling.note]

theorem armDone_alone (phase : state.shutdown = .arming ⟨[], seen⟩) :
    state.step .armDone = some { state with shutdown := .awaiting, log := state.log ++ [.armed] } := by
  simp [Signalling.step, Signalling.armDone, phase, Signalling.note]

theorem return_alone (phase : state.shutdown = .awaiting) (done : state.timers = []) :
    state.step .shutdownReturn = some { state with shutdown := .returned } := by
  simp [Signalling.step, Signalling.shutdownReturn, phase, done]

theorem sent_alone {timers : List Nat}
    (armed : ∀ epoch, epoch ∈ timers ↔ epoch ∈ epochs supervisor supervisor.entries.keys) (signal : Signal)
    (epoch : Nat) (defaultGraceSeconds : UInt32) :
    Trace.sent signal epoch ∈ (epochs supervisor supervisor.entries.keys).map (.sent .term) ++ [.terminated] ++
        [.armed] ++ timers.map (.sent .kill) ↔
      ∃ delay, ⟨signal, epoch, delay⟩ ∈ supervisor.gracefulShutdown defaultGraceSeconds := by
  simp only [List.mem_append, List.mem_map, List.mem_singleton, reduceCtorEq, or_false, Trace.sent.injEq, armed,
    mem_epochs, PluginSupervisor.mem_gracefulShutdown, Sending.mk.injEq]
  constructor
  · rintro (⟨_, ⟨entry, member, rfl⟩, rfl, rfl⟩ | ⟨_, ⟨entry, member, rfl⟩, rfl, rfl⟩)
    · exact ⟨0, entry, member, .inl ⟨rfl, rfl, rfl⟩⟩
    · exact ⟨_, entry, member, .inr ⟨rfl, rfl, rfl⟩⟩
  · rintro ⟨delay, entry, member, ⟨rfl, rfl, _⟩ | ⟨rfl, rfl, _⟩⟩
    · exact .inl ⟨_, ⟨entry, member, rfl⟩, rfl, rfl⟩
    · exact .inr ⟨_, ⟨entry, member, rfl⟩, rfl, rfl⟩

end Alone

section Notices
variable {β : Type} {ctx : Context β} {supervisor : PluginSupervisor} {defaultGraceSeconds : UInt32}
  {net : Mailboxes Sender (Outbound β)}

theorem passes_congr {other tx} (same : other tx = net tx) :
    Kernel.passes other tx = Kernel.passes net tx := by
  simp only [Kernel.passes, Mailboxes.hasRoom, same]

theorem notifyAll_passes (entries : List PluginEntry) (apart : (entries.map PluginEntry.writeTx).Nodup)
    (room : ∀ entry ∈ entries, (Kernel.shutdownNotice ctx supervisor defaultGraceSeconds entry.pluginId).isSome = true →
      Kernel.passes net entry.writeTx = true) :
    ∃ after, Kernel.notifyAll ctx supervisor defaultGraceSeconds entries net = .ok after := by
  induction entries generalizing net with
  | nil => exact ⟨net, rfl⟩
  | cons entry rest ih =>
    rw [List.map_cons, List.nodup_cons] at apart
    simp only [Kernel.notifyAll]
    split
    · exact ih apart.2 fun other member => room other (List.mem_cons_of_mem _ member)
    next notice encoded =>
      rw [if_pos (room entry List.mem_cons_self (by rw [encoded]; rfl))]
      apply ih apart.2
      intro other member
      have different : other.writeTx ≠ entry.writeTx := by
        intro same
        exact apart.1 (same ▸ List.mem_map_of_mem member)
      rw [passes_congr (Mailboxes.send_other net notice different)]
      exact room other (List.mem_cons_of_mem _ member)

theorem notifyAll_waits (entries : List PluginEntry) {entry} (member : entry ∈ entries)
    (full : Kernel.passes net entry.writeTx = false)
    (encodes : (Kernel.shutdownNotice ctx supervisor defaultGraceSeconds entry.pluginId).isSome = true) :
    ∃ tx, Kernel.notifyAll ctx supervisor defaultGraceSeconds entries net = .error tx := by
  induction entries generalizing net with
  | nil => cases member
  | cons first rest ih =>
    simp only [Kernel.notifyAll]
    split
    next unencoded =>
      rcases List.mem_cons.mp member with rfl | later
      · rw [unencoded] at encodes
        cases encodes
      · exact ih later full
    next notice _ =>
      split
      next room =>
        have different : entry.writeTx ≠ first.writeTx := by
          intro same
          rw [same] at full
          exact Bool.false_ne_true (full.symm.trans room)
        rcases List.mem_cons.mp member with rfl | later
        · exact absurd rfl different
        · exact ih later ((passes_congr (Mailboxes.send_other net notice different)).trans full)
      · exact ⟨_, rfl⟩

theorem nodup_channels (registry : PluginRegistry) : (registry.list.map PluginEntry.writeTx).Nodup := by
  apply nodup_list.map_on
  intro entry member other listed same
  exact get_same_channel (mem_list.mp member) (mem_list.mp listed) same

end Notices

/-- The shutdown returns without waiting for a channel, and every supervised process gets
SIGTERM, if and only if some plugin is registered or nothing is supervised, and the
channel of every plugin that gets a notice lets it through. -/
theorem shutdown_signals_supervised {β : Type} (ctx : Context β) (supervisor : PluginSupervisor)
    (defaultGraceSeconds : UInt32) (registry : PluginRegistry) (net : Mailboxes Sender (Outbound β)) :
    (∃ after sent, Kernel.gracefulShutdown ctx supervisor defaultGraceSeconds registry net = .ok (after, sent) ∧
      ∀ id entry, supervisor.entries.get id = some entry → ⟨.term, entry.epoch, 0⟩ ∈ sent) ↔
    (registry.list = [] → supervisor.entries.values = []) ∧ ∀ entry ∈ registry.list,
      (Kernel.shutdownNotice ctx supervisor defaultGraceSeconds entry.pluginId).isSome = true →
        Kernel.passes net entry.writeTx = true := by
  rw [Kernel.gracefulShutdown]
  by_cases empty : registry.list = []
  · rw [empty, if_pos List.isEmpty_nil]
    constructor
    · rintro ⟨_, _, returns, reaches⟩
      cases returns
      refine ⟨fun _ => List.eq_nil_iff_forall_not_mem.mpr fun entry member => ?_, by simp⟩
      obtain ⟨id, held⟩ := (DashMap.mem_values _ _).mp member
      cases reaches id entry held
    · rintro ⟨none, _⟩
      refine ⟨net, [], rfl, fun id entry held => ?_⟩
      have member : entry ∈ supervisor.entries.values := (DashMap.mem_values _ _).mpr ⟨id, held⟩
      rw [none rfl] at member
      cases member
  · rw [if_neg (by simpa using empty)]
    constructor
    · rintro ⟨after, sent, returns, _⟩
      refine ⟨fun none => absurd none empty, fun entry member encodes => ?_⟩
      by_contra full
      obtain ⟨tx, waits⟩ := notifyAll_waits _ member (eq_false_of_ne_true full) encodes
      rw [waits] at returns
      cases returns
    · rintro ⟨_, room⟩
      obtain ⟨after, notified⟩ := notifyAll_passes registry.list (nodup_channels registry) room
      refine ⟨after, supervisor.gracefulShutdown defaultGraceSeconds, by rw [notified], ?_⟩
      intro id entry supervised
      exact PluginSupervisor.mem_gracefulShutdown.mpr ⟨entry, (DashMap.mem_values _ _).mpr ⟨id, supervised⟩, .inl rfl⟩

section States
open Scenario

def notesSupervised : PluginSupervisor := (exec PluginSupervisor.step unguarded {} (starts 1 {})).get (by decide +kernel)

/-- Left alone, the steps of the shutdown send what it sends when it is run at once. -/
theorem shutdown_alone {state : Signalling} (off : state.shutdown = .off) (fresh : state.timers = [])
    (defaultGraceSeconds : UInt32) :
    ∃ final since, Run Signalling.step ownDeed state final ∧ final.shutdown = .returned ∧
      final.log = state.log ++ since ∧ ∀ signal epoch, .sent signal epoch ∈ since ↔
        ∃ delay, ⟨signal, epoch, delay⟩ ∈ state.supervisor.gracefulShutdown defaultGraceSeconds := by
  have begun : state.step .gracefulShutdown = some { state with
      shutdown := if state.supervisor.entries.keys = [] then .returned
        else .terminating ⟨state.supervisor.entries.keys, []⟩ } := by
    simp [Signalling.step, Signalling.gracefulShutdown, off]
  by_cases empty : state.supervisor.entries.keys = []
  · refine ⟨_, [], .step (.refl state) rfl begun, by simp [empty], by simp, ?_⟩
    have none : state.supervisor.entries.values = [] := by
      simpa [DashMap.values, AList.keys, List.keys] using empty
    simp [PluginSupervisor.mem_gracefulShutdown, none]
  · rw [if_neg empty] at begun
    have nodup : ([] ++ state.supervisor.entries.keys).Nodup := state.supervisor.entries.keys_nodup
    have first : Run Signalling.step ownDeed state _ := .step (.refl state) rfl begun
    obtain ⟨seen, terminating⟩ := @terminating_alone { state with
      shutdown := .terminating ⟨state.supervisor.entries.keys, []⟩ } _ _ rfl nodup
    have second := (first.trans terminating).step rfl (termDone_alone rfl)
    obtain ⟨seen, timers, arming, armed⟩ := @arming_alone { state with
      shutdown := .arming ⟨state.supervisor.entries.keys, []⟩
      log := state.log ++ (epochs state.supervisor state.supervisor.entries.keys).map (.sent .term) ++ [.terminated] }
      _ _ rfl nodup
    have third := (second.trans arming).step rfl (armDone_alone rfl)
    have last := (third.trans (timers_alone timers rfl)).step rfl (return_alone rfl rfl)
    refine ⟨_, (epochs state.supervisor state.supervisor.entries.keys).map (.sent .term) ++ [.terminated] ++ [.armed] ++
      timers.map (.sent .kill), last, rfl, ?_, ?_⟩
    · simp only [List.append_assoc]
    · intro signal epoch
      exact sent_alone (by simpa [fresh] using armed) signal epoch defaultGraceSeconds

def homeSupervised : PluginSupervisor :=
  (exec PluginSupervisor.step unguarded notesSupervised [.spawnPlugin 2 "tv" { graceSeconds := 9 }, .check 2,
    .create (.call 2) true, .insertEntry (.call 2)]).get (by decide +kernel)

theorem shutdown_alone_notes :
    homeSupervised.gracefulShutdown 5 = [⟨.term, 2, 0⟩, ⟨.term, 1, 0⟩, ⟨.kill, 2, 9⟩, ⟨.kill, 1, 5⟩] ∧
    ∃ final since, Run Signalling.step ownDeed { supervisor := homeSupervised } final ∧
      final.shutdown = .returned ∧ final.log = [] ++ since ∧ ∀ signal epoch, .sent signal epoch ∈ since ↔
        ∃ delay, ⟨signal, epoch, delay⟩ ∈ homeSupervised.gracefulShutdown 5 :=
  ⟨by decide +kernel, shutdown_alone rfl rfl 5⟩

def notesKernel : Kernel Packet :=
  (exec (Kernel.step context) unguarded {} [.accept 1 .uds,
    .receive (hello 1 "notes"), .route start]).get (by decide +kernel)

theorem shutdown_signals_supervised_notes : ∃ after sent,
    Kernel.gracefulShutdown context notesSupervised 5 notesKernel.router.registry notesKernel.router.net =
      .ok (after, sent) ∧ ⟨.term, 1, 0⟩ ∈ sent := by
  obtain ⟨after, sent, returns, reaches⟩ := (shutdown_signals_supervised context notesSupervised 5
    notesKernel.router.registry notesKernel.router.net).mpr ⟨by decide +kernel, by decide +kernel⟩
  exact ⟨after, sent, returns, reaches "notes" { config := {}, restartCount := 0, epoch := 1 } (by decide +kernel)⟩

/-- The plugin reads nothing while the watchdog pings it. -/
def crowdedKernel : Kernel Packet :=
  (exec (Kernel.step context) unguarded notesKernel (List.replicate 64 (.ping "notes" start))).get (by decide +kernel)

/-- A supervised process gets no signal if no plugin is registered, or if a channel is
full. -/
theorem shutdown_misses_supervised :
    (notesSupervised.entries.get "notes").map PluginEntry.epoch = some 1 ∧ notesSupervised.processes.runs 1 = true ∧
    (∃ after, Kernel.gracefulShutdown context notesSupervised 5 {} ({} : Kernel Packet).router.net = .ok (after, [])) ∧
    Run (Kernel.step context) unguarded {} crowdedKernel ∧
    ∃ tx, Kernel.gracefulShutdown context notesSupervised 5 crowdedKernel.router.registry crowdedKernel.router.net =
      .error tx := by
  have registers : Run (Kernel.step context) unguarded {} notesKernel := exec_get_run (by decide +kernel)
  have pings : Run (Kernel.step context) unguarded notesKernel crowdedKernel := exec_get_run (by decide +kernel)
  obtain ⟨tx, waits⟩ : ∃ tx, Kernel.notifyAll context notesSupervised 5 crowdedKernel.router.registry.list
      crowdedKernel.router.net = .error tx := by
    apply notifyAll_waits _ (List.getElem_mem (by decide +kernel : 0 < crowdedKernel.router.registry.list.length))
    · decide +kernel
    · decide +kernel
  refine ⟨by decide +kernel, by decide +kernel, ⟨_, rfl⟩, registers.trans pings, tx, ?_⟩
  rw [Kernel.gracefulShutdown, if_neg (by decide +kernel), waits]

end States
end Vynkor.Proofs
