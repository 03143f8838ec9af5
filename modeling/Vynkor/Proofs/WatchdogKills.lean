import Vynkor.Proofs.PongTimes
import Vynkor.Proofs.SignalSteps
import Vynkor.Scenario

/-! Whom the watchdog kills: an instance whose own registration or pong is too old, as
long as the registrations of different instances are kept apart. -/

namespace Vynkor.Proofs
open Execution Supervisor RouterState

def lastHeard (heard : List Heard) (id : String) : Option Heard := heard.reverse.find? fun sign => sign.pluginId == id

theorem lastHeard_snoc (heard : List Heard) (sign : Heard) (id : String) :
    lastHeard (heard ++ [sign]) id = if sign.pluginId = id then some sign else lastHeard heard id := by
  simp only [lastHeard, List.reverse_append, List.reverse_singleton, List.singleton_append, List.find?_cons]
  split
  next same => simp [eq_of_beq same]
  next other => simp [beq_eq_false_iff_ne.mp other]

theorem lastHeard_recorded {pongTimes : DashMap String Nat} {sign : Heard} {id : String} {last : Nat}
    (heard : List Heard) (found : DashMap.get (pongTimes.insert sign.pluginId sign.instant) id = some last) :
    (id = sign.pluginId ∧ last = sign.instant ∧ lastHeard (heard ++ [sign]) id = some sign) ∨
      (pongTimes.get id = some last ∧ lastHeard (heard ++ [sign]) id = lastHeard heard id) := by
  rw [DashMap.get_insert] at found
  rw [lastHeard_snoc]
  by_cases same : id = sign.pluginId
  · rw [if_pos same] at found
    exact .inl ⟨same, (Option.some.inj found).symm, if_pos same.symm⟩
  · rw [if_neg same] at found
    exact .inr ⟨found, if_neg (Ne.symm same)⟩

theorem lastHeard_mem {heard id sign} (last : lastHeard heard id = some sign) :
    sign ∈ heard ∧ sign.pluginId = id := by
  rw [lastHeard] at last
  have same := List.find?_some last
  exact ⟨List.mem_reverse.mp (List.mem_of_find?_eq_some last), eq_of_beq same⟩

def Registration (heard : List Heard) (id : String) (conn : Nat) : Prop := ∃ instant, ⟨id, conn, instant, true⟩ ∈ heard

theorem Registration.grow {heard id conn} (registration : Registration heard id conn)
    (more : List Heard) : Registration (heard ++ more) id conn := by
  obtain ⟨instant, member⟩ := registration
  exact ⟨instant, List.mem_append_left more member⟩

section Guard
variable {β : Type} (opener : Nat → Option Nat) (ctx : Context β) (state : Watched β)

/-- Whatever is registered or recorded under the plugin id, or about to be recorded, comes
from a connection that the instance has opened. -/
def own (id : String) (epoch : Nat) : Bool :=
  (state.kernel.router.registry.get id).all (fun plugin => opener plugin.connId == some epoch) &&
    state.ponging.all (fun pong => pong.2 != id || opener pong.1 == some epoch) &&
    (!state.kernel.router.registry.pongTimes.containsKey id ||
      (lastHeard state.heard id).all fun sign => opener sign.conn == some epoch)

/-- An instance is entered when no earlier one has left a registration or a pong time,
while it is supervised nobody else registers as its plugin, and the watchdog comes to it
before it is replaced. -/
def keptApart : WatchAction β → Bool
  | .deed (.act (.insertEntry task)) =>
    match state.signals.supervisor.spawns.get task with
    | some { pluginId, created := some epoch, .. } => own opener state pluginId epoch
    | _ => true
  | .kernel action =>
    match state.kernel.step ctx action with
    | some kernel => (state.kernel.joined action kernel).all fun sign =>
        (state.signals.supervisor.entries.get sign.pluginId).all fun entry => opener sign.conn == some entry.epoch
    | none => true
  | .inspect _ =>
    match state.signals.watchdog with
    | (id, epoch) :: _ => (state.signals.supervisor.entries.get id).any fun entry => entry.epoch == epoch
    | [] => true
  | _ => true

end Guard

section Invariants
variable {β : Type}

structure Logged (state : Watched β) : Prop where
  pongs : ∀ id last, state.kernel.router.registry.pongTimes.get id = some last →
    ∃ sign, lastHeard state.heard id = some sign ∧ sign.instant = last
  registered : ∀ id entry, state.kernel.router.registry.get id = some entry →
    Registration state.heard id entry.connId
  ponging : ∀ conn id, state.ponging = some (conn, id) → Registration state.heard id conn
  signs : ∀ sign ∈ state.heard, Registration state.heard sign.pluginId sign.conn

structure Matched (opener : Nat → Option Nat) (state : Watched β) : Prop where
  registered : ∀ id entry plugin, state.signals.supervisor.entries.get id = some entry →
    state.kernel.router.registry.get id = some plugin → opener plugin.connId = some entry.epoch
  ponging : ∀ id entry conn, state.signals.supervisor.entries.get id = some entry →
    state.ponging = some (conn, id) → opener conn = some entry.epoch
  pongs : ∀ id entry last sign, state.signals.supervisor.entries.get id = some entry →
    state.kernel.router.registry.pongTimes.get id = some last → lastHeard state.heard id = some sign →
    opener sign.conn = some entry.epoch

variable {opener : Nat → Option Nat} {ctx : Context β} {state next : Watched β}

theorem own_parts {id epoch} (owned : own opener state id epoch = true) :
    (∀ plugin, state.kernel.router.registry.get id = some plugin → opener plugin.connId = some epoch) ∧
      (∀ conn, state.ponging = some (conn, id) → opener conn = some epoch) ∧
      ∀ last sign, state.kernel.router.registry.pongTimes.get id = some last → lastHeard state.heard id = some sign →
        opener sign.conn = some epoch := by
  simp only [own, Bool.and_eq_true] at owned
  obtain ⟨⟨registered, ponging⟩, pongs⟩ := owned
  refine ⟨?_, ?_, ?_⟩
  · intro plugin found
    simpa [found] using registered
  · intro conn busy
    simpa [busy] using ponging
  · intro last sign found heard
    simpa [DashMap.containsKey, found, heard] using pongs

theorem logged_empty : Logged ({} : Watched β) := by
  refine ⟨?_, ?_, ?_, ?_⟩
  · intro _ _ found
    cases found
  · intro _ _ found
    cases found
  · intro _ _ busy
    cases busy
  · intro _ member
    cases member

theorem matched_empty : Matched opener ({} : Watched β) := by
  refine ⟨?_, ?_, ?_⟩
  · intro _ _ _ found
    cases found
  · intro _ _ _ found
    cases found
  · intro _ _ _ _ found
    cases found

section Steps
variable {sign : Heard} {kernel : Kernel β} {ponging : Option (Nat × String)}

structure Forgets (state : Watched β) (kernel : Kernel β) : Prop where
  pongs : ∀ id last, kernel.router.registry.pongTimes.get id = some last →
    state.kernel.router.registry.pongTimes.get id = some last
  get : ∀ id entry, kernel.router.registry.get id = some entry → state.kernel.router.registry.get id = some entry

structure Hears (state : Watched β) (sign : Heard) (kernel : Kernel β) : Prop where
  pongs : kernel.router.registry.pongTimes = state.kernel.router.registry.pongTimes.insert sign.pluginId sign.instant
  get : ∀ id entry, kernel.router.registry.get id = some entry →
    state.kernel.router.registry.get id = some entry ∨ id = sign.pluginId ∧ entry.connId = sign.conn

theorem Logged.recorded (logged : Logged state) (hears : Hears state sign kernel)
    (registration : Registration (state.heard ++ [sign]) sign.pluginId sign.conn)
    (free : ∀ conn id, ponging = some (conn, id) → state.ponging = some (conn, id)) :
    Logged { state with kernel, ponging, heard := state.heard ++ [sign] } := by
  refine ⟨?_, ?_, ?_, ?_⟩
  · intro id last found
    rw [hears.pongs] at found
    rcases lastHeard_recorded state.heard found with ⟨_, same, heard⟩ | ⟨before, heard⟩
    · exact ⟨sign, heard, same.symm⟩
    · rw [heard]
      exact logged.pongs id last before
  · intro id entry found
    rcases hears.get id entry found with before | ⟨rfl, same⟩
    · exact (logged.registered id entry before).grow _
    · rw [same]
      exact registration
  · intro conn id busy
    exact (logged.ponging conn id (free conn id busy)).grow _
  · intro other listed
    rcases List.mem_append.mp listed with before | new
    · exact (logged.signs other before).grow _
    · cases List.mem_singleton.mp new
      exact registration

theorem Matched.recorded (matched : Matched opener state) (hears : Hears state sign kernel)
    (owned : ∀ entry, state.signals.supervisor.entries.get sign.pluginId = some entry →
      opener sign.conn = some entry.epoch)
    (free : ∀ conn id, ponging = some (conn, id) → state.ponging = some (conn, id)) :
    Matched opener { state with kernel, ponging, heard := state.heard ++ [sign] } := by
  refine ⟨?_, ?_, ?_⟩
  · intro id entry plugin supervised found
    rcases hears.get id plugin found with before | ⟨rfl, same⟩
    · exact matched.registered id entry plugin supervised before
    · rw [same]
      exact owned entry supervised
  · intro id entry conn supervised busy
    exact matched.ponging id entry conn supervised (free conn id busy)
  · intro id entry last other supervised found heard
    rw [hears.pongs] at found
    rcases lastHeard_recorded state.heard found with ⟨rfl, _, recorded⟩ | ⟨before, same⟩
    · cases recorded.symm.trans heard
      exact owned entry supervised
    · exact matched.pongs id entry last other supervised before (same.symm.trans heard)

theorem Logged.lose (logged : Logged state) (forgets : Forgets state kernel)
    (busy : ∀ conn id, ponging = some (conn, id) → Registration state.heard id conn) :
    Logged { state with kernel, ponging } := by
  refine ⟨?_, ?_, busy, logged.signs⟩
  · intro id last found
    exact logged.pongs id last (forgets.pongs id last found)
  · intro id entry found
    exact logged.registered id entry (forgets.get id entry found)

theorem Matched.lose (matched : Matched opener state) (forgets : Forgets state kernel)
    (busy : ∀ id entry conn, state.signals.supervisor.entries.get id = some entry → ponging = some (conn, id) →
      opener conn = some entry.epoch) : Matched opener { state with kernel, ponging } := by
  refine ⟨?_, busy, ?_⟩
  · intro id entry plugin supervised found
    exact matched.registered id entry plugin supervised (forgets.get id plugin found)
  · intro id entry last sign supervised found heard
    exact matched.pongs id entry last sign supervised (forgets.pongs id last found) heard

end Steps

section Kernel
variable {joined : Option Heard} {kernel : Kernel β}

theorem PongStep.told (step : PongStep state.kernel.router.registry joined kernel.router.registry) :
    joined = none ∧ Forgets state kernel ∨ ∃ sign, joined = some sign ∧ sign.registration = true ∧
      Hears state sign kernel := by
  generalize shared : kernel.router.registry = after at step
  cases step with
  | kept get pongs => exact .inl ⟨rfl, by simp [shared, pongs], by simp [shared, get]⟩
  | removed pluginId =>
    exact .inl ⟨rfl, fun _ _ found => unregister_pongs (shared ▸ found),
      fun _ _ found => get_of_unregister (shared ▸ found)⟩
  | joined inserted pongs =>
    refine .inr ⟨_, rfl, rfl, shared ▸ pongs, ?_⟩
    intro id entry found
    rcases inserted.found (shared ▸ found) with old | ⟨same, rfl⟩
    · exact .inl old
    · exact .inr ⟨same, rfl⟩

theorem Logged.turn (logged : Logged state)
    (step : PongStep state.kernel.router.registry joined kernel.router.registry) :
    Logged { state with kernel, heard := state.heard ++ joined.toList } := by
  rcases step.told with ⟨rfl, forgets⟩ | ⟨⟨_, _, instant, _⟩, rfl, rfl, hears⟩
  · rw [Option.toList_none, List.append_nil]
    exact logged.lose forgets logged.ponging
  · exact logged.recorded hears ⟨instant, by simp⟩ (fun _ _ => id)

theorem Matched.turn (matched : Matched opener state)
    (step : PongStep state.kernel.router.registry joined kernel.router.registry)
    (owned : ∀ sign entry, joined = some sign → state.signals.supervisor.entries.get sign.pluginId = some entry →
      opener sign.conn = some entry.epoch) :
    Matched opener { state with kernel, heard := state.heard ++ joined.toList } := by
  rcases step.told with ⟨rfl, forgets⟩ | ⟨sign, rfl, _, hears⟩
  · rw [Option.toList_none, List.append_nil]
    exact matched.lose forgets matched.ponging
  · exact matched.recorded hears (fun entry => owned sign entry rfl) (fun _ _ => id)

theorem kernelStep_some {action} (took : state.kernelStep ctx action = some next) :
    ∃ kernel, state.kernel.step ctx action = some kernel ∧
      next = { state with kernel, heard := state.heard ++ (state.kernel.joined action kernel).toList } ∧
      PongStep state.kernel.router.registry (state.kernel.joined action kernel) kernel.router.registry := by
  simp only [Watched.kernelStep] at took
  split at took
  next free =>
    split at took
    next kernel moved =>
      cases took
      refine ⟨kernel, moved, rfl, kernel_pongs moved ?_⟩
      intro moment msg rest same head
      subst same
      simp only [Watched.routerFree, head, Bool.and_eq_true, List.head?_cons, Option.all_some,
        Option.isNone_iff_eq_none] at free
      exact free.2
    · cases took
  · cases took

end Kernel

section Pong
variable {moment : Moment}

theorem lookUp_some (took : state.lookUp ctx moment = some next) :
    ∃ kernel conn plugin, state.kernel.router.registry.getByConnId conn = some plugin ∧
      kernel.router.registry = state.kernel.router.registry ∧
      next = { state with kernel, ponging := some (conn, plugin.pluginId) } := by
  simp only [Watched.lookUp] at took
  split at took
  next msg rest _ head =>
    split at took
    next pluginId pong =>
      cases took
      obtain ⟨_, _, _, plugin, _, registered, rfl⟩ := pongOf_inversion pong
      exact ⟨_, msg.connId, plugin, registered, by rfl, rfl⟩
    · cases took
  · cases took

theorem recordPong_some (took : state.recordPong moment = some next) :
    ∃ kernel conn id, state.ponging = some (conn, id) ∧
      kernel.router.registry = state.kernel.router.registry.recordPong moment id ∧
      next = { state with
        kernel
        ponging := none
        heard := state.heard ++ [⟨id, conn, moment.instant, false⟩] } := by
  simp only [Watched.recordPong] at took
  split at took
  next conn id busy =>
    cases took
    exact ⟨_, conn, id, busy, by rfl, rfl⟩
  · cases took

theorem watched_lookUp (took : state.lookUp ctx moment = some next) (logged : Logged state)
    (matched : Matched opener state) : Logged next ∧ Matched opener next := by
  obtain ⟨kernel, conn, plugin, registered, shared, rfl⟩ := lookUp_some took
  obtain ⟨found, rfl⟩ := PluginRegistry.getByConnId_eq_some.mp registered
  have forgets : Forgets state kernel := ⟨by simp [shared], by simp [shared]⟩
  refine ⟨logged.lose forgets ?_, matched.lose forgets ?_⟩
  · rintro _ _ ⟨rfl⟩
    exact logged.registered _ plugin found
  · rintro _ entry _ supervised ⟨rfl⟩
    exact matched.registered _ entry plugin supervised found

theorem watched_recordPong (took : state.recordPong moment = some next) (logged : Logged state)
    (matched : Matched opener state) : Logged next ∧ Matched opener next := by
  obtain ⟨kernel, conn, id, busy, shared, rfl⟩ := recordPong_some took
  have hears : Hears state ⟨id, conn, moment.instant, false⟩ kernel := by
    refine ⟨by rw [shared]; rfl, ?_⟩
    intro other entry found
    rw [shared] at found
    exact .inl found
  constructor
  · exact logged.recorded hears ((logged.ponging conn id busy).grow _) (by simp)
  · exact matched.recorded hears (fun entry supervised => matched.ponging id entry conn supervised busy) (by simp)

end Pong

section Deeds
variable {entry : Supervisor.PluginEntry}

theorem Moves.entered {supervisor moved action} (moves : Moves supervisor action moved) {id}
    (found : moved.entries.get id = some entry) :
    supervisor.entries.get id = some entry ∨ ∃ task spawn, action = .insertEntry task ∧
      supervisor.spawns.get task = some spawn ∧ spawn.created = some entry.epoch ∧ spawn.pluginId = id := by
  cases moves with
  | inserted job made =>
    rw [release_entries, DashMap.get_insert] at found
    split at found
    next same =>
      cases found
      exact .inr ⟨_, _, rfl, job, made, same.symm⟩
    · exact .inl found
  | stopped | forgotten => exact .inl (DashMap.get_erase_eq_some.mp found).2
  | uncreated | failed =>
    rw [release_entries] at found
    exact .inl found
  | _ => exact .inl found

theorem Signals.entered {deed before after} (signals : Signals before deed after) {id}
    (found : after.supervisor.entries.get id = some entry) :
    before.supervisor.entries.get id = some entry ∨ ∃ task spawn, deed = .act (.insertEntry task) ∧
      before.supervisor.spawns.get task = some spawn ∧ spawn.created = some entry.epoch ∧ spawn.pluginId = id := by
  cases signals with
  | act admitted moves =>
    refine (moves.entered found).imp_right ?_
    rintro ⟨task, spawn, rfl, job⟩
    exact ⟨task, spawn, rfl, job⟩
  | _ => exact .inl found

theorem Matched.deed (matched : Matched opener state) {deed after}
    (guarded : keptApart opener ctx state (.deed deed) = true) (signals : Signals state.signals deed after) :
    Matched opener { state with signals := after } := by
  -- the instance has just been entered, with everything its own, or it was there before
  have owns : ∀ id entry, after.supervisor.entries.get id = some entry →
      state.signals.supervisor.entries.get id = some entry ∨ own opener state id entry.epoch = true := by
    intro id entry found
    refine (signals.entered found).imp_right ?_
    rintro ⟨task, ⟨name, config, count, created⟩, rfl, job, made, rfl⟩
    cases made
    simpa only [keptApart, job] using guarded
  refine ⟨?_, ?_, ?_⟩
  · intro id entry plugin supervised found
    rcases owns id entry supervised with before | owned
    · exact matched.registered id entry plugin before found
    · exact (own_parts owned).1 plugin found
  · intro id entry conn supervised busy
    rcases owns id entry supervised with before | owned
    · exact matched.ponging id entry conn before busy
    · exact (own_parts owned).2.1 conn busy
  · intro id entry last sign supervised found heard
    rcases owns id entry supervised with before | owned
    · exact matched.pongs id entry last sign before found heard
    · exact (own_parts owned).2.2 last sign found heard

theorem deedStep_some {deed} (took : state.deedStep deed = some next) :
    ∃ signals, Signals state.signals deed signals ∧ next = { state with signals } := by
  simp only [Watched.deedStep] at took
  split at took
  · cases took
  · obtain ⟨signals, moved, rfl⟩ := Option.map_eq_some_iff.mp took
    exact ⟨signals, step_signals moved, rfl⟩

theorem inspect_some {deadline now} (took : state.inspect deadline now = some next) :
    ∃ id epoch rest signals, state.signals.watchdog = (id, epoch) :: rest ∧
      Signals state.signals (.inspect (state.silent deadline id now)) signals ∧ next = { state with signals } := by
  simp only [Watched.inspect] at took
  split at took
  next id epoch rest listed =>
    obtain ⟨signals, moved, rfl⟩ := Option.map_eq_some_iff.mp took
    exact ⟨id, epoch, rest, signals, listed, step_signals moved, rfl⟩
  · cases took

theorem inspect_killed {before after silent id epoch target rest} (signals : Signals before (.inspect silent) after)
    (listed : before.watchdog = (id, target) :: rest) (sent : after.log = before.log ++ [.sent .kill epoch]) :
    silent = true ∧ target = epoch := by
  cases signals with
  | killed first =>
    cases first.symm.trans listed
    cases List.append_cancel_left sent
    exact ⟨rfl, rfl⟩
  | spared => simp at sent

end Deeds

theorem Logged.signals (logged : Logged state) (signals : Signalling) : Logged { state with signals } :=
  ⟨logged.pongs, logged.registered, logged.ponging, logged.signs⟩

theorem watched_step {deadline action} (guarded : keptApart opener ctx state action = true)
    (took : state.step ctx deadline action = some next) (logged : Logged state) (matched : Matched opener state) :
    Logged next ∧ Matched opener next := by
  cases action with
  | kernel action =>
    obtain ⟨kernel, moved, rfl, step⟩ := kernelStep_some took
    refine ⟨logged.turn step, matched.turn step ?_⟩
    intro sign entry joined supervised
    simpa [keptApart, moved, joined, supervised] using guarded
  | lookUp moment => exact watched_lookUp took logged matched
  | recordPong moment => exact watched_recordPong took logged matched
  | deed deed =>
    obtain ⟨signals, done, rfl⟩ := deedStep_some took
    exact ⟨logged.signals signals, matched.deed guarded done⟩
  | inspect now =>
    obtain ⟨id, epoch, rest, signals, listed, done, rfl⟩ := inspect_some took
    have guarded : keptApart opener ctx state (.deed (.inspect (state.silent deadline id now))) = true := rfl
    exact ⟨logged.signals signals, matched.deed guarded done⟩

end Invariants

/-- The watchdog sends SIGKILL only to an instance that has registered on a connection of
its own, and whose registration or last pong is older than interval and timeout. -/
theorem watchdog_kills_silent {β : Type} (opener : Nat → Option Nat) (ctx : Context β) (interval timeout : Nat)
    {state next : Watched β}
    (run : Run (Watched.step ctx (interval + timeout)) (keptApart opener ctx) {} state) {now epoch : Nat}
    (allowed : keptApart opener ctx state (.inspect now) = true)
    (took : state.step ctx (interval + timeout) (.inspect now) = some next)
    (sent : next.signals.log = state.signals.log ++ [.sent .kill epoch]) :
    ∃ id sign, (state.signals.supervisor.entries.get id).map Supervisor.PluginEntry.epoch = some epoch ∧
      lastHeard state.heard id = some sign ∧ opener sign.conn = some epoch ∧ Registration state.heard id sign.conn ∧
      interval + timeout < now - sign.instant := by
  have invariants : Logged state ∧ Matched opener state := by
    apply run.preserves ⟨logged_empty, matched_empty⟩
    intro before action after guarded moved holds
    exact watched_step guarded moved holds.1 holds.2
  obtain ⟨logged, matched⟩ := invariants
  obtain ⟨id, target, rest, signals, listed, done, rfl⟩ := inspect_some took
  obtain ⟨silent, rfl⟩ := inspect_killed done listed sent
  rw [keptApart, listed] at allowed
  obtain ⟨entry, supervised, current⟩ := (Option.any_eq_true _ _).mp allowed
  obtain ⟨last, found, old⟩ := (Option.any_eq_true _ _).mp silent
  obtain ⟨sign, heard, rfl⟩ := logged.pongs id last found
  obtain ⟨member, rfl⟩ := lastHeard_mem heard
  rw [← eq_of_beq current]
  refine ⟨sign.pluginId, sign, ?_, heard, ?_, logged.signs sign member, of_decide_eq_true old⟩
  · rw [supervised]
    rfl
  · exact matched.pongs _ entry _ sign supervised found heard

section Instances
open Scenario

def firstOpens (conn : Nat) : Option Nat := if conn = 1 then some 1 else none

def acts (actions : List Supervisor.Action) : List (WatchAction Packet) := actions.map fun action => .deed (.act action)

def ponged : List (WatchAction Packet) :=
  acts (starts 1 persistent) ++ [.kernel (.accept 1 .uds),
    .kernel (.receive (hello 1 "notes")), .kernel (.route start),
    .kernel (.receive (sends 1 "kernel" (.pong 0 0))), .lookUp start]

def hungState : Watched Packet :=
  (exec (Watched.step context 30) (keptApart firstOpens context) {}
    (ponged ++ [.recordPong { instant := 5 }, .deed .tick])).get (by decide +kernel)

def hungNext : Watched Packet := (hungState.step context 30 (.inspect 100)).get (by decide +kernel)

theorem watchdog_kills_silent_hung :
    hungState.step context 30 (.inspect 100) = some hungNext ∧
    hungNext.signals.log = hungState.signals.log ++ [.sent .kill 1] ∧
    ∃ id sign, (hungState.signals.supervisor.entries.get id).map Supervisor.PluginEntry.epoch = some 1 ∧
      lastHeard hungState.heard id = some sign ∧ firstOpens sign.conn = some 1 ∧
      Registration hungState.heard id sign.conn ∧ 10 + 20 < 100 - sign.instant := by
  have run : Run (Watched.step context (10 + 20)) (keptApart firstOpens context) {} hungState :=
    exec_get_run (by decide +kernel)
  have took : hungState.step context 30 (.inspect 100) = some hungNext := (Option.some_get _).symm
  have sent : hungNext.signals.log = hungState.signals.log ++ [.sent .kill 1] := by decide +kernel
  exact ⟨took, sent, watchdog_kills_silent firstOpens context 10 20 run (by decide +kernel) took sent⟩

def exitsAndRestarts : List (WatchAction Packet) :=
  (ends 1).map .deed ++ acts decides ++ acts [.wake, .create .monitor true, .insertEntry .monitor]

def staleEntry : Watched Packet :=
  (exec (Watched.step context 30) unguarded {}
    (ponged ++ [.recordPong { instant := 5 }, .kernel (.hangup 1)] ++ exitsAndRestarts ++
      [.deed .tick])).get (by decide +kernel)

def staleEntryNext : Watched Packet := (staleEntry.step context 30 (.inspect 100)).get (by decide +kernel)

/-- The disconnect is handled between the lookup of a pong and its record. -/
def stalePong : Watched Packet :=
  (exec (Watched.step context 30) unguarded {}
    (ponged ++ [.kernel (.hangup 1), .kernel (.take .uds), .kernel (.publishLeft .uds start),
      .kernel (.unsubscribe .uds), .kernel (.unregister .uds), .recordPong { instant := 5 }] ++ exitsAndRestarts ++
      [.deed .tick])).get (by decide +kernel)

def stalePongNext : Watched Packet := (stalePong.step context 30 (.inspect 100)).get (by decide +kernel)

/-- The second instance is killed for what the first has left: its registration, or a pong
time without one. Only the first instance was ever heard of. -/
theorem restarted_instance_killed :
    (Run (Watched.step context 30) unguarded {} staleEntry ∧
      staleEntry.step context 30 (.inspect 100) = some staleEntryNext ∧
      staleEntryNext.signals.log = staleEntry.signals.log ++ [.sent .kill 2] ∧
      staleEntry.heard = [⟨"notes", 1, 0, true⟩, ⟨"notes", 1, 5, false⟩]) ∧
    (Run (Watched.step context 30) unguarded {} stalePong ∧
      stalePong.step context 30 (.inspect 100) = some stalePongNext ∧
      stalePongNext.signals.log = stalePong.signals.log ++ [.sent .kill 2] ∧
      (stalePong.kernel.router.registry.get "notes").isNone = true ∧
      stalePong.heard = [⟨"notes", 1, 0, true⟩, ⟨"notes", 1, 5, false⟩]) := by
  refine ⟨⟨exec_get_run (by decide +kernel), (Option.some_get _).symm, ?_⟩,
    exec_get_run (by decide +kernel), (Option.some_get _).symm, ?_⟩
  · decide +kernel
  · decide +kernel

end Instances
end Vynkor.Proofs
