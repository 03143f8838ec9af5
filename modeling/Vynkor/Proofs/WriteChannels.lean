import Vynkor.BridgeTasks
import Vynkor.Proofs.TaskSteps

/-! What a step does to the write channels, and the one place where the router
waits for room in one: between the acknowledgement of a registration and its
session key. -/

namespace Vynkor.Proofs
open Execution Mailboxes RouterState
variable {β : Type} {ctx : Context β} {framing : Framing β} {limits : ConnectionLimits} {action : TaskAction β}
  {tx : Sender}

section Nets
variable {state next : Tasks β}

/-- Sends of frames that the kernel builds, and of a message without its MAC that the
router takes. -/
abbrev Posted (ctx : Context β) (kernel : Kernel β) (tx : Sender) (item : Outbound β) : Prop :=
  Built ctx tx item ∨ ∃ msg ∈ kernel.incoming, item = relayed msg

theorem Posted.isFrame {kernel item} (posted : Posted ctx kernel tx item) :
    ∃ frame, item = .frame frame := by
  rcases posted with ⟨_, _, built⟩ | ⟨_, _, passed⟩
  · exact ⟨_, built⟩
  · exact ⟨_, passed⟩

/-- The write channels after a step. Only the task of a connection takes from its
channel; the bridge has channels of its own. -/
inductive NetStep (ctx : Context β) (framing : Framing β) (state : Tasks β) (action : TaskAction β) (next : Tasks β) :
    Prop where
  | adds (adds : Mailboxes.Adds (Posted ctx state.kernel) state.net next.net)
  | keyed {joining key} (before : state.task = .acknowledged joining)
      (secured : joining.sessionKey ctx = some key) (keyed : next.keyed = state.keyed ++ [joining])
      (net : next.net = state.net.send joining.msg.writeTx (.enableMac key))
  | written {conn delivered} (mine : action = .write conn delivered) (written : Writes framing conn state next)
  | ended {conn} (mine : action = .hangup conn) (net : next.net = state.net.close { conn })
  | bridged {tx : Sender} (own : tx.conn = bridgeConnId)
      (net : next.net = state.net.drain tx ∨ next.net = state.net.close tx) (mine : action.isBridge = true)

theorem elsewhere_net {kernel after : Kernel β} {action : Action β} (elsewhere : action.isElsewhere = true)
    (took : kernel.step ctx action = some after) :
    Mailboxes.Adds (Built ctx) kernel.router.net after.router.net ∨ ∃ tx : Sender, tx.conn = bridgeConnId ∧
      (after.router.net = kernel.router.net.drain tx ∨ after.router.net = kernel.router.net.close tx) ∧
        (TaskAction.other action).isBridge = true := by
  cases kernel_step took with
  | accept | hangup | route | prune => cases elsewhere
  | @publishLeft _ moment | @publishDied _ moment => exact .inl (publish_frames ctx moment kernel.router _).sends
  | ping told =>
    have frames : Talk (Built ctx) kernel.router _ := told fun _ _ carries => carries.built
    exact .inl frames.sends
  | @drain tx => exact .inr ⟨tx, beq_iff_eq.mp elsewhere, .inl rfl, rfl⟩
  | @close tx => exact .inr ⟨tx, beq_iff_eq.mp elsewhere, .inr rfl, rfl⟩
  | @bridgeDown _ serial => exact .inr ⟨hostTx serial, rfl, .inr rfl, rfl⟩
  | _ => exact .inl (.refl _)

theorem NetStep.builds (adds : Mailboxes.Adds (Built ctx) state.net next.net) :
    NetStep ctx framing state action next :=
  .adds (adds.mono fun _ _ => .inl)

theorem step_net (took : state.step ctx framing limits action = some next) : NetStep ctx framing state action next := by
  cases action with
  | accept =>
    obtain ⟨kernel, accepted, rfl⟩ := Option.map_eq_some_iff.mp took
    obtain ⟨_, _, rfl⟩ := accept_some accepted
    exact .adds (.refl _)
  | read =>
    obtain ⟨_, _⟩ := read_some took
    exact .adds (.refl _)
  | leave =>
    obtain ⟨_, _⟩ := leave_some took
    exact .adds (.refl _)
  | enqueue =>
    obtain ⟨_, kernel, _, received, rfl⟩ := enqueue_some took
    obtain ⟨_, rfl⟩ := receive_some received
    exact .adds (.refl _)
  | refuse =>
    obtain ⟨net, adds, _, rfl⟩ := refuse_some took
    exact .builds adds
  | hangup conn =>
    obtain ⟨kernel, ended, leaves⟩ := hangup_cases took
    obtain ⟨_, _, _, rfl⟩ := hangup_some ended
    rcases leaves with rfl | rfl
    · exact .adds (.refl _)
    · exact .ended rfl rfl
  | write => exact .written rfl (write_some took)
  | take =>
    have taken := tasks_take_some took
    cases taken with
    | @accepted msg rest joining router idle waiting accepted =>
      apply NetStep.adds
      show Mailboxes.Adds (Posted ctx state.kernel) state.net router.net
      rw [acceptRegister_net accepted]
      exact .refl _
    | @routed msg rest idle waiting refused =>
      apply NetStep.adds
      apply (routeMessage_frames refused).mono
      intro tx item sent
      rcases sent with built | passed
      · exact .inl built
      · exact .inr ⟨msg, by simp [waiting], passed⟩
  | acknowledge =>
    obtain ⟨joining, before, rfl⟩ := acknowledge_some took
    exact .builds (acknowledgeStep_frames ctx joining state.kernel.router)
  | arm =>
    obtain ⟨joining, before, _, rfl⟩ := arm_some took
    have net := armStep_net ctx joining state.kernel.router
    cases secured : joining.sessionKey ctx with
    | none =>
      rw [secured] at net
      apply NetStep.adds
      show Mailboxes.Adds (Posted ctx state.kernel) state.net (state.kernel.router.armStep ctx joining).net
      rw [net]
      exact .refl _
    | some key =>
      rw [secured] at net
      exact .keyed before secured rfl net
  | join =>
    obtain ⟨joining, before, rfl⟩ := join_some took
    exact .builds (joinStep_frames ctx joining state.kernel.router)
  | prune moment =>
    obtain ⟨_, rfl⟩ := prune_some took
    exact .builds (pruneTick_frames ctx moment state.kernel.router)
  | redeliver event moment =>
    cases took
    have talk : Talk (Built ctx) state.kernel.router (state.kernel.router.deliver ctx moment event) :=
      deliver_talk fun _ _ carries => carries.built
    exact .builds talk.sends
  | notifyShutdown =>
    obtain ⟨net, adds, rfl⟩ := notifyShutdown_some took
    exact .builds adds
  | other action =>
    obtain ⟨kernel, elsewhere, moved, rfl⟩ := other_some took
    rcases elsewhere_net elsewhere moved with adds | ⟨tx, own, net, mine⟩
    · exact .builds adds
    · exact .bridged own net mine

theorem Writes.closed_stays {conn : Nat} (written : Writes framing conn state next)
    (closed : (state.net tx).closed = true) :
    (next.net tx).closed = true := by
  cases written with
  | installed | written | skipped | lost => exact (drain_closed state.net { conn } tx).trans closed
  | closed => exact close_closed state.net { conn } closed

theorem NetStep.closed_stays (step : NetStep ctx framing state action next) (closed : (state.net tx).closed = true) :
    (next.net tx).closed = true := by
  cases step with
  | adds adds =>
    obtain ⟨_, _, same, _⟩ := adds tx
    exact same.trans closed
  | @keyed joining key _ _ _ net =>
    rw [net]
    have adds : Mailboxes.Adds Anything state.net (state.net.send joining.msg.writeTx (.enableMac key)) :=
      send_adds state.net _ _ trivial
    obtain ⟨_, _, same, _⟩ := adds tx
    exact same.trans closed
  | written _ written => exact written.closed_stays closed
  | ended _ net =>
    rw [net]
    exact close_closed state.net _ closed
  | bridged _ net =>
    rcases net with net | net
    · rw [net, drain_closed]
      exact closed
    · rw [net]
      exact close_closed state.net _ closed

inductive Fed (ctx : Context β) (conn : Nat) (state : Tasks β) (action : TaskAction β) (next : Tasks β) : Prop where
  | frames {items} (queue : (next.net { conn }).queue = (state.net { conn }).queue ++ items)
      (closed : (next.net { conn }).closed = (state.net { conn }).closed)
      (frames : ∀ item ∈ items, ∃ frame, item = .frame frame)
  | keyed {joining key} (before : state.task = .acknowledged joining)
      (secured : joining.sessionKey ctx = some key) (keyed : next.keyed = state.keyed ++ [joining])
      (net : next.net = state.net.send joining.msg.writeTx (.enableMac key))
  | hungUp (mine : action = .hangup conn) (closed : (next.net { conn }).closed = true)

theorem Fed.untouched {conn : Nat} (same : next.net { conn } = state.net { conn }) : Fed ctx conn state action next := by
  have queue : (next.net { conn }).queue = (state.net { conn }).queue ++ [] := by rw [same, List.append_nil]
  exact .frames queue (by rw [same]) (by simp)

theorem NetStep.fed {conn : Nat} (step : NetStep ctx framing state action next) (apart : conn ≠ bridgeConnId)
    (other : ∀ delivered, action ≠ .write conn delivered) : Fed ctx conn state action next := by
  cases step with
  | adds adds =>
    obtain ⟨items, queue, closed, frames⟩ := adds { conn }
    exact .frames queue closed fun item member => (frames item member).isFrame
  | keyed before secured keyed net => exact .keyed before secured keyed net
  | @written away delivered mine written =>
    have unlike : ({ conn } : Sender) ≠ { conn := away } := by
      intro same
      cases same
      exact other delivered mine
    apply Fed.untouched
    cases written with
    | installed | written | skipped | lost | closed => exact put_other state.net _ unlike
  | @ended away mine net =>
    by_cases same : away = conn
    · subst same
      exact .hungUp mine (by simp [net, Mailboxes.close])
    · apply Fed.untouched
      rw [net]
      exact put_other _ _ (by simpa using Ne.symm same)
  | @bridged tx own net =>
    have unlike : ({ conn } : Sender) ≠ tx := by
      intro same
      subst same
      exact apart own
    apply Fed.untouched
    rcases net with net | net
    · rw [net]
      exact put_other _ _ unlike
    · rw [net]
      exact put_other _ _ unlike

end Nets

section Waiting
variable {start state next : Tasks β} {slots : Nat}

def free (state : Tasks β) (tx : Sender) (slots : Nat) : Bool :=
  (state.net tx).closed || decide ((state.net tx).queue.length + slots ≤ writeCapacity)

/-- The step puts nothing on the channel, or leaves it free enough. -/
def spares (state next : Tasks β) (tx : Sender) (slots : Nat) : Bool :=
  (Mailboxes.added state.net next.net tx).isEmpty || free next tx slots

/-- A registration starts only if its write channel has room for the two items it
puts there, and no other task uses up that room on the way. -/
def leavesRoom (ctx : Context β) (framing : Framing β) (limits : ConnectionLimits) (state : Tasks β)
    (action : TaskAction β) : Bool :=
  match ctx.macSecret, state.step ctx framing limits action with
  | some _, some next =>
    match state.task, next.task with
    | .idle, .registered joining => free state joining.msg.writeTx 2
    | .registered joining, .registered _ => spares state next joining.msg.writeTx 2
    | .acknowledged joining, .acknowledged _ => spares state next joining.msg.writeTx 1
    | _, _ => true
  | _, _ => true

/-- The registration under way has the room it still needs. -/
structure RoomKept (state : Tasks β) : Prop where
  registered : ∀ joining, state.task = .registered joining → free state joining.msg.writeTx 2 = true
  acknowledged : ∀ joining, state.task = .acknowledged joining → free state joining.msg.writeTx 1 = true

theorem free_iff : free state tx slots = true ↔
    (state.net tx).closed = true ∨ (state.net tx).queue.length + slots ≤ writeCapacity := by
  simp [free]

theorem spares_free (step : NetStep ctx framing state action next) (kept : free state tx slots = true)
    (spared : spares state next tx slots = true) : free next tx slots = true := by
  simp only [spares, Bool.or_eq_true, List.isEmpty_iff] at spared
  rcases spared with nothing | room
  · have shorter : (next.net tx).queue.length ≤ (state.net tx).queue.length := List.drop_eq_nil_iff.mp nothing
    rcases free_iff.mp kept with closed | fits
    · exact free_iff.mpr (.inl (step.closed_stays closed))
    · exact free_iff.mpr (.inr (by omega))
  · exact room

theorem acknowledgeStep_length (ctx : Context β) (joining : Registering β) (st : RouterState β) (tx : Sender) :
    ((st.acknowledgeStep ctx joining).net tx).queue.length ≤ (st.net tx).queue.length + 1 := by
  simp only [acknowledgeStep, acknowledgeRegister, sendEnvelope, trySendEnvelope, buildOutbound]
  cases ctx.wire.encode _ with
  | none => exact Nat.le_succ _
  | some bytes => exact trySend_length_le writeCapacity st.net _ tx _

theorem roomKept_step {secret : Bytes} (secured : ctx.macSecret = some secret)
    (allowed : leavesRoom ctx framing limits state action = true)
    (took : state.step ctx framing limits action = some next) (kept : RoomKept state) : RoomKept next := by
  have step : NetStep ctx framing state action next := step_net took
  simp only [leavesRoom, secured, took] at allowed
  cases step_router took with
  | stays task _ =>
    refine ⟨?_, ?_⟩
    · intro joining now
      have before : state.task = .registered joining := task.symm.trans now
      simp only [before, now] at allowed
      exact spares_free step (kept.registered joining before) allowed
    · intro joining now
      have before : state.task = .acknowledged joining := task.symm.trans now
      simp only [before, now] at allowed
      exact spares_free step (kept.acknowledged joining before) allowed
  | @accepts joining before task _ net =>
    simp only [before, task] at allowed
    refine ⟨?_, ?_⟩
    · intro other now
      rw [task] at now
      cases now
      simpa only [free, net] using allowed
    · intro other now
      rw [task] at now
      cases now
  | @acknowledges joining _ before task _ router =>
    refine ⟨?_, ?_⟩
    · intro other now
      rw [task] at now
      cases now
    · intro other now
      rw [task] at now
      cases now
      apply free_iff.mpr
      rcases free_iff.mp (kept.registered joining before) with closed | fits
      · exact .inl (step.closed_stays closed)
      · have longer := acknowledgeStep_length ctx joining state.kernel.router joining.msg.writeTx
        rw [← router] at longer
        simp only [Tasks.net] at fits ⊢
        exact .inr (by omega)
  | arms _ _ task =>
    refine ⟨?_, ?_⟩ <;> intro other now <;> rw [task] at now <;> cases now
  | joins _ task =>
    refine ⟨?_, ?_⟩ <;> intro other now <;> rw [task] at now <;> cases now

def isHolding : ReadTask β → Bool
  | .holding _ => true
  | _ => false

/-- The router waits for room in the channel of a connection whose gateway task
waits for room in the router queue. -/
structure Deadlocked (ctx : Context β) (state : Tasks β) (conn : Nat) : Prop where
  waits : state.waitsOn ctx { conn } = true
  gateway : state.opened conn = some .ws
  holding : isHolding (state.links conn).task = true
  full : ctx.routerChannelCapacity ≤ state.kernel.incoming.length

theorem roomKept_ready (kept : RoomKept state) (tx : Sender) : state.waitsOn ctx tx = false := by
  simp only [Tasks.waitsOn]
  split
  next joining task =>
    by_cases own : joining.msg.writeTx = tx
    · subst own
      have room := free_iff.mp (kept.acknowledged joining task)
      have passes : state.passes joining.msg.writeTx = true := by
        simp only [Tasks.passes, RouterState.hasRoom, Mailboxes.hasRoom, Bool.or_eq_true, Bool.and_eq_true]
        rcases room with closed | fits
        · exact .inl closed
        · cases closed : (state.net joining.msg.writeTx).closed with
          | true => exact .inl rfl
          | false =>
            simp only [Tasks.net] at closed fits
            refine .inr ⟨by simp [closed], ?_⟩
            apply decide_eq_true
            omega
      simp [passes]
    · simp [own]
  · rfl

/-- As long as registrations find and keep room for their acknowledgement and their
key, the router waits for no write channel, and is in no deadlock. -/
theorem router_never_waits (ctx : Context β) (framing : Framing β) (limits : ConnectionLimits) (start state : Tasks β)
    (idle : start.task = .idle) (run : Run (Tasks.step ctx framing limits) (leavesRoom ctx framing limits) start state) :
    (∀ tx, state.waitsOn ctx tx = false) ∧ ∀ conn, ¬Deadlocked ctx state conn := by
  have never : ∀ tx, state.waitsOn ctx tx = false := by
    cases secured : ctx.macSecret with
    | none =>
      intro tx
      simp only [Tasks.waitsOn, secured]
      split <;> rfl
    | some secret =>
      have initial : RoomKept start := by
        refine ⟨?_, ?_⟩ <;> intro joining task <;> rw [idle] at task <;> cases task
      have kept : RoomKept state := run.preserves initial fun _ _ _ allowed took => roomKept_step secured allowed took
      exact roomKept_ready kept
  refine ⟨never, ?_⟩
  intro conn deadlocked
  have waits := deadlocked.waits
  rw [never] at waits
  cases waits

end Waiting

section Forever
variable {state next final : Tasks β} {conn : Nat}

def Full (net : Mailboxes Sender (Outbound β)) (tx : Sender) : Prop :=
  (net tx).closed = false ∧ writeCapacity ≤ (net tx).queue.length

theorem waitsOn_iff {tx : Sender} : state.waitsOn ctx tx = true ↔ ∃ joining,
    state.task = .acknowledged joining ∧ ctx.macSecret.isSome = true ∧ joining.msg.writeTx = tx ∧
      Full state.net tx := by
  simp only [Tasks.waitsOn, Full]
  split
  next joining task =>
    simp only [task, RouterTask.acknowledged.injEq, Tasks.passes, RouterState.hasRoom, Mailboxes.hasRoom, Tasks.net]
    cases (state.kernel.router.net tx).closed <;> simp [and_assoc]
  next other =>
    simp only [Bool.false_eq_true, false_iff, not_exists, not_and]
    intro joining task
    exact absurd task (other joining)

theorem Deadlocked.carry (deadlocked : Deadlocked ctx state conn) (task : next.task = state.task)
    (link : next.links conn = state.links conn)
    (connection : next.kernel.connections.get conn = state.kernel.connections.get conn)
    (channel : Full state.net { conn } → Full next.net { conn })
    (incoming : state.kernel.incoming.length ≤ next.kernel.incoming.length) : Deadlocked ctx next conn where
  waits := by
    obtain ⟨joining, before, secured, own, full⟩ := waitsOn_iff.mp deadlocked.waits
    exact waitsOn_iff.mpr ⟨joining, task.trans before, secured, own, channel full⟩
  gateway := by
    have gateway := deadlocked.gateway
    simp only [Tasks.opened] at gateway ⊢
    rw [connection]
    exact gateway
  holding := by
    rw [link]
    exact deadlocked.holding
  full := Nat.le_trans deadlocked.full incoming

theorem opened_ws (gateway : state.opened conn = some .ws) :
    ∃ ended, state.kernel.connections.get conn = some { transport := .ws, ended } := by
  simp only [Tasks.opened] at gateway
  split at gateway
  next connection found =>
    split at gateway
    · cases gateway
    · obtain ⟨transport, ended⟩ := connection
      cases gateway
      exact ⟨ended, found⟩
  · cases gateway

theorem Deadlocked.held (deadlocked : Deadlocked ctx state conn) : ∃ msg, (state.links conn).task = .holding msg := by
  have holding := deadlocked.holding
  cases task : (state.links conn).task with
  | holding msg => exact ⟨msg, rfl⟩
  | reading | refusing | closing => simp [isHolding, task] at holding

/-- The step takes nothing from the router queue and is none of this connection. -/
structure Spared (conn : Nat) (state : Tasks β) (action : TaskAction β) (next : Tasks β) : Prop where
  link : next.links conn = state.links conn
  connection : next.kernel.connections.get conn = state.kernel.connections.get conn
  incoming : state.kernel.incoming.length ≤ next.kernel.incoming.length
  notWrite : ∀ delivered, action ≠ .write conn delivered
  notHangup : action ≠ .hangup conn

section
variable (deadlocked : Deadlocked ctx state conn) (took : state.step ctx framing limits action = some next)
include deadlocked took

theorem deadlocked_untouched : touches action ≠ some conn := by
  obtain ⟨msg, holding⟩ := deadlocked.held
  intro mine
  cases action with
  | read =>
    cases mine
    obtain ⟨reading, _⟩ := read_some took
    rw [holding] at reading
    cases reading
  | leave =>
    cases mine
    obtain ⟨reading, _⟩ := leave_some took
    rw [holding] at reading
    cases reading
  | enqueue =>
    obtain ⟨_, kernel, _, received, _⟩ := enqueue_some took
    have full := deadlocked.full
    simp only [Kernel.receive] at received
    split at received
    next room => omega
    · cases received
  | refuse =>
    cases mine
    obtain ⟨_, _, ⟨_, refusing⟩, _⟩ := refuse_some took
    rw [holding] at refusing
    cases refusing
  | write =>
    cases mine
    obtain ⟨ended, gateway⟩ := opened_ws deadlocked.gateway
    simp [Tasks.step, Tasks.write, Tasks.writes, gateway, holding] at took
  | _ => cases mine

/-- In a deadlock the other tasks go on, but only they. -/
theorem deadlocked_spared : Spared conn state action next := by
  have untouched : touches action ≠ some conn := deadlocked_untouched deadlocked took
  have frame : StepFrame state action next := step_frame took
  have notHangup : action ≠ .hangup conn := by
    intro mine
    subst mine
    obtain ⟨msg, holding⟩ := deadlocked.held
    simp [Tasks.step, Tasks.hangup, deadlocked.gateway, holding] at took
  have notTake : ∀ moment, action ≠ .take moment := by
    intro moment mine
    subst mine
    obtain ⟨joining, busy, _⟩ := waitsOn_iff.mp deadlocked.waits
    have taken := tasks_take_some took
    cases taken with
    | accepted idle | routed idle =>
      rw [busy] at idle
      cases idle
  obtain ⟨ended, known⟩ := opened_ws deadlocked.gateway
  refine ⟨frame.links conn untouched, frame.connections.undisturbed known notHangup,
    frame.incoming.length_le notTake, ?_, notHangup⟩
  intro delivered mine
  subst mine
  exact untouched rfl

end

theorem deadlocked_step (apart : conn ≠ bridgeConnId) (deadlocked : Deadlocked ctx state conn)
    (took : state.step ctx framing limits action = some next) : Deadlocked ctx next conn := by
  have spared : Spared conn state action next := deadlocked_spared deadlocked took
  obtain ⟨joining, task, _, own, full⟩ := waitsOn_iff.mp deadlocked.waits
  cases step_router took with
  | stays same keyed =>
    refine deadlocked.carry same spared.link spared.connection ?_ spared.incoming
    intro full
    cases (step_net took).fed apart spared.notWrite with
    | frames queue closed _ =>
      refine ⟨closed.trans full.1, ?_⟩
      have long := full.2
      rw [queue, List.length_append]
      omega
    | keyed _ _ more => simp [keyed] at more
    | hungUp mine => exact absurd mine spared.notHangup
  | arms before ready =>
    rw [task] at before
    cases before
    rw [own, deadlocked.waits] at ready
    cases ready
  | accepts before | acknowledges _ before | joins before =>
    rw [task] at before
    cases before

theorem deadlocked_forever (apart : conn ≠ bridgeConnId) (deadlocked : Deadlocked ctx state conn)
    (run : Run (Tasks.step ctx framing limits) unguarded state final) : Deadlocked ctx final conn :=
  run.preserves deadlocked fun _ _ _ _ took kept => deadlocked_step apart kept took

end Forever

section Jam
open Scenario

def vault : Context Packet := { wire := Packet.wire, macSecret := some [7], routerChannelCapacity := 1 }

abbrev vaultStep : Tasks Packet → TaskAction Packet → Option (Tasks Packet) := Tasks.step vault Packet.framing {}

def nameless : IncomingMessage Packet := hello 1 ""

def signOn : IncomingMessage Packet := hello 1 "notes"

def handsOver (msg : IncomingMessage Packet) : List (TaskAction Packet) :=
  [.read msg.connId 0 msg.frame, .enqueue msg.connId, .take start]

def signsOn : List (TaskAction Packet) := .accept 1 .ws :: handsOver signOn ++ [.acknowledge, .arm, .join]

def signedOnEnd : Tasks Packet :=
  (exec vaultStep (leavesRoom vault Packet.framing {}) {} signsOn).get (by decide +kernel)

theorem router_never_waits_notes : (signedOnEnd.net { conn := 1 }).queue.length = 2 ∧
    (∀ tx, signedOnEnd.waitsOn vault tx = false) ∧ ∀ conn, ¬Deadlocked vault signedOnEnd conn :=
  ⟨by decide +kernel,
    router_never_waits vault Packet.framing {} {} signedOnEnd rfl (exec_get_run (by decide +kernel))⟩

/-- Registrations that are refused fill the channel of connection 1, from which
nothing is written; they do not count as errors. -/
def flood : List (TaskAction Packet) := .accept 1 .ws :: (List.replicate 64 (handsOver nameless)).flatten

/-- With the channel full, connection 1 registers and goes on sending. -/
def jam : List (TaskAction Packet) :=
  flood ++ handsOver signOn ++
    [.read 1 0 nameless.frame, .enqueue 1, .read 1 0 nameless.frame, .acknowledge]

def jammedEnd : Tasks Packet := (exec vaultStep unguarded {} jam).get (by decide +kernel)

theorem full_channel_deadlocks : Run vaultStep unguarded {} jammedEnd ∧ Deadlocked vault jammedEnd 1 ∧
    ∀ final, Run vaultStep unguarded jammedEnd final → Deadlocked vault final 1 := by
  have deadlocked : Deadlocked vault jammedEnd 1 :=
    ⟨by decide +kernel, by decide +kernel, by decide +kernel, by decide +kernel⟩
  refine ⟨exec_get_run (by decide +kernel), deadlocked, ?_⟩
  intro final run
  exact deadlocked_forever (by decide) deadlocked run

end Jam
end Vynkor.Proofs
