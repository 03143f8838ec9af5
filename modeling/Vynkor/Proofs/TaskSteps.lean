import Vynkor.Proofs.KernelSteps
import Vynkor.Scenario
import Vynkor.Tasks

/-! One step of one task, seen from the router task and from one write channel.
Where nothing comes between the steps of a registration, the tasks run as the
kernel of `Kernel.step` does. -/

namespace Vynkor.Proofs
open DashMap Execution RouterState
variable {β : Type} {ctx : Context β} {framing : Framing β} {limits : ConnectionLimits} {state next : Tasks β}
  {conn : Nat} {action : TaskAction β}

section Enrolment
variable {now : Moment} {msg : IncomingMessage β} {st router : RouterState β} {joining : Registering β}

/-- The checks that an accepted registration has passed. -/
structure Accepted (ctx : Context β) (now : Moment) (msg : IncomingMessage β) (st router : RouterState β)
    (joining : Registering β) (register : PluginRegister) (manifest : PluginManifest) : Prop where
  admitted : admits ctx now msg st = true
  addressed : ctx.wire.targetAsStr msg.frame.target = some "kernel"
  asked : ∃ envelope, ctx.wire.decode msg.frame.payload = some envelope ∧
    envelope.payload = some (.pluginRegister register) ∧ envelope.messageId = joining.messageId
  passed : ctx.admitRegister now register = .ok (manifest, joining.deviceSecret)
  done : (st.checkIpcRate ctx now msg).1.registerPlugin now msg register manifest = .ok router.registry
  kept : router = (st.checkIpcRate ctx now msg).1.setRegistry router.registry
  own : joining.moment = now ∧ joining.msg = msg ∧ joining.pluginId = register.pluginId

theorem acceptRegister_some (accepted : st.acceptRegister ctx now msg = some (joining, router)) :
    ∃ register manifest, Accepted ctx now msg st router joining register manifest := by
  simp only [acceptRegister] at accepted
  split at accepted
  next gates =>
    simp only [Bool.and_eq_true, Bool.not_eq_true', beq_iff_eq] at gates
    split at accepted
    next envelope decoded =>
      split at accepted
      next register holds =>
        split at accepted
        next manifest deviceSecret passed =>
          split at accepted
          next registry done =>
            cases accepted
            exact ⟨register, manifest, by simp [admits, gates.1.1, gates.2], gates.1.2, ⟨envelope, decoded, holds, rfl⟩,
              passed, done, rfl, rfl, rfl, rfl⟩
          · cases accepted
        · cases accepted
      · cases accepted
    · cases accepted
  · cases accepted

theorem acceptRegister_none {register manifest secret registry} (refused : st.acceptRegister ctx now msg = none)
    (admitted : admits ctx now msg st = true) (arrived : ToKernel ctx msg (.pluginRegister register))
    (passed : ctx.admitRegister now register = .ok (manifest, secret)) :
    (st.checkIpcRate ctx now msg).1.registerPlugin now msg register manifest ≠ .ok registry := by
  intro done
  obtain ⟨addressed, envelope, decoded, holds⟩ := arrived
  simp only [admits, Bool.and_eq_true, Bool.not_eq_true'] at admitted
  simp [acceptRegister, admitted.1, admitted.2, addressed, decoded, holds, passed, done] at refused

/-- The four steps together are what the router does with the message. -/
theorem acceptRegister_routed (accepted : st.acceptRegister ctx now msg = some (joining, router)) :
    (st.routeMessage ctx now msg).1 =
      ((router.acknowledgeStep ctx joining).armStep ctx joining).joinStep ctx joining := by
  obtain ⟨register, manifest, checks⟩ := acceptRegister_some accepted
  obtain ⟨envelope, decoded, holds, sameId⟩ := checks.asked
  obtain ⟨sameMoment, sameMsg, samePlugin⟩ := checks.own
  rw [routeMessage_handled checks.admitted checks.addressed]
  simp only [handleTarget, if_true, handleKernelMessage, decoded, holds, isRegister, Bool.not_true, Bool.false_and,
    Bool.false_eq_true, if_false, handlePayload, handleRegister, checks.passed, checks.done]
  simp only [acknowledgeStep, armStep, joinStep, sameMoment, sameMsg, samePlugin, ← sameId]
  rw [← checks.kept]

/-- Unless it accepts a registration, the router queues no session key: the frames
it queues it has built itself, or they are the message. -/
theorem routeMessage_frames (refused : st.acceptRegister ctx now msg = none) :
    Mailboxes.Adds (fun tx item => Built ctx tx item ∨ item = relayed msg) st.net
      (st.routeMessage ctx now msg).1.net := by
  obtain ⟨calls, quiet⟩ := checkIpcRate_quiet ctx now msg st
  have sameNet : (st.checkIpcRate ctx now msg).1.net = st.net := by rw [quiet]
  rw [← sameNet]
  cases admitted : admits ctx now msg st with
  | false =>
    apply (routeMessage_refused admitted).sends.mono
    intro tx item answer
    obtain ⟨error, carries⟩ := answer
    exact .inl carries.built
  | true =>
    apply (routeMessage_routed ctx now msg st).sends.mono
    intro tx item sent
    cases sent with
    | reply _ carries => exact .inl carries.built
    | mac key arrived passed done => exact absurd done (acceptRegister_none refused admitted arrived passed)
    | event carries _ => exact .inl carries.built
    | request _ _ _ carries => exact .inl carries.built
    | toRequester _ _ _ carries => exact .inl carries.built
    | toProvider _ _ _ _ carries => exact .inl carries.built
    | forwarded | bridged | broadcast => exact .inr rfl

section
variable (ctx : Context β) (joining : Registering β) (st : RouterState β) {now : Moment}

theorem acknowledgeStep_frames : Mailboxes.Adds (Built ctx) st.net (st.acknowledgeStep ctx joining).net := by
  have talk : Talk (Built ctx) st (st.acknowledgeStep ctx joining) :=
    sendEnvelope_talk rfl fun _ carries => carries.built
  exact talk.sends

theorem joinStep_frames : Mailboxes.Adds (Built ctx) st.net (st.joinStep ctx joining).net := by
  rw [joinStep, recordOutcome_net]
  exact (publish_frames ctx joining.moment st _).sends

theorem armStep_net : (st.armStep ctx joining).net =
      match joining.sessionKey ctx with
      | none => st.net
      | some key => st.net.send joining.msg.writeTx (.enableMac key) := by
  simp only [armStep, enableMac, Registering.sessionKey, Registering.nonce]
  cases ctx.macSecret with
  | none => rfl
  | some secret => rfl

end

end Enrolment

structure SameEnds (before after : Link β) : Prop where
  key : after.key = before.key
  socket : after.socket = before.socket

inductive Reads (conn : Nat) (state : Tasks β) : Tasks β → Prop where
  | read {link} (before : (state.links conn).task = .reading) (same : SameEnds (state.links conn) link) :
      Reads conn state (state.setLink conn link)

theorem read_some {now frame} (took : state.read ctx framing limits conn now frame = some next) :
    Reads conn state next := by
  simp only [Tasks.read] at took
  split at took
  next _ reading =>
    split at took <;> cases took <;> exact .read reading ⟨rfl, rfl⟩
  next _ reading =>
    split at took
    · cases took
    · split at took <;> cases took <;> exact .read reading ⟨rfl, rfl⟩
  · cases took

theorem leave_some (took : state.leave conn = some next) : Reads conn state next := by
  simp only [Tasks.leave] at took
  split at took
  next _ reading =>
    cases took
    exact .read reading ⟨rfl, rfl⟩
  · cases took

theorem enqueue_some (took : state.enqueue ctx conn = some next) :
    ∃ msg kernel, (state.links conn).task = .holding msg ∧ state.kernel.receive ctx msg = some kernel ∧
      next = { state with kernel }.setTask conn .reading := by
  simp only [Tasks.enqueue] at took
  split at took
  next msg holding =>
    obtain ⟨kernel, received, rfl⟩ := Option.map_eq_some_iff.mp took
    exact ⟨msg, kernel, holding, received, rfl⟩
  · cases took

theorem refuse_some (took : state.refuse ctx conn = some next) :
    ∃ net, Mailboxes.Adds (Built ctx) state.net net ∧ (∃ code, (state.links conn).task = .refusing code) ∧
      next = (state.setNet net).setTask conn .closing := by
  simp only [Tasks.refuse] at took
  split at took
  next code refusing =>
    split at took
    · cases took
      exact ⟨state.net, .refl _, ⟨code, refusing⟩, rfl⟩
    next bytes encoded =>
      split at took
      · cases took
        exact ⟨_, Mailboxes.send_adds _ _ _ ⟨_, _, rfl⟩, ⟨code, refusing⟩, rfl⟩
      · cases took
  · cases took

theorem hangup_cases (took : state.hangup conn = some next) :
    ∃ kernel, state.kernel.hangup conn = some kernel ∧ (next = { state with kernel } ∨
      next = { state with kernel }.setNet (kernel.router.net.close { conn })) := by
  simp only [Tasks.hangup] at took
  split at took
  · obtain ⟨kernel, ended, rfl⟩ := Option.map_eq_some_iff.mp took
    exact ⟨kernel, ended, .inl rfl⟩
  · obtain ⟨kernel, ended, rfl⟩ := Option.map_eq_some_iff.mp took
    exact ⟨kernel, ended, .inr rfl⟩
  · cases took

inductive Writes (framing : Framing β) (conn : Nat) (state : Tasks β) : Tasks β → Prop where
  | installed {key rest} (queue : (state.net { conn }).queue = .enableMac key :: rest) :
      Writes framing conn state ((state.setNet (state.net.drain { conn })).setLink conn
        { state.links conn with key := some key, cell := some key })
  | written {frame rest} (queue : (state.net { conn }).queue = .frame frame :: rest) :
      Writes framing conn state ((state.setNet (state.net.drain { conn })).setLink conn
        { state.links conn with
          socket := (state.links conn).socket ++ [framing.tagged (state.links conn).key frame] })
  | skipped {frame rest} (queue : (state.net { conn }).queue = .frame frame :: rest)
      (tooLarge : framing.tooLarge frame.payload = true) :
      Writes framing conn state (state.setNet (state.net.drain { conn }))
  | lost (gateway : state.writes conn = some .ws) :
      Writes framing conn state ((state.setNet (state.net.drain { conn })).setTask conn .closing)
  | closed : Writes framing conn state (state.setNet (state.net.close { conn }))

theorem tagged_payload (framing : Framing β) (key : Option Bytes) (frame : Frame β) :
    (framing.tagged key frame).payload = frame.payload := by
  cases key with
  | none => rfl
  | some key => rfl

theorem write_some {delivered} (took : state.write framing conn delivered = some next) :
    Writes framing conn state next := by
  simp only [Tasks.write] at took
  split at took
  next _ key rest _ queue =>
    cases took
    exact .installed queue
  next transport frame rest writing queue =>
    split at took
    · split at took
      next tooLarge =>
        cases took
        rw [tagged_payload] at tooLarge
        exact .skipped queue tooLarge
      · split at took
        · cases took
          exact .written queue
        · cases took
          exact .closed
    · cases took
      exact .written queue
    · cases took
      exact .lost writing
  · cases took

theorem notifyShutdown_some {pluginId notice} (took : state.notifyShutdown ctx pluginId notice = some next) :
    ∃ net, Mailboxes.Adds (Built ctx) state.net net ∧ next = state.setNet net := by
  simp only [Tasks.notifyShutdown] at took
  split at took
  · split at took
    · cases took
      exact ⟨_, Mailboxes.send_adds _ _ _ ⟨_, _, rfl⟩, rfl⟩
    · cases took
  · cases took

/-- The router takes a message: an accepted registration, or anything else. -/
inductive Takes (ctx : Context β) (now : Moment) (state : Tasks β) : Tasks β → Prop where
  | accepted {msg rest joining router} (idle : state.task = .idle) (waiting : state.kernel.incoming = msg :: rest)
      (accepted : state.kernel.router.acceptRegister ctx now msg = some (joining, router)) :
      Takes ctx now state
        { state with kernel := { state.kernel with router, incoming := rest }, task := .registered joining }
  | routed {msg rest} (idle : state.task = .idle) (waiting : state.kernel.incoming = msg :: rest)
      (refused : state.kernel.router.acceptRegister ctx now msg = none) :
      Takes ctx now state { state with kernel := { state.kernel with
        router := (state.kernel.router.routeMessage ctx now msg).1, incoming := rest } }

theorem tasks_take_some {now : Moment} (took : state.take ctx now = some next) : Takes ctx now state next := by
  simp only [Tasks.take] at took
  split at took
  next msg rest idle waiting =>
    split at took
    next joining router accepted =>
      cases took
      exact .accepted idle waiting accepted
    next refused =>
      simp only [Kernel.route, waiting, Option.map_some, Option.some.injEq] at took
      subst took
      exact .routed idle waiting refused
  · cases took

theorem acknowledge_some (took : state.acknowledge ctx = some next) :
    ∃ joining, state.task = .registered joining ∧ next =
      { state.setRouter (state.kernel.router.acknowledgeStep ctx joining) with task := .acknowledged joining } := by
  simp only [Tasks.acknowledge] at took
  split at took
  next joining before =>
    cases took
    exact ⟨joining, before, rfl⟩
  · cases took

theorem arm_some (took : state.arm ctx = some next) :
    ∃ joining, state.task = .acknowledged joining ∧ state.waitsOn ctx joining.msg.writeTx = false ∧
      next = { state.setRouter (state.kernel.router.armStep ctx joining) with
        task := .armed joining, keyed := state.keyed ++ [joining] } := by
  simp only [Tasks.arm] at took
  split at took
  next joining before =>
    split at took
    · cases took
    next ready =>
      cases took
      exact ⟨joining, before, by simpa using ready, rfl⟩
  · cases took

theorem join_some (took : state.join ctx = some next) :
    ∃ joining, state.task = .armed joining ∧
      next = { state.setRouter (state.kernel.router.joinStep ctx joining) with task := .idle } := by
  simp only [Tasks.join] at took
  split at took
  next joining before =>
    cases took
    exact ⟨joining, before, rfl⟩
  · cases took

theorem prune_some {now : Moment} (took : state.prune ctx now = some next) :
    state.task = .idle ∧ next = state.setRouter (state.kernel.router.pruneTick ctx now) := by
  simp only [Tasks.prune] at took
  split at took
  next idle =>
    cases took
    exact ⟨idle, rfl⟩
  · cases took

theorem other_some {action} (took : state.step ctx framing limits (.other action) = some next) :
    ∃ kernel, action.isElsewhere = true ∧ state.kernel.step ctx action = some kernel ∧ next = { state with kernel } := by
  simp only [Tasks.step] at took
  split at took
  next elsewhere =>
    obtain ⟨kernel, moved, rfl⟩ := Option.map_eq_some_iff.mp took
    exact ⟨kernel, elsewhere, moved, rfl⟩
  · cases took

/-- What a step is to the router task: none of its own, or one of the four steps
of a registration. -/
inductive RouterMove (ctx : Context β) (state : Tasks β) (action : TaskAction β) (next : Tasks β) : Prop where
  | stays (task : next.task = state.task) (keyed : next.keyed = state.keyed)
  | accepts {joining} (before : state.task = .idle) (task : next.task = .registered joining)
      (keyed : next.keyed = state.keyed) (net : next.net = state.net)
  | acknowledges {joining} (mine : action = .acknowledge)
      (before : state.task = .registered joining) (task : next.task = .acknowledged joining)
      (keyed : next.keyed = state.keyed)
      (router : next.kernel.router = state.kernel.router.acknowledgeStep ctx joining)
  | arms {joining} (before : state.task = .acknowledged joining)
      (ready : state.waitsOn ctx joining.msg.writeTx = false) (task : next.task = .armed joining)
      (keyed : next.keyed = state.keyed ++ [joining])
      (router : next.kernel.router = state.kernel.router.armStep ctx joining)
  | joins {joining} (before : state.task = .armed joining) (task : next.task = .idle)
      (keyed : next.keyed = state.keyed)

theorem acceptRegister_net {now : Moment} {msg : IncomingMessage β} {st router : RouterState β}
    {joining : Registering β} (accepted : st.acceptRegister ctx now msg = some (joining, router)) :
    router.net = st.net := by
  obtain ⟨register, manifest, checks⟩ := acceptRegister_some accepted
  obtain ⟨calls, quiet⟩ := checkIpcRate_quiet ctx now msg st
  rw [checks.kept, quiet]
  rfl

theorem step_router (took : state.step ctx framing limits action = some next) :
    RouterMove ctx state action next := by
  cases action with
  | accept =>
    obtain ⟨kernel, _, rfl⟩ := Option.map_eq_some_iff.mp took
    exact .stays rfl rfl
  | read =>
    obtain ⟨_, _⟩ := read_some took
    exact .stays rfl rfl
  | leave =>
    obtain ⟨_, _⟩ := leave_some took
    exact .stays rfl rfl
  | enqueue =>
    obtain ⟨_, _, _, _, rfl⟩ := enqueue_some took
    exact .stays rfl rfl
  | refuse =>
    obtain ⟨_, _, _, rfl⟩ := refuse_some took
    exact .stays rfl rfl
  | hangup =>
    obtain ⟨_, _, rfl | rfl⟩ := hangup_cases took
    · exact .stays rfl rfl
    · exact .stays rfl rfl
  | write =>
    have written := write_some took
    cases written <;> exact .stays rfl rfl
  | take =>
    have taken := tasks_take_some took
    cases taken with
    | accepted idle _ accepted => exact .accepts idle rfl rfl (acceptRegister_net accepted)
    | routed => exact .stays rfl rfl
  | acknowledge =>
    obtain ⟨joining, before, rfl⟩ := acknowledge_some took
    exact .acknowledges rfl before rfl rfl rfl
  | arm =>
    obtain ⟨joining, before, ready, rfl⟩ := arm_some took
    exact .arms before ready rfl rfl rfl
  | join =>
    obtain ⟨joining, before, rfl⟩ := join_some took
    exact .joins before rfl rfl
  | prune =>
    obtain ⟨_, rfl⟩ := prune_some took
    exact .stays rfl rfl
  | redeliver =>
    cases took
    exact .stays rfl rfl
  | notifyShutdown =>
    obtain ⟨_, _, rfl⟩ := notifyShutdown_some took
    exact .stays rfl rfl
  | other =>
    obtain ⟨_, _, _, rfl⟩ := other_some took
    exact .stays rfl rfl

section Untouched

def touches : TaskAction β → Option Nat
  | .read conn _ _ | .leave conn | .enqueue conn | .refuse conn | .write conn _ => some conn
  | _ => none

/-- The connections after a step: as before, one more, or one ended. -/
inductive Connected (action : TaskAction β) (before : DashMap Nat Connection) : DashMap Nat Connection → Prop where
  | same : Connected action before before
  | accepted {conn : Nat} (fresh : before.get conn = none) (apart : conn ≠ bridgeConnId) (transport : Transport) :
      Connected action before (before.insert conn { transport })
  | ended {conn connection} (mine : action = .hangup conn) (found : before.get conn = some connection) :
      Connected action before (before.insert conn { connection with ended := true })

variable {before after : DashMap Nat Connection} {connection : Connection} {conn : Nat}

theorem Connected.keeps (step : Connected action before after) (found : before.get conn = some connection) :
    ∃ ended, after.get conn = some { connection with ended } := by
  cases step with
  | same => exact ⟨connection.ended, found⟩
  | @accepted other fresh _ transport =>
    refine ⟨connection.ended, ?_⟩
    rw [get_insert]
    split
    next same =>
      rw [same, fresh] at found
      cases found
    · exact found
  | @ended other old _ known =>
    rw [get_insert]
    split
    next same =>
      rw [same, known] at found
      cases found
      exact ⟨true, rfl⟩
    · exact ⟨connection.ended, found⟩

theorem Connected.undisturbed (step : Connected action before after) (found : before.get conn = some connection)
    (notHangup : action ≠ .hangup conn) : after.get conn = before.get conn := by
  cases step with
  | same => rfl
  | @accepted other fresh =>
    have different : conn ≠ other := by
      intro same
      rw [same, fresh] at found
      cases found
    rw [get_insert, if_neg different]
  | @ended other _ mine =>
    have different : conn ≠ other := by
      intro same
      subst same
      exact notHangup mine
    rw [get_insert, if_neg different]

theorem Connected.apart (step : Connected action before after)
    (apart : before.get bridgeConnId = none) : after.get bridgeConnId = none := by
  cases step with
  | same => exact apart
  | accepted _ different _ => rw [get_insert, if_neg (Ne.symm different), apart]
  | @ended other _ _ found =>
    rw [get_insert]
    split
    next same =>
      rw [← same, apart] at found
      cases found
    · exact apart

/-- The router queue after a step: as before, without the message that the router has
taken, or with one more. -/
inductive RouterQueue (state : Tasks β) (action : TaskAction β) : List (IncomingMessage β) → Prop where
  | same : RouterQueue state action state.kernel.incoming
  | taken {now msg rest} (mine : action = .take now)
      (waiting : state.kernel.incoming = msg :: rest) : RouterQueue state action rest
  | held {conn msg} (holding : (state.links conn).task = .holding msg) :
      RouterQueue state action (state.kernel.incoming ++ [msg])
  | bridged {msg} (mine : action = .other (.receive msg)) :
      RouterQueue state action (state.kernel.incoming ++ [msg])

theorem RouterQueue.length_le {incoming} (queued : RouterQueue state action incoming)
    (notTake : ∀ now, action ≠ .take now) : state.kernel.incoming.length ≤ incoming.length := by
  cases queued with
  | same => exact Nat.le_refl _
  | taken mine => exact absurd mine (notTake _)
  | held | bridged => simp

/-- A step that is neither the router's nor a connection's accepts and ends no
connection, and takes no message from the router. -/
theorem elsewhere_quiet {kernel after : Kernel β} {action : Action β} (elsewhere : action.isElsewhere = true)
    (took : kernel.step ctx action = some after) : after.connections = kernel.connections ∧
      (after.incoming = kernel.incoming ∨ ∃ msg, action = .receive msg ∧ after.incoming = kernel.incoming ++ [msg]) := by
  cases kernel_step took with
  | accept | hangup | route | prune => cases elsewhere
  | @receive msg => exact ⟨rfl, .inr ⟨msg, rfl, rfl⟩⟩
  | _ => exact ⟨rfl, .inl rfl⟩

theorem setLink_self (state : Tasks β) (conn : Nat) (link : Link β) : (state.setLink conn link).links conn = link := by
  simp [Tasks.setLink]

theorem setLink_other (state : Tasks β) {other} (link : Link β) (different : some other ≠ some conn) :
    (state.setLink other link).links conn = state.links conn := by
  have unlike : conn ≠ other := fun same => different (by rw [same])
  simp [Tasks.setLink, unlike]

structure StepFrame (state : Tasks β) (action : TaskAction β) (next : Tasks β) : Prop where
  links : ∀ conn, touches action ≠ some conn → next.links conn = state.links conn
  connections : Connected action state.kernel.connections next.kernel.connections
  incoming : RouterQueue state action next.kernel.incoming

theorem step_frame (took : state.step ctx framing limits action = some next) : StepFrame state action next := by
  cases action with
  | accept =>
    obtain ⟨kernel, accepted, rfl⟩ := Option.map_eq_some_iff.mp took
    obtain ⟨fresh, apart, rfl⟩ := accept_some accepted
    exact ⟨fun _ _ => rfl, .accepted fresh apart _, .same⟩
  | read =>
    obtain ⟨_, _⟩ := read_some took
    exact ⟨fun _ => setLink_other _ _, .same, .same⟩
  | leave =>
    obtain ⟨_, _⟩ := leave_some took
    exact ⟨fun _ => setLink_other _ _, .same, .same⟩
  | enqueue =>
    obtain ⟨_, kernel, holding, received, rfl⟩ := enqueue_some took
    obtain ⟨_, rfl⟩ := receive_some received
    exact ⟨fun _ => setLink_other _ _, .same, .held holding⟩
  | refuse =>
    obtain ⟨_, _, _, rfl⟩ := refuse_some took
    exact ⟨fun _ => setLink_other _ _, .same, .same⟩
  | hangup =>
    obtain ⟨kernel, ended, leaves⟩ := hangup_cases took
    obtain ⟨_, found, _, rfl⟩ := hangup_some ended
    rcases leaves with rfl | rfl
    · exact ⟨fun _ _ => rfl, .ended rfl found, .same⟩
    · exact ⟨fun _ _ => rfl, .ended rfl found, .same⟩
  | write =>
    have written := write_some took
    cases written with
    | installed | written | lost => exact ⟨fun _ => setLink_other _ _, .same, .same⟩
    | skipped | closed => exact ⟨fun _ _ => rfl, .same, .same⟩
  | take now =>
    have taken := tasks_take_some took
    cases taken with
    | accepted _ waiting | routed _ waiting => exact ⟨fun _ _ => rfl, .same, .taken rfl waiting⟩
  | acknowledge =>
    obtain ⟨_, _, rfl⟩ := acknowledge_some took
    exact ⟨fun _ _ => rfl, .same, .same⟩
  | arm =>
    obtain ⟨_, _, _, rfl⟩ := arm_some took
    exact ⟨fun _ _ => rfl, .same, .same⟩
  | join =>
    obtain ⟨_, _, rfl⟩ := join_some took
    exact ⟨fun _ _ => rfl, .same, .same⟩
  | prune =>
    obtain ⟨_, rfl⟩ := prune_some took
    exact ⟨fun _ _ => rfl, .same, .same⟩
  | redeliver =>
    cases took
    exact ⟨fun _ _ => rfl, .same, .same⟩
  | notifyShutdown =>
    obtain ⟨_, _, rfl⟩ := notifyShutdown_some took
    exact ⟨fun _ _ => rfl, .same, .same⟩
  | other =>
    obtain ⟨kernel, elsewhere, moved, rfl⟩ := other_some took
    obtain ⟨same, queue⟩ := elsewhere_quiet elsewhere moved
    refine ⟨fun _ _ => rfl, same ▸ .same, ?_⟩
    rcases queue with kept | ⟨msg, rfl, queue⟩
    · exact kept ▸ .same
    · exact queue ▸ .bridged rfl

end Untouched

section Refinement
variable {start state next : Tasks β}

/-- The kernel once the router has finished the registration in its hands. -/
def settled (ctx : Context β) (state : Tasks β) : Kernel β :=
  let router := state.kernel.router
  match state.task with
  | .idle => state.kernel
  | .registered joining => state.kernel.setRouter
      (((router.acknowledgeStep ctx joining).armStep ctx joining).joinStep ctx joining)
  | .acknowledged joining => state.kernel.setRouter ((router.armStep ctx joining).joinStep ctx joining)
  | .armed joining => state.kernel.setRouter (router.joinStep ctx joining)

/-- Between the steps of a registration no other task runs, and no task runs that
the kernel's own steps leave out. -/
def undivided (state : Tasks β) : TaskAction β → Bool
  | .acknowledge | .arm | .join => true
  | .refuse _ | .redeliver _ _ | .notifyShutdown _ _ => false
  | _ =>
    match state.task with
    | .idle => true
    | _ => false

theorem settled_idle (idle : state.task = .idle) : settled ctx state = state.kernel := by simp [settled, idle]

theorem kernel_run {kernel after} (action : Action β) (took : kernel.step ctx action = some after) :
    Run (Kernel.step ctx) unguarded kernel after :=
  .step (.refl kernel) rfl took

/-- The first step of a registration stands for all four. -/
theorem take_settled {now : Moment} (took : state.take ctx now = some next) :
    state.kernel.route ctx now = some (settled ctx next) := by
  have taken := tasks_take_some took
  cases taken with
  | accepted idle waiting accepted =>
    simp [settled, Kernel.route, waiting, acceptRegister_routed accepted, Kernel.setRouter]
  | routed idle waiting refused =>
    rw [settled_idle (by exact idle)]
    simp [Kernel.route, waiting]

theorem acknowledge_settled (took : state.acknowledge ctx = some next) : settled ctx next = settled ctx state := by
  obtain ⟨joining, before, rfl⟩ := acknowledge_some took
  simp [settled, before, Tasks.setRouter, Kernel.setRouter]

theorem arm_settled (took : state.arm ctx = some next) : settled ctx next = settled ctx state := by
  obtain ⟨joining, before, _, rfl⟩ := arm_some took
  simp [settled, before, Tasks.setRouter, Kernel.setRouter]

theorem join_settled (took : state.join ctx = some next) : settled ctx next = settled ctx state := by
  obtain ⟨joining, before, rfl⟩ := join_some took
  simp [settled, before, Tasks.setRouter, Kernel.setRouter]

theorem write_settled {conn delivered} (idle : state.task = .idle)
    (took : state.write framing conn delivered = some next) :
    Run (Kernel.step ctx) unguarded (settled ctx state) (settled ctx next) := by
  have written := write_some took
  cases written with
  | installed | written | skipped | lost =>
    rw [settled_idle idle, settled_idle (by exact idle)]
    exact kernel_run (.drain { conn }) rfl
  | closed =>
    rw [settled_idle idle, settled_idle (by exact idle)]
    exact kernel_run (.close { conn }) rfl

theorem hangup_settled (idle : state.task = .idle) (took : state.hangup conn = some next) :
    Run (Kernel.step ctx) unguarded (settled ctx state) (settled ctx next) := by
  obtain ⟨kernel, ended, rfl | rfl⟩ := hangup_cases took
  · rw [settled_idle idle, settled_idle (by exact idle)]
    exact kernel_run (.hangup conn) ended
  · rw [settled_idle idle, settled_idle (by exact idle)]
    exact (kernel_run (.hangup conn) ended).trans (kernel_run (.close { conn }) rfl)

theorem undivided_idle (allowed : undivided state action = true) :
    action = .acknowledge ∨ action = .arm ∨ action = .join ∨ state.task = .idle := by
  cases task : state.task with
  | idle => exact .inr (.inr (.inr rfl))
  | registered | acknowledged | armed =>
    cases action <;> simp [undivided, task] at allowed ⊢

theorem undivided_step_settled (allowed : undivided state action = true)
    (took : state.step ctx framing limits action = some next) :
    Run (Kernel.step ctx) unguarded (settled ctx state) (settled ctx next) := by
  rcases undivided_idle allowed with rfl | rfl | rfl | idle
  · rw [acknowledge_settled took]
    exact .refl _
  · rw [arm_settled took]
    exact .refl _
  · rw [join_settled took]
    exact .refl _
  · cases action with
    | accept conn transport =>
      obtain ⟨kernel, accepted, rfl⟩ := Option.map_eq_some_iff.mp took
      rw [settled_idle idle, settled_idle (by exact idle)]
      exact kernel_run (.accept conn transport) accepted
    | read =>
      obtain ⟨_, _⟩ := read_some took
      rw [settled_idle idle, settled_idle (by exact idle)]
      exact .refl _
    | leave =>
      obtain ⟨_, _⟩ := leave_some took
      rw [settled_idle idle, settled_idle (by exact idle)]
      exact .refl _
    | enqueue =>
      obtain ⟨msg, kernel, _, received, rfl⟩ := enqueue_some took
      rw [settled_idle idle, settled_idle (by exact idle)]
      exact kernel_run (.receive msg) received
    | hangup => exact hangup_settled idle took
    | write => exact write_settled idle took
    | take now =>
      rw [settled_idle idle]
      exact kernel_run (.route now) (take_settled took)
    | acknowledge =>
      rw [acknowledge_settled took]
      exact .refl _
    | arm =>
      rw [arm_settled took]
      exact .refl _
    | join =>
      rw [join_settled took]
      exact .refl _
    | prune now =>
      obtain ⟨_, rfl⟩ := prune_some took
      rw [settled_idle idle, settled_idle (by exact idle)]
      exact kernel_run (.prune now) rfl
    | refuse | redeliver | notifyShutdown => cases allowed
    | other action =>
      obtain ⟨kernel, _, moved, rfl⟩ := other_some took
      rw [settled_idle idle, settled_idle (by exact idle)]
      exact kernel_run action moved

/-- A run in which registrations are undivided is a run of the kernel. -/
theorem undivided_run_settled (run : Run (Tasks.step ctx framing limits) undivided start state) :
    Run (Kernel.step ctx) unguarded (settled ctx start) (settled ctx state) := by
  induction run with
  | refl => exact .refl _
  | step _ allowed took ih => exact ih.trans (undivided_step_settled allowed took)

end Refinement

section Enrolment
open Scenario

def enrolment : List (TaskAction Packet) :=
  [.accept 1 .uds, .read 1 0 (hello 1 "notes").frame, .enqueue 1, .take start,
    .acknowledge, .arm, .join]

def enrolmentEnd : Tasks Packet :=
  (exec (Tasks.step context Packet.framing {}) undivided {} enrolment).get (by decide +kernel)

theorem undivided_run_settled_enrolment :
    Run (Kernel.step context) unguarded {} (settled context enrolmentEnd) :=
  undivided_run_settled (exec_get_run (by decide +kernel) : Run _ _ _ enrolmentEnd)

end Enrolment
end Vynkor.Proofs
