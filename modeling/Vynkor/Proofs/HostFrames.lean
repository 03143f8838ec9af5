import Vynkor.Proofs.BridgeSteps
import Vynkor.Proofs.PeerGate
import Vynkor.Proofs.TargetNames
import Vynkor.Proofs.Unregistered

/-! Frames of the host for a capability of the device, on their way through the bridge
and the local router to the plugin that provides it. -/

namespace Vynkor.Proofs
open RouterState Execution

section Frames
variable {β : Type} {wire : Wire β} {bridge : Bridge} {frame : Frame β} {cap : String}

theorem localFrame_target (traffic : Bridge.isKernelRouted wire frame = false)
    (aimed : wire.targetAsStr frame.target = some (bridge.deviceId ++ "." ++ cap)) :
    (bridge.localFrame wire frame).target = targetBytes cap := by
  simp [Bridge.localFrame, traffic, Bridge.stripDevicePrefix, aimed, Text.stripPrefix_append]

end Frames

section Delivery
variable {β : Type} {ctx : Context β} {now : Moment} {msg : IncomingMessage β} {st : RouterState β} {bridge : Bridge}
  {serial : Nat} {source plugin : PluginEntry} {frame : Frame β} {cap : String}

/-- What the entry of the sender needs for the frame to be handed to a plugin of the user
`default`. -/
def MaySend (source : PluginEntry) (frame : Frame β) (cap : String) : Prop :=
  MayTransmit source frame ∧ source.userId = "default" ∧
    (cap ∈ source.manifest.ipcTargets ∨ ListedByDevice source.manifest cap)

theorem authorizeForward_default (registered : st.registry.get cap = some plugin) (user : plugin.userId = "default") :
    authorizeForward st.registry msg cap = .ok source ↔
      st.registry.getByConnId msg.connId = some source ∧ MaySend source msg.frame cap := by
  rw [authorizeForward_ok_iff, PluginRegistry.getMux_eq_get registered]
  simp [MaySend, user, eq_comm]

/-- The entry of the bridge lacks the permission for audio. -/
theorem proxy_maySend (proxied : IsProxy bridge serial source) (mirrored : cap ∈ bridge.config.mirror) :
    MaySend source frame cap ↔ frame.isRawBinary = false := by
  have sends : source.manifest.holds .ipcSend = true ∧ source.manifest.holds .audioStream = false := by
    rw [proxied.manifest]
    show (["PERMISSION_IPC_SEND"].any _) = true ∧ (["PERMISSION_IPC_SEND"].any _) = false
    decide +kernel
  have listed : cap ∈ source.manifest.ipcTargets := by
    rw [proxied.manifest]
    exact mirrored
  simp [MaySend, MayTransmit, sends, proxied.user, listed]

section
variable (aimed : ctx.wire.targetAsStr msg.frame.target = some cap) (unreserved : cap ≠ "kernel" ∧ cap ≠ "*")
include aimed unreserved

theorem routed_to_cap (authorized : authorizeForward st.registry msg cap = .ok source)
    (registered : st.registry.get cap = some plugin) (admitted : admits ctx now msg st = true)
    (room : st.hasRoom plugin.writeTx = true) :
    ((st.routeMessage ctx now msg).1.net plugin.writeTx).queue = (st.net plugin.writeTx).queue ++ [relayed msg] := by
  obtain ⟨calls, quiet⟩ := checkIpcRate_quiet ctx now msg st
  have resolved := PluginRegistry.getMux_eq_get registered
  obtain ⟨_, added⟩ := @forward_resolved _ msg { st with ipcCalls := calls } source cap ctx now plugin _ authorized
    resolved
  have routed := routeMessage_routed ctx now msg st
  have queue := routed.sends.queue plugin.writeTx
  rw [routeMessage_handled admitted aimed, recordOutcome_net] at queue ⊢
  simp only [quiet, handleTarget, if_neg unreserved.1, if_neg unreserved.2] at queue ⊢
  rw [queue]
  congr 1
  rw [if_pos ⟨rfl, room⟩] at added
  exact added

theorem unrouted_to_cap (refused : admits ctx now msg st = true →
    ∀ source, authorizeForward st.registry msg cap ≠ .ok source) : Aside msg st (st.routeMessage ctx now msg).1 := by
  apply checkIpcRate_aside.trans
  simp only [routeMessage, routeTarget, aimed]
  split
  next within =>
    split
    · exact .refl _
    next running =>
      refine Aside.trans ?_ (recordOutcome_aside _)
      simp only [handleTarget, if_neg unreserved.1, if_neg unreserved.2]
      apply forward_aside
      rw [checkIpcRate_registry]
      exact refused (by simpa [admits, within] using running)
  · exact sendError_aside _ _

end

end Delivery

section Path
variable {β : Type} {ctx : Context β} {framing : Framing β} {limits : ConnectionLimits} {bridge : Bridge}
  {state : BridgedTasks β} {frame : Frame β} {cap : String} {msg : IncomingMessage β}

/-- The router takes a message, and the channel of the plugin gets the payload of the frame
and its flags without the MAC flag. -/
def HandsOver (ctx : Context β) (framing : Framing β) (limits : ConnectionLimits) (bridge : Bridge)
    (state : BridgedTasks β) (now : Moment) (frame : Frame β) (plugin : PluginEntry) : Prop :=
  ∃ next sent, state.step ctx framing limits bridge (.task (.take now)) = some next ∧
    (next.tasks.net plugin.writeTx).queue = (state.tasks.net plugin.writeTx).queue ++ [.frame sent] ∧
    sent.payload = frame.payload ∧ sent.flags = frame.flags &&& ~~~flagMacPresent

/-- The way of a host frame: the read loop accepts it and puts it on the router queue, where
it stays until the router takes it. The local plugin then gets it just if the message is
within the budgets and the connection of the bridge has an entry that may send it; the entry
that the bridge makes may send whatever is not raw. -/
structure ReachesPlugin (ctx : Context β) (framing : Framing β) (limits : ConnectionLimits) (bridge : Bridge)
    (state : BridgedTasks β) (frame : Frame β) (cap : String) : Prop where
  read : ∀ serial key, state.host.task = .reading serial key → frame.flags &&& flagFragmented = 0 →
    (key.bind fun key => framing.macError key frame) = none →
    ∃ next, state.step ctx framing limits bridge (.read frame) = some next ∧
      next.host.task = .holding serial key (bridge.localFrame ctx.wire frame)
  enqueued : ∀ serial key, state.host.task = .holding serial key (bridge.localFrame ctx.wire frame) →
    state.tasks.kernel.incoming.length < ctx.routerChannelCapacity →
    ∃ next, state.step ctx framing limits bridge .enqueue = some next ∧ next.tasks.kernel.incoming =
      state.tasks.kernel.incoming ++ [BridgedTasks.received serial (bridge.localFrame ctx.wire frame)]
  waits : ∀ serial action next,
    BridgedTasks.received serial (bridge.localFrame ctx.wire frame) ∈ state.tasks.kernel.incoming →
    state.step ctx framing limits bridge action = some next →
    BridgedTasks.received serial (bridge.localFrame ctx.wire frame) ∈ next.tasks.kernel.incoming ∨
      ∃ now rest, action = .task (.take now) ∧ state.tasks.kernel.incoming =
        BridgedTasks.received serial (bridge.localFrame ctx.wire frame) :: rest
  delivered : ∀ serial rest now plugin, state.tasks.task = .idle →
    state.tasks.kernel.incoming = BridgedTasks.received serial (bridge.localFrame ctx.wire frame) :: rest →
    state.tasks.kernel.router.registry.get cap = some plugin → plugin.userId = "default" →
    plugin.connId ≠ bridgeConnId → state.tasks.kernel.router.hasRoom plugin.writeTx = true →
    (HandsOver ctx framing limits bridge state now frame plugin ↔
      admits ctx now (BridgedTasks.received serial (bridge.localFrame ctx.wire frame)) state.tasks.kernel.router = true ∧
        ∃ source, state.tasks.kernel.router.registry.getByConnId bridgeConnId = some source ∧ MaySend source frame cap)
  own : ∀ serial source, IsProxy bridge serial source → (MaySend source frame cap ↔ frame.isRawBinary = false)

theorem read_accepted {serial key} (reading : state.host.task = .reading serial key)
    (whole : frame.flags &&& flagFragmented = 0) (genuine : (key.bind fun key => framing.macError key frame) = none) :
    state.step ctx framing limits bridge (.read frame) =
      some (state.setTask (.holding serial key (bridge.localFrame ctx.wire frame))) := by
  simp only [BridgedTasks.step, BridgedTasks.read, reading, whole, genuine]
  rfl

theorem enqueue_accepted (attached : Attached bridge state) (origins : Origins ctx.wire bridge state) {serial key}
    (holding : state.host.task = .holding serial key frame)
    (room : state.tasks.kernel.incoming.length < ctx.routerChannelCapacity) :
    ∃ next, state.step ctx framing limits bridge .enqueue = some next ∧ next.tasks.kernel.incoming =
      state.tasks.kernel.incoming ++ [BridgedTasks.received serial frame] := by
  have link := attached.task
  rw [holding] at link
  have isOpen : state.tasks.kernel.isOpen bridgeConnId (hostTx serial) = true := by
    simp [Kernel.isOpen, origins.apart, link, BridgeTask.channel, hostTx]
  have received : state.tasks.kernel.receive ctx (BridgedTasks.received serial frame) = some
      { state.tasks.kernel with incoming := state.tasks.kernel.incoming ++ [BridgedTasks.received serial frame] } :=
    if_pos ⟨isOpen, room⟩
  refine ⟨(state.setKernel { state.tasks.kernel with
    incoming := state.tasks.kernel.incoming ++ [BridgedTasks.received serial frame] }).setTask (.reading serial key),
    ?_, rfl⟩
  simp only [BridgedTasks.step, BridgedTasks.enqueue, holding, received]
  rfl

theorem RouterQueue.stays {tasks action incoming}
    (queue : RouterQueue tasks action incoming) (queued : msg ∈ tasks.kernel.incoming) :
    msg ∈ incoming ∨ ∃ now rest, action = .take now ∧ tasks.kernel.incoming = msg :: rest := by
  cases queue with
  | same => exact .inl queued
  | @taken now head rest mine waiting =>
    rw [waiting] at queued
    rcases List.mem_cons.mp queued with rfl | later
    · exact .inr ⟨now, _, mine, waiting⟩
    · exact .inl later
  | held | bridged => exact .inl (List.mem_append_left _ queued)

theorem stays_queued {action next}
    (queued : msg ∈ state.tasks.kernel.incoming) (step : state.step ctx framing limits bridge action = some next) :
    msg ∈ next.tasks.kernel.incoming ∨
      ∃ now rest, action = .task (.take now) ∧ state.tasks.kernel.incoming = msg :: rest := by
  cases (bridge_step step).inner with
  | same unchanged =>
    rw [unchanged]
    exact .inl queued
  | task mine _ moved =>
    subst mine
    refine ((step_frame moved).incoming.stays queued).imp_right ?_
    rintro ⟨now, rest, rfl, waiting⟩
    exact ⟨now, rest, rfl, waiting⟩
  | bridge moved | enqueue _ moved =>
    refine .inl (((step_frame moved).incoming.stays queued).resolve_right ?_)
    rintro ⟨now, rest, taken, _⟩
    cases taken

theorem take_routes {now msg rest}
    (idle : state.tasks.task = .idle) (waiting : state.tasks.kernel.incoming = msg :: rest)
    (other : state.tasks.kernel.router.acceptRegister ctx now msg = none) :
    ∃ next, state.step ctx framing limits bridge (.task (.take now)) = some next ∧
      next.tasks.kernel.router = (state.tasks.kernel.router.routeMessage ctx now msg).1 := by
  refine ⟨{ state with tasks := { state.tasks with kernel := { state.tasks.kernel with
    router := (state.tasks.kernel.router.routeMessage ctx now msg).1, incoming := rest } } }, ?_, rfl⟩
  simp only [BridgedTasks.step, TaskAction.isBridge, Tasks.step, Tasks.take, idle, waiting, other, Kernel.route]
  rfl

theorem acceptRegister_peer {now : Moment} {st : RouterState β} {target : String}
    (aimed : ctx.wire.targetAsStr msg.frame.target = some target) (peer : target ≠ "kernel") :
    st.acceptRegister ctx now msg = none := by
  simp [acceptRegister, aimed, peer]

theorem maySend_localFrame {source} :
    MaySend source (bridge.localFrame ctx.wire frame) cap ↔ MaySend source frame cap := by
  have raw : (bridge.localFrame ctx.wire frame).isRawBinary = frame.isRawBinary := stripMac_isRawBinary frame
  rw [MaySend, MaySend, MayTransmit, MayTransmit, raw]

theorem handsOver_iff {serial rest now plugin} (aimed : ctx.wire.targetAsStr
      (bridge.localFrame ctx.wire frame).target = some cap) (unreserved : cap ≠ "kernel" ∧ cap ≠ "*")
    (idle : state.tasks.task = .idle)
    (waiting : state.tasks.kernel.incoming = BridgedTasks.received serial (bridge.localFrame ctx.wire frame) :: rest)
    (registered : state.tasks.kernel.router.registry.get cap = some plugin) (user : plugin.userId = "default")
    (apart : plugin.connId ≠ bridgeConnId) (room : state.tasks.kernel.router.hasRoom plugin.writeTx = true) :
    HandsOver ctx framing limits bridge state now frame plugin ↔
      admits ctx now (BridgedTasks.received serial (bridge.localFrame ctx.wire frame)) state.tasks.kernel.router = true ∧
        ∃ source, state.tasks.kernel.router.registry.getByConnId bridgeConnId = some source ∧
          MaySend source frame cap := by
  obtain ⟨next, step, routed⟩ := @take_routes _ ctx framing limits bridge _ now _ _ idle waiting
    (acceptRegister_peer aimed unreserved.1)
  have gate : ∀ source, authorizeForward state.tasks.kernel.router.registry
      (BridgedTasks.received serial (bridge.localFrame ctx.wire frame)) cap = .ok source ↔
        state.tasks.kernel.router.registry.getByConnId bridgeConnId = some source ∧ MaySend source frame cap := by
    intro source
    rw [authorizeForward_default registered user]
    exact and_congr_right fun _ => maySend_localFrame
  constructor
  · rintro ⟨after, sent, moved, queue, _⟩
    cases step.symm.trans moved
    by_contra refused
    have aside := @unrouted_to_cap _ ctx now _ state.tasks.kernel.router cap aimed unreserved
      fun admitted source passed => refused ⟨admitted, source, (gate source).mp passed⟩
    have other : plugin.writeTx ≠ hostTx serial := by
      intro same
      exact apart (plugin.owned.symm.trans (congrArg Sender.conn same))
    rw [Tasks.net, Tasks.net, routed, aside.net _ other] at queue
    simp at queue
  · rintro ⟨admitted, source, allowed⟩
    refine ⟨next, (bridge.localFrame ctx.wire frame).stripMac, step, ?_, rfl, ?_⟩
    · rw [Tasks.net, routed]
      exact routed_to_cap aimed unreserved ((gate source).mpr allowed) registered admitted room
    · show frame.flags &&& ~~~flagMacPresent &&& ~~~flagMacPresent = frame.flags &&& ~~~flagMacPresent
      rw [UInt16.and_assoc, UInt16.and_self]

/-- In every run of a client kernel, a frame of the host for a mirrored capability takes the
way to the plugin of that name, unless its payload is one that the bridge sends to the
kernel. -/
theorem host_frames_delivered (ctx : Context β) (reads : ReadsTargets ctx.wire) (framing : Framing β)
    (limits : ConnectionLimits) (bridge : Bridge) (router : RouterState β)
    (idle : ∀ conns, router.bridge = some conns → conns = []) (state : BridgedTasks β)
    (run : Run (BridgedTasks.step ctx framing limits bridge) unguarded { tasks := { kernel := { router } } } state)
    (cap : String) (mirrored : cap ∈ bridge.config.mirror) (valid : validatePluginId cap = .ok ()) (frame : Frame β)
    (aimed : ctx.wire.targetAsStr frame.target = some (bridge.deviceId ++ "." ++ cap))
    (traffic : Bridge.isKernelRouted ctx.wire frame = false) :
    ReachesPlugin ctx framing limits bridge state frame cap := by
  have named := validatePluginId_ok valid
  have attached := Attached.run idle run
  have origins := Origins.run run
  have target : ctx.wire.targetAsStr (bridge.localFrame ctx.wire frame).target = some cap := by
    rw [localFrame_target traffic aimed]
    exact (named.addressable reads).back
  refine ⟨?_, fun _ _ holding room => enqueue_accepted attached origins holding room,
    fun _ _ _ queued step => stays_queued queued step, ?_, fun _ _ proxied => proxy_maySend proxied mirrored⟩
  · intro serial key reading whole genuine
    exact ⟨_, read_accepted reading whole genuine, rfl⟩
  · intro serial rest now plugin free waiting registered user apart room
    exact handsOver_iff target named.unreserved free waiting registered user apart room

end Path

section Den
open Scenario

def den : Bridge where
  deviceId := "den"
  config := { mirror := ["speaker"] }

abbrev denStep : BridgedTasks Packet → BridgedAction Packet → Option (BridgedTasks Packet) :=
  BridgedTasks.step fieldContext Packet.framing {} den

def welcome : Frame Packet :=
  buildFrame Packet.wire "client" 0 (.message { payload := some (.pluginRegisterAck
    { accepted := true, rejectReason := "", grantedPermissions := [], sessionNonce := [] }) })

def settlesIn : List (BridgedAction Packet) :=
  [.connect true, .register welcome start, .task (.accept 1 .ws),
    .task (.read 1 0 (hello 1 "speaker").frame), .task (.enqueue 1),
    .task (.take start), .task .acknowledge, .task .arm, .task .join]

def hostSays (flags : UInt16) (payload : Packet) : Frame Packet := buildFrame Packet.wire "den.speaker" flags payload

/-- Another task unregisters the device, and the bridge connects again. -/
def reconnects : List (BridgedAction Packet) :=
  [.task (.other (.stop "den")), .lose, .connect true, .register welcome start]

def atTheRouter (frame : Frame Packet) : Option (BridgedTasks Packet) :=
  exec denStep unguarded {} (settlesIn ++ reconnects ++ [.read frame, .enqueue])

def tone : Frame Packet := hostSays 0 (.raw [1])

def denEnd : BridgedTasks Packet := (atTheRouter tone).get (by decide +kernel)

theorem host_frames_delivered_den : ∃ next sent, denStep denEnd (.task (.take start)) = some next ∧
    (next.tasks.net { conn := 1 }).queue = (denEnd.tasks.net { conn := 1 }).queue ++ [.frame sent] ∧
    sent.payload = .raw [1] ∧ sent.flags = 0 := by
  have registered : denEnd.tasks.kernel.router.registry.get "speaker" = some _ :=
    (Option.some_get (by decide +kernel)).symm
  have known : denEnd.tasks.kernel.router.registry.getByConnId bridgeConnId = some _ :=
    (Option.some_get (by decide +kernel)).symm
  have reaches := host_frames_delivered fieldContext fieldContext_reads Packet.framing {} den {} (by simp) denEnd
    (exec_get_run (by decide +kernel)) "speaker" (by decide) (by decide +kernel) tone (by decide +kernel)
    (by decide +kernel)
  refine (reaches.delivered 1 [] start _ rfl rfl registered (by decide +kernel) (by decide +kernel)
    (by decide +kernel)).mpr ⟨by decide +kernel, _, known, (reaches.own 1 _ ?_).mpr (by decide +kernel)⟩
  exact ⟨by decide +kernel, by decide +kernel, by decide +kernel, by decide +kernel⟩

/-- Seen from the other tasks, the bridge does what its steps in their model allow. What none
of these can end, a deadlock of the router with a connection, it does not end either. -/
theorem bridged_run {β : Type} {ctx : Context β} {framing : Framing β} {limits : ConnectionLimits} {bridge : Bridge}
    {state next : BridgedTasks β} {guard} (run : Run (BridgedTasks.step ctx framing limits bridge) guard state next) :
    Run (Tasks.step ctx framing limits) unguarded state.tasks next.tasks ∧
      ∀ conn, conn ≠ bridgeConnId → Deadlocked ctx state.tasks conn → Deadlocked ctx next.tasks conn := by
  have inner : Run (Tasks.step ctx framing limits) unguarded state.tasks next.tasks := by
    apply run.project BridgedTasks.tasks
    intro before action after step
    cases (bridge_step step).inner with
    | same unchanged => exact .inl unchanged
    | task _ _ moved | bridge moved _ | enqueue _ moved => exact .inr ⟨_, moved⟩
  exact ⟨inner, fun _ apart deadlocked => deadlocked_forever apart deadlocked inner⟩

theorem bridged_run_den : Run (Tasks.step fieldContext Packet.framing {}) unguarded {} denEnd.tasks :=
  (bridged_run (exec_get_run (by decide +kernel) : Run denStep unguarded {} denEnd)).1

/-- Whether the plugin is registered with room in its channel when the router takes
the frame, and how many items its channel has more then. -/
def heard (frame : Frame Packet) : Option (Bool × Nat) :=
  (atTheRouter frame).bind fun waiting => (denStep waiting (.task (.take start))).map fun state =>
    ((waiting.tasks.kernel.router.registry.get "speaker").any (fun plugin => plugin.userId == "default") &&
        waiting.tasks.kernel.router.hasRoom { conn := 1 },
      (Mailboxes.added waiting.tasks.net state.tasks.net { conn := 1 }).length)

/-- A direct call of the capability goes to the local kernel instead, and raw audio is
refused. -/
theorem calls_and_audio_undelivered :
    heard (hostSays 0 (.message { payload := some (.actionRequest { actionId := "1", action := "" }) })) =
      some (true, 0) ∧
    heard (hostSays flagRawBinary (.raw [1])) = some (true, 0) := by
  decide +kernel

end Den
end Vynkor.Proofs
