import Vynkor.Proofs.WriteChannels

/-! One step of a client kernel, the connection to its host included. The bridge does
what its steps among the other tasks allow; while it is connected, its own entry is
in the registry unless another task removes it; and what waits for the router was
read from a connection or came from the host. -/

namespace Vynkor.Proofs
open RouterState Execution
variable {β : Type} {ctx : Context β} {framing : Framing β} {limits : ConnectionLimits} {bridge : Bridge}
  {state next : BridgedTasks β} {action : BridgedAction β} {delivered : Bool} {router : RouterState β}

inductive BridgeStep (ctx : Context β) (framing : Framing β) (limits : ConnectionLimits) (bridge : Bridge)
    (state : BridgedTasks β) : BridgedAction β → BridgedTasks β → Prop where
  | task {inner tasks} (apart : inner.isBridge = false)
      (took : state.tasks.step ctx framing limits inner = some tasks) :
      BridgeStep ctx framing limits bridge state (.task inner) { state with tasks }
  | waited {action : BridgedAction β} (mine : ∀ inner, action ≠ .task inner) :
      BridgeStep ctx framing limits bridge state action state
  | connected {delivered bytes} (before : state.host.task = .down) :
      BridgeStep ctx framing limits bridge state (.connect delivered)
        { state with host := { task := .registering, socket := [buildFrame ctx.wire "kernel" 0 bytes] } }
  | failed {action : BridgedAction β} (before : state.host.task = .registering) (mine : ∀ inner, action ≠ .task inner) :
      BridgeStep ctx framing limits bridge state action (state.setTask .down)
  | registered {frame moment kernel key} (before : state.host.task = .registering)
      (up : state.tasks.kernel.bridgeUp bridge.deviceId bridge.config.mirror moment = some kernel) :
      BridgeStep ctx framing limits bridge state (.register frame moment)
        ((state.setKernel kernel).setTask (.reading state.tasks.kernel.cycles key))
  | ended {action kernel serial key}
      (before : state.host.task = .reading serial key) (mine : ∀ inner, action ≠ .task inner)
      (down : state.tasks.kernel.bridgeDown = some kernel) :
      BridgeStep ctx framing limits bridge state action ((state.setKernel kernel).setTask .down)
  | read {frame serial key} (before : state.host.task = .reading serial key)
      (unmarked : frame.flags &&& flagFragmented = 0) :
      BridgeStep ctx framing limits bridge state (.read frame)
        (state.setTask (.holding serial key (bridge.localFrame ctx.wire frame)))
  | enqueued {serial key frame kernel} (holding : state.host.task = .holding serial key frame)
      (received : state.tasks.kernel.receive ctx (BridgedTasks.received serial frame) = some kernel) :
      BridgeStep ctx framing limits bridge state .enqueue ((state.setKernel kernel).setTask (.reading serial key))
  | skipped {delivered tx key} (live : state.host.task.channel = some (tx, key)) :
      BridgeStep ctx framing limits bridge state (.write delivered) (state.setNet (state.tasks.net.drain tx))
  | wrote {delivered tx key frame rest}
      (live : state.host.task.channel = some (tx, key)) (queue : (state.tasks.net tx).queue = .frame frame :: rest) :
      BridgeStep ctx framing limits bridge state (.write delivered)
        { state.setNet (state.tasks.net.drain tx) with
          host := { state.host with socket := state.host.socket ++ [Bridge.hostFrame ctx.wire framing key frame] } }
  | lost {delivered tx key} (live : state.host.task.channel = some (tx, key)) :
      BridgeStep ctx framing limits bridge state (.write delivered) (state.setNet (state.tasks.net.close tx))

theorem connect_some (took : state.connect ctx bridge delivered = some next) :
    BridgeStep ctx framing limits bridge state (.connect delivered) next := by
  simp only [BridgedTasks.connect] at took
  split at took
  next before =>
    split at took
    · cases took
      exact .waited (by simp)
    · split at took
      · cases took
        exact .connected before
      · cases took
        exact .waited (by simp)
  · cases took

theorem register_some {frame moment} (took : state.register ctx bridge frame moment = some next) :
    BridgeStep ctx framing limits bridge state (.register frame moment) next := by
  simp only [BridgedTasks.register] at took
  split at took
  next before =>
    have failed : BridgeStep ctx framing limits bridge state (.register frame moment) (state.setTask .down) :=
      .failed before (by simp)
    split at took
    · cases took
      exact failed
    · split at took
      · cases took
        exact failed
      · split at took
        · split at took
          next _ up =>
            cases took
            exact .registered before up
          · cases took
            exact failed
        · cases took
          exact failed
        · cases took
          exact .waited (by simp)
  · cases took

theorem disconnect_some {serial key} (before : state.host.task = .reading serial key)
    (mine : ∀ inner, action ≠ .task inner) (took : state.disconnect = some next) :
    BridgeStep ctx framing limits bridge state action next := by
  obtain ⟨kernel, down, rfl⟩ := Option.map_eq_some_iff.mp took
  exact .ended before mine down

theorem bridged_read_some {frame} (took : state.read ctx framing bridge frame = some next) :
    BridgeStep ctx framing limits bridge state (.read frame) next := by
  simp only [BridgedTasks.read] at took
  split at took
  next before =>
    split at took
    · exact disconnect_some before (by simp) took
    next unmarked =>
      split at took
      · exact disconnect_some before (by simp) took
      · cases took
        exact .read before (by simpa using unmarked)
  · cases took

theorem bridged_enqueue_some (took : state.enqueue ctx = some next) :
    BridgeStep ctx framing limits bridge state .enqueue next := by
  simp only [BridgedTasks.enqueue] at took
  split at took
  next holding =>
    obtain ⟨kernel, received, rfl⟩ := Option.map_eq_some_iff.mp took
    exact .enqueued holding received
  · cases took

theorem bridged_write_some (took : state.write ctx framing delivered = some next) :
    BridgeStep ctx framing limits bridge state (.write delivered) next := by
  simp only [BridgedTasks.write] at took
  split at took
  · cases took
  next live =>
    split at took
    · cases took
    · cases took
      exact .skipped live
    next queue =>
      split at took
      · cases took
        exact .wrote live queue
      · cases took
        exact .lost live

theorem lose_some (took : state.lose = some next) : BridgeStep ctx framing limits bridge state .lose next := by
  simp only [BridgedTasks.lose] at took
  split at took
  next before =>
    cases took
    exact .failed before (by simp)
  next before => exact disconnect_some before (by simp) took
  · cases took

theorem bridge_step (took : state.step ctx framing limits bridge action = some next) :
    BridgeStep ctx framing limits bridge state action next := by
  cases action with
  | task inner =>
    simp only [BridgedTasks.step] at took
    split at took
    · cases took
    next apart =>
      obtain ⟨tasks, moved, rfl⟩ := Option.map_eq_some_iff.mp took
      exact .task (by simpa using apart) moved
  | connect => exact connect_some took
  | register => exact register_some took
  | read => exact bridged_read_some took
  | enqueue => exact bridged_enqueue_some took
  | write => exact bridged_write_some took
  | lose => exact lose_some took

/-- What a step is to the tasks other than the bridge: one of theirs, or one that the
bridge takes in their model. -/
inductive Inner (ctx : Context β) (framing : Framing β) (limits : ConnectionLimits) (state : BridgedTasks β)
    (action : BridgedAction β) (tasks : Tasks β) : Prop where
  | same (unchanged : tasks = state.tasks)
  | task {inner} (mine : action = .task inner) (apart : inner.isBridge = false)
      (took : state.tasks.step ctx framing limits inner = some tasks)
  | bridge {inner} (took : state.tasks.step ctx framing limits (.other inner) = some tasks)
      (silent : ∀ msg, inner ≠ .receive msg)
  | enqueue {serial key frame} (holding : state.host.task = .holding serial key frame)
      (took : state.tasks.step ctx framing limits (.other (.receive (BridgedTasks.received serial frame))) = some tasks)

theorem channel_own {task : BridgeTask β} {tx : Sender} {key : Option Bytes} (live : task.channel = some (tx, key)) :
    (tx.conn == bridgeConnId) = true := by
  cases task with
  | down | registering => cases live
  | reading serial | holding serial =>
    cases live
    exact beq_self_eq_true _

theorem BridgeStep.inner (step : BridgeStep ctx framing limits bridge state action next) :
    Inner ctx framing limits state action next.tasks := by
  cases step with
  | task apart took => exact .task rfl apart took
  | waited | connected | failed | read => exact .same rfl
  | @registered _ moment kernel key _ up =>
    have took : state.tasks.step ctx framing limits
        (.other (.bridgeUp bridge.deviceId bridge.config.mirror moment)) = some { state.tasks with kernel } := by
      show (state.tasks.kernel.bridgeUp _ _ _).map _ = _
      rw [up]
      rfl
    exact .bridge took (by simp)
  | @ended _ kernel _ _ _ _ down =>
    have took : state.tasks.step ctx framing limits (.other .bridgeDown) = some { state.tasks with kernel } := by
      show state.tasks.kernel.bridgeDown.map _ = _
      rw [down]
      rfl
    exact .bridge took (by simp)
  | @enqueued serial key frame kernel holding received =>
    have took : state.tasks.step ctx framing limits (.other (.receive (BridgedTasks.received serial frame))) =
        some { state.tasks with kernel } := by
      show (state.tasks.kernel.receive _ _).map _ = _
      rw [received]
      rfl
    exact .enqueue holding took
  | @skipped _ tx _ live | @wrote _ tx _ _ _ live =>
    have took : state.tasks.step ctx framing limits (.other (.drain tx)) =
        some (state.tasks.setNet (state.tasks.net.drain tx)) := if_pos (channel_own live)
    exact .bridge took (by simp)
  | @lost _ tx _ live =>
    have took : state.tasks.step ctx framing limits (.other (.close tx)) =
        some (state.tasks.setNet (state.tasks.net.close tx)) := if_pos (channel_own live)
    exact .bridge took (by simp)

section Aside
variable {state next : Tasks β} {action : TaskAction β} {moment : Moment}

/-- What a step of another task leaves of the bridge, and what it makes of the
registry. -/
structure SparesBridge (ctx : Context β) (state : Tasks β) (action : TaskAction β) (next : Tasks β) : Prop where
  link : next.kernel.link = state.kernel.link
  cycles : next.kernel.cycles = state.kernel.cycles
  handle : next.kernel.router.bridge = state.kernel.router.bridge
  registry : ∃ inner, RegistryStep ctx state.kernel inner next.kernel.router.registry ∧
    ∀ id, removes state.kernel inner = some id → action = .other inner

theorem SparesBridge.of_same (link : next.kernel.link = state.kernel.link)
    (cycles : next.kernel.cycles = state.kernel.cycles)
    (handle : next.kernel.router.bridge = state.kernel.router.bridge)
    (registry : next.kernel.router.registry = state.kernel.router.registry) : SparesBridge ctx state action next :=
  ⟨link, cycles, handle, .spawn "", registry ▸ .same, by simp [removes]⟩

theorem elsewhere_spares {kernel inner} (elsewhere : inner.isElsewhere = true)
    (apart : (TaskAction.other inner).isBridge = false) (moved : state.kernel.step ctx inner = some kernel) :
    SparesBridge ctx state (.other inner) { state with kernel } := by
  have registry := step_registry moved
  suffices same : kernel.link = state.kernel.link ∧ kernel.cycles = state.kernel.cycles ∧
      kernel.router.bridge = state.kernel.router.bridge from
    ⟨same.1, same.2.1, same.2.2, inner, registry, fun _ _ => rfl⟩
  cases kernel_step moved with
  | accept | hangup | route | prune => cases elsewhere
  | receive | drain | close | bridgeUp | bridgeDown => cases apart
  | @publishLeft _ moment | @publishDied _ moment =>
    exact ⟨rfl, rfl, (publish_frames ctx moment state.kernel.router _).bridge⟩
  | ping told =>
    have talk : Talk Anything state.kernel.router _ := told fun _ _ _ => trivial
    exact ⟨rfl, rfl, talk.bridge⟩
  | _ => exact ⟨rfl, rfl, rfl⟩

theorem take_spares (taken : Takes ctx moment state next) :
    SparesBridge ctx state (.take moment) next := by
  cases taken with
  | @accepted msg rest joining router _ waiting accepted =>
    obtain ⟨register, manifest, checks⟩ := acceptRegister_some accepted
    obtain ⟨envelope, decoded, holds, _⟩ := checks.asked
    have arrived : ToKernel ctx msg (.pluginRegister register) := ⟨checks.addressed, envelope, decoded, holds⟩
    have handle : router.bridge = state.kernel.router.bridge := by
      obtain ⟨calls, quiet⟩ := checkIpcRate_quiet ctx moment msg state.kernel.router
      rw [checks.kept, quiet]
      rfl
    exact ⟨rfl, rfl, handle, .route moment, .routed rfl waiting (.registered checks.done arrived checks.passed),
      by simp [removes]⟩
  | @routed msg rest _ waiting _ =>
    have routed := routeMessage_routed ctx moment msg state.kernel.router
    have handle : (state.kernel.router.routeMessage ctx moment msg).1.bridge = state.kernel.router.bridge := by
      obtain ⟨calls, quiet⟩ := checkIpcRate_quiet ctx moment msg state.kernel.router
      rw [routed.bridge, quiet]
    exact ⟨rfl, rfl, handle, .route moment, .routed rfl waiting routed.registry, by simp [removes]⟩

theorem pruneTick_bridge (ctx : Context β) (moment : Moment) (st : RouterState β) :
    (st.pruneTick ctx moment).bridge = st.bridge := by
  obtain ⟨_, _, idle⟩ := sweepIdle_talk ctx moment (st.sweepExpired ctx moment)
  exact idle.bridge.trans (sweepExpired_talk ctx moment st).bridge

theorem joinStep_keeps (ctx : Context β) (joining : Registering β) (st : RouterState β) :
    (st.joinStep ctx joining).bridge = st.bridge ∧ (st.joinStep ctx joining).registry = st.registry := by
  have talk : Conveys Anything st (st.publishJoined ctx joining.moment joining.pluginId) :=
    publish_conveys fun _ _ _ => trivial
  obtain ⟨counts, quiet⟩ := recordOutcome_quiet ctx joining.moment joining.msg
    (st.publishJoined ctx joining.moment joining.pluginId) false
  rw [joinStep, quiet]
  exact ⟨talk.bridge, talk.registry⟩

theorem step_spares (took : state.step ctx framing limits action = some next) (apart : action.isBridge = false) :
    SparesBridge ctx state action next := by
  cases action with
  | accept =>
    obtain ⟨kernel, accepted, rfl⟩ := Option.map_eq_some_iff.mp took
    obtain ⟨_, _, rfl⟩ := accept_some accepted
    exact .of_same rfl rfl rfl rfl
  | read =>
    obtain ⟨_, _⟩ := read_some took
    exact .of_same rfl rfl rfl rfl
  | leave =>
    obtain ⟨_, _⟩ := leave_some took
    exact .of_same rfl rfl rfl rfl
  | enqueue =>
    obtain ⟨_, kernel, _, received, rfl⟩ := enqueue_some took
    obtain ⟨_, rfl⟩ := receive_some received
    exact .of_same rfl rfl rfl rfl
  | refuse =>
    obtain ⟨_, _, _, rfl⟩ := refuse_some took
    exact .of_same rfl rfl rfl rfl
  | hangup =>
    obtain ⟨kernel, ended, leaves⟩ := hangup_cases took
    obtain ⟨_, _, _, rfl⟩ := hangup_some ended
    rcases leaves with rfl | rfl
    · exact .of_same rfl rfl rfl rfl
    · exact .of_same rfl rfl rfl rfl
  | write =>
    cases write_some took <;> exact .of_same rfl rfl rfl rfl
  | take => exact take_spares (tasks_take_some took)
  | acknowledge =>
    obtain ⟨joining, _, rfl⟩ := acknowledge_some took
    have talk : Talk Anything state.kernel.router (state.kernel.router.acknowledgeStep ctx joining) :=
      sendEnvelope_talk rfl fun _ _ => trivial
    exact .of_same rfl rfl talk.bridge talk.registry
  | arm =>
    obtain ⟨joining, _, _, rfl⟩ := arm_some took
    have talk : Talk Anything state.kernel.router (state.kernel.router.armStep ctx joining) :=
      enableMac_talk fun _ => trivial
    exact .of_same rfl rfl talk.bridge talk.registry
  | join =>
    obtain ⟨joining, _, rfl⟩ := join_some took
    have kept := joinStep_keeps ctx joining state.kernel.router
    exact .of_same rfl rfl kept.1 kept.2
  | prune moment =>
    obtain ⟨_, rfl⟩ := prune_some took
    have swept := pruneTick_swept ctx moment state.kernel.router
    exact ⟨rfl, rfl, pruneTick_bridge ctx moment state.kernel.router, .spawn "", .swept swept, by simp [removes]⟩
  | redeliver event moment =>
    cases took
    have talk : Talk Anything state.kernel.router (state.kernel.router.deliver ctx moment event) :=
      deliver_talk fun _ _ _ => trivial
    exact .of_same rfl rfl talk.bridge talk.registry
  | notifyShutdown =>
    obtain ⟨_, _, rfl⟩ := notifyShutdown_some took
    exact .of_same rfl rfl rfl rfl
  | other inner =>
    obtain ⟨kernel, elsewhere, moved, rfl⟩ := other_some took
    exact elsewhere_spares elsewhere apart moved

end Aside

/-- The entry under which the device is registered while it is connected. -/
structure IsProxy (bridge : Bridge) (serial : Nat) (entry : PluginEntry) : Prop where
  connId : entry.connId = bridgeConnId
  channel : entry.writeTx = hostTx serial
  manifest : entry.manifest = { ipcTargets := bridge.config.mirror, permissions := ["PERMISSION_IPC_SEND"] }
  user : entry.userId = "default"

/-- The bridge task, the link of the kernel and the handle of the router agree. -/
structure Attached (bridge : Bridge) (state : BridgedTasks β) : Prop where
  task : state.tasks.kernel.link = state.host.task.channel.map fun (tx, _) => (bridge.deviceId, tx.serial)
  handle : ∀ conns, state.tasks.kernel.router.bridge = some conns →
    conns = (state.host.task.channel.map Prod.fst).toList

/-- So does the entry in the registry. -/
structure InTouch (bridge : Bridge) (state : BridgedTasks β) : Prop extends Attached bridge state where
  entry : ∀ tx key, state.host.task.channel = some (tx, key) → ∃ entry,
    state.tasks.kernel.router.registry.get bridge.deviceId = some entry ∧ IsProxy bridge tx.serial entry

def sparesDevice (bridge : Bridge) (state : BridgedTasks β) : BridgedAction β → Bool
  | .task (.other inner) => removes state.tasks.kernel inner != some bridge.deviceId
  | _ => true

theorem bridgeUp_proxy {moment : Moment} {kernel up : Kernel β}
    (done : kernel.bridgeUp bridge.deviceId bridge.config.mirror moment = some up) :
    up.link = some (bridge.deviceId, kernel.cycles) ∧ kernel.link = none ∧
    up.router.bridge = kernel.router.bridge.map (fun conns => conns ++ [hostTx kernel.cycles]) ∧
    ∃ entry, up.router.registry.get bridge.deviceId = some entry ∧ IsProxy bridge kernel.cycles entry := by
  obtain ⟨free, registry, registered, rfl⟩ := bridgeUp_some done
  have stored := (insertEntry_ok registered).get bridge.deviceId
  rw [if_pos rfl] at stored
  exact ⟨rfl, free, rfl, _, stored, rfl, rfl, rfl, rfl⟩

theorem Attached.carry (attached : Attached bridge state) (channel : next.host.task.channel = state.host.task.channel)
    (link : next.tasks.kernel.link = state.tasks.kernel.link)
    (handle : next.tasks.kernel.router.bridge = state.tasks.kernel.router.bridge) : Attached bridge next := by
  refine ⟨?_, ?_⟩
  · rw [link, channel]
    exact attached.task
  · rw [handle, channel]
    exact attached.handle

theorem Attached.step (attached : Attached bridge state) (took : state.step ctx framing limits bridge action = some next) :
    Attached bridge next := by
  cases bridge_step took with
  | task apart moved =>
    have spared := step_spares moved apart
    exact attached.carry rfl spared.link spared.handle
  | waited => exact attached
  | connected before | failed before | read before =>
    refine attached.carry ?_ rfl rfl
    rw [before]
    rfl
  | @registered frame moment kernel key before up =>
    obtain ⟨link, free, handle, _⟩ := bridgeUp_proxy up
    refine ⟨link, ?_⟩
    intro conns now
    obtain ⟨old, known, rfl⟩ := Option.map_eq_some_iff.mp (handle.symm.trans now)
    rw [attached.handle old known, before]
    rfl
  | @ended _ kernel serial key before _ down =>
    have link := attached.task
    rw [before] at link
    obtain ⟨_, known, rfl⟩ := Option.map_eq_some_iff.mp down
    cases known.symm.trans link
    refine ⟨rfl, ?_⟩
    intro conns now
    obtain ⟨old, known, rfl⟩ := Option.map_eq_some_iff.mp now
    rw [attached.handle old known, before]
    simp [BridgeTask.channel, BridgedTasks.setTask, hostTx]
  | enqueued holding received =>
    obtain ⟨_, rfl⟩ := receive_some received
    refine attached.carry ?_ rfl rfl
    rw [holding]
    rfl
  | skipped | wrote | lost => exact attached.carry rfl rfl rfl

theorem Attached.run {guard} (idle : ∀ conns, router.bridge = some conns → conns = [])
    (run : Run (BridgedTasks.step ctx framing limits bridge) guard { tasks := { kernel := { router } } } state) :
    Attached bridge state :=
  run.preserves ⟨rfl, idle⟩ fun _ _ _ _ took attached => attached.step took

theorem InTouch.step (touch : InTouch bridge state) (allowed : sparesDevice bridge state action = true)
    (took : state.step ctx framing limits bridge action = some next) : InTouch bridge next := by
  refine ⟨touch.toAttached.step took, ?_⟩
  intro tx key live
  cases bridge_step took with
  | @task inner tasks apart moved =>
    obtain ⟨entry, found, proxy⟩ := touch.entry tx key live
    obtain ⟨action, registry, only⟩ := (step_spares moved apart).registry
    rcases registry.keeps found with kept | gone
    · exact ⟨entry, kept, proxy⟩
    · cases only _ gone
      simp [sparesDevice, gone] at allowed
  | waited | skipped | wrote | lost => exact touch.entry tx key live
  | connected | failed | ended => cases live
  | registered before up =>
    obtain ⟨_, _, _, entry, found, proxy⟩ := bridgeUp_proxy up
    cases live
    exact ⟨entry, found, proxy⟩
  | read before =>
    cases live
    exact touch.entry _ _ (by rw [before]; rfl)
  | enqueued holding received =>
    obtain ⟨_, rfl⟩ := receive_some received
    cases live
    exact touch.entry _ _ (by rw [holding]; rfl)

theorem InTouch.initial (idle : ∀ conns, router.bridge = some conns → conns = []) :
    InTouch bridge { tasks := { kernel := { router } } } :=
  ⟨⟨rfl, idle⟩, by simp [BridgeTask.channel]⟩

theorem InTouch.sender (touch : InTouch bridge state) {tx key}
    (live : state.host.task.channel = some (tx, key)) : ∃ entry,
      state.tasks.kernel.router.registry.getByConnId bridgeConnId = some entry ∧ IsProxy bridge tx.serial entry := by
  obtain ⟨entry, found, proxy⟩ := touch.entry tx key live
  exact ⟨entry, PluginRegistry.getByConnId_eq_some.mpr ⟨PluginRegistry.get_registered found, proxy.connId⟩, proxy⟩

section Locals
variable {tasks after : Tasks β} {action : TaskAction β} {conn : Nat} {msg : IncomingMessage β}

/-- The connection is one that the kernel has accepted; it may be over. -/
def IsLocal (tasks : Tasks β) (conn : Nat) : Prop := ∃ connection, tasks.kernel.connections.get conn = some connection

/-- What waits at a connection was read from it, and the bridge is none of them. -/
structure LocalReads (tasks : Tasks β) : Prop where
  apart : tasks.kernel.connections.get bridgeConnId = none
  held : ∀ conn msg, (tasks.links conn).task = .holding msg → msg.connId = conn ∧ IsLocal tasks conn

theorem IsLocal.stays (known : IsLocal tasks conn) (took : tasks.step ctx framing limits action = some after) :
    IsLocal after conn := by
  obtain ⟨connection, found⟩ := known
  obtain ⟨ended, kept⟩ := (step_frame took).connections.keeps found
  exact ⟨_, kept⟩

theorem opened_isLocal {transport} (opened : tasks.opened conn = some transport) : IsLocal tasks conn := by
  simp only [Tasks.opened] at opened
  split at opened
  next connection found => exact ⟨connection, found⟩
  · cases opened

theorem read_holds {now frame} (took : tasks.read ctx framing limits conn now frame = some after)
    (holding : (after.links conn).task = .holding msg) : msg.connId = conn ∧ IsLocal tasks conn := by
  simp only [Tasks.read] at took
  split at took
  next opened reading =>
    have known := opened_isLocal opened
    split at took <;> cases took <;> simp [Tasks.setTask, setLink_self, reading] at holding
    exact ⟨by rw [← holding]; rfl, known⟩
  next opened reading =>
    have known := opened_isLocal opened
    split at took
    · cases took
    · split at took <;> cases took <;> simp [Tasks.setTask, setLink_self] at holding
      exact ⟨by rw [← holding]; rfl, known⟩
  · cases took

theorem leave_holds (took : tasks.leave conn = some after) : (after.links conn).task ≠ .holding msg := by
  simp only [Tasks.leave] at took
  split at took
  · cases took
    simp [Tasks.setTask, setLink_self]
  · cases took

theorem Writes.holds (written : Writes framing conn tasks after) (holding : (after.links conn).task = .holding msg) :
    (tasks.links conn).task = .holding msg := by
  cases written with
  | installed | written =>
    rw [setLink_self] at holding
    exact holding
  | skipped | closed => exact holding
  | lost => simp [Tasks.setTask, setLink_self] at holding

section
variable (reads : LocalReads tasks) (took : tasks.step ctx framing limits action = some after)
include reads took

theorem LocalReads.touched (mine : touches action = some conn) (holding : (after.links conn).task = .holding msg) :
    msg.connId = conn ∧ IsLocal tasks conn := by
  cases action with
  | read =>
    cases mine
    exact read_holds took holding
  | leave =>
    cases mine
    exact absurd holding (leave_holds took)
  | enqueue =>
    cases mine
    obtain ⟨_, _, _, _, rfl⟩ := enqueue_some took
    simp [Tasks.setTask, setLink_self] at holding
  | refuse =>
    cases mine
    obtain ⟨_, _, _, rfl⟩ := refuse_some took
    simp [Tasks.setTask, setLink_self] at holding
  | write =>
    cases mine
    exact reads.held conn msg ((write_some took).holds holding)
  | _ => cases mine

theorem LocalReads.step : LocalReads after := by
  refine ⟨(step_frame took).connections.apart reads.apart, ?_⟩
  intro conn msg holding
  have before : msg.connId = conn ∧ IsLocal tasks conn := by
    by_cases mine : touches action = some conn
    · exact reads.touched took mine holding
    · rw [(step_frame took).links conn mine] at holding
      exact reads.held conn msg holding
  exact ⟨before.1, before.2.stays took⟩

end

end Locals

structure Origins (wire : Wire β) (bridge : Bridge) (state : BridgedTasks β) : Prop extends LocalReads state.tasks where
  hostHeld : ∀ serial key frame, state.host.task = .holding serial key frame →
    ∃ original, frame = bridge.localFrame wire original
  queued : ∀ msg ∈ state.tasks.kernel.incoming, IsLocal state.tasks msg.connId ∨
    ∃ serial original, msg = BridgedTasks.received serial (bridge.localFrame wire original)

theorem Origins.initial (wire : Wire β) (bridge : Bridge) (router : RouterState β) :
    Origins wire bridge { tasks := { kernel := { router } } } :=
  ⟨⟨rfl, by simp⟩, by simp, by simp⟩

theorem Origins.tasks_queued (origins : Origins ctx.wire bridge state) {inner tasks}
    (took : state.tasks.step ctx framing limits inner = some tasks)
    (bridged : ∀ msg, inner = .other (.receive msg) →
      ∃ serial original, msg = BridgedTasks.received serial (bridge.localFrame ctx.wire original)) :
    ∀ msg ∈ tasks.kernel.incoming, IsLocal tasks msg.connId ∨
      ∃ serial original, msg = BridgedTasks.received serial (bridge.localFrame ctx.wire original) := by
  intro msg member
  have old : msg ∈ state.tasks.kernel.incoming → IsLocal tasks msg.connId ∨
      ∃ serial original, msg = BridgedTasks.received serial (bridge.localFrame ctx.wire original) :=
    fun queued => (origins.queued msg queued).imp_left fun known => known.stays took
  have queue := (step_frame took).incoming
  generalize tasks.kernel.incoming = incoming at queue member
  cases queue with
  | same => exact old member
  | taken _ waiting => exact old (by simp [waiting, member])
  | held holding =>
    rcases List.mem_append.mp member with queued | new
    · exact old queued
    · cases List.mem_singleton.mp new
      obtain ⟨own, known⟩ := origins.held _ _ holding
      exact .inl (own ▸ known.stays took)
  | bridged mine =>
    rcases List.mem_append.mp member with queued | new
    · exact old queued
    · cases List.mem_singleton.mp new
      exact .inr (bridged msg mine)

theorem Origins.step (origins : Origins ctx.wire bridge state)
    (took : state.step ctx framing limits bridge action = some next) : Origins ctx.wire bridge next := by
  have step := bridge_step took
  have hostHeld : ∀ serial key frame, next.host.task = .holding serial key frame →
      ∃ original, frame = bridge.localFrame ctx.wire original := by
    intro serial key frame holding
    cases step with
    | task | waited | skipped | wrote | lost => exact origins.hostHeld serial key frame holding
    | connected | failed | registered | ended | enqueued => cases holding
    | read =>
      cases holding
      exact ⟨_, rfl⟩
  cases step.inner with
  | same unchanged => exact ⟨unchanged ▸ origins.toLocalReads, hostHeld, unchanged ▸ origins.queued⟩
  | task _ apart moved =>
    refine ⟨origins.toLocalReads.step moved, hostHeld, origins.tasks_queued moved ?_⟩
    rintro msg rfl
    cases apart
  | bridge moved silent =>
    refine ⟨origins.toLocalReads.step moved, hostHeld, origins.tasks_queued moved ?_⟩
    rintro msg ⟨rfl⟩
    exact absurd rfl (silent msg)
  | @enqueue serial key frame holding moved =>
    refine ⟨origins.toLocalReads.step moved, hostHeld, origins.tasks_queued moved ?_⟩
    rintro msg ⟨rfl⟩
    obtain ⟨original, rfl⟩ := origins.hostHeld serial key frame holding
    exact ⟨serial, original, rfl⟩

theorem Origins.run {guard router}
    (run : Run (BridgedTasks.step ctx framing limits bridge) guard { tasks := { kernel := { router } } } state) :
    Origins ctx.wire bridge state := by
  apply run.preserves
  · exact .initial ctx.wire bridge router
  intro before action after _ took origins
  exact origins.step took

theorem Origins.from_host (origins : Origins ctx.wire bridge state) {msg}
    (queued : msg ∈ state.tasks.kernel.incoming) (own : msg.connId = bridgeConnId) :
    ∃ serial original, msg = BridgedTasks.received serial (bridge.localFrame ctx.wire original) := by
  rcases origins.queued msg queued with ⟨connection, found⟩ | host
  · rw [own, origins.apart] at found
    cases found
  · exact host

end Vynkor.Proofs
