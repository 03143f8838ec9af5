import Vynkor.Orchestrator
import Vynkor.Proofs.RegistryOps

/-! One step of the running kernel, seen from the registry and the event bus.
Only the router, the bridge, the manager and the last step of a disconnect loop
change the registry. -/

namespace Vynkor.Proofs
open RouterState
variable {β : Type} {ctx : Context β} {kernel next : Kernel β}

section Prune
variable {now : Moment} {st : RouterState β}

/-- Sends of unspecified content. -/
abbrev Anything (_ : Sender) (_ : Outbound β) : Prop := True

/-- The frames that tell a party of a running action about it. -/
abbrev Notice (ctx : Context β) (_ : Sender) (item : Outbound β) : Prop :=
  ∃ payload, isNotice payload = true ∧ Carries ctx payload item

theorem answerExpired_talk {expired} :
    Talk (Notice ctx) st (answerExpired ctx now expired st) := by
  induction expired generalizing st with
  | nil => exact .refl st
  | cons pending rest ih =>
    have told : Talk (Notice ctx) st (st.sendEnvelope ctx now pending.requesterWriteTx {
        payload := some (.actionResponse
          { actionId := pending.originalActionId, status := .timeout, error := "action timed out" }) }) :=
      sendEnvelope_talk rfl fun _ carries => ⟨_, rfl, carries⟩
    exact told.trans ih

theorem endIdle_talk {idle} : Talk (Notice ctx) st (endIdle ctx now idle st) := by
  induction idle generalizing st with
  | nil => exact .refl st
  | cons session rest ih =>
    obtain ⟨internalId, pending⟩ := session
    have told : Talk (Notice ctx) st (st.notifyForcedTermination ctx now internalId pending "idle timeout") :=
      notifyForcedTermination_talk (fun payload _ notice carries => ⟨payload, notice, carries⟩)
        fun _ _ _ carries => ⟨_, rfl, carries⟩
    exact told.trans ih

structure Swept (before after : PluginRegistry) : Prop where
  rest : after = { before with pendingActions := after.pendingActions }
  fewer : ∀ key pending, after.getPendingAction key = some pending → before.getPendingAction key = some pending

theorem Swept.trans {before middle after} (first : Swept before middle) (last : Swept middle after) :
    Swept before after := by
  refine ⟨?_, fun key pending found => first.fewer key pending (last.fewer key pending found)⟩
  have same := last.rest
  rw [first.rest] at same
  exact same

theorem takeEach_fewer (keys : List String) (pendingActions : DashMap String PendingAction) (key : String)
    (pending : PendingAction) (found : (takeEach pendingActions keys).1.get key = some pending) :
    pendingActions.get key = some pending := by
  induction keys generalizing pendingActions with
  | nil => exact found
  | cons first rest ih =>
    have kept : (takeEach (pendingActions.erase first) rest).1.get key = some pending := by
      simp only [takeEach] at found
      split at found <;> exact found
    exact (DashMap.get_erase_eq_some.mp (ih (pendingActions.erase first) kept)).2

section
variable (ctx : Context β) (now : Moment) (st : RouterState β)

theorem sweepExpired_talk :
    Talk (Notice ctx) (st.setRegistry (st.registry.sweepExpiredActions now.instant).1) (st.sweepExpired ctx now) :=
  answerExpired_talk

theorem sweepExpired_swept : Swept st.registry (st.sweepExpired ctx now).registry := by
  rw [(sweepExpired_talk ctx now st).registry]
  exact ⟨rfl, takeEach_fewer _ _⟩

theorem sweepIdle_talk :
    ∃ registry, Swept st.registry registry ∧ Talk (Notice ctx) (st.setRegistry registry) (st.sweepIdle ctx now) := by
  simp only [sweepIdle]
  split
  · exact ⟨st.registry, ⟨rfl, fun _ _ => id⟩, .refl st⟩
  next idleSecs _ =>
    exact ⟨(st.registry.sweepIdleSessions now.instant (fromSecs idleSecs)).1, ⟨rfl, takeEach_fewer _ _⟩, endIdle_talk⟩

theorem sweepIdle_swept : Swept st.registry (st.sweepIdle ctx now).registry := by
  obtain ⟨_, swept, talk⟩ := sweepIdle_talk ctx now st
  rw [talk.registry]
  exact swept

theorem pruneTick_swept : Swept st.registry (st.pruneTick ctx now).registry :=
  (sweepExpired_swept ctx now st).trans (sweepIdle_swept ctx now (st.sweepExpired ctx now))

theorem pruneTick_notices : Mailboxes.Adds (Notice ctx) st.net (st.pruneTick ctx now).net ∧
      (st.pruneTick ctx now).errorCounts = st.errorCounts := by
  have expired := sweepExpired_talk ctx now st
  obtain ⟨_, _, idle⟩ := sweepIdle_talk ctx now (st.sweepExpired ctx now)
  exact ⟨expired.sends.trans idle.sends, idle.budgets.trans expired.budgets⟩

theorem pruneTick_frames : Mailboxes.Adds (Built ctx) st.net (st.pruneTick ctx now).net := by
  apply (pruneTick_notices ctx now st).1.mono
  intro tx item told
  obtain ⟨_, _, carries⟩ := told
  exact carries.built

end

end Prune

section Publish
variable (ctx : Context β) (now : Moment) (st : RouterState β) (event : Event)

theorem publish_frames : Conveys (Built ctx) st (st.publish ctx now event) :=
  publish_conveys fun _ _ carries => carries.built

theorem publish_registry : (st.publish ctx now event).registry = st.registry :=
  (publish_frames ctx now st event).registry

theorem publish_bus : (st.publish ctx now event).bus = st.bus := (publish_frames ctx now st event).bus

end Publish

section Inversion
variable {conn : Nat} {transport : Transport}

theorem accept_some (took : kernel.accept conn transport = some next) :
    kernel.connections.get conn = none ∧ conn ≠ bridgeConnId ∧
      next = { kernel with connections := kernel.connections.insert conn { transport } } := by
  simp only [Kernel.accept] at took
  split at took
  next fresh => exact ⟨fresh.1, fresh.2, (Option.some.inj took).symm⟩
  · cases took

theorem receive_some {msg} (took : kernel.receive ctx msg = some next) :
    kernel.isOpen msg.connId msg.writeTx = true ∧ next = { kernel with incoming := kernel.incoming ++ [msg] } := by
  simp only [Kernel.receive] at took
  split at took
  next opened => exact ⟨opened.1, (Option.some.inj took).symm⟩
  · cases took

theorem hangup_some (took : kernel.hangup conn = some next) :
    ∃ connection, kernel.connections.get conn = some connection ∧ connection.ended = false ∧
      next = { kernel with
        connections := kernel.connections.insert conn { connection with ended := true } }.setLoop connection.transport
          { kernel.loops connection.transport with queue := (kernel.loops connection.transport).queue ++ [conn] } := by
  simp only [Kernel.hangup] at took
  split at took
  · cases took
  next connection found =>
    split at took
    · cases took
    next running =>
      refine ⟨connection, found, ?_, (Option.some.inj took).symm⟩
      simpa using fun ended => running (.inl ended)

theorem route_some {now} (took : kernel.route ctx now = some next) :
    ∃ msg rest, kernel.incoming = msg :: rest ∧
      next = { kernel with router := (kernel.router.routeMessage ctx now msg).1, incoming := rest } := by
  simp only [Kernel.route] at took
  split at took
  · cases took
  next msg rest head => exact ⟨msg, rest, head, (Option.some.inj took).symm⟩

theorem take_some (took : kernel.take transport = some next) :
    ∃ conn rest hand, kernel.loops transport = { queue := conn :: rest, hand := none } ∧
      next = kernel.setLoop transport { queue := rest, hand } ∧
      hand = (kernel.router.registry.getByConnId conn).map fun entry =>
        { connId := conn, pluginId := entry.pluginId, stage := .found } := by
  simp only [Kernel.take] at took
  split at took
  next conn rest waiting =>
    refine ⟨conn, rest, _, waiting, ?_, rfl⟩
    split at took
    next absent =>
      cases took
      simp [absent]
    next entry found =>
      cases took
      simp [found]
  · cases took

theorem bridgeUp_some {deviceId mirror now} (took : kernel.bridgeUp deviceId mirror now = some next) :
    kernel.link = none ∧ ∃ registry, kernel.router.registerBridge now deviceId kernel.cycles mirror = .ok registry ∧
      next = { kernel with
        router := { kernel.router with
          registry
          bridge := kernel.router.bridge.map fun conns => conns ++ [hostTx kernel.cycles] }
        link := some (deviceId, kernel.cycles)
        cycles := kernel.cycles + 1 } := by
  simp only [Kernel.bridgeUp, RouterState.bridgeUp] at took
  split at took
  · cases took
  next free =>
    split at took
    · cases took
    next router up =>
      cases took
      split at up
      · cases up
      next registry done =>
        cases up
        exact ⟨by simpa using free, registry, done, rfl⟩

end Inversion

section Steps
variable {action : Action β}

def removes (kernel : Kernel β) : Action β → Option String
  | .unregister transport => (kernel.inHand transport .unsubscribed).map fun leaving => leaving.pluginId
  | .stop pluginId => some pluginId
  | .bridgeDown => kernel.link.map Prod.fst
  | _ => none

/-- The step does not unregister the plugin while it is registered. -/
def keepsRegistered (pluginId : String) (kernel : Kernel β) (action : Action β) : Bool :=
  !(removes kernel action == some pluginId && (kernel.router.registry.get pluginId).isSome)

theorem ping_shared (ctx : Context β) (kernel : Kernel β) (pluginId : String) (now : Moment) :
    ∃ net, kernel.ping ctx pluginId now = kernel.setRouter { kernel.router with net } := by
  simp only [Kernel.ping]
  split
  · exact ⟨kernel.router.net, rfl⟩
  · split
    · exact ⟨kernel.router.net, rfl⟩
    · exact ⟨_, rfl⟩

theorem ping_talk {allowed : Sender → Outbound β → Prop} {pluginId now}
    (permitted : ∀ tx item, Carries ctx (.ping now.unixMillis) item → allowed tx item) :
    Talk allowed kernel.router (kernel.ping ctx pluginId now).router := by
  simp only [Kernel.ping]
  split
  · exact .refl _
  next entry _ =>
    split
    · exact .refl _
    next bytes encoded =>
      apply trySend_talk
      intro _
      exact permitted entry.writeTx _ ⟨"client", _, bytes, rfl, encoded, rfl⟩

/-- One step of the kernel: what let it happen, and the state it leaves. -/
inductive KernelStep (ctx : Context β) (kernel : Kernel β) : Action β → Kernel β → Prop where
  | accept {conn transport} (fresh : kernel.connections.get conn = none) (ordinary : conn ≠ bridgeConnId) :
      KernelStep ctx kernel (.accept conn transport)
        { kernel with connections := kernel.connections.insert conn { transport } }
  | receive {msg} (opened : kernel.isOpen msg.connId msg.writeTx = true) :
      KernelStep ctx kernel (.receive msg) { kernel with incoming := kernel.incoming ++ [msg] }
  | hangup {conn connection} (found : kernel.connections.get conn = some connection)
      (running : connection.ended = false) : KernelStep ctx kernel (.hangup conn) ({ kernel with
        connections := kernel.connections.insert conn { connection with ended := true } }.setLoop connection.transport
          { kernel.loops connection.transport with queue := (kernel.loops connection.transport).queue ++ [conn] })
  | route {now msg rest} (head : kernel.incoming = msg :: rest) : KernelStep ctx kernel (.route now)
      { kernel with router := (kernel.router.routeMessage ctx now msg).1, incoming := rest }
  | prune {now} : KernelStep ctx kernel (.prune now) (kernel.setRouter (kernel.router.pruneTick ctx now))
  | take {transport conn rest hand} (waiting : kernel.loops transport = { queue := conn :: rest, hand := none })
      (found : hand = (kernel.router.registry.getByConnId conn).map fun entry =>
        { connId := conn, pluginId := entry.pluginId, stage := .found }) :
      KernelStep ctx kernel (.take transport) (kernel.setLoop transport { queue := rest, hand })
  | publishLeft {transport now leaving} (held : kernel.inHand transport .found = some leaving) :
      KernelStep ctx kernel (.publishLeft transport now) ((kernel.setRouter (kernel.router.publish ctx now
        (kernel.leftEvent ctx now leaving.pluginId))).setHand transport (some { leaving with stage := .published }))
  | unsubscribe {transport leaving} (held : kernel.inHand transport .published = some leaving) :
      KernelStep ctx kernel (.unsubscribe transport) ((kernel.setRouter { kernel.router with
        bus := kernel.router.bus.unsubscribeAll leaving.pluginId }).setHand transport
          (some { leaving with stage := .unsubscribed }))
  | unregister {transport leaving} (held : kernel.inHand transport .unsubscribed = some leaving) :
      KernelStep ctx kernel (.unregister transport) ((kernel.stop leaving.pluginId).setHand transport none)
  | stop {pluginId} : KernelStep ctx kernel (.stop pluginId) (kernel.stop pluginId)
  | spawn {pluginId} : KernelStep ctx kernel (.spawn pluginId) kernel
  | declare {pluginId events} : KernelStep ctx kernel (.declare pluginId events) (kernel.declare pluginId events)
  | publishDied {event now} :
      KernelStep ctx kernel (.publishDied event now) (kernel.setRouter (kernel.router.publish ctx now event))
  | ping {pluginId now router} (told : ∀ {allowed : Sender → Outbound β → Prop},
      (∀ tx item, Carries ctx (.ping now.unixMillis) item → allowed tx item) → Talk allowed kernel.router router) :
      KernelStep ctx kernel (.ping pluginId now) (kernel.setRouter router)
  | drain {tx} :
      KernelStep ctx kernel (.drain tx) (kernel.setRouter { kernel.router with net := kernel.router.net.drain tx })
  | close {tx} :
      KernelStep ctx kernel (.close tx) (kernel.setRouter { kernel.router with net := kernel.router.net.close tx })
  | bridgeUp {deviceId mirror now registry} (free : kernel.link = none)
      (done : kernel.router.registerBridge now deviceId kernel.cycles mirror = .ok registry) :
      KernelStep ctx kernel (.bridgeUp deviceId mirror now) { kernel with
        router := { kernel.router with
          registry
          bridge := kernel.router.bridge.map fun conns => conns ++ [hostTx kernel.cycles] }
        link := some (deviceId, kernel.cycles)
        cycles := kernel.cycles + 1 }
  | bridgeDown {deviceId serial} (live : kernel.link = some (deviceId, serial)) : KernelStep ctx kernel .bridgeDown
      { kernel with router := kernel.router.bridgeDown deviceId serial, link := none }

theorem kernel_step (took : kernel.step ctx action = some next) : KernelStep ctx kernel action next := by
  cases action with
  | accept conn transport =>
    obtain ⟨fresh, ordinary, rfl⟩ := accept_some took
    exact .accept fresh ordinary
  | receive msg =>
    obtain ⟨opened, rfl⟩ := receive_some took
    exact .receive opened
  | hangup conn =>
    obtain ⟨connection, found, running, rfl⟩ := hangup_some took
    exact .hangup found running
  | route now =>
    obtain ⟨msg, rest, head, rfl⟩ := route_some took
    exact .route head
  | take transport =>
    obtain ⟨conn, rest, hand, waiting, rfl, found⟩ := take_some took
    exact .take waiting found
  | publishLeft transport now =>
    obtain ⟨leaving, held, rfl⟩ := Option.map_eq_some_iff.mp took
    exact .publishLeft held
  | unsubscribe transport =>
    obtain ⟨leaving, held, rfl⟩ := Option.map_eq_some_iff.mp took
    exact .unsubscribe held
  | unregister transport =>
    obtain ⟨leaving, held, rfl⟩ := Option.map_eq_some_iff.mp took
    exact .unregister held
  | ping pluginId now =>
    cases took
    obtain ⟨net, pinged⟩ := ping_shared ctx kernel pluginId now
    have told : ∀ {allowed : Sender → Outbound β → Prop},
        (∀ tx item, Carries ctx (.ping now.unixMillis) item → allowed tx item) →
          Talk allowed kernel.router (kernel.ping ctx pluginId now).router := ping_talk
    rw [pinged] at told ⊢
    exact .ping told
  | bridgeUp deviceId mirror now =>
    obtain ⟨free, registry, done, rfl⟩ := bridgeUp_some took
    exact .bridgeUp free done
  | bridgeDown =>
    obtain ⟨⟨deviceId, serial⟩, live, rfl⟩ := Option.map_eq_some_iff.mp took
    exact .bridgeDown live
  | prune | stop | spawn | declare | publishDied | drain | close =>
    cases took
    constructor

/-- The registry after a step, by the task that took it. -/
inductive RegistryStep (ctx : Context β) (kernel : Kernel β) (action : Action β) : PluginRegistry → Prop where
  | same : RegistryStep ctx kernel action kernel.router.registry
  | swept {registry} (swept : Swept kernel.router.registry registry) :
      RegistryStep ctx kernel action registry
  | routed {now msg rest registry} (mine : action = .route now) (head : kernel.incoming = msg :: rest)
      (update : Update ctx now msg (kernel.router.checkIpcRate ctx now msg).1 registry) :
      RegistryStep ctx kernel action registry
  | removed {pluginId} (gone : removes kernel action = some pluginId) :
      RegistryStep ctx kernel action (kernel.router.registry.unregister pluginId)
  | bridged {deviceId mirror now entry registry} (mine : action = .bridgeUp deviceId mirror now)
      (own : entry.connId = bridgeConnId ∧ entry.pluginId = deviceId)
      (inserted : Inserted kernel.router.registry registry entry) : RegistryStep ctx kernel action registry

theorem RegistryStep.of_eq {registry} (same : registry = kernel.router.registry) :
    RegistryStep ctx kernel action registry := by
  rw [same]
  exact .same

theorem step_registry (took : kernel.step ctx action = some next) :
    RegistryStep ctx kernel action next.router.registry := by
  cases kernel_step took with
  | @route now msg _ head => exact .routed rfl head (routeMessage_routed ctx now msg kernel.router).registry
  | @prune now => exact .swept (pruneTick_swept ctx now kernel.router)
  | unregister held => exact .removed (by simp [removes, held])
  | stop => exact .removed rfl
  | bridgeDown live => exact .removed (by simp [removes, live])
  | bridgeUp _ done =>
    have inserted : Inserted kernel.router.registry _ _ := insertEntry_ok done
    exact .bridged rfl ⟨rfl, rfl⟩ inserted
  | publishLeft | publishDied => exact .of_eq (publish_registry ctx _ kernel.router _)
  | ping told =>
    have quiet : Talk Anything kernel.router _ := told fun _ _ _ => trivial
    exact .of_eq quiet.registry
  | _ => exact .same

variable {registry : PluginRegistry} {id : String} {entry : PluginEntry}

theorem RegistryStep.origin (step : RegistryStep ctx kernel action registry) (found : registry.get id = some entry) :
    kernel.router.registry.get id = some entry ∨
      (∃ msg rest, kernel.incoming = msg :: rest ∧ entry.connId = msg.connId) ∨ entry.connId = bridgeConnId := by
  cases step with
  | same => exact .inl found
  | swept swept =>
    rw [swept.rest] at found
    exact .inl found
  | @routed now msg rest _ _ head update =>
    rcases update.origin found with old | new
    · rw [checkIpcRate_registry] at old
      exact .inl old
    · exact .inr (.inl ⟨msg, rest, head, new⟩)
  | removed => exact .inl (get_of_unregister found)
  | bridged _ own inserted =>
    rcases inserted.found found with old | ⟨_, rfl⟩
    · exact .inl old
    · exact .inr (.inr own.1)

theorem RegistryStep.keeps (step : RegistryStep ctx kernel action registry)
    (found : kernel.router.registry.get id = some entry) :
    registry.get id = some entry ∨ removes kernel action = some id := by
  cases step with
  | same => exact .inl found
  | swept swept =>
    rw [swept.rest]
    exact .inl found
  | @routed now msg _ _ _ _ update =>
    rw [← checkIpcRate_registry ctx now msg kernel.router] at found
    exact .inl (update.keeps found)
  | removed gone =>
    rw [get_unregister]
    split
    next same =>
      rw [same]
      exact .inr gone
    · exact .inl found
  | bridged _ _ inserted => exact .inl (inserted.keeps found)

end Steps
end Vynkor.Proofs
