import Vynkor.Proofs.PeerGate
import Vynkor.Scenario

/-! What reaches other plugins by unicast and broadcast: only what the gates let
through, to whom the allowlist names, and to the same plugins either way. -/

namespace Vynkor.Proofs
open PluginRegistry RouterState
variable {β : Type} {ctx : Context β} {now : Moment} {msg : IncomingMessage β} {st : RouterState β}
  {sender receiver : PluginEntry} {target : String}

/-- The checks that let a peer frame reach `receiver`. The host relay is the
exception to the user rule: its frame is addressed to nobody registered here. -/
def PeerAuthorized (st : RouterState β) (msg : IncomingMessage β) (target : String) (receiver : PluginEntry) : Prop :=
  ∃ sender, st.registry.getByConnId msg.connId = some sender ∧ MayTransmit sender msg.frame ∧
    (receiver.userId = sender.userId ∨
      (target ≠ "*" ∧ st.registry.getMux target = none ∧ target ∈ sender.manifest.ipcTargets ∧
        ∃ rest, st.bridge = some (receiver.writeTx :: rest)))

theorem sent_peerAuthorized {item : Outbound β} (peer : target ≠ "kernel")
    (aimed : ctx.wire.targetAsStr msg.frame.target = some target)
    (held : st.registry.get receiver.pluginId = some receiver) (other : receiver.connId ≠ msg.connId)
    (sent : Sent ctx now msg st receiver.writeTx item) :
    item = relayed msg ∧ PeerAuthorized st msg target receiver := by
  have notKernel : ctx.wire.targetAsStr msg.frame.target ≠ some "kernel" := by
    rw [aimed]
    exact fun same => peer (Option.some.inj same)
  have notOwn : receiver.writeTx ≠ msg.writeTx := by
    intro same
    apply other
    rw [← receiver.owned, ← msg.owned, same]
  have sameTarget : ∀ {other : String}, ToPeer ctx msg other → other = target := by
    intro other toPeer
    exact Option.some.inj (toPeer.1.symm.trans aimed)
  generalize channel : receiver.writeTx = tx at sent
  cases sent with
  | reply plain carries => exact absurd channel notOwn
  | mac key => exact absurd channel notOwn
  | event carries trigger =>
    rcases trigger with ⟨_, arrived⟩ | ⟨_, arrived⟩
    · exact absurd arrived.1 notKernel
    · exact absurd arrived.1 notKernel
  | request arrived held routed carries => exact absurd arrived.1 notKernel
  | toRequester found party plain carries => exact absurd party.1 notKernel
  | toProvider found party held plain carries => exact absurd party.1 notKernel
  | forwarded toPeer authorized resolved =>
    have named := sameTarget toPeer
    subst named
    obtain ⟨known, transmits, sameUser, _⟩ := authorizeForward_ok_iff.mp authorized
    have reached := get_same_channel held (getMux_registered resolved) channel
    subst reached
    exact ⟨rfl, _, known, transmits, .inl (sameUser _ resolved)⟩
  | bridged toPeer authorized unresolved live =>
    have named := sameTarget toPeer
    subst named
    obtain ⟨known, transmits, _, listed⟩ := authorizeForward_ok_iff.mp authorized
    have exactly := listed.resolve_right (by simp [unresolved])
    exact ⟨rfl, _, known, transmits, .inr ⟨toPeer.2.2, unresolved, exactly, _, channel ▸ live⟩⟩
  | broadcast toAll authorized member different accepted =>
    obtain ⟨known, transmits⟩ := authorizeBroadcast_ok_iff.mp authorized
    have stored := mem_list.mp member
    have reached := get_same_channel held stored channel
    subst reached
    have found := (getByConnId_eq_some.mp known).1
    exact ⟨rfl, _, known, transmits, .inl ((checkIpcTarget_isOk found stored).mp accepted).1⟩

/-- Peer frames reach another plugin only through the gates, and where the gates
refuse, that plugin's channel stays as it was. -/
theorem peer_frame_authorized (peer : target ≠ "kernel")
    (aimed : ctx.wire.targetAsStr msg.frame.target = some target)
    (held : st.registry.get receiver.pluginId = some receiver) (other : receiver.connId ≠ msg.connId) :
    (∀ item ∈ received st (st.handleTarget ctx now msg target).1 receiver,
      item = relayed msg ∧ PeerAuthorized st msg target receiver) ∧
    (¬PeerAuthorized st msg target receiver →
      (st.handleTarget ctx now msg target).1.net receiver.writeTx = st.net receiver.writeTx) := by
  have effect : Effect ctx now msg st _ (st.handleTarget ctx now msg target).1 := handleTarget_effect aimed
  constructor
  · intro item member
    exact sent_peerAuthorized peer aimed held other (effect.sends.mem_added member)
  · intro refused
    apply effect.sends.untouched
    intro item sent
    exact refused (sent_peerAuthorized peer aimed held other sent).2

section
open Scenario

def notesRegister : PluginRegister where
  pluginId := "notes"
  manifest := some { permissions := ["ipc_send"], ipcTargets := ["tv"] }

/-- `notes` on the first connection and `tv` on the second, of one user. -/
def livingRoom : RouterState Packet := joined (joined {} 1 notesRegister) 2 { pluginId := "tv" }

def toTv : IncomingMessage Packet := sends 1 "tv" (.ping 0)

theorem peer_frame_authorized_livingRoom : ∃ receiver, livingRoom.registry.get "tv" = some receiver ∧
    received livingRoom (livingRoom.handleTarget context start toTv "tv").1 receiver = [relayed toTv] ∧
    (∀ item ∈ received livingRoom (livingRoom.handleTarget context start toTv "tv").1 receiver,
      item = relayed toTv ∧ PeerAuthorized livingRoom toTv "tv" receiver) := by
  have found : livingRoom.registry.get "tv" = some _ := (Option.some_get (by decide +kernel)).symm
  have aimed : Packet.wire.targetAsStr toTv.frame.target = some "tv" := by decide +kernel
  refine ⟨_, found, by decide +kernel, ?_⟩
  exact (peer_frame_authorized (by decide) aimed (get_registered found) (by decide +kernel)).1

/-- `notes` belongs to another user than the device entry of the bridge. -/
def aliceAbroad : RouterState Packet := bridged (joined {} 1 { notesRegister with userId := "alice" })

/-- The relay to the host writes to the device entry's channel without comparing
users: the frame's own target is not registered, so there is no user to compare. -/
theorem relay_reaches_other_user : ∃ sender receiver, aliceAbroad.registry.getByConnId toTv.connId = some sender ∧
    aliceAbroad.registry.get "laptop" = some receiver ∧ receiver.connId ≠ toTv.connId ∧
    relayed toTv ∈ received aliceAbroad (aliceAbroad.handleTarget context start toTv "tv").1 receiver ∧
    receiver.userId ≠ sender.userId := by
  have known : aliceAbroad.registry.getByConnId toTv.connId = some _ := (Option.some_get (by decide +kernel)).symm
  have found : aliceAbroad.registry.get "laptop" = some _ := (Option.some_get (by decide +kernel)).symm
  exact ⟨_, _, known, found, by decide +kernel, by decide +kernel, by decide +kernel⟩

end

/-- The sender listed the receiver, the requested target, or the device whose
capability it requested. -/
def Listed (sender : PluginEntry) (target : String) (receiver : PluginEntry) : Prop :=
  receiver.pluginId ∈ sender.manifest.ipcTargets ∨ target ∈ sender.manifest.ipcTargets ∨
    (receiver.pluginId ∈ sender.manifest.ipcTargets ∧ ∃ cap, target = receiver.pluginId ++ "." ++ cap)

/-- A plugin that is registered under the dotted target itself, while the sender
only listed the part before the dot, and that every other gate lets through. -/
def ReachedByPrefix (st : RouterState β) (msg : IncomingMessage β) (sender : PluginEntry) (target : String)
    (receiver : PluginEntry) : Prop :=
  st.registry.get target = some receiver ∧ ListedByDevice sender.manifest target ∧
    receiver.userId = sender.userId ∧ MayTransmit sender msg.frame ∧ st.hasRoom receiver.writeTx = true

theorem forward_listed (known : st.registry.getByConnId msg.connId = some sender)
    (held : st.registry.get receiver.pluginId = some receiver)
    (handled : (st.forward ctx now msg target).2 = false)
    (nonempty : received st (st.forward ctx now msg target).1 receiver ≠ [])
    (clear : ¬ReachedByPrefix st msg sender target receiver) : Listed sender target receiver := by
  obtain ⟨room, granted, authorized, reached⟩ := (forward_received held).mp ⟨handled, nonempty⟩
  have same := authorizeForward_sender authorized known
  subst same
  obtain ⟨_, transmits, sameUser, allowed⟩ := authorizeForward_ok_iff.mp authorized
  rcases allowed with exactly | ⟨resolves, byDevice⟩
  · exact .inr (.inl exactly)
  rcases reached with resolved | ⟨unresolved, _⟩
  · unfold PluginRegistry.getMux at resolved
    split at resolved
    next direct stored =>
      cases resolved
      exact absurd ⟨stored, byDevice, sameUser _ (getMux_eq_get stored), transmits, room⟩ clear
    · obtain ⟨cap, split, _⟩ := getDeviceCap_some resolved
      obtain ⟨_, dev, _, sameSplit, listed⟩ := byDevice
      rw [split] at sameSplit
      cases sameSplit
      exact .inl listed
  · rw [unresolved] at resolves
    cases resolves

theorem forward_reachedByPrefix (ctx : Context β) (now : Moment)
    (known : st.registry.getByConnId msg.connId = some sender)
    (reached : ReachedByPrefix st msg sender target receiver) :
    (st.forward ctx now msg target).2 = false ∧ received st (st.forward ctx now msg target).1 receiver ≠ [] := by
  obtain ⟨stored, byDevice, sameUser, transmits, room⟩ := reached
  have resolved := getMux_eq_get stored
  apply (forward_received (get_registered stored)).mpr
  refine ⟨room, sender, authorizeForward_ok_iff.mpr ⟨known, transmits, ?_, ?_⟩, .inl resolved⟩
  · intro entry found
    rw [resolved] at found
    cases found
    exact sameUser
  · exact .inr ⟨by rw [resolved]; rfl, byDevice⟩

theorem broadcast_listed (known : st.registry.getByConnId msg.connId = some sender)
    (held : st.registry.get receiver.pluginId = some receiver)
    (handled : (st.broadcast ctx now msg).2 = false)
    (nonempty : received st (st.broadcast ctx now msg).1 receiver ≠ []) :
    receiver.pluginId ∈ sender.manifest.ipcTargets := by
  obtain ⟨_, _, granted, authorized, accepted⟩ := (broadcast_received held).mp ⟨handled, nonempty⟩
  have same := authorizeBroadcast_sender authorized known
  subst same
  have found := (getByConnId_eq_some.mp known).1
  exact ((checkIpcTarget_isOk found held).mp accepted).2

/-- The allowlist decides who is reached, except that listing `x` also opens the
way to a plugin registered as `x.y`. -/
theorem delivery_listed_iff (peer : target ≠ "kernel")
    (known : st.registry.getByConnId msg.connId = some sender) :
    (∀ receiver, st.registry.get receiver.pluginId = some receiver →
      (st.handleTarget ctx now msg target).2 = false →
      received st (st.handleTarget ctx now msg target).1 receiver ≠ [] → Listed sender target receiver) ↔
    ¬(target ≠ "*" ∧ ∃ receiver, ReachedByPrefix st msg sender target receiver) := by
  simp only [handleTarget]
  rw [if_neg peer]
  split
  next all =>
    refine iff_of_true ?_ fun unicast => unicast.1 all
    intro receiver held handled nonempty
    exact .inl (broadcast_listed known held handled nonempty)
  next unicast =>
    constructor
    · intro always unlisted
      obtain ⟨_, receiver, reached⟩ := unlisted
      have held := get_registered reached.1
      obtain ⟨handled, nonempty⟩ := forward_reachedByPrefix ctx now known reached
      have named := get_own reached.1
      rcases always receiver held handled nonempty with listed | listed | ⟨listed, _⟩
      · exact reached.2.1.1 (named ▸ listed)
      · exact reached.2.1.1 listed
      · exact reached.2.1.1 (named ▸ listed)
    · intro clear receiver held handled nonempty
      exact forward_listed known held handled nonempty fun reached => clear ⟨unicast, receiver, reached⟩

section
open Scenario

/-- `notes` listed `tv`, which is registered next to a plugin called `tv.remote`. -/
def remoteRoom : RouterState Packet := joined livingRoom 3 { pluginId := "tv.remote" }

def toRemote : IncomingMessage Packet := sends 1 "tv.remote" (.ping 0)

theorem delivery_listed_iff_livingRoom : ∃ sender, livingRoom.registry.getByConnId 1 = some sender ∧
    ((∀ receiver, livingRoom.registry.get receiver.pluginId = some receiver →
      (livingRoom.handleTarget context start toTv "tv").2 = false →
      received livingRoom (livingRoom.handleTarget context start toTv "tv").1 receiver ≠ [] →
      Listed sender "tv" receiver) ↔
    ¬("tv" ≠ "*" ∧ ∃ receiver, ReachedByPrefix livingRoom toTv sender "tv" receiver)) := by
  have known : livingRoom.registry.getByConnId 1 = some _ := (Option.some_get (by decide +kernel)).symm
  exact ⟨_, known, delivery_listed_iff (by decide) known⟩

/-- The frame arrives at `tv.remote`, of which `notes` listed nothing but the part
before the dot. -/
theorem remote_reached_unlisted : ∃ sender receiver, remoteRoom.registry.getByConnId toRemote.connId = some sender ∧
    remoteRoom.registry.get "tv.remote" = some receiver ∧
    (remoteRoom.handleTarget context start toRemote "tv.remote").2 = false ∧
    received remoteRoom (remoteRoom.handleTarget context start toRemote "tv.remote").1 receiver = [relayed toRemote] ∧
    ¬Listed sender "tv.remote" receiver := by
  have known : remoteRoom.registry.getByConnId toRemote.connId = some _ := (Option.some_get (by decide +kernel)).symm
  have found : remoteRoom.registry.get "tv.remote" = some _ := (Option.some_get (by decide +kernel)).symm
  refine ⟨_, _, known, found, by decide +kernel, by decide +kernel, ?_⟩
  rintro (listed | listed | ⟨listed, _⟩)
  all_goals exact absurd listed (by decide +kernel)

end

section Mirror
variable (ctx : Context β) (now : Moment) (msg : IncomingMessage β) (st : RouterState β)

def retarget (target : String) : IncomingMessage β :=
  { msg with frame := { msg.frame with target := targetBytes target } }

/-- The plugins on whose channel a broadcast puts the frame. -/
def broadcastReach : Set PluginEntry :=
  { receiver | st.registry.get receiver.pluginId = some receiver ∧ (st.broadcast ctx now msg).2 = false ∧
    received st (st.broadcast ctx now msg).1 receiver ≠ [] }

/-- The plugins on other connections that the frame would reach by unicast. -/
def unicastReach : Set PluginEntry :=
  { receiver | st.registry.get receiver.pluginId = some receiver ∧ receiver.connId ≠ msg.connId ∧
    (st.forward ctx now (retarget msg receiver.pluginId) receiver.pluginId).2 = false ∧
    received st (st.forward ctx now (retarget msg receiver.pluginId) receiver.pluginId).1 receiver ≠ [] }

variable {ctx now msg st}

section
variable (known : st.registry.getByConnId msg.connId = some sender)
  (held : st.registry.get receiver.pluginId = some receiver)
include known held

theorem mem_broadcastReach : receiver ∈ broadcastReach ctx now msg st ↔
      st.hasRoom receiver.writeTx = true ∧ receiver.connId ≠ msg.connId ∧ MayTransmit sender msg.frame ∧
        receiver.userId = sender.userId ∧ receiver.pluginId ∈ sender.manifest.ipcTargets := by
  have found := (getByConnId_eq_some.mp known).1
  have member : receiver ∈ broadcastReach ctx now msg st ↔ ((st.broadcast ctx now msg).2 = false ∧
      received st (st.broadcast ctx now msg).1 receiver ≠ []) := and_iff_right held
  rw [member, broadcast_received held]
  constructor
  · intro passes
    obtain ⟨room, other, granted, authorized, accepted⟩ := passes
    have same := authorizeBroadcast_sender authorized known
    subst same
    have transmits := (authorizeBroadcast_ok_iff.mp authorized).2
    exact ⟨room, other, transmits, (checkIpcTarget_isOk found held).mp accepted⟩
  · intro passes
    obtain ⟨room, other, transmits, listed⟩ := passes
    exact ⟨room, other, sender, authorizeBroadcast_ok_iff.mpr ⟨known, transmits⟩,
      (checkIpcTarget_isOk found held).mpr listed⟩

theorem mem_unicastReach : receiver ∈ unicastReach ctx now msg st ↔
      st.hasRoom receiver.writeTx = true ∧ receiver.connId ≠ msg.connId ∧ MayTransmit sender msg.frame ∧
        receiver.userId = sender.userId ∧ (receiver.pluginId ∈ sender.manifest.ipcTargets ∨
          ListedByDevice sender.manifest receiver.pluginId) := by
  have resolved := getMux_eq_get held
  have member : receiver ∈ unicastReach ctx now msg st ↔ (receiver.connId ≠ msg.connId ∧
      (st.forward ctx now (retarget msg receiver.pluginId) receiver.pluginId).2 = false ∧
      received st (st.forward ctx now (retarget msg receiver.pluginId) receiver.pluginId).1 receiver ≠ []) :=
    and_iff_right held
  rw [member, forward_received held]
  constructor
  · intro passes
    obtain ⟨other, room, granted, authorized, _⟩ := passes
    have same := authorizeForward_sender authorized known
    subst same
    obtain ⟨_, transmits, sameUser, allowed⟩ := authorizeForward_ok_iff.mp authorized
    exact ⟨room, other, transmits, sameUser receiver resolved, allowed.imp_right And.right⟩
  · intro passes
    obtain ⟨room, other, transmits, sameUser, allowed⟩ := passes
    refine ⟨other, room, sender, authorizeForward_ok_iff.mpr ⟨known, transmits, ?_, ?_⟩, .inl resolved⟩
    · intro entry found
      rw [resolved] at found
      cases found
      exact sameUser
    · exact allowed.imp_right fun byDevice => ⟨by rw [resolved]; rfl, byDevice⟩

end

/-- Broadcast reaches whom unicast would reach, except for plugins with a dotted
id of which the sender listed the part before the dot only. Full channels lose
the frame either way. -/
theorem broadcast_mirrors_forward_iff (known : st.registry.getByConnId msg.connId = some sender) :
    broadcastReach ctx now msg st = unicastReach ctx now msg st ↔
      ¬∃ receiver, receiver.connId ≠ msg.connId ∧ ReachedByPrefix st msg sender receiver.pluginId receiver := by
  constructor
  · intro same exception
    obtain ⟨receiver, other, stored, byDevice, sameUser, transmits, room⟩ := exception
    have reached : receiver ∈ unicastReach ctx now msg st :=
      (mem_unicastReach known stored).mpr ⟨room, other, transmits, sameUser, .inr byDevice⟩
    rw [← same] at reached
    exact byDevice.1 ((mem_broadcastReach known stored).mp reached).2.2.2.2
  · intro clear
    ext receiver
    by_cases held : st.registry.get receiver.pluginId = some receiver
    · rw [mem_broadcastReach known held, mem_unicastReach known held]
      constructor
      · intro passes
        obtain ⟨room, other, transmits, sameUser, listed⟩ := passes
        exact ⟨room, other, transmits, sameUser, .inl listed⟩
      · intro passes
        obtain ⟨room, other, transmits, sameUser, allowed⟩ := passes
        refine ⟨room, other, transmits, sameUser, allowed.resolve_right fun byDevice => ?_⟩
        exact clear ⟨receiver, other, held, byDevice, sameUser, transmits, room⟩
    · exact iff_of_false (fun member => held member.1) fun member => held member.1

section
open Scenario

def toAll : IncomingMessage Packet := sends 1 "*" (.ping 0)

theorem broadcast_mirrors_forward_iff_livingRoom : ∃ sender, livingRoom.registry.getByConnId 1 = some sender ∧
    (broadcastReach context start toAll livingRoom = unicastReach context start toAll livingRoom ↔
      ¬∃ receiver, receiver.connId ≠ toAll.connId ∧
        ReachedByPrefix livingRoom toAll sender receiver.pluginId receiver) := by
  have known : livingRoom.registry.getByConnId 1 = some _ := (Option.some_get (by decide +kernel)).symm
  exact ⟨_, known, broadcast_mirrors_forward_iff known⟩

/-- With room in every channel, `tv.remote` gets the frame by unicast and misses it
by broadcast. -/
theorem remote_missed_by_broadcast :
    (∀ receiver ∈ remoteRoom.registry.list, remoteRoom.hasRoom receiver.writeTx = true) ∧
    (∃ sender, remoteRoom.registry.getByConnId toAll.connId = some sender) ∧
    broadcastReach context start toAll remoteRoom ≠ unicastReach context start toAll remoteRoom := by
  refine ⟨by decide +kernel, ⟨_, (Option.some_get (by decide +kernel)).symm⟩, fun same => ?_⟩
  have stored : remoteRoom.registry.get "tv.remote" = some _ := (Option.some_get (by decide +kernel)).symm
  have reached : _ ∈ unicastReach context start toAll remoteRoom :=
    ⟨get_registered stored, by decide +kernel, by decide +kernel, by decide +kernel⟩
  rw [← same] at reached
  exact reached.2.2 (by decide +kernel)

end

end Mirror
end Vynkor.Proofs
