import Vynkor.Proofs.PeerGate
import Vynkor.Scenario

/-! The caller id of an action request. The kernel stamps it on the requests it
routes itself; unicast, broadcast and the relay to the host pass on the bytes
they were given. -/

namespace Vynkor.Proofs
open PluginRegistry RouterState

section Stamp
variable {β : Type} {ctx : Context β} {now : Moment} {msg : IncomingMessage β} {st : RouterState β}
  {sender receiver : PluginEntry} {target : String}

/-- The frame is passed on to the plugin as it is. -/
inductive RelaysTo (ctx : Context β) (msg : IncomingMessage β) (st : RouterState β) (receiver : PluginEntry) : Prop where
  | unicast {target : String} {sender : PluginEntry} (aimed : ToPeer ctx msg target)
      (authorized : authorizeForward st.registry msg target = .ok sender)
      (resolved : st.registry.getMux target = some receiver) (room : st.hasRoom receiver.writeTx = true)
  | host {target sender rest} (aimed : ToPeer ctx msg target)
      (authorized : authorizeForward st.registry msg target = .ok sender)
      (unresolved : st.registry.getMux target = none) (live : st.bridge = some (receiver.writeTx :: rest))
      (room : st.hasRoom receiver.writeTx = true)
  | broadcast {sender : PluginEntry} (aimed : ctx.wire.targetAsStr msg.frame.target = some "*")
      (authorized : authorizeBroadcast st.registry msg = .ok sender) (other : receiver.connId ≠ msg.connId)
      (accepted : (checkIpcTarget st.registry sender.pluginId receiver.pluginId).isOk = true)
      (room : st.hasRoom receiver.writeTx = true)

/-- An admitted frame that names another caller than its sender is passed on. -/
def Spoofs (ctx : Context β) (now : Moment) (msg : IncomingMessage β) (st : RouterState β) : Prop :=
  admits ctx now msg st = true ∧ ∃ request sender receiver, requestIn ctx.wire (.frame msg.frame) = some request ∧
    st.registry.getByConnId msg.connId = some sender ∧ request.callerPluginId ≠ sender.pluginId ∧
    st.registry.get receiver.pluginId = some receiver ∧ RelaysTo ctx msg st receiver

theorem forward_relays (handled : (st.forward ctx now msg target).2 = false) :
    Mailboxes.Adds (fun _ item => item = relayed msg) st.net (st.forward ctx now msg target).1.net := by
  cases authorized : authorizeForward st.registry msg target with
  | error denial =>
    rw [forward_denied authorized] at handled
    cases handled
  | ok sender =>
    cases resolved : st.registry.getMux target with
    | some entry =>
      simp only [forward, authorized, resolved]
      exact Mailboxes.trySend_adds writeCapacity st.net entry.writeTx (relayed msg) fun _ => rfl
    | none =>
      have told : Talk (fun _ item => item = relayed msg) st (st.relayToHost msg).1 :=
        relayToHost_talk fun _ _ _ _ => rfl
      simp only [forward, authorized, resolved] at handled ⊢
      split at handled
      next sent =>
        rw [if_pos sent]
        exact told.sends
      · cases handled

theorem broadcast_relays (handled : (st.broadcast ctx now msg).2 = false) :
    Mailboxes.Adds (fun _ item => item = relayed msg) st.net (st.broadcast ctx now msg).1.net := by
  simp only [broadcast] at handled ⊢
  split at handled
  · cases handled
  next sender authorized =>
    have told : Talk (fun _ item => item = relayed msg) st (broadcastTo msg sender st.registry.list st) :=
      broadcastTo_talk fun _ _ _ _ _ => rfl
    exact told.sends

theorem relayed_mem {after : RouterState β} (relays : Mailboxes.Adds (fun _ item => item = relayed msg) st.net after.net)
    (nonempty : received st after receiver ≠ []) : relayed msg ∈ received st after receiver := by
  obtain ⟨item, member⟩ := List.exists_mem_of_ne_nil _ nonempty
  have same : item = relayed msg := relays.mem_added member
  rw [same] at member
  exact member

theorem RelaysTo.received (relays : RelaysTo ctx msg st receiver) (now : Moment)
    (held : st.registry.get receiver.pluginId = some receiver) :
    ∃ target, ctx.wire.targetAsStr msg.frame.target = some target ∧
      relayed msg ∈ received st (st.handleTarget ctx now msg target).1 receiver := by
  cases relays with
  | @unicast target sender aimed authorized resolved room =>
    obtain ⟨handled, nonempty⟩ := (forward_received held).mpr ⟨room, sender, authorized, .inl resolved⟩
    refine ⟨target, aimed.1, ?_⟩
    simp only [handleTarget, aimed.2.1, aimed.2.2, if_false]
    exact relayed_mem (forward_relays handled) nonempty
  | @host target sender rest aimed authorized unresolved live room =>
    obtain ⟨handled, nonempty⟩ := (forward_received held).mpr
      ⟨room, sender, authorized, .inr ⟨unresolved, rest, live⟩⟩
    refine ⟨target, aimed.1, ?_⟩
    simp only [handleTarget, aimed.2.1, aimed.2.2, if_false]
    exact relayed_mem (forward_relays handled) nonempty
  | @broadcast sender aimed authorized other accepted room =>
    obtain ⟨handled, nonempty⟩ := (broadcast_received held).mpr ⟨room, other, sender, authorized, accepted⟩
    exact ⟨"*", aimed, relayed_mem (broadcast_relays handled) nonempty⟩

theorem RelaysTo.recount (relays : RelaysTo ctx msg st receiver) (calls : List (Nat × Nat)) :
    RelaysTo ctx msg { st with ipcCalls := calls } receiver := by
  cases relays with
  | unicast aimed authorized resolved room => exact .unicast aimed authorized resolved room
  | host aimed authorized unresolved live room => exact .host aimed authorized unresolved live room
  | broadcast aimed authorized other accepted room => exact .broadcast aimed authorized other accepted room

theorem RelaysTo.counted (calls : List (Nat × Nat)) :
    RelaysTo ctx msg { st with ipcCalls := calls } receiver ↔ RelaysTo ctx msg st receiver :=
  ⟨fun relays => relays.recount st.ipcCalls, fun relays => relays.recount calls⟩

theorem unstamped_relayed {item request} (sent : Sent ctx now msg st receiver.writeTx item)
    (held : st.registry.get receiver.pluginId = some receiver) (asks : requestIn ctx.wire item = some request) :
    ∃ sender, st.registry.getByConnId msg.connId = some sender ∧
      (request.callerPluginId = sender.pluginId ∨ item = relayed msg ∧ RelaysTo ctx msg st receiver) := by
  generalize channel : receiver.writeTx = tx at sent
  cases sent with
  | reply plain carries =>
    rw [carries.request, plain] at asks
    cases asks
  | toRequester _ _ notice carries | toProvider _ _ _ notice carries =>
    rw [carries.request, isNotice_plain notice] at asks
    cases asks
  | mac => cases asks
  | event carries =>
    rw [carries.request] at asks
    cases asks
  | request _ known _ carries =>
    rw [carries.request] at asks
    cases asks
    exact ⟨_, known, .inl rfl⟩
  | forwarded aimed authorized resolved room =>
    have same := get_same_channel held (getMux_registered resolved) channel
    subst same
    exact ⟨_, (authorizeForward_ok_iff.mp authorized).1, .inr ⟨rfl, .unicast aimed authorized resolved room⟩⟩
  | bridged aimed authorized unresolved live room =>
    subst channel
    exact ⟨_, (authorizeForward_ok_iff.mp authorized).1, .inr ⟨rfl, .host aimed authorized unresolved live room⟩⟩
  | broadcast aimed authorized member other accepted room =>
    have same := get_same_channel held (mem_list.mp member) channel
    subst same
    exact ⟨_, (authorizeBroadcast_ok_iff.mp authorized).1, .inr ⟨rfl, .broadcast aimed authorized other accepted room⟩⟩

/-- Every action request a plugin receives names its sender as the caller,
exactly when no frame is passed on that names another. -/
theorem caller_stamped_iff (ctx : Context β) (now : Moment) (msg : IncomingMessage β) (st : RouterState β) :
    (∀ receiver, st.registry.get receiver.pluginId = some receiver →
      ∀ item ∈ received st (st.routeMessage ctx now msg).1 receiver,
      ∀ request, requestIn ctx.wire item = some request →
      ∃ sender, st.registry.getByConnId msg.connId = some sender ∧ request.callerPluginId = sender.pluginId) ↔
    ¬Spoofs ctx now msg st := by
  obtain ⟨calls, checked⟩ := checkIpcRate_quiet ctx now msg st
  constructor
  · intro stamped spoofs
    obtain ⟨passes, request, sender, receiver, asks, known, forged, held, relays⟩ := spoofs
    obtain ⟨target, aimed, member⟩ := ((RelaysTo.counted calls).mpr relays).received now held
    have arrives : relayed msg ∈ received st (st.routeMessage ctx now msg).1 receiver := by
      simp only [received, routeMessage_handled passes aimed, recordOutcome_net, checked]
      exact member
    obtain ⟨named, found, same⟩ := stamped receiver held _ arrives request asks
    rw [known] at found
    cases found
    exact forged same
  · intro honest receiver held item member request asks
    cases passes : admits ctx now msg st with
    | false =>
      have refused := (routeMessage_refused passes).sends
      rw [checked] at refused
      obtain ⟨error, carries⟩ := refused.mem_added member
      rw [carries.request] at asks
      cases asks
    | true =>
      have sent : Sent ctx now msg (st.checkIpcRate ctx now msg).1 receiver.writeTx item := routeMessage_sent member
      rw [checked] at sent
      obtain ⟨sender, known, stamped | ⟨rfl, relays⟩⟩ := unstamped_relayed sent held asks
      · exact ⟨sender, known, stamped⟩
      · refine ⟨sender, known, ?_⟩
        by_contra forged
        exact honest ⟨passes, request, sender, receiver, asks, known, forged, held, (RelaysTo.counted calls).mp relays⟩

end Stamp

section Forged
open Scenario

/-- `notes` may address `lamp` and sends it a request in the name of `admin`. -/
def forgedRoom : RouterState Packet :=
  joined (joined {} 1 { pluginId := "notes", manifest := some { permissions := ["ipc_send"], ipcTargets := ["lamp"] } }) 2
    { pluginId := "lamp", manifest := some { actions := ["light"] } }

def forgedRequest : IncomingMessage Packet :=
  sends 1 "lamp" (.actionRequest { actionId := "a", action := "light", callerPluginId := "admin" })

/-- `lamp` receives the request with the caller id that `notes` made up. -/
theorem forged_caller_relayed : (forgedRoom.registry.getByConnId 1).map PluginEntry.pluginId = some "notes" ∧
    (forgedRoom.registry.get "lamp").map PluginEntry.writeTx = some { conn := 2 } ∧
    (Mailboxes.added forgedRoom.net (routed forgedRoom forgedRequest).net { conn := 2 }).map (fun item =>
      (requestIn Packet.wire item).map ActionRequest.callerPluginId) = [some "admin"] :=
  ⟨by decide +kernel, by decide +kernel, by decide +kernel⟩

end Forged
end Vynkor.Proofs
