import Vynkor.Proofs.PeerGate
import Vynkor.Scenario

/-! Who receives what a plugin sends. Peer frames stay with the sender's user.
Action traffic follows the declared action instead: a request goes to whoever
declares it, and everything later to the two sides of the pending action. -/

namespace Vynkor.Proofs
open PluginRegistry RouterState

section Reach
variable {β : Type} {ctx : Context β} {now : Moment} {msg : IncomingMessage β} {st : RouterState β}
  {sender : PluginEntry} {tx : Sender} {item : Outbound β}

/-- Why a frame reaches a channel other than the sender's own. -/
inductive Reach (ctx : Context β) (msg : IncomingMessage β) (st : RouterState β) (sender : PluginEntry) (tx : Sender)
    (item : Outbound β) : Prop where
  | sameUser {receiver} (notKernel : ctx.wire.targetAsStr msg.frame.target ≠ some "kernel")
      (held : st.registry.get receiver.pluginId = some receiver) (channel : tx = receiver.writeTx)
      (same : receiver.userId = sender.userId)
  | host {target rest} (aimed : ToPeer ctx msg target)
      (unresolved : st.registry.getMux target = none) (listed : target ∈ sender.manifest.ipcTargets)
      (live : st.bridge = some (tx :: rest))
  | provider {request provider} (arrived : ToKernel ctx msg (.actionRequest request))
      (declared : st.registry.findActionProvider request.action = .found provider) (channel : tx = provider.writeTx)
  | requester {key pending} (found : st.registry.getPendingAction key = some pending)
      (party : Party ctx st msg pending) (channel : tx = pending.requesterWriteTx)
  | counterpart {key pending provider}
      (found : st.registry.getPendingAction key = some pending) (party : Party ctx st msg pending)
      (held : st.registry.get pending.providerId = some provider) (channel : tx = provider.writeTx)
  | event {event} (carries : Carries ctx (.event event) item)
      (trigger : (∃ register, ToKernel ctx msg (.pluginRegister register)) ∨
        ∃ request, ToKernel ctx msg (.eventPublish request))

/-- A frame leaves the sender's user only by a declared action, by a pending one,
by the relay to the host, or as an event. -/
theorem frame_reach (held : st.registry.getByConnId msg.connId = some sender) (other : tx ≠ msg.writeTx)
    (added : item ∈ Mailboxes.added st.net (st.routeMessage ctx now msg).1.net tx) :
    Reach ctx msg st sender tx item := by
  have sent : Sent ctx now msg (st.checkIpcRate ctx now msg).1 tx item := routeMessage_sent added
  obtain ⟨calls, same⟩ := checkIpcRate_quiet ctx now msg st
  rw [same] at sent
  have notKernel {target : String} (toPeer : ToPeer ctx msg target) :
      ctx.wire.targetAsStr msg.frame.target ≠ some "kernel" := by
    rw [toPeer.1]
    exact fun same => toPeer.2.1 (Option.some.inj same)
  cases sent with
  | reply => exact absurd rfl other
  | mac => exact absurd rfl other
  | event carries trigger => exact .event carries trigger
  | request arrived _ routed _ => exact .provider arrived (routeAction_ok routed).1 rfl
  | toRequester found party => exact .requester found party rfl
  | toProvider found party provider => exact .counterpart found party provider rfl
  | forwarded aimed authorized resolved =>
    rw [authorizeForward_sender authorized held] at authorized
    obtain ⟨_, _, sameUser, _⟩ := authorizeForward_ok_iff.mp authorized
    exact .sameUser (notKernel aimed) (getMux_registered resolved) rfl (sameUser _ resolved)
  | bridged aimed authorized unresolved live =>
    rw [authorizeForward_sender authorized held] at authorized
    obtain ⟨_, _, _, listed⟩ := authorizeForward_ok_iff.mp authorized
    exact .host aimed unresolved (listed.resolve_right (by simp [unresolved])) live
  | broadcast aimed authorized member _ accepted =>
    rw [authorizeBroadcast_sender authorized held] at accepted
    have stored := mem_list.mp member
    have found := (getByConnId_eq_some.mp held).1
    refine .sameUser ?_ stored rfl ((checkIpcTarget_isOk found stored).mp accepted).1
    rw [aimed]
    decide

end Reach

section Users
open Scenario

/-- `notes` of one user asks for an action that `lamp`, of another, declares. -/
def sharedHouse : RouterState Packet :=
  joined (joined {} 1 { pluginId := "notes", userId := "alice" }) 2
    { pluginId := "lamp", userId := "bob", manifest := some { actions := ["light"] } }

def askLight : IncomingMessage Packet :=
  sends 1 "kernel" (.actionRequest { actionId := "a", action := "light", paramsJson := [1] })

def sharedNotes : PluginEntry := (sharedHouse.registry.getByConnId 1).get (by decide +kernel)

def lampGets : List (Outbound Packet) := Mailboxes.added sharedHouse.net (routed sharedHouse askLight).net { conn := 2 }

theorem frame_reach_lamp : lampGets.length = 1 ∧
    ∀ item ∈ lampGets, Reach context askLight sharedHouse sharedNotes { conn := 2 } item :=
  ⟨by decide +kernel, fun _ added => frame_reach (Option.some_get _).symm (by decide +kernel) added⟩

/-- The parameters that `notes` supplied arrive at a plugin of another user. -/
theorem request_crosses_users : sharedNotes.userId = "alice" ∧
    (sharedHouse.registry.get "lamp").map PluginEntry.userId = some "bob" ∧
    (sharedHouse.registry.get "lamp").map PluginEntry.writeTx = some { conn := 2 } ∧
    lampGets.map (fun item => (requestIn Packet.wire item).map ActionRequest.paramsJson) = [some [1]] :=
  ⟨by decide +kernel, by decide +kernel, by decide +kernel, by decide +kernel⟩

end Users
end Vynkor.Proofs
