import Vynkor.Proofs.KernelSteps
import Vynkor.Scenario

/-! What a connection without a registration can do: register. Whatever else it
sends, it gets an answer on its own channel at most. -/

namespace Vynkor.Proofs
open RouterState
variable {β : Type} {ctx : Context β} {now : Moment} {msg : IncomingMessage β} {messageId : String}

section Registering
variable (ctx : Context β) (now : Moment) (msg : IncomingMessage β) (st : RouterState β)

def registerIn (wire : Wire β) (frame : Frame β) : Option PluginRegister :=
  match payloadIn wire (.frame frame) with
  | some (.pluginRegister register) => some register
  | _ => none

/-- The registration that handling the message completes: it passes every check
and the registry has a free id and a free connection for it. -/
def acceptedRegister : Option PluginRegister :=
  match registerIn ctx.wire msg.frame with
  | none => none
  | some register =>
    match ctx.admitRegister now register with
    | .error _ => none
    | .ok (manifest, _) => if (st.registerPlugin now msg register manifest).isOk then some register else none

def registers : Option PluginRegister :=
  if admits ctx now msg st && ctx.wire.targetAsStr msg.frame.target == some "kernel" then
    acceptedRegister ctx now msg st
  else none

end Registering

section Aside
variable {st middle after : RouterState β} {target : String}

/-- Nothing but the sender's own channel and the router's budgets changed. -/
structure Aside (msg : IncomingMessage β) (st after : RouterState β) : Prop where
  registry : after.registry = st.registry
  bus : after.bus = st.bus
  store : after.store = st.store
  net : ∀ tx, tx ≠ msg.writeTx → after.net tx = st.net tx

theorem Aside.refl (st : RouterState β) : Aside msg st st := ⟨rfl, rfl, rfl, fun _ _ => rfl⟩

theorem Aside.trans (first : Aside msg st middle) (last : Aside msg middle after) : Aside msg st after where
  registry := last.registry.trans first.registry
  bus := last.bus.trans first.bus
  store := last.store.trans first.store
  net tx other := (last.net tx other).trans (first.net tx other)

theorem sendEnvelope_aside (envelope : Envelope) : Aside msg st (st.sendEnvelope ctx now msg.writeTx envelope) := by
  simp only [sendEnvelope, trySendEnvelope, buildOutbound]
  cases ctx.wire.encode (st.stampEnvelope now envelope) with
  | none => exact ⟨rfl, rfl, rfl, fun _ _ => rfl⟩
  | some bytes => exact ⟨rfl, rfl, rfl, fun tx other => Mailboxes.trySend_other writeCapacity st.net _ other⟩

theorem sendError_aside (code : ErrorCode) (message : String) :
    Aside msg st (st.sendError ctx now msg.writeTx code message) :=
  sendEnvelope_aside _

theorem recordOutcome_aside (errored : Bool) : Aside msg st (st.recordOutcome ctx now msg errored) := by
  obtain ⟨counts, quiet⟩ := recordOutcome_quiet ctx now msg st errored
  rw [quiet]
  exact ⟨rfl, rfl, rfl, fun _ _ => rfl⟩

theorem checkIpcRate_aside : Aside msg st (st.checkIpcRate ctx now msg).1 := by
  obtain ⟨calls, quiet⟩ := checkIpcRate_quiet ctx now msg st
  rw [quiet]
  exact ⟨rfl, rfl, rfl, fun _ _ => rfl⟩

theorem forward_aside (refused : ∀ sender, authorizeForward st.registry msg target ≠ .ok sender) :
    Aside msg st (st.forward ctx now msg target).1 := by
  rw [forward]
  split
  · exact sendError_aside _ _
  next passed => exact absurd passed (refused _)

theorem handleRegister_aside {register : PluginRegister}
    (refused : ∀ manifest secret, ctx.admitRegister now register = .ok (manifest, secret) →
      (st.registerPlugin now msg register manifest).isOk = false) :
    Aside msg st (st.handleRegister ctx now msg messageId register).1 := by
  simp only [handleRegister]
  split
  next refusal rejected =>
    cases refusal with
    | protocolMismatch text => exact sendError_aside _ _
    | rejected reason => exact sendEnvelope_aside _
  next manifest secret admitted =>
    split
    · exact sendEnvelope_aside _
    next registry done =>
      have never := refused manifest secret admitted
      rw [done] at never
      cases never

section
variable (unregistered : st.registry.getByConnId msg.connId = none)
include unregistered

theorem handleKernelMessage_aside (refused : acceptedRegister ctx now msg st = none) :
    Aside msg st (st.handleKernelMessage ctx now msg).1 := by
  simp only [handleKernelMessage]
  split
  · exact sendError_aside _ _
  next envelope decoded =>
    split
    · exact sendError_aside _ _
    next admitted =>
      rw [PluginRegistry.isRegistered_eq, unregistered] at admitted
      split
      · exact sendError_aside _ _
      next payload holds =>
        -- past the gate, the payload of an unregistered sender is a registration
        cases payload with
        | pluginRegister register =>
          apply handleRegister_aside
          intro manifest secret passed
          have asked : registerIn ctx.wire msg.frame = some register := by simp [registerIn, payloadIn, decoded, holds]
          simpa [acceptedRegister, asked, passed] using refused
        | _ => simp [holds, isRegister] at admitted

theorem broadcast_aside : Aside msg st (st.broadcast ctx now msg).1 := by
  simp only [broadcast, authorizeBroadcast, unregistered]
  exact sendError_aside _ _

theorem handleTarget_aside (refused : target = "kernel" → acceptedRegister ctx now msg st = none) :
    Aside msg st (st.handleTarget ctx now msg target).1 := by
  simp only [handleTarget]
  split
  next toKernel => exact handleKernelMessage_aside unregistered (refused toKernel)
  · split
    · exact broadcast_aside unregistered
    · apply forward_aside
      simp [authorizeForward, unregistered]

end

theorem acceptedRegister_checked :
    acceptedRegister ctx now msg (st.checkIpcRate ctx now msg).1 = acceptedRegister ctx now msg st := by
  obtain ⟨calls, quiet⟩ := checkIpcRate_quiet ctx now msg st
  rw [quiet]
  rfl

theorem routeMessage_aside (unregistered : st.registry.getByConnId msg.connId = none)
    (refused : registers ctx now msg st = none) : Aside msg st (st.routeMessage ctx now msg).1 := by
  apply checkIpcRate_aside.trans
  rw [← checkIpcRate_registry ctx now msg st] at unregistered
  simp only [routeMessage, routeTarget]
  split
  next within =>
    split
    · exact sendError_aside _ _
    next target aimed =>
      split
      · exact .refl _
      next running =>
        apply Aside.trans (handleTarget_aside unregistered ?_) (recordOutcome_aside _)
        intro toKernel
        subst toKernel
        have passes : admits ctx now msg st = true := by simpa [admits, within] using running
        rw [acceptedRegister_checked]
        simpa [registers, passes, aimed] using refused
  · exact sendError_aside _ _

/-- Unless it is a registration that the router accepts, a message of an
unregistered connection changes neither the registry nor the subscriptions nor
the event store, and no channel but its own receives anything. -/
theorem unregistered_message_aside (ctx : Context β) (now : Moment) (msg : IncomingMessage β) (st : RouterState β)
    (unregistered : st.registry.getByConnId msg.connId = none) (refused : registers ctx now msg st = none) :
    (st.routeMessage ctx now msg).1.registry = st.registry ∧ (st.routeMessage ctx now msg).1.bus = st.bus ∧
      (st.routeMessage ctx now msg).1.store = st.store ∧
      ∀ tx, tx ≠ msg.writeTx → (st.routeMessage ctx now msg).1.net tx = st.net tx := by
  have aside : Aside msg st (st.routeMessage ctx now msg).1 := routeMessage_aside unregistered refused
  exact ⟨aside.registry, aside.bus, aside.store, aside.net⟩

end Aside

section Joining
variable {st : RouterState β} {register : PluginRegister}

theorem handleRegister_registry {manifest secret registry}
    (admitted : ctx.admitRegister now register = .ok (manifest, secret))
    (done : st.registerPlugin now msg register manifest = .ok registry) :
    (st.handleRegister ctx now msg messageId register).1.registry = registry := by
  simp only [handleRegister, admitted, done, publishJoined, publish_registry, enableMac]
  have acknowledged : ((st.setRegistry registry).acknowledgeRegister ctx now msg messageId register.pluginId).registry =
      registry :=
    (sendEnvelope_talk rfl fun _ _ => trivial : Talk Anything _ _).registry
  split <;> exact acknowledged

theorem routeMessage_joined (accepted : registers ctx now msg st = some register) :
    ∃ entry, entry.connId = msg.connId ∧ entry.pluginId = register.pluginId ∧
      Inserted st.registry (st.routeMessage ctx now msg).1.registry entry := by
  simp only [registers] at accepted
  split at accepted
  next gates =>
    simp only [Bool.and_eq_true, beq_iff_eq] at gates
    rw [routeMessage_handled gates.1 gates.2, recordOutcome_registry]
    rw [← acceptedRegister_checked] at accepted
    rw [← checkIpcRate_registry ctx now msg st]
    generalize (st.checkIpcRate ctx now msg).1 = checked at accepted ⊢
    simp only [acceptedRegister] at accepted
    split at accepted
    · cases accepted
    next asked named =>
      split at accepted
      · cases accepted
      next manifest secret admitted =>
        split at accepted
        next passes =>
          cases accepted
          obtain ⟨registry, done⟩ := isOk_iff.mp passes
          obtain ⟨entry, channel, sameId, inserted⟩ := registerPlugin_ok done
          have handled : (checked.handleTarget ctx now msg "kernel").1.registry = registry := by
            simp only [registerIn, payloadIn] at named
            cases decoded : ctx.wire.decode msg.frame.payload with
            | none => simp [decoded] at named
            | some envelope =>
              cases holds : envelope.payload with
              | none => simp [decoded, holds] at named
              | some payload =>
                cases payload with
                | pluginRegister other =>
                  simp only [decoded, holds, Option.bind_some, Option.some.injEq] at named
                  subst named
                  simp only [handleTarget, if_true, handleKernelMessage, decoded, holds, isRegister, Bool.not_true,
                    Bool.false_and, Bool.false_eq_true, if_false, handlePayload]
                  exact handleRegister_registry admitted done
                | _ => simp [decoded, holds] at named
          exact ⟨entry, conn_of_channel channel, sameId, handled ▸ inserted⟩
        · cases accepted
  · cases accepted

theorem routeMessage_entries (refused : registers ctx now msg st = none) (id : String) :
    (st.routeMessage ctx now msg).1.registry.get id = st.registry.get id := by
  cases held : st.registry.getByConnId msg.connId with
  | none => rw [(routeMessage_aside held refused).registry]
  | some sender =>
    rcases (routeMessage_routed ctx now msg st).registry.entries with same | ⟨entry, channel, inserted⟩
    · rw [same, checkIpcRate_registry]
    · have free := inserted.freeConn
      rw [conn_of_channel channel, checkIpcRate_registry, held] at free
      cases free

end Joining

section Stranger
open Scenario

def strangerSubscribes : IncomingMessage Packet := sends 7 "kernel" (.subscribe ["*"])

/-- `notes` has subscribed, and its call of an action of `tv` is pending. -/
def lounge : RouterState Packet :=
  [sends 1 "kernel" (.subscribe ["*"]), sends 1 "kernel" (.actionRequest { actionId := "x", action := "show" })].foldl
    routed (joined (joined {} 1 { pluginId := "notes" }) 2 { pluginId := "tv", manifest := some { actions := ["show"] } })

theorem unregistered_message_aside_subscribe : (lounge.registry.get "tv").isSome = true ∧
    lounge.bus.subscriptions.get "*" = some ["notes"] ∧ lounge.registry.pendingActions.keys.length = 1 ∧
    ((routed lounge strangerSubscribes).registry = lounge.registry ∧ (routed lounge strangerSubscribes).bus = lounge.bus ∧
      ∀ tx, tx ≠ { conn := 7 } → (routed lounge strangerSubscribes).net tx = lounge.net tx) ∧
    ((routed lounge strangerSubscribes).net { conn := 7 }).queue.length = 1 := by
  obtain ⟨registry, bus, _, net⟩ :=
    unregistered_message_aside context start strangerSubscribes lounge (by decide +kernel) (by decide +kernel)
  exact ⟨by decide +kernel, by decide +kernel, by decide +kernel, ⟨registry, bus, net⟩, by decide +kernel⟩

end Stranger
end Vynkor.Proofs
