import Vynkor.Router

/-! The router without the contents of raw frames. Blinding replaces the payload
and the checksum of every queued raw frame by fixed ones. No handler reads a
queue's contents, so handling commutes with blinding. -/

namespace Vynkor

variable {β : Type} [Inhabited β]

def Outbound.blind : Outbound β → Outbound β
  | .frame sent => if sent.isRawBinary then .frame { sent with payload := default, crc32 := 0 } else .frame sent
  | .enableMac key => .enableMac key

def RouterState.blind (st : RouterState β) : RouterState β := { st with net := st.net.map Outbound.blind }

def blinded {γ : Type} (outcome : RouterState β × γ) : RouterState β × γ := (outcome.1.blind, outcome.2)

namespace Proofs
open RouterState

variable {ctx : Context β} {now : Moment} {msg : IncomingMessage β} {st : RouterState β} {tx : Sender}
  {messageId : String}

theorem buildFrame_blind (wire : Wire β) (target : String) (payload : β) :
    (Outbound.frame (buildFrame wire target 0 payload)).blind = .frame (buildFrame wire target 0 payload) := by
  have plain : (buildFrame wire target 0 payload).isRawBinary = false := by
    simp [Frame.isRawBinary, buildFrame]
  simp [Outbound.blind, plain]

theorem trySend_blinded (st : RouterState β) (tx : Sender) (item : Outbound β) :
    blinded (st.trySend tx item) = st.blind.trySend tx item.blind := by
  have sent := Mailboxes.map_trySend Outbound.blind writeCapacity st.net tx item
  simp only [blinded, RouterState.blind, RouterState.trySend, ← sent]

theorem trySendEnvelope_blinded (envelope : Envelope) :
    blinded (st.trySendEnvelope ctx now tx envelope) = st.blind.trySendEnvelope ctx now tx envelope := by
  have same : st.blind.stampEnvelope now envelope = st.stampEnvelope now envelope := rfl
  simp only [trySendEnvelope, buildOutbound, same]
  cases ctx.wire.encode (st.stampEnvelope now envelope) with
  | none => rfl
  | some bytes =>
    simp only [Option.map_some]
    rw [trySend_blinded, buildFrame_blind]
    rfl

@[simp] theorem sendEnvelope_blind (envelope : Envelope) :
    (st.sendEnvelope ctx now tx envelope).blind = st.blind.sendEnvelope ctx now tx envelope :=
  congrArg Prod.fst (trySendEnvelope_blinded envelope)

@[simp] theorem sendError_blind (code : ErrorCode) (message : String) :
    (st.sendError ctx now tx code message).blind = st.blind.sendError ctx now tx code message :=
  sendEnvelope_blind _

@[simp] theorem reply_blind (payload : Payload) :
    (st.reply ctx now msg messageId payload).blind = st.blind.reply ctx now msg messageId payload :=
  sendEnvelope_blind _

@[simp] theorem setRegistry_blind (registry : PluginRegistry) :
    (st.setRegistry registry).blind = st.blind.setRegistry registry := rfl

@[simp] theorem registry_blind : st.blind.registry = st.registry := rfl

@[simp] theorem notifyRequester_blind (pending : PendingAction) (reason : String) :
    (st.notifyRequester ctx now pending reason).blind = st.blind.notifyRequester ctx now pending reason := by
  simp only [notifyRequester]
  split <;> simp

@[simp] theorem notifyForcedTermination_blind (internalId : String) (pending : PendingAction) (reason : String) :
    (st.notifyForcedTermination ctx now internalId pending reason).blind =
      st.blind.notifyForcedTermination ctx now internalId pending reason := by
  simp only [notifyForcedTermination, ← notifyRequester_blind, registry_blind]
  split <;> simp

@[simp] theorem abortStream_blind (internalId reason : String) :
    (st.abortStream ctx now internalId reason).blind = st.blind.abortStream ctx now internalId reason := by
  simp only [abortStream, registry_blind]
  split <;> simp

@[simp] theorem trySend_plain_blind (target : String) (payload : β) :
    (st.trySend tx (.frame (buildFrame ctx.wire target 0 payload))).1.blind =
      (st.blind.trySend tx (.frame (buildFrame ctx.wire target 0 payload))).1 := by
  have sent := congrArg Prod.fst (trySend_blinded st tx (.frame (buildFrame ctx.wire target 0 payload)))
  rw [buildFrame_blind] at sent
  exact sent

theorem deliverTo_blind (payload : β) (targets : List String) :
    (deliverTo ctx payload targets st).blind = deliverTo ctx payload targets st.blind := by
  induction targets generalizing st with
  | nil => rfl
  | cons pluginId rest ih =>
    simp only [deliverTo, registry_blind]
    split
    next entry _ => rw [ih, trySend_plain_blind]
    · exact ih

theorem deliver_blind (event : Event) : (st.deliver ctx now event).blind = st.blind.deliver ctx now event := by
  have same : st.blind.kernelMessageId now = st.kernelMessageId now := rfl
  have bus : st.blind.bus = st.bus := rfl
  simp only [deliver, same, bus]
  split
  · rfl
  · split
    · rfl
    next payload encoded => exact deliverTo_blind payload _

@[simp] theorem publish_blind (event : Event) : (st.publish ctx now event).blind = st.blind.publish ctx now event :=
  deliver_blind event

@[simp] theorem refuseRegister_blind (refusal : RegisterRefusal) :
    (st.refuseRegister ctx now msg refusal).blind = st.blind.refuseRegister ctx now msg refusal := by
  cases refusal with
  | protocolMismatch text => exact sendError_blind _ _
  | rejected reason => exact sendEnvelope_blind _

@[simp] theorem enableMac_blind (pluginId : String) (deviceSecret : Option Bytes) :
    (st.enableMac ctx now msg pluginId deviceSecret).blind =
      st.blind.enableMac ctx now msg pluginId deviceSecret := by
  simp only [enableMac]
  split
  · rfl
  next secret _ =>
    have sent := Mailboxes.map_send Outbound.blind st.net msg.writeTx (.enableMac
      (ctx.wire.deriveSessionKey (deviceSecret.getD secret) (sessionNonce ctx now) pluginId))
    simp only [RouterState.blind, sent]
    rfl

@[simp] theorem acknowledgeRegister_blind (pluginId : String) :
    (st.acknowledgeRegister ctx now msg messageId pluginId).blind =
      st.blind.acknowledgeRegister ctx now msg messageId pluginId :=
  sendEnvelope_blind _

@[simp] theorem publishJoined_blind (pluginId : String) :
    (st.publishJoined ctx now pluginId).blind = st.blind.publishJoined ctx now pluginId :=
  publish_blind _

theorem handleRegister_blinded (register : PluginRegister) :
    blinded (st.handleRegister ctx now msg messageId register) =
      st.blind.handleRegister ctx now msg messageId register := by
  have same (manifest : PluginManifest) :
      st.blind.registerPlugin now msg register manifest = st.registerPlugin now msg register manifest := rfl
  simp only [handleRegister, same]
  split
  · simp [blinded]
  · split
    · simp [blinded]
    · simp [blinded]

theorem senderId_blind : st.blind.senderId msg = st.senderId msg := rfl

@[simp] theorem publishFrom_blind (senderId eventId : String) (request : EventPublish) :
    (st.publishFrom ctx now senderId eventId request).blind =
      st.blind.publishFrom ctx now senderId eventId request :=
  publish_blind _

theorem handleEventPublish_blinded (request : EventPublish) :
    blinded (st.handleEventPublish ctx now msg messageId request) =
      st.blind.handleEventPublish ctx now msg messageId request := by
  have counter : st.blind.eventSeq = st.eventSeq := rfl
  cases granted : (checkPermission st.registry (st.senderId msg) .eventPublish).isOk with
  | true => simp [handleEventPublish, senderId_blind, counter, granted, blinded]
  | false => simp [handleEventPublish, senderId_blind, granted, blinded]

theorem handlePong_blinded : blinded (st.handlePong now msg) = st.blind.handlePong now msg := by
  simp only [handlePong, registry_blind]
  split <;> rfl

theorem handleSubscribe_blinded (eventTypes : List String) :
    blinded (st.handleSubscribe msg eventTypes) = st.blind.handleSubscribe msg eventTypes := by
  simp only [handleSubscribe, registry_blind]
  split <;> rfl

theorem handleUnsubscribe_blinded (eventTypes : List String) :
    blinded (st.handleUnsubscribe msg eventTypes) = st.blind.handleUnsubscribe msg eventTypes := by
  simp only [handleUnsubscribe, registry_blind]
  split <;> rfl

theorem checkActionRate_blinded (key : String × String) :
    blinded (st.checkActionRate ctx now key) = st.blind.checkActionRate ctx now key := by
  simp only [checkActionRate]
  split <;> rfl

theorem routeAction_blinded (senderId action : String) :
    blinded (st.routeAction ctx now senderId action) = st.blind.routeAction ctx now senderId action := by
  simp only [routeAction, registry_blind, ← checkActionRate_blinded]
  split
  · rfl
  · rfl
  · split
    · rfl
    · split
      next full => exact (if_pos full).symm
      next free => exact (if_neg free).symm

@[simp] theorem openAction_blind (senderId : String) (request : ActionRequest) (provider : PluginEntry) :
    (st.openAction ctx now msg messageId senderId request provider).blind =
      st.blind.openAction ctx now msg messageId senderId request provider :=
  sendEnvelope_blind _

theorem handleActionRequest_blinded (request : ActionRequest) :
    blinded (st.handleActionRequest ctx now msg messageId request) =
      st.blind.handleActionRequest ctx now msg messageId request := by
  simp only [handleActionRequest, senderId_blind, ← routeAction_blinded]
  rcases st.routeAction ctx now (st.senderId msg) request.action with ⟨decided, status | provider⟩
  · simp [blinded]
  · simp [blinded]

theorem handleActionResponse_blinded (response : ActionResponse) :
    blinded (st.handleActionResponse ctx now msg messageId response) =
      st.blind.handleActionResponse ctx now msg messageId response := by
  simp only [handleActionResponse, registry_blind]
  split
  · rfl
  · split
    · rfl
    · simp [blinded]

theorem forwardChunk_blind (internalId : String) (payload : Payload) :
    (st.forwardChunk ctx now messageId tx internalId payload).blind =
      st.blind.forwardChunk ctx now messageId tx internalId payload := by
  simp only [forwardChunk, ← trySendEnvelope_blinded]
  rcases st.trySendEnvelope ctx now tx { messageId, payload := some payload } with ⟨later, _ | _⟩
  · simp [blinded]
  · simp [blinded]

theorem handleActionRequestChunk_blinded (chunk : ActionRequestChunk) :
    blinded (st.handleActionRequestChunk ctx now msg messageId chunk) =
      st.blind.handleActionRequestChunk ctx now msg messageId chunk := by
  have same : st.blind.findRequested (st.senderId msg) chunk.actionId =
      st.findRequested (st.senderId msg) chunk.actionId := rfl
  simp only [handleActionRequestChunk, senderId_blind, same, registry_blind, ← setRegistry_blind]
  split
  · rfl
  · split
    · simp [blinded]
    · simp [blinded, forwardChunk_blind]

theorem handleActionResponseChunk_blinded (chunk : ActionResponseChunk) :
    blinded (st.handleActionResponseChunk ctx now msg messageId chunk) =
      st.blind.handleActionResponseChunk ctx now msg messageId chunk := by
  have same (senderId : String) :
      st.blind.findProvided senderId chunk.actionId = st.findProvided senderId chunk.actionId := rfl
  simp only [handleActionResponseChunk, same, registry_blind]
  split
  · rfl
  · split
    · rfl
    · simp [blinded, forwardChunk_blind]

@[simp] theorem forwardClose_blind (internalId : String) (pending : PendingAction) (fromProvider : Bool)
    (close : SessionClose) :
    (st.forwardClose ctx now messageId internalId pending fromProvider close).blind =
      st.blind.forwardClose ctx now messageId internalId pending fromProvider close := by
  simp only [forwardClose, registry_blind]
  split
  · exact sendEnvelope_blind _
  · split
    · rfl
    · exact sendEnvelope_blind _

theorem handleSessionClose_blinded (close : SessionClose) :
    blinded (st.handleSessionClose ctx now msg messageId close) =
      st.blind.handleSessionClose ctx now msg messageId close := by
  have same (senderId : String) :
      st.blind.findSession senderId close.actionId = st.findSession senderId close.actionId := rfl
  simp only [handleSessionClose, same, registry_blind, ← forwardClose_blind]
  split
  · simp [blinded]
  · split
    · simp [blinded]
    · split
      · rfl
      · simp [blinded]

theorem handlePayload_blinded (payload : Payload) :
    blinded (st.handlePayload ctx now msg messageId payload) =
      st.blind.handlePayload ctx now msg messageId payload := by
  cases payload with
  | pluginRegister register => exact handleRegister_blinded register
  | pong => exact handlePong_blinded
  | subscribe eventTypes => exact handleSubscribe_blinded eventTypes
  | unsubscribe eventTypes => exact handleUnsubscribe_blinded eventTypes
  | eventPublish request => exact handleEventPublish_blinded request
  | actionRequest request => exact handleActionRequest_blinded request
  | actionResponse response => exact handleActionResponse_blinded response
  | actionRequestChunk chunk => exact handleActionRequestChunk_blinded chunk
  | actionResponseChunk chunk => exact handleActionResponseChunk_blinded chunk
  | sessionClose close => exact handleSessionClose_blinded close
  | eventAck eventId => rfl
  | _ => simp [handlePayload, handlePing, handleKernelCommand, commandOutcome, senderId_blind, blinded]

theorem handleKernelMessage_blinded :
    blinded (st.handleKernelMessage ctx now msg) = st.blind.handleKernelMessage ctx now msg := by
  simp only [handleKernelMessage]
  split
  · simp [blinded]
  next envelope _ =>
    by_cases refused : (!isRegister envelope.payload && !st.registry.isRegistered msg.connId) = true
    · have same : (!isRegister envelope.payload && !st.blind.registry.isRegistered msg.connId) = true := refused
      rw [if_pos refused, if_pos same]
      simp [blinded]
    · have same : ¬(!isRegister envelope.payload && !st.blind.registry.isRegistered msg.connId) = true := refused
      rw [if_neg refused, if_neg same]
      split
      · simp [blinded]
      next payload _ => exact handlePayload_blinded payload

theorem answerExpired_blind (expired : List PendingAction) :
    (answerExpired ctx now expired st).blind = answerExpired ctx now expired st.blind := by
  induction expired generalizing st with
  | nil => rfl
  | cons pending rest ih => simp only [answerExpired, ih, sendEnvelope_blind]

theorem endIdle_blind (idle : List (String × PendingAction)) :
    (endIdle ctx now idle st).blind = endIdle ctx now idle st.blind := by
  induction idle generalizing st with
  | nil => rfl
  | cons session rest ih => simp only [endIdle, ih, notifyForcedTermination_blind]

theorem pruneTick_blind : (st.pruneTick ctx now).blind = st.blind.pruneTick ctx now := by
  have expired : (st.sweepExpired ctx now).blind = st.blind.sweepExpired ctx now := answerExpired_blind _
  simp only [pruneTick, sweepIdle, ← expired]
  split
  · rfl
  · exact endIdle_blind _

end Proofs
end Vynkor
