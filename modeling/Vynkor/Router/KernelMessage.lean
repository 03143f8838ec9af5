import Vynkor.Router.Register

/-! Messages addressed to the kernel. Each handler returns the state it leaves
and whether the message counts against the sender's error budget. -/

namespace Vynkor

def actionStatusMessage : ActionStatus → String
  | .notFound => "action not found"
  | .permissionDeny => "permission denied"
  | .timeout => "action timed out"
  | .quotaExceeded => "quota exceeded"
  | .streamBackpressure => "stream backpressure"
  | .error => "action failed"
  | .ok | .unknown | .other _ => "unknown action status"

def readonlyCommands : List String := ["health_check", "list_plugins", "get_manifest"]

/-- A declared requirement binds the provider and the caller alike. -/
def actionDenied (registry : PluginRegistry) (providerId senderId action : String) : Bool :=
  match (registry.actionRequirement providerId action).or (requiredPermissionForAction action) with
  | none => false
  | some permission =>
    !(checkPermission registry providerId permission).isOk || !(checkPermission registry senderId permission).isOk

namespace RouterState
variable {β : Type} (ctx : Context β) (now : Moment) (msg : IncomingMessage β) (messageId : String)
  (st : RouterState β)

/-- The plugin id of the sending connection; empty when it has none. -/
def senderId : String := ((st.registry.getByConnId msg.connId).map fun entry => entry.pluginId).getD ""

def reply (payload : Payload) : RouterState β :=
  st.sendEnvelope ctx now msg.writeTx { messageId, payload := some payload }

def handlePing (timestamp : Nat) : RouterState β × Bool :=
  (st.reply ctx now msg messageId (.pong timestamp now.unixMillis), false)

def handlePong : RouterState β × Bool :=
  match st.registry.getByConnId msg.connId with
  | some entry => (st.setRegistry (st.registry.recordPong now entry.pluginId), false)
  | none => (st, false)

def handleSubscribe (eventTypes : List String) : RouterState β × Bool :=
  match st.registry.getByConnId msg.connId with
  | some entry => ({ st with bus := st.bus.subscribe entry.pluginId eventTypes }, false)
  | none => (st, false)

def handleUnsubscribe (eventTypes : List String) : RouterState β × Bool :=
  match st.registry.getByConnId msg.connId with
  | some entry => ({ st with bus := st.bus.unsubscribe entry.pluginId eventTypes }, false)
  | none => (st, false)

def pluginEvent (senderId eventId : String) (request : EventPublish) : Event where
  eventId := eventId
  eventType := "plugin." ++ senderId ++ "." ++ request.eventType
  payloadJson := request.payloadJson
  retryCount := 0

def publishFrom (senderId eventId : String) (request : EventPublish) : RouterState β :=
  { st with eventSeq := nextSeq st.eventSeq }.publish ctx now (pluginEvent senderId eventId request)

def handleEventPublish (request : EventPublish) : RouterState β × Bool :=
  let senderId := st.senderId msg
  if (checkPermission st.registry senderId .eventPublish).isOk then
    let eventId := s!"evt-{senderId}-{now.unixMillis}-{st.eventSeq}"
    let st := st.publishFrom ctx now senderId eventId request
    (st.reply ctx now msg messageId (.eventPublishAck { eventId, status := .ok, error := "" }), false)
  else
    (st.reply ctx now msg messageId (.eventPublishAck { eventId := "", status := .permissionDeny, error := "" }),
      false)

/-- One call of the limiter on the pair of caller and provider. -/
def checkActionRate (key : String × String) : RouterState β × Bool :=
  match ctx.actionLimiter with
  | none => (st, true)
  | some limiter =>
    ({ st with actionCalls := st.actionCalls ++ [(key, now.instant)] }, limiter st.actionCalls key now.instant)

/-- Where an action request goes: the single provider that declares it, unless
the requirement, the concurrency cap or the rate limit refuses the caller. -/
def routeAction (senderId action : String) : RouterState β × Except ActionStatus PluginEntry :=
  match st.registry.findActionProvider action with
  | .notFound => (st, .error .notFound)
  | .ambiguous _ => (st, .error .notFound)
  | .found provider =>
    if actionDenied st.registry provider.pluginId senderId action then (st, .error .permissionDeny)
    else if ctx.actionCallerMaxConcurrent.any fun cap =>
        decide (cap ≤ st.registry.countPendingActionsFor senderId provider.pluginId) then
      (st, .error .quotaExceeded)
    else
      let rated := st.checkActionRate ctx now (senderId, provider.pluginId)
      (rated.1, if rated.2 then .ok provider else .error .quotaExceeded)

def internalActionId : String := s!"kact-{st.actionSeq}"

def routedPending (senderId : String) (request : ActionRequest) (provider : PluginEntry) : PendingAction where
  requesterWriteTx := msg.writeTx
  originalActionId := request.actionId
  requesterId := senderId
  deadline := now.instant + fromMillis (if request.timeoutMs = 0 then ctx.actionTimeoutMs else request.timeoutMs)
  providerId := provider.pluginId
  streaming := request.streaming
  sessionAccepted := false
  lastActivity := now.instant

def recordAction (senderId : String) (request : ActionRequest) (provider : PluginEntry) : RouterState β :=
  { st with
    actionSeq := nextSeq st.actionSeq
    registry := st.registry.registerPendingAction st.internalActionId
      (routedPending ctx now msg senderId request provider) }

/-- The caller id is stamped from the connection, never taken from the request. -/
def openAction (senderId : String) (request : ActionRequest) (provider : PluginEntry) : RouterState β :=
  (st.recordAction ctx now msg senderId request provider).sendEnvelope ctx now provider.writeTx
    { messageId, payload := some (.actionRequest {
      actionId := st.internalActionId, action := request.action, paramsJson := request.paramsJson,
      timeoutMs := request.timeoutMs, streaming := request.streaming, callerPluginId := senderId }) }

def handleActionRequest (request : ActionRequest) : RouterState β × Bool :=
  let senderId := st.senderId msg
  match st.routeAction ctx now senderId request.action with
  | (st, .ok provider) => (st.openAction ctx now msg messageId senderId request provider, false)
  | (st, .error status) => (st.reply ctx now msg messageId (.actionResponse
      { actionId := request.actionId, status, error := actionStatusMessage status }), false)

/-- The reply is proxied under the requester's own id, and only from the
provider the action was routed to. -/
def handleActionResponse (response : ActionResponse) : RouterState β × Bool :=
  match st.registry.getByConnId msg.connId with
  | none => (st, false)
  | some sender =>
    match st.registry.resolveActionResponse now response.actionId sender.pluginId (response.status = .ok) with
    | (_, none) => (st, false)
    | (registry, some pending) =>
      ((st.setRegistry registry).sendEnvelope ctx now pending.requesterWriteTx
        { messageId, payload := some (.actionResponse { response with actionId := pending.originalActionId }) }, false)

/-- The requester's side of a pending action, found by the requester's own id. -/
def findRequested (senderId actionId : String) : Option (String × PendingAction) :=
  match st.registry.findPendingInternalId senderId actionId with
  | none => none
  | some internalId => (st.registry.getPendingAction internalId).map fun pending => (internalId, pending)

/-- A chunk that cannot be queued ends the whole stream. -/
def forwardChunk (tx : Sender) (internalId : String) (payload : Payload) : RouterState β :=
  match st.trySendEnvelope ctx now tx { messageId, payload := some payload } with
  | (st, true) => st
  | (st, false) => st.abortStream ctx now internalId "receiver backpressure"

def handleActionRequestChunk (chunk : ActionRequestChunk) : RouterState β × Bool :=
  match st.findRequested (st.senderId msg) chunk.actionId with
  | none => (st, false)
  | some (internalId, pending) =>
    let st := st.setRegistry (st.registry.touchPendingAction now internalId)
    match st.registry.get pending.providerId with
    | none => (st.abortStream ctx now internalId "provider disconnected", false)
    | some provider => (st.forwardChunk ctx now messageId provider.writeTx internalId
        (.actionRequestChunk { chunk with actionId := internalId }), false)

/-- The provider's side of a pending action: only the routed provider sees it. -/
def findProvided (senderId actionId : String) : Option PendingAction :=
  (st.registry.getPendingAction actionId).filter fun pending => pending.providerId == senderId

def handleActionResponseChunk (chunk : ActionResponseChunk) : RouterState β × Bool :=
  match st.registry.getByConnId msg.connId with
  | none => (st, false)
  | some sender =>
    match st.findProvided sender.pluginId chunk.actionId with
    | none => (st, false)
    | some pending =>
      let st := st.setRegistry (st.registry.touchPendingAction now chunk.actionId)
      (st.forwardChunk ctx now messageId pending.requesterWriteTx chunk.actionId
        (.actionResponseChunk { chunk with actionId := pending.originalActionId }), false)

/-- Either peer may close: the provider by the internal id, the requester by its own. -/
def findSession (senderId actionId : String) : Option (String × PendingAction × Bool) :=
  match st.findProvided senderId actionId with
  | some pending => some (actionId, pending, true)
  | none => (st.findRequested senderId actionId).map fun (internalId, pending) => (internalId, pending, false)

def forwardClose (internalId : String) (pending : PendingAction) (fromProvider : Bool) (close : SessionClose) :
    RouterState β :=
  if fromProvider then
    st.sendEnvelope ctx now pending.requesterWriteTx { messageId, payload := some (.sessionClose
      { actionId := pending.originalActionId, reason := close.reason }) }
  else
    match st.registry.get pending.providerId with
    | none => st
    | some provider => st.sendEnvelope ctx now provider.writeTx { messageId, payload := some (.sessionClose
        { actionId := internalId, reason := close.reason }) }

def handleSessionClose (close : SessionClose) : RouterState β × Bool :=
  match st.registry.getByConnId msg.connId with
  | none => (st.sendError ctx now msg.writeTx .notRegistered "not registered", true)
  | some sender =>
    match st.findSession sender.pluginId close.actionId with
    | none => (st.sendError ctx now msg.writeTx .unknown "no matching session", true)
    | some (internalId, pending, fromProvider) =>
      if pending.sessionAccepted then
        let st := st.forwardClose ctx now messageId internalId pending fromProvider close
        (st.setRegistry (st.registry.takePendingAction internalId).1, false)
      else (st.sendError ctx now msg.writeTx .unknown "session not accepted, nothing to close", true)

def commandOutcome (senderId : String) (command : KernelCommand) : CommandOutcome :=
  if !readonlyCommands.contains command.command && !(checkPermission st.registry senderId .kernelAdmin).isOk then
    .permissionDenied (senderId ++ " lacks PERMISSION_KERNEL_ADMIN")
  else ctx.dispatch st.registry now command.command command.paramsJson

def handleKernelCommand (command : KernelCommand) : RouterState β × Bool :=
  let outcome := st.commandOutcome ctx now (st.senderId msg) command
  (st.reply ctx now msg messageId (.kernelCommandAck {
    commandId := command.commandId, status := outcome.status, dataJson := outcome.dataJson, error := outcome.error }),
    false)

def handleEventAck (eventId : String) : RouterState β × Bool :=
  ({ st with store := st.store.map fun store => EventStore.markDelivered store eventId }, false)

/-- The arms of the registered sender. -/
def handlePayload : Payload → RouterState β × Bool
  | .pluginRegister register => st.handleRegister ctx now msg messageId register
  | .ping timestamp => st.handlePing ctx now msg messageId timestamp
  | .pong _ _ => st.handlePong now msg
  | .subscribe eventTypes => st.handleSubscribe msg eventTypes
  | .unsubscribe eventTypes => st.handleUnsubscribe msg eventTypes
  | .eventPublish request => st.handleEventPublish ctx now msg messageId request
  | .actionRequest request => st.handleActionRequest ctx now msg messageId request
  | .actionResponse response => st.handleActionResponse ctx now msg messageId response
  | .actionRequestChunk chunk => st.handleActionRequestChunk ctx now msg messageId chunk
  | .actionResponseChunk chunk => st.handleActionResponseChunk ctx now msg messageId chunk
  | .sessionClose close => st.handleSessionClose ctx now msg messageId close
  | .kernelCommand command => st.handleKernelCommand ctx now msg messageId command
  | .eventAck eventId => st.handleEventAck eventId
  | _ => (st.sendError ctx now msg.writeTx .unknown "unhandled message", true)

def isRegister : Option Payload → Bool
  | some (.pluginRegister _) => true
  | _ => false

/-- Only a registration is accepted from an unregistered connection. -/
def handleKernelMessage : RouterState β × Bool :=
  match ctx.wire.decode msg.frame.payload with
  | none => (st.sendError ctx now msg.writeTx .deserialization "decode failed", true)
  | some envelope =>
    if !isRegister envelope.payload && !st.registry.isRegistered msg.connId then
      (st.sendError ctx now msg.writeTx .notRegistered "not registered", true)
    else
      match envelope.payload with
      | none => (st.sendError ctx now msg.writeTx .unknown "unhandled message", true)
      | some payload => st.handlePayload ctx now msg envelope.messageId payload

end RouterState
end Vynkor
