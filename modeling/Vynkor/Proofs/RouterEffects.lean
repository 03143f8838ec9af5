import Vynkor.Proofs.Talk

/-! Everything one routed message can do, said once. `Sent` lists the frames it
may append with the checks that let them through, `Update` lists the registries
it may leave behind, `RecordChange` what becomes of the events table. What holds of
every single message is then a case analysis over these lists. -/

namespace Vynkor.Proofs
open RouterState

def ToKernel {β : Type} (ctx : Context β) (msg : IncomingMessage β) (payload : Payload) : Prop :=
  ctx.wire.targetAsStr msg.frame.target = some "kernel" ∧
    ∃ envelope, ctx.wire.decode msg.frame.payload = some envelope ∧ envelope.payload = some payload

theorem ToKernel.unique {β : Type} {ctx : Context β} {msg : IncomingMessage β} {first second : Payload}
    (one : ToKernel ctx msg first) (other : ToKernel ctx msg second) : first = second := by
  obtain ⟨_, envelope, decoded, payload⟩ := one
  obtain ⟨_, envelope', decoded', payload'⟩ := other
  cases decoded.symm.trans decoded'
  exact Option.some.inj (payload.symm.trans payload')

def ToPeer {β : Type} (ctx : Context β) (msg : IncomingMessage β) (target : String) : Prop :=
  ctx.wire.targetAsStr msg.frame.target = some target ∧ target ≠ "kernel" ∧ target ≠ "*"

def Party {β : Type} (ctx : Context β) (st : RouterState β) (msg : IncomingMessage β) (pending : PendingAction) : Prop :=
  ctx.wire.targetAsStr msg.frame.target = some "kernel" ∧
    ∃ sender, st.registry.getByConnId msg.connId = some sender ∧
      (pending.requesterId = sender.pluginId ∨ pending.providerId = sender.pluginId)

def stampedRequest (request : ActionRequest) (internalId senderId : String) : ActionRequest :=
  { request with actionId := internalId, callerPluginId := senderId }

/-- What a step does to the records: an event of the kernel, one of a plugin, which
takes a number, or an acknowledgement. -/
inductive RecordChange where
  | quiet
  | system (now : Moment) (event : Event)
  | plugin (now : Moment) (event : Event)
  | acknowledged (eventId : String)

namespace RecordChange

def apply (records : Records) : RecordChange → Records
  | .quiet => records
  | .system now event => { records with store := records.store.map fun store => store.persist now event }
  | .plugin now event => {
      store := records.store.map fun store => store.persist now event
      eventSeq := nextSeq records.eventSeq }
  | .acknowledged eventId => { records with store := records.store.map fun store => store.markDelivered eventId }

def event : RecordChange → Option Event
  | .system _ event | .plugin _ event => some event
  | _ => none

end RecordChange

section Summary
variable {β : Type} (ctx : Context β) (now : Moment) (msg : IncomingMessage β) (st : RouterState β)
  {actionId key : String}

def requestedEvent (request : EventPublish) : Event :=
  pluginEvent (st.senderId msg) s!"evt-{st.senderId msg}-{now.unixMillis}-{st.eventSeq}" request

def payloadChange : Payload → RecordChange
  | .pluginRegister register =>
    match ctx.admitRegister now register with
    | .error _ => .quiet
    | .ok (manifest, _) =>
      match st.registerPlugin now msg register manifest with
      | .error _ => .quiet
      | .ok registry => .system now (joinedEvent ctx now registry register.pluginId)
  | .eventPublish request =>
    if (checkPermission st.registry (st.senderId msg) .eventPublish).isOk then
      .plugin now (requestedEvent now msg st request)
    else .quiet
  | .eventAck eventId => .acknowledged eventId
  | _ => .quiet

def targetChange (target : String) : RecordChange :=
  if target = "kernel" then
    match payloadIn ctx.wire (.frame msg.frame) with
    | none => .quiet
    | some payload =>
      if isRegister (some payload) || st.registry.isRegistered msg.connId then payloadChange ctx now msg st payload
      else .quiet
  else .quiet

def admits : Bool :=
  (st.checkIpcRate ctx now msg).2 && !(st.checkIpcRate ctx now msg).1.isThrottled ctx msg

def routedChange : RecordChange :=
  if admits ctx now msg st && ctx.wire.targetAsStr msg.frame.target == some "kernel" then
    match payloadIn ctx.wire (.frame msg.frame) with
    | none => .quiet
    | some payload =>
      if isRegister (some payload) || st.registry.isRegistered msg.connId then payloadChange ctx now msg st payload
      else .quiet
  else .quiet

/-- A frame that handling `msg` in `st` may append, and why. -/
inductive Sent : Sender → Outbound β → Prop where
  | reply {payload item} (plain : payload.actionRequest? = none)
      (carries : Carries ctx payload item) : Sent msg.writeTx item
  | mac {register manifest secret registry} (key : Bytes) (arrived : ToKernel ctx msg (.pluginRegister register))
      (admitted : ctx.admitRegister now register = .ok (manifest, secret))
      (done : st.registerPlugin now msg register manifest = .ok registry) : Sent msg.writeTx (.enableMac key)
  | event {tx event item} (carries : Carries ctx (.event event) item)
      (trigger : (∃ register, ToKernel ctx msg (.pluginRegister register)) ∨
        ∃ request, ToKernel ctx msg (.eventPublish request)) : Sent tx item
  | request {request sender provider item} (arrived : ToKernel ctx msg (.actionRequest request))
      (registered : st.registry.getByConnId msg.connId = some sender)
      (routed : (st.routeAction ctx now sender.pluginId request.action).2 = .ok provider)
      (carries : Carries ctx (.actionRequest (stampedRequest request st.internalActionId sender.pluginId)) item) :
      Sent provider.writeTx item
  | toRequester {key pending payload item}
      (found : st.registry.getPendingAction key = some pending) (party : Party ctx st msg pending)
      (notice : isNotice payload = true) (carries : Carries ctx payload item) :
      Sent pending.requesterWriteTx item
  | toProvider {key pending provider payload item} (found : st.registry.getPendingAction key = some pending)
      (party : Party ctx st msg pending)
      (registered : st.registry.get pending.providerId = some provider)
      (notice : isNotice payload = true) (carries : Carries ctx payload item) : Sent provider.writeTx item
  | forwarded {target sender entry} (aimed : ToPeer ctx msg target)
      (authorized : authorizeForward st.registry msg target = .ok sender)
      (resolved : st.registry.getMux target = some entry) (room : st.hasRoom entry.writeTx = true) :
      Sent entry.writeTx (relayed msg)
  | bridged {target sender tx rest}
      (aimed : ToPeer ctx msg target) (authorized : authorizeForward st.registry msg target = .ok sender)
      (unresolved : st.registry.getMux target = none) (live : st.bridge = some (tx :: rest))
      (room : st.hasRoom tx = true) : Sent tx (relayed msg)
  | broadcast {sender entry} (aimed : ctx.wire.targetAsStr msg.frame.target = some "*")
      (authorized : authorizeBroadcast st.registry msg = .ok sender) (member : entry ∈ st.registry.list)
      (other : entry.connId ≠ msg.connId)
      (accepted : (checkIpcTarget st.registry sender.pluginId entry.pluginId).isOk = true)
      (room : st.hasRoom entry.writeTx = true) : Sent entry.writeTx (relayed msg)

inductive Update : PluginRegistry → Prop where
  | same : Update st.registry
  | registered {register manifest secret registry} (done : st.registerPlugin now msg register manifest = .ok registry)
      (arrived : ToKernel ctx msg (.pluginRegister register))
      (admitted : ctx.admitRegister now register = .ok (manifest, secret)) : Update registry
  | ponged {original server sender} (arrived : ToKernel ctx msg (.pong original server))
      (registered : st.registry.getByConnId msg.connId = some sender) :
      Update (st.registry.recordPong now sender.pluginId)
  | routed {request sender provider} (arrived : ToKernel ctx msg (.actionRequest request))
      (registered : st.registry.getByConnId msg.connId = some sender)
      (routed : (st.routeAction ctx now sender.pluginId request.action).2 = .ok provider) :
      Update (st.registry.registerPendingAction st.internalActionId
        (routedPending ctx now msg sender.pluginId request provider))
  | direct {target sender entry request}
      (aimed : ToPeer ctx msg target) (authorized : authorizeForward st.registry msg target = .ok sender)
      (resolved : st.registry.getMux target = some entry)
      (called : directRequest ctx.wire msg.frame = some request) (dotted : Text.contains target '.' = true) :
      Update (st.registry.registerPendingAction request.actionId (directPending now msg sender entry request))
  | resolved {response : ActionResponse} {sender : PluginEntry}
      (registered : st.registry.getByConnId msg.connId = some sender) :
      Update (st.registry.resolveActionResponse now response.actionId sender.pluginId (response.status = .ok)).1
  | touched {key pending} (found : st.registry.getPendingAction key = some pending)
      (party : Party ctx st msg pending) : Update (st.registry.touchPendingAction now key)
  | aborted {key pending} (found : st.registry.getPendingAction key = some pending)
      (party : Party ctx st msg pending) : Update ((st.registry.touchPendingAction now key).takePendingAction key).1
  | closed {key pending} (found : st.registry.getPendingAction key = some pending)
      (party : Party ctx st msg pending) : Update (st.registry.takePendingAction key).1

/-- Subscriptions change only for the sender, and only by its own request. -/
inductive BusUpdate : EventBus → Prop where
  | same : BusUpdate st.bus
  | subscribed {eventTypes sender} (arrived : ToKernel ctx msg (.subscribe eventTypes))
      (registered : st.registry.getByConnId msg.connId = some sender) :
      BusUpdate (st.bus.subscribe sender.pluginId eventTypes)
  | unsubscribed {eventTypes sender} (arrived : ToKernel ctx msg (.unsubscribe eventTypes))
      (registered : st.registry.getByConnId msg.connId = some sender) :
      BusUpdate (st.bus.unsubscribe sender.pluginId eventTypes)

/-- The rate of the sender is left to the check before the message is routed. -/
structure Routed (change : RecordChange) (after : RouterState β) : Prop where
  registry : Update ctx now msg st after.registry
  bus : BusUpdate ctx msg st after.bus
  bridge : after.bridge = st.bridge
  rated : after.ipcCalls = st.ipcCalls
  records : records after = change.apply (records st)
  sends : Mailboxes.Adds (Sent ctx now msg st) st.net after.net

/-- The handlers leave the error budgets to the outcome of the message. -/
structure Effect (change : RecordChange) (after : RouterState β) : Prop extends
    Routed ctx now msg st change after where
  budgets : after.errorCounts = st.errorCounts

end Summary

variable {β : Type} {ctx : Context β} {now : Moment} {msg : IncomingMessage β} {messageId senderId action : String}
  {st middle after : RouterState β} {sender : PluginEntry} {pending : PendingAction} {target : String}
  {registry : PluginRegistry} {eventTypes : List String} {provider : PluginEntry} {close : SessionClose}
  {fromProvider : Bool} {payload : Payload} {change : RecordChange}

theorem Talk.effect (talk : Talk (Sent ctx now msg st) st after) : Effect ctx now msg st .quiet after where
  registry := talk.registry ▸ .same
  bus := talk.bus ▸ .same
  bridge := talk.bridge
  rated := talk.rated
  records := talk.records
  sends := talk.sends
  budgets := talk.budgets

theorem Effect.thenConveys {earlier} (effect : Effect ctx now msg st earlier middle)
    (told : Conveys (Sent ctx now msg st) middle after) (stored : records after = change.apply (records st)) :
    Effect ctx now msg st change after where
  registry := told.registry ▸ effect.registry
  bus := told.bus ▸ effect.bus
  bridge := told.bridge.trans effect.bridge
  rated := told.rated.trans effect.rated
  records := stored
  sends := effect.sends.trans told.sends
  budgets := told.budgets.trans effect.budgets

theorem Effect.thenTalk (effect : Effect ctx now msg st change middle)
    (talk : Talk (Sent ctx now msg st) middle after) : Effect ctx now msg st change after :=
  effect.thenConveys talk.toConveys (talk.records.trans effect.records)

theorem setRegistry_effect (update : Update ctx now msg st registry) :
    Effect ctx now msg st .quiet (st.setRegistry registry) :=
  ⟨⟨update, .same, rfl, rfl, rfl, .refl st.net⟩, rfl⟩

theorem records_publish (event : Event) :
    records (st.publish ctx now event) = (RecordChange.system now event).apply (records st) := by
  have delivered : Talk (fun _ _ => True) { st with store := st.store.map fun store => store.persist now event }
      (st.publish ctx now event) := publish_deliver fun _ _ _ => trivial
  exact delivered.records

theorem sendError_talk {code message} :
    Talk (Sent ctx now msg st) middle (middle.sendError ctx now msg.writeTx code message) :=
  sendEnvelope_talk rfl fun _ => .reply rfl

theorem reply_talk {payload} (plain : payload.actionRequest? = none) :
    Talk (Sent ctx now msg st) middle (middle.reply ctx now msg messageId payload) :=
  sendEnvelope_talk rfl fun _ => .reply plain

theorem refuseRegister_talk (refusal : RegisterRefusal) :
    Talk (Sent ctx now msg st) middle (middle.refuseRegister ctx now msg refusal) := by
  cases refusal with
  | protocolMismatch text => exact sendError_talk
  | rejected reason => exact sendEnvelope_talk rfl fun _ => .reply rfl

theorem enableMac_talk {allowed : Sender → Outbound β → Prop} {pluginId deviceSecret}
    (permitted : ∀ key, allowed msg.writeTx (.enableMac key)) :
    Talk allowed middle (middle.enableMac ctx now msg pluginId deviceSecret) := by
  simp only [enableMac]
  split
  · exact .refl middle
  · exact talk_of_adds (Mailboxes.send_adds middle.net msg.writeTx _ (permitted _))

theorem acknowledgeRegister_talk {pluginId} :
    Talk (Sent ctx now msg st) middle (middle.acknowledgeRegister ctx now msg messageId pluginId) :=
  sendEnvelope_talk rfl fun _ => .reply rfl

theorem handleRegister_effect {register} (arrived : ToKernel ctx msg (.pluginRegister register)) :
    Effect ctx now msg st (payloadChange ctx now msg st (.pluginRegister register))
      (st.handleRegister ctx now msg messageId register).1 := by
  simp only [handleRegister, payloadChange]
  cases admitted : ctx.admitRegister now register with
  | error refusal => exact (refuseRegister_talk refusal).effect
  | ok passed =>
    obtain ⟨manifest, deviceSecret⟩ := passed
    cases done : st.registerPlugin now msg register manifest with
    | error error =>
      simp only [done]
      apply Talk.effect
      exact sendEnvelope_talk rfl fun _ => .reply rfl
    | ok registry =>
      simp only [done]
      have joined : Effect ctx now msg st .quiet (st.setRegistry registry) :=
        setRegistry_effect (.registered done arrived admitted)
      have told : Talk (Sent ctx now msg st) (st.setRegistry registry) (((st.setRegistry registry).acknowledgeRegister
          ctx now msg messageId register.pluginId).enableMac ctx now msg register.pluginId deviceSecret) :=
        acknowledgeRegister_talk.trans (enableMac_talk fun key => .mac key arrived admitted done)
      refine (joined.thenTalk told).thenConveys
        (publish_conveys fun _ _ carries => .event carries (.inl ⟨register, arrived⟩)) ?_
      refine (records_publish _).trans ?_
      rw [told.registry, told.records]
      rfl

theorem handlePong_effect {original server} (arrived : ToKernel ctx msg (.pong original server)) :
    Effect ctx now msg st .quiet (st.handlePong now msg).1 := by
  simp only [handlePong]
  split
  next entry registered => exact setRegistry_effect (.ponged arrived registered)
  · exact (Talk.refl st).effect

theorem handleSubscribe_effect (arrived : ToKernel ctx msg (.subscribe eventTypes)) :
    Effect ctx now msg st .quiet (st.handleSubscribe msg eventTypes).1 := by
  simp only [handleSubscribe]
  split
  next entry registered => exact ⟨⟨.same, .subscribed arrived registered, rfl, rfl, rfl, .refl st.net⟩, rfl⟩
  · exact (Talk.refl st).effect

theorem handleUnsubscribe_effect (arrived : ToKernel ctx msg (.unsubscribe eventTypes)) :
    Effect ctx now msg st .quiet (st.handleUnsubscribe msg eventTypes).1 := by
  simp only [handleUnsubscribe]
  split
  next entry registered => exact ⟨⟨.same, .unsubscribed arrived registered, rfl, rfl, rfl, .refl st.net⟩, rfl⟩
  · exact (Talk.refl st).effect

theorem handleEventPublish_effect {request} (arrived : ToKernel ctx msg (.eventPublish request)) :
    Effect ctx now msg st (payloadChange ctx now msg st (.eventPublish request))
      (st.handleEventPublish ctx now msg messageId request).1 := by
  simp only [handleEventPublish, payloadChange]
  split
  · refine Effect.thenTalk ?_ (reply_talk rfl)
    exact (Talk.refl st).effect.thenConveys
      (publishFrom_conveys fun _ _ _ carries => .event carries (.inr ⟨request, arrived⟩)) (records_publish _)
  · exact (reply_talk rfl).effect

theorem senderId_eq (registered : st.registry.getByConnId msg.connId = some sender) :
    st.senderId msg = sender.pluginId := by
  simp [senderId, registered]

theorem routeAction_quiet (ctx : Context β) (now : Moment) (st : RouterState β) (senderId action : String) :
    ∃ calls, (st.routeAction ctx now senderId action).1 = { st with actionCalls := calls } := by
  have rated : ∀ key, ∃ calls, (st.checkActionRate ctx now key).1 = { st with actionCalls := calls } := by
    intro key
    simp only [checkActionRate]
    split
    · exact ⟨st.actionCalls, rfl⟩
    · exact ⟨_, rfl⟩
  simp only [routeAction]
  split
  · exact ⟨st.actionCalls, rfl⟩
  · exact ⟨st.actionCalls, rfl⟩
  · split
    · exact ⟨st.actionCalls, rfl⟩
    · split
      · exact ⟨st.actionCalls, rfl⟩
      · exact rated _

theorem routeAction_ok (routed : (st.routeAction ctx now senderId action).2 = .ok provider) :
    st.registry.findActionProvider action = .found provider ∧
      actionDenied st.registry provider.pluginId senderId action = false ∧
      ∀ cap, ctx.actionCallerMaxConcurrent = some cap →
        st.registry.countPendingActionsFor senderId provider.pluginId < cap := by
  simp only [routeAction] at routed
  split at routed
  · cases routed
  · cases routed
  next found =>
    split at routed
    · cases routed
    next granted =>
      split at routed
      · cases routed
      next below =>
        split at routed
        · cases routed
          refine ⟨found, by simpa using granted, ?_⟩
          intro cap limit
          simpa [limit] using below
        · cases routed

theorem findActionProvider_registered (found : registry.findActionProvider action = .found provider) :
    registry.get provider.pluginId = some provider := by
  simp only [PluginRegistry.findActionProvider] at found
  split at found
  · cases found
  · split at found
    · cases found
    · split at found
      next stored =>
        cases found
        exact PluginRegistry.get_registered stored
      · cases found

theorem handleActionRequest_effect {request} (arrived : ToKernel ctx msg (.actionRequest request))
    (registered : st.registry.getByConnId msg.connId = some sender) :
    Effect ctx now msg st .quiet (st.handleActionRequest ctx now msg messageId request).1 := by
  unfold handleActionRequest
  rw [senderId_eq registered]
  obtain ⟨calls, quiet⟩ := routeAction_quiet ctx now st sender.pluginId request.action
  dsimp only
  split
  next decided provider route =>
    have routed : (st.routeAction ctx now sender.pluginId request.action).2 = .ok provider := by rw [route]
    rw [route] at quiet
    subst quiet
    have recorded : Effect ctx now msg st .quiet
        ({ st with actionCalls := calls }.recordAction ctx now msg sender.pluginId request provider) :=
      ⟨⟨.routed arrived registered routed, .same, rfl, rfl, rfl, .refl st.net⟩, rfl⟩
    exact recorded.thenTalk (sendEnvelope_talk rfl fun _ carries => .request arrived registered routed carries)
  next decided status route =>
    rw [route] at quiet
    subst quiet
    have counted : Talk (Sent ctx now msg st) st { st with actionCalls := calls } :=
      ⟨⟨rfl, rfl, rfl, rfl, rfl, .refl st.net⟩, rfl⟩
    exact (counted.trans (reply_talk rfl)).effect

theorem resolveActionResponse_some {registry updated : PluginRegistry} {internalId providerId : String}
    {statusOk : Bool}
    (resolved : registry.resolveActionResponse now internalId providerId statusOk = (updated, some pending)) :
    ∃ before, registry.getPendingAction internalId = some before ∧ before.providerId = providerId ∧
      pending.requesterWriteTx = before.requesterWriteTx ∧ pending.originalActionId = before.originalActionId := by
  have taken := congrArg Prod.snd resolved
  simp only [PluginRegistry.resolveActionResponse, resolvePending] at taken
  split at taken
  · cases taken
  next before found =>
    split at taken
    · cases taken
    next provider =>
      refine ⟨before, found, not_not.mp provider, ?_⟩
      split at taken
      all_goals
        cases taken
        exact ⟨rfl, rfl⟩

theorem handleActionResponse_effect {response : ActionResponse} (arrived : ToKernel ctx msg (.actionResponse response)) :
    Effect ctx now msg st .quiet (st.handleActionResponse ctx now msg messageId response).1 := by
  simp only [handleActionResponse]
  split
  · exact (Talk.refl st).effect
  next sender registered =>
    split
    · exact (Talk.refl st).effect
    next registry pending resolved =>
      obtain ⟨before, found, provider, sameTx, _⟩ := resolveActionResponse_some resolved
      have updated : registry = _ := (congrArg Prod.fst resolved).symm
      subst updated
      refine Effect.thenTalk (setRegistry_effect (.resolved registered)) (sendEnvelope_talk rfl fun item carries => ?_)
      rw [sameTx]
      exact .toRequester found ⟨arrived.1, sender, registered, .inr provider⟩ rfl carries

theorem findRequested_some {actionId key : String} (found : st.findRequested senderId actionId = some (key, pending)) :
    st.registry.getPendingAction key = some pending ∧ pending.requesterId = senderId ∧
      pending.originalActionId = actionId := by
  simp only [findRequested] at found
  split at found
  · cases found
  next internalId reverse =>
    obtain ⟨stored, present, same⟩ := Option.map_eq_some_iff.mp found
    cases same
    simp only [PluginRegistry.findPendingInternalId] at reverse
    obtain ⟨⟨entryKey, entry⟩, first, rfl⟩ := Option.map_eq_some_iff.mp reverse
    have matched := List.find?_some first
    have listed := (DashMap.mem_toList _ _ _).mp (List.mem_of_find?_eq_some first)
    have sameEntry : entry = pending := Option.some.inj (listed.symm.trans present)
    subst sameEntry
    simp only [Bool.and_eq_true, beq_iff_eq] at matched
    exact ⟨present, matched.1, matched.2⟩

theorem findProvided_some {actionId : String} :
    st.findProvided senderId actionId = some pending ↔
      st.registry.getPendingAction actionId = some pending ∧ pending.providerId = senderId := by
  simp [findProvided, Option.filter_eq_some_iff]

theorem abortStream_effect {key : String} {reason}
    (found : st.registry.getPendingAction key = some pending) (party : Party ctx st msg pending)
    (touched : Talk (Sent ctx now msg st) (st.setRegistry (st.registry.touchPendingAction now key)) middle) :
    Effect ctx now msg st .quiet (middle.abortStream ctx now key reason) := by
  have effect : Effect ctx now msg st .quiet middle := (setRegistry_effect (.touched found party)).thenTalk touched
  have same : middle.registry = st.registry.touchPendingAction now key := touched.registry
  simp only [abortStream]
  split
  · exact effect
  next registry taken removed =>
    have updated : registry = (middle.registry.takePendingAction key).1 := by rw [removed]
    have held : middle.registry.getPendingAction key = some taken := congrArg Prod.snd removed
    rw [same] at updated held
    have origin : taken = { pending with lastActivity := now.instant } := by
      have stored : st.registry.pendingActions.get key = some pending := found
      simp only [PluginRegistry.getPendingAction, PluginRegistry.touchPendingAction, DashMap.get_update, if_true,
        stored, Option.map_some, Option.some.injEq] at held
      exact held.symm
    subst updated origin
    have dropped : Effect ctx now msg st .quiet
        (middle.setRegistry ((st.registry.touchPendingAction now key).takePendingAction key).1) :=
      ⟨⟨.aborted found party, effect.bus, effect.bridge, effect.rated, effect.records, effect.sends⟩, effect.budgets⟩
    refine dropped.thenTalk (notifyForcedTermination_talk ?_ ?_)
    · intro payload item notice carries
      show Sent ctx now msg st pending.requesterWriteTx item
      exact .toRequester found party notice carries
    · intro provider item registered carries
      exact .toProvider found party registered rfl carries

theorem forwardChunk_effect {key tx}
    (found : st.registry.getPendingAction key = some pending) (party : Party ctx st msg pending)
    (permitted : ∀ item, Carries ctx payload item → Sent ctx now msg st tx item) :
    Effect ctx now msg st .quiet ((st.setRegistry (st.registry.touchPendingAction now key)).forwardChunk ctx now
      messageId tx key payload) := by
  have sent : Talk (Sent ctx now msg st) (st.setRegistry (st.registry.touchPendingAction now key))
      ((st.setRegistry (st.registry.touchPendingAction now key)).trySendEnvelope ctx now tx
        { messageId, payload := some payload }).1 :=
    trySendEnvelope_talk rfl permitted
  simp only [forwardChunk]
  split
  next later queued =>
    rw [queued] at sent
    exact (setRegistry_effect (.touched found party)).thenTalk sent
  next later refused =>
    rw [refused] at sent
    exact abortStream_effect found party sent

theorem handleActionRequestChunk_effect {chunk} (arrived : ToKernel ctx msg (.actionRequestChunk chunk))
    (registered : st.registry.getByConnId msg.connId = some sender) :
    Effect ctx now msg st .quiet (st.handleActionRequestChunk ctx now msg messageId chunk).1 := by
  unfold handleActionRequestChunk
  rw [senderId_eq registered]
  split
  · exact (Talk.refl st).effect
  next internalId pending requested =>
    obtain ⟨found, requester, _⟩ := findRequested_some requested
    have party : Party ctx st msg pending := ⟨arrived.1, sender, registered, .inl requester⟩
    dsimp only
    split
    · exact abortStream_effect found party (.refl _)
    next provider provides =>
      exact forwardChunk_effect found party fun _ carries => .toProvider found party provides rfl carries

theorem handleActionResponseChunk_effect {chunk} (arrived : ToKernel ctx msg (.actionResponseChunk chunk)) :
    Effect ctx now msg st .quiet (st.handleActionResponseChunk ctx now msg messageId chunk).1 := by
  simp only [handleActionResponseChunk]
  split
  · exact (Talk.refl st).effect
  next sender registered =>
    split
    · exact (Talk.refl st).effect
    next pending provided =>
      obtain ⟨found, provider⟩ := findProvided_some.mp provided
      have party : Party ctx st msg pending := ⟨arrived.1, sender, registered, .inr provider⟩
      exact forwardChunk_effect found party fun _ carries => .toRequester found party rfl carries

theorem findSession_party {actionId key : String} (session : st.findSession sender.pluginId actionId = some
    (key, pending, fromProvider)) :
    st.registry.getPendingAction key = some pending ∧
      (pending.requesterId = sender.pluginId ∨ pending.providerId = sender.pluginId) := by
  simp only [findSession] at session
  split at session
  next provided found =>
    cases session
    obtain ⟨stored, provider⟩ := findProvided_some.mp found
    exact ⟨stored, .inr provider⟩
  · obtain ⟨⟨internalId, requested⟩, found, same⟩ := Option.map_eq_some_iff.mp session
    cases same
    obtain ⟨stored, requester, _⟩ := findRequested_some found
    exact ⟨stored, .inl requester⟩

theorem forwardClose_talk {key : String}
    (found : st.registry.getPendingAction key = some pending) (party : Party ctx st msg pending) :
    Talk (Sent ctx now msg st) st (st.forwardClose ctx now messageId key pending fromProvider close) := by
  simp only [forwardClose]
  split
  · exact sendEnvelope_talk rfl fun _ carries => .toRequester found party rfl carries
  · split
    · exact .refl st
    next provider provides => exact sendEnvelope_talk rfl fun _ carries => .toProvider found party provides rfl carries

theorem handleSessionClose_effect (arrived : ToKernel ctx msg (.sessionClose close)) :
    Effect ctx now msg st .quiet (st.handleSessionClose ctx now msg messageId close).1 := by
  simp only [handleSessionClose]
  split
  · exact sendError_talk.effect
  next sender registered =>
    split
    · exact sendError_talk.effect
    next internalId pending fromProvider session =>
      obtain ⟨found, side⟩ := findSession_party session
      have party : Party ctx st msg pending := ⟨arrived.1, sender, registered, side⟩
      split
      next accepted =>
        have told : Talk (Sent ctx now msg st) st
            (st.forwardClose ctx now messageId internalId pending fromProvider close) :=
          forwardClose_talk found party
        refine ⟨⟨?_, told.bus ▸ .same, told.bridge, told.rated, told.records, told.sends⟩, told.budgets⟩
        show Update ctx now msg st (PluginRegistry.takePendingAction _ internalId).1
        rw [told.registry]
        exact .closed found party
      · exact sendError_talk.effect

theorem handlePayload_effect (arrived : ToKernel ctx msg payload)
    (known : isRegister (some payload) = true ∨ ∃ sender, st.registry.getByConnId msg.connId = some sender) :
    Effect ctx now msg st (payloadChange ctx now msg st payload)
      (st.handlePayload ctx now msg messageId payload).1 := by
  cases payload with
  | pluginRegister register => exact handleRegister_effect arrived
  | ping timestamp => exact (reply_talk rfl).effect
  | pong _ _ => exact handlePong_effect arrived
  | subscribe eventTypes => exact handleSubscribe_effect arrived
  | unsubscribe eventTypes => exact handleUnsubscribe_effect arrived
  | eventPublish request => exact handleEventPublish_effect arrived
  | actionRequest request =>
    obtain ⟨sender, registered⟩ := known.resolve_left (by simp [isRegister])
    exact handleActionRequest_effect arrived registered
  | actionResponse response => exact handleActionResponse_effect arrived
  | actionRequestChunk chunk =>
    obtain ⟨sender, registered⟩ := known.resolve_left (by simp [isRegister])
    exact handleActionRequestChunk_effect arrived registered
  | actionResponseChunk chunk => exact handleActionResponseChunk_effect arrived
  | sessionClose close => exact handleSessionClose_effect arrived
  | kernelCommand command => exact (reply_talk rfl).effect
  | eventAck eventId => exact ⟨⟨.same, .same, rfl, rfl, rfl, .refl st.net⟩, rfl⟩
  | pluginRegisterAck | event | eventPublishAck | actionStreamAbort | kernelCommandAck | pluginShutdown | error | other =>
    exact sendError_talk.effect

theorem handleKernelMessage_effect (aimed : ctx.wire.targetAsStr msg.frame.target = some "kernel") :
    Effect ctx now msg st (targetChange ctx now msg st "kernel") (st.handleKernelMessage ctx now msg).1 := by
  simp only [handleKernelMessage, targetChange, payloadIn, if_true]
  cases decoded : ctx.wire.decode msg.frame.payload with
  | none => exact sendError_talk.effect
  | some envelope =>
    simp only [Option.bind_some]
    cases holds : envelope.payload with
    | none =>
      dsimp only
      split <;> exact sendError_talk.effect
    | some payload =>
      dsimp only
      rw [← Bool.not_or]
      cases gate : isRegister (some payload) || st.registry.isRegistered msg.connId with
      | false => exact sendError_talk.effect
      | true =>
        refine handlePayload_effect ⟨aimed, envelope, decoded, holds⟩ ?_
        rw [Bool.or_eq_true, PluginRegistry.isRegistered_eq, Option.isSome_iff_exists] at gate
        exact gate

theorem recordDirect_update {entry} (aimed : ToPeer ctx msg target)
    (authorized : authorizeForward st.registry msg target = .ok sender)
    (resolved : st.registry.getMux target = some entry) :
    Update ctx now msg st (st.recordDirect ctx now msg target sender entry) := by
  simp only [recordDirect]
  split
  next request called =>
    split
    next dotted => exact .direct aimed authorized resolved called dotted
    · exact .same
  · exact .same

theorem forward_effect (aimed : ToPeer ctx msg target) :
    Effect ctx now msg st .quiet (st.forward ctx now msg target).1 := by
  unfold forward
  split
  next denial refused => exact sendError_talk.effect
  next sender authorized =>
    split
    next entry resolved =>
      have recorded : Effect ctx now msg st .quiet (st.setRegistry (st.recordDirect ctx now msg target sender entry)) :=
        setRegistry_effect (recordDirect_update aimed authorized resolved)
      exact recorded.thenTalk (trySend_talk fun room => .forwarded aimed authorized resolved room)
    next unresolved =>
      have told : Talk (Sent ctx now msg st) st (st.relayToHost msg).1 :=
        relayToHost_talk fun tx rest live room => .bridged aimed authorized unresolved live room
      dsimp only
      split
      · exact told.effect
      · exact (told.trans sendError_talk).effect

theorem broadcast_effect (aimed : ctx.wire.targetAsStr msg.frame.target = some "*") :
    Effect ctx now msg st .quiet (st.broadcast ctx now msg).1 := by
  simp only [broadcast]
  split
  next denial refused => exact sendError_talk.effect
  next sender authorized =>
    apply Talk.effect
    exact broadcastTo_talk fun entry member other accepted room =>
      .broadcast aimed authorized member other accepted room

theorem handleTarget_effect (aimed : ctx.wire.targetAsStr msg.frame.target = some target) :
    Effect ctx now msg st (targetChange ctx now msg st target) (st.handleTarget ctx now msg target).1 := by
  simp only [handleTarget]
  split
  next same =>
    subst same
    exact handleKernelMessage_effect aimed
  next notKernel =>
    rw [targetChange, if_neg notKernel]
    split
    next same =>
      subst same
      exact broadcast_effect aimed
    next notAll => exact forward_effect ⟨aimed, notKernel, notAll⟩

section
variable (ctx : Context β) (now : Moment) (msg : IncomingMessage β) (st : RouterState β)

theorem recordOutcome_quiet (errored : Bool) :
    ∃ counts, st.recordOutcome ctx now msg errored = { st with errorCounts := counts } := by
  simp only [recordOutcome]
  split
  · exact ⟨_, rfl⟩
  · exact ⟨_, rfl⟩

theorem checkIpcRate_quiet : ∃ calls, (st.checkIpcRate ctx now msg).1 = { st with ipcCalls := calls } := by
  simp only [checkIpcRate]
  split
  · exact ⟨st.ipcCalls, rfl⟩
  · exact ⟨_, rfl⟩

theorem checkIpcRate_registry : (st.checkIpcRate ctx now msg).1.registry = st.registry := by
  obtain ⟨calls, same⟩ := checkIpcRate_quiet ctx now msg st
  rw [same]

end

theorem recordOutcome_registry (errored : Bool) : (st.recordOutcome ctx now msg errored).registry = st.registry := by
  obtain ⟨counts, quiet⟩ := recordOutcome_quiet ctx now msg st errored
  rw [quiet]

theorem recordOutcome_net (errored : Bool) : (st.recordOutcome ctx now msg errored).net = st.net := by
  obtain ⟨counts, quiet⟩ := recordOutcome_quiet ctx now msg st errored
  rw [quiet]

theorem routeMessage_handled (passes : admits ctx now msg st = true)
    (aimed : ctx.wire.targetAsStr msg.frame.target = some target) :
    (st.routeMessage ctx now msg).1 =
      (((st.checkIpcRate ctx now msg).1.handleTarget ctx now msg target).1).recordOutcome ctx now msg
        ((st.checkIpcRate ctx now msg).1.handleTarget ctx now msg target).2 := by
  simp only [admits, Bool.and_eq_true, Bool.not_eq_true'] at passes
  simp [routeMessage, routeTarget, aimed, passes.1, passes.2]

theorem routeMessage_refused (refused : admits ctx now msg st = false) :
    Talk (fun _ item => ∃ error, Carries ctx (.error error) item) (st.checkIpcRate ctx now msg).1
      (st.routeMessage ctx now msg).1 := by
  simp only [routeMessage, routeTarget]
  split
  next within =>
    split
    · exact sendEnvelope_talk rfl fun _ carries => ⟨_, carries⟩
    · have throttled : (st.checkIpcRate ctx now msg).1.isThrottled ctx msg = true := by
        simpa [admits, within] using refused
      rw [if_pos throttled]
      exact .refl _
  · exact sendEnvelope_talk rfl fun _ carries => ⟨_, carries⟩

theorem Effect.recorded (effect : Effect ctx now msg st change after) (errored : Bool) :
    Routed ctx now msg st change (after.recordOutcome ctx now msg errored) := by
  obtain ⟨counts, quiet⟩ := recordOutcome_quiet ctx now msg after errored
  rw [quiet]
  exact ⟨effect.registry, effect.bus, effect.bridge, effect.rated, effect.records, effect.sends⟩

theorem routedChange_refused (refused : admits ctx now msg st = false) : routedChange ctx now msg st = .quiet := by
  simp [routedChange, refused]

/-- One routed message, seen from the state in which its rate has been checked. -/
theorem routeMessage_routed (ctx : Context β) (now : Moment) (msg : IncomingMessage β) (st : RouterState β) :
    Routed ctx now msg (st.checkIpcRate ctx now msg).1 (routedChange ctx now msg st)
      (st.routeMessage ctx now msg).1 := by
  cases passes : admits ctx now msg st with
  | false =>
    rw [routedChange_refused passes]
    simp only [routeMessage, routeTarget]
    split
    next within =>
      split
      · exact sendError_talk.effect.toRouted
      · have throttled : (st.checkIpcRate ctx now msg).1.isThrottled ctx msg = true := by
          simpa [admits, within] using passes
        rw [if_pos throttled]
        exact (Talk.refl _).effect.toRouted
    · exact sendError_talk.effect.toRouted
  | true =>
    cases aimed : ctx.wire.targetAsStr msg.frame.target with
    | none =>
      have quiet : routedChange ctx now msg st = .quiet := by simp [routedChange, aimed]
      simp only [admits, Bool.and_eq_true] at passes
      simp only [routeMessage, routeTarget, aimed, passes.1, if_true, quiet]
      exact sendError_talk.effect.toRouted
    | some target =>
      have change : routedChange ctx now msg st =
          targetChange ctx now msg (st.checkIpcRate ctx now msg).1 target := by
        obtain ⟨calls, quiet⟩ := checkIpcRate_quiet ctx now msg st
        simp only [routedChange, passes, aimed, quiet, targetChange, Bool.true_and, beq_iff_eq, Option.some.injEq]
        rfl
      rw [routeMessage_handled passes aimed, change]
      exact (handleTarget_effect aimed).recorded _

/-- A frame that routing the message appended, with the reason for it. -/
theorem routeMessage_sent {tx item}
    (added : item ∈ Mailboxes.added st.net (st.routeMessage ctx now msg).1.net tx) :
    Sent ctx now msg (st.checkIpcRate ctx now msg).1 tx item := by
  obtain ⟨calls, same⟩ := checkIpcRate_quiet ctx now msg st
  apply (routeMessage_routed ctx now msg st).sends.mem_added
  rw [same]
  exact added

end Vynkor.Proofs
