import Vynkor.Proofs.KernelSteps
import Vynkor.Proofs.PeerGate

/-! What a message means for the pending actions, read off before it is handled.
A turn names the entry it concerns, what becomes of it, and the responses and
chunks that are sent on its account; handling the message does just that. -/

namespace Vynkor.Proofs
open DashMap Mailboxes RouterState

/-- Responses and chunks, as far as the two sides of an action tell them apart. -/
inductive Speech where
  | response (actionId : String)
  | request (chunk : ActionRequestChunk)
  | reply (chunk : ActionResponseChunk)
  deriving DecidableEq

def speechOf : Payload → Option Speech
  | .actionResponse response => some (.response response.actionId)
  | .actionRequestChunk chunk => some (.request chunk)
  | .actionResponseChunk chunk => some (.reply chunk)
  | _ => none

def speechIn {β : Type} (wire : Wire β) (item : Outbound β) : Option Speech := (payloadIn wire item).bind speechOf

/-- A chunk turn carries the channel on which the chunk was queued, if it was. -/
inductive Turn where
  | idle
  | denied (tx : Sender) (request : ActionRequest)
  | routed (key : String) (pending : PendingAction)
  | called (key : String) (pending : PendingAction)
  | answered (key : String) (pending : PendingAction) (response : ActionResponse)
  | requested (key : String) (pending : PendingAction) (chunk : ActionRequestChunk) (queued : Option Sender)
  | replied (key : String) (pending : PendingAction) (chunk : ActionResponseChunk) (queued : Option Sender)
  | closed (key : String) (pending : PendingAction)
  deriving DecidableEq

namespace Turn

def lastWords (pending : PendingAction) : List (Sender × Speech) :=
  if pending.sessionAccepted then [] else [(pending.requesterWriteTx, .response pending.originalActionId)]

def delivered : Turn → Option (Sender × Speech)
  | .requested key _ chunk (some tx) => some (tx, .request { chunk with actionId := key })
  | .replied _ pending chunk (some tx) => some (tx, .reply { chunk with actionId := pending.originalActionId })
  | _ => none

def said (turn : Turn) : List (Sender × Speech) :=
  match turn with
  | .denied tx request => [(tx, .response request.actionId)]
  | .answered _ pending _ => [(pending.requesterWriteTx, .response pending.originalActionId)]
  | .requested _ pending _ none | .replied _ pending _ none => lastWords pending
  | _ => turn.delivered.toList

def touch (now : Nat) (pending : PendingAction) : PendingAction := { pending with lastActivity := now }

def accepts (pending : PendingAction) (response : ActionResponse) : Bool :=
  decide (response.status = .ok) && pending.streaming

def table (now : Nat) (pendingActions : DashMap String PendingAction) : Turn → DashMap String PendingAction
  | .idle | .denied .. => pendingActions
  | .routed key pending | .called key pending => pendingActions.insert key pending
  | .answered key pending response =>
    if accepts pending response then
      pendingActions.insert key { pending with sessionAccepted := true, lastActivity := now }
    else pendingActions.erase key
  | .requested key _ _ (some _) | .replied key _ _ (some _) => pendingActions.update key (touch now)
  | .requested key _ _ none | .replied key _ _ none => (pendingActions.update key (touch now)).erase key
  | .closed key _ => pendingActions.erase key

def opens (key : String) : Turn → Bool
  | .routed other _ | .called other _ => other == key
  | _ => false

/-- The turn concerns an entry of the table, and opens only entries that still
await their first answer. -/
def Fits (pendingActions : DashMap String PendingAction) : Turn → Prop
  | .idle | .denied .. => True
  | .routed _ pending | .called _ pending => pending.sessionAccepted = false
  | .answered key pending _ | .requested key pending _ _ | .replied key pending _ _ =>
    pendingActions.get key = some pending
  | .closed key pending => pendingActions.get key = some pending ∧ pending.sessionAccepted = true

def Aimed (registry : PluginRegistry) : Turn → Prop
  | .requested _ pending _ (some tx) => ∃ provider, registry.get pending.providerId = some provider ∧ provider.writeTx = tx
  | .replied _ pending _ (some tx) => pending.requesterWriteTx = tx
  | _ => True

end Turn

section Reading
variable {β : Type} (ctx : Context β) (now : Moment) (msg : IncomingMessage β) (messageId : String)
  (st : RouterState β)

def chunkChannel (tx : Sender) (payload : Payload) : Option Sender :=
  if (st.trySendEnvelope ctx now tx { messageId, payload := some payload }).2 then some tx else none

/-- A request chunk goes to the provider's present channel. -/
def requestChannel (key : String) (pending : PendingAction) (chunk : ActionRequestChunk) : Option Sender :=
  match st.registry.get pending.providerId with
  | none => none
  | some provider =>
    chunkChannel ctx now messageId st provider.writeTx (.actionRequestChunk { chunk with actionId := key })

def payloadTurn (sender : PluginEntry) : Payload → Turn
  | .actionRequest request =>
    match (st.routeAction ctx now sender.pluginId request.action).2 with
    | .error _ => .denied msg.writeTx request
    | .ok provider => .routed st.internalActionId (routedPending ctx now msg sender.pluginId request provider)
  | .actionResponse response =>
    match st.findProvided sender.pluginId response.actionId with
    | none => .idle
    | some pending => .answered response.actionId pending response
  | .actionRequestChunk chunk =>
    match st.findRequested sender.pluginId chunk.actionId with
    | none => .idle
    | some (key, pending) => .requested key pending chunk (requestChannel ctx now messageId st key pending chunk)
  | .actionResponseChunk chunk =>
    match st.findProvided sender.pluginId chunk.actionId with
    | none => .idle
    | some pending => .replied chunk.actionId pending chunk (chunkChannel ctx now messageId st
        pending.requesterWriteTx (.actionResponseChunk { chunk with actionId := pending.originalActionId }))
  | .sessionClose close =>
    match st.findSession sender.pluginId close.actionId with
    | none => .idle
    | some (key, pending, _) => if pending.sessionAccepted then .closed key pending else .idle
  | _ => .idle

def kernelTurn : Turn :=
  match ctx.wire.decode msg.frame.payload with
  | none => .idle
  | some envelope =>
    match st.registry.getByConnId msg.connId, envelope.payload with
    | some sender, some payload => payloadTurn ctx now msg envelope.messageId st sender payload
    | _, _ => .idle

def peerTurn (target : String) : Turn :=
  match authorizeForward st.registry msg target, st.registry.getMux target, directRequest ctx.wire msg.frame with
  | .ok sender, some provider, some request =>
    if Text.contains target '.' then .called request.actionId (directPending now msg sender provider request) else .idle
  | _, _, _ => .idle

def turn : Turn :=
  if admits ctx now msg st then
    match ctx.wire.targetAsStr msg.frame.target with
    | none => .idle
    | some target =>
      if target = "kernel" then kernelTurn ctx now msg (st.checkIpcRate ctx now msg).1
      else if target = "*" then .idle
      else peerTurn ctx now msg (st.checkIpcRate ctx now msg).1 target
  else .idle

end Reading

variable {β : Type} {ctx : Context β} {now : Moment} {msg : IncomingMessage β} {messageId : String}
  {st middle after : RouterState β} {sender : PluginEntry} {tx : Sender} {payload : Payload} {item : Outbound β}
  {response : ActionResponse} {senderId : String} {envelope : Envelope} {eventTypes : List String}
  {close : SessionClose} {word : Speech}

/-- A frame that is neither a response nor a chunk. -/
abbrev Silent (ctx : Context β) (_ : Sender) (item : Outbound β) : Prop := speechIn ctx.wire item = none

theorem Carries.speech (carries : Carries ctx payload item) :
    speechIn ctx.wire item = speechOf payload := by
  simp [speechIn, carries.payloadIn]

theorem Carries.silent (plain : speechOf payload = none)
    (carries : Carries ctx payload item) : Silent ctx tx item :=
  carries.speech.trans plain

structure Enacts (ctx : Context β) (now : Moment) (turn : Turn) (st after : RouterState β) : Prop where
  table : after.registry.pendingActions = turn.table now.instant st.registry.pendingActions
  shows : Mailboxes.Shows (speechIn ctx.wire) turn.said st.net after.net
  delivers : ∀ channel word, turn.delivered = some (channel, word) →
    ∃ item, speechIn ctx.wire item = some word ∧ after.net = st.net.post channel item

theorem Turn.undelivered {turn : Turn} {goal : Sender → Speech → Prop} (nothing : turn.delivered = none) :
    ∀ channel word, turn.delivered = some (channel, word) → goal channel word := by
  intro channel word passed
  rw [nothing] at passed
  cases passed

theorem Conveys.shows (talk : Conveys (Silent ctx) st after) : Mailboxes.Shows (speechIn ctx.wire) [] st.net after.net :=
  talk.sends.shows

theorem Conveys.enacts (talk : Conveys (Silent ctx) st after) : Enacts ctx now .idle st after :=
  ⟨by rw [talk.registry]; rfl, talk.shows, Turn.undelivered rfl⟩

theorem trySendEnvelope_shows (holds : envelope.payload = some payload) (spoken : speechOf payload = some word) :
    Mailboxes.Shows (speechIn ctx.wire) [(tx, word)] st.net (st.trySendEnvelope ctx now tx envelope).1.net := by
  simp only [trySendEnvelope, buildOutbound]
  cases encoded : ctx.wire.encode (st.stampEnvelope now envelope) with
  | none => exact fun address => ⟨[], by simp, by simp⟩
  | some bytes =>
    exact trySend_shows writeCapacity st.net tx ((carries_stamped holds encoded).speech.trans spoken)

theorem trySendEnvelope_registry (ctx : Context β) (now : Moment) (st : RouterState β) (tx : Sender)
    (envelope : Envelope) :
    (st.trySendEnvelope ctx now tx envelope).1.registry = st.registry := by
  simp only [trySendEnvelope, buildOutbound]
  cases ctx.wire.encode (st.stampEnvelope now envelope) <;> rfl

theorem trySendEnvelope_sent (envelope : Envelope) :
    (st.trySendEnvelope ctx now tx envelope).2 =
      ((ctx.wire.encode (st.stampEnvelope now envelope)).isSome && st.hasRoom tx) := by
  simp only [trySendEnvelope, buildOutbound]
  cases ctx.wire.encode (st.stampEnvelope now envelope) with
  | none => rfl
  | some bytes => exact trySend_sent writeCapacity st.net tx _

theorem trySendEnvelope_posts (holds : envelope.payload = some payload) (spoken : speechOf payload = some word)
    (sent : (st.trySendEnvelope ctx now tx envelope).2 = true) :
    ∃ item, speechIn ctx.wire item = some word ∧
      (st.trySendEnvelope ctx now tx envelope).1.net = st.net.post tx item := by
  rw [trySendEnvelope_sent, Bool.and_eq_true, Option.isSome_iff_exists] at sent
  obtain ⟨⟨bytes, encoded⟩, room⟩ := sent
  refine ⟨_, (carries_stamped holds encoded).speech.trans spoken, ?_⟩
  have roomy : st.net.hasRoom writeCapacity tx = true := room
  simp only [trySendEnvelope, buildOutbound, encoded, Option.map_some, RouterState.trySend, Mailboxes.trySend]
  rw [if_pos roomy]

theorem trySendEnvelope_fails (failed : (st.trySendEnvelope ctx now tx envelope).2 = false) :
    (st.trySendEnvelope ctx now tx envelope).1.net = st.net := by
  rw [trySendEnvelope_sent] at failed
  simp only [trySendEnvelope, buildOutbound]
  cases encoded : ctx.wire.encode (st.stampEnvelope now envelope) with
  | none => rfl
  | some bytes =>
    have full : st.net.hasRoom writeCapacity tx = false := by
      simp only [encoded, Option.isSome_some, Bool.true_and] at failed
      exact failed
    simp [RouterState.trySend, trySend_full _ _ _ _ full]

theorem sendError_silent {code message} :
    Talk (Silent ctx) st (st.sendError ctx now tx code message) :=
  sendEnvelope_talk rfl fun _ => Carries.silent rfl

theorem reply_silent (plain : speechOf payload = none) :
    Talk (Silent ctx) st (st.reply ctx now msg messageId payload) :=
  sendEnvelope_talk rfl fun _ => Carries.silent plain

theorem publish_silent {event} : Conveys (Silent ctx) st (st.publish ctx now event) :=
  publish_conveys fun _ _ => Carries.silent rfl

theorem enableMac_silent {pluginId secret} :
    Talk (Silent ctx) st (st.enableMac ctx now msg pluginId secret) :=
  enableMac_talk fun _ => rfl

theorem handleRegister_enacts {register : PluginRegister} :
    Enacts ctx now .idle st (st.handleRegister ctx now msg messageId register).1 := by
  simp only [handleRegister]
  split
  next refusal _ =>
    refine Conveys.enacts (Talk.toConveys ?_)
    cases refusal with
    | protocolMismatch text => exact sendError_silent
    | rejected reason => exact sendEnvelope_talk rfl fun _ => Carries.silent rfl
  next manifest secret _ =>
    split
    · refine Conveys.enacts (Talk.toConveys ?_)
      exact sendEnvelope_talk rfl fun _ => Carries.silent rfl
    next registry done =>
      obtain ⟨_, _, _, inserted⟩ := registerPlugin_ok done
      have acknowledged : Talk (Silent ctx) (st.setRegistry registry)
          ((st.setRegistry registry).acknowledgeRegister ctx now msg messageId register.pluginId) :=
        sendEnvelope_talk rfl fun _ => Carries.silent rfl
      have armed (state : RouterState β) :
          Talk (Silent ctx) state (state.enableMac ctx now msg register.pluginId secret) := enableMac_silent
      have announced (state : RouterState β) :
          Conveys (Silent ctx) state (state.publishJoined ctx now register.pluginId) := publish_silent
      have talk := (acknowledged.trans (armed _)).toConveys.trans (announced _)
      refine ⟨?_, talk.shows, Turn.undelivered rfl⟩
      rw [talk.registry]
      exact inserted.pending

theorem handlePong_enacts : Enacts ctx now .idle st (st.handlePong now msg).1 := by
  simp only [handlePong]
  split
  · exact ⟨rfl, .refl st.net, Turn.undelivered rfl⟩
  · exact (Talk.refl st).enacts

theorem handleSubscribe_enacts :
    Enacts ctx now .idle st (st.handleSubscribe msg eventTypes).1 := by
  simp only [handleSubscribe]
  split <;> exact ⟨rfl, .refl st.net, Turn.undelivered rfl⟩

theorem handleUnsubscribe_enacts :
    Enacts ctx now .idle st (st.handleUnsubscribe msg eventTypes).1 := by
  simp only [handleUnsubscribe]
  split <;> exact ⟨rfl, .refl st.net, Turn.undelivered rfl⟩

theorem handleEventPublish_enacts {request} :
    Enacts ctx now .idle st (st.handleEventPublish ctx now msg messageId request).1 := by
  simp only [handleEventPublish]
  split
  · have published (senderId eventId : String) :
        Conveys (Silent ctx) st (st.publishFrom ctx now senderId eventId request) :=
      publishFrom_conveys fun _ _ _ => Carries.silent rfl
    exact ((published _ _).trans (reply_silent rfl).toConveys).enacts
  · exact (reply_silent rfl).enacts

theorem handleActionRequest_enacts {request : ActionRequest}
    (listed : st.registry.getByConnId msg.connId = some sender) :
    Enacts ctx now (payloadTurn ctx now msg messageId st sender (.actionRequest request)) st
      (st.handleActionRequest ctx now msg messageId request).1 := by
  obtain ⟨calls, quiet⟩ := routeAction_quiet ctx now st sender.pluginId request.action
  simp only [handleActionRequest, senderId_eq listed, payloadTurn]
  generalize st.routeAction ctx now sender.pluginId request.action = decided at quiet ⊢
  obtain ⟨rated, route⟩ := decided
  cases route with
  | ok provider =>
    subst quiet
    have sent : Talk (Silent ctx)
        ({ st with actionCalls := calls }.recordAction ctx now msg sender.pluginId request provider)
        ({ st with actionCalls := calls }.openAction ctx now msg messageId sender.pluginId request provider) :=
      sendEnvelope_talk rfl fun _ => Carries.silent rfl
    exact ⟨congrArg PluginRegistry.pendingActions sent.registry, sent.shows, Turn.undelivered rfl⟩
  | error status =>
    subst quiet
    exact ⟨congrArg PluginRegistry.pendingActions (trySendEnvelope_registry _ _ _ _ _), trySendEnvelope_shows rfl rfl,
      Turn.undelivered rfl⟩

theorem resolveActionResponse_none
    (absent : st.findProvided senderId response.actionId = none) :
    (st.registry.resolveActionResponse now response.actionId senderId (response.status = .ok)).2 = none := by
  simp only [findProvided, PluginRegistry.getPendingAction, Option.filter_eq_none_iff, beq_iff_eq] at absent
  simp only [PluginRegistry.resolveActionResponse, resolvePending]
  split
  · rfl
  next pending found => rw [if_pos (absent pending found)]

theorem resolveActionResponse_provided {pending}
    (provided : st.findProvided senderId response.actionId = some pending) :
    st.registry.resolveActionResponse now response.actionId senderId (response.status = .ok) =
      ({ st.registry with pendingActions :=
          (Turn.answered response.actionId pending response).table now.instant st.registry.pendingActions },
        some (if Turn.accepts pending response then
          { pending with sessionAccepted := true, lastActivity := now.instant } else pending)) := by
  obtain ⟨found, provider⟩ := findProvided_some.mp provided
  have stored : st.registry.pendingActions.get response.actionId = some pending := found
  cases accepting : Turn.accepts pending response with
  | true =>
    have passes : (decide (response.status = .ok) && pending.streaming) = true := accepting
    simp [PluginRegistry.resolveActionResponse, resolvePending, stored, provider, Turn.table, accepting, passes]
  | false =>
    have fails : (decide (response.status = .ok) && pending.streaming) = false := accepting
    simp [PluginRegistry.resolveActionResponse, resolvePending, stored, provider, Turn.table, accepting, fails]

theorem handleActionResponse_enacts
    (listed : st.registry.getByConnId msg.connId = some sender) :
    Enacts ctx now (payloadTurn ctx now msg messageId st sender (.actionResponse response)) st
      (st.handleActionResponse ctx now msg messageId response).1 := by
  simp only [handleActionResponse, listed, payloadTurn]
  cases provided : st.findProvided sender.pluginId response.actionId with
  | none =>
    have unresolved : (st.registry.resolveActionResponse now response.actionId sender.pluginId
        (response.status = .ok)).2 = none := resolveActionResponse_none provided
    generalize st.registry.resolveActionResponse now response.actionId sender.pluginId (response.status = .ok) =
      resolved at unresolved ⊢
    obtain ⟨registry, taken⟩ := resolved
    cases unresolved
    exact (Talk.refl st).enacts
  | some pending =>
    rw [resolveActionResponse_provided provided]
    refine ⟨congrArg PluginRegistry.pendingActions (trySendEnvelope_registry _ _ _ _ _), ?_, Turn.undelivered rfl⟩
    have spoken (address : Sender) (actionId : String) (state : RouterState β) :
        Mailboxes.Shows (speechIn ctx.wire) [(address, .response actionId)] state.net
          (state.sendEnvelope ctx now address
            { messageId, payload := some (.actionResponse { response with actionId }) }).net :=
      trySendEnvelope_shows rfl rfl
    cases Turn.accepts pending response with
    | true => exact spoken _ _ _
    | false => exact spoken _ _ _

theorem notifyRequester_shows {pending reason} :
    Mailboxes.Shows (speechIn ctx.wire) (Turn.lastWords pending) st.net
      (st.notifyRequester ctx now pending reason).net := by
  have told : Talk (Silent ctx) st (st.sendEnvelope ctx now pending.requesterWriteTx
      { payload := some (.actionStreamAbort { actionId := pending.originalActionId, reason }) }) :=
    sendEnvelope_talk rfl fun _ => Carries.silent rfl
  simp only [notifyRequester, Turn.lastWords]
  split
  · exact told.shows
  · exact told.shows.append (trySendEnvelope_shows rfl rfl)

theorem notifyForcedTermination_shows {key reason pending} :
    Mailboxes.Shows (speechIn ctx.wire) (Turn.lastWords pending) st.net
      (st.notifyForcedTermination ctx now key pending reason).net := by
  simp only [notifyForcedTermination]
  split
  next provider _ =>
    have told (state : RouterState β) : Talk (Silent ctx) state (state.sendEnvelope ctx now provider.writeTx
        { payload := some (.actionStreamAbort { actionId := key, reason }) }) :=
      sendEnvelope_talk rfl fun _ => Carries.silent rfl
    have both := notifyRequester_shows.append (told (st.notifyRequester ctx now pending reason)).shows
    rw [List.append_nil] at both
    exact both
  · exact notifyRequester_shows

theorem notifyForcedTermination_registry {key reason pending} :
    (st.notifyForcedTermination ctx now key pending reason).registry = st.registry := by
  have told : Talk Anything st (st.notifyForcedTermination ctx now key pending reason) :=
    notifyForcedTermination_talk (fun _ _ _ _ => trivial) fun _ _ _ _ => trivial
  exact told.registry

theorem abortStream_enacts (reason : String) {key pending} (found : st.registry.getPendingAction key = some pending)
    (touched : middle.registry = st.registry.touchPendingAction now key)
    (quiet : Mailboxes.Shows (speechIn ctx.wire) [] st.net middle.net) :
    (middle.abortStream ctx now key reason).registry.pendingActions =
        (st.registry.pendingActions.update key (Turn.touch now.instant)).erase key ∧
      Mailboxes.Shows (speechIn ctx.wire) (Turn.lastWords pending) st.net
        (middle.abortStream ctx now key reason).net := by
  have held : middle.registry.pendingActions.get key = some (Turn.touch now.instant pending) := by
    have stored : st.registry.pendingActions.get key = some pending := found
    rw [touched]
    simp [PluginRegistry.touchPendingAction, get_update, stored, Turn.touch]
  simp only [abortStream, PluginRegistry.takePendingAction, held]
  refine ⟨?_, ?_⟩
  · rw [notifyForcedTermination_registry]
    show (middle.registry.pendingActions.erase key) = _
    rw [touched]
    rfl
  · have told (state : RouterState β) : Mailboxes.Shows (speechIn ctx.wire)
        (Turn.lastWords (Turn.touch now.instant pending)) state.net
        (state.notifyForcedTermination ctx now key (Turn.touch now.instant pending) reason).net :=
      notifyForcedTermination_shows
    exact quiet.append (told (middle.setRegistry _))

section Chunks
variable {key : String} {pending : PendingAction} {payload : Payload} {word : Speech} {channel : Sender}

theorem chunkChannel_eq (registry : PluginRegistry) :
    chunkChannel ctx now messageId st tx payload = if ((st.setRegistry registry).trySendEnvelope ctx now tx
      { messageId, payload := some payload }).2 then some tx else none := by
  simp only [chunkChannel, trySendEnvelope_sent]
  rfl

theorem forwardChunk_queued (spoken : speechOf payload = some word)
    (queued : chunkChannel ctx now messageId st tx payload = some channel) :
    ((st.setRegistry (st.registry.touchPendingAction now key)).forwardChunk ctx now messageId tx key
        payload).registry = st.registry.touchPendingAction now key ∧
      ∃ item, speechIn ctx.wire item = some word ∧
        ((st.setRegistry (st.registry.touchPendingAction now key)).forwardChunk
        ctx now messageId tx key payload).net = st.net.post channel item := by
  rw [chunkChannel_eq (st.registry.touchPendingAction now key)] at queued
  generalize touched : st.setRegistry (st.registry.touchPendingAction now key) = state at queued ⊢
  split at queued
  next sent =>
    have same := Option.some.inj queued
    subst same
    have kept := trySendEnvelope_registry ctx now state tx { messageId, payload := some payload }
    obtain ⟨item, seen, net⟩ := trySendEnvelope_posts rfl spoken sent
    simp only [forwardChunk]
    generalize state.trySendEnvelope ctx now tx { messageId, payload := some payload } = result at sent net kept ⊢
    obtain ⟨later, flag⟩ := result
    cases sent
    subst touched
    exact ⟨kept, item, seen, net⟩
  · cases queued

theorem forwardChunk_refused {tx} (found : st.registry.getPendingAction key = some pending)
    (refused : chunkChannel ctx now messageId st tx payload = none) :
    ((st.setRegistry (st.registry.touchPendingAction now key)).forwardChunk ctx now messageId tx key
        payload).registry.pendingActions = (st.registry.pendingActions.update key (Turn.touch now.instant)).erase key ∧
      Mailboxes.Shows (speechIn ctx.wire) (Turn.lastWords pending) st.net ((st.setRegistry
        (st.registry.touchPendingAction now key)).forwardChunk ctx now messageId tx key payload).net := by
  rw [chunkChannel_eq (st.registry.touchPendingAction now key)] at refused
  generalize touched : st.setRegistry (st.registry.touchPendingAction now key) = state at refused ⊢
  split at refused
  · cases refused
  next failed =>
    have failed := Bool.not_eq_true _ ▸ failed
    have kept := trySendEnvelope_registry ctx now state tx { messageId, payload := some payload }
    have net := trySendEnvelope_fails failed
    simp only [forwardChunk]
    generalize state.trySendEnvelope ctx now tx { messageId, payload := some payload } = result at failed net kept ⊢
    obtain ⟨later, flag⟩ := result
    cases failed
    subst touched
    apply abortStream_enacts _ found kept
    rw [net]
    exact .refl st.net

/-- Forwarding a chunk in either direction: `act` is the turn by the channel the
chunk was queued on. -/
theorem forwardChunk_enacts (act : Option Sender → Turn) (found : st.registry.getPendingAction key = some pending)
    (spoken : speechOf payload = some word)
    (passes : ∀ channel, (act (some channel)).delivered = some (channel, word) ∧
      (act (some channel)).said = [(channel, word)] ∧
      (act (some channel)).table now.instant st.registry.pendingActions =
        st.registry.pendingActions.update key (Turn.touch now.instant))
    (ends : (act none).delivered = none ∧ (act none).said = Turn.lastWords pending ∧
      (act none).table now.instant st.registry.pendingActions =
        (st.registry.pendingActions.update key (Turn.touch now.instant)).erase key) :
    Enacts ctx now (act (chunkChannel ctx now messageId st tx payload)) st
      ((st.setRegistry (st.registry.touchPendingAction now key)).forwardChunk ctx now messageId tx key payload) := by
  cases queued : chunkChannel ctx now messageId st tx payload with
  | none =>
    obtain ⟨table, shows⟩ := forwardChunk_refused found queued
    obtain ⟨nothing, words, erased⟩ := ends
    refine ⟨table.trans erased.symm, words ▸ shows, ?_⟩
    intro channel word passed
    rw [nothing] at passed
    cases passed
  | some channel =>
    obtain ⟨registry, item, seen, net⟩ := forwardChunk_queued spoken queued
    obtain ⟨delivered, words, touched⟩ := passes channel
    refine ⟨(congrArg PluginRegistry.pendingActions registry).trans touched.symm, ?_, ?_⟩
    · rw [words, net]
      exact post_shows st.net channel seen
    · intro receiver other passed
      rw [delivered] at passed
      cases passed
      exact ⟨item, seen, net⟩

theorem handleActionRequestChunk_enacts {chunk : ActionRequestChunk}
    (listed : st.registry.getByConnId msg.connId = some sender) :
    Enacts ctx now (payloadTurn ctx now msg messageId st sender (.actionRequestChunk chunk)) st
      (st.handleActionRequestChunk ctx now msg messageId chunk).1 := by
  simp only [handleActionRequestChunk, senderId_eq listed, payloadTurn]
  cases requested : st.findRequested sender.pluginId chunk.actionId with
  | none => exact (Talk.refl st).enacts
  | some entry =>
    obtain ⟨key, pending⟩ := entry
    have found : st.registry.getPendingAction key = some pending := (findRequested_some requested).1
    have touched : (st.setRegistry (st.registry.touchPendingAction now key)).registry =
        st.registry.touchPendingAction now key := rfl
    have sameEntries : (st.registry.touchPendingAction now key).get pending.providerId =
        st.registry.get pending.providerId := rfl
    simp only [touched, sameEntries, requestChannel]
    cases st.registry.get pending.providerId with
    | none =>
      obtain ⟨table, shows⟩ := abortStream_enacts "provider disconnected" found touched (.refl st.net)
      exact ⟨table, shows, Turn.undelivered rfl⟩
    | some provider =>
      exact forwardChunk_enacts (.requested key pending chunk) found rfl (fun _ => ⟨rfl, rfl, rfl⟩) ⟨rfl, rfl, rfl⟩

theorem handleActionResponseChunk_enacts {chunk} (listed : st.registry.getByConnId msg.connId = some sender) :
    Enacts ctx now (payloadTurn ctx now msg messageId st sender (.actionResponseChunk chunk)) st
      (st.handleActionResponseChunk ctx now msg messageId chunk).1 := by
  simp only [handleActionResponseChunk, listed, payloadTurn]
  cases provided : st.findProvided sender.pluginId chunk.actionId with
  | none => exact (Talk.refl st).enacts
  | some pending =>
    have found : st.registry.getPendingAction chunk.actionId = some pending := (findProvided_some.mp provided).1
    exact forwardChunk_enacts (.replied chunk.actionId pending chunk) found rfl (fun _ => ⟨rfl, rfl, rfl⟩) ⟨rfl, rfl, rfl⟩

end Chunks

theorem forwardClose_silent {key pending fromProvider} :
    Talk (Silent ctx) st (st.forwardClose ctx now messageId key pending fromProvider close) := by
  simp only [forwardClose]
  split
  · exact sendEnvelope_talk rfl fun _ => Carries.silent rfl
  · split
    · exact .refl st
    · exact sendEnvelope_talk rfl fun _ => Carries.silent rfl

theorem handleSessionClose_enacts
    (listed : st.registry.getByConnId msg.connId = some sender) :
    Enacts ctx now (payloadTurn ctx now msg messageId st sender (.sessionClose close)) st
      (st.handleSessionClose ctx now msg messageId close).1 := by
  simp only [handleSessionClose, listed, payloadTurn]
  cases st.findSession sender.pluginId close.actionId with
  | none => exact sendError_silent.enacts
  | some session =>
    obtain ⟨key, pending, fromProvider⟩ := session
    dsimp only
    cases pending.sessionAccepted with
    | false => exact sendError_silent.enacts
    | true =>
      have told : Talk (Silent ctx) st (st.forwardClose ctx now messageId key pending fromProvider close) :=
        forwardClose_silent
      refine ⟨?_, told.shows, Turn.undelivered rfl⟩
      show (PluginRegistry.takePendingAction _ key).1.pendingActions = _
      rw [told.registry]
      rfl

theorem handlePayload_enacts (listed : st.registry.getByConnId msg.connId = some sender) :
    Enacts ctx now (payloadTurn ctx now msg messageId st sender payload) st
      (st.handlePayload ctx now msg messageId payload).1 := by
  cases payload with
  | pluginRegister register => exact handleRegister_enacts
  | ping timestamp => exact (reply_silent rfl).enacts
  | pong _ _ => exact handlePong_enacts
  | subscribe eventTypes => exact handleSubscribe_enacts
  | unsubscribe eventTypes => exact handleUnsubscribe_enacts
  | eventPublish request => exact handleEventPublish_enacts
  | actionRequest request => exact handleActionRequest_enacts listed
  | actionResponse response => exact handleActionResponse_enacts listed
  | actionRequestChunk chunk => exact handleActionRequestChunk_enacts listed
  | actionResponseChunk chunk => exact handleActionResponseChunk_enacts listed
  | sessionClose close => exact handleSessionClose_enacts listed
  | kernelCommand command => exact (reply_silent rfl).enacts
  | eventAck eventId => exact ⟨rfl, .refl st.net, Turn.undelivered rfl⟩
  | pluginRegisterAck | event | eventPublishAck | actionStreamAbort | kernelCommandAck | pluginShutdown | error | other =>
    exact sendError_silent.enacts

theorem handleKernelMessage_enacts :
    Enacts ctx now (kernelTurn ctx now msg st) st (st.handleKernelMessage ctx now msg).1 := by
  simp only [handleKernelMessage, kernelTurn, PluginRegistry.isRegistered_eq]
  cases ctx.wire.decode msg.frame.payload with
  | none => exact sendError_silent.enacts
  | some envelope =>
    dsimp only
    cases listed : st.registry.getByConnId msg.connId with
    | none =>
      -- an unregistered sender gets as far as a registration
      cases holds : envelope.payload with
      | none => exact sendError_silent.enacts
      | some payload =>
        cases payload with
        | pluginRegister register => exact handleRegister_enacts
        | _ => exact sendError_silent.enacts
    | some sender =>
      simp only [Option.isSome_some, Bool.not_true, Bool.and_false, Bool.false_eq_true, if_false]
      cases envelope.payload with
      | none => exact sendError_silent.enacts
      | some payload => exact handlePayload_enacts listed

theorem forward_table {target} :
    (st.forward ctx now msg target).1.registry.pendingActions =
      (peerTurn ctx now msg st target).table now.instant st.registry.pendingActions := by
  simp only [forward, peerTurn]
  cases authorizeForward st.registry msg target with
  | error denial => exact congrArg PluginRegistry.pendingActions (trySendEnvelope_registry _ _ _ _ _)
  | ok sender =>
    dsimp only
    cases st.registry.getMux target with
    | none =>
      have relayed : (st.relayToHost msg).1.registry = st.registry := by
        simp only [relayToHost]
        split <;> rfl
      dsimp only
      split
      · exact congrArg PluginRegistry.pendingActions relayed
      · exact congrArg PluginRegistry.pendingActions ((trySendEnvelope_registry _ _ _ _ _).trans relayed)
    | some provider =>
      show (st.recordDirect ctx now msg target sender provider).pendingActions = _
      simp only [recordDirect]
      cases directRequest ctx.wire msg.frame with
      | none => rfl
      | some request => cases Text.contains target '.' <;> rfl

theorem broadcast_registry : (st.broadcast ctx now msg).1.registry = st.registry := by
  simp only [broadcast]
  split
  · exact trySendEnvelope_registry _ _ _ _ _
  · have told (sender : PluginEntry) : Talk Anything st (broadcastTo msg sender st.registry.list st) :=
      broadcastTo_talk fun _ _ _ _ _ => trivial
    exact (told _).registry

theorem chunkChannel_some {channel : Sender}
    (queued : chunkChannel ctx now messageId st tx payload = some channel) : tx = channel := by
  simp only [chunkChannel] at queued
  split at queued
  · exact Option.some.inj queued
  · cases queued

/-- What a payload of a registered sender may mean, with what the router has found for it. -/
inductive Meant (ctx : Context β) (now : Moment) (msg : IncomingMessage β) (st : RouterState β)
    (sender : PluginEntry) : Payload → Turn → Prop where
  | idle {payload : Payload} : Meant ctx now msg st sender payload .idle
  | denied {request} :
      Meant ctx now msg st sender (.actionRequest request) (.denied msg.writeTx request)
  | routed {request provider} (routed : (st.routeAction ctx now sender.pluginId request.action).2 = .ok provider) :
      Meant ctx now msg st sender (.actionRequest request)
        (.routed st.internalActionId (routedPending ctx now msg sender.pluginId request provider))
  | answered {response pending} (found : st.registry.getPendingAction response.actionId = some pending)
      (own : pending.providerId = sender.pluginId) :
      Meant ctx now msg st sender (.actionResponse response) (.answered response.actionId pending response)
  | requested {chunk key pending queued}
      (found : st.registry.getPendingAction key = some pending) (own : pending.requesterId = sender.pluginId)
      (aimed : ∀ tx, queued = some tx → ∃ provider, st.registry.get pending.providerId = some provider ∧
        provider.writeTx = tx) :
      Meant ctx now msg st sender (.actionRequestChunk chunk) (.requested key pending chunk queued)
  | replied {chunk pending queued}
      (found : st.registry.getPendingAction chunk.actionId = some pending) (own : pending.providerId = sender.pluginId)
      (aimed : ∀ tx, queued = some tx → pending.requesterWriteTx = tx) :
      Meant ctx now msg st sender (.actionResponseChunk chunk) (.replied chunk.actionId pending chunk queued)
  | closed {close key pending}
      (found : st.registry.getPendingAction key = some pending) (accepted : pending.sessionAccepted = true)
      (party : pending.requesterId = sender.pluginId ∨ pending.providerId = sender.pluginId) :
      Meant ctx now msg st sender (.sessionClose close) (.closed key pending)

theorem payloadTurn_meant (sender : PluginEntry) (payload : Payload) :
    Meant ctx now msg st sender payload (payloadTurn ctx now msg messageId st sender payload) := by
  cases payload with
  | actionRequest request =>
    simp only [payloadTurn]
    split
    · exact .denied
    next provider routed => exact .routed routed
  | actionResponse response =>
    simp only [payloadTurn]
    split
    · exact .idle
    next pending provided =>
      obtain ⟨found, own⟩ := findProvided_some.mp provided
      exact .answered found own
  | actionRequestChunk chunk =>
    simp only [payloadTurn]
    split
    · exact .idle
    next key pending requested =>
      obtain ⟨found, own, _⟩ := findRequested_some requested
      refine .requested found own fun tx queued => ?_
      simp only [requestChannel] at queued
      split at queued
      · cases queued
      next provider known => exact ⟨provider, known, chunkChannel_some queued⟩
  | actionResponseChunk chunk =>
    simp only [payloadTurn]
    split
    · exact .idle
    next pending provided =>
      obtain ⟨found, own⟩ := findProvided_some.mp provided
      exact .replied found own fun _ => chunkChannel_some
  | sessionClose close =>
    simp only [payloadTurn]
    split
    · exact .idle
    next key pending fromProvider session =>
      obtain ⟨found, party⟩ := findSession_party session
      split
      next accepted => exact .closed found accepted party
      · exact .idle
  | _ => exact .idle

section Turns
variable (ctx : Context β) (now : Moment) (msg : IncomingMessage β) (st : RouterState β)

/-- Where a turn comes from: nothing, a direct call, or a message to the kernel. -/
theorem turn_origin : turn ctx now msg st = .idle ∨
    (∃ sender provider request, st.registry.getByConnId msg.connId = some sender ∧
      turn ctx now msg st = .called request.actionId (directPending now msg sender provider request)) ∨
    ∃ sender payload, ToKernel ctx msg payload ∧ st.registry.getByConnId msg.connId = some sender ∧
      Meant ctx now msg (st.checkIpcRate ctx now msg).1 sender payload (turn ctx now msg st) := by
  rw [← checkIpcRate_registry ctx now msg st]
  simp only [turn]
  split
  · split
    · exact .inl rfl
    next target addressed =>
      split
      next toKernel =>
        simp only [kernelTurn]
        split
        · exact .inl rfl
        next envelope decoded =>
          split
          next known holds =>
            exact .inr (.inr ⟨_, _, ⟨toKernel ▸ addressed, envelope, decoded, holds⟩, known, payloadTurn_meant _ _⟩)
          · exact .inl rfl
      · split
        · exact .inl rfl
        · simp only [peerTurn]
          split
          next authorized _ _ =>
            split
            · exact .inr (.inl ⟨_, _, _, (authorizeForward_ok_iff.mp authorized).1, rfl⟩)
            · exact .inl rfl
          · exact .inl rfl
  · exact .inl rfl

theorem turn_fits :
    (turn ctx now msg st).Fits st.registry.pendingActions ∧ (turn ctx now msg st).Aimed st.registry := by
  rcases turn_origin ctx now msg st with idle | ⟨_, _, _, _, called⟩ | ⟨sender, payload, _, _, meant⟩
  · rw [idle]
    exact ⟨trivial, trivial⟩
  · rw [called]
    exact ⟨rfl, trivial⟩
  · rw [← checkIpcRate_registry ctx now msg st]
    generalize turn ctx now msg st = turn at meant ⊢
    cases meant with
    | idle | denied => exact ⟨trivial, trivial⟩
    | routed => exact ⟨rfl, trivial⟩
    | answered found => exact ⟨found, trivial⟩
    | closed found accepted => exact ⟨⟨found, accepted⟩, trivial⟩
    | @requested _ _ _ queued found _ aimed | @replied _ _ queued found _ aimed =>
      refine ⟨found, ?_⟩
      cases queued with
      | none => trivial
      | some tx => exact aimed tx rfl

theorem turn_opens {key} (opened : (turn ctx now msg st).opens key = true) :
    ∃ sender provider request, st.registry.getByConnId msg.connId = some sender ∧
      (turn ctx now msg st = .called key (directPending now msg sender provider request) ∨
        ((st.checkIpcRate ctx now msg).1.routeAction ctx now sender.pluginId request.action).2 = .ok provider ∧
        turn ctx now msg st = .routed key (routedPending ctx now msg sender.pluginId request provider)) := by
  rcases turn_origin ctx now msg st with
    idle | ⟨sender, provider, request, known, called⟩ | ⟨sender, payload, _, known, meant⟩
  · rw [idle] at opened
    cases opened
  · rw [called] at opened ⊢
    have chosen : request.actionId = key := by simpa [Turn.opens] using opened
    exact ⟨sender, provider, request, known, .inl (chosen ▸ rfl)⟩
  · generalize turn ctx now msg st = turn at meant opened ⊢
    cases meant with
    | @routed request provider routed =>
      have minted : (st.checkIpcRate ctx now msg).1.internalActionId = key := by simpa [Turn.opens] using opened
      exact ⟨sender, provider, request, known, .inr ⟨routed, by rw [minted]⟩⟩
    | _ => cases opened

theorem turn_own (active : turn ctx now msg st ≠ .idle)
    (notCall : ∀ key pending, turn ctx now msg st ≠ .called key pending) :
    ctx.wire.targetAsStr msg.frame.target = some "kernel" := by
  rcases turn_origin ctx now msg st with idle | ⟨_, _, _, _, called⟩ | ⟨_, _, arrived, _⟩
  · exact absurd idle active
  · exact absurd called (notCall _ _)
  · exact arrived.1

end Turns

theorem Enacts.outcome {turn errored} (enacts : Enacts ctx now turn st middle) :
    Enacts ctx now turn st (middle.recordOutcome ctx now msg errored) := by
  obtain ⟨counts, quiet⟩ := recordOutcome_quiet ctx now msg middle errored
  rw [quiet]
  exact ⟨enacts.table, enacts.shows, enacts.delivers⟩

section Routing
variable (ctx : Context β) (now : Moment) (msg : IncomingMessage β) (st : RouterState β)

theorem turn_refused (refused : admits ctx now msg st = false) : turn ctx now msg st = .idle := by
  simp [turn, refused]

/-- What a message that is not for a peer does to the pending actions, says and
passes on. -/
theorem routeMessage_enacts (own : ∀ target, ctx.wire.targetAsStr msg.frame.target = some target → target = "kernel") :
    Enacts ctx now (turn ctx now msg st) st (st.routeMessage ctx now msg).1 := by
  have checked : Enacts ctx now (turn ctx now msg st) (st.checkIpcRate ctx now msg).1
      (st.routeMessage ctx now msg).1 := by
    cases passes : admits ctx now msg st with
    | false =>
      rw [turn_refused ctx now msg st passes]
      have refusal := routeMessage_refused passes
      refine ⟨congrArg PluginRegistry.pendingActions refusal.registry, Mailboxes.Adds.shows ?_, Turn.undelivered rfl⟩
      apply refusal.sends.mono
      intro tx item said
      obtain ⟨error, carries⟩ := said
      exact carries.speech
    | true =>
      cases addressed : ctx.wire.targetAsStr msg.frame.target with
      | none =>
        have within : (st.checkIpcRate ctx now msg).2 = true := by
          simp only [admits, Bool.and_eq_true] at passes
          exact passes.1
        simp only [turn, passes, addressed, if_true, routeMessage, routeTarget, within]
        exact sendError_silent.enacts
      | some target =>
        have kernel := own target addressed
        subst kernel
        rw [routeMessage_handled passes addressed]
        simp only [turn, passes, addressed, if_true, handleTarget]
        exact handleKernelMessage_enacts.outcome
  obtain ⟨calls, quiet⟩ := checkIpcRate_quiet ctx now msg st
  rw [quiet] at checked
  exact ⟨checked.table, checked.shows, checked.delivers⟩

theorem routeMessage_table : (st.routeMessage ctx now msg).1.registry.pendingActions =
    (turn ctx now msg st).table now.instant st.registry.pendingActions := by
  by_cases own : ∀ target, ctx.wire.targetAsStr msg.frame.target = some target → target = "kernel"
  · exact (routeMessage_enacts ctx now msg st own).table
  · simp only [not_forall] at own
    obtain ⟨target, addressed, notKernel⟩ := own
    rw [← checkIpcRate_registry ctx now msg st]
    cases passes : admits ctx now msg st with
    | false =>
      rw [turn_refused ctx now msg st passes]
      exact congrArg PluginRegistry.pendingActions (routeMessage_refused passes).registry
    | true =>
      rw [routeMessage_handled passes addressed, recordOutcome_registry]
      simp only [turn, passes, addressed, if_true, handleTarget, notKernel, if_false]
      split
      · exact congrArg PluginRegistry.pendingActions broadcast_registry
      · exact forward_table

end Routing

section Prune

def expiredActions (registry : PluginRegistry) (now : Nat) : List (String × PendingAction) :=
  registry.pendingActions.toList.filter fun (_, pending) => !pending.sessionAccepted && decide (pending.deadline ≤ now)

theorem takeEach_taken (keys : List String) (pendingActions : DashMap String PendingAction) (distinct : keys.Nodup) :
    (takeEach pendingActions keys).2 =
      keys.filterMap fun key => (pendingActions.get key).map fun pending => (key, pending) := by
  induction keys generalizing pendingActions with
  | nil => rfl
  | cons key rest ih =>
    obtain ⟨new, distinct⟩ := List.nodup_cons.mp distinct
    have later : rest.filterMap
        (fun other => (DashMap.get (pendingActions.erase key) other).map fun pending => (other, pending)) =
        rest.filterMap fun other => (pendingActions.get other).map fun pending => (other, pending) := by
      apply List.filterMap_congr
      intro other member
      have different : other ≠ key := fun same => new (same ▸ member)
      rw [get_erase, if_neg different]
    simp only [takeEach, List.filterMap_cons]
    cases found : pendingActions.get key with
    | none => simp only [Option.map_none, ih _ distinct, later]
    | some pending => simp only [Option.map_some, ih _ distinct, later]

theorem takeEach_selected (pendingActions : DashMap String PendingAction) (select : String × PendingAction → Bool) :
    (takeEach pendingActions ((pendingActions.toList.filter select).map Prod.fst)).2 =
      pendingActions.toList.filter select := by
  rw [takeEach_taken _ _ (nodup_keys_filter pendingActions select), List.filterMap_map]
  have each : ∀ entry ∈ pendingActions.toList.filter select,
      ((fun key => (pendingActions.get key).map fun pending => (key, pending)) ∘ Prod.fst) entry = some entry := by
    intro entry member
    have found := (mem_toList _ entry.1 entry.2).mp (List.mem_of_mem_filter member)
    simp [found]
  rw [List.filterMap_congr each, List.filterMap_some]

theorem expired_selected {registry now} :
    (registry.sweepExpiredActions now).2 = (expiredActions registry now).map Prod.snd :=
  congrArg (List.map Prod.snd) (takeEach_selected registry.pendingActions _)

variable (ctx : Context β) (now : Moment) (st : RouterState β)

theorem answerExpired_shows (expired : List PendingAction) :
    Mailboxes.Shows (speechIn ctx.wire)
      (expired.map fun pending => (pending.requesterWriteTx, .response pending.originalActionId))
      st.net (answerExpired ctx now expired st).net := by
  induction expired generalizing st with
  | nil => exact .refl st.net
  | cons pending rest ih => exact (trySendEnvelope_shows rfl rfl).append (ih _)

theorem endIdle_shows (idle : List (String × PendingAction)) (accepted : ∀ entry ∈ idle, entry.2.sessionAccepted = true) :
    Mailboxes.Shows (speechIn ctx.wire) [] st.net (endIdle ctx now idle st).net := by
  induction idle generalizing st with
  | nil => exact .refl st.net
  | cons entry rest ih =>
    obtain ⟨key, pending⟩ := entry
    have running : pending.sessionAccepted = true := accepted (key, pending) List.mem_cons_self
    have quiet : Turn.lastWords pending = [] := by simp [Turn.lastWords, running]
    have told : Mailboxes.Shows (speechIn ctx.wire) (Turn.lastWords pending) st.net
        (st.notifyForcedTermination ctx now key pending "idle timeout").net := notifyForcedTermination_shows
    rw [quiet] at told
    exact told.append (ih _ fun entry member => accepted entry (List.mem_cons_of_mem _ member))

theorem sweepExpired_shows : Mailboxes.Shows (speechIn ctx.wire)
    ((expiredActions st.registry now.instant).map fun entry =>
      (entry.2.requesterWriteTx, .response entry.2.originalActionId))
    st.net (st.sweepExpired ctx now).net := by
  have answered := answerExpired_shows ctx now
    (st.setRegistry (st.registry.sweepExpiredActions now.instant).1) (st.registry.sweepExpiredActions now.instant).2
  rw [expired_selected, List.map_map] at answered
  rw [← expired_selected] at answered
  exact answered

theorem pruneTick_shows : Mailboxes.Shows (speechIn ctx.wire)
    ((expiredActions st.registry now.instant).map fun entry =>
      (entry.2.requesterWriteTx, .response entry.2.originalActionId))
    st.net (st.pruneTick ctx now).net := by
  have answered := sweepExpired_shows ctx now st
  simp only [pruneTick, sweepIdle]
  split
  · exact answered
  next idleSecs _ =>
    have ended := endIdle_shows ctx now ((st.sweepExpired ctx now).setRegistry
        ((st.sweepExpired ctx now).registry.sweepIdleSessions now.instant (fromSecs idleSecs)).1)
      ((st.sweepExpired ctx now).registry.sweepIdleSessions now.instant (fromSecs idleSecs)).2 ?_
    · have both := answered.append ended
      rw [List.append_nil] at both
      exact both
    · intro entry member
      have selected : ((st.sweepExpired ctx now).registry.sweepIdleSessions now.instant (fromSecs idleSecs)).2 = _ :=
        takeEach_selected (st.sweepExpired ctx now).registry.pendingActions _
      rw [selected] at member
      have passed := (List.mem_filter.mp member).2
      simp only [Bool.and_eq_true] at passed
      exact passed.1

theorem sweepExpired_table : (st.sweepExpired ctx now).registry.pendingActions =
    (takeEach st.registry.pendingActions ((expiredActions st.registry now.instant).map Prod.fst)).1 := by
  rw [(sweepExpired_talk ctx now st).registry]
  rfl

end Prune

section Steps
variable {kernel next : Kernel β} {action : Action β}

/-- A step of the running kernel: a message or a tick of the router, or a step of
another task, which neither changes the pending actions nor says anything. -/
inductive PendingStep (ctx : Context β) (kernel next : Kernel β) : Action β → Prop where
  | routed {now msg rest}
      (head : kernel.incoming = msg :: rest) (router : next.router = (kernel.router.routeMessage ctx now msg).1) :
      PendingStep ctx kernel next (.route now)
  | pruned {now : Moment} (router : next.router = kernel.router.pruneTick ctx now) :
      PendingStep ctx kernel next (.prune now)
  | other {action : Action β} (notRoute : ∀ now, action ≠ .route now) (notPrune : ∀ now, action ≠ .prune now)
      (pending : next.router.registry.pendingActions = kernel.router.registry.pendingActions)
      (unspoken : ∀ tx, (Mailboxes.added kernel.router.net next.router.net tx).filterMap (speechIn ctx.wire) = []) :
      PendingStep ctx kernel next action

theorem Conveys.unspoken (talk : Conveys (Silent ctx) st after) (tx : Sender) :
    (Mailboxes.added st.net after.net tx).filterMap (speechIn ctx.wire) = [] :=
  List.sublist_nil.mp (talk.shows.added tx)

theorem step_pending (step : kernel.step ctx action = some next) : PendingStep ctx kernel next action := by
  have unsaid (tx : Sender) :
      (Mailboxes.added kernel.router.net kernel.router.net tx).filterMap (speechIn ctx.wire) = [] :=
    congrArg (List.filterMap (speechIn ctx.wire)) (added_self kernel.router.net tx)
  cases kernel_step step with
  | route head => exact .routed head rfl
  | prune => exact .pruned rfl
  | @publishLeft _ now | @publishDied _ now =>
    exact .other nofun nofun (congrArg PluginRegistry.pendingActions (publish_registry ctx now kernel.router _))
      publish_silent.unspoken
  | ping told =>
    have talk : Talk (Silent ctx) kernel.router _ := told fun _ _ carries => carries.speech
    exact .other nofun nofun (congrArg PluginRegistry.pendingActions talk.registry) talk.unspoken
  | unregister | stop => exact .other nofun nofun (unregister_pending _ _) unsaid
  | bridgeUp _ done =>
    have inserted : Inserted kernel.router.registry _ _ := insertEntry_ok done
    exact .other nofun nofun inserted.pending unsaid
  | drain => exact .other nofun nofun rfl fun _ => congrArg (List.filterMap _) (added_drain _ _ _)
  | close => exact .other nofun nofun rfl fun _ => congrArg (List.filterMap _) (added_close _ _ _)
  | bridgeDown =>
    exact .other nofun nofun (unregister_pending _ _) fun _ => congrArg (List.filterMap _) (added_close _ _ _)
  | _ => exact .other nofun nofun rfl unsaid

end Steps
end Vynkor.Proofs
