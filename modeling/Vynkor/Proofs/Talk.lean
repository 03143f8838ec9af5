import Vynkor.Router

/-! Sending changes neither the registry nor the subscriptions. `Talk` states
this once for every helper that sends, together with what it may have appended
and to whom. What a publication does is the weaker `Conveys`: it also stores the event. -/

namespace Vynkor.Proofs
open RouterState

variable {β : Type} {ctx : Context β} {now : Moment} {allowed : Sender → Outbound β → Prop}
  {st middle after : RouterState β} {tx : Sender} {payload : Payload} {item : Outbound β} {pending : PendingAction}
  {msg : IncomingMessage β} {envelope : Envelope}

structure Records where
  store : Option EventStore
  eventSeq : Nat

def records {β : Type} (st : RouterState β) : Records where
  store := st.store
  eventSeq := st.eventSeq

/-- From `st` to `after` the router only appended items that `allowed` accepts,
apart from its counters and the outbox. -/
structure Conveys (allowed : Sender → Outbound β → Prop) (st after : RouterState β) : Prop where
  registry : after.registry = st.registry
  bus : after.bus = st.bus
  bridge : after.bridge = st.bridge
  budgets : after.errorCounts = st.errorCounts
  rated : after.ipcCalls = st.ipcCalls
  sends : Mailboxes.Adds allowed st.net after.net

structure Talk (allowed : Sender → Outbound β → Prop) (st after : RouterState β) : Prop extends
    Conveys allowed st after where
  records : records after = records st

/-- The item is a frame that the kernel encoded around the payload. -/
def Carries (ctx : Context β) (payload : Payload) (item : Outbound β) : Prop :=
  ∃ target envelope bytes, envelope.payload = some payload ∧ ctx.wire.encode envelope = some bytes ∧
    item = .frame (buildFrame ctx.wire target 0 bytes)

theorem carries_stamped {envelope} (holds : envelope.payload = some payload) {bytes}
    (encoded : ctx.wire.encode (st.stampEnvelope now envelope) = some bytes) :
    Carries ctx payload (.frame (buildFrame ctx.wire "client" 0 bytes)) :=
  ⟨"client", st.stampEnvelope now envelope, bytes, holds, encoded, rfl⟩

/-- Sends of frames that the kernel builds, whatever they contain. -/
abbrev Built (ctx : Context β) (_ : Sender) (item : Outbound β) : Prop :=
  ∃ target bytes, item = .frame (buildFrame ctx.wire target 0 bytes)

theorem Carries.built (carries : Carries ctx payload item) :
    Built ctx tx item := by
  obtain ⟨target, _, bytes, _, _, built⟩ := carries
  exact ⟨target, bytes, built⟩

def payloadIn (wire : Wire β) : Outbound β → Option Payload
  | .frame frame => (wire.decode frame.payload).bind fun envelope => envelope.payload
  | .enableMac _ => none

def requestIn (wire : Wire β) (item : Outbound β) : Option ActionRequest :=
  (payloadIn wire item).bind Payload.actionRequest?

theorem Carries.payloadIn (carries : Carries ctx payload item) :
    payloadIn ctx.wire item = some payload := by
  obtain ⟨target, envelope, bytes, holds, encoded, rfl⟩ := carries
  simp [Proofs.payloadIn, buildFrame, ctx.wire.decode_encode envelope bytes encoded, holds]

theorem Carries.request (carries : Carries ctx payload item) :
    requestIn ctx.wire item = payload.actionRequest? := by
  simp [requestIn, carries.payloadIn]

theorem Conveys.trans (first : Conveys allowed st middle) (last : Conveys allowed middle after) :
    Conveys allowed st after where
  registry := last.registry.trans first.registry
  bus := last.bus.trans first.bus
  bridge := last.bridge.trans first.bridge
  budgets := last.budgets.trans first.budgets
  rated := last.rated.trans first.rated
  sends := first.sends.trans last.sends

theorem talk_of_adds {net msgSeq} (adds : Mailboxes.Adds allowed st.net net) :
    Talk allowed st { st with net, msgSeq } :=
  ⟨⟨rfl, rfl, rfl, rfl, rfl, adds⟩, rfl⟩

theorem Talk.refl (st : RouterState β) : Talk allowed st st := talk_of_adds (.refl st.net)

theorem Talk.trans (first : Talk allowed st middle) (last : Talk allowed middle after) : Talk allowed st after :=
  ⟨first.toConveys.trans last.toConveys, last.records.trans first.records⟩

theorem trySend_talk (permitted : st.hasRoom tx = true → allowed tx item) :
    Talk allowed st (st.trySend tx item).1 :=
  talk_of_adds (Mailboxes.trySend_adds writeCapacity st.net tx item permitted)

section
variable (holds : envelope.payload = some payload) (permitted : ∀ item, Carries ctx payload item → allowed tx item)
include holds permitted

theorem trySendEnvelope_talk : Talk allowed st (st.trySendEnvelope ctx now tx envelope).1 := by
  simp only [trySendEnvelope, buildOutbound]
  cases encoded : ctx.wire.encode (st.stampEnvelope now envelope) with
  | none => exact talk_of_adds (.refl st.net)
  | some bytes =>
    exact talk_of_adds (Mailboxes.trySend_adds writeCapacity st.net tx _
      fun _ => permitted _ (carries_stamped holds encoded))

theorem sendEnvelope_talk : Talk allowed st (st.sendEnvelope ctx now tx envelope) :=
  trySendEnvelope_talk holds permitted

end

def isNotice : Payload → Bool
  | .actionRequestChunk _ | .actionResponse _ | .actionResponseChunk _ | .actionStreamAbort _ | .sessionClose _ => true
  | _ => false

theorem isNotice_plain (notice : isNotice payload = true) : payload.actionRequest? = none := by
  cases payload with
  | actionRequest => cases notice
  | _ => rfl

theorem notifyRequester_talk {reason}
    (permitted : ∀ payload item, isNotice payload = true → Carries ctx payload item →
      allowed pending.requesterWriteTx item) :
    Talk allowed st (st.notifyRequester ctx now pending reason) := by
  have told : Talk allowed st (st.sendEnvelope ctx now pending.requesterWriteTx
      { payload := some (.actionStreamAbort { actionId := pending.originalActionId, reason }) }) :=
    sendEnvelope_talk rfl fun item => permitted _ item rfl
  simp only [notifyRequester]
  split
  · exact told
  · exact told.trans (sendEnvelope_talk rfl fun item => permitted _ item rfl)

theorem notifyForcedTermination_talk {internalId reason}
    (toRequester : ∀ payload item, isNotice payload = true → Carries ctx payload item →
      allowed pending.requesterWriteTx item)
    (toProvider : ∀ provider item, st.registry.get pending.providerId = some provider →
      Carries ctx (.actionStreamAbort { actionId := internalId, reason }) item → allowed provider.writeTx item) :
    Talk allowed st (st.notifyForcedTermination ctx now internalId pending reason) := by
  have answered : Talk allowed st (st.notifyRequester ctx now pending reason) := notifyRequester_talk toRequester
  simp only [notifyForcedTermination]
  split
  next provider found =>
    rw [answered.registry] at found
    exact answered.trans (sendEnvelope_talk rfl fun item => toProvider provider item found)
  · exact answered

theorem deliverTo_talk {payload targets}
    (permitted : ∀ tx pluginId, allowed tx (.frame (buildFrame ctx.wire pluginId 0 payload))) :
    Talk allowed st (deliverTo ctx payload targets st) := by
  induction targets generalizing st with
  | nil => exact .refl st
  | cons pluginId rest ih =>
    simp only [deliverTo]
    split
    next entry found => exact (trySend_talk fun _ => permitted entry.writeTx pluginId).trans ih
    · exact ih

section
variable {event : Event} (permitted : ∀ tx item, Carries ctx (.event event) item → allowed tx item)
include permitted

theorem deliver_talk : Talk allowed st (st.deliver ctx now event) := by
  simp only [deliver]
  split
  · exact .refl st
  · have counted : Talk allowed st { st with msgSeq := nextSeq st.msgSeq } := talk_of_adds (.refl st.net)
    split
    · exact counted
    next payload encoded =>
      refine counted.trans (deliverTo_talk fun tx pluginId => permitted tx _ ?_)
      exact ⟨pluginId, _, payload, rfl, encoded, rfl⟩

/-- The event is stored before it is delivered. -/
theorem publish_deliver :
    Talk allowed { st with store := st.store.map fun store => EventStore.persist store now event }
      (st.publish ctx now event) :=
  deliver_talk permitted

theorem publish_conveys : Conveys allowed st (st.publish ctx now event) := by
  obtain ⟨⟨registry, bus, bridge, budgets, rated, sends⟩, _⟩ := publish_deliver permitted
  exact ⟨registry, bus, bridge, budgets, rated, sends⟩

end

theorem publishFrom_conveys {senderId eventId request}
    (permitted : ∀ event tx item, Carries ctx (.event event) item → allowed tx item) :
    Conveys allowed st (st.publishFrom ctx now senderId eventId request) := by
  have counted : Conveys allowed st { st with eventSeq := nextSeq st.eventSeq } := ⟨rfl, rfl, rfl, rfl, rfl, .refl st.net⟩
  exact counted.trans (publish_conveys (permitted _))

theorem relayToHost_talk
    (permitted : ∀ tx rest, st.bridge = some (tx :: rest) → st.hasRoom tx = true → allowed tx (relayed msg)) :
    Talk allowed st (st.relayToHost msg).1 := by
  simp only [relayToHost]
  split
  next tx rest live => exact trySend_talk (permitted tx rest live)
  · exact .refl st

theorem broadcastTo_talk {sender entries} (permitted : ∀ entry ∈ entries, entry.connId ≠ msg.connId →
      (checkIpcTarget st.registry sender.pluginId entry.pluginId).isOk = true → st.hasRoom entry.writeTx = true →
      allowed entry.writeTx (relayed msg)) :
    Talk allowed st (broadcastTo msg sender entries st) := by
  induction entries generalizing st with
  | nil => exact .refl st
  | cons entry rest ih =>
    have later : ∀ other ∈ rest, other.connId ≠ msg.connId →
        (checkIpcTarget st.registry sender.pluginId other.pluginId).isOk = true → st.hasRoom other.writeTx = true →
        allowed other.writeTx (relayed msg) :=
      fun other member => permitted other (List.mem_cons_of_mem entry member)
    simp only [broadcastTo]
    split
    · exact ih later
    next different =>
      split
      next accepted =>
        have sent : Talk allowed st (st.trySend entry.writeTx (relayed msg)).1 :=
          trySend_talk (permitted entry List.mem_cons_self different accepted)
        exact sent.trans (ih fun other member away listed room => later other member away listed (sent.sends.hasRoom room))
      · exact ih later

end Vynkor.Proofs
