import Vynkor.Proofs.KernelSteps
import Vynkor.Subscriptions

/-! The event bus as a relation between plugins and event types, and what the steps of
the kernel make of it. The bus holds the relation in two maps; removing a plugin goes by
the second and is right because both hold the same pairs. -/

namespace Vynkor.Proofs
open DashMap PluginRegistry RouterState

section Bus
variable {bus : EventBus} {id pluginId eventType : String} {eventTypes : List String}

def typesOf (bus : EventBus) (pluginId : String) : List String := (bus.byPlugin.get pluginId).getD []

/-- Both maps of the bus hold the same pairs. -/
def TwoWay (bus : EventBus) : Prop := ∀ id eventType, id ∈ bus.subscribers eventType ↔ eventType ∈ typesOf bus id

theorem mem_addSubscriber (subscriptions : DashMap String (List String)) (added asked : String) :
    id ∈ ((EventBus.addSubscriber subscriptions added pluginId).get asked).getD [] ↔
      id ∈ (subscriptions.get asked).getD [] ∨ id = pluginId ∧ asked = added := by
  rw [EventBus.addSubscriber, get_insert]
  split
  next same =>
    subst same
    simp [or_comm]
  next apart => simp [apart]

theorem mem_addSubscribers (types : List String) (subscriptions : DashMap String (List String)) (asked : String) :
    id ∈ ((types.foldl (fun subscriptions eventType => EventBus.addSubscriber subscriptions eventType pluginId)
      subscriptions).get asked).getD [] ↔ id ∈ (subscriptions.get asked).getD [] ∨ id = pluginId ∧ asked ∈ types := by
  induction types generalizing subscriptions with
  | nil => simp
  | cons added rest ih =>
    rw [List.foldl_cons, ih, mem_addSubscriber, List.mem_cons]
    tauto

theorem mem_removeSubscriber (subscriptions : DashMap String (List String)) (removed asked : String) :
    id ∈ ((EventBus.removeSubscriber subscriptions removed pluginId).get asked).getD [] ↔
      id ∈ (subscriptions.get asked).getD [] ∧ ¬(id = pluginId ∧ asked = removed) := by
  rw [EventBus.removeSubscriber, get_update]
  split
  next same =>
    cases subscriptions.get asked with
    | none => simp
    | some subscribers => simp [same]
  next apart => simp [apart]

theorem mem_removeSubscribers (types : List String) (subscriptions : DashMap String (List String)) (asked : String) :
    id ∈ ((types.foldl (fun subscriptions eventType => EventBus.removeSubscriber subscriptions eventType pluginId)
      subscriptions).get asked).getD [] ↔
        id ∈ (subscriptions.get asked).getD [] ∧ ¬(id = pluginId ∧ asked ∈ types) := by
  induction types generalizing subscriptions with
  | nil => simp
  | cons removed rest ih =>
    rw [List.foldl_cons, ih, mem_removeSubscriber, List.mem_cons]
    tauto

theorem mem_addTypes (types known : List String) :
    eventType ∈ types.foldl (fun known eventType => known.insert eventType) known ↔
      eventType ∈ known ∨ eventType ∈ types := by
  induction types generalizing known with
  | nil => simp
  | cons added rest ih =>
    rw [List.foldl_cons, ih, List.mem_insert_iff, List.mem_cons]
    tauto

theorem mem_removeTypes (types known : List String) :
    eventType ∈ types.foldl (fun known eventType => known.filter (· ≠ eventType)) known ↔
      eventType ∈ known ∧ eventType ∉ types := by
  induction types generalizing known with
  | nil => simp
  | cons removed rest ih =>
    rw [List.foldl_cons, ih, List.mem_filter, List.mem_cons, decide_eq_true_eq]
    tauto

theorem mem_subscribe : id ∈ (bus.subscribe pluginId eventTypes).subscribers eventType ↔
    id ∈ bus.subscribers eventType ∨ id = pluginId ∧ eventType ∈ eventTypes :=
  mem_addSubscribers eventTypes bus.subscriptions eventType

theorem mem_unsubscribe : id ∈ (bus.unsubscribe pluginId eventTypes).subscribers eventType ↔
    id ∈ bus.subscribers eventType ∧ ¬(id = pluginId ∧ eventType ∈ eventTypes) :=
  mem_removeSubscribers eventTypes bus.subscriptions eventType

theorem mem_unsubscribeAll (twoWay : TwoWay bus) : id ∈ (bus.unsubscribeAll pluginId).subscribers eventType ↔
    id ∈ bus.subscribers eventType ∧ id ≠ pluginId := by
  have listed := twoWay pluginId eventType
  simp only [typesOf] at listed
  simp only [EventBus.unsubscribeAll]
  cases known : bus.byPlugin.get pluginId with
  | none =>
    -- an id that the second map does not know is in no set of the first
    rw [known] at listed
    simp only [Option.getD_none, List.not_mem_nil, iff_false] at listed
    constructor
    · intro subscribed
      refine ⟨subscribed, ?_⟩
      intro same
      exact listed (same ▸ subscribed)
    · exact And.left
  | some types =>
    rw [known, Option.getD_some] at listed
    refine (mem_removeSubscribers types bus.subscriptions eventType).trans ?_
    refine and_congr_right fun subscribed => not_congr ?_
    constructor
    · exact And.left
    · intro same
      exact ⟨same, listed.mp (same ▸ subscribed)⟩

theorem TwoWay.empty : TwoWay {} := by
  intro id eventType
  simp [EventBus.subscribers, typesOf]

theorem TwoWay.subscribe (twoWay : TwoWay bus) : TwoWay (bus.subscribe pluginId eventTypes) := by
  intro id eventType
  rw [mem_subscribe, twoWay id eventType]
  simp only [typesOf, EventBus.subscribe, get_insert]
  split
  next same =>
    subst same
    simp [mem_addTypes]
  next apart => simp [apart]

theorem TwoWay.unsubscribe (twoWay : TwoWay bus) : TwoWay (bus.unsubscribe pluginId eventTypes) := by
  intro id eventType
  rw [mem_unsubscribe, twoWay id eventType]
  simp only [typesOf, EventBus.unsubscribe, get_update]
  split
  next same =>
    subst same
    cases bus.byPlugin.get id with
    | none => simp
    | some types =>
      simp only [Option.map_some, Option.getD_some, mem_removeTypes]
      simp
  next apart => simp [apart]

theorem typesOf_unsubscribeAll :
    eventType ∈ typesOf (bus.unsubscribeAll pluginId) id ↔ eventType ∈ typesOf bus id ∧ id ≠ pluginId := by
  simp only [typesOf, EventBus.unsubscribeAll]
  cases known : bus.byPlugin.get pluginId with
  | none =>
    by_cases same : id = pluginId
    · subst same
      simp [known]
    · simp [same]
  | some types =>
    simp only [get_erase]
    split
    next same => simp [same]
    next apart => simp [apart]

theorem TwoWay.unsubscribeAll (twoWay : TwoWay bus) : TwoWay (bus.unsubscribeAll pluginId) := by
  intro id eventType
  rw [mem_unsubscribeAll twoWay, typesOf_unsubscribeAll, twoWay id eventType]

theorem TwoWay.answer (twoWay : TwoWay bus) (request : BusRequest) : TwoWay (bus.answer pluginId request) := by
  cases request with
  | subscribe => exact twoWay.subscribe
  | unsubscribe => exact twoWay.unsubscribe

theorem mem_unsubscribeAll_other (apart : id ≠ pluginId) :
    id ∈ (bus.unsubscribeAll pluginId).subscribers eventType ↔ id ∈ bus.subscribers eventType := by
  simp only [EventBus.unsubscribeAll]
  split
  · rfl
  next types _ =>
    refine (mem_removeSubscribers types bus.subscriptions eventType).trans ?_
    simp [apart, EventBus.subscribers]

theorem mem_targets : id ∈ bus.targets eventType ↔ id ∈ bus.subscribers eventType ∨ id ∈ bus.subscribers "*" :=
  List.mem_union_iff

end Bus

section Requests
variable {β : Type} {ctx : Context β} {now : Moment} {msg : IncomingMessage β} {st : RouterState β}
  {entry : PluginEntry} {request : BusRequest} {payload : Payload}

theorem busRequest_some (passes : admits ctx now msg st = true) (arrived : ToKernel ctx msg payload)
    (asks : payload.busRequest? = some request) (registered : st.registry.getByConnId msg.connId = some entry) :
    st.busRequest ctx now msg = some (entry, request) := by
  obtain ⟨aimed, envelope, decoded, holds⟩ := arrived
  simp only [admits, Bool.and_eq_true, Bool.not_eq_true'] at passes
  simp [busRequest, passes.1, passes.2, aimed, decoded, holds, asks, registered]

theorem busRequest_inversion (asked : st.busRequest ctx now msg = some (entry, request)) :
    admits ctx now msg st = true ∧ st.registry.getByConnId msg.connId = some entry ∧
      ∃ payload, ToKernel ctx msg payload ∧ payload.busRequest? = some request := by
  simp only [busRequest] at asked
  split at asked
  next gates =>
    simp only [Bool.and_eq_true, Bool.not_eq_true', beq_iff_eq] at gates
    split at asked
    next envelope decoded =>
      split at asked
      next requested asks =>
        obtain ⟨sender, registered, same⟩ := Option.map_eq_some_iff.mp asked
        cases same
        obtain ⟨payload, holds, asks⟩ := Option.bind_eq_some_iff.mp asks
        exact ⟨by simp [admits, gates.1.1, gates.2], registered, payload, ⟨gates.1.2, envelope, decoded, holds⟩, asks⟩
      · cases asked
    · cases asked
  · cases asked

theorem checkIpcRate_bus (ctx : Context β) (now : Moment) (msg : IncomingMessage β) (st : RouterState β) :
    (st.checkIpcRate ctx now msg).1.bus = st.bus := by
  obtain ⟨calls, same⟩ := checkIpcRate_quiet ctx now msg st
  rw [same]

theorem recordOutcome_bus (errored : Bool) : (st.recordOutcome ctx now msg errored).bus = st.bus := by
  obtain ⟨counts, quiet⟩ := recordOutcome_quiet ctx now msg st errored
  rw [quiet]

theorem routeMessage_request (asked : st.busRequest ctx now msg = some (entry, request)) :
    (st.routeMessage ctx now msg).1 =
      { (st.checkIpcRate ctx now msg).1 with bus := st.bus.answer entry.pluginId request }.recordOutcome
        ctx now msg false := by
  obtain ⟨passes, registered, payload, ⟨aimed, envelope, decoded, holds⟩, asks⟩ := busRequest_inversion asked
  rw [routeMessage_handled passes aimed, ← checkIpcRate_bus ctx now msg st]
  rw [← checkIpcRate_registry ctx now msg st] at registered
  cases payload with
  | subscribe eventTypes | unsubscribe eventTypes =>
    cases asks
    simp [handleTarget, handleKernelMessage, decoded, holds, isRegister, isRegistered_eq, registered,
      handlePayload, handleSubscribe, handleUnsubscribe, EventBus.answer]
  | _ => cases asks

theorem routeMessage_answer (asked : st.busRequest ctx now msg = some (entry, request)) :
    (st.routeMessage ctx now msg).1.bus = st.bus.answer entry.pluginId request := by
  rw [routeMessage_request asked, recordOutcome_bus]

theorem routeMessage_unasked (unasked : st.busRequest ctx now msg = none) :
    (st.routeMessage ctx now msg).1.bus = st.bus := by
  cases passes : admits ctx now msg st with
  | false => rw [(routeMessage_refused passes).bus, checkIpcRate_bus]
  | true =>
    have update := (routeMessage_routed ctx now msg st).bus
    generalize (st.routeMessage ctx now msg).1.bus = bus at update ⊢
    cases update with
    | same => exact checkIpcRate_bus ctx now msg st
    | subscribed arrived registered | unsubscribed arrived registered =>
      rw [checkIpcRate_registry] at registered
      rw [busRequest_some passes arrived rfl registered] at unasked
      cases unasked

theorem pruneTick_bus (ctx : Context β) (now : Moment) (st : RouterState β) :
    (st.pruneTick ctx now).bus = st.bus := by
  have expired := (sweepExpired_talk ctx now st).bus
  obtain ⟨_, _, idle⟩ := sweepIdle_talk ctx now (st.sweepExpired ctx now)
  exact idle.bus.trans expired

end Requests

section Steps
variable {β : Type} {ctx : Context β} {kernel next : Kernel β} {action : Action β}

inductive BusStep (ctx : Context β) (kernel : Kernel β) (action : Action β) : EventBus → Prop where
  | same (notDeclare : ∀ pluginId events, action ≠ .declare pluginId events)
      (notClear : ∀ transport, action ≠ .unsubscribe transport) : BusStep ctx kernel action kernel.router.bus
  | answered {now msg rest entry request} (mine : action = .route now) (head : kernel.incoming = msg :: rest)
      (asked : kernel.router.busRequest ctx now msg = some (entry, request)) :
      BusStep ctx kernel action (kernel.router.bus.answer entry.pluginId request)
  | declared {pluginId events} (mine : action = .declare pluginId events) :
      BusStep ctx kernel action (kernel.router.bus.subscribe pluginId events)
  | cleared {transport leaving} (mine : action = .unsubscribe transport)
      (held : kernel.inHand transport .published = some leaving) :
      BusStep ctx kernel action (kernel.router.bus.unsubscribeAll leaving.pluginId)

theorem step_bus (step : kernel.step ctx action = some next) : BusStep ctx kernel action next.router.bus := by
  have quiet : ∀ {bus : EventBus}, bus = kernel.router.bus → (∀ pluginId events, action ≠ .declare pluginId events) →
      (∀ transport, action ≠ .unsubscribe transport) → BusStep ctx kernel action bus := by
    rintro _ rfl notDeclare notClear
    exact .same notDeclare notClear
  cases kernel_step step with
  | @route now msg _ head =>
    cases asked : kernel.router.busRequest ctx now msg with
    | none => exact quiet (routeMessage_unasked asked) nofun nofun
    | some found =>
      obtain ⟨entry, request⟩ := found
      rw [routeMessage_answer asked]
      exact .answered rfl head asked
  | declare => exact .declared rfl
  | unsubscribe held => exact .cleared rfl held
  | @prune now => exact quiet (pruneTick_bus ctx now kernel.router) nofun nofun
  | @publishLeft _ now | @publishDied _ now => exact quiet (publish_bus ctx now kernel.router _) nofun nofun
  | ping told =>
    have talk : Talk Anything kernel.router _ := told fun _ _ _ => trivial
    exact quiet talk.bus nofun nofun
  | _ => exact .same nofun nofun

end Steps

section Deliveries
variable {β : Type} {ctx : Context β} {now : Moment} {st : RouterState β} {id target : String}
  {entry : PluginEntry} {payload : β} {targets : List String} {event : Event}

theorem trySend_aside (item : Outbound β) {other} (found : st.registry.get id = some entry)
    (foundOther : st.registry.get target = some other) (apart : id ≠ target) :
    (st.trySend other.writeTx item).1.net entry.writeTx = st.net entry.writeTx := by
  apply Mailboxes.trySend_other
  intro same
  have equal : entry = other := get_same_channel found foundOther same
  rw [← get_own found, ← get_own foundOther, equal] at apart
  exact apart rfl

theorem deliverTo_aside (found : st.registry.get id = some entry) (absent : id ∉ targets) :
    (deliverTo ctx payload targets st).net entry.writeTx = st.net entry.writeTx := by
  induction targets generalizing st with
  | nil => rfl
  | cons target rest ih =>
    obtain ⟨apart, absent⟩ : id ≠ target ∧ id ∉ rest := by simpa using absent
    simp only [deliverTo]
    split
    next other foundOther =>
      refine (ih ?_ absent).trans (trySend_aside _ found foundOther apart)
      exact found
    · exact ih found absent

theorem deliverTo_enqueues (found : st.registry.get id = some entry) (room : st.hasRoom entry.writeTx = true)
    (member : id ∈ targets) : Outbound.frame (buildFrame ctx.wire id 0 payload) ∈
      Mailboxes.added st.net (deliverTo ctx payload targets st).net entry.writeTx := by
  induction targets generalizing st with
  | nil => cases member
  | cons target rest ih =>
    simp only [deliverTo]
    by_cases own : id = target
    · subst own
      rw [found]
      -- the targets after it append at most; they take nothing back
      have later : Talk Anything (st.trySend entry.writeTx (.frame (buildFrame ctx.wire id 0 payload))).1
          (deliverTo ctx payload rest (st.trySend entry.writeTx (.frame (buildFrame ctx.wire id 0 payload))).1) :=
        deliverTo_talk fun _ _ => trivial
      apply Mailboxes.Adds.mem_added_later later.sends
      have sent := Mailboxes.added_trySend writeCapacity st.net entry.writeTx entry.writeTx
        (.frame (buildFrame ctx.wire id 0 payload))
      rw [if_pos ⟨rfl, room⟩] at sent
      rw [trySend, sent]
      exact List.mem_singleton_self _
    · have member : id ∈ rest := (List.mem_cons.mp member).resolve_left own
      split
      next other foundOther =>
        -- a target before it has a channel of its own, so the room is still there
        have kept := trySend_aside (.frame (buildFrame ctx.wire target 0 payload)) found foundOther own
        generalize sent : (st.trySend other.writeTx (.frame (buildFrame ctx.wire target 0 payload))).1 = middle
          at kept ⊢
        have registered : middle.registry.get id = some entry := by
          rw [← sent]
          exact found
        have stillRoom : middle.hasRoom entry.writeTx = true := by
          rw [hasRoom, Mailboxes.hasRoom, kept]
          exact room
        have enqueued := ih registered stillRoom member
        rwa [Mailboxes.added, kept] at enqueued
      · exact ih found room member

theorem publish_aside (found : st.registry.get id = some entry) (absent : id ∉ st.bus.targets event.eventType) :
    (st.publish ctx now event).net entry.writeTx = st.net entry.writeTx := by
  simp only [publish, deliver]
  split
  · rfl
  · split
    · rfl
    · refine (deliverTo_aside ?_ absent).trans rfl
      exact found

def eventEnvelope (now : Moment) (st : RouterState β) (event : Event) : Envelope where
  messageId := st.kernelMessageId now
  senderId := "kernel"
  timestamp := now.unixMillis
  payload := some (.event event)

theorem publish_enqueues (found : st.registry.get id = some entry) (member : id ∈ st.bus.targets event.eventType)
    (room : st.hasRoom entry.writeTx = true)
    (encoded : ctx.wire.encode (eventEnvelope now st event) = some payload) :
    Outbound.frame (buildFrame ctx.wire id 0 payload) ∈
      Mailboxes.added st.net (st.publish ctx now event).net entry.writeTx := by
  have someone : st.bus.targets event.eventType ≠ [] := List.ne_nil_of_mem member
  simp only [publish, deliver, if_neg someone]
  split
  next failed => cases encoded.symm.trans failed
  next bytes done =>
    cases encoded.symm.trans done
    have registered : { st with
        store := st.store.map fun store => EventStore.persist store now event
        msgSeq := nextSeq st.msgSeq }.registry.get id = some entry := found
    exact deliverTo_enqueues registered room member

end Deliveries
end Vynkor.Proofs
