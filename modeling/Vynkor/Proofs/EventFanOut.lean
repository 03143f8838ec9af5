import Vynkor.Proofs.Subscriptions
import Vynkor.Scenario

/-! Who gets a published event. The bus holds exactly the subscriptions that its calls
have opened and not ended since, each of them once, and a publication goes once to each
registered plugin among them. -/

namespace Vynkor

inductive BusCall where
  | subscribe (pluginId : String) (eventTypes : List String)
  | unsubscribe (pluginId : String) (eventTypes : List String)
  | unsubscribeAll (pluginId : String)
  deriving DecidableEq

def EventBus.call (bus : EventBus) : BusCall → EventBus
  | .subscribe pluginId eventTypes => bus.subscribe pluginId eventTypes
  | .unsubscribe pluginId eventTypes => bus.unsubscribe pluginId eventTypes
  | .unsubscribeAll pluginId => bus.unsubscribeAll pluginId

def EventBus.after (calls : List BusCall) : EventBus := calls.foldl EventBus.call {}

namespace Proofs
open RouterState

section Calls
variable {bus : EventBus} {calls : List BusCall} {id eventType : String}

def BusCall.Opens (id eventType : String) : BusCall → Prop
  | .subscribe pluginId eventTypes => pluginId = id ∧ eventType ∈ eventTypes
  | _ => False

def BusCall.Ends (id eventType : String) : BusCall → Prop
  | .unsubscribe pluginId eventTypes => pluginId = id ∧ eventType ∈ eventTypes
  | .unsubscribeAll pluginId => pluginId = id
  | .subscribe _ _ => False

/-- The plugin has subscribed to the type, and has not unsubscribed from it or from
everything since. -/
def Active (calls : List BusCall) (id eventType : String) : Prop :=
  History.Open calls (BusCall.Opens id eventType) (BusCall.Ends id eventType)

def ListsOnce (bus : EventBus) : Prop := ∀ eventType, (bus.subscribers eventType).Nodup

theorem TwoWay.call (twoWay : TwoWay bus) (call : BusCall) : TwoWay (bus.call call) := by
  cases call with
  | subscribe => exact twoWay.subscribe
  | unsubscribe => exact twoWay.unsubscribe
  | unsubscribeAll => exact twoWay.unsubscribeAll

theorem mem_call (twoWay : TwoWay bus) (call : BusCall) : id ∈ (bus.call call).subscribers eventType ↔
    BusCall.Opens id eventType call ∨ id ∈ bus.subscribers eventType ∧ ¬BusCall.Ends id eventType call := by
  cases call with
  | subscribe =>
    refine mem_subscribe.trans ?_
    simp only [BusCall.Opens, BusCall.Ends]
    tauto
  | unsubscribe =>
    refine mem_unsubscribe.trans ?_
    simp only [BusCall.Opens, BusCall.Ends]
    tauto
  | unsubscribeAll =>
    refine (mem_unsubscribeAll twoWay).trans ?_
    simp only [BusCall.Opens, BusCall.Ends]
    tauto

theorem nodup_foldl {α : Type} {change}
    (keeps : ∀ table item, (∀ key, ((table.get key).getD []).Nodup) → ∀ key, (((change table item).get key).getD []).Nodup)
    (items : List α) (table : DashMap String (List String)) (nodup : ∀ key, ((table.get key).getD []).Nodup) :
    ∀ key, (((items.foldl change table).get key).getD []).Nodup := by
  induction items generalizing table with
  | nil => exact nodup
  | cons item rest ih => exact ih (change table item) (keeps table item nodup)

theorem addSubscriber_nodup (subscriptions : DashMap String (List String)) (added : String)
    (nodup : ∀ key, ((subscriptions.get key).getD []).Nodup) :
    ∀ key, (((EventBus.addSubscriber subscriptions added id).get key).getD []).Nodup := by
  intro key
  rw [EventBus.addSubscriber, DashMap.get_insert]
  split
  · exact (nodup added).insert
  · exact nodup key

theorem removeSubscriber_nodup (subscriptions : DashMap String (List String)) (removed : String)
    (nodup : ∀ key, ((subscriptions.get key).getD []).Nodup) :
    ∀ key, (((EventBus.removeSubscriber subscriptions removed id).get key).getD []).Nodup := by
  intro key
  have listed := nodup key
  rw [EventBus.removeSubscriber, DashMap.get_update]
  split
  · cases found : subscriptions.get key with
    | none => simp
    | some subscribers =>
      rw [found] at listed
      exact listed.filter _
  · exact listed

theorem ListsOnce.call (once : ListsOnce bus) (call : BusCall) : ListsOnce (bus.call call) := by
  cases call with
  | subscribe => exact nodup_foldl addSubscriber_nodup _ _ once
  | unsubscribe => exact nodup_foldl removeSubscriber_nodup _ _ once
  | unsubscribeAll pluginId =>
    simp only [EventBus.call, EventBus.unsubscribeAll]
    split
    · exact once
    · exact nodup_foldl removeSubscriber_nodup _ _ once

structure BusOf (calls : List BusCall) (bus : EventBus) : Prop where
  twoWay : TwoWay bus
  once : ListsOnce bus
  active : ∀ id eventType, id ∈ bus.subscribers eventType ↔ Active calls id eventType

theorem BusOf.call (busOf : BusOf calls bus) (call : BusCall) : BusOf (calls ++ [call]) (bus.call call) := by
  refine ⟨busOf.twoWay.call call, busOf.once.call call, ?_⟩
  intro id eventType
  rw [mem_call busOf.twoWay, busOf.active]
  exact History.open_snoc.symm

theorem busOf_after (calls : List BusCall) : BusOf calls (.after calls) := by
  -- the calls come in one by one at the end of the history
  induction calls using List.reverseRecOn with
  | nil =>
    refine ⟨TwoWay.empty, ?_, ?_⟩
    · intro eventType
      simp [EventBus.after, EventBus.subscribers]
    · intro id eventType
      simp [EventBus.after, EventBus.subscribers, Active, History.not_open_nil]
  | append_singleton calls call ih =>
    rw [EventBus.after, List.foldl_concat]
    exact ih.call call

/-- The targets of an event are those with an active subscription to its type or to all
types, each of them once. -/
theorem BusOf.targets (busOf : BusOf calls bus) (eventType : String) : (bus.targets eventType).Nodup ∧
    ∀ id, id ∈ bus.targets eventType ↔ Active calls id eventType ∨ Active calls id "*" := by
  refine ⟨(busOf.once "*").union _, ?_⟩
  intro id
  rw [mem_targets, busOf.active, busOf.active]

end Calls

section Fan
variable {β : Type} {ctx : Context β} {now : Moment} {st : RouterState β} {id : String} {entry : PluginEntry}
  {payload : β} {targets : List String} {event : Event} {tx : Sender}

theorem deliverTo_append (first last : List String) :
    deliverTo ctx payload (first ++ last) st = deliverTo ctx payload last (deliverTo ctx payload first st) := by
  induction first generalizing st with
  | nil => rfl
  | cons target rest ih =>
    simp only [List.cons_append, deliverTo]
    split
    · exact ih
    · exact ih

theorem deliverTo_once (found : st.registry.get id = some entry) (room : st.hasRoom entry.writeTx = true)
    (member : id ∈ targets) (nodup : targets.Nodup) :
    Mailboxes.added st.net (deliverTo ctx payload targets st).net entry.writeTx =
      [.frame (buildFrame ctx.wire id 0 payload)] := by
  obtain ⟨first, last, rfl⟩ := List.append_of_mem member
  rw [List.nodup_append, List.nodup_cons] at nodup
  obtain ⟨_, ⟨absentAfter, _⟩, disjoint⟩ := nodup
  have absentBefore : id ∉ first := fun early => disjoint id early id (by simp) rfl
  have before := @deliverTo_aside _ ctx st id entry payload first found absentBefore
  have earlier : Talk Anything st (deliverTo ctx payload first st) := deliverTo_talk fun _ _ => trivial
  rw [deliverTo_append]
  generalize deliverTo ctx payload first st = middle at before earlier ⊢
  have held : middle.registry.get id = some entry := by rw [earlier.registry, found]
  have roomy : middle.net.hasRoom writeCapacity entry.writeTx = true := by
    rw [Mailboxes.hasRoom, before]
    exact room
  simp only [deliverTo, held]
  have sent : (middle.trySend entry.writeTx (.frame (buildFrame ctx.wire id 0 payload))).1.net entry.writeTx = _ :=
    Mailboxes.trySend_self writeCapacity middle.net entry.writeTx (.frame (buildFrame ctx.wire id 0 payload)) roomy
  have later := @deliverTo_aside _ ctx (middle.trySend entry.writeTx (.frame (buildFrame ctx.wire id 0 payload))).1
    id entry payload last held absentAfter
  rw [Mailboxes.added, later, sent, before, List.drop_left]

theorem deliverTo_elsewhere (apart : ∀ id ∈ targets, ∀ entry, st.registry.get id = some entry → entry.writeTx ≠ tx) :
    (deliverTo ctx payload targets st).net tx = st.net tx := by
  induction targets generalizing st with
  | nil => rfl
  | cons target rest ih =>
    rw [List.forall_mem_cons] at apart
    simp only [deliverTo]
    split
    next entry found =>
      refine (@ih (st.trySend entry.writeTx _).1 apart.2).trans ?_
      exact Mailboxes.trySend_other writeCapacity st.net _ (apart.1 entry found).symm
    · exact ih apart.2

def persisted (now : Moment) (event : Event) (st : RouterState β) : RouterState β :=
  { st with
    store := st.store.map fun store => EventStore.persist store now event
    msgSeq := nextSeq st.msgSeq }

theorem publish_net (encoded : ctx.wire.encode (eventEnvelope now st event) = some payload) :
    (st.publish ctx now event).net =
      (deliverTo ctx payload (st.bus.targets event.eventType) (persisted now event st)).net := by
  simp only [publish, deliver]
  split
  next none =>
    rw [none]
    rfl
  · split
    next failed => cases encoded.symm.trans failed
    next bytes done =>
      cases encoded.symm.trans done
      rfl

/-- After any calls of the bus, and whoever is registered, as long as their channels have
room: a published event is put once on the channel of each registered plugin with an
active subscription to its type or to all types, and on no other channel. -/
theorem publish_reaches_active (ctx : Context β) (encodes : ∀ envelope, ∃ bytes, ctx.wire.encode envelope = some bytes)
    (now : Moment) (calls : List BusCall) (st : RouterState β) (bus : st.bus = .after calls)
    (room : ∀ id entry, st.registry.get id = some entry → st.hasRoom entry.writeTx = true) (event : Event) :
    (∀ id entry, st.registry.get id = some entry → Active calls id event.eventType ∨ Active calls id "*" →
      ∃ item, Mailboxes.added st.net (st.publish ctx now event).net entry.writeTx = [item] ∧
        payloadIn ctx.wire item = some (.event event)) ∧
    ∀ tx, (∀ id entry, st.registry.get id = some entry → entry.writeTx = tx →
        ¬(Active calls id event.eventType ∨ Active calls id "*")) →
      (st.publish ctx now event).net tx = st.net tx := by
  obtain ⟨payload, encoded⟩ := encodes (eventEnvelope now st event)
  obtain ⟨nodup, targets⟩ := (bus ▸ busOf_after calls : BusOf calls st.bus).targets event.eventType
  rw [publish_net encoded]
  constructor
  · intro id entry found active
    refine ⟨.frame (buildFrame ctx.wire id 0 payload), ?_, ?_⟩
    · exact @deliverTo_once _ ctx (persisted now event st) id entry payload _ found (room id entry found)
        ((targets id).mpr active) nodup
    · simp [payloadIn, buildFrame, ctx.wire.decode_encode _ _ encoded, eventEnvelope]
  · intro tx idle
    refine (@deliverTo_elsewhere _ ctx (persisted now event st) payload _ tx ?_).trans rfl
    intro id member entry found same
    exact idle id entry found same ((targets id).mp member)

end Fan

section Newsroom
open Scenario

def newsCalls : List BusCall :=
  [.subscribe "notes" ["news", "*", "news"], .subscribe "clock" ["news"], .unsubscribeAll "clock"]

def newsroom : RouterState Packet := { joined {} 1 { pluginId := "notes" } with bus := .after newsCalls }

def headline : Event := { eventId := "1", eventType := "news", payloadJson := [], retryCount := 0 }

theorem publish_reaches_active_notes : ∃ item,
    Mailboxes.added newsroom.net (newsroom.publish context start headline).net { conn := 1 } = [item] ∧
      payloadIn Packet.wire item = some (.event headline) := by
  have roomy : newsroom.registry.list.all (fun entry => newsroom.hasRoom entry.writeTx) = true := by decide +kernel
  have reaches := publish_reaches_active context (fun envelope => ⟨.message envelope, rfl⟩) start newsCalls newsroom rfl
    (fun id entry found => List.all_eq_true.mp roomy entry
      (PluginRegistry.mem_list.mpr (PluginRegistry.get_registered found)))
    headline
  have held : newsroom.registry.get "notes" = some _ := (Option.some_get (by decide +kernel)).symm
  exact reaches.1 "notes" _ held (.inl ⟨[], _, _, rfl, ⟨rfl, by decide⟩, by simp [BusCall.Ends]⟩)

end Newsroom
end Proofs
end Vynkor
