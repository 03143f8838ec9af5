import Mathlib.Data.List.Forall2
import Vynkor.Proofs.FramesInStep
import Vynkor.Proofs.HostFrames

/-! What a client kernel relays to its host. A record beside the kernel follows each
relayed frame from the router through the channel of the bridge to the connection. -/

namespace Vynkor.Proofs
open Execution PluginRegistry RouterState
variable {β : Type} {ctx : Context β} {framing : Framing β} {limits : ConnectionLimits} {bridge : Bridge}
  {state next : BridgedTasks β} {action : BridgedAction β}

section Record
variable (ctx : Context β) (framing : Framing β) (limits : ConnectionLimits) (bridge : Bridge)

/-- A message that was relayed, and the registry at that moment. -/
structure Relay (β : Type) where
  msg : IncomingMessage β
  registry : PluginRegistry

/-- `marks` names, for each item in the channel to the host, the relay it stems from, if
any; `sent` pairs relays with what was written to the host. No task reads them. -/
structure RelayAudit (β : Type) where
  state : BridgedTasks β := {}
  marks : List (Option (Relay β)) := []
  sent : List (Relay β × Frame β) := []

def hostQueue (state : BridgedTasks β) : List (Outbound β) :=
  (state.host.task.channel.map fun (tx, _) => (state.tasks.net tx).queue).getD []

/-- The router hands the message to `relay_to_host`, and the channel takes it. -/
def reachesHost (now : Moment) (msg : IncomingMessage β) (st : RouterState β) : Bool :=
  admits ctx now msg st && (ctx.wire.targetAsStr msg.frame.target).any fun target =>
    target != "kernel" && target != "*" && (authorizeForward st.registry msg target).isOk &&
      (st.registry.getMux target).isNone && (st.relayToHost msg).2

def relayOf (state : BridgedTasks β) : BridgedAction β → Option (Relay β)
  | .task (.take now) =>
    (state.tasks.kernel.incoming.head?.filter fun msg => reachesHost ctx now msg state.tasks.kernel.router).map fun msg =>
      { msg, registry := state.tasks.kernel.router.registry }
  | _ => none

def RelayAudit.step (audit : RelayAudit β) (action : BridgedAction β) : Option (RelayAudit β) :=
  (audit.state.step ctx framing limits bridge action).map fun next =>
    let before := (hostQueue audit.state).length
    let after := (hostQueue next).length
    { state := next
      marks := audit.marks.drop (before - after) ++ List.replicate (after - before) (relayOf ctx audit.state action)
      sent := audit.sent ++ audit.marks.head?.join.toList.flatMap fun relay =>
        (next.host.socket.drop audit.state.host.socket.length).map fun frame => (relay, frame) }

def leadsHome (registry : PluginRegistry) (name : String) : Bool :=
  (registry.getMux name).any fun entry => entry.connId != bridgeConnId

/-- The frame that the router takes, if the host sent it, finds a local plugin for every
mirrored capability; if not, it does not name the target that the write loop rewrites. -/
def relaysPlainly (audit : RelayAudit β) : BridgedAction β → Bool
  | .task (.take _) => audit.state.tasks.kernel.incoming.head?.all fun msg =>
    if msg.connId = bridgeConnId then
      bridge.config.mirror.all (leadsHome audit.state.tasks.kernel.router.registry)
    else ctx.wire.targetAsStr msg.frame.target != some "client"
  | action => sparesDevice bridge audit.state action

end Record

section Router
variable {now : Moment} {msg : IncomingMessage β} {st : RouterState β}

/-- What is relayed names a peer that does not resolve, and its sender passes the gates. -/
structure Relayed (ctx : Context β) (now : Moment) (msg : IncomingMessage β) (st : RouterState β) (target : String)
    (tx : Sender) (sender : PluginEntry) : Prop where
  admitted : admits ctx now msg st = true
  addressed : ToPeer ctx msg target
  authorized : authorizeForward st.registry msg target = .ok sender
  unresolved : st.registry.getMux target = none
  live : ∃ rest, st.bridge = some (tx :: rest)
  room : st.hasRoom tx = true

theorem relayToHost_sent_iff :
    (st.relayToHost msg).2 = true ↔ ∃ tx, (∃ rest, st.bridge = some (tx :: rest)) ∧ st.hasRoom tx = true := by
  simp only [relayToHost]
  split
  next tx rest live =>
    have sent : (st.trySend tx (relayed msg)).2 = st.hasRoom tx := Mailboxes.trySend_sent ..
    rw [sent, live]
    simp
  next idle =>
    constructor
    · intro sent
      cases sent
    · rintro ⟨tx, ⟨rest, live⟩, _⟩
      exact absurd live (idle tx rest)

theorem reachesHost_iff : reachesHost ctx now msg st = true ↔
    ∃ target tx sender, Relayed ctx now msg st target tx sender := by
  simp only [reachesHost, Bool.and_eq_true, Option.any_eq_true_iff_get, bne_iff_ne, Option.isNone_iff_eq_none]
  constructor
  · rintro ⟨admitted, named, ⟨⟨⟨notKernel, notAll⟩, passed⟩, unresolved⟩, taken⟩
    obtain ⟨tx, live, room⟩ := relayToHost_sent_iff.mp taken
    cases authorized : authorizeForward st.registry msg (Option.get _ named) with
    | error => simp [authorized, Except.isOk, Except.toBool] at passed
    | ok sender =>
      exact ⟨_, tx, sender, admitted, ⟨(Option.some_get named).symm, notKernel, notAll⟩, authorized, unresolved,
        live, room⟩
  · rintro ⟨target, tx, sender, relayed⟩
    obtain ⟨named, notKernel, notAll⟩ := relayed.addressed
    refine ⟨relayed.admitted, by simp [named], ?_⟩
    simp [named, notKernel, notAll, relayed.authorized, Except.isOk, Except.toBool, relayed.unresolved,
      relayToHost_sent_iff.mpr ⟨tx, relayed.live, relayed.room⟩]

theorem Relayed.net {target tx sender} (relayed : Relayed ctx now msg st target tx sender) :
    (st.routeMessage ctx now msg).1.net = (st.net.trySend writeCapacity tx (RouterState.relayed msg)).1 := by
  obtain ⟨calls, quiet⟩ := checkIpcRate_quiet ctx now msg st
  obtain ⟨named, notKernel, notAll⟩ := relayed.addressed
  obtain ⟨rest, live⟩ := relayed.live
  have sent : (st.net.trySend writeCapacity tx (RouterState.relayed msg)).2 = true :=
    (Mailboxes.trySend_sent ..).trans relayed.room
  rw [routeMessage_handled relayed.admitted named, recordOutcome_net, quiet]
  simp only [handleTarget, if_neg notKernel, if_neg notAll, forward, relayed.authorized, relayed.unresolved, relayToHost,
    live, trySend, sent, if_true]

end Router

section Flow
variable {tx : Sender} {key : Option Bytes}

theorem hostQueue_live (live : state.host.task.channel = some (tx, key)) :
    hostQueue state = (state.tasks.net tx).queue := by
  simp [hostQueue, live]

theorem hostQueue_idle (idle : state.host.task.channel = none) : hostQueue state = [] := by
  simp [hostQueue, idle]

theorem hostQueue_drain (live : state.host.task.channel = some (tx, key)) :
    hostQueue (state.setNet (state.tasks.net.drain tx)) = (hostQueue state).drop 1 := by
  have after : hostQueue (state.setNet (state.tasks.net.drain tx)) = (state.tasks.net.drain tx tx).queue :=
    hostQueue_live live
  rw [after, hostQueue_live live, Mailboxes.drain, Mailboxes.put_self, List.drop_one]

theorem hostQueue_close (live : state.host.task.channel = some (tx, key)) :
    hostQueue (state.setNet (state.tasks.net.close tx)) = (hostQueue state).drop (hostQueue state).length := by
  have after : hostQueue (state.setNet (state.tasks.net.close tx)) = (state.tasks.net.close tx tx).queue :=
    hostQueue_live live
  rw [after, List.drop_length, Mailboxes.close, Mailboxes.put_self]

variable {conn : Nat} {tasks after : Tasks β} {relay : Relay β}

theorem LocalReads.unlike (reads : LocalReads tasks)
    (own : tx.conn = bridgeConnId) (known : IsLocal tasks conn) : tx ≠ { conn } := by
  intro same
  obtain ⟨connection, found⟩ := known
  rw [same] at own
  rw [show conn = bridgeConnId from own, reads.apart] at found
  cases found

theorem writes_isLocal {transport}
    (writing : tasks.writes conn = some transport) : IsLocal tasks conn := by
  simp only [Tasks.writes] at writing
  split at writing
  next found => exact ⟨_, found⟩
  next found _ => exact ⟨_, found⟩
  · cases writing

theorem write_isLocal {delivered}
    (step : tasks.write framing conn delivered = some after) : IsLocal tasks conn := by
  simp only [Tasks.write] at step
  split at step
  next writing _ => exact writes_isLocal writing
  next writing _ => exact writes_isLocal writing
  · cases step

theorem hangup_isLocal (step : tasks.hangup conn = some after) :
    IsLocal tasks conn := by
  obtain ⟨kernel, ended, _⟩ := hangup_cases step
  obtain ⟨connection, found, _⟩ := hangup_some ended
  exact ⟨connection, found⟩

theorem feeds_host {tasks after inner} (reads : LocalReads tasks)
    (own : tx.conn = bridgeConnId) (apart : inner.isBridge = false)
    (step : tasks.step ctx framing limits inner = some after) :
    ∃ items, (after.net tx).queue = (tasks.net tx).queue ++ items := by
  cases step_net step with
  | adds adds =>
    obtain ⟨items, queue, _⟩ := adds tx
    exact ⟨items, queue⟩
  | @keyed registering key _ _ _ net =>
    have adds : Mailboxes.Adds Anything tasks.net (tasks.net.send registering.msg.writeTx (.enableMac key)) :=
      Mailboxes.send_adds tasks.net _ _ trivial
    obtain ⟨items, queue, _⟩ := adds tx
    exact ⟨items, net ▸ queue⟩
  | @written conn delivered mine written =>
    subst mine
    have unlike := reads.unlike own (write_isLocal step)
    have same : after.net tx = tasks.net tx := by
      cases written with
      | installed | written | skipped | lost | closed => exact Mailboxes.put_other tasks.net _ unlike
    exact ⟨[], by rw [same, List.append_nil]⟩
  | @ended conn mine net =>
    subst mine
    have unlike := reads.unlike own (hangup_isLocal step)
    have same : after.net tx = tasks.net tx := by
      rw [net]
      exact Mailboxes.put_other tasks.net _ unlike
    exact ⟨[], by rw [same, List.append_nil]⟩
  | bridged _ _ mine =>
    rw [apart] at mine
    cases mine

/-- The channel to the host after a step: with more items, which are the relayed frame
if there is one, or with fewer. -/
inductive HostFlow (ctx : Context β) (state : BridgedTasks β) (action : BridgedAction β) (next : BridgedTasks β) :
    Prop where
  | fed {items} (queue : hostQueue next = hostQueue state ++ items)
      (own : ∀ relay, relayOf ctx state action = some relay → ∀ item ∈ items, item = relayed relay.msg)
  | taken {count} (queue : hostQueue next = (hostQueue state).drop count)

theorem HostFlow.same (queue : hostQueue next = hostQueue state) : HostFlow ctx state action next := by
  have nothing : hostQueue next = hostQueue state ++ [] := by rw [queue, List.append_nil]
  exact .fed nothing (by simp)

theorem relayOf_some (made : relayOf ctx state action = some relay) :
    ∃ now rest, action = .task (.take now) ∧ state.tasks.kernel.incoming = relay.msg :: rest ∧
      relay.registry = state.tasks.kernel.router.registry ∧
      ∃ target tx sender, Relayed ctx now relay.msg state.tasks.kernel.router target tx sender := by
  simp only [relayOf] at made
  split at made
  next now =>
    obtain ⟨msg, chosen, rfl⟩ := Option.map_eq_some_iff.mp made
    obtain ⟨head, accepted⟩ := Option.filter_eq_some_iff.mp chosen
    obtain ⟨rest, waiting⟩ := List.head?_eq_some_iff.mp head
    exact ⟨now, rest, rfl, waiting, rfl, reachesHost_iff.mp accepted⟩
  · cases made

theorem relay_fed (touch : InTouch bridge state) (made : relayOf ctx state action = some relay)
    (step : state.step ctx framing limits bridge action = some next) :
    hostQueue next = hostQueue state ++ [relayed relay.msg] := by
  obtain ⟨now, rest, rfl, waiting, _, target, tx, sender, passed⟩ := relayOf_some made
  obtain ⟨others, handle⟩ := passed.live
  have only := touch.handle _ handle
  cases channel : state.host.task.channel with
  | none => simp [channel] at only
  | some live =>
    obtain ⟨first, key⟩ := live
    obtain ⟨rfl, _⟩ : tx = first ∧ others = [] := by simpa [channel] using only
    cases bridge_step step with
    | waited mine => exact absurd rfl (mine _)
    | failed _ mine | ended _ mine => exact absurd rfl (mine _)
    | @task _ tasks _ moved =>
      have after : hostQueue { state with tasks } = (tasks.net tx).queue := by simp [hostQueue, channel]
      rw [after, hostQueue_live channel]
      cases tasks_take_some moved with
      | accepted _ head accepted =>
        rw [waiting] at head
        cases head
        rw [acceptRegister_peer passed.addressed.1 passed.addressed.2.1] at accepted
        cases accepted
      | routed _ head =>
        rw [waiting] at head
        cases head
        show ((state.tasks.kernel.router.routeMessage ctx now relay.msg).1.net tx).queue = _
        rw [passed.net, Mailboxes.trySend_self writeCapacity _ _ _ passed.room]
        rfl

theorem host_flow (touch : InTouch bridge state) (reads : LocalReads state.tasks)
    (step : state.step ctx framing limits bridge action = some next) : HostFlow ctx state action next := by
  cases bridge_step step with
  | @task inner tasks apart moved =>
    cases channel : state.host.task.channel with
    | none => exact .same (by rw [hostQueue_idle channel]; exact hostQueue_idle channel)
    | some live =>
      obtain ⟨tx, key⟩ := live
      obtain ⟨items, queue⟩ := feeds_host reads (beq_iff_eq.mp (channel_own channel)) apart moved
      have after : hostQueue { state with tasks } = (tasks.net tx).queue := by simp [hostQueue, channel]
      have total : hostQueue { state with tasks } = hostQueue state ++ items := by
        rw [after, queue, hostQueue_live channel]
      refine .fed total ?_
      intro relay made
      cases List.append_cancel_left (total.symm.trans (relay_fed touch made step))
      simp
  | waited => exact .same rfl
  | connected before | failed before =>
    have idle : state.host.task.channel = none := by
      rw [before]
      rfl
    exact .same (by rw [hostQueue_idle idle]; rfl)
  | @registered frame now kernel key before =>
    have idle : state.host.task.channel = none := by
      rw [before]
      rfl
    exact .fed (by rw [hostQueue_idle idle, List.nil_append]) (by simp [relayOf])
  | ended => exact .taken (by rw [List.drop_length]; rfl)
  | read before =>
    exact .same (by rw [hostQueue_live (congrArg BridgeTask.channel before)]; rfl)
  | enqueued holding received =>
    obtain ⟨_, rfl⟩ := receive_some received
    exact .same (by rw [hostQueue_live (congrArg BridgeTask.channel holding)]; rfl)
  | skipped live | wrote live => exact .taken (hostQueue_drain live)
  | lost live => exact .taken (hostQueue_close live)

end Flow

section Frames
variable {wire : Wire β} {frame : Frame β}

structure Unchanged (frame sent : Frame β) : Prop where
  target : sent.target = frame.target
  payload : sent.payload = frame.payload
  flags : sent.flags &&& ~~~flagMacPresent = frame.flags &&& ~~~flagMacPresent

theorem tagged_unchanged (framing : Framing β) (key : Option Bytes) (frame : Frame β) :
    Unchanged frame (framing.tagged key frame) := by
  cases key with
  | none => exact ⟨rfl, rfl, rfl⟩
  | some key =>
    refine ⟨rfl, rfl, ?_⟩
    show (frame.flags ||| flagMacPresent) &&& ~~~flagMacPresent = _
    rw [UInt16.or_comm, or_and UInt16.and_not_self]

theorem hostFrame_unchanged (framing : Framing β) (key : Option Bytes)
    (kept : wire.targetAsStr frame.target ≠ some "client") :
    Unchanged frame (Bridge.hostFrame wire framing key frame.stripMac) := by
  have same : Bridge.hostFrame wire framing key frame.stripMac = framing.tagged key frame.stripMac := by
    have other : (wire.targetAsStr frame.stripMac.target == some "client") = false := beq_false_of_ne kept
    simp [Bridge.hostFrame, other]
  rw [same]
  have tagged := tagged_unchanged framing key frame.stripMac
  refine ⟨tagged.target, tagged.payload, tagged.flags.trans ?_⟩
  show frame.flags &&& ~~~flagMacPresent &&& ~~~flagMacPresent = _
  rw [UInt16.and_assoc, UInt16.and_self]

end Frames

section Audit
variable {audit later : RelayAudit β} {relay : Relay β} {msg : IncomingMessage β} {key : Option Bytes}
  {tx : Sender} {item : Outbound β}

/-- The message came from a local connection, and its target resolved to nobody. -/
structure IsLocalMiss (ctx : Context β) (tasks : Tasks β) (relay : Relay β) : Prop where
  origin : IsLocal tasks relay.msg.connId
  target : ∃ target, ToPeer ctx relay.msg target ∧ target ≠ "client" ∧ relay.registry.getMux target = none

theorem IsLocalMiss.stays (miss : IsLocalMiss ctx state.tasks relay)
    (step : state.step ctx framing limits bridge action = some next) : IsLocalMiss ctx next.tasks relay := by
  refine ⟨?_, miss.target⟩
  cases (bridge_step step).inner with
  | same unchanged =>
    rw [unchanged]
    exact miss.origin
  | task _ _ moved | bridge moved | enqueue _ moved => exact miss.origin.stays moved

theorem host_listed (touch : InTouch bridge state) {target sender} (live : state.host.task.channel = some (tx, key))
    (host : msg.connId = bridgeConnId)
    (authorized : authorizeForward state.tasks.kernel.router.registry msg target = .ok sender) :
    target ∈ bridge.config.mirror ∨ ((state.tasks.kernel.router.registry.getMux target).isSome = true ∧
      ∃ dev cap, Text.splitOnce target '.' = some (dev, cap) ∧ dev ∈ bridge.config.mirror) := by
  obtain ⟨proxy, known, proxied⟩ := touch.sender live
  obtain ⟨found, _, _, listed⟩ := authorizeForward_ok_iff.mp authorized
  rw [host, known] at found
  cases found
  rw [proxied.manifest] at listed
  exact listed.imp_right fun byDevice => ⟨byDevice.1, byDevice.2.2⟩

theorem leadsHome_some {registry name entry}
    (home : leadsHome registry name = true) (resolved : registry.getMux name = some entry) :
    entry.connId ≠ bridgeConnId := by
  simpa [leadsHome, resolved] using home

/-- A host frame whose target is mirrored resolves, and one whose target is not is
refused: neither is relayed. -/
theorem relay_localMiss (touch : InTouch bridge audit.state) (origins : Origins ctx.wire bridge audit.state)
    (allowed : relaysPlainly ctx bridge audit action = true) (made : relayOf ctx audit.state action = some relay) :
    IsLocalMiss ctx audit.state.tasks relay := by
  obtain ⟨now, rest, rfl, waiting, taken, target, tx, sender, passed⟩ := relayOf_some made
  simp only [relaysPlainly, waiting, List.head?_cons, Option.all_some] at allowed
  by_cases host : relay.msg.connId = bridgeConnId
  · rw [if_pos host] at allowed
    obtain ⟨others, handle⟩ := passed.live
    have only := touch.handle _ handle
    cases channel : audit.state.host.task.channel with
    | none => simp [channel] at only
    | some live =>
      have listed := host_listed touch channel host passed.authorized
      rw [passed.unresolved] at listed
      have mirrored : target ∈ bridge.config.mirror := by simpa using listed
      have home := List.all_eq_true.mp allowed target mirrored
      rw [leadsHome, passed.unresolved] at home
      cases home
  · rw [if_neg host, passed.addressed.1] at allowed
    have origin : IsLocal audit.state.tasks relay.msg.connId := by
      rcases origins.queued relay.msg (by simp [waiting]) with known | ⟨serial, original, fromHost⟩
      · exact known
      · exact absurd (congrArg IncomingMessage.connId fromHost) host
    refine ⟨origin, target, passed.addressed, by simpa using allowed, ?_⟩
    rw [taken]
    exact passed.unresolved

theorem host_resolves_home (touch : InTouch bridge state) (undotted : Text.contains bridge.deviceId '.' = false)
    {target sender entry} (live : state.host.task.channel = some (tx, key)) (host : msg.connId = bridgeConnId)
    (homes : bridge.config.mirror.all (leadsHome state.tasks.kernel.router.registry) = true)
    (authorized : authorizeForward state.tasks.kernel.router.registry msg target = .ok sender)
    (resolved : state.tasks.kernel.router.registry.getMux target = some entry) : entry.connId ≠ bridgeConnId := by
  have each := List.all_eq_true.mp homes
  rcases host_listed touch live host authorized with mirrored | ⟨_, dev, cap, split, mirrored⟩
  · exact leadsHome_some (each target mirrored) resolved
  · intro own
    obtain ⟨proxy, found, proxied⟩ := touch.entry tx key live
    have stored := getMux_registered resolved
    have same := get_same_conn stored found (own.trans proxied.connId.symm)
    have named : entry.pluginId = bridge.deviceId := by rw [same, get_own found]
    simp only [PluginRegistry.getMux] at resolved
    split at resolved
    next direct at_target =>
      cases resolved
      rw [← named, get_own at_target, ← Text.splitOnce_isSome, split] at undotted
      cases undotted
    · obtain ⟨rest, splits, _⟩ := getDeviceCap_some resolved
      rw [split] at splits
      cases splits
      exact leadsHome_some (each _ mirrored) (getMux_eq_get stored) own

def StemsFrom (ctx : Context β) (tasks : Tasks β) (item : Outbound β) (mark : Option (Relay β)) : Prop :=
  ∀ relay, mark = some relay → item = relayed relay.msg ∧ IsLocalMiss ctx tasks relay

structure Marked (ctx : Context β) (bridge : Bridge) (audit : RelayAudit β) : Prop where
  touch : InTouch bridge audit.state
  origins : Origins ctx.wire bridge audit.state
  aligned : List.Forall₂ (StemsFrom ctx audit.state.tasks) (hostQueue audit.state) audit.marks
  sent : ∀ relay frame, (relay, frame) ∈ audit.sent →
    IsLocalMiss ctx audit.state.tasks relay ∧ Unchanged relay.msg.frame frame

theorem audit_step_some (step : audit.step ctx framing limits bridge action = some later) :
    audit.state.step ctx framing limits bridge action = some later.state ∧
      later.marks = audit.marks.drop ((hostQueue audit.state).length - (hostQueue later.state).length) ++
        List.replicate ((hostQueue later.state).length - (hostQueue audit.state).length)
          (relayOf ctx audit.state action) ∧
      later.sent = audit.sent ++ audit.marks.head?.join.toList.flatMap fun relay =>
        (later.state.host.socket.drop audit.state.host.socket.length).map fun frame => (relay, frame) := by
  obtain ⟨next, moved, rfl⟩ := Option.map_eq_some_iff.mp step
  exact ⟨moved, rfl, rfl⟩

theorem forall₂_replicate {α γ : Type} {related : α → γ → Prop} {items mark}
    (each : ∀ item ∈ items, related item mark) : List.Forall₂ related items (List.replicate items.length mark) := by
  induction items with
  | nil => exact .nil
  | cons item rest ih =>
    exact .cons (each item List.mem_cons_self) (ih fun other member => each other (List.mem_cons_of_mem item member))

theorem Marked.aligns (marked : Marked ctx bridge audit) (allowed : relaysPlainly ctx bridge audit action = true)
    (step : audit.step ctx framing limits bridge action = some later) :
    List.Forall₂ (StemsFrom ctx later.state.tasks) (hostQueue later.state) later.marks := by
  obtain ⟨moved, marks, _⟩ := audit_step_some step
  have old : List.Forall₂ (StemsFrom ctx later.state.tasks) (hostQueue audit.state) audit.marks := by
    apply marked.aligned.imp
    intro item mark stems relay same
    obtain ⟨shape, miss⟩ := stems relay same
    exact ⟨shape, miss.stays moved⟩
  have length := old.length_eq
  rw [marks]
  cases host_flow marked.touch marked.origins.toLocalReads moved with
  | @fed items queue own =>
    have grown : (hostQueue later.state).length = (hostQueue audit.state).length + items.length := by simp [queue]
    rw [grown, Nat.sub_eq_zero_of_le (Nat.le_add_right _ _), Nat.add_sub_cancel_left, List.drop_zero, queue]
    apply List.rel_append old
    apply forall₂_replicate
    intro item member relay made
    exact ⟨own relay made item member, (relay_localMiss marked.touch marked.origins allowed made).stays moved⟩
  | @taken count queue =>
    have shrunk : (hostQueue later.state).length = (hostQueue audit.state).length - count := by simp [queue]
    have dropped : audit.marks.drop ((hostQueue audit.state).length - (hostQueue later.state).length) =
        audit.marks.drop count := by
      rw [shrunk]
      rcases Nat.le_total count (hostQueue audit.state).length with fewer | more
      · rw [Nat.sub_sub_self fewer]
      · rw [Nat.sub_eq_zero_of_le more, Nat.sub_zero, length, List.drop_length, List.drop_eq_nil_of_le (length ▸ more)]
    rw [dropped, Nat.sub_eq_zero_of_le (by omega), List.replicate_zero, List.append_nil, queue]
    exact List.forall₂_drop count old

theorem Marked.written {frame} (marked : Marked ctx bridge audit)
    (moved : audit.state.step ctx framing limits bridge action = some next) (head : audit.marks.head?.join = some relay)
    (fresh : frame ∈ next.host.socket.drop audit.state.host.socket.length) :
    IsLocalMiss ctx audit.state.tasks relay ∧ Unchanged relay.msg.frame frame := by
  have aligned := marked.aligned
  have unsent : next.host.socket = audit.state.host.socket → IsLocalMiss ctx audit.state.tasks relay ∧
      Unchanged relay.msg.frame frame := by
    intro same
    rw [same, List.drop_length] at fresh
    cases fresh
  cases bridge_step moved with
  | task | waited | failed | registered | ended | read | enqueued | skipped | lost => exact unsent rfl
  | connected before =>
    rw [hostQueue_idle (congrArg BridgeTask.channel before), List.forall₂_nil_left_iff] at aligned
    rw [aligned] at head
    cases head
  | @wrote _ tx key first rest live queue =>
    rw [hostQueue_live live, queue] at aligned
    obtain ⟨mark, marks, stems, _, shape⟩ := List.forall₂_cons_left_iff.mp aligned
    rw [shape] at head
    obtain ⟨same, miss⟩ := stems relay head
    cases same
    obtain ⟨target, addressed, other, _⟩ := miss.target
    have only : frame = Bridge.hostFrame ctx.wire framing key relay.msg.frame.stripMac := by simpa using fresh
    rw [only]
    refine ⟨miss, hostFrame_unchanged framing key ?_⟩
    rw [addressed.1]
    simpa using other

theorem Marked.step (marked : Marked ctx bridge audit) (allowed : relaysPlainly ctx bridge audit action = true)
    (step : audit.step ctx framing limits bridge action = some later) : Marked ctx bridge later := by
  obtain ⟨moved, _, sent⟩ := audit_step_some step
  have spared : sparesDevice bridge audit.state action = true := by
    cases action with
    | task inner =>
      cases inner with
      | take => rfl
      | _ => exact allowed
    | _ => exact allowed
  refine ⟨marked.touch.step spared moved, marked.origins.step moved, marked.aligns allowed step, ?_⟩
  intro relay frame member
  rw [sent, List.mem_append] at member
  have before : IsLocalMiss ctx audit.state.tasks relay ∧ Unchanged relay.msg.frame frame := by
    rcases member with old | new
    · exact marked.sent relay frame old
    · obtain ⟨other, head, made⟩ := List.mem_flatMap.mp new
      obtain ⟨written, fresh, same⟩ := List.mem_map.mp made
      cases same
      exact marked.written moved (Option.mem_toList.mp head) fresh
  exact ⟨before.1.stays moved, before.2⟩

theorem host_sent_built (touch : InTouch bridge state) (undotted : Text.contains bridge.deviceId '.' = false)
    {now}
    (live : state.host.task.channel = some (tx, key)) (host : msg.connId = bridgeConnId)
    (homes : bridge.config.mirror.all (leadsHome state.tasks.kernel.router.registry) = true)
    (sent : Sent ctx now msg (state.tasks.kernel.router.checkIpcRate ctx now msg).1 tx item)
    (passed : item = relayed msg) : Built ctx tx item := by
  have own : tx.conn = bridgeConnId := beq_iff_eq.mp (channel_own live)
  obtain ⟨calls, quiet⟩ := checkIpcRate_quiet ctx now msg state.tasks.kernel.router
  rw [quiet] at sent
  cases sent with
  | mac key => cases passed
  | reply _ carries => exact carries.built
  | event carries _ => exact carries.built
  | request _ _ _ carries => exact carries.built
  | toRequester _ _ _ carries => exact carries.built
  | toProvider _ _ _ _ carries => exact carries.built
  | @forwarded target sender entry _ authorized resolved _ =>
    exact absurd (entry.owned ▸ own) (host_resolves_home touch undotted live host homes authorized resolved)
  | bridged _ authorized unresolved _ _ =>
    rcases host_listed touch live host authorized with mirrored | ⟨resolved, _⟩
    · have home := List.all_eq_true.mp homes _ mirrored
      rw [leadsHome, unresolved] at home
      cases home
    · rw [unresolved] at resolved
      cases resolved
  | @broadcast sender entry _ _ _ other _ _ => exact absurd ((entry.owned ▸ own).trans host.symm) other

theorem host_frame_stays (touch : InTouch bridge state) (undotted : Text.contains bridge.deviceId '.' = false)
    {now rest} (waiting : state.tasks.kernel.incoming = msg :: rest) (host : msg.connId = bridgeConnId)
    (homes : bridge.config.mirror.all (leadsHome state.tasks.kernel.router.registry) = true)
    (step : state.step ctx framing limits bridge (.task (.take now)) = some next)
    (added : item ∈ (hostQueue next).drop (hostQueue state).length) : ∃ tx, Built ctx tx item := by
  cases bridge_step step with
  | waited mine => exact absurd rfl (mine _)
  | failed _ mine | ended _ mine => exact absurd rfl (mine _)
  | @task _ tasks _ moved =>
    cases channel : state.host.task.channel with
    | none => simp [hostQueue, channel] at added
    | some live =>
      obtain ⟨tx, key⟩ := live
      have member : item ∈ Mailboxes.added state.tasks.net tasks.net tx := by
        simpa [hostQueue, channel, Mailboxes.added] using added
      cases tasks_take_some moved with
      | accepted _ _ accepted =>
        have same := acceptRegister_net accepted
        simp [Mailboxes.added, Tasks.net, same] at member
      | routed _ head refused =>
        rw [waiting] at head
        cases head
        rcases (routeMessage_frames refused).mem_added member with built | passed
        · exact ⟨tx, built⟩
        · exact ⟨tx, host_sent_built touch undotted channel host homes (routeMessage_sent member) passed⟩

/-- If the router takes host frames only while every mirrored capability is provided by a
local plugin, no local frame names the target `client`, and no other task unregisters the
device, whose name has no dot, then: what is relayed are messages of local connections
whose target resolved to nobody; the host gets each of them as it was but for its MAC;
and no frame of the host goes back to it. -/
theorem relays_local_misses (ctx : Context β) (framing : Framing β) (limits : ConnectionLimits) (bridge : Bridge)
    (undotted : Text.contains bridge.deviceId '.' = false) (router : RouterState β)
    (idle : ∀ conns, router.bridge = some conns → conns = []) (audit : RelayAudit β)
    (run : Run (RelayAudit.step ctx framing limits bridge) (relaysPlainly ctx bridge)
      { state := { tasks := { kernel := { router } } } } audit) :
    (∀ relay frame, (relay, frame) ∈ audit.sent →
      IsLocalMiss ctx audit.state.tasks relay ∧ Unchanged relay.msg.frame frame) ∧
    ∀ action later, relaysPlainly ctx bridge audit action = true →
      audit.step ctx framing limits bridge action = some later →
      (∀ relay, relayOf ctx audit.state action = some relay → IsLocalMiss ctx audit.state.tasks relay ∧
        hostQueue later.state = hostQueue audit.state ++ [relayed relay.msg]) ∧
      ∀ now msg rest, action = .task (.take now) → audit.state.tasks.kernel.incoming = msg :: rest →
        msg.connId = bridgeConnId → ∀ item ∈ (hostQueue later.state).drop (hostQueue audit.state).length,
          ∃ tx, Built ctx tx item := by
  have marked : Marked ctx bridge audit := by
    apply run.preserves
    · exact ⟨.initial idle, .initial ctx.wire bridge router, .nil, by simp⟩
    intro before action after allowed step holds
    exact holds.step allowed step
  refine ⟨marked.sent, ?_⟩
  intro action later allowed step
  have moved := (audit_step_some step).1
  constructor
  · intro relay made
    exact ⟨relay_localMiss marked.touch marked.origins allowed made, relay_fed marked.touch made moved⟩
  · rintro now msg rest rfl waiting host item added
    simp only [relaysPlainly, waiting, List.head?_cons, Option.all_some, if_pos host] at allowed
    exact host_frame_stays marked.touch undotted waiting host allowed moved added

end Audit

section Den
open Scenario

abbrev denAudit : RelayAudit Packet → BridgedAction Packet → Option (RelayAudit Packet) :=
  RelayAudit.step fieldContext Packet.framing {} den

def asleep : RelayAudit Packet := { state := { tasks := { kernel := { router := { bridge := some [] } } } } }

def handsIn (msg : IncomingMessage Packet) : List (BridgedAction Packet) :=
  [.task (.read 1 0 msg.frame), .task (.enqueue 1), .task (.take start)]

def mayCall (target : String) : PluginManifest where
  permissions := ["PERMISSION_IPC_SEND"]
  ipcTargets := [target]

def joinsDen (pluginId target : String) : List (BridgedAction Packet) :=
  handsIn (sends 1 "kernel" (.pluginRegister { pluginId := pluginId, manifest := some (mayCall target) })) ++
    [.task .acknowledge, .task .arm, .task .join]

def callsHost : List (BridgedAction Packet) :=
  [.connect true, .register welcome start, .task (.accept 1 .ws)] ++ joinsDen "speaker" "cinema" ++
    handsIn (incoming 1 "cinema" (.raw [1])) ++ [.write true]

def callsHostEnd : RelayAudit Packet :=
  (exec denAudit (relaysPlainly fieldContext den) asleep callsHost).get (by decide +kernel)

theorem relays_local_misses_speaker : callsHostEnd.sent.length = 1 ∧ ∀ relay frame, (relay, frame) ∈ callsHostEnd.sent →
    IsLocalMiss fieldContext callsHostEnd.state.tasks relay ∧ Unchanged relay.msg.frame frame := by
  have sound := relays_local_misses fieldContext Packet.framing {} den (by decide) { bridge := some [] }
    (fun _ none => (Option.some.inj none).symm) callsHostEnd (exec_get_run (by decide +kernel))
  exact ⟨by decide +kernel, sound.1⟩

/-- The host calls the capability while its plugin is not registered; then a local
plugin calls a peer named `client`. -/
def straysBack : List (BridgedAction Packet) :=
  [.connect true, .register welcome start, .read tone, .enqueue, .task (.take start), .write true,
    .task (.accept 1 .ws)] ++ joinsDen "tuner" "client" ++ handsIn (incoming 1 "client" (.raw [2])) ++ [.write true]

def straysBackEnd : RelayAudit Packet := (exec denAudit unguarded asleep straysBack).get (by decide +kernel)

/-- The host gets its own frame back, and the other one is addressed to its kernel. -/
theorem host_frame_echoed_and_client_rewritten :
    straysBackEnd.sent.map (fun entry => (entry.1.msg.connId, fieldContext.wire.targetAsStr entry.1.msg.frame.target,
      fieldContext.wire.targetAsStr entry.2.target)) =
    [(bridgeConnId, some "speaker", some "speaker"), (1, some "client", some "kernel")] := by
  decide +kernel

end Den
end Vynkor.Proofs
