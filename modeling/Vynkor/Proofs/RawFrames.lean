import Vynkor.Proofs.Blinding
import Vynkor.Proofs.PeerGate
import Vynkor.Scenario

/-! Raw frames between plugins. Two runs of the router that differ in the
contents of raw frames only stay indistinguishable, as long as the contents agree
in the two places where the router does decode them: the exemption of a throttled
sender and the direct call of a capability. -/

namespace Vynkor.Proofs
open RouterState Execution
variable {β : Type} {ctx : Context β} {now : Moment}

section Opening
variable {msg : IncomingMessage β} {st : RouterState β}

/-- What a direct call leaves in the table of pending actions, besides its parties. -/
def opening (wire : Wire β) (frame : Frame β) : Option (String × Bool) :=
  (directRequest wire frame).map fun request => (request.actionId, request.streaming)

/-- The pending action of a direct call depends on its opening and its parties. -/
theorem recordDirect_eq (target : String) (sender entry : PluginEntry) :
    st.recordDirect ctx now msg target sender entry =
      if Text.contains target '.' then
        match opening ctx.wire msg.frame with
        | some (actionId, streaming) => st.registry.registerPendingAction actionId
            (directPending now msg sender entry { actionId, action := "", streaming })
        | none => st.registry
      else st.registry := by
  simp only [recordDirect, opening]
  cases directRequest ctx.wire msg.frame with
  | none => simp only [Option.map_none, ite_self]
  | some request => rfl

end Opening

section Peers
variable [Inhabited β] {msg other : IncomingMessage β} {st first second : RouterState β} {target : String}

/-- The router cannot tell the two messages apart in this state. -/
structure Alike (ctx : Context β) (st : RouterState β) (msg other : IncomingMessage β) : Prop where
  connId : other.connId = msg.connId
  writeTx : other.writeTx = msg.writeTx
  target : other.frame.target = msg.frame.target
  raw : other.frame.isRawBinary = msg.frame.isRawBinary
  relayed : (relayed other).blind = (relayed msg).blind
  kernel : ctx.wire.targetAsStr msg.frame.target = some "kernel" → other = msg
  exempt : ctx.maxConnErrors ≤ st.errorCount msg.connId →
    isThrottleExempt ctx.wire other.frame = isThrottleExempt ctx.wire msg.frame
  opening : ∀ target, ctx.wire.targetAsStr msg.frame.target = some target → Text.contains target '.' = true →
    (st.registry.getMux target).isSome = true → opening ctx.wire other.frame = opening ctx.wire msg.frame

theorem Alike.refl (ctx : Context β) (st : RouterState β) (msg : IncomingMessage β) : Alike ctx st msg msg :=
  ⟨rfl, rfl, rfl, rfl, rfl, fun _ => rfl, fun _ => rfl, fun _ _ _ _ => rfl⟩

section
variable (alike : Alike ctx st msg other) (registry : PluginRegistry)
include alike

theorem audioAllowed_alike : audioAllowed registry other.frame = audioAllowed registry msg.frame := by
  funext senderId
  simp only [audioAllowed, alike.raw]

theorem authorizeForward_alike (target : String) :
    authorizeForward registry other target = authorizeForward registry msg target := by
  rw [authorizeForward, authorizeForward, alike.connId, audioAllowed_alike alike]

theorem authorizeBroadcast_alike : authorizeBroadcast registry other = authorizeBroadcast registry msg := by
  rw [authorizeBroadcast, authorizeBroadcast, alike.connId, audioAllowed_alike alike]

end

theorem recordDirect_alike (alike : Alike ctx st msg other) {sender entry : PluginEntry}
    (aimed : ctx.wire.targetAsStr msg.frame.target = some target)
    (resolved : st.registry.getMux target = some entry)
    (same : second.registry = st.registry) :
    second.recordDirect ctx now other target sender entry = st.recordDirect ctx now msg target sender entry := by
  rw [recordDirect_eq, recordDirect_eq, same]
  split
  next dotted =>
    rw [alike.opening target aimed dotted (by rw [resolved]; rfl)]
    simp only [directPending, alike.writeTx]
  · rfl

/-- Blinding hides queue contents and nothing else. -/
theorem blind_shared (same : first.blind = second.blind) : second = { first with net := second.net } := by
  obtain ⟨registry, bus, store, net, errorCounts, msgSeq, actionSeq, eventSeq, ipcCalls, actionCalls, bridge⟩ := first
  cases second
  simp only [RouterState.blind, RouterState.mk.injEq] at same
  obtain ⟨rfl, rfl, rfl, _, rfl, rfl, rfl, rfl, rfl, rfl, rfl⟩ := same
  rfl

theorem broadcastTo_alike (alike : Alike ctx st msg other) (same : first.blind = second.blind) (sender : PluginEntry)
    (entries : List PluginEntry) :
    (broadcastTo msg sender entries first).blind = (broadcastTo other sender entries second).blind := by
  induction entries generalizing first second with
  | nil => exact same
  | cons entry rest ih =>
    have registry : second.registry = first.registry := by rw [blind_shared same]
    have sent : (first.trySend entry.writeTx (relayed msg)).1.blind =
        (second.trySend entry.writeTx (relayed other)).1.blind := by
      have one := congrArg Prod.fst (trySend_blinded first entry.writeTx (relayed msg))
      have two := congrArg Prod.fst (trySend_blinded second entry.writeTx (relayed other))
      rw [alike.relayed, ← same] at two
      exact one.trans two.symm
    simp only [broadcastTo, alike.connId, registry]
    split
    · exact ih same
    · split
      · exact ih sent
      · exact ih same

theorem relayToHost_alike (alike : Alike ctx st msg other) (same : first.blind = second.blind) :
    blinded (first.relayToHost msg) = blinded (second.relayToHost other) := by
  have bridge : second.bridge = first.bridge := by rw [blind_shared same]
  simp only [relayToHost, bridge]
  split
  next tx _ _ => rw [trySend_blinded, trySend_blinded, alike.relayed, same]
  · simp only [blinded, same]

theorem sendError_twin (same : first.blind = second.blind) (tx : Sender) (code : ErrorCode) (message : String) :
    (first.sendError ctx now tx code message).blind = (second.sendError ctx now tx code message).blind := by
  rw [sendError_blind, sendError_blind, same]

section
variable (alike : Alike ctx first msg other) (same : first.blind = second.blind)
include alike same

theorem forward_alike (aimed : ctx.wire.targetAsStr msg.frame.target = some target) :
    blinded (first.forward ctx now msg target) = blinded (second.forward ctx now other target) := by
  have registry : second.registry = first.registry := by rw [blind_shared same]
  simp only [forward, registry, authorizeForward_alike alike, alike.writeTx]
  split
  next denial _ => simp only [blinded, sendError_twin same]
  next sender _ =>
    split
    next entry resolved =>
      rw [recordDirect_alike alike aimed resolved registry]
      have sent : blinded ((first.setRegistry (first.recordDirect ctx now msg target sender entry)).trySend
            entry.writeTx (relayed msg)) =
          blinded ((second.setRegistry (first.recordDirect ctx now msg target sender entry)).trySend
            entry.writeTx (relayed other)) := by
        rw [trySend_blinded, trySend_blinded, alike.relayed, setRegistry_blind, setRegistry_blind, same]
      exact congrArg (fun outcome => (outcome.1, false)) sent
    · have relay : blinded (first.relayToHost msg) = blinded (second.relayToHost other) := relayToHost_alike alike same
      have states : (first.relayToHost msg).1.blind = (second.relayToHost other).1.blind := congrArg Prod.fst relay
      have outcomes : (blinded (first.relayToHost msg)).2 = (blinded (second.relayToHost other)).2 := by rw [relay]
      simp only [blinded] at outcomes
      rw [outcomes]
      split
      · simp only [blinded, states]
      · simp only [blinded, sendError_twin states]

theorem broadcast_alike : blinded (first.broadcast ctx now msg) = blinded (second.broadcast ctx now other) := by
  have registry : second.registry = first.registry := by rw [blind_shared same]
  simp only [broadcast, registry, authorizeBroadcast_alike alike, alike.writeTx]
  split
  · simp only [blinded, sendError_twin same]
  next sender _ => simp only [blinded, broadcastTo_alike alike same sender first.registry.list]

theorem handleTarget_alike (aimed : ctx.wire.targetAsStr msg.frame.target = some target) :
    blinded (first.handleTarget ctx now msg target) = blinded (second.handleTarget ctx now other target) := by
  simp only [handleTarget]
  split
  next kernel =>
    subst kernel
    rw [alike.kernel aimed, handleKernelMessage_blinded, handleKernelMessage_blinded, same]
  · split
    · exact broadcast_alike alike same
    · exact forward_alike alike same aimed

theorem checkIpcRate_alike :
    blinded (first.checkIpcRate ctx now msg) = blinded (second.checkIpcRate ctx now other) := by
  have calls : second.ipcCalls = first.ipcCalls := by rw [blind_shared same]
  simp only [checkIpcRate, alike.connId, calls]
  split
  · simp only [blinded, same]
  next limiter _ =>
    have counted := congrArg (fun st : RouterState β =>
      { st with ipcCalls := first.ipcCalls ++ [(msg.connId, now.instant)] }) same
    exact congrArg (fun st => (st, limiter first.ipcCalls msg.connId now.instant)) counted

end

theorem recordOutcome_alike (connId : other.connId = msg.connId) (same : first.blind = second.blind) (errored : Bool) :
    (first.recordOutcome ctx now msg errored).blind = (second.recordOutcome ctx now other errored).blind := by
  have outcome (st : RouterState β) : (st.recordOutcome ctx now msg errored).blind =
      st.blind.recordOutcome ctx now msg errored := by
    simp only [recordOutcome]
    split <;> rfl
  have sender : second.recordOutcome ctx now other errored = second.recordOutcome ctx now msg errored := by
    simp only [recordOutcome, connId]
  rw [sender, outcome, outcome, same]

section
variable (alike : Alike ctx first msg other) (same : first.blind = second.blind)
include alike same

theorem isThrottled_alike : second.isThrottled ctx other = first.isThrottled ctx msg := by
  have counts : second.errorCount msg.connId = first.errorCount msg.connId := by rw [blind_shared same]; rfl
  simp only [isThrottled, alike.connId, counts]
  by_cases spent : ctx.maxConnErrors ≤ first.errorCount msg.connId
  · rw [alike.exempt spent]
  · simp [spent]

theorem routeTarget_alike :
    blinded (first.routeTarget ctx now msg) = blinded (second.routeTarget ctx now other) := by
  simp only [routeTarget, alike.target, alike.writeTx, isThrottled_alike alike same]
  split
  · simp only [blinded, sendError_twin same]
  next target aimed =>
    split
    · simp only [blinded, same]
    · have handled : blinded (first.handleTarget ctx now msg target) =
          blinded (second.handleTarget ctx now other target) :=
        handleTarget_alike alike same aimed
      have states : (first.handleTarget ctx now msg target).1.blind =
          (second.handleTarget ctx now other target).1.blind :=
        congrArg Prod.fst handled
      have outcomes := congrArg Prod.snd handled
      simp only [blinded] at outcomes
      simp only [blinded, outcomes, recordOutcome_alike alike.connId states]

theorem routeMessage_alike :
    blinded (first.routeMessage ctx now msg) = blinded (second.routeMessage ctx now other) := by
  have rated : blinded (first.checkIpcRate ctx now msg) = blinded (second.checkIpcRate ctx now other) :=
    checkIpcRate_alike alike same
  have states : (first.checkIpcRate ctx now msg).1.blind = (second.checkIpcRate ctx now other).1.blind :=
    congrArg Prod.fst rated
  have outcomes := congrArg Prod.snd rated
  simp only [blinded] at outcomes
  have checked : Alike ctx (first.checkIpcRate ctx now msg).1 msg other := by
    obtain ⟨calls, quiet⟩ := checkIpcRate_quiet ctx now msg first
    rw [quiet]
    exact ⟨alike.connId, alike.writeTx, alike.target, alike.raw, alike.relayed, alike.kernel, alike.exempt, alike.opening⟩
  simp only [routeMessage, outcomes, alike.writeTx]
  split
  · exact routeTarget_alike checked states
  · simp only [blinded, sendError_twin states]

end

end Peers

section Twins

/-- The same frame with other contents, and with the checksum and the tag that
belong to them. -/
def withContents (msg : IncomingMessage β) (payload : β) (crc32 : UInt32) (mac : Option Bytes) :
    IncomingMessage β :=
  { msg with frame := { msg.frame with payload, crc32, mac } }

/-- What happens next to both routers; only `raw` gives the second one other
contents. -/
inductive TwinInput (β : Type) where
  | message (now : Moment) (msg : IncomingMessage β)
  | raw (now : Moment) (msg : IncomingMessage β) (payload : β) (crc32 : UInt32) (mac : Option Bytes)
  | prune (now : Moment)
  | drain (tx : Sender)
  | close (tx : Sender)

def advance (ctx : Context β) (second : Bool) (st : RouterState β) : TwinInput β → RouterState β × Option Verdict
  | .message now msg =>
    let routed := st.routeMessage ctx now msg
    (routed.1, some routed.2)
  | .raw now msg payload crc32 mac =>
    let routed := st.routeMessage ctx now (if second then withContents msg payload crc32 mac else msg)
    (routed.1, some routed.2)
  | .prune now => (st.pruneTick ctx now, none)
  | .drain tx => ({ st with net := st.net.drain tx }, none)
  | .close tx => ({ st with net := st.net.close tx }, none)

def twinStep (ctx : Context β) (twins : RouterState β × RouterState β) (input : TwinInput β) :
    Option (RouterState β × RouterState β) :=
  some ((advance ctx false twins.1 input).1, (advance ctx true twins.2 input).1)

/-- Other contents are given to raw frames between plugins only, and of the same length. -/
def comparable (ctx : Context β) (_ : RouterState β × RouterState β) : TwinInput β → Bool
  | .raw _ msg payload _ _ => msg.frame.isRawBinary && decide (ctx.wire.targetAsStr msg.frame.target ≠ some "kernel")
      && ctx.wire.size payload == ctx.wire.size msg.frame.payload
  | _ => true

/-- The contents agree on what the router decodes: the exemption, if the sender is
over its error budget, and the opening, if the target is a capability that resolves. -/
def decodesAlike (ctx : Context β) (twins : RouterState β × RouterState β) : TwinInput β → Bool
  | .raw _ msg payload crc32 mac =>
    let other := (withContents msg payload crc32 mac).frame
    (decide (twins.1.errorCount msg.connId < ctx.maxConnErrors)
      || isThrottleExempt ctx.wire other == isThrottleExempt ctx.wire msg.frame)
    && ((ctx.wire.targetAsStr msg.frame.target).all fun target =>
      !(Text.contains target '.' && (twins.1.registry.getMux target).isSome)
        || opening ctx.wire other == opening ctx.wire msg.frame)
  | _ => true

/-- The same item, or the same raw frame with other contents. -/
inductive SameShape : Outbound β → Outbound β → Prop where
  | same (item : Outbound β) : SameShape item item
  | raw {frame other} (binary : frame.isRawBinary = true)
      (header : other = { frame with payload := other.payload, crc32 := other.crc32 }) :
      SameShape (.frame frame) (.frame other)

/-- Equal in everything but the contents of queued raw frames. -/
structure Indistinguishable (first second : RouterState β) : Prop where
  shared : second = { first with net := second.net }
  queues : ∀ tx, List.Forall₂ SameShape (first.net tx).queue (second.net tx).queue
  closed : ∀ tx, (second.net tx).closed = (first.net tx).closed

variable [Inhabited β] {first second : RouterState β}

theorem sameShape_of_blind {item other : Outbound β} (same : item.blind = other.blind) : SameShape item other := by
  have headers {sent later : Frame β} (equal : Outbound.frame { sent with payload := (default : β), crc32 := 0 } =
      Outbound.frame { later with payload := (default : β), crc32 := 0 }) :
      later = { sent with payload := later.payload, crc32 := later.crc32 } := by
    cases sent
    cases later
    cases equal
    rfl
  have flags {sent later : Frame β}
      (equal : Outbound.frame { sent with payload := (default : β), crc32 := 0 } = .frame later) :
      later.isRawBinary = sent.isRawBinary := by
    cases equal
    rfl
  cases item with
  | enableMac key =>
    cases other with
    | enableMac other =>
      have equal : Outbound.enableMac key = (.enableMac other : Outbound β) := same
      rw [equal]
      exact .same _
    | frame later =>
      simp only [Outbound.blind] at same
      split at same <;> cases same
  | frame sent =>
    cases other with
    | enableMac key =>
      simp only [Outbound.blind] at same
      split at same <;> cases same
    | frame later =>
      simp only [Outbound.blind] at same
      split at same
      next binary =>
        split at same
        · exact .raw binary (headers same)
        next plain =>
          rw [flags same] at plain
          exact absurd binary plain
      next plain =>
        split at same
        next binary =>
          rw [flags same.symm] at plain
          exact absurd binary plain
        · rw [same]
          exact .same _

theorem indistinguishable_of_blind (same : first.blind = second.blind) :
    Indistinguishable first second := by
  have boxes (tx : Sender) : (first.net.map Outbound.blind) tx = (second.net.map Outbound.blind) tx :=
    congrFun (congrArg RouterState.net same) tx
  refine ⟨blind_shared same, fun tx => ?_, fun tx => ?_⟩
  · have queue : (first.net tx).queue.map Outbound.blind = (second.net tx).queue.map Outbound.blind :=
      congrArg Mailbox.queue (boxes tx)
    have blindly : List.Forall₂ (· = ·) ((first.net tx).queue.map Outbound.blind)
        ((second.net tx).queue.map Outbound.blind) := by
      rw [queue]
      exact List.forall₂_refl _
    rw [List.forall₂_map_left_iff, List.forall₂_map_right_iff] at blindly
    exact blindly.imp fun _ _ => sameShape_of_blind
  · exact (congrArg Mailbox.closed (boxes tx)).symm

theorem alike_of_guard {twins now msg payload crc32 mac}
    (permitted : comparable ctx twins (.raw now msg payload crc32 mac) = true)
    (agrees : decodesAlike ctx twins (.raw now msg payload crc32 mac) = true) :
    Alike ctx twins.1 msg (withContents msg payload crc32 mac) := by
  simp only [comparable, Bool.and_eq_true, decide_eq_true_eq] at permitted
  simp only [decodesAlike, Bool.and_eq_true, Bool.or_eq_true, decide_eq_true_eq, beq_iff_eq] at agrees
  obtain ⟨⟨binary, notKernel⟩, _⟩ := permitted
  refine ⟨rfl, rfl, rfl, rfl, ?_, fun kernel => absurd kernel notKernel, ?_, ?_⟩
  · have strippedOther : (withContents msg payload crc32 mac).frame.stripMac.isRawBinary = true := by
      rw [stripMac_isRawBinary]
      exact binary
    have stripped : msg.frame.stripMac.isRawBinary = true := by rw [stripMac_isRawBinary, binary]
    simp only [relayed, Outbound.blind, strippedOther, stripped, if_true]
    rfl
  · intro spent
    rcases agrees.1 with within | same
    · omega
    · exact same
  · intro target aimed dotted resolved
    have opens := agrees.2
    rw [aimed] at opens
    simpa only [Option.all_some, dotted, resolved, Bool.and_self, Bool.not_true, Bool.false_or, beq_iff_eq] using opens

theorem advance_alike {input : TwinInput β}
    (permitted : comparable ctx (first, second) input = true) (agrees : decodesAlike ctx (first, second) input = true)
    (same : first.blind = second.blind) :
    blinded (advance ctx false first input) = blinded (advance ctx true second input) := by
  have verdict {routed later : RouterState β × Verdict} (equal : blinded routed = blinded later) :
      blinded (routed.1, some routed.2) = blinded (later.1, some later.2) :=
    congrArg (fun outcome => (outcome.1, some outcome.2)) equal
  have boxes : first.net.map Outbound.blind = second.net.map Outbound.blind := congrArg RouterState.net same
  cases input with
  | message now msg => exact verdict (routeMessage_alike (Alike.refl ctx first msg) same)
  | raw now msg payload crc32 mac => exact verdict (routeMessage_alike (alike_of_guard permitted agrees) same)
  | prune now => simp only [advance, blinded, pruneTick_blind, same]
  | drain tx =>
    rw [blind_shared same]
    simp only [advance, blinded, RouterState.blind, Mailboxes.map_drain, boxes]
  | close tx =>
    rw [blind_shared same]
    simp only [advance, blinded, RouterState.blind, Mailboxes.map_close, boxes]

/-- The frame between two plugins may have other contents, and the router does not
notice. -/
def indifferent (ctx : Context β) (twins : RouterState β × RouterState β) (input : TwinInput β) : Bool :=
  comparable ctx twins input && decodesAlike ctx twins input

/-- As long as the contents of raw frames agree on what the router decodes, two
runs that differ in these contents alone stay indistinguishable, and every
message meets the same verdict in both. -/
theorem raw_contents_unobserved {start : RouterState β} {twins : RouterState β × RouterState β}
    (run : Run (twinStep ctx) (indifferent ctx) (start, start) twins) :
    Indistinguishable twins.1 twins.2 ∧ ∀ input, indifferent ctx twins input = true →
      (advance ctx false twins.1 input).2 = (advance ctx true twins.2 input).2 := by
  let alike (twins : RouterState β × RouterState β) : Prop := twins.1.blind = twins.2.blind
  have step : ∀ state input next, indifferent ctx state input = true → twinStep ctx state input = some next →
      alike state → alike next := by
    intro state input next allowed stepped same
    obtain ⟨permitted, agrees⟩ := Bool.and_eq_true_iff.mp allowed
    cases stepped
    exact congrArg Prod.fst (advance_alike permitted agrees same)
  have kept : alike twins := run.preserves rfl step
  refine ⟨indistinguishable_of_blind kept, fun input allowed => ?_⟩
  obtain ⟨permitted, agrees⟩ := Bool.and_eq_true_iff.mp allowed
  have outcomes := congrArg Prod.snd (advance_alike permitted agrees kept)
  exact outcomes

end Twins

section Decoded
open Scenario

/-- `notes` streams audio to `tv` and to its capability `screen`. -/
def studio : RouterState Packet :=
  joined (joined {} 1 { pluginId := "notes", manifest := some {
    permissions := ["ipc_send", "audio_stream"], ipcTargets := ["tv"] } }) 2
    { pluginId := "tv", deviceId := "tv", capabilities := ["screen"] }

def audio (target : String) (payload : Payload) : TwinInput Packet :=
  .raw start (incoming 1 target (.message { payload := some payload }) flagRawBinary) (.raw [0, 1, 2, 3]) 6 none

def played : RouterState Packet × RouterState Packet :=
  (exec (twinStep context) (indifferent context) (studio, studio) [audio "tv" (.ping 0)]).get (by decide +kernel)

theorem raw_contents_unobserved_played : (played.1.net { conn := 2 }).queue ≠ (played.2.net { conn := 2 }).queue ∧
    Indistinguishable played.1 played.2 ∧ ∀ input, indifferent context played input = true →
      (advance context false played.1 input).2 = (advance context true played.2 input).2 :=
  ⟨by decide +kernel, raw_contents_unobserved (exec_get_run (by decide +kernel))⟩

def dialled : RouterState Packet × RouterState Packet :=
  (exec (twinStep context) (comparable context) (studio, studio)
    [audio "tv.screen" (.actionRequest { actionId := "x", action := "" })]).get (by decide +kernel)

def strict : Context Packet := { context with maxConnErrors := 1 }

def faulty : RouterState Packet × RouterState Packet :=
  (exec (twinStep strict) (comparable strict) (studio, studio)
    [.message start (incoming 1 "kernel" (.raw [0]))]).get (by decide +kernel)

/-- Raw contents that decode to a direct call leave a pending action behind, and
those that decode to a pong pass a throttled sender; other contents of the same
length do neither. -/
theorem raw_contents_decoded :
    Run (twinStep context) (comparable context) (studio, studio) dialled ∧
    (dialled.1.registry.getPendingAction "x").isSome = true ∧ (dialled.2.registry.getPendingAction "x").isSome = false ∧
    Run (twinStep strict) (comparable strict) (studio, studio) faulty ∧
    comparable strict faulty (audio "tv" (.pong 0 0)) = true ∧
    (advance strict false faulty.1 (audio "tv" (.pong 0 0))).2 = some (.handled false) ∧
    (advance strict true faulty.2 (audio "tv" (.pong 0 0))).2 = some .throttled :=
  ⟨exec_get_run (by decide +kernel), by decide +kernel, by decide +kernel, exec_get_run (by decide +kernel),
    by decide +kernel, by decide +kernel, by decide +kernel⟩

end Decoded
end Vynkor.Proofs
