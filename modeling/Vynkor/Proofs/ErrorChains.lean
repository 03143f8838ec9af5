import Vynkor.LinkedKernels
import Vynkor.Proofs.HostRelay

/-! Replies that neither a client kernel nor its host has a use for. Each answers them
with an error as long as the connection has budget left, and the error is such a reply
to the other one. -/

namespace Vynkor.Proofs
open Execution RouterState

section Router
variable {β : Type} {ctx : Context β} {now : Moment} {msg : IncomingMessage β} {st : RouterState β}
  {tx : Sender} {code : ErrorCode} {message : String}

/-- Replies and notices for which the router has no arm. -/
def isUnhandledReply : Payload → Bool
  | .error _ | .actionStreamAbort _ | .pluginRegisterAck _ | .eventPublishAck _ | .kernelCommandAck _ => true
  | _ => false

def bringsReply (wire : Wire β) (frame : Frame β) : Bool :=
  ((wire.decode frame.payload).bind Envelope.payload).any isUnhandledReply

def EnqueuesError (ctx : Context β) (before after : RouterState β) (tx : Sender) : Prop :=
  ∃ item ∈ Mailboxes.added before.net after.net tx, ∃ error, payloadIn ctx.wire item = some (.error error)

/-- The message is within the rate of its connection, whose error budget is used up. -/
def exhausted (ctx : Context β) (now : Moment) (msg : IncomingMessage β) (st : RouterState β) : Bool :=
  (st.checkIpcRate ctx now msg).2 && decide (ctx.maxConnErrors ≤ st.errorCount msg.connId)

theorem bringsReply_some {frame} (brings : bringsReply ctx.wire frame = true) :
    ∃ envelope payload, ctx.wire.decode frame.payload = some envelope ∧ envelope.payload = some payload ∧
      isUnhandledReply payload = true := by
  cases decoded : ctx.wire.decode frame.payload with
  | none => simp [bringsReply, decoded] at brings
  | some envelope =>
    cases holds : envelope.payload with
    | none => simp [bringsReply, decoded, holds] at brings
    | some payload => exact ⟨envelope, payload, rfl, holds, by simpa [bringsReply, decoded, holds] using brings⟩

section
variable (brings : bringsReply ctx.wire msg.frame = true)
include brings

theorem reply_throttled :
    (st.checkIpcRate ctx now msg).1.isThrottled ctx msg = decide (ctx.maxConnErrors ≤ st.errorCount msg.connId) := by
  obtain ⟨calls, quiet⟩ := checkIpcRate_quiet ctx now msg st
  obtain ⟨envelope, payload, decoded, holds, kind⟩ := bringsReply_some brings
  have counted : isThrottleExempt ctx.wire msg.frame = false := by
    obtain ⟨_, _, _, _, _⟩ := envelope
    cases holds
    cases payload <;> simp_all [isThrottleExempt, isUnhandledReply]
  rw [quiet, isThrottled, counted, Bool.not_false, Bool.and_true]
  rfl

theorem reply_not_register : st.acceptRegister ctx now msg = none := by
  cases accepted : st.acceptRegister ctx now msg with
  | none => rfl
  | some outcome =>
    obtain ⟨registering, router⟩ := outcome
    obtain ⟨register, manifest, checks⟩ := acceptRegister_some accepted
    obtain ⟨envelope, decoded, holds, _⟩ := checks.asked
    simp [bringsReply, decoded, holds, isUnhandledReply] at brings

theorem reply_dropped (spent : exhausted ctx now msg st = true)
    {target} (named : ctx.wire.targetAsStr msg.frame.target = some target) :
    (st.routeMessage ctx now msg).1.net = st.net := by
  simp only [exhausted, Bool.and_eq_true] at spent
  obtain ⟨calls, quiet⟩ := checkIpcRate_quiet ctx now msg st
  simp only [routeMessage, routeTarget, spent.1, named, reply_throttled brings, spent.2, if_true]
  rw [quiet]

theorem reply_answered (aimed : ctx.wire.targetAsStr msg.frame.target = some "kernel")
    (spare : exhausted ctx now msg st = false) :
    ∃ (middle : RouterState β) (code : ErrorCode) (message : String), middle.net = st.net ∧
      (st.routeMessage ctx now msg).1.net = (middle.sendError ctx now msg.writeTx code message).net := by
  obtain ⟨calls, quiet⟩ := checkIpcRate_quiet ctx now msg st
  have same : (st.checkIpcRate ctx now msg).1.net = st.net := by rw [quiet]
  cases within : (st.checkIpcRate ctx now msg).2 with
  | false =>
    refine ⟨_, .rateLimited, "IPC rate limit exceeded", same, ?_⟩
    simp only [routeMessage, within, Bool.false_eq_true, if_false]
  | true =>
    have admitted : admits ctx now msg st = true := by
      simp only [exhausted, within, Bool.true_and] at spare
      rw [admits, within, reply_throttled brings, spare]
      rfl
    obtain ⟨envelope, payload, decoded, holds, kind⟩ := bringsReply_some brings
    have register : isRegister envelope.payload = false := by
      rw [holds]
      cases payload <;> first | rfl | cases kind
    rw [routeMessage_handled admitted aimed, recordOutcome_net]
    simp only [handleTarget, if_true, handleKernelMessage, decoded, register, Bool.not_false, Bool.true_and]
    split
    · exact ⟨_, _, _, same, rfl⟩
    · rw [holds]
      cases payload <;> first | exact ⟨_, _, _, same, rfl⟩ | cases kind

end

theorem sendError_full (full : st.hasRoom tx = false) : (st.sendError ctx now tx code message).net = st.net := by
  simp only [sendError, sendEnvelope, trySendEnvelope, buildOutbound]
  cases ctx.wire.encode _ with
  | none => rfl
  | some bytes => exact congrArg Prod.fst (Mailboxes.trySend_full writeCapacity st.net tx _ full)

theorem sendError_enqueues (encodes : ∀ envelope, ∃ bytes, ctx.wire.encode envelope = some bytes)
    (room : st.hasRoom tx = true) : EnqueuesError ctx st (st.sendError ctx now tx code message) tx := by
  have roomy : st.net.hasRoom writeCapacity tx = true := room
  let error : ErrorMessage := { code, message, details := "" }
  obtain ⟨bytes, encoded⟩ := encodes (st.stampEnvelope now { payload := some (.error error) })
  refine ⟨.frame (buildFrame ctx.wire "client" 0 bytes), ?_, error, ?_⟩
  · simp only [sendError, sendEnvelope, trySendEnvelope, buildOutbound, error, encoded, Option.map_some, trySend,
      Mailboxes.added_trySend, true_and]
    rw [if_pos roomy]
    exact List.mem_singleton_self _
  · simp [payloadIn, buildFrame, ctx.wire.decode_encode _ _ encoded, stampEnvelope]

/-- The reply is answered with an error exactly as long as there is budget left and room
in the channel of the connection. -/
structure AnswersInBudget (ctx : Context β) (now : Moment) (msg : IncomingMessage β)
    (before after : RouterState β) : Prop where
  silent : exhausted ctx now msg before = true ∨ before.hasRoom msg.writeTx = false →
    ¬EnqueuesError ctx before after msg.writeTx
  answers : (∀ envelope, ∃ bytes, ctx.wire.encode envelope = some bytes) → exhausted ctx now msg before = false →
    before.hasRoom msg.writeTx = true → EnqueuesError ctx before after msg.writeTx

theorem not_enqueues {after} (same : after.net = st.net) : ¬EnqueuesError ctx st after tx := by
  rintro ⟨item, member, _⟩
  rw [same, Mailboxes.added_self] at member
  cases member

theorem reply_in_budget (brings : bringsReply ctx.wire msg.frame = true)
    (aimed : ctx.wire.targetAsStr msg.frame.target = some "kernel") :
    AnswersInBudget ctx now msg st (st.routeMessage ctx now msg).1 := by
  cases spent : exhausted ctx now msg st with
  | true =>
    have dropped := reply_dropped brings spent aimed
    exact ⟨fun _ => not_enqueues dropped, fun _ spare => Bool.noConfusion (spent.symm.trans spare)⟩
  | false =>
    obtain ⟨middle, code, message, same, sent⟩ := reply_answered brings aimed spent
    constructor
    · intro condition
      rw [spent] at condition
      have full : middle.hasRoom msg.writeTx = false := by
        rw [hasRoom, same]
        exact condition.resolve_left Bool.false_ne_true
      exact not_enqueues (sent.trans ((sendError_full full).trans same))
    · intro encodes _ room
      have roomy : middle.hasRoom msg.writeTx = true := by
        rw [hasRoom, same]
        exact room
      have enqueues := @sendError_enqueues _ ctx now middle msg.writeTx code message encodes roomy
      rw [EnqueuesError, same, ← sent] at enqueues
      exact enqueues

theorem take_reply {tasks next : Tasks β} {rest : List (IncomingMessage β)}
    (step : tasks.take ctx now = some next) (waiting : tasks.kernel.incoming = msg :: rest)
    (brings : bringsReply ctx.wire msg.frame = true) :
    next.kernel.router = (tasks.kernel.router.routeMessage ctx now msg).1 := by
  cases tasks_take_some step with
  | accepted _ queue accepted =>
    cases waiting.symm.trans queue
    rw [reply_not_register brings] at accepted
    cases accepted
  | routed _ queue =>
    cases waiting.symm.trans queue
    rfl

end Router

section Linked
variable {β : Type} {hostCtx clientCtx : Context β} {framing : Framing β} {limits : ConnectionLimits} {bridge : Bridge}
  {linked next : LinkedKernels β} {action : LinkedAction β}

theorem clientTakes_client {read}
    (taken : linked.clientTakes clientCtx framing limits bridge read = some next) :
    ∃ move, linked.client.step clientCtx framing limits bridge move = some next.client := by
  simp only [LinkedKernels.clientTakes, Option.bind_eq_bind, Option.bind_eq_some_iff] at taken
  obtain ⟨frame, _, client, moved, done⟩ := taken
  cases done
  exact ⟨read frame, moved⟩

theorem linked_client_run {guard start}
    (run : Run (LinkedKernels.step hostCtx clientCtx framing limits bridge) guard start linked) :
    Run (BridgedTasks.step clientCtx framing limits bridge) unguarded start.client linked.client := by
  apply run.project LinkedKernels.client
  intro before action after step
  cases action with
  | connect conn =>
    simp only [LinkedKernels.step, LinkedKernels.connect, Option.bind_eq_bind, Option.bind_eq_some_iff] at step
    obtain ⟨host, _, client, moved, done⟩ := step
    split at done
    · cases done
      exact .inr ⟨_, moved⟩
    · cases done
  | hostReads =>
    simp only [LinkedKernels.step, LinkedKernels.hostReads, Option.bind_eq_bind, Option.bind_eq_some_iff] at step
    obtain ⟨conn, _, frame, _, host, _, done⟩ := step
    cases done
    exact .inl rfl
  | clientRegisters | clientReads => exact .inr (clientTakes_client step)
  | host action =>
    simp only [LinkedKernels.step, Option.ite_none_left_eq_some] at step
    obtain ⟨host, _, rfl⟩ := Option.map_eq_some_iff.mp step.2
    exact .inl rfl
  | client action =>
    simp only [LinkedKernels.step, Option.ite_none_left_eq_some] at step
    obtain ⟨client, moved, rfl⟩ := Option.map_eq_some_iff.mp step.2
    exact .inr ⟨_, moved⟩

theorem host_reply_to_kernel {state msg}
    (reads : ReadsTargets clientCtx.wire) (origins : Origins clientCtx.wire bridge state)
    (queued : msg ∈ state.tasks.kernel.incoming) (own : msg.connId = bridgeConnId)
    (brings : bringsReply clientCtx.wire msg.frame = true) :
    clientCtx.wire.targetAsStr msg.frame.target = some "kernel" := by
  obtain ⟨serial, original, rfl⟩ := origins.from_host queued own
  obtain ⟨envelope, payload, decoded, holds, kind⟩ := bringsReply_some brings
  have routed : Bridge.isKernelRouted clientCtx.wire original = true := by
    have same : clientCtx.wire.decode original.payload = some envelope := decoded
    simp only [Bridge.isKernelRouted, same, Option.bind_some, holds, Option.any_some]
    cases payload <;> first | rfl | cases kind
  have fits : TextField.Fits 32 "kernel" := by decide +kernel
  simp only [BridgedTasks.received, Bridge.localFrame, routed, if_true]
  exact reads _ _ (TextField.read_pack_iff.mpr fits)

/-- In every run of two kernels joined by a bridge, neither answers a reply of the other
with an error once the budget of the connection is used up, or if its channel is full.
Until then the client kernel answers each one, and so does the host each one that is
addressed to it. -/
theorem replies_answered_in_budget (hostCtx clientCtx : Context β) (reads : ReadsTargets clientCtx.wire)
    (framing : Framing β) (limits : ConnectionLimits) (bridge : Bridge) (hostRouter clientRouter : RouterState β)
    (linked : LinkedKernels β)
    (run : Run (LinkedKernels.step hostCtx clientCtx framing limits bridge) unguarded
      { host := { kernel := { router := hostRouter } }, client := { tasks := { kernel := { router := clientRouter } } } }
      linked)
    (now : Moment) (msg : IncomingMessage β) (rest : List (IncomingMessage β)) (next : LinkedKernels β) :
    (linked.conn = some msg.connId → linked.host.kernel.incoming = msg :: rest →
      bringsReply hostCtx.wire msg.frame = true →
      linked.step hostCtx clientCtx framing limits bridge (.host (.take now)) = some next →
      (∀ target, hostCtx.wire.targetAsStr msg.frame.target = some target →
        exhausted hostCtx now msg linked.host.kernel.router = true →
        ¬EnqueuesError hostCtx linked.host.kernel.router next.host.kernel.router msg.writeTx) ∧
      (hostCtx.wire.targetAsStr msg.frame.target = some "kernel" →
        AnswersInBudget hostCtx now msg linked.host.kernel.router next.host.kernel.router)) ∧
    (msg.connId = bridgeConnId → linked.client.tasks.kernel.incoming = msg :: rest →
      bringsReply clientCtx.wire msg.frame = true →
      linked.step hostCtx clientCtx framing limits bridge (.client (.task (.take now))) = some next →
      AnswersInBudget clientCtx now msg linked.client.tasks.kernel.router next.client.tasks.kernel.router) := by
  constructor
  · intro _ waiting brings step
    obtain ⟨host, taken, rfl⟩ := Option.map_eq_some_iff.mp step
    have routed : host.kernel.router = _ := take_reply taken waiting brings
    simp only [LinkedKernels.emits, routed]
    constructor
    · intro target named spent
      exact not_enqueues (reply_dropped brings spent named)
    · intro aimed
      exact reply_in_budget brings aimed
  · intro own waiting brings step
    obtain ⟨client, moved, rfl⟩ := Option.map_eq_some_iff.mp step
    obtain ⟨tasks, taken, rfl⟩ := Option.map_eq_some_iff.mp moved
    have routed : tasks.kernel.router = _ := take_reply taken waiting brings
    have origins : Origins clientCtx.wire bridge linked.client := .run (linked_client_run run)
    simp only [LinkedKernels.emits, routed]
    exact reply_in_budget brings (host_reply_to_kernel reads origins (by simp [waiting]) own brings)

end Linked

section Den
open Scenario

abbrev denLinked (ctx : Context Packet) : LinkedKernels Packet → LinkedAction Packet → Option (LinkedKernels Packet) :=
  LinkedKernels.step ctx ctx Packet.framing {} den

/-- The device connects, and its plugin calls one of the host that the device may not
call. -/
def dialsCinema : List (LinkedAction Packet) :=
  [.connect 7, .hostReads 0, .host (.enqueue 7), .host (.take start), .host .acknowledge, .host .arm, .host .join,
    .host (.write 7 true), .clientRegisters start, .client (.task (.accept 1 .ws))] ++
    (joinsDen "speaker" "cinema" ++ handsIn (incoming 1 "cinema" (.raw [1])) ++ [BridgedAction.write true]).map
      LinkedAction.client

def reachesRouter : List (LinkedAction Packet) := [.hostReads 0, .host (.enqueue 7)]

def roundTrip : List (LinkedAction Packet) :=
  reachesRouter ++ [.host (.take start), .host (.write 7 true), .clientReads, .client .enqueue,
    .client (.task (.take start)), .client (.write true)]

def replyWaits (ctx : Context Packet) : Option (LinkedKernels Packet) :=
  exec (denLinked ctx) unguarded { client := asleep.state } (dialsCinema ++ roundTrip ++ reachesRouter)

def curt : Context Packet := { fieldContext with maxConnErrors := 1 }

theorem curt_waits : (replyWaits curt).isSome = true := by decide +kernel

def curtEnd : LinkedKernels Packet := (replyWaits curt).get curt_waits

theorem curt_takes : (denLinked curt curtEnd (.host (.take start))).isSome = true := by decide +kernel

def curtNext : LinkedKernels Packet := (denLinked curt curtEnd (.host (.take start))).get curt_takes

def curtReply : IncomingMessage Packet := curtEnd.host.kernel.incoming.head (by decide +kernel)

theorem replies_answered_in_budget_curt : bringsReply curt.wire curtReply.frame = true ∧
    ¬EnqueuesError curt curtEnd.host.kernel.router curtNext.host.kernel.router curtReply.writeTx := by
  have answered := replies_answered_in_budget curt curt fieldContext_reads Packet.framing {} den {}
    { bridge := some [] } curtEnd (exec_get_run curt_waits) start curtReply curtEnd.host.kernel.incoming.tail curtNext
  obtain ⟨brings, own, target, spent⟩ : bringsReply curt.wire curtReply.frame = true ∧
      curtEnd.conn = some curtReply.connId ∧ curt.wire.targetAsStr curtReply.frame.target = some "kernel" ∧
      exhausted curt start curtReply curtEnd.host.kernel.router = true := by
    decide +kernel
  obtain ⟨silent, _⟩ := answered.1 own (List.cons_head_tail _).symm brings (Option.some_get curt_takes).symm
  exact ⟨brings, silent "kernel" target spent⟩

def payloads (frames : List (Frame Packet)) : List (Option Payload) :=
  frames.map fun frame => payloadIn fieldContext.wire (.frame frame)

def unhandled : Payload := .error { code := .unknown, message := "unhandled message", details := "" }

theorem lax_waits : (replyWaits fieldContext).isSome = true := by decide +kernel

def laxEnd : LinkedKernels Packet := (replyWaits fieldContext).get lax_waits

theorem lax_takes : (denLinked fieldContext laxEnd (.host (.take start))).isSome = true := by decide +kernel

def laxNext : LinkedKernels Packet := (denLinked fieldContext laxEnd (.host (.take start))).get lax_takes

def chainEnd : LinkedKernels Packet :=
  (exec (denLinked fieldContext) unguarded { client := asleep.state }
    (dialsCinema ++ roundTrip ++ roundTrip ++ roundTrip)).get (by decide +kernel)

/-- The host refuses the call, the client kernel answers the error with one, and the host
answers that. So it goes on, to and fro. -/
theorem errors_answered_with_errors : Run (denLinked fieldContext) unguarded { client := asleep.state } laxEnd ∧
    denLinked fieldContext laxEnd (.host (.take start)) = some laxNext ∧
    laxEnd.host.kernel.incoming.map (fun msg => (msg.connId, bringsReply fieldContext.wire msg.frame)) = [(7, true)] ∧
    EnqueuesError fieldContext laxEnd.host.kernel.router laxNext.host.kernel.router { conn := 7 } ∧
    (payloads (chainEnd.host.links 7).socket).drop 2 = [some unhandled, some unhandled] ∧
    (payloads chainEnd.client.host.socket).drop 2 = [some unhandled, some unhandled, some unhandled] := by
  let added := Mailboxes.added laxEnd.host.kernel.router.net laxNext.host.kernel.router.net { conn := 7 }
  have answered : added.head?.bind (payloadIn fieldContext.wire) = some unhandled := by decide +kernel
  obtain ⟨item, first, carried⟩ := Option.bind_eq_some_iff.mp answered
  exact ⟨exec_get_run lax_waits, (Option.some_get lax_takes).symm, by decide +kernel,
    ⟨item, List.mem_of_mem_head? first, _, carried⟩, by decide +kernel⟩

end Den
end Vynkor.Proofs
