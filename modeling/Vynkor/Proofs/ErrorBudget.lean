import Vynkor.Proofs.Unregistered

/-! The error budget of a connection. An error reply costs one unit, a message
that is handled restores the budget, and once it is used up the messages of the
connection are dropped without an answer. A watch beside the run counts the error
replies since the budget was last restored. -/

namespace Vynkor.Proofs
open DashMap Execution RouterState

section Watch
variable {β : Type} (ctx : Context β) (tx : Sender) (now : Moment) (msg : IncomingMessage β) (st : RouterState β)
  {target : String}

def isErrorReply : Payload → Bool
  | .error _ => true
  | .pluginRegisterAck ack => !ack.accepted
  | _ => false

/-- The rate limit is a quota: a sender over it is told so at no charge. -/
def isRefusal : Payload → Bool
  | .error error => error.code ≠ .rateLimited
  | payload => isErrorReply payload

def refusals (before after : RouterState β) : Nat :=
  (Mailboxes.added before.net after.net tx).countP fun item => (payloadIn ctx.wire item).any isRefusal

/-- Chargeable replies on the channel when the router takes the message. A frame
that is passed on to a peer is no reply, whatever it contains. -/
def replies : Nat :=
  let routed := st.routeMessage ctx now msg
  if routed.2 = .handled false ∧ ctx.wire.targetAsStr msg.frame.target ≠ some "kernel" then 0
  else refusals ctx tx st routed.1

def rejectsRegister : Bool :=
  ctx.wire.targetAsStr msg.frame.target == some "kernel" && (registerIn ctx.wire msg.frame).isSome &&
    (registers ctx now msg st).isNone

/-- The message is answered with an error past the budget: before the budget is
looked at, as a success, or although the budget is used up. -/
def uncharged : Bool :=
  match (st.routeMessage ctx now msg).2 with
  | .badTarget => true
  | .handled false => rejectsRegister ctx now msg st
  | .handled true => isThrottleExempt ctx.wire msg.frame && decide (ctx.maxConnErrors ≤ st.errorCount msg.connId)
  | .rateLimited | .throttled => false

/-- The table of counts is full, and the last error of the connection is so old
that its count is dropped with the next error of any connection. -/
def evicts (conn : Nat) : Bool :=
  decide (ctx.maxTrackedErrorConns ≤ st.errorCounts.entries.length) &&
    (st.errorCounts.get conn).any fun (_, last) => decide (errorBudgetIdleTtl ≤ now.instant - last)

/-- The count after the router has taken the message; none from an answer past
the budget until the budget is restored. -/
def watched (count : Option Nat) : Option Nat :=
  if msg.connId = tx.conn ∧ uncharged ctx now msg st then none
  else if msg.connId = tx.conn ∧ (st.routeMessage ctx now msg).2 = .handled false then some 0
  else if (st.routeMessage ctx now msg).2 = .handled true ∧ evicts ctx now st tx.conn then
    some (replies ctx tx now msg st)
  else count.map (· + replies ctx tx now msg st)

def budgetStep (state : Kernel β × Option Nat) (action : Action β) : Option (Kernel β × Option Nat) :=
  (state.1.step ctx action).map fun next =>
    (next, match action, state.1.incoming with
      | .route now, msg :: _ => watched ctx tx now msg state.1.router state.2
      | _, _ => state.2.map (· + refusals ctx tx state.1.router next.router))

end Watch

variable {β : Type} {ctx : Context β} {tx : Sender} {now : Moment} {msg : IncomingMessage β} {messageId : String}
  {st middle after : RouterState β} {payload : Payload}

theorem errorCount_cleared (conn : Nat) : (st.recordOutcome ctx now msg false).errorCount conn =
    if conn = msg.connId then 0 else st.errorCount conn := by
  by_cases own : conn = msg.connId
  · simp [recordOutcome, errorCount, own]
  · simp [recordOutcome, errorCount, get_erase, own]

/-- What the next error, of whatever connection, leaves of a count before it adds
to its own. -/
def retained (ctx : Context β) (now : Moment) (st : RouterState β) (conn : Nat) : Nat :=
  if evicts ctx now st conn then 0 else st.errorCount conn

theorem count_retained (conn : Nat) :
    (((if ctx.maxTrackedErrorConns ≤ st.errorCounts.entries.length then
        st.errorCounts.retain fun _ (_, last) => decide (now.instant - last < errorBudgetIdleTtl)
      else st.errorCounts).get conn).map Prod.fst).getD 0 = retained ctx now st conn := by
  by_cases full : ctx.maxTrackedErrorConns ≤ st.errorCounts.entries.length
  · rw [if_pos full, get_retain]
    cases found : st.errorCounts.get conn with
    | none => simp [retained, errorCount, found]
    | some entry =>
      by_cases old : errorBudgetIdleTtl ≤ now.instant - entry.2
      · simp [retained, evicts, found, full, old, Option.filter, not_lt.mpr old]
      · simp [retained, evicts, errorCount, found, old, Option.filter, not_le.mp old]
  · simp [retained, evicts, errorCount, full]

theorem errorCount_charged (conn : Nat) : (st.recordOutcome ctx now msg true).errorCount conn =
    if conn = msg.connId then (retained ctx now st conn + 1) % UInt32.size else retained ctx now st conn := by
  by_cases own : conn = msg.connId
  · subst own
    simp only [recordOutcome, if_true, errorCount, get_insert_self, Option.map_some, Option.getD_some,
      count_retained]
  · simp only [recordOutcome, if_true, errorCount, get_insert, own, if_false, count_retained]

/-- What a message that is answered with an error did before its outcome is
recorded: the state is as before but for one reply. -/
def Answered (ctx : Context β) (now : Moment) (msg : IncomingMessage β) (st after : RouterState β) : Prop :=
  ∃ (middle : RouterState β) (envelope : Envelope), middle.net = st.net ∧ middle.errorCounts = st.errorCounts ∧
    after = middle.sendEnvelope ctx now msg.writeTx envelope

theorem sendEnvelope_budgets (envelope : Envelope) :
    (st.sendEnvelope ctx now tx envelope).errorCounts = st.errorCounts := by
  simp only [sendEnvelope, trySendEnvelope, buildOutbound]
  cases ctx.wire.encode (st.stampEnvelope now envelope) with
  | none => rfl
  | some bytes => rfl

theorem Answered.budgets (answered : Answered ctx now msg st after) : after.errorCounts = st.errorCounts := by
  obtain ⟨middle, envelope, _, same, rfl⟩ := answered
  exact (sendEnvelope_budgets envelope).trans same

theorem sendError_answered (code : ErrorCode) (message : String) :
    Answered ctx now msg st (st.sendError ctx now msg.writeTx code message) :=
  ⟨st, _, rfl, rfl, rfl⟩

theorem Answered.charged (answered : Answered ctx now msg st after) (conn : Nat) :
    (after.recordOutcome ctx now msg true).errorCount conn =
      if conn = msg.connId then (retained ctx now st conn + 1) % UInt32.size else retained ctx now st conn := by
  have stale : evicts ctx now after conn = evicts ctx now st conn := by simp only [evicts, answered.budgets]
  have count : after.errorCount conn = st.errorCount conn := by simp only [errorCount, answered.budgets]
  rw [errorCount_charged]
  simp only [retained, stale, count]

theorem handleRegister_answered {register}
    (errored : (st.handleRegister ctx now msg messageId register).2 = true) :
    Answered ctx now msg st (st.handleRegister ctx now msg messageId register).1 := by
  simp only [handleRegister] at errored ⊢
  split at errored
  next refusal refused =>
    cases refusal with
    | protocolMismatch text => exact sendError_answered _ _
    | rejected reason => exact ⟨st, _, rfl, rfl, rfl⟩
  · split at errored
    · cases errored
    · cases errored

theorem handleSessionClose_answered {close}
    (errored : (st.handleSessionClose ctx now msg messageId close).2 = true) :
    Answered ctx now msg st (st.handleSessionClose ctx now msg messageId close).1 := by
  simp only [handleSessionClose] at errored ⊢
  split at errored
  · exact sendError_answered _ _
  · split at errored
    · exact sendError_answered _ _
    · split at errored
      · cases errored
      next refused =>
        rw [if_neg refused]
        exact sendError_answered _ _

theorem handlePayload_answered (errored : (st.handlePayload ctx now msg messageId payload).2 = true) :
    Answered ctx now msg st (st.handlePayload ctx now msg messageId payload).1 := by
  cases payload with
  | pluginRegister register => exact handleRegister_answered errored
  | sessionClose close => exact handleSessionClose_answered errored
  | ping | kernelCommand | eventAck => cases errored
  | pong | subscribe | unsubscribe | eventPublish | actionRequest | actionResponse | actionRequestChunk
  | actionResponseChunk =>
    -- every path of these handlers ends without an error
    simp only [handlePayload, handlePong, handleSubscribe, handleUnsubscribe, handleEventPublish, handleActionRequest,
      handleActionResponse, handleActionRequestChunk, handleActionResponseChunk] at errored
    repeat' split at errored
    all_goals cases errored
  | pluginRegisterAck | event | eventPublishAck | actionStreamAbort | kernelCommandAck | pluginShutdown | error | other =>
    exact sendError_answered _ _

theorem handleKernelMessage_answered (errored : (st.handleKernelMessage ctx now msg).2 = true) :
    Answered ctx now msg st (st.handleKernelMessage ctx now msg).1 := by
  simp only [handleKernelMessage] at errored ⊢
  split at errored
  · exact sendError_answered _ _
  · split at errored
    next unknown =>
      rw [if_pos unknown]
      exact sendError_answered _ _
    next known =>
      rw [if_neg known]
      split at errored
      · exact sendError_answered _ _
      · exact handlePayload_answered errored

theorem relayToHost_failed (failed : (st.relayToHost msg).2 = false) : (st.relayToHost msg).1 = st := by
  simp only [relayToHost] at failed ⊢
  split at failed
  next host _ _ =>
    rw [trySend, Mailboxes.trySend_sent] at failed
    simp only [trySend, Mailboxes.trySend_full writeCapacity st.net host _ failed]
  · rfl

theorem forward_answered {target} (errored : (st.forward ctx now msg target).2 = true) :
    Answered ctx now msg st (st.forward ctx now msg target).1 := by
  simp only [forward] at errored ⊢
  split at errored
  · exact sendError_answered _ _
  · split at errored
    · cases errored
    · split at errored
      · cases errored
      next refused =>
        rw [if_neg refused]
        rw [relayToHost_failed (by simpa using refused)]
        exact sendError_answered _ _

theorem broadcast_answered (errored : (st.broadcast ctx now msg).2 = true) :
    Answered ctx now msg st (st.broadcast ctx now msg).1 := by
  simp only [broadcast] at errored ⊢
  split at errored
  · exact sendError_answered _ _
  · cases errored

theorem handleTarget_answered {target} (errored : (st.handleTarget ctx now msg target).2 = true) :
    Answered ctx now msg st (st.handleTarget ctx now msg target).1 := by
  simp only [handleTarget] at errored ⊢
  split at errored
  next kernel =>
    rw [if_pos kernel]
    exact handleKernelMessage_answered errored
  next peers =>
    rw [if_neg peers]
    split at errored
    next all =>
      rw [if_pos all]
      exact broadcast_answered errored
    next one =>
      rw [if_neg one]
      exact forward_answered errored

/-- What routing a message does to the write channels and the error budgets, by
its verdict. -/
inductive Outcome (ctx : Context β) (now : Moment) (msg : IncomingMessage β) (st : RouterState β) :
    RouterState β → Verdict → Prop where
  | limited {middle : RouterState β} (net : middle.net = st.net) (budgets : middle.errorCounts = st.errorCounts) :
      Outcome ctx now msg st (middle.sendError ctx now msg.writeTx .rateLimited "IPC rate limit exceeded")
        .rateLimited
  | misaddressed {after : RouterState β} (answered : Answered ctx now msg st after) :
      Outcome ctx now msg st after .badTarget
  | throttled {after : RouterState β} (net : after.net = st.net) (budgets : after.errorCounts = st.errorCounts) :
      Outcome ctx now msg st after .throttled
  | refused {handled} (answered : Answered ctx now msg st handled)
      (passed : isThrottleExempt ctx.wire msg.frame = true ∨ st.errorCount msg.connId < ctx.maxConnErrors) :
      Outcome ctx now msg st (handled.recordOutcome ctx now msg true) (.handled true)
  | done {handled : RouterState β} (budgets : handled.errorCounts = st.errorCounts) :
      Outcome ctx now msg st (handled.recordOutcome ctx now msg false) (.handled false)

theorem routeTarget_outcome : Outcome ctx now msg st (st.routeTarget ctx now msg).1
    (st.routeTarget ctx now msg).2 := by
  simp only [routeTarget]
  split
  · exact .misaddressed (sendError_answered _ _)
  next target aimed =>
    split
    · exact .throttled rfl rfl
    next passes =>
      cases errored : (st.handleTarget ctx now msg target).2 with
      | false => exact .done (handleTarget_effect aimed).budgets
      | true =>
        refine .refused (handleTarget_answered errored) ?_
        simpa [isThrottled, or_comm, imp_iff_not_or] using passes

theorem Outcome.unrated {calls verdict}
    (outcome : Outcome ctx now msg { st with ipcCalls := calls } after verdict) :
    Outcome ctx now msg st after verdict := by
  cases outcome with
  | limited net budgets => exact .limited net budgets
  | misaddressed answered => exact .misaddressed answered
  | throttled net budgets => exact .throttled net budgets
  | refused answered passed => exact .refused answered passed
  | done budgets => exact .done budgets

theorem routeMessage_outcome (ctx : Context β) (now : Moment) (msg : IncomingMessage β) (st : RouterState β) :
    Outcome ctx now msg st (st.routeMessage ctx now msg).1 (st.routeMessage ctx now msg).2 := by
  obtain ⟨calls, same⟩ := checkIpcRate_quiet ctx now msg st
  simp only [routeMessage]
  rw [same]
  split
  · exact routeTarget_outcome.unrated
  · exact .limited rfl rfl

section Replies
variable {allowed : Sender → Outbound β → Prop}

theorem refusals_none (adds : Mailboxes.Adds allowed st.net after.net)
    (fine : ∀ item, allowed tx item → (payloadIn ctx.wire item).any isRefusal = false) :
    refusals ctx tx st after = 0 := by
  apply List.countP_eq_zero.mpr
  intro item member
  rw [fine item (adds.mem_added member)]
  exact Bool.false_ne_true

theorem isNotice_free (notice : isNotice payload = true) : isRefusal payload = false := by
  cases payload with
  | error => cases notice
  | pluginRegisterAck => cases notice
  | _ => rfl

theorem refusals_unsent (unsent : Mailboxes.added st.net after.net tx = []) : refusals ctx tx st after = 0 := by
  simp [refusals, unsent]

theorem refusals_same (same : after.net tx = st.net tx) : refusals ctx tx st after = 0 :=
  refusals_unsent (by simp [Mailboxes.added, same])

theorem Answered.refusals_le (answered : Answered ctx now msg st after) : refusals ctx tx st after ≤ 1 := by
  obtain ⟨middle, envelope, same, _, rfl⟩ := answered
  apply Nat.le_trans List.countP_le_length
  rw [← same]
  simp only [sendEnvelope, trySendEnvelope, buildOutbound]
  cases ctx.wire.encode (middle.stampEnvelope now envelope) with
  | none => simp
  | some bytes =>
    simp only [Option.map_some, trySend, Mailboxes.added_trySend]
    split <;> simp

theorem Answered.refusals_other (answered : Answered ctx now msg st after) (other : tx ≠ msg.writeTx) :
    refusals ctx tx st after = 0 := by
  obtain ⟨middle, envelope, same, _, rfl⟩ := answered
  apply refusals_same
  rw [(sendEnvelope_aside envelope).net tx other, same]

theorem Outcome.limited_free (outcome : Outcome ctx now msg st after .rateLimited) :
    refusals ctx tx st after = 0 := by
  cases outcome with
  | @limited middle net _ =>
    have told : Talk (fun _ item => ∃ error, error.code = .rateLimited ∧ Carries ctx (.error error) item) middle
        (middle.sendError ctx now msg.writeTx .rateLimited "IPC rate limit exceeded") :=
      sendEnvelope_talk rfl fun _ carries => ⟨_, rfl, carries⟩
    have adds := told.sends
    rw [net] at adds
    apply refusals_none adds
    intro item free
    obtain ⟨error, code, carries⟩ := free
    simp [carries.payloadIn, isRefusal, code]

theorem Sent.chargeable {item} (sent : Sent ctx now msg st tx item)
    (aimed : ctx.wire.targetAsStr msg.frame.target = some "kernel") (other : tx ≠ msg.writeTx) :
    (payloadIn ctx.wire item).any isRefusal = false := by
  cases sent with
  | reply => exact absurd rfl other
  | mac => exact absurd rfl other
  | event carries => simp [carries.payloadIn, isRefusal, isErrorReply]
  | request _ _ _ carries => simp [carries.payloadIn, isRefusal, isErrorReply]
  | toRequester _ _ notice carries | toProvider _ _ _ notice carries =>
    rw [carries.payloadIn, Option.any_some, isNotice_free notice]
  | forwarded peer | bridged peer => exact absurd (Option.some.inj (peer.1.symm.trans aimed)) peer.2.1
  | broadcast all =>
    rw [aimed] at all
    exact absurd all (by decide)

theorem replies_le (ctx : Context β) (tx : Sender) (now : Moment) (msg : IncomingMessage β) (st : RouterState β) :
    replies ctx tx now msg st ≤ refusals ctx tx st (st.routeMessage ctx now msg).1 := by
  simp only [replies]
  split
  · exact Nat.zero_le _
  · exact Nat.le_refl _

theorem replies_elsewhere (other : msg.connId ≠ tx.conn) : replies ctx tx now msg st = 0 := by
  have away : tx ≠ msg.writeTx := by
    intro same
    rw [same, msg.owned] at other
    exact other rfl
  simp only [replies]
  split
  · rfl
  next answered =>
    by_cases kernel : ctx.wire.targetAsStr msg.frame.target = some "kernel"
    · apply List.countP_eq_zero.mpr
      intro item member
      rw [(routeMessage_sent member).chargeable kernel away]
      exact Bool.false_ne_true
    · have outcome := routeMessage_outcome ctx now msg st
      generalize (st.routeMessage ctx now msg).1 = after at outcome ⊢
      generalize (st.routeMessage ctx now msg).2 = verdict at outcome answered
      cases outcome with
      | limited net budgets => exact (Outcome.limited net budgets).limited_free
      | misaddressed reply => exact reply.refusals_other away
      | throttled net => exact refusals_same (congrFun net tx)
      | refused reply =>
        simp only [refusals, recordOutcome_net]
        exact reply.refusals_other away
      | done => exact absurd ⟨rfl, kernel⟩ answered

end Replies

section Invariant
variable {count : Option Nat} {more : Nat}

/-- The watched replies are covered by the count of their connection, which has
not passed the limit. -/
def Within (ctx : Context β) (tx : Sender) (st : RouterState β) (count : Option Nat) : Prop :=
  ∀ replies, count = some replies → replies ≤ st.errorCount tx.conn ∧ st.errorCount tx.conn ≤ ctx.maxConnErrors

theorem Within.kept (within : Within ctx tx st count) (budgets : after.errorCounts = st.errorCounts)
    (none : more = 0) : Within ctx tx after (count.map (· + more)) := by
  intro replies counted
  subst none
  have same : after.errorCount tx.conn = st.errorCount tx.conn := by simp only [errorCount, budgets]
  rw [same]
  exact within replies (by simpa using counted)

theorem Within.elsewhere (within : Within ctx tx st count) (other : msg.connId ≠ tx.conn) :
    Within ctx tx (st.routeMessage ctx now msg).1 (watched ctx tx now msg st count) := by
  have outcome := routeMessage_outcome ctx now msg st
  simp only [watched, other, false_and, if_false, replies_elsewhere other]
  generalize (st.routeMessage ctx now msg).1 = after at outcome ⊢
  generalize (st.routeMessage ctx now msg).2 = verdict at outcome ⊢
  cases outcome with
  | limited _ budgets => exact within.kept ((sendEnvelope_budgets _).trans budgets) rfl
  | misaddressed answered => exact within.kept answered.budgets rfl
  | throttled _ budgets => exact within.kept budgets rfl
  | @done handled budgets =>
    intro replies counted
    rw [errorCount_cleared, if_neg (Ne.symm other)]
    exact within.kept budgets rfl replies counted
  | @refused handled answered =>
    intro replies counted
    rw [answered.charged, if_neg (Ne.symm other), retained]
    cases old : evicts ctx now st tx.conn with
    | true =>
      have none : replies = 0 := by simpa [old] using counted.symm
      simp [none]
    | false => exact within replies (by simpa [old] using counted)

section
variable (fits : ctx.maxConnErrors < UInt32.size) (within : Within ctx tx st count)
include fits within

theorem Within.charge (own : msg.connId = tx.conn) (answered : Answered ctx now msg st after)
    (room : st.errorCount tx.conn < ctx.maxConnErrors) (once : more ≤ 1) :
    Within ctx tx (after.recordOutcome ctx now msg true)
      (if evicts ctx now st tx.conn then some more else count.map (· + more)) := by
  intro total counted
  rw [answered.charged, if_pos own.symm, retained]
  cases old : evicts ctx now st tx.conn with
  | true =>
    have fresh : more = total := by simpa [old] using counted
    have unit : (0 + 1) % UInt32.size = 1 := by decide
    rw [if_pos rfl, unit]
    omega
  | false =>
    obtain ⟨before, earlier, sum⟩ := Option.map_eq_some_iff.mp (by simpa [old] using counted)
    have covered := within before earlier
    rw [if_neg Bool.false_ne_true, Nat.mod_eq_of_lt (by omega)]
    omega

theorem Within.own (own : msg.connId = tx.conn) :
    Within ctx tx (st.routeMessage ctx now msg).1 (watched ctx tx now msg st count) := by
  intro total counted
  have outcome := routeMessage_outcome ctx now msg st
  have asked := replies_le ctx tx now msg st
  simp only [watched, own, true_and] at counted
  split at counted
  · cases counted
  next charged =>
    simp only [uncharged] at charged
    generalize (st.routeMessage ctx now msg).1 = after at outcome asked ⊢
    generalize (st.routeMessage ctx now msg).2 = verdict at outcome charged counted
    cases outcome with
    | limited net budgets =>
      rw [(Outcome.limited net budgets).limited_free] at asked
      exact within.kept ((sendEnvelope_budgets _).trans budgets) (Nat.le_zero.mp asked) total (by simpa using counted)
    | misaddressed => exact absurd rfl charged
    | throttled net budgets =>
      rw [refusals_same (congrFun net tx)] at asked
      exact within.kept budgets (Nat.le_zero.mp asked) total (by simpa using counted)
    | done budgets =>
      have none : total = 0 := by simpa using counted.symm
      rw [errorCount_cleared, if_pos own.symm, none]
      exact ⟨Nat.le_refl 0, Nat.zero_le _⟩
    | refused answered passed =>
      have room : st.errorCount tx.conn < ctx.maxConnErrors := by
        rw [← own]
        rcases passed with exempt | room
        · simpa [exempt] using charged
        · exact room
      have once : replies ctx tx now msg st ≤ 1 := by
        apply Nat.le_trans asked
        simp only [refusals, recordOutcome_net]
        exact answered.refusals_le
      exact within.charge fits own answered room once total (by simpa using counted)

theorem Within.routed : Within ctx tx (st.routeMessage ctx now msg).1 (watched ctx tx now msg st count) := by
  by_cases own : msg.connId = tx.conn
  · exact within.own fits own
  · exact within.elsewhere own

end

end Invariant

section Steps
variable {kernel next : Kernel β} {action : Action β}

theorem Conveys.uncharged {allowed : Sender → Outbound β → Prop} (talk : Conveys allowed st after)
    (fine : ∀ item, allowed tx item → (payloadIn ctx.wire item).any isRefusal = false) :
    after.errorCounts = st.errorCounts ∧ refusals ctx tx st after = 0 :=
  ⟨talk.budgets, refusals_none talk.sends fine⟩

theorem publish_uncharged (event : Event) : (st.publish ctx now event).errorCounts = st.errorCounts ∧
    refusals ctx tx st (st.publish ctx now event) = 0 := by
  have talk : Conveys (fun _ => Carries ctx (.event event)) st (st.publish ctx now event) :=
    publish_conveys fun _ _ carries => carries
  apply talk.uncharged
  intro item carries
  simp [carries.payloadIn, isRefusal, isErrorReply]

/-- No task but the router charges a connection or answers it with an error. -/
theorem step_uncharged (step : kernel.step ctx action = some next) (elsewhere : ∀ now, action ≠ .route now) :
    next.router.errorCounts = kernel.router.errorCounts ∧ refusals ctx tx kernel.router next.router = 0 := by
  cases kernel_step step with
  | @route now => exact absurd rfl (elsewhere now)
  | @prune now =>
    obtain ⟨notices, budgets⟩ := pruneTick_notices ctx now kernel.router
    refine ⟨budgets, refusals_none notices ?_⟩
    intro item told
    obtain ⟨payload, notice, carries⟩ := told
    rw [carries.payloadIn, Option.any_some, isNotice_free notice]
  | publishLeft | publishDied => exact publish_uncharged _
  | @ping _ now _ told =>
    have talk : Talk (fun _ => Carries ctx (.ping now.unixMillis)) kernel.router _ := told fun _ _ carries => carries
    apply talk.uncharged
    intro item carries
    simp [carries.payloadIn, isRefusal, isErrorReply]
  | drain => exact ⟨rfl, refusals_unsent (Mailboxes.added_drain _ _ _)⟩
  | close | bridgeDown => exact ⟨rfl, refusals_unsent (Mailboxes.added_close _ _ _)⟩
  | _ => exact ⟨rfl, refusals_same rfl⟩

def Covered (ctx : Context β) (tx : Sender) (state : Kernel β × Option Nat) : Prop :=
  Within ctx tx state.1.router state.2

theorem budgetStep_covered {state after} (fits : ctx.maxConnErrors < UInt32.size)
    (step : budgetStep ctx tx state action = some after) (covered : Covered ctx tx state) :
    Covered ctx tx after := by
  obtain ⟨next, moved, rfl⟩ := Option.map_eq_some_iff.mp step
  cases action with
  | route now =>
    obtain ⟨msg, rest, head, rfl⟩ := route_some moved
    simp only [Covered, head]
    exact covered.routed fits
  | _ =>
    obtain ⟨budgets, none⟩ := step_uncharged moved (by simp)
    exact covered.kept budgets none

/-- A limit that a 32-bit count can hold is never passed: whatever the connections
send and however long the run, the router has put at most that many chargeable
error replies on a channel since the budget of its connection was last restored,
which is when the router last handled a message of the connection or dropped its
count as stale. The watch pauses from an answer past the budget until then. -/
theorem error_replies_within_budget (ctx : Context β) (tx : Sender) (start final : Kernel β) (count : Nat)
    (fits : ctx.maxConnErrors < UInt32.size) (fresh : start.router.errorCounts = ∅)
    (run : Run (budgetStep ctx tx) unguarded (start, some 0) (final, some count)) : count ≤ ctx.maxConnErrors := by
  have covered : Covered ctx tx (final, some count) := by
    apply run.preserves
    · intro replies counted
      cases counted
      have unused : start.router.errorCount tx.conn = 0 := by simp [errorCount, fresh]
      simp [unused]
    · intro state action next allowed step covered
      exact budgetStep_covered fits step covered
  obtain ⟨counted, limited⟩ := covered count rfl
  exact Nat.le_trans counted limited

end Steps

section Runs
open Scenario

/-- Two errors are tolerated, and the counts of one connection are kept. -/
def strictContext : Context Packet := { context with maxConnErrors := 2, maxTrackedErrorConns := 1 }

/-- Anything but a registration from a connection that has not registered. -/
def stray (conn : Nat) : IncomingMessage Packet := sends conn "kernel" (.ping 7)

def strayEnd : Kernel Packet × Option Nat :=
  (exec (budgetStep strictContext { conn := 1 }) unguarded ({}, some 0)
    [.accept 1 .uds, .receive (stray 1), .receive (stray 1), .receive (stray 1), .route start, .route start,
      .route start]).get (by decide +kernel)

/-- Three strays of one connection: two are answered, the third is dropped. -/
theorem error_replies_within_budget_strays :
    strayEnd.2 = some 2 ∧ strayEnd.1.incoming.length = 0 ∧ 2 ≤ strictContext.maxConnErrors := by
  have counted : strayEnd.2 = some 2 := by decide +kernel
  refine ⟨counted, by decide +kernel, ?_⟩
  have run : Run (budgetStep strictContext { conn := 1 }) unguarded ({}, some 0) strayEnd :=
    exec_get_run (by decide +kernel)
  apply error_replies_within_budget strictContext { conn := 1 } {} strayEnd.1 2 (by decide) rfl
  rw [← counted]
  exact run

def fruitless (ctx : Context β) (conn : Nat) (kernel : Kernel β) : Action β → Bool
  | .route now => kernel.incoming.head?.all fun msg =>
      msg.connId != conn || (kernel.router.routeMessage ctx now msg).2 != .handled false
  | _ => true

def errorReplies (ctx : Context β) (tx : Sender) (kernel : Kernel β) : Nat :=
  (kernel.router.net tx).queue.countP fun item => (payloadIn ctx.wire item).any isErrorReply

/-- One message is within the rate of its sender, and one error is tolerated. -/
def quotaContext : Context Packet :=
  { context with maxConnErrors := 1, ipcLimiter := some fun calls _ _ => calls.isEmpty }

def quotaEnd : Kernel Packet :=
  (exec (Kernel.step quotaContext) (fruitless quotaContext 1) {}
    [.accept 1 .uds, .receive (stray 1), .receive (stray 1), .route start, .route start]).get (by decide +kernel)

/-- One error is tolerated, and the counts of one connection are kept. -/
def crowdedContext : Context Packet := { context with maxConnErrors := 1, maxTrackedErrorConns := 1 }

def later : Moment := { instant := fromSecs 300 }

def crowdedEnd : Kernel Packet :=
  (exec (Kernel.step crowdedContext) (fruitless crowdedContext 1) {}
    [.accept 1 .uds, .accept 2 .uds, .receive (stray 1), .receive (stray 2), .receive (stray 1), .route start,
      .route later, .route later]).get (by decide +kernel)

theorem quota_and_stale_counts_uncharged :
    (Run (Kernel.step quotaContext) (fruitless quotaContext 1) {} quotaEnd ∧
      quotaContext.maxConnErrors < errorReplies quotaContext { conn := 1 } quotaEnd) ∧
    Run (Kernel.step crowdedContext) (fruitless crowdedContext 1) {} crowdedEnd ∧
      crowdedContext.maxConnErrors < errorReplies crowdedContext { conn := 1 } crowdedEnd :=
  ⟨⟨exec_get_run (by decide +kernel), by decide +kernel⟩, exec_get_run (by decide +kernel), by decide +kernel⟩

end Runs
end Vynkor.Proofs
