import Vynkor.Proofs.ErrorBudget

/-! The table of error counts as a function of the messages that reach it. The counts of
all connections share one table, and an error of any of them may prune it. As long as the
last error of a connection is recent, what the others send has no effect on whether its
messages are dropped. -/

namespace Vynkor.Proofs
open DashMap Execution RouterState

/-- A message as the error budgets see it. `errored` says what handling it comes to. -/
structure Handled where
  instant : Nat
  connId : Nat
  exempt : Bool
  errored : Bool
  deriving DecidableEq

/-- The table of counts, and beside it, for every connection, when it last erred. The
latter is not read. -/
structure Books where
  counts : DashMap Nat (Nat × Nat) := ∅
  lastError : Nat → Option Nat := fun _ => none

namespace Books
variable (maxConnErrors maxTracked conn : Nat) (books : Books) (message : Handled)

def count : Nat := ((books.counts.get conn).map Prod.fst).getD 0

def drops : Bool := decide (maxConnErrors ≤ books.count message.connId) && !message.exempt

def prunes : Bool :=
  !books.drops maxConnErrors message && message.errored && decide (maxTracked ≤ books.counts.entries.length)

def pruned (instant : Nat) : DashMap Nat (Nat × Nat) :=
  if maxTracked ≤ books.counts.entries.length then
    books.counts.retain fun _ entry => decide (instant - entry.2 < errorBudgetIdleTtl)
  else books.counts

def charged : DashMap Nat (Nat × Nat) :=
  if message.errored then
    let counts := books.pruned maxTracked message.instant
    counts.insert message.connId
      ((((counts.get message.connId).map Prod.fst).getD 0 + 1) % UInt32.size, message.instant)
  else books.counts.erase message.connId

def take : Books :=
  if books.drops maxConnErrors message then books
  else {
    counts := books.charged maxTracked message
    lastError := if message.errored then Function.update books.lastError message.connId (some message.instant)
      else books.lastError }

def takeAll (messages : List Handled) : Books := messages.foldl (take maxConnErrors maxTracked) books

def decisions (books : Books) : List Handled → List Bool
  | [] => []
  | message :: rest =>
    if message.connId = conn then
      books.drops maxConnErrors message :: (books.take maxConnErrors maxTracked message).decisions rest
    else (books.take maxConnErrors maxTracked message).decisions rest

/-- At every message of the connection, and whenever the table is pruned, the last error
of the connection is recent. -/
def Recent (books : Books) : List Handled → Prop
  | [] => True
  | message :: rest =>
    (message.connId = conn ∨ books.prunes maxConnErrors maxTracked message = true →
      ∀ last ∈ books.lastError conn, message.instant - last < errorBudgetIdleTtl) ∧
    (books.take maxConnErrors maxTracked message).Recent rest

instance decidableRecent (books : Books) :
    (messages : List Handled) → Decidable (books.Recent maxConnErrors maxTracked conn messages)
  | [] => inferInstanceAs (Decidable True)
  | message :: rest =>
    have : Decidable ((books.take maxConnErrors maxTracked message).Recent maxConnErrors maxTracked conn rest) :=
      decidableRecent _ rest
    inferInstanceAs (Decidable (_ ∧ _))

end Books

section Own
variable (maxConnErrors : Nat)

def ownCount (count : Nat) (message : Handled) : Nat :=
  if decide (maxConnErrors ≤ count) && !message.exempt then count
  else if message.errored then (count + 1) % UInt32.size
  else 0

def ownDecisions (count : Nat) : List Handled → List Bool
  | [] => []
  | message :: rest =>
    (decide (maxConnErrors ≤ count) && !message.exempt) :: ownDecisions (ownCount maxConnErrors count message) rest

end Own

section Independence
variable {maxConnErrors maxTracked conn : Nat} {books : Books} {message : Handled}

def Books.Dated (books : Books) (conn : Nat) : Prop :=
  ∀ entry, books.counts.get conn = some entry → books.lastError conn = some entry.2

theorem Books.Dated.pruned (dated : books.Dated conn) {instant}
    (recent : maxTracked ≤ books.counts.entries.length → ∀ last ∈ books.lastError conn,
      instant - last < errorBudgetIdleTtl) :
    (books.pruned maxTracked instant).get conn = books.counts.get conn := by
  simp only [Books.pruned]
  split
  next full =>
    rw [get_retain]
    cases found : books.counts.get conn with
    | none => rfl
    | some entry =>
      have young := recent full entry.2 (dated entry found)
      rw [Option.filter_some, if_pos (decide_eq_true young)]
  · rfl

theorem Books.Dated.elsewhere (dated : books.Dated conn) (other : message.connId ≠ conn)
    (recent : books.prunes maxConnErrors maxTracked message = true → ∀ last ∈ books.lastError conn,
      message.instant - last < errorBudgetIdleTtl) :
    (books.take maxConnErrors maxTracked message).counts.get conn = books.counts.get conn ∧
      (books.take maxConnErrors maxTracked message).lastError conn = books.lastError conn := by
  simp only [Books.take]
  split
  · exact ⟨rfl, rfl⟩
  next passes =>
    simp only [Books.charged]
    cases errored : message.errored with
    | false => exact ⟨by simp [get_erase, other.symm], rfl⟩
    | true =>
      have kept : (books.pruned maxTracked message.instant).get conn = books.counts.get conn := by
        apply dated.pruned
        intro full
        exact recent (by simp [Books.prunes, passes, errored, full])
      simp [get_insert, other.symm, kept]

theorem Books.Dated.own (dated : books.Dated conn) (same : message.connId = conn)
    (recent : ∀ last ∈ books.lastError conn, message.instant - last < errorBudgetIdleTtl) :
    (books.take maxConnErrors maxTracked message).count conn = ownCount maxConnErrors (books.count conn) message ∧
      (books.take maxConnErrors maxTracked message).Dated conn := by
  subst same
  by_cases dropped : (decide (maxConnErrors ≤ books.count message.connId) && !message.exempt) = true
  · simp only [Books.take, Books.drops, ownCount, dropped, if_true]
    exact ⟨trivial, dated⟩
  · simp only [Books.take, Books.drops, ownCount, dropped, Bool.false_eq_true, if_false, Books.charged]
    cases errored : message.errored with
    | false =>
      refine ⟨by simp [Books.count], ?_⟩
      intro entry found
      simp at found
    | true =>
      have kept := dated.pruned fun (_ : maxTracked ≤ books.counts.entries.length) => recent
      refine ⟨by simp [Books.count, kept], ?_⟩
      intro entry found
      simp only [if_true, get_insert_self, Option.some.injEq] at found
      subst found
      simp

/-- Only the connection's own messages decide, and they alone make up its count. -/
theorem Books.Dated.decisions_own (messages : List Handled) (dated : books.Dated conn)
    (recent : books.Recent maxConnErrors maxTracked conn messages) :
    books.decisions maxConnErrors maxTracked conn messages =
        ownDecisions maxConnErrors (books.count conn) (messages.filter (·.connId = conn)) ∧
      (books.takeAll maxConnErrors maxTracked messages).count conn =
        (messages.filter (·.connId = conn)).foldl (ownCount maxConnErrors) (books.count conn) := by
  induction messages generalizing books with
  | nil => exact ⟨rfl, rfl⟩
  | cons message rest ih =>
    obtain ⟨now, later⟩ := recent
    by_cases own : message.connId = conn
    · obtain ⟨count, dates⟩ := dated.own own (now (.inl own))
      obtain ⟨decided, counted⟩ := ih dates later
      simp only [Books.decisions, own, if_true, List.filter_cons, decide_true, ownDecisions, List.foldl_cons]
      rw [decided, count, Books.drops, own, ← count, ← counted]
      exact ⟨rfl, rfl⟩
    · obtain ⟨entry, last⟩ := dated.elsewhere own (fun prunes => now (.inr prunes))
      have dates : (books.take maxConnErrors maxTracked message).Dated conn := by
        intro stored found
        rw [last]
        rw [entry] at found
        exact dated stored found
      have count : (books.take maxConnErrors maxTracked message).count conn = books.count conn := by
        simp only [Books.count, entry]
      obtain ⟨decided, counted⟩ := ih dates later
      simp only [Books.decisions, own, if_false, List.filter_cons, decide_false]
      rw [decided, ← count]
      exact ⟨rfl, counted⟩

theorem dated_empty (conn : Nat) : Books.Dated {} conn := by
  intro entry found
  simp at found

end Independence

/-! The router keeps these books. Beside a run stands the log of the messages that got
as far as the error budgets. -/

section Router
variable {β : Type} {ctx : Context β} {now : Moment} {msg : IncomingMessage β} {st : RouterState β}
  {kernel next : Kernel β} {action : Action β} {books : Books}

def handledAs (ctx : Context β) (now : Moment) (msg : IncomingMessage β) (verdict : Verdict) : Option Handled :=
  let entry := fun errored : Bool =>
    { instant := now.instant, connId := msg.connId, exempt := isThrottleExempt ctx.wire msg.frame, errored }
  match verdict with
  | .handled errored => some (entry errored)
  | .throttled => some (entry false)
  | .rateLimited | .badTarget => none

def booksOf (ctx : Context β) (log : List Handled) : Books :=
  Books.takeAll ctx.maxConnErrors ctx.maxTrackedErrorConns {} log

def handledStep (ctx : Context β) (state : Kernel β × List Handled) (action : Action β) :
    Option (Kernel β × List Handled) :=
  (state.1.step ctx action).map fun next =>
    (next, match action, state.1.incoming with
      | .route now, msg :: _ =>
        state.2 ++ (handledAs ctx now msg (state.1.router.routeMessage ctx now msg).2).toList
      | _, _ => state.2)

theorem recordOutcome_charged (books : Books) (same : books.counts = st.errorCounts) (errored exempt : Bool) :
    (st.recordOutcome ctx now msg errored).errorCounts =
      books.charged ctx.maxTrackedErrorConns { instant := now.instant, connId := msg.connId, exempt, errored } := by
  cases errored with
  | false =>
    simp only [recordOutcome, Books.charged, same]
    rfl
  | true =>
    simp only [recordOutcome, Books.charged, Books.pruned, same]
    rfl

/-- The books drop a message just when the router does, and then agree with its table. -/
structure Transcribed (ctx : Context β) (now : Moment) (msg : IncomingMessage β) (books : Books)
    (routed : RouterState β × Verdict) : Prop where
  counts : (books.takeAll ctx.maxConnErrors ctx.maxTrackedErrorConns
    (handledAs ctx now msg routed.2).toList).counts = routed.1.errorCounts
  dropped : ∀ message ∈ handledAs ctx now msg routed.2,
    books.drops ctx.maxConnErrors message = true ↔ routed.2 = .throttled

theorem routeTarget_transcribed (same : books.counts = st.errorCounts) :
    Transcribed ctx now msg books (st.routeTarget ctx now msg) := by
  have throttled (errored : Bool) : books.drops ctx.maxConnErrors
      { instant := now.instant, connId := msg.connId, exempt := isThrottleExempt ctx.wire msg.frame, errored } =
        st.isThrottled ctx msg := by
    simp only [Books.drops, Books.count, same, isThrottled, errorCount]
    rfl
  simp only [routeTarget]
  split
  · refine ⟨?_, by simp [handledAs]⟩
    exact same.trans (sendEnvelope_budgets _).symm
  next target aimed =>
    split
    next dropped =>
      constructor
      · simp only [handledAs, Option.toList_some, Books.takeAll, List.foldl_cons, List.foldl_nil, Books.take,
          throttled, dropped, if_true]
        exact same
      · simp [handledAs, throttled, dropped]
    next passes =>
      have handled : books.counts = (st.handleTarget ctx now msg target).1.errorCounts :=
        same.trans (handleTarget_effect aimed).budgets.symm
      constructor
      · simp only [handledAs, Option.toList_some, Books.takeAll, List.foldl_cons, List.foldl_nil, Books.take,
          throttled, passes]
        exact (recordOutcome_charged books handled _ _).symm
      · simp [handledAs, throttled, passes]

theorem routeMessage_transcribed (same : books.counts = st.errorCounts) :
    Transcribed ctx now msg books (st.routeMessage ctx now msg) := by
  obtain ⟨calls, quiet⟩ := checkIpcRate_quiet ctx now msg st
  simp only [routeMessage]
  rw [quiet]
  split
  · exact routeTarget_transcribed same
  · have unchanged : ({ st with ipcCalls := calls }.sendError ctx now msg.writeTx .rateLimited
        "IPC rate limit exceeded").errorCounts = st.errorCounts := sendEnvelope_budgets _
    exact ⟨same.trans unchanged.symm, by simp [handledAs]⟩

def InBooks (ctx : Context β) (state : Kernel β × List Handled) : Prop :=
  (booksOf ctx state.2).counts = state.1.router.errorCounts

theorem handledStep_inBooks {state after}
    (step : handledStep ctx state action = some after) (follows : InBooks ctx state) : InBooks ctx after := by
  obtain ⟨next, moved, rfl⟩ := Option.map_eq_some_iff.mp step
  cases action with
  | route now =>
    obtain ⟨msg, rest, head, rfl⟩ := route_some moved
    simp only [InBooks, head, booksOf, Books.takeAll, List.foldl_append]
    exact (routeMessage_transcribed follows).counts
  | _ =>
    have uncharged : next.router.errorCounts = state.1.router.errorCounts ∧
        refusals ctx { conn := 0 } state.1.router next.router = 0 := step_uncharged moved (by simp)
    exact follows.trans uncharged.1.symm

/-- In any run of the kernel the table of error counts is what the log of handled messages
makes of it, and the router drops the message it takes next just when the books do. -/
theorem errorCounts_of_log {start final log} (fresh : start.router.errorCounts = ∅)
    (run : Run (handledStep ctx) unguarded (start, []) (final, log)) :
    (booksOf ctx log).counts = final.router.errorCounts ∧
      ∀ now msg, Transcribed ctx now msg (booksOf ctx log) (final.router.routeMessage ctx now msg) := by
  have follows : InBooks ctx (final, log) := by
    apply run.preserves
    · exact fresh.symm
    intro state action after _ step follows
    exact handledStep_inBooks step follows
  exact ⟨follows, fun _ _ => routeMessage_transcribed follows⟩

end Router

def loggedEnd : Kernel Packet × List Handled :=
  (exec (handledStep strictContext) unguarded ({}, [])
    [.accept 1 .uds, .receive (stray 1), .receive (stray 1), .receive (stray 1), .route Scenario.start,
      .route Scenario.start, .route Scenario.start]).get (by decide +kernel)

/-- Two errors use up the budget; the third message is dropped, and so is the next. -/
theorem errorCounts_of_log_stray : loggedEnd.2.map Handled.errored = [true, true, false] ∧
    (booksOf strictContext loggedEnd.2).counts = loggedEnd.1.router.errorCounts ∧
    (loggedEnd.1.router.routeMessage strictContext Scenario.start (stray 1)).2 = .throttled ∧
    ∀ message ∈ handledAs strictContext Scenario.start (stray 1) .throttled,
      (booksOf strictContext loggedEnd.2).drops strictContext.maxConnErrors message = true := by
  have run : Run (handledStep strictContext) unguarded ({}, []) loggedEnd := exec_get_run (by decide +kernel)
  obtain ⟨counts, next⟩ := @errorCounts_of_log _ strictContext {} loggedEnd.1 loggedEnd.2 rfl run
  have dropped : (loggedEnd.1.router.routeMessage strictContext Scenario.start (stray 1)).2 = .throttled := by
    decide +kernel
  have agrees := (next Scenario.start (stray 1)).dropped
  rw [dropped] at agrees
  exact ⟨by decide +kernel, counts, dropped, fun message handled => (agrees message handled).mpr rfl⟩

/-- Two sequences that agree on the messages of a connection drop the same of these, and
leave it with the same count, the one its own messages alone make up: whatever the others
send, and whatever the limits are, as long as its last error is recent in both. -/
theorem drops_independent_of_others (maxConnErrors maxTracked conn : Nat) (first second : List Handled)
    (same : first.filter (·.connId = conn) = second.filter (·.connId = conn))
    (recentFirst : Books.Recent maxConnErrors maxTracked conn {} first)
    (recentSecond : Books.Recent maxConnErrors maxTracked conn {} second) :
    Books.decisions maxConnErrors maxTracked conn {} first = Books.decisions maxConnErrors maxTracked conn {} second ∧
      ∀ messages ∈ [first, second],
        (Books.takeAll maxConnErrors maxTracked {} messages).count conn =
          (first.filter (·.connId = conn)).foldl (ownCount maxConnErrors) 0 := by
  obtain ⟨decidedFirst, countedFirst⟩ := (dated_empty conn).decisions_own first recentFirst
  obtain ⟨decidedSecond, countedSecond⟩ := (dated_empty conn).decisions_own second recentSecond
  constructor
  · rw [decidedFirst, decidedSecond, same]
  · intro messages member
    rcases List.mem_pair.mp member with rfl | rfl
    · exact countedFirst
    · rw [same]
      exact countedSecond

def errs (seconds connId : Nat) : Handled := { instant := fromSecs seconds, connId, exempt := false, errored := true }

/-- Connection 1 errs with a table of one entry and a limit of two, and is dropped. -/
def culprit : List Handled := [errs 0 1, errs 200 1, errs 400 1]

/-- Meanwhile others err, and the table is pruned for each of them; the entry of
connection 2 is stale at its second error and dropped. -/
def crowd : List Handled := [errs 0 2, errs 0 1, errs 100 3, errs 200 1, errs 350 2, errs 400 1, errs 401 3]

theorem drops_independent_of_others_crowd :
    Books.decisions 2 1 1 {} crowd = [false, false, true] ∧ (Books.takeAll 2 1 {} crowd).count 1 = 2 := by
  obtain ⟨same, counted⟩ := drops_independent_of_others 2 1 1 culprit crowd (by decide +kernel) (by decide +kernel)
    (by decide +kernel)
  rw [← same, counted crowd (by simp)]
  decide +kernel

end Vynkor.Proofs
