import Vynkor.Proofs.PendingTurns
import Vynkor.Scenario

/-! How many responses a request gets. A ledger kept beside the kernel gives
every action request a number when it is handled, remembers which request each
pending entry belongs to, and notes the request on whose account a response is
issued. -/

namespace Vynkor.Proofs
open DashMap Execution RouterState
variable {β : Type} {strict : Bool} {ctx : Context β} {kernel next : Kernel β} {action : Action β}

/-- A handled request: the channel it came from and the id its sender knows it by. -/
structure Ticket where
  tx : Sender
  actionId : String
  streaming : Bool
  deriving DecidableEq

def ticketOf (pending : PendingAction) : Ticket :=
  ⟨pending.requesterWriteTx, pending.originalActionId, pending.streaming⟩

/-- The request with number `n` is the ticket at position `n`. -/
structure Ledger where
  tickets : List Ticket := []
  holder : DashMap String Nat := ∅
  answers : List Nat := []

namespace Ledger

def file (ledger : Ledger) (key : String) (pending : PendingAction) : Ledger :=
  { ledger with
    tickets := ledger.tickets ++ [ticketOf pending]
    holder := ledger.holder.insert key ledger.tickets.length }

def answer (ledger : Ledger) (key : String) : Ledger :=
  { ledger with answers := ledger.answers ++ (ledger.holder.get key).toList }

def refuse (ledger : Ledger) (tx : Sender) (request : ActionRequest) : Ledger :=
  { ledger with
    tickets := ledger.tickets ++ [⟨tx, request.actionId, request.streaming⟩]
    answers := ledger.answers ++ [ledger.tickets.length] }

def record (ledger : Ledger) : Turn → Ledger
  | .denied tx request => ledger.refuse tx request
  | .routed key pending | .called key pending => ledger.file key pending
  | .answered key _ _ => ledger.answer key
  | .requested key pending _ none | .replied key pending _ none =>
    if pending.sessionAccepted then ledger else ledger.answer key
  | .idle | .requested _ _ _ (some _) | .replied _ _ _ (some _) | .closed .. => ledger

def answerEach (ledger : Ledger) (entries : List (String × PendingAction)) : Ledger :=
  entries.foldl (fun ledger entry => ledger.answer entry.1) ledger

section Step
variable (ctx : Context β)

def follow (ledger : Ledger) (kernel : Kernel β) : Action β → Ledger
  | .route now =>
    match kernel.incoming with
    | [] => ledger
    | msg :: _ => ledger.record (turn ctx now msg kernel.router)
  | .prune now => ledger.answerEach (expiredActions kernel.router.registry now.instant)
  | _ => ledger

def step (state : Kernel β × Ledger) (action : Action β) : Option (Kernel β × Ledger) :=
  (state.1.step ctx action).map fun next => (next, state.2.follow ctx state.1 action)

end Step

def posted (ledger : Ledger) (answers : List Nat) : List (Sender × String) :=
  answers.filterMap fun number => ledger.tickets[number]?.map fun ticket => (ticket.tx, ticket.actionId)

/-- The ids of the responses newly accounted for on a channel. -/
def accounted (before after : Ledger) (tx : Sender) : List String :=
  ((after.posted (after.answers.drop before.answers.length)).filter fun answer => answer.1 = tx).map Prod.snd

/-- Every pending entry belongs to a request of its own, which has no answer
before it is accepted. A request in question has one answer at most: all of them
when `strict`, otherwise those that open no session. -/
structure Valid (strict : Bool) (pendingActions : DashMap String PendingAction) (ledger : Ledger) : Prop where
  held : ∀ key pending, pendingActions.get key = some pending → ∃ number, ledger.holder.get key = some number ∧
    ledger.tickets[number]? = some (ticketOf pending) ∧ (pending.sessionAccepted = false → number ∉ ledger.answers)
  apart : ∀ key other pending rival number, pendingActions.get key = some pending → pendingActions.get other = some rival →
    ledger.holder.get key = some number → ledger.holder.get other = some number → key = other
  streams : ∀ key pending, pendingActions.get key = some pending → pending.sessionAccepted = true →
    pending.streaming = true
  issued : ∀ key number, ledger.holder.get key = some number → number < ledger.tickets.length
  known : ∀ number ∈ ledger.answers, number < ledger.tickets.length
  once : ∀ number ticket, ledger.tickets[number]? = some ticket → strict = true ∨ ticket.streaming = false →
    ledger.answers.count number ≤ 1

section Invariant
variable {pendingActions later : DashMap String PendingAction} {ledger : Ledger} {key : String}
  {pending : PendingAction}

theorem valid_empty : Valid strict ∅ {} := by
  constructor <;> simp

section
variable (valid : Valid strict pendingActions ledger)
include valid

theorem Valid.fewer (origin : ∀ key pending, later.get key = some pending →
      ∃ before, pendingActions.get key = some before ∧
      ticketOf before = ticketOf pending ∧ before.sessionAccepted = pending.sessionAccepted) :
    Valid strict later ledger where
  held := by
    intro key pending found
    obtain ⟨before, stored, same, accepted⟩ := origin key pending found
    obtain ⟨number, holds, filed, unanswered⟩ := valid.held key before stored
    exact ⟨number, holds, filed.trans (congrArg some same), fun waiting => unanswered (accepted.trans waiting)⟩
  apart := by
    intro key other pending rival number found foundOther
    obtain ⟨before, stored, _⟩ := origin key pending found
    obtain ⟨beforeOther, storedOther, _⟩ := origin other rival foundOther
    exact valid.apart key other before beforeOther number stored storedOther
  streams := by
    intro key pending found accepted
    obtain ⟨before, stored, same, kept⟩ := origin key pending found
    have streaming := valid.streams key before stored (kept.trans accepted)
    have sameStreaming : before.streaming = pending.streaming := congrArg Ticket.streaming same
    exact sameStreaming.symm.trans streaming
  issued := valid.issued
  known := valid.known
  once := valid.once

theorem Valid.unissued {number}
    (outside : ¬number < ledger.tickets.length) : ledger.answers.count number = 0 := by
  apply List.count_eq_zero.mpr
  intro answered
  exact outside (valid.known number answered)

theorem Valid.file (key : String) (waiting : pending.sessionAccepted = false) :
    Valid strict (pendingActions.insert key pending) (ledger.file key pending) where
  held := by
    intro other entry found
    rw [get_insert] at found
    simp only [Ledger.file, get_insert]
    split at found
    next same =>
      cases found
      refine ⟨ledger.tickets.length, by rw [if_pos same], by simp, ?_⟩
      intro _ answered
      have inside := valid.known _ answered
      omega
    next different =>
      obtain ⟨number, holds, filed, unanswered⟩ := valid.held other entry found
      refine ⟨number, by rw [if_neg different, holds], ?_, unanswered⟩
      rw [List.getElem?_append_left (valid.issued other number holds), filed]
  apart := by
    intro first second entry rival number found foundOther holds holdsOther
    rw [get_insert] at found foundOther
    simp only [Ledger.file, get_insert] at holds holdsOther
    split at found
    next same =>
      rw [if_pos same] at holds
      split at foundOther
      next sameOther => rw [same, sameOther]
      next different =>
        rw [if_neg different] at holdsOther
        have inside := valid.issued second number holdsOther
        have newest := Option.some.inj holds
        omega
    next different =>
      rw [if_neg different] at holds
      split at foundOther
      next sameOther =>
        rw [if_pos sameOther] at holdsOther
        have inside := valid.issued first number holds
        have newest := Option.some.inj holdsOther
        omega
      next differentOther =>
        rw [if_neg differentOther] at holdsOther
        exact valid.apart first second entry rival number found foundOther holds holdsOther
  streams := by
    intro other entry found accepted
    rw [get_insert] at found
    split at found
    · cases found
      rw [waiting] at accepted
      cases accepted
    · exact valid.streams other entry found accepted
  issued := by
    intro other number holds
    simp only [Ledger.file, get_insert, List.length_append, List.length_singleton] at holds ⊢
    split at holds
    · have newest := Option.some.inj holds
      omega
    · have inside := valid.issued other number holds
      omega
  known := by
    intro number answered
    have inside := valid.known number answered
    simp only [Ledger.file, List.length_append, List.length_singleton]
    omega
  once := by
    intro number ticket filed scope
    simp only [Ledger.file, List.getElem?_append] at filed
    split at filed
    · exact valid.once number ticket filed scope
    next outside =>
      show ledger.answers.count number ≤ 1
      rw [valid.unissued outside]
      omega

theorem Valid.refuse (tx : Sender) (request : ActionRequest) :
    Valid strict pendingActions (ledger.refuse tx request) where
  held := by
    intro key pending found
    obtain ⟨number, holds, filed, unanswered⟩ := valid.held key pending found
    have inside := valid.issued key number holds
    refine ⟨number, holds, ?_, ?_⟩
    · simp only [Ledger.refuse]
      rw [List.getElem?_append_left inside, filed]
    · intro waiting answered
      rcases List.mem_append.mp answered with old | new
      · exact unanswered waiting old
      · have newest := List.mem_singleton.mp new
        omega
  apart := valid.apart
  streams := valid.streams
  issued := by
    intro key number holds
    have inside := valid.issued key number holds
    simp only [Ledger.refuse, List.length_append, List.length_singleton]
    omega
  known := by
    intro number answered
    simp only [Ledger.refuse, List.length_append, List.length_singleton]
    rcases List.mem_append.mp answered with old | new
    · have inside := valid.known number old
      omega
    · have newest := List.mem_singleton.mp new
      omega
  once := by
    intro number ticket filed scope
    simp only [Ledger.refuse, List.getElem?_append] at filed
    simp only [Ledger.refuse, List.count_append]
    split at filed
    next inside =>
      have old := valid.once number ticket filed scope
      have other : List.count number [ledger.tickets.length] = 0 := by
        apply List.count_eq_zero.mpr
        simp only [List.mem_singleton]
        omega
      omega
    next outside =>
      rw [valid.unissued outside, Nat.zero_add]
      exact List.count_le_length

section
variable (found : pendingActions.get key = some pending) (first : pending.sessionAccepted = false ∨ strict = false)
include found first

theorem Valid.waiting (scope : strict = true ∨ pending.streaming = false) : pending.sessionAccepted = false := by
  rcases first with waiting | lenient
  · exact waiting
  · cases accepted : pending.sessionAccepted with
    | false => rfl
    | true =>
      rw [lenient, valid.streams key pending found accepted] at scope
      simp at scope

/-- Answering a pending request. Its entry goes, or it is accepted and stays. A
second answer to an accepted session is not for a request in question. -/
theorem Valid.answer (origin : ∀ other entry, later.get other = some entry →
      (other ≠ key ∧ pendingActions.get other = some entry) ∨
      (other = key ∧ ticketOf entry = ticketOf pending ∧ entry.sessionAccepted = true ∧ entry.streaming = true)) :
    Valid strict later (ledger.answer key) := by
  obtain ⟨number, holds, filed, unanswered⟩ := valid.held key pending found
  have old : ∀ other entry, later.get other = some entry → ∃ before, pendingActions.get other = some before := by
    intro other entry stored
    rcases origin other entry stored with ⟨_, kept⟩ | ⟨same, _⟩
    · exact ⟨entry, kept⟩
    · exact ⟨pending, same ▸ found⟩
  have noted : (ledger.answer key).answers = ledger.answers ++ [number] := by simp [Ledger.answer, holds]
  refine ⟨?_, ?_, ?_, valid.issued, ?_, ?_⟩
  · intro other entry stored
    rcases origin other entry stored with ⟨different, kept⟩ | ⟨same, ticket, accepted, _⟩
    · obtain ⟨own, ownHolds, ownFiled, ownUnanswered⟩ := valid.held other entry kept
      refine ⟨own, ownHolds, ownFiled, ?_⟩
      intro waiting answered
      rw [noted] at answered
      rcases List.mem_append.mp answered with before | new
      · exact ownUnanswered waiting before
      · rw [List.mem_singleton.mp new] at ownHolds
        exact different (valid.apart other key entry pending number kept found ownHolds holds)
    · subst same
      refine ⟨number, holds, filed.trans (congrArg some ticket.symm), ?_⟩
      intro waiting
      rw [accepted] at waiting
      cases waiting
  · intro one other entry rival shared storedOne storedOther
    obtain ⟨beforeOne, keptOne⟩ := old one entry storedOne
    obtain ⟨beforeOther, keptOther⟩ := old other rival storedOther
    exact valid.apart one other beforeOne beforeOther shared keptOne keptOther
  · intro other entry stored accepted
    rcases origin other entry stored with ⟨_, kept⟩ | ⟨_, _, _, streaming⟩
    · exact valid.streams other entry kept accepted
    · exact streaming
  · intro other answered
    rw [noted] at answered
    rcases List.mem_append.mp answered with before | new
    · exact valid.known other before
    · rw [List.mem_singleton.mp new]
      exact valid.issued key number holds
  · intro other ticket stored scope
    rw [noted, List.count_append]
    by_cases same : other = number
    · subst same
      have mine : ticket = ticketOf pending := Option.some.inj (stored.symm.trans filed)
      rw [mine] at scope
      have waiting := valid.waiting found first scope
      rw [List.count_eq_zero.mpr (unanswered waiting), Nat.zero_add]
      exact List.count_le_length
    · have other : List.count other [number] = 0 := by
        apply List.count_eq_zero.mpr
        simpa using same
      have before := valid.once _ ticket stored scope
      omega

end

theorem Valid.touch (now : Nat) (key : String) : Valid strict (pendingActions.update key (Turn.touch now)) ledger := by
  apply valid.fewer
  intro other entry stored
  rw [get_update] at stored
  split at stored
  · obtain ⟨before, found, rfl⟩ := Option.map_eq_some_iff.mp stored
    exact ⟨before, found, rfl, rfl⟩
  · exact ⟨entry, stored, rfl, rfl⟩

theorem Valid.erase (key : String) : Valid strict (pendingActions.erase key) ledger := by
  apply valid.fewer
  intro other entry stored
  exact ⟨entry, (get_erase_eq_some.mp stored).2, rfl, rfl⟩

theorem Valid.abort (now : Nat) (found : pendingActions.get key = some pending) :
    Valid strict ((pendingActions.update key (Turn.touch now)).erase key)
      (if pending.sessionAccepted then ledger else ledger.answer key) := by
  cases waiting : pending.sessionAccepted with
  | true => exact (valid.touch now key).erase key
  | false =>
    apply valid.answer found (.inl waiting)
    intro other entry stored
    rw [get_erase, get_update] at stored
    split at stored
    · cases stored
    next different => exact .inl ⟨different, by simpa [different] using stored⟩

end

theorem answered_origin {response now other entry}
    (stored : ((Turn.answered key pending response).table now pendingActions).get other = some entry) :
    (other ≠ key ∧ pendingActions.get other = some entry) ∨
      (other = key ∧ ticketOf entry = ticketOf pending ∧ entry.sessionAccepted = true ∧ entry.streaming = true) := by
  simp only [Turn.table] at stored
  split at stored
  next accepting =>
    rw [get_insert] at stored
    split at stored
    next same =>
      cases stored
      simp only [Turn.accepts, Bool.and_eq_true] at accepting
      exact .inr ⟨same, rfl, rfl, accepting.2⟩
    next different => exact .inl ⟨different, stored⟩
  · exact .inl (get_erase_eq_some.mp stored)

theorem Valid.record {turn now} (valid : Valid strict pendingActions ledger) (fits : turn.Fits pendingActions)
    (first : strict = true → ∀ key pending response, turn = .answered key pending response →
      pending.sessionAccepted = false) :
    Valid strict (turn.table now pendingActions) (ledger.record turn) := by
  cases turn with
  | idle => exact valid
  | denied tx request => exact valid.refuse tx request
  | routed key pending => exact valid.file key fits
  | called key pending => exact valid.file key fits
  | closed key pending => exact valid.erase key
  | requested key pending chunk queued =>
    cases queued with
    | none => exact valid.abort now fits
    | some tx => exact valid.touch now key
  | replied key pending chunk queued =>
    cases queued with
    | none => exact valid.abort now fits
    | some tx => exact valid.touch now key
  | answered key pending response =>
    have unanswered : pending.sessionAccepted = false ∨ strict = false := by
      cases mode : strict with
      | false => exact .inr rfl
      | true => exact .inl (first mode key pending response rfl)
    apply valid.answer fits unanswered
    intro other entry stored
    exact answered_origin stored

theorem Valid.answerEach (entries : List (String × PendingAction)) (valid : Valid strict pendingActions ledger)
    (distinct : (entries.map Prod.fst).Nodup)
    (waiting : ∀ entry ∈ entries, pendingActions.get entry.1 = some entry.2 ∧ entry.2.sessionAccepted = false) :
    Valid strict (takeEach pendingActions (entries.map Prod.fst)).1 (ledger.answerEach entries) := by
  induction entries generalizing pendingActions ledger with
  | nil => exact valid
  | cons entry rest ih =>
    obtain ⟨new, distinct⟩ := List.nodup_cons.mp distinct
    obtain ⟨found, unanswered⟩ := waiting entry List.mem_cons_self
    have answered : Valid strict (pendingActions.erase entry.1) (ledger.answer entry.1) := by
      apply valid.answer found (.inl unanswered)
      intro other stored kept
      exact .inl (get_erase_eq_some.mp kept)
    have others : ∀ other ∈ rest, DashMap.get (pendingActions.erase entry.1) other.1 = some other.2 ∧
        other.2.sessionAccepted = false := by
      intro other member
      obtain ⟨stored, open_⟩ := waiting other (List.mem_cons_of_mem _ member)
      have different : other.1 ≠ entry.1 := fun same => new (same ▸ List.mem_map_of_mem member)
      exact ⟨by rw [get_erase, if_neg different, stored], open_⟩
    have rest := ih answered distinct others
    simp only [List.map_cons, takeEach, found]
    exact rest

end Invariant

section Kernel
variable {ledger : Ledger}

/-- No provider answers a session it has accepted before. -/
def answersOnce (ctx : Context β) (state : Kernel β × Ledger) : Action β → Bool
  | .route now => state.1.incoming.head?.all fun msg =>
      match turn ctx now msg state.1.router with
      | .answered _ pending _ => !pending.sessionAccepted
      | _ => true
  | _ => true

theorem follow_other (notRoute : ∀ now, action ≠ .route now) (notPrune : ∀ now, action ≠ .prune now) :
    ledger.follow ctx kernel action = ledger := by
  cases action with
  | route now => exact absurd rfl (notRoute now)
  | prune now => exact absurd rfl (notPrune now)
  | _ => rfl

theorem expiredActions_spec (registry : PluginRegistry) (now : Nat) :
    ((expiredActions registry now).map Prod.fst).Nodup ∧ ∀ entry ∈ expiredActions registry now,
      registry.pendingActions.get entry.1 = some entry.2 ∧ entry.2.sessionAccepted = false := by
  refine ⟨?_, ?_⟩
  · exact nodup_keys_filter _ _
  · intro entry member
    obtain ⟨listed, due⟩ := List.mem_filter.mp member
    refine ⟨(mem_toList _ _ _).mp listed, ?_⟩
    simp only [Bool.and_eq_true, Bool.not_eq_true'] at due
    exact due.1

theorem valid_step (took : kernel.step ctx action = some next)
    (first : strict = true → answersOnce ctx (kernel, ledger) action = true)
    (valid : Valid strict kernel.router.registry.pendingActions ledger) :
    Valid strict next.router.registry.pendingActions (ledger.follow ctx kernel action) := by
  cases step_pending took with
  | @routed now msg rest head router =>
    simp only [follow, head, router, routeMessage_table]
    apply valid.record (turn_fits ctx now msg kernel.router).1
    intro mode key pending response same
    simpa [answersOnce, head, same] using first mode
  | @pruned now router =>
    obtain ⟨distinct, waiting⟩ := expiredActions_spec kernel.router.registry now.instant
    apply (valid.answerEach _ distinct waiting).fewer
    intro key pending found
    rw [router] at found
    rw [← sweepExpired_table ctx now kernel.router]
    exact ⟨pending, (sweepIdle_swept ctx now (kernel.router.sweepExpired ctx now)).fewer key pending found, rfl, rfl⟩
  | other notRoute notPrune pending _ =>
    rw [pending, follow_other notRoute notPrune]
    exact valid

end Kernel

section Account
variable {ledger : Ledger} {pendingActions : DashMap String PendingAction}

def responseIn (wire : Wire β) (item : Outbound β) : Option String :=
  match payloadIn wire item with
  | some (.actionResponse response) => some response.actionId
  | _ => none

def responseId : Speech → Option String
  | .response actionId => some actionId
  | _ => none

def responses (said : List (Sender × Speech)) : List (Sender × String) :=
  said.filterMap fun entry => (responseId entry.2).map fun actionId => (entry.1, actionId)

theorem responseIn_eq (wire : Wire β) (item : Outbound β) :
    responseIn wire item = (speechIn wire item).bind responseId := by
  simp only [responseIn, speechIn]
  cases payloadIn wire item with
  | none => rfl
  | some payload => cases payload <;> rfl

theorem responses_to (said : List (Sender × Speech)) (tx : Sender) :
    ((said.filter fun entry => entry.1 = tx).map Prod.snd).filterMap responseId =
      ((responses said).filter fun answer => answer.1 = tx).map Prod.snd := by
  induction said with
  | nil => rfl
  | cons entry rest ih =>
    obtain ⟨address, word⟩ := entry
    simp only [responses] at ih ⊢
    by_cases same : address = tx
    · cases spoken : responseId word <;> simp [same, spoken, ih]
    · cases spoken : responseId word <;> simp [same, spoken, ih]

theorem Shows_responses {before after said}
    (shows : Mailboxes.Shows (speechIn ctx.wire) said before after) (tx : Sender) :
    ((Mailboxes.added before after tx).filterMap (responseIn ctx.wire)).Sublist
      (((responses said).filter fun answer => answer.1 = tx).map Prod.snd) := by
  have same : responseIn ctx.wire = fun item => (speechIn ctx.wire item).bind responseId := funext (responseIn_eq ctx.wire)
  rw [same, ← responses_to]
  exact shows.closer responseId tx

theorem answer_posted {key pending} (valid : Valid strict pendingActions ledger)
    (found : pendingActions.get key = some pending) :
    (ledger.answer key).posted ((ledger.answer key).answers.drop ledger.answers.length) =
      [(pending.requesterWriteTx, pending.originalActionId)] := by
  obtain ⟨number, holds, filed, _⟩ := valid.held key pending found
  simp [answer, posted, holds, filed, ticketOf]

theorem record_posted {turn} (valid : Valid strict pendingActions ledger) (fits : turn.Fits pendingActions) :
    responses turn.said = (ledger.record turn).posted ((ledger.record turn).answers.drop ledger.answers.length) := by
  have nothing : ledger.posted (ledger.answers.drop ledger.answers.length) = [] := by simp [posted]
  have ended (key : String) (pending : PendingAction) (found : pendingActions.get key = some pending) :
      responses (Turn.lastWords pending) = (if pending.sessionAccepted then ledger else ledger.answer key).posted
        ((if pending.sessionAccepted then ledger else ledger.answer key).answers.drop ledger.answers.length) := by
    cases waiting : pending.sessionAccepted with
    | true => simpa [Turn.lastWords, waiting, responses] using nothing.symm
    | false =>
      have noted := answer_posted valid found
      simp only [Turn.lastWords, waiting, Bool.false_eq_true, if_false]
      rw [noted]
      rfl
  cases turn with
  | idle => exact nothing.symm
  | denied tx request => simp [Ledger.record, refuse, posted, responses, Turn.said, responseId]
  | routed key pending => simp [Ledger.record, file, posted, responses, Turn.said, Turn.delivered]
  | called key pending => simp [Ledger.record, file, posted, responses, Turn.said, Turn.delivered]
  | closed key pending => exact nothing.symm
  | answered key pending response => exact (answer_posted valid fits).symm
  | requested key pending chunk queued =>
    cases queued with
    | none => exact ended key pending fits
    | some tx => exact nothing.symm
  | replied key pending chunk queued =>
    cases queued with
    | none => exact ended key pending fits
    | some tx => exact nothing.symm

theorem answerEach_spec (entries : List (String × PendingAction)) (ledger : Ledger) :
    (ledger.answerEach entries).tickets = ledger.tickets ∧ (ledger.answerEach entries).holder = ledger.holder ∧
      (ledger.answerEach entries).answers = ledger.answers ++
        entries.filterMap fun entry => ledger.holder.get entry.1 := by
  induction entries generalizing ledger with
  | nil => exact ⟨rfl, rfl, (List.append_nil _).symm⟩
  | cons entry rest ih =>
    obtain ⟨tickets, holder, answers⟩ := ih (ledger.answer entry.1)
    refine ⟨tickets, holder, answers.trans ?_⟩
    cases held : ledger.holder.get entry.1 <;> simp [answer, held]

theorem answerEach_posted {entries} (valid : Valid strict pendingActions ledger)
    (found : ∀ entry ∈ entries, pendingActions.get entry.1 = some entry.2) :
    (ledger.answerEach entries).posted ((ledger.answerEach entries).answers.drop ledger.answers.length) =
      entries.map fun entry => (entry.2.requesterWriteTx, entry.2.originalActionId) := by
  obtain ⟨tickets, _, answers⟩ := answerEach_spec entries ledger
  rw [posted, tickets, answers, List.drop_left, List.filterMap_filterMap, ← List.filterMap_eq_map]
  apply List.filterMap_congr
  intro entry member
  obtain ⟨number, holds, filed, _⟩ := valid.held entry.1 entry.2 (found entry member)
  simp [holds, filed, ticketOf]

def relays (ctx : Context β) (kernel : Kernel β) : Action β → Bool
  | .route _ => kernel.incoming.head?.any fun msg => (ctx.wire.targetAsStr msg.frame.target).any (· ≠ "kernel")
  | _ => false

theorem step_accounted (took : kernel.step ctx action = some next) (own : relays ctx kernel action = false)
    (valid : Valid strict kernel.router.registry.pendingActions ledger) (tx : Sender) :
    ((Mailboxes.added kernel.router.net next.router.net tx).filterMap (responseIn ctx.wire)).Sublist
      (ledger.accounted (ledger.follow ctx kernel action) tx) := by
  cases step_pending took with
  | @routed now msg rest head router =>
    have aimed : ∀ target, ctx.wire.targetAsStr msg.frame.target = some target → target = "kernel" := by
      intro target named
      simpa [relays, head, named] using own
    have enacts := routeMessage_enacts ctx now msg kernel.router aimed
    rw [router]
    simp only [accounted, follow, head]
    rw [← record_posted valid (turn_fits ctx now msg kernel.router).1]
    exact Shows_responses enacts.shows tx
  | @pruned now router =>
    obtain ⟨_, waiting⟩ := expiredActions_spec kernel.router.registry now.instant
    have shows := Shows_responses (pruneTick_shows ctx now kernel.router) tx
    rw [router]
    simp only [accounted, follow]
    rw [answerEach_posted valid fun entry member => (waiting entry member).1]
    have same : responses ((expiredActions kernel.router.registry now.instant).map fun entry =>
        (entry.2.requesterWriteTx, Speech.response entry.2.originalActionId)) =
        (expiredActions kernel.router.registry now.instant).map fun entry =>
          (entry.2.requesterWriteTx, entry.2.originalActionId) := by
      rw [responses, List.filterMap_map, ← List.filterMap_eq_map]
      rfl
    rw [same] at shows
    exact shows
  | other _ _ _ unspoken =>
    have none : (Mailboxes.added kernel.router.net next.router.net tx).filterMap (responseIn ctx.wire) = [] := by
      apply List.filterMap_eq_nil_iff.mpr
      intro item member
      rw [responseIn_eq, List.filterMap_eq_nil_iff.mp (unspoken tx) item member]
      rfl
    rw [none]
    exact List.nil_sublist _

end Account
end Ledger

section Once
open Ledger
variable {start : Kernel β} {state : Kernel β × Ledger}

abbrev Balanced (strict : Bool) (state : Kernel β × Ledger) : Prop :=
  Valid strict state.1.router.registry.pendingActions state.2

theorem balanced_run {strict guard} (boot : start.router.registry.pendingActions = ∅)
    (first : strict = true → ∀ state action, guard state action = true → answersOnce ctx state action = true)
    (run : Run (Ledger.step ctx) guard (start, {}) state) : Balanced strict state := by
  have initial : Balanced strict (start, {}) := by
    simp only [Balanced, boot]
    exact valid_empty
  apply run.preserves initial
  intro current action next allowed took valid
  obtain ⟨kernel, moved, rfl⟩ := Option.map_eq_some_iff.mp took
  exact valid_step moved (fun mode => first mode current action allowed) valid

/-- Every response that a step queues is one the ledger accounts for, on the
channel and under the id of the request it is accounted to. -/
def Accounted (ctx : Context β) (state : Kernel β × Ledger) : Prop :=
  ∀ action next, Ledger.step ctx state action = some next → relays ctx state.1 action = false →
    ∀ tx, ((Mailboxes.added state.1.router.net next.1.router.net tx).filterMap (responseIn ctx.wire)).Sublist
      (state.2.accounted next.2 tx)

theorem Balanced.accounted {strict} (balanced : Balanced strict state) : Accounted ctx state := by
  intro action next took own tx
  obtain ⟨kernel, moved, rfl⟩ := Option.map_eq_some_iff.mp took
  exact step_accounted moved own balanced tx

/-- A request that opens no session is answered once at most, whoever answers:
the refusal, the provider, the deadline or the end of its stream. -/
theorem plain_request_answered_once (ctx : Context β) (start : Kernel β) (state : Kernel β × Ledger)
    (boot : start.router.registry.pendingActions = ∅) (run : Run (Ledger.step ctx) unguarded (start, {}) state) :
    (∀ number ticket, state.2.tickets[number]? = some ticket → ticket.streaming = false →
      state.2.answers.count number ≤ 1) ∧ Accounted ctx state := by
  have balanced : Balanced false state := balanced_run boot nofun run
  refine ⟨?_, balanced.accounted⟩
  intro number ticket filed plain
  exact balanced.once number ticket filed (.inr plain)

/-- With providers that answer an accepted session no more, the same holds of the
requests that open one. -/
theorem session_request_answered_once (ctx : Context β) (start : Kernel β) (state : Kernel β × Ledger)
    (boot : start.router.registry.pendingActions = ∅) (run : Run (Ledger.step ctx) (answersOnce ctx) (start, {}) state) :
    (∀ number ticket, state.2.tickets[number]? = some ticket → state.2.answers.count number ≤ 1) ∧
      Accounted ctx state := by
  have balanced : Balanced true state := balanced_run boot (fun _ _ _ allowed => allowed) run
  refine ⟨?_, balanced.accounted⟩
  intro number ticket filed
  exact balanced.once number ticket filed (.inl rfl)

end Once

section Twice
open Scenario Ledger

/-- `tv` provides an action and `notes` asks for it under the id `a`. -/
def asked (streaming : Bool) : List (Action Packet) := [
  .accept 1 .uds, .receive (hello 1 "notes"), .route start,
  .accept 2 .uds, .receive (sends 2 "kernel" (.pluginRegister
    { pluginId := "tv", manifest := some { actions := ["show"] } })), .route start,
  .receive (sends 1 "kernel" (.actionRequest { actionId := "a", action := "show", streaming })), .route start]

def tvAnswers (status : ActionStatus) : List (Action Packet) := [
  .receive (sends 2 "kernel" (.actionResponse { actionId := "kact-0", status })), .route start]

def answeredTwice : List (Action Packet) := tvAnswers .ok ++ tvAnswers .ok

def plainEnd : Kernel Packet × Ledger :=
  (exec (Ledger.step context) unguarded ({}, {}) (asked false ++ answeredTwice)).get (by decide +kernel)

theorem plain_request_answered_once_show :
    plainEnd.2.tickets = [⟨{ conn := 1 }, "a", false⟩] ∧
      (plainEnd.1.router.net { conn := 1 }).queue.filterMap (responseIn Packet.wire) = ["a"] ∧
      plainEnd.2.answers.count 0 ≤ 1 := by
  have run : Run (Ledger.step context) unguarded ({}, {}) plainEnd := exec_get_run (by decide +kernel)
  have filed : plainEnd.2.tickets[0]? = some ⟨{ conn := 1 }, "a", false⟩ := by decide +kernel
  exact ⟨by decide +kernel, by decide +kernel,
    (plain_request_answered_once context {} plainEnd rfl run).1 0 _ filed rfl⟩

def sessionEnd : Kernel Packet × Ledger :=
  (exec (Ledger.step context) (answersOnce context) ({}, {}) (asked true ++ tvAnswers .ok)).get (by decide +kernel)

theorem session_request_answered_once_show :
    sessionEnd.2.tickets = [⟨{ conn := 1 }, "a", true⟩] ∧ sessionEnd.2.answers.count 0 ≤ 1 := by
  have run : Run (Ledger.step context) (answersOnce context) ({}, {}) sessionEnd := exec_get_run (by decide +kernel)
  have filed : sessionEnd.2.tickets[0]? = some ⟨{ conn := 1 }, "a", true⟩ := by decide +kernel
  exact ⟨by decide +kernel, (session_request_answered_once context {} sessionEnd rfl run).1 0 _ filed⟩

def twiceEnd : Kernel Packet × Ledger :=
  (exec (Ledger.step context) unguarded ({}, {}) (asked true ++ answeredTwice)).get (by decide +kernel)

/-- `tv` accepts the session twice, and `notes` gets both responses. -/
theorem accepted_session_answered_again :
    Run (Ledger.step context) unguarded ({}, {}) twiceEnd ∧ twiceEnd.2.tickets = [⟨{ conn := 1 }, "a", true⟩] ∧
      (twiceEnd.1.router.net { conn := 1 }).queue.filterMap (responseIn Packet.wire) = ["a", "a"] ∧
      twiceEnd.2.answers.count 0 = 2 :=
  ⟨exec_get_run (by decide +kernel), by decide +kernel, by decide +kernel, by decide +kernel⟩

end Twice
end Vynkor.Proofs
