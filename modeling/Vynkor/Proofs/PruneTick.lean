import Vynkor.Proofs.PendingTurns
import Vynkor.Scenario

/-! The prune tick. It sweeps the table of pending actions twice, for actions that nobody
has answered in time and for sessions that have gone quiet, and tells the parties. -/

namespace Vynkor.Proofs
open DashMap Execution RouterState

section Tables
variable {pendingActions : DashMap String PendingAction} {select : String × PendingAction → Bool}

theorem takeEach_cons {first rest pendingActions} :
    (takeEach pendingActions (first :: rest)).1 = (takeEach (pendingActions.erase first) rest).1 := by
  simp only [takeEach]
  split <;> rfl

theorem takeEach_get (keys : List String) (pendingActions : DashMap String PendingAction) (key : String) :
    (takeEach pendingActions keys).1.get key = if key ∈ keys then none else pendingActions.get key := by
  induction keys generalizing pendingActions with
  | nil => rfl
  | cons first rest ih =>
    rw [takeEach_cons, ih, get_erase]
    by_cases same : key = first
    · simp [same]
    · simp [same]

theorem takeEach_filter (select : String × PendingAction → Bool) (key : String) :
    (takeEach pendingActions ((pendingActions.toList.filter select).map Prod.fst)).1.get key =
      (pendingActions.get key).filter fun pending => !select (key, pending) := by
  rw [takeEach_get]
  have listed : key ∈ (pendingActions.toList.filter select).map Prod.fst ↔
      ∃ pending, pendingActions.get key = some pending ∧ select (key, pending) = true := by
    constructor
    · intro member
      obtain ⟨⟨name, pending⟩, chosen, rfl⟩ := List.mem_map.mp member
      obtain ⟨stored, selected⟩ := List.mem_filter.mp chosen
      exact ⟨pending, (mem_toList _ _ _).mp stored, selected⟩
    · intro chosen
      obtain ⟨pending, stored, selected⟩ := chosen
      exact List.mem_map.mpr ⟨(key, pending), List.mem_filter.mpr ⟨(mem_toList _ _ _).mpr stored, selected⟩, rfl⟩
  cases found : pendingActions.get key with
  | none => simp
  | some pending =>
    simp only [found, Option.some.injEq, exists_eq_left'] at listed
    cases selected : select (key, pending) with
    | true => rw [if_pos (listed.mpr selected), Option.filter_some_neg (by simp [selected])]
    | false => rw [if_neg (by simp [listed, selected]), Option.filter_some_pos (by simp [selected])]

theorem erase_filter {key}
    (unselected : ∀ pending, pendingActions.get key = some pending → select (key, pending) = false) :
    (DashMap.toList (pendingActions.erase key)).filter select = pendingActions.toList.filter select := by
  obtain ⟨entries, distinct⟩ := pendingActions
  have dropped : ∀ entries : List (Sigma fun _ : String => PendingAction),
      (∀ pending, ⟨key, pending⟩ ∈ entries → select (key, pending) = false) →
      ((List.kerase key entries).map fun entry => (entry.1, entry.2)).filter select =
        (entries.map fun entry => (entry.1, entry.2)).filter select := by
    intro entries
    induction entries with
    | nil => exact fun _ => rfl
    | cons first rest ih =>
      intro none
      obtain ⟨name, pending⟩ := first
      by_cases same : key = name
      · subst name
        have first : List.kerase key (⟨key, pending⟩ :: rest) = rest := List.kerase_cons_eq rfl
        rw [first, List.map_cons, List.filter_cons_of_neg (by simp [none pending List.mem_cons_self])]
      · rw [List.kerase_cons_ne same, List.map_cons, List.map_cons, List.filter_cons, List.filter_cons,
          ih fun pending member => none pending (List.mem_cons_of_mem _ member)]
  exact dropped entries fun pending member =>
    unselected pending ((mem_entries ⟨entries, distinct⟩ key pending).mp member)

theorem takeEach_filter_list (keys : List String)
    (unselected : ∀ key ∈ keys, ∀ pending, pendingActions.get key = some pending → select (key, pending) = false) :
    (takeEach pendingActions keys).1.toList.filter select = pendingActions.toList.filter select := by
  induction keys generalizing pendingActions with
  | nil => rfl
  | cons first rest ih =>
    rw [takeEach_cons, ih, erase_filter (unselected first List.mem_cons_self)]
    intro key member pending stored
    exact unselected key (List.mem_cons_of_mem _ member) pending (get_erase_eq_some.mp stored).2

end Tables

section Sweeps
variable (idleTimeout : Option Nat) (now : Nat) {pending : PendingAction}

/-- Nobody has accepted or answered the action before its deadline. -/
def overdue (pending : PendingAction) : Bool := !pending.sessionAccepted && decide (pending.deadline ≤ now)

/-- The session was accepted and has been quiet for longer than the timeout, if there is one. -/
def gone (pending : PendingAction) : Bool :=
  pending.sessionAccepted && idleTimeout.any fun limit => decide (pending.lastActivity + limit < now)

theorem not_overdue_of_gone (idle : gone idleTimeout now pending = true) :
    overdue now pending = false := by
  simp only [gone, Bool.and_eq_true] at idle
  simp [overdue, idle.1]

def timeoutNotice (pending : PendingAction) : Sender × Payload :=
  (pending.requesterWriteTx, .actionResponse
    { actionId := pending.originalActionId, status := .timeout, error := "action timed out" })

/-- Each side of the session is told under the id it knows, the provider if it is still
registered. -/
def idleNotices (registry : PluginRegistry) (session : String × PendingAction) : List (Sender × Payload) :=
  (session.2.requesterWriteTx,
      .actionStreamAbort { actionId := session.2.originalActionId, reason := "idle timeout" }) ::
    ((registry.get session.2.providerId).map fun provider =>
      (provider.writeTx, Payload.actionStreamAbort { actionId := session.1, reason := "idle timeout" })).toList

theorem idleNotices_congr {registry other} (same : registry.plugins = other.plugins) :
    idleNotices registry = idleNotices other := by
  funext session
  simp only [idleNotices, PluginRegistry.get, same]

def tickNotices (registry : PluginRegistry) : List (Sender × Payload) :=
  (registry.pendingActions.toList.filter fun entry => overdue now entry.2).map (fun entry => timeoutNotice entry.2) ++
    (registry.pendingActions.toList.filter fun entry => gone idleTimeout now entry.2).flatMap (idleNotices registry)

end Sweeps

section Tick
variable {β : Type} {ctx : Context β} {now : Moment} {st middle after : RouterState β} {tx : Sender}

/-- The words were queued, each as one frame, where there was room for them. -/
abbrev Tells (ctx : Context β) (said : List (Sender × Payload)) (st after : RouterState β) : Prop :=
  Mailboxes.Posts writeCapacity (payloadIn ctx.wire) said st.net after.net

section
variable (encodes : ∀ envelope, ∃ bytes, ctx.wire.encode envelope = some bytes)
include encodes

theorem sendEnvelope_tells {envelope payload} (holds : envelope.payload = some payload) :
    Tells ctx [(tx, payload)] st (st.sendEnvelope ctx now tx envelope) := by
  obtain ⟨bytes, encoded⟩ := encodes (st.stampEnvelope now envelope)
  have sent : (st.sendEnvelope ctx now tx envelope).net =
      (st.net.trySend writeCapacity tx (.frame (buildFrame ctx.wire "client" 0 bytes))).1 := by
    simp [sendEnvelope, trySendEnvelope, buildOutbound, encoded, RouterState.trySend]
  rw [Tells, sent]
  exact Mailboxes.trySend_posts st.net tx (carries_stamped holds encoded).payloadIn

theorem answerExpired_tells (expired : List PendingAction) :
    Tells ctx (expired.map timeoutNotice) st (answerExpired ctx now expired st) := by
  induction expired generalizing st with
  | nil => exact .refl st.net
  | cons pending rest ih => exact (sendEnvelope_tells encodes rfl).append ih

theorem notifyForcedTermination_tells {session} (accepted : session.2.sessionAccepted = true) :
    Tells ctx (idleNotices st.registry session) st
      (st.notifyForcedTermination ctx now session.1 session.2 "idle timeout") := by
  have told : st.notifyRequester ctx now session.2 "idle timeout" = st.sendEnvelope ctx now
      session.2.requesterWriteTx { payload := some (.actionStreamAbort
        { actionId := session.2.originalActionId, reason := "idle timeout" }) } := by
    simp only [notifyRequester, accepted, if_true]
  have same : (st.notifyRequester ctx now session.2 "idle timeout").registry = st.registry := by
    rw [told]
    exact trySendEnvelope_registry ctx now st _ _
  simp only [notifyForcedTermination, same, idleNotices]
  rw [told]
  cases st.registry.get session.2.providerId with
  | none => exact sendEnvelope_tells encodes rfl
  | some provider => exact (sendEnvelope_tells encodes rfl).append (sendEnvelope_tells encodes rfl)

theorem endIdle_tells (idle : List (String × PendingAction))
    (accepted : ∀ session ∈ idle, session.2.sessionAccepted = true) :
    Tells ctx (idle.flatMap (idleNotices st.registry)) st (endIdle ctx now idle st) := by
  induction idle generalizing st with
  | nil => exact .refl st.net
  | cons session rest ih =>
    have told : Tells ctx (idleNotices st.registry session) st
        (st.notifyForcedTermination ctx now session.1 session.2 "idle timeout") :=
      notifyForcedTermination_tells encodes (accepted session List.mem_cons_self)
    have later := @ih (st.notifyForcedTermination ctx now session.1 session.2 "idle timeout")
      fun other member => accepted other (List.mem_cons_of_mem _ member)
    rw [notifyForcedTermination_registry] at later
    exact told.append later

theorem sweepExpired_exact :
    Tells ctx ((st.registry.pendingActions.toList.filter fun entry => overdue now.instant entry.2).map
      fun entry => timeoutNotice entry.2) st (st.sweepExpired ctx now) := by
  have answered : Tells ctx ((st.registry.sweepExpiredActions now.instant).2.map timeoutNotice)
      (st.setRegistry (st.registry.sweepExpiredActions now.instant).1) (st.sweepExpired ctx now) :=
    answerExpired_tells encodes _
  rw [expired_selected, List.map_map] at answered
  exact answered

end

theorem sweepIdleSessions_exact (registry : PluginRegistry) (now limit : Nat) :
    (registry.sweepIdleSessions now limit).2 =
        registry.pendingActions.toList.filter (fun entry => gone (some limit) now entry.2) ∧
      ∀ key, (registry.sweepIdleSessions now limit).1.getPendingAction key =
        (registry.getPendingAction key).filter fun pending => !gone (some limit) now pending := by
  simp only [gone, Option.any_some, ← Nat.lt_sub_iff_add_lt']
  exact ⟨takeEach_selected registry.pendingActions _, fun key => takeEach_filter _ key⟩

theorem endIdle_exact (encodes : ∀ envelope, ∃ bytes, ctx.wire.encode envelope = some bytes) (limit : Nat) :
    Tells ctx ((st.registry.pendingActions.toList.filter fun entry => gone (some limit) now.instant entry.2).flatMap
        (idleNotices st.registry)) st
      (endIdle ctx now (st.registry.sweepIdleSessions now.instant limit).2
        (st.setRegistry (st.registry.sweepIdleSessions now.instant limit).1)) := by
  obtain ⟨taken, _⟩ := sweepIdleSessions_exact st.registry now.instant limit
  have same : idleNotices st.registry = idleNotices (st.registry.sweepIdleSessions now.instant limit).1 :=
    idleNotices_congr rfl
  rw [← taken, same]
  refine @endIdle_tells _ ctx now (st.setRegistry (st.registry.sweepIdleSessions now.instant limit).1) encodes _ ?_
  intro session member
  rw [taken] at member
  have idle := (List.mem_filter.mp member).2
  simp only [gone, Bool.and_eq_true] at idle
  exact idle.1

def idleLimit (ctx : Context β) : Option Nat := ctx.sessionIdleTimeoutSecs.map fromSecs

theorem sweepIdle_eq (ctx : Context β) (now : Moment) (st : RouterState β) : st.sweepIdle ctx now =
    match idleLimit ctx with
    | none => st
    | some limit => endIdle ctx now (st.registry.sweepIdleSessions now.instant limit).2
        (st.setRegistry (st.registry.sweepIdleSessions now.instant limit).1) := by
  simp only [sweepIdle, idleLimit]
  cases ctx.sessionIdleTimeoutSecs with
  | none => rfl
  | some idleSecs => rfl

theorem sweepIdle_exact (encodes : ∀ envelope, ∃ bytes, ctx.wire.encode envelope = some bytes) :
    Tells ctx ((st.registry.pendingActions.toList.filter fun entry => gone (idleLimit ctx) now.instant entry.2).flatMap
        (idleNotices st.registry)) st (st.sweepIdle ctx now) ∧
      ∀ key, (st.sweepIdle ctx now).registry.getPendingAction key =
        (st.registry.getPendingAction key).filter fun pending => !gone (idleLimit ctx) now.instant pending := by
  rw [sweepIdle_eq]
  cases idleLimit ctx with
  | none =>
    have none : ∀ pending, gone none now.instant pending = false := by simp [gone]
    simp only [none, List.filter_false, Bool.not_false]
    refine ⟨.refl st.net, fun key => ?_⟩
    cases st.registry.getPendingAction key <;> rfl
  | some limit =>
    refine ⟨endIdle_exact encodes limit, fun key => ?_⟩
    have same : (endIdle ctx now (st.registry.sweepIdleSessions now.instant limit).2
        (st.setRegistry (st.registry.sweepIdleSessions now.instant limit).1)).registry =
        (st.registry.sweepIdleSessions now.instant limit).1 := endIdle_talk.registry
    dsimp only
    rw [same]
    exact (sweepIdleSessions_exact st.registry now.instant limit).2 key

theorem pruneTick_exact (encodes : ∀ envelope, ∃ bytes, ctx.wire.encode envelope = some bytes) :
    Tells ctx (tickNotices (idleLimit ctx) now.instant st.registry) st (st.pruneTick ctx now) ∧
      ∀ key, (st.pruneTick ctx now).registry.getPendingAction key = (st.registry.getPendingAction key).filter
        fun pending => !(overdue now.instant pending || gone (idleLimit ctx) now.instant pending) := by
  have swept : (st.sweepExpired ctx now).registry = { st.registry with
      pendingActions := (takeEach st.registry.pendingActions
        ((st.registry.pendingActions.toList.filter fun entry => overdue now.instant entry.2).map Prod.fst)).1 } :=
    (sweepExpired_talk ctx now st).registry
  obtain ⟨told, kept⟩ := @sweepIdle_exact _ ctx now (st.sweepExpired ctx now) encodes
  refine ⟨?_, ?_⟩
  · apply (sweepExpired_exact encodes).append
    have same : idleNotices (st.sweepExpired ctx now).registry = idleNotices st.registry :=
      idleNotices_congr (by rw [swept])
    have listed : ((st.sweepExpired ctx now).registry.pendingActions.toList.filter fun entry =>
        gone (idleLimit ctx) now.instant entry.2) =
        st.registry.pendingActions.toList.filter fun entry => gone (idleLimit ctx) now.instant entry.2 := by
      rw [swept]
      apply takeEach_filter_list
      intro key member pending stored
      obtain ⟨⟨name, other⟩, chosen, rfl⟩ := List.mem_map.mp member
      obtain ⟨listed, late⟩ := List.mem_filter.mp chosen
      obtain rfl : other = pending := Option.some.inj (((mem_toList _ _ _).mp listed).symm.trans stored)
      by_contra idle
      simp only [Bool.not_eq_false] at idle
      rw [not_overdue_of_gone _ _ idle] at late
      cases late
    rw [← same, ← listed]
    exact told
  · intro key
    have first : (st.sweepExpired ctx now).registry.getPendingAction key =
        (st.registry.getPendingAction key).filter fun pending => !overdue now.instant pending := by
      rw [swept]
      exact takeEach_filter _ key
    show ((st.sweepExpired ctx now).sweepIdle ctx now).registry.getPendingAction key = _
    rw [kept, first, Option.filter_filter]
    congr 1
    funext pending
    simp [Bool.and_comm]

end Tick

section Runs
variable {β : Type} {ctx : Context β} {kernel next : Kernel β} {action : Action β}
  {pendingActions : DashMap String PendingAction}

def AcceptedStream (pendingActions : DashMap String PendingAction) : Prop :=
  ∀ key pending, pendingActions.get key = some pending → pending.sessionAccepted = true → pending.streaming = true

section
variable (streams : AcceptedStream pendingActions)
include streams

theorem AcceptedStream.update (key : String) (now : Nat) :
    AcceptedStream (pendingActions.update key (Turn.touch now)) := by
  intro other pending stored accepted
  rw [get_update] at stored
  split at stored
  · obtain ⟨before, found, rfl⟩ := Option.map_eq_some_iff.mp stored
    exact streams other before found accepted
  · exact streams other pending stored accepted

theorem AcceptedStream.erase (key : String) : AcceptedStream (pendingActions.erase key) :=
  fun other pending stored => streams other pending (get_erase_eq_some.mp stored).2

theorem AcceptedStream.insert {pending} (key : String)
    (own : pending.sessionAccepted = true → pending.streaming = true) :
    AcceptedStream (pendingActions.insert key pending) := by
  intro other stored found
  rw [get_insert] at found
  split at found
  · cases found
    exact own
  · exact streams other stored found

theorem AcceptedStream.turn {turn : Turn} (fits : turn.Fits pendingActions) (now : Nat) :
    AcceptedStream (turn.table now pendingActions) := by
  cases turn with
  | idle | denied => exact streams
  | routed key pending | called key pending =>
    refine streams.insert key fun accepted => ?_
    have waiting : pending.sessionAccepted = false := fits
    rw [waiting] at accepted
    cases accepted
  | answered key pending response =>
    simp only [Turn.table]
    split
    next accepting =>
      simp only [Turn.accepts, Bool.and_eq_true] at accepting
      exact streams.insert key fun _ => accepting.2
    · exact streams.erase key
  | requested key _ _ queued | replied key _ _ queued =>
    cases queued with
    | none => exact (streams.update key now).erase key
    | some => exact streams.update key now
  | closed key => exact streams.erase key

end

theorem AcceptedStream.step (step : kernel.step ctx action = some next)
    (streams : AcceptedStream kernel.router.registry.pendingActions) :
    AcceptedStream next.router.registry.pendingActions := by
  cases step_pending step with
  | routed head router =>
    rw [router, routeMessage_table]
    exact streams.turn (turn_fits ctx _ _ kernel.router).1 _
  | @pruned now router =>
    rw [router]
    exact fun key pending stored => streams key pending
      ((pruneTick_swept ctx now kernel.router).fewer key pending stored)
  | other _ _ pending =>
    rw [pending]
    exact streams

end Runs

/-- In every table that is reached, accepted sessions stream. A tick that finds room
removes the actions that nobody has answered in time and the sessions that have gone
quiet, and nothing else. The requester of each such action gets one response, under the
id it knows; both sides of each such session get one notice of its end, and nobody gets
anything else. -/
theorem prune_tick_exact {β : Type} (ctx : Context β) (start final : Kernel β)
    (encodes : ∀ envelope, ∃ bytes, ctx.wire.encode envelope = some bytes)
    (boot : start.router.registry.pendingActions = ∅) (run : Run (Kernel.step ctx) unguarded start final) :
    (∀ key pending, final.router.registry.getPendingAction key = some pending → pending.sessionAccepted = true →
      pending.streaming = true) ∧
    ∀ now next, final.step ctx (.prune now) = some next →
      (∀ tx, Mailboxes.Fits writeCapacity (tickNotices (idleLimit ctx) now.instant final.router.registry)
        final.router.net tx) →
      (∀ key, next.router.registry.getPendingAction key = (final.router.registry.getPendingAction key).filter
        fun pending => !(overdue now.instant pending || gone (idleLimit ctx) now.instant pending)) ∧
      ∀ tx, (Mailboxes.added final.router.net next.router.net tx).map (payloadIn ctx.wire) =
        (Mailboxes.wordsTo (tickNotices (idleLimit ctx) now.instant final.router.registry) tx).map some := by
  have initial : AcceptedStream start.router.registry.pendingActions := by
    rw [boot]
    intro key pending stored
    cases stored
  have streams : AcceptedStream final.router.registry.pendingActions :=
    @Run.preserves _ _ _ _ _ _ (fun kernel : Kernel β => AcceptedStream kernel.router.registry.pendingActions) run
      initial fun _ _ _ _ => AcceptedStream.step
  refine ⟨streams, ?_⟩
  intro now next step room
  cases step
  obtain ⟨told, kept⟩ := @pruneTick_exact _ ctx now final.router encodes
  exact ⟨kept, fun tx => told.added (room tx)⟩

section Quiet
open Scenario

def hasty : Context Packet := { context with sessionIdleTimeoutSecs := some 1 }

def lateMoment : Moment := { instant := 2000000000 }

def asksShow (actionId : String) (streaming : Bool) (timeoutMs : Nat) : List (Action Packet) := [
  .receive (sends 1 "kernel" (.actionRequest { actionId, action := "show", streaming, timeoutMs })), .route start]

/-- `tv` accepts the second of three requests of `notes` and then falls silent. -/
def silentTv : List (Action Packet) := [
  .accept 1 .uds, .receive (hello 1 "notes"), .route start,
  .accept 2 .uds, .receive (sends 2 "kernel" (.pluginRegister
    { pluginId := "tv", manifest := some { actions := ["show"] } })), .route start] ++
  asksShow "first" false 1 ++ asksShow "second" true 1 ++ asksShow "third" false 60000 ++
  [.receive (sends 2 "kernel" (.actionResponse { actionId := "kact-1", status := .ok })), .route start]

def silentEnd : Kernel Packet := (exec (Kernel.step hasty) unguarded {} silentTv).get (by decide +kernel)

def prunedEnd : Kernel Packet := (silentEnd.step hasty (.prune lateMoment)).get (by decide +kernel)

theorem prune_tick_exact_tv :
    prunedEnd.router.registry.getPendingAction "kact-0" = none ∧
      prunedEnd.router.registry.getPendingAction "kact-1" = none ∧
      prunedEnd.router.registry.getPendingAction "kact-2" = silentEnd.router.registry.getPendingAction "kact-2" ∧
      (silentEnd.router.registry.getPendingAction "kact-2").isSome = true ∧
      (Mailboxes.added silentEnd.router.net prunedEnd.router.net { conn := 1 }).map (payloadIn Packet.wire) = [
        some (.actionResponse { actionId := "first", status := .timeout, error := "action timed out" }),
        some (.actionStreamAbort { actionId := "second", reason := "idle timeout" })] ∧
      (Mailboxes.added silentEnd.router.net prunedEnd.router.net { conn := 2 }).map (payloadIn Packet.wire) = [
        some (.actionStreamAbort { actionId := "kact-1", reason := "idle timeout" })] := by
  have run : Run (Kernel.step hasty) unguarded {} silentEnd := exec_get_run (by decide +kernel)
  obtain ⟨kept, told⟩ := (prune_tick_exact hasty {} silentEnd (fun envelope => ⟨_, rfl⟩) rfl run).2 lateMoment prunedEnd
    (Option.some_get _).symm (Mailboxes.fits_of_mem (by decide +kernel))
  exact ⟨(kept "kact-0").trans (by decide +kernel), (kept "kact-1").trans (by decide +kernel),
    (kept "kact-2").trans (by decide +kernel), by decide +kernel, (told { conn := 1 }).trans (by decide +kernel),
    (told { conn := 2 }).trans (by decide +kernel)⟩

end Quiet
end Vynkor.Proofs
