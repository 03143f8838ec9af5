import Vynkor.Proofs.PendingTurns
import Vynkor.Scenario

/-! Who owns a pending action. Both the kernel's own ids and the ids that callers
of a capability choose are keys of one table, and opening an action under a key
replaces whatever was pending there. -/

namespace Vynkor.Proofs
open DashMap Execution RouterState
variable {β : Type} {ctx : Context β} {moment : Moment} {msg : IncomingMessage β} {st : RouterState β}
  {key : String} {pending : PendingAction}

structure SameParties (before after : PendingAction) : Prop where
  requesterWriteTx : after.requesterWriteTx = before.requesterWriteTx
  requesterId : after.requesterId = before.requesterId
  providerId : after.providerId = before.providerId
  originalActionId : after.originalActionId = before.originalActionId

theorem SameParties.refl (pending : PendingAction) : SameParties pending pending := ⟨rfl, rfl, rfl, rfl⟩

theorem SameParties.trans {first middle last} (one : SameParties first middle)
    (two : SameParties middle last) : SameParties first last :=
  ⟨two.requesterWriteTx.trans one.requesterWriteTx, two.requesterId.trans one.requesterId,
    two.providerId.trans one.providerId, two.originalActionId.trans one.originalActionId⟩

section Opening
variable (ctx : Context β) (moment : Moment) (msg : IncomingMessage β) (st : RouterState β)

def opensRouted : Option String :=
  match st.registry.getByConnId msg.connId, requestIn ctx.wire (.frame msg.frame) with
  | some sender, some request =>
    if (st.routeAction ctx moment sender.pluginId request.action).2.isOk then some st.internalActionId else none
  | _, _ => none

def opensDirect (target : String) : Option String :=
  if (authorizeForward st.registry msg target).isOk && (st.registry.getMux target).isSome && Text.contains target '.' then
    (directRequest ctx.wire msg.frame).map fun request => request.actionId
  else none

/-- The key under which routing the message opens a pending action, if it opens one. -/
def opens : Option String :=
  if admits ctx moment msg st then
    match ctx.wire.targetAsStr msg.frame.target with
    | none => none
    | some target =>
      if target = "kernel" then opensRouted ctx moment msg (st.checkIpcRate ctx moment msg).1
      else if target = "*" then none
      else opensDirect ctx msg (st.checkIpcRate ctx moment msg).1 target
  else none

end Opening

section Single
variable {sender : PluginEntry} {now : Nat} {pendingActions : DashMap String PendingAction}

theorem Meant.opens {payload turn} (meant : Meant ctx moment msg st sender payload turn)
    (opened : turn.opens key = true) : ∃ request, payload = .actionRequest request := by
  cases meant with
  | routed => exact ⟨_, rfl⟩
  | _ => cases opened

theorem opensRouted_iff :
    opensRouted ctx moment msg st = some key ↔ (kernelTurn ctx moment msg st).opens key = true := by
  cases decoded : ctx.wire.decode msg.frame.payload with
  | none => simp [opensRouted, kernelTurn, requestIn, payloadIn, decoded, Turn.opens]
  | some envelope =>
    cases registered : st.registry.getByConnId msg.connId with
    | none => simp [opensRouted, kernelTurn, decoded, registered, Turn.opens]
    | some sender =>
      cases holds : envelope.payload with
      | none => simp [opensRouted, kernelTurn, requestIn, payloadIn, decoded, registered, holds, Turn.opens]
      | some payload =>
        have asked : requestIn ctx.wire (.frame msg.frame) = payload.actionRequest? := by
          simp [requestIn, payloadIn, decoded, holds]
        simp only [opensRouted, kernelTurn, decoded, registered, holds, asked]
        cases payload with
        | actionRequest request =>
          simp only [Payload.actionRequest?, payloadTurn]
          cases (st.routeAction ctx moment sender.pluginId request.action).2 with
          | ok provider => simp [Turn.opens, Except.isOk, Except.toBool]
          | error status => simp [Turn.opens, Except.isOk, Except.toBool]
        | _ =>
          refine iff_of_false (by simp [Payload.actionRequest?]) fun opened => ?_
          obtain ⟨_, same⟩ := (payloadTurn_meant sender _).opens opened
          cases same

theorem opensDirect_iff {target} :
    opensDirect ctx msg st target = some key ↔ (peerTurn ctx moment msg st target).opens key = true := by
  simp only [opensDirect, peerTurn]
  cases authorizeForward st.registry msg target with
  | error denial => simp [Turn.opens, Except.isOk, Except.toBool]
  | ok sender =>
    cases st.registry.getMux target with
    | none => simp [Turn.opens]
    | some provider =>
      cases directRequest ctx.wire msg.frame with
      | none => simp [Turn.opens]
      | some request =>
        cases Text.contains target '.' with
        | false => simp [Turn.opens]
        | true => simp [Turn.opens, Except.isOk, Except.toBool]

theorem opens_iff : opens ctx moment msg st = some key ↔ (turn ctx moment msg st).opens key = true := by
  cases passes : admits ctx moment msg st with
  | false => simp [opens, turn, passes, Turn.opens]
  | true =>
    cases addressed : ctx.wire.targetAsStr msg.frame.target with
    | none => simp [opens, turn, passes, addressed, Turn.opens]
    | some target =>
      simp only [opens, turn, passes, addressed, if_true]
      by_cases toKernel : target = "kernel"
      · simp only [toKernel, if_true]
        exact opensRouted_iff
      · by_cases toAll : target = "*"
        · simp [toAll, Turn.opens]
        · simp only [toKernel, toAll, if_false]
          exact opensDirect_iff

def Turn.concerns (key : String) : Turn → Bool
  | .answered other _ _ | .requested other _ _ _ | .replied other _ _ _ | .closed other _ => other == key
  | _ => false

theorem Turn.table_aside {turn : Turn} (elsewhere : turn.opens key = false) (aside : turn.concerns key = false) :
    (turn.table now pendingActions).get key = pendingActions.get key := by
  cases turn with
  | idle | denied => rfl
  | routed other entry | called other entry =>
    have apart : key ≠ other := (ne_of_beq_false elsewhere).symm
    simp [Turn.table, get_insert, apart]
  | answered other entry response =>
    have apart : key ≠ other := (ne_of_beq_false aside).symm
    simp only [Turn.table]
    split
    · simp [get_insert, apart]
    · simp [get_erase, apart]
  | requested other entry chunk queued | replied other entry chunk queued =>
    have apart : key ≠ other := (ne_of_beq_false aside).symm
    cases queued with
    | none => simp [Turn.table, get_erase, get_update, apart]
    | some tx => simp [Turn.table, get_update, apart]
  | closed other entry =>
    have apart : key ≠ other := (ne_of_beq_false aside).symm
    simp [Turn.table, get_erase, apart]

theorem turn_involved (concerned : (turn ctx moment msg st).concerns key = true) :
    ∃ sender pending, st.registry.getByConnId msg.connId = some sender ∧
      st.registry.getPendingAction key = some pending ∧
      (pending.requesterId = sender.pluginId ∨ pending.providerId = sender.pluginId) := by
  rcases turn_origin ctx moment msg st with idle | ⟨_, _, _, _, called⟩ | ⟨sender, payload, _, known, meant⟩
  · rw [idle] at concerned
    cases concerned
  · rw [called] at concerned
    cases concerned
  · rw [← checkIpcRate_registry ctx moment msg st] at known ⊢
    generalize turn ctx moment msg st = turn at meant concerned
    cases meant with
    | answered found own | replied found own =>
      rw [← eq_of_beq concerned]
      exact ⟨sender, _, known, found, .inr own⟩
    | requested found own =>
      rw [← eq_of_beq concerned]
      exact ⟨sender, _, known, found, .inl own⟩
    | closed found _ party =>
      rw [← eq_of_beq concerned]
      exact ⟨sender, _, known, found, party⟩
    | _ => cases concerned

/-- A third plugin leaves a pending action as it is, unless it opens one of its
own under the same key. -/
theorem parties_kept_iff (found : st.registry.getPendingAction key = some pending)
    (registered : st.registry.getByConnId msg.connId = some sender)
    (notRequester : sender.pluginId ≠ pending.requesterId) (notProvider : sender.pluginId ≠ pending.providerId) :
    (∃ now, (st.routeMessage ctx moment msg).1.registry.getPendingAction key = some now ∧ SameParties pending now) ↔
      opens ctx moment msg st ≠ some key := by
  rw [PluginRegistry.getPendingAction, routeMessage_table, ne_eq, opens_iff]
  constructor
  · intro kept opened
    obtain ⟨now, stored, same⟩ := kept
    obtain ⟨other, provider, request, known, cause⟩ := turn_opens ctx moment msg st opened
    cases registered.symm.trans known
    have mine : now.requesterId = sender.pluginId := by
      rcases cause with called | ⟨_, routed⟩
      · rw [called, Turn.table, get_insert_self] at stored
        cases stored
        rfl
      · rw [routed, Turn.table, get_insert_self] at stored
        cases stored
        rfl
    exact notRequester (mine.symm.trans same.requesterId)
  · intro notOpened
    have elsewhere := Bool.eq_false_iff.mpr notOpened
    cases aside : (turn ctx moment msg st).concerns key with
    | false => exact ⟨pending, (Turn.table_aside elsewhere aside).trans found, .refl pending⟩
    | true =>
      obtain ⟨other, held, known, stored, side⟩ := turn_involved aside
      cases registered.symm.trans known
      cases found.symm.trans stored
      exact side.elim (fun requester => absurd requester.symm notRequester)
        fun provider => absurd provider.symm notProvider

end Single

def answers : Payload → Option String
  | .actionResponse response => some response.actionId
  | .actionResponseChunk chunk => some chunk.actionId
  | _ => none

theorem routeMessage_answers {payload answer key tx other item}
    (arrived : ToKernel ctx msg payload) (answering : answers payload = some key)
    (owner : ∀ pending, st.registry.getPendingAction key = some pending → pending.requesterWriteTx = tx)
    (added : item ∈ Mailboxes.added st.net (st.routeMessage ctx moment msg).1.net other)
    (carries : payloadIn ctx.wire item = some answer) (answered : (answers answer).isSome = true) : other = tx := by
  have enacts := routeMessage_enacts ctx moment msg st fun target addressed =>
    Option.some.inj (addressed.symm.trans arrived.1)
  have spoken : (speechIn ctx.wire item).isSome = true := by
    rw [speechIn, carries]
    cases answer with
    | actionResponse | actionResponseChunk => rfl
    | _ => cases answered
  obtain ⟨word, speaks⟩ := Option.isSome_iff_exists.mp spoken
  have listed := (enacts.shows.added other).subset (List.mem_filterMap.mpr ⟨item, added, speaks⟩)
  obtain ⟨entry, member, _⟩ := List.mem_map.mp listed
  obtain ⟨said, mine⟩ := List.mem_filter.mp member
  rw [← of_decide_eq_true mine]
  rcases turn_origin ctx moment msg st with idle | ⟨_, _, _, _, called⟩ | ⟨sender, read, alike, known, meant⟩
  · rw [idle] at said
    cases said
  · rw [called] at said
    cases said
  · obtain rfl := alike.unique arrived
    rw [← checkIpcRate_registry ctx moment msg st] at owner
    generalize turn ctx moment msg st = turn at meant said
    cases meant with
    | answered found =>
      cases answering
      rw [List.mem_singleton.mp said]
      exact owner _ found
    | @replied _ pending queued found _ aimed =>
      cases answering
      cases queued with
      | none =>
        simp only [Turn.said, Turn.lastWords] at said
        split at said
        · cases said
        · rw [List.mem_singleton.mp said]
          exact owner _ found
      | some channel =>
        rw [List.mem_singleton.mp said]
        exact (aimed channel rfl).symm.trans (owner _ found)
    | idle => cases said
    | _ => cases answering

section Ownership
variable {kernel next : Kernel β} {action : Action β}

def opensElsewhere (ctx : Context β) (key : String) (kernel : Kernel β) : Action β → Bool
  | .route moment => kernel.incoming.head?.all fun msg => opens ctx moment msg kernel.router != some key
  | _ => true

/-- Whatever is pending under the key has the parties of the given action. -/
def Owned (key : String) (pending : PendingAction) (kernel : Kernel β) : Prop :=
  ∀ now, kernel.router.registry.getPendingAction key = some now → SameParties pending now

theorem Turn.table_parties {now : Nat} {pendingActions : DashMap String PendingAction} {turn : Turn}
    (fits : turn.Fits pendingActions) (elsewhere : turn.opens key = false)
    (found : (turn.table now pendingActions).get key = some pending) :
    ∃ before, pendingActions.get key = some before ∧ SameParties before pending := by
  cases aside : turn.concerns key with
  | false => exact ⟨pending, (Turn.table_aside elsewhere aside).symm.trans found, .refl pending⟩
  | true =>
    cases turn with
    | answered other entry response =>
      obtain rfl := eq_of_beq aside
      simp only [Turn.table] at found
      split at found
      · rw [get_insert_self] at found
        cases found
        exact ⟨entry, fits, rfl, rfl, rfl, rfl⟩
      · cases (get_erase_self _ _).symm.trans found
    | requested other entry chunk queued | replied other entry chunk queued =>
      obtain rfl := eq_of_beq aside
      cases queued with
      | none => cases (get_erase_self _ _).symm.trans found
      | some tx =>
        simp only [Turn.table, get_update, if_true] at found
        obtain ⟨before, stored, rfl⟩ := Option.map_eq_some_iff.mp found
        exact ⟨before, stored, rfl, rfl, rfl, rfl⟩
    | closed other entry =>
      obtain rfl := eq_of_beq aside
      cases (get_erase_self _ _).symm.trans found
    | _ => cases aside

theorem parties_step (step : kernel.step ctx action = some next)
    (elsewhere : ∀ moment msg rest, action = .route moment → kernel.incoming = msg :: rest →
      (turn ctx moment msg kernel.router).opens key = false)
    {pending : PendingAction} (found : next.router.registry.getPendingAction key = some pending) :
    ∃ before, kernel.router.registry.getPendingAction key = some before ∧ SameParties before pending := by
  cases step_pending step with
  | @routed moment msg rest head router =>
    rw [PluginRegistry.getPendingAction, router, routeMessage_table] at found
    exact Turn.table_parties (turn_fits ctx moment msg kernel.router).1 (elsewhere moment msg rest rfl head) found
  | @pruned moment router =>
    rw [router] at found
    exact ⟨pending, (pruneTick_swept ctx moment kernel.router).fewer key pending found, .refl pending⟩
  | other _ _ same _ =>
    rw [PluginRegistry.getPendingAction, same] at found
    exact ⟨pending, found, .refl pending⟩

theorem owned_step (allowed : opensElsewhere ctx key kernel action = true)
    (step : kernel.step ctx action = some next) (valid : Owned key pending kernel) : Owned key pending next := by
  intro now stored
  obtain ⟨before, found, same⟩ := parties_step step (fun moment msg rest mine head => by
    subst mine
    simpa [opensElsewhere, head, opens_iff] using allowed) stored
  exact (valid before found).trans same

/-- A third plugin reassigns a pending action exactly by opening one under the
same key. As long as nobody does, the provider's answers reach the channel that
the request came from and no other. -/
theorem pending_ownership (ctx : Context β) :
    (∀ (st : RouterState β) moment msg sender key pending, st.registry.getPendingAction key = some pending →
      st.registry.getByConnId msg.connId = some sender → sender.pluginId ≠ pending.requesterId →
      sender.pluginId ≠ pending.providerId →
      ((∃ now, (st.routeMessage ctx moment msg).1.registry.getPendingAction key = some now ∧ SameParties pending now) ↔
        opens ctx moment msg st ≠ some key)) ∧
    ∀ (start kernel : Kernel β) moment msg payload key pending,
      start.router.registry.getPendingAction key = some pending →
      Run (Kernel.step ctx) (opensElsewhere ctx key) start kernel →
      ToKernel ctx msg payload → answers payload = some key →
      ∀ tx, ∀ item ∈ Mailboxes.added kernel.router.net (kernel.router.routeMessage ctx moment msg).1.net tx,
      ∀ answer, payloadIn ctx.wire item = some answer → (answers answer).isSome = true →
      tx = pending.requesterWriteTx := by
  constructor
  · intro st moment msg sender key pending found registered notRequester notProvider
    exact parties_kept_iff found registered notRequester notProvider
  · intro start kernel moment msg payload key pending found run arrived answering tx item added answer carries answered
    have boot : Owned key pending start := by
      intro now stored
      rw [found] at stored
      cases stored
      exact .refl pending
    have owned : Owned key pending kernel := run.preserves boot fun _ _ _ allowed step => owned_step allowed step
    exact routeMessage_answers arrived answering (fun now stored => (owned now stored).requesterWriteTx) added carries
      answered

end Ownership

section Collision
open Scenario

def screenCall (conn : Nat) (actionId : String) : IncomingMessage Packet :=
  sends conn "tv.screen" (.actionRequest { actionId, action := "" })

def caller (pluginId : String) : Payload :=
  .pluginRegister { pluginId, manifest := some { permissions := ["ipc_send"], ipcTargets := ["tv"] } }

/-- `notes` and `mail` may both call the device `tv`; `notes` does, under the id `x`. -/
def called : List (Action Packet) := [
  .accept 1 .uds, .receive (sends 1 "kernel" (caller "notes")), .route start,
  .accept 2 .uds, .receive (sends 2 "kernel" (caller "mail")), .route start,
  .accept 3 .ws, .receive (sends 3 "kernel" (.pluginRegister
    { pluginId := "tv", deviceId := "tv", capabilities := ["screen"] })), .route start,
  .receive (screenCall 1 "x"), .route start]

def calledEnd : Kernel Packet := (exec (Kernel.step context) unguarded {} called).get (by decide +kernel)

def pendingX : PendingAction := (calledEnd.router.registry.getPendingAction "x").get (by decide +kernel)

def mailEntry : PluginEntry := (calledEnd.router.registry.getByConnId 2).get (by decide +kernel)

def answerX : IncomingMessage Packet := sends 3 "kernel" (.actionResponse { actionId := "x", status := .ok })

def otherCall : Kernel Packet := (exec (Kernel.step context) (opensElsewhere context "x") calledEnd
  [.receive (screenCall 2 "y"), .route start]).get (by decide +kernel)

theorem pending_ownership_otherCall :
    (∃ now, (calledEnd.router.routeMessage context start (screenCall 2 "y")).1.registry.getPendingAction "x" = some now ∧
      SameParties pendingX now) ∧
    (Mailboxes.added otherCall.router.net (otherCall.router.routeMessage context start answerX).1.net
      { conn := 1 }).length = 1 ∧
    ∀ tx, ∀ item ∈ Mailboxes.added otherCall.router.net (otherCall.router.routeMessage context start answerX).1.net tx,
      ∀ answer, payloadIn Packet.wire item = some answer → (answers answer).isSome = true →
      tx = pendingX.requesterWriteTx := by
  have found : calledEnd.router.registry.getPendingAction "x" = some pendingX := (Option.some_get _).symm
  have registered : calledEnd.router.registry.getByConnId 2 = some mailEntry := (Option.some_get _).symm
  have run : Run (Kernel.step context) (opensElsewhere context "x") calledEnd otherCall := exec_get_run (by decide +kernel)
  have arrived : ToKernel context answerX (.actionResponse { actionId := "x", status := .ok }) :=
    ⟨by decide +kernel, _, rfl, rfl⟩
  refine ⟨?_, by decide +kernel, ?_⟩
  · exact ((pending_ownership context).1 calledEnd.router start (screenCall 2 "y") mailEntry "x" pendingX found registered
      (by decide +kernel) (by decide +kernel)).mpr (by decide +kernel)
  · exact (pending_ownership context).2 calledEnd otherCall start answerX _ "x" pendingX found run arrived rfl

/-- `mail` calls under the id `x` too: the action of `notes` now belongs to
`mail`, and so does the answer of `tv`. -/
theorem caller_takes_over_pending :
    Run (Kernel.step context) unguarded {} calledEnd ∧
    calledEnd.router.registry.getPendingAction "x" = some pendingX ∧ pendingX.requesterId = "notes" ∧
    pendingX.providerId = "tv" ∧ calledEnd.router.registry.getByConnId 2 = some mailEntry ∧ mailEntry.pluginId = "mail" ∧
    ((routed calledEnd.router (screenCall 2 "x")).registry.getPendingAction "x").map PendingAction.requesterId =
      some "mail" ∧
    (let taken := routed calledEnd.router (screenCall 2 "x")
     Mailboxes.added taken.net (routed taken answerX).net { conn := 1 } = [] ∧
     (Mailboxes.added taken.net (routed taken answerX).net { conn := 2 }).map (fun item =>
      (payloadIn Packet.wire item).bind answers) = [some "x"]) :=
  ⟨exec_get_run (by decide +kernel), (Option.some_get _).symm, by decide +kernel, by decide +kernel,
    (Option.some_get _).symm, by decide +kernel, by decide +kernel, by decide +kernel, by decide +kernel⟩

end Collision
end Vynkor.Proofs
