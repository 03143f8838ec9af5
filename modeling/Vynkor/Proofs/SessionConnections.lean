import Vynkor.Proofs.ResponseLedger
import Vynkor.Proofs.StreamChunks
import Vynkor.Proofs.Unregistered

/-! Who may feed or close a session. A requester names a session by its own id and
the id it chose for the request, not by the connection it is on; the two agree as
long as nobody registers under the name of a requester that still waits. -/

namespace Vynkor.Proofs
open DashMap Execution RouterState
variable {β : Type} {ctx : Context β}

section Matching
variable (ctx : Context β) (now : Moment) (msg : IncomingMessage β) (st : RouterState β)

def requesterMatchOf (sender : PluginEntry) : Payload → Option (String × PendingAction)
  | .actionRequestChunk chunk => st.findRequested sender.pluginId chunk.actionId
  | .sessionClose close =>
    match st.findSession sender.pluginId close.actionId with
    | some (key, pending, false) => some (key, pending)
    | _ => none
  | _ => none

/-- The entry to which the router matches a chunk or a close of the requester. -/
def requesterMatch : Option (String × PendingAction) :=
  if admits ctx now msg st && ctx.wire.targetAsStr msg.frame.target == some "kernel" then
    match st.registry.getByConnId msg.connId, payloadIn ctx.wire (.frame msg.frame) with
    | some sender, some payload => requesterMatchOf st sender payload
    | _, _ => none
  else none

end Matching

section Requester
variable {now : Moment} {msg : IncomingMessage β} {st : RouterState β} {key : String} {pending : PendingAction}

theorem requesterMatchOf_found {sender payload} (matched : requesterMatchOf st sender payload = some (key, pending)) :
    st.registry.getPendingAction key = some pending ∧ pending.requesterId = sender.pluginId := by
  cases payload with
  | actionRequestChunk chunk =>
    obtain ⟨found, own, _⟩ := findRequested_some matched
    exact ⟨found, own⟩
  | sessionClose close =>
    simp only [requesterMatchOf, findSession] at matched
    cases provided : st.findProvided sender.pluginId close.actionId with
    | some entry => simp [provided] at matched
    | none =>
      cases requested : st.findRequested sender.pluginId close.actionId with
      | none => simp [provided, requested] at matched
      | some session =>
        obtain ⟨internalId, entry⟩ := session
        simp only [provided, requested, Option.map_some] at matched
        cases matched
        obtain ⟨found, own, _⟩ := findRequested_some requested
        exact ⟨found, own⟩
  | _ => cases matched

theorem requesterMatch_found (matched : requesterMatch ctx now msg st = some (key, pending)) :
    ∃ sender, st.registry.getByConnId msg.connId = some sender ∧ st.registry.getPendingAction key = some pending ∧
      pending.requesterId = sender.pluginId := by
  simp only [requesterMatch] at matched
  split at matched
  · split at matched
    next sender payload known _ => exact ⟨sender, known, requesterMatchOf_found matched⟩
    · cases matched
  · cases matched

end Requester

section Linked
variable {kernel next : Kernel β} {action : Action β} {pending : PendingAction} {entry : PluginEntry}

def Linked (registry : PluginRegistry) : Prop :=
  ∀ key pending entry, registry.getPendingAction key = some pending → registry.get pending.requesterId = some entry →
    pending.requesterWriteTx.conn = entry.connId

def awaitsNothing (registry : PluginRegistry) (pluginId : String) : Bool :=
  registry.pendingActions.values.all fun pending => pending.requesterId != pluginId

def adds (ctx : Context β) (kernel : Kernel β) : Action β → Option String
  | .route now => kernel.incoming.head?.bind fun msg =>
      (registers ctx now msg kernel.router).map fun register => register.pluginId
  | .bridgeUp deviceId _ _ => some deviceId
  | _ => none

/-- No plugin registers under an id that a pending action has as its requester. -/
def registersFresh (ctx : Context β) (state : Kernel β × Ledger) (action : Action β) : Bool :=
  (adds ctx state.1 action).all (awaitsNothing state.1.router.registry)

theorem awaitsNothing_apart {registry pluginId key}
    (idle : awaitsNothing registry pluginId = true) (found : registry.getPendingAction key = some pending) :
    pending.requesterId ≠ pluginId := by
  simp only [awaitsNothing, List.all_eq_true, bne_iff_ne] at idle
  exact idle pending ((mem_values _ _).mpr ⟨key, found⟩)

theorem adds_origin (took : kernel.step ctx action = some next) {id}
    (found : next.router.registry.get id = some entry) :
    kernel.router.registry.get id = some entry ∨ adds ctx kernel action = some id := by
  by_cases routes : ∃ now, action = .route now
  · obtain ⟨now, rfl⟩ := routes
    obtain ⟨msg, rest, head, rfl⟩ := route_some took
    simp only [adds, head, List.head?_cons, Option.bind_some]
    cases accepted : registers ctx now msg kernel.router with
    | none =>
      rw [routeMessage_entries accepted] at found
      exact .inl found
    | some register =>
      obtain ⟨added, _, named, inserted⟩ := routeMessage_joined accepted
      rcases inserted.found found with old | ⟨same, _⟩
      · exact .inl old
      · rw [same, named]
        exact .inr rfl
  · have step := step_registry took
    generalize next.router.registry = registry at found step
    cases step with
    | same => exact .inl found
    | swept swept =>
      rw [swept.rest] at found
      exact .inl found
    | routed mine => exact absurd ⟨_, mine⟩ routes
    | removed => exact .inl (get_of_unregister found)
    | bridged mine own inserted =>
      rcases inserted.found found with old | ⟨same, _⟩
      · exact .inl old
      · rw [same, own.2, mine]
        exact .inr rfl

theorem opened_linked {now msg st key} (opened : (turn ctx now msg st).opens key = true)
    (found : (st.routeMessage ctx now msg).1.registry.getPendingAction key = some pending)
    (listed : (st.routeMessage ctx now msg).1.registry.get pending.requesterId = some entry) :
    pending.requesterWriteTx.conn = entry.connId := by
  obtain ⟨sender, provider, request, known, same⟩ := turn_opens ctx now msg st opened
  obtain ⟨present, sameConn⟩ := PluginRegistry.getByConnId_eq_some.mp known
  have mine : pending.requesterId = sender.pluginId ∧ pending.requesterWriteTx = msg.writeTx := by
    rw [PluginRegistry.getPendingAction, routeMessage_table] at found
    rcases same with called | ⟨_, routed⟩
    · rw [called, Turn.table, get_insert_self] at found
      cases found
      exact ⟨rfl, rfl⟩
    · rw [routed, Turn.table, get_insert_self] at found
      cases found
      exact ⟨rfl, rfl⟩
  have kept := (routeMessage_routed ctx now msg st).registry.keeps (by rw [checkIpcRate_registry]; exact present)
  rw [mine.1, kept] at listed
  cases listed
  rw [mine.2, msg.owned, sameConn]

theorem linked_step (took : kernel.step ctx action = some next)
    (fresh : (adds ctx kernel action).all (awaitsNothing kernel.router.registry) = true)
    (linked : Linked kernel.router.registry) : Linked next.router.registry := by
  intro key pending entry found listed
  by_cases opened : ∃ now msg rest, action = .route now ∧ kernel.incoming = msg :: rest ∧
      (turn ctx now msg kernel.router).opens key = true
  · obtain ⟨now, msg, rest, rfl, head, opened⟩ := opened
    obtain ⟨first, others, sameHead, rfl⟩ := route_some took
    rw [head] at sameHead
    cases sameHead
    exact opened_linked opened found listed
  · have elsewhere : ∀ now msg rest, action = .route now → kernel.incoming = msg :: rest →
        (turn ctx now msg kernel.router).opens key = false := by
      intro now msg rest mine head
      cases opens : (turn ctx now msg kernel.router).opens key with
      | false => rfl
      | true => exact absurd ⟨now, msg, rest, mine, head, opens⟩ opened
    obtain ⟨before, stored, same⟩ := parties_step took elsewhere found
    rw [same.requesterId] at listed
    rw [same.requesterWriteTx]
    rcases adds_origin took listed with old | added
    · exact linked key before entry stored old
    · rw [added, Option.all_some] at fresh
      exact absurd rfl (awaitsNothing_apart fresh stored)

/-- As long as no plugin registers under the id of a requester that still waits,
a chunk or a close of the requesting side is matched to a request of the same
connection. -/
theorem session_fed_by_its_connection (ctx : Context β) (start : Kernel β) (state : Kernel β × Ledger)
    (boot : start.router.registry.pendingActions = ∅)
    (run : Run (Ledger.step ctx) (registersFresh ctx) (start, {}) state) (now : Moment) (msg : IncomingMessage β)
    (key : String) (pending : PendingAction) (matched : requesterMatch ctx now msg state.1.router = some (key, pending)) :
    ∃ number ticket, state.2.holder.get key = some number ∧ state.2.tickets[number]? = some ticket ∧
      ticket.tx.conn = msg.connId := by
  have balanced : Balanced false state := balanced_run boot nofun run
  have linked : Linked state.1.router.registry := by
    have initial : Linked start.router.registry := by
      intro key pending entry found
      rw [PluginRegistry.getPendingAction, boot, get_empty] at found
      cases found
    apply run.preserves initial
    intro current action next allowed took linked
    obtain ⟨kernel, moved, rfl⟩ := Option.map_eq_some_iff.mp took
    exact linked_step moved allowed linked
  obtain ⟨sender, known, found, own⟩ := requesterMatch_found matched
  obtain ⟨present, sameConn⟩ := PluginRegistry.getByConnId_eq_some.mp known
  obtain ⟨number, holds, filed, _⟩ := balanced.held key pending found
  refine ⟨number, ticketOf pending, holds, filed, ?_⟩
  rw [← sameConn]
  exact linked key pending sender found (own ▸ present)

end Linked

section Returning
open Scenario Ledger

def notesReturns : List (Action Packet) := [
  .hangup 1, .take .uds, .publishLeft .uds start, .unsubscribe .uds, .unregister .uds,
  .accept 3 .uds, .receive (hello 3 "notes"), .route start]

def chunkA (conn : Nat) : IncomingMessage Packet :=
  sends conn "kernel" (.actionRequestChunk { actionId := "a", seq := 0, chunk := [7], final := false })

def closeA (conn : Nat) : IncomingMessage Packet := sends conn "kernel" (.sessionClose { actionId := "a", reason := "" })

def sessionOpen : Kernel Packet × Ledger :=
  (exec (Ledger.step context) (registersFresh context) ({}, {}) (asked true ++ tvAnswers .ok)).get (by decide +kernel)

theorem session_fed_by_its_connection_chunk : ∃ number ticket, sessionOpen.2.holder.get "kact-0" = some number ∧
    sessionOpen.2.tickets[number]? = some ticket ∧ ticket.tx.conn = 1 := by
  have matched : requesterMatch context start (chunkA 1) sessionOpen.1.router = some _ :=
    (Option.some_get (by decide +kernel)).symm
  exact session_fed_by_its_connection context {} sessionOpen rfl (exec_get_run (by decide +kernel)) start (chunkA 1)
    "kact-0" _ matched

def sessionKept : Kernel Packet × Ledger :=
  (exec (Ledger.step context) unguarded ({}, {}) (asked true ++ tvAnswers .ok ++ notesReturns)).get (by decide +kernel)

/-- On its new connection `notes` can feed and close the session that it opened on
the old one. -/
theorem returned_requester_feeds_session :
    Run (Ledger.step context) unguarded ({}, {}) sessionKept ∧
      sessionKept.2.holder.get "kact-0" = some 0 ∧ sessionKept.2.tickets = [⟨{ conn := 1 }, "a", true⟩] ∧
      (requesterMatch context start (chunkA 3) sessionKept.1.router).map Prod.fst = some "kact-0" ∧
      (requesterMatch context start (closeA 3) sessionKept.1.router).map Prod.fst = some "kact-0" ∧
      ((routed sessionKept.1.router (closeA 3)).registry.getPendingAction "kact-0").isNone :=
  ⟨exec_get_run (by decide +kernel), by decide +kernel, by decide +kernel, by decide +kernel, by decide +kernel,
    by decide +kernel⟩

end Returning
end Vynkor.Proofs
