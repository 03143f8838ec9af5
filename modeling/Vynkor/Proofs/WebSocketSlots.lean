import Vynkor.Api.WebSocket

/-! The slots of the WebSocket gateway. The counter holds one for each request that has taken
a slot and not given it back; an upgrade that fails and a handler that panics never do. -/

namespace Vynkor.Proofs
open Api Execution
variable {gateway : WsGateway} {state next : WsState} {index : Nat} {action : WsAction}

section Counter
variable {count : Nat}

theorem wrappingAdd_one (count : Nat) : wrappingAdd (count % UInt64.size) 1 = (count + 1) % UInt64.size := by
  rw [wrappingAdd, Nat.mod_add_mod]

theorem wrappingSub_one (count : Nat) : wrappingSub ((count + 1) % UInt64.size) 1 = count % UInt64.size := by
  have wrapped : 1 + (UInt64.size - 1 % UInt64.size) = UInt64.size := by decide
  rw [wrappingSub, Nat.mod_add_mod, Nat.add_assoc, wrapped, Nat.add_mod_right]

theorem countP_set_add {α : Type} {counts : α → Bool} {items : List α} {index : Nat} {old : α} (new : α)
    (was : items[index]? = some old) :
    (items.set index new).countP counts + (if counts old then 1 else 0) =
      items.countP counts + if counts new then 1 else 0 := by
  obtain ⟨inside, rfl⟩ := List.getElem?_eq_some_iff.mp was
  have present : (if counts items[index] then 1 else 0) ≤ items.countP counts := by
    split
    next holds => exact List.countP_pos_iff.mpr ⟨_, List.getElem_mem inside, holds⟩
    · exact Nat.zero_le _
  rw [List.countP_set inside]
  omega

end Counter

def isConnection : WsRequest → Bool
  | .upgrading _ | .opened _ => true
  | _ => false

def isUndecided : WsRequest → Bool
  | .counted _ => true
  | _ => false

def isLost : WsRequest → Bool
  | .failed _ | .panicked _ => true
  | _ => false

def connections (state : WsState) : Nat := state.requests.countP isConnection

def undecided (state : WsState) : Nat := state.requests.countP isUndecided

/-- The gateway, with the increments and decrements each request has made. -/
structure WsAudit where
  state : WsState := {}
  taken : Nat → Nat := fun _ => 0
  released : Nat → Nat := fun _ => 0

def tally (counts : Nat → Nat) : Option Nat → Nat → Nat
  | none => counts
  | some index => Function.update counts index (counts index + 1)

def takes : WsAction → Option Nat
  | .reserve index => some index
  | _ => none

def releases (next : WsState) : WsAction → Option Nat
  | .decide index => if next.requests[index]? = some .tooMany then some index else none
  | .close index => some index
  | _ => none

def WsAudit.step (gateway : WsGateway) (audit : WsAudit) (action : WsAction) : Option WsAudit :=
  (audit.state.step gateway action).map fun next => {
    state := next
    taken := tally audit.taken (takes action)
    released := tally audit.released (releases next action) }

inductive WsTurn (gateway : WsGateway) (state next : WsState) (index : Nat) :
    WsRequest → WsRequest → WsAction → Prop where
  | reserved (count : next.openConns = wrappingAdd state.openConns 1) :
      WsTurn gateway state next index .admitted (.counted state.openConns) (.reserve index)
  | refused {previous} (full : gateway.maxConnections ≤ previous)
      (count : next.openConns = wrappingSub state.openConns 1) :
      WsTurn gateway state next index (.counted previous) .tooMany (.decide index)
  | granted {previous connId} (count : next.openConns = state.openConns) :
      WsTurn gateway state next index (.counted previous) (.upgrading connId) (.decide index)
  | upgraded {connId now} (count : next.openConns = state.openConns) :
      WsTurn gateway state next index (.upgrading connId) (.opened connId) (.upgrade index now)
  | panicked {connId now} (count : next.openConns = state.openConns) :
      WsTurn gateway state next index (.upgrading connId) (.panicked connId) (.upgrade index now)
  | failed {connId} (count : next.openConns = state.openConns) :
      WsTurn gateway state next index (.upgrading connId) (.failed connId) (.failUpgrade index)
  | closed {connId} (count : next.openConns = wrappingSub state.openConns 1) :
      WsTurn gateway state next index (.opened connId) (.closed connId) (.close index)

inductive WsMove (gateway : WsGateway) (state next : WsState) (action : WsAction) : Prop where
  | arrived (moment : Moment) (protocols : Option String) (request : WsRequest)
      (named : action = .request moment protocols) (outside : request = .admitted ∨ request = .unauthorized)
      (listed : next.requests = state.requests ++ [request]) (count : next.openConns = state.openConns)
  | moved (index : Nat) {old new} (was : state.requests[index]? = some old)
      (listed : next.requests = state.requests.set index new) (turn : WsTurn gateway state next index old new action)

theorem step_move (took : state.step gateway action = some next) : WsMove gateway state next action := by
  cases action with
  | request moment protocols =>
    cases took
    refine .arrived moment protocols _ rfl ?_ rfl rfl
    split
    · exact .inl rfl
    · exact .inr rfl
  | reserve index =>
    simp only [WsState.step] at took
    split at took
    next was =>
      cases took
      exact .moved index was rfl (.reserved rfl)
    · cases took
  | decide index =>
    simp only [WsState.step] at took
    split at took
    next was =>
      split at took
      next full =>
        obtain rfl := Option.some.inj took
        exact .moved index was rfl (.refused full rfl)
      · cases took
        exact .moved index was rfl (.granted rfl)
    · cases took
  | upgrade index now =>
    simp only [WsState.step] at took
    split at took
    next was =>
      split at took
      · cases took
        exact .moved index was rfl (.upgraded rfl)
      · cases took
        exact .moved index was rfl (.panicked rfl)
    · cases took
  | failUpgrade index =>
    simp only [WsState.step] at took
    split at took
    next was =>
      cases took
      exact .moved index was rfl (.failed rfl)
    · cases took
  | close index =>
    simp only [WsState.step] at took
    split at took
    next was =>
      obtain rfl := Option.some.inj took
      exact .moved index was rfl (.closed rfl)
    · cases took

section Slots
variable {audit later : WsAudit} {old new : WsRequest}

def holdsSlot (request : WsRequest) : Bool := isConnection request || isUndecided request || isLost request

theorem countP_holdsSlot (requests : List WsRequest) : requests.countP holdsSlot =
    requests.countP isConnection + requests.countP isUndecided + requests.countP isLost := by
  induction requests with
  | nil => rfl
  | cons request rest ih =>
    simp only [List.countP_cons, ih]
    cases request <;> simp [holdsSlot, isConnection, isUndecided, isLost] <;> omega

def Tallied (state : WsState) : Prop := state.openConns = state.requests.countP holdsSlot % UInt64.size

theorem WsTurn.tallied (turn : WsTurn gateway state next index old new action) (was : state.requests[index]? = some old)
    (listed : next.requests = state.requests.set index new) (tallied : Tallied state) : Tallied next := by
  have shift : (state.requests.set index new).countP holdsSlot + (if holdsSlot old then 1 else 0) =
      state.requests.countP holdsSlot + if holdsSlot new then 1 else 0 := countP_set_add new was
  rw [Tallied] at tallied
  rw [Tallied, listed]
  cases turn with
  | reserved count =>
    have grown : (state.requests.set index (.counted state.openConns)).countP holdsSlot =
        state.requests.countP holdsSlot + 1 := shift
    rw [count, grown, tallied, wrappingAdd_one]
  | refused _ count =>
    have shrunk : (state.requests.set index .tooMany).countP holdsSlot + 1 = state.requests.countP holdsSlot := shift
    rw [count, tallied, ← shrunk, wrappingSub_one]
  | granted count | upgraded count | failed count | panicked count =>
    rw [count, tallied, Nat.add_right_cancel shift]
  | @closed connId count =>
    have shrunk : (state.requests.set index (.closed connId)).countP holdsSlot + 1 =
        state.requests.countP holdsSlot := shift
    rw [count, tallied, ← shrunk, wrappingSub_one]

theorem WsMove.tallied (move : WsMove gateway state next action) (tallied : Tallied state) : Tallied next := by
  cases move with
  | arrived _ _ request _ outside listed count =>
    have idle : holdsSlot request = false := by
      rcases outside with rfl | rfl
      · rfl
      · rfl
    rw [Tallied] at tallied
    rw [Tallied, count, listed, tallied, List.countP_append, List.countP_singleton, idle]
    rfl
  | moved index was listed turn => exact turn.tallied was listed tallied

def slotsOf : Option WsRequest → Nat × Nat
  | none | some .unauthorized | some .admitted => (0, 0)
  | some (.counted _) | some (.upgrading _) | some (.opened _) | some (.failed _) | some (.panicked _) => (1, 0)
  | some .tooMany | some (.closed _) => (1, 1)

def Reconciled (audit : WsAudit) : Prop :=
  ∀ index, (audit.taken index, audit.released index) = slotsOf audit.state.requests[index]?

theorem tally_apply (counts : Nat → Nat) (hit : Option Nat) (other : Nat) :
    tally counts hit other = counts other + if hit = some other then 1 else 0 := by
  cases hit with
  | none => rfl
  | some index =>
    simp only [tally, Function.update_apply, Option.some.injEq]
    by_cases same : index = other
    · simp [same]
    · simp [same, Ne.symm same]

theorem WsTurn.slots (turn : WsTurn gateway state next index old new action)
    (now : next.requests[index]? = some new) :
    slotsOf (some new) = ((slotsOf (some old)).1 + (if takes action = some index then 1 else 0),
      (slotsOf (some old)).2 + if releases next action = some index then 1 else 0) := by
  cases turn with
  | reserved | upgraded | failed | panicked | closed => simp [slotsOf, takes, releases]
  | refused | granted => simp [slotsOf, takes, releases, now]

theorem WsTurn.elsewhere (turn : WsTurn gateway state next index old new action) {other : Nat} (apart : other ≠ index) :
    takes action ≠ some other ∧ releases next action ≠ some other := by
  cases turn with
  | reserved | upgraded | failed | panicked | closed => simp [takes, releases, Ne.symm apart]
  | refused | granted =>
    simp only [takes, releases]
    split <;> simp [Ne.symm apart]

theorem Reconciled.step (reconciled : Reconciled audit) (took : audit.step gateway action = some later) :
    Reconciled later := by
  obtain ⟨next, moves, rfl⟩ := Option.map_eq_some_iff.mp took
  intro other
  have before := reconciled other
  simp only [tally_apply]
  cases step_move moves with
  | arrived moment protocols request named outside listed =>
    subst named
    have kept : slotsOf next.requests[other]? = slotsOf audit.state.requests[other]? := by
      rw [listed, List.getElem?_append]
      split
      · rfl
      next outsideRange =>
        rw [List.getElem?_eq_none (by omega : audit.state.requests.length ≤ other), List.getElem?_singleton]
        split
        · rcases outside with rfl | rfl
          · rfl
          · rfl
        · rfl
    rw [kept, ← before]
    rfl
  | @moved index old new was listed turn =>
    rw [listed]
    by_cases same : other = index
    · subst same
      have now : next.requests[other]? = some new := by
        rw [listed, List.getElem?_set_self (List.getElem?_eq_some_iff.mp was).1]
      rw [was] at before
      rw [← listed, now, turn.slots now, ← before]
    · have elsewhere := turn.elsewhere same
      rw [List.getElem?_set_ne (Ne.symm same), if_neg elsewhere.1, if_neg elsewhere.2]
      exact before

def Lossless (state : WsState) : Prop := ∀ request ∈ state.requests, isLost request = false

theorem Lossless.countP (lossless : Lossless state) :
    state.requests.countP holdsSlot = connections state + undecided state := by
  have none : state.requests.countP isLost = 0 := by
    rw [List.countP_eq_zero]
    intro request member
    simp [lossless request member]
  rw [countP_holdsSlot, none]
  rfl

/-- What is lost stays lost. -/
theorem Lossless.before (lossless : Lossless next) (moves : state.step gateway action = some next) :
    Lossless state := by
  intro request member
  obtain ⟨place, inside, rfl⟩ := List.getElem_of_mem member
  have found := List.getElem?_eq_getElem inside
  cases step_move moves with
  | arrived _ _ _ _ _ listed => exact lossless _ (by simp [listed])
  | @moved index old new was listed turn =>
    by_cases same : index = place
    · subst same
      rw [← Option.some.inj (was.symm.trans found)]
      cases turn <;> rfl
    · refine lossless _ (List.mem_of_getElem? (i := place) ?_)
      rw [listed, List.getElem?_set_ne same, found]

theorem Lossless.earlier {before : WsAudit} (run : Run (WsAudit.step gateway) unguarded before audit)
    (lossless : Lossless audit.state) : Lossless before.state := by
  induction run with
  | refl => exact lossless
  | step _ _ took ih =>
    obtain ⟨next, moves, rfl⟩ := Option.map_eq_some_iff.mp took
    exact ih (lossless.before moves)

/-- An earlier point of the run at which the request was about to take its slot. -/
structure Reserving (gateway : WsGateway) (audit before : WsAudit) (index : Nat) : Prop where
  reached : Run (WsAudit.step gateway) unguarded {} before
  later : Run (WsAudit.step gateway) unguarded before audit
  admitted : before.state.requests[index]? = some .admitted

/-- What a request found when it took its slot, and what those found that were refused. -/
structure SlotsKept (gateway : WsGateway) (audit : WsAudit) : Prop where
  reached : Run (WsAudit.step gateway) unguarded {} audit
  tallied : Tallied audit.state
  reconciled : Reconciled audit
  counted : ∀ index previous, audit.state.requests[index]? = some (.counted previous) →
    ∃ before, Reserving gateway audit before index ∧ before.state.openConns = previous
  refused : ∀ index, audit.state.requests[index]? = some .tooMany →
    ∃ before, Reserving gateway audit before index ∧ gateway.maxConnections ≤ before.state.openConns

theorem Reserving.extend {before : WsAudit} (reserving : Reserving gateway audit before index)
    (took : audit.step gateway action = some later) : Reserving gateway later before index :=
  ⟨reserving.reached, .step reserving.later rfl took, reserving.admitted⟩

/-- Where a request stands that was not in the room, or had not got there, before. -/
inductive Stands (gateway : WsGateway) (state next : WsState) (action : WsAction) (index : Nat)
    (request : WsRequest) : Prop where
  | stayed (was : state.requests[index]? = some request)
  | came (outside : request = .admitted ∨ request = .unauthorized)
  | turned {old : WsRequest} (was : state.requests[index]? = some old)
      (turn : WsTurn gateway state next index old request action)

theorem WsMove.stands (move : WsMove gateway state next action) {request : WsRequest}
    (now : next.requests[index]? = some request) : Stands gateway state next action index request := by
  cases move with
  | arrived _ _ newcomer _ outside listed =>
    rw [listed, List.getElem?_append] at now
    split at now
    · exact .stayed now
    · rw [List.getElem?_singleton] at now
      split at now
      · cases now
        exact .came outside
      · cases now
  | moved other was listed turn =>
    rw [listed] at now
    by_cases same : index = other
    · subst same
      rw [List.getElem?_set_self (List.getElem?_eq_some_iff.mp was).1] at now
      cases now
      exact .turned was turn
    · rw [List.getElem?_set_ne (Ne.symm same)] at now
      exact .stayed now

theorem SlotsKept.step (kept : SlotsKept gateway audit)
    (took : audit.step gateway action = some later) : SlotsKept gateway later := by
  have reconciled := kept.reconciled.step took
  obtain ⟨next, moves, made⟩ := Option.map_eq_some_iff.mp took
  have move := step_move moves
  have same : later.state = next := by rw [← made]
  refine ⟨.step kept.reached rfl took, ?_, reconciled, ?_, ?_⟩
  · rw [same]
    exact move.tallied kept.tallied
  · intro index previous now
    rw [same] at now
    cases move.stands now with
    | stayed was =>
      obtain ⟨before, reserving, found⟩ := kept.counted index previous was
      exact ⟨before, reserving.extend took, found⟩
    | came outside =>
      rcases outside with wrong | wrong
      · cases wrong
      · cases wrong
    | turned was turn =>
      cases turn with
      | reserved =>
        have itself : Run (WsAudit.step gateway) unguarded audit audit := .refl audit
        exact ⟨audit, ⟨kept.reached, .step itself rfl took, was⟩, rfl⟩
  · intro index now
    rw [same] at now
    cases move.stands now with
    | stayed was =>
      obtain ⟨before, reserving, found⟩ := kept.refused index was
      exact ⟨before, reserving.extend took, found⟩
    | came outside =>
      rcases outside with wrong | wrong
      · cases wrong
      · cases wrong
    | turned was turn =>
      cases turn with
      | refused full =>
        obtain ⟨before, reserving, found⟩ := kept.counted index _ was
        refine ⟨before, reserving.extend took, ?_⟩
        rw [found]
        exact full

end Slots

def single : WsGateway := { maxConnections := 1 }

end Vynkor.Proofs
