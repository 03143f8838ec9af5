import Vynkor.ConnIds
import Vynkor.Proofs.DisconnectLoops
import Vynkor.Proofs.ErrorBudget

/-! Connection ids and what is kept under them: messages in the queue of the router,
error budgets and calls of the rate limiter. All of these name ids that were issued, so
a fresh id finds none of them. -/

namespace Vynkor.Proofs
open DashMap Execution RouterState
variable {β : Type} {ctx : Context β} {conn : Nat} {kernel next : Kernel β} {action : Action β}

section Charges
variable {now : Moment} {msg : IncomingMessage β} {st : RouterState β} {call : Nat × Nat}

theorem recordOutcome_counts (errored : Bool)
    (charged : ((st.recordOutcome ctx now msg errored).errorCounts.get conn).isSome = true) :
    (st.errorCounts.get conn).isSome = true ∨ conn = msg.connId := by
  cases errored with
  | false =>
    simp only [recordOutcome, Bool.false_eq_true, if_false, get_erase] at charged
    split at charged
    · cases charged
    · exact .inl charged
  | true =>
    simp only [recordOutcome, if_true, get_insert] at charged
    split at charged
    next same => exact .inr same
    · split at charged
      · rw [get_retain] at charged
        cases held : st.errorCounts.get conn with
        | none =>
          rw [held] at charged
          cases charged
        | some count => exact .inl rfl
      · exact .inl charged

theorem routeMessage_counts
    (charged : ((st.routeMessage ctx now msg).1.errorCounts.get conn).isSome = true) :
    (st.errorCounts.get conn).isSome = true ∨ conn = msg.connId := by
  have outcome := routeMessage_outcome ctx now msg st
  generalize (st.routeMessage ctx now msg).1 = after at charged outcome
  generalize (st.routeMessage ctx now msg).2 = verdict at outcome
  cases outcome with
  | limited _ budgets =>
    rw [sendError, sendEnvelope_budgets, budgets] at charged
    exact .inl charged
  | misaddressed answered =>
    rw [answered.budgets] at charged
    exact .inl charged
  | throttled _ budgets =>
    rw [budgets] at charged
    exact .inl charged
  | refused answered =>
    have counts := recordOutcome_counts true charged
    rwa [answered.budgets] at counts
  | done budgets =>
    have counts := recordOutcome_counts false charged
    rwa [budgets] at counts

theorem checkIpcRate_calls (made : call ∈ (st.checkIpcRate ctx now msg).1.ipcCalls) :
    call ∈ st.ipcCalls ∨ call.1 = msg.connId := by
  simp only [checkIpcRate] at made
  split at made
  · exact .inl made
  · rcases List.mem_append.mp made with old | new
    · exact .inl old
    · rw [List.mem_singleton.mp new]
      exact .inr rfl

theorem routeMessage_calls (made : call ∈ (st.routeMessage ctx now msg).1.ipcCalls) :
    call ∈ st.ipcCalls ∨ call.1 = msg.connId := by
  rw [(routeMessage_routed ctx now msg st).rated] at made
  exact checkIpcRate_calls made

end Charges

theorem pruneTick_rated (ctx : Context β) (now : Moment) (st : RouterState β) :
    (st.pruneTick ctx now).ipcCalls = st.ipcCalls := by
  obtain ⟨_, _, idle⟩ := sweepIdle_talk ctx now (st.sweepExpired ctx now)
  exact idle.rated.trans (sweepExpired_talk ctx now st).rated

theorem step_rated (step : kernel.step ctx action = some next) (elsewhere : ∀ now, action ≠ .route now) :
    next.router.ipcCalls = kernel.router.ipcCalls := by
  cases kernel_step step with
  | @route now => exact absurd rfl (elsewhere now)
  | @prune now => exact pruneTick_rated ctx now kernel.router
  | @publishLeft _ now | @publishDied _ now => exact (publish_frames ctx now kernel.router _).rated
  | ping told =>
    have talk : Talk Anything kernel.router _ := told fun _ _ _ => trivial
    exact talk.rated
  | _ => rfl

/-- The connections there are, and the one to the host, change only by ending. -/
structure OnlyEnds (kernel next : Kernel β) : Prop where
  link : next.link = kernel.link ∨ next.link = none
  cycles : next.cycles = kernel.cycles
  connections : ∀ conn connection, next.connections.get conn = some connection →
    ∃ earlier, kernel.connections.get conn = some earlier

theorem OnlyEnds.same (link : next.link = kernel.link) (cycles : next.cycles = kernel.cycles)
    (connections : next.connections = kernel.connections) : OnlyEnds kernel next := by
  refine ⟨.inl link, cycles, ?_⟩
  intro conn connection found
  rw [connections] at found
  exact ⟨connection, found⟩

theorem step_onlyEnds (step : kernel.step ctx action = some next) (opens : action.opens = false) :
    OnlyEnds kernel next := by
  cases kernel_step step with
  | accept | bridgeUp => cases opens
  | @hangup conn connection running =>
    refine ⟨.inl rfl, rfl, ?_⟩
    intro other later found
    have stored : DashMap.get (kernel.connections.insert conn { connection with ended := true }) other = some later :=
      found
    rw [get_insert] at stored
    split at stored
    next same => exact ⟨connection, by rw [same, running]⟩
    · exact ⟨later, stored⟩
  | bridgeDown => exact ⟨.inr rfl, rfl, fun _ connection found => ⟨connection, found⟩⟩
  | _ => exact .same rfl rfl rfl

theorem bridgeUp_cycles {deviceId mirror now}
    (up : kernel.bridgeUp deviceId mirror now = some next) : 0 < next.cycles := by
  obtain ⟨_, _, _, rfl⟩ := bridgeUp_some up
  exact Nat.succ_pos _

section Known
variable {issued : List Nat} {given : Option Nat}

/-- Whatever the kernel keeps under the id of a connection, the id was issued. -/
structure Known (issued : List Nat) (kernel : Kernel β) : Prop where
  connections : ∀ conn connection, kernel.connections.get conn = some connection → conn ∈ issued
  linked : kernel.link.isSome = true → bridgeConnId ∈ issued
  incoming : ∀ msg ∈ kernel.incoming, msg.connId ∈ issued
  counted : ∀ conn, (kernel.router.errorCounts.get conn).isSome = true → conn ∈ issued
  rated : ∀ call ∈ kernel.router.ipcCalls, call.1 ∈ issued

theorem Known.opened {tx} (known : Known issued kernel) (opened : kernel.isOpen conn tx = true) :
    conn ∈ issued := by
  simp only [Kernel.isOpen] at opened
  split at opened
  next connection found => exact known.connections conn connection found
  · simp only [Bool.and_eq_true, beq_iff_eq] at opened
    rw [opened.1]
    apply known.linked
    cases linked : kernel.link with
    | none => simp [linked] at opened
    | some link => rfl

theorem Known.step (known : Known issued kernel) (step : kernel.step ctx action = some next)
    (opens : action.opens = false) : Known issued next := by
  have ends := step_onlyEnds step opens
  refine ⟨?_, ?_, ?_, ?_, ?_⟩
  · intro conn connection found
    obtain ⟨earlier, stored⟩ := ends.connections conn connection found
    exact known.connections conn earlier stored
  · intro linked
    rcases ends.link with same | none
    · rw [same] at linked
      exact known.linked linked
    · rw [none] at linked
      cases linked
  · intro msg waits
    rcases step_incoming step waits with old | opened
    · exact known.incoming msg old
    · exact known.opened opened
  · intro conn charged
    cases action with
    | route now =>
      obtain ⟨msg, rest, head, rfl⟩ := route_some step
      rcases routeMessage_counts charged with old | rfl
      · exact known.counted conn old
      · exact known.incoming _ (by rw [head]; exact List.mem_cons_self)
    | _ =>
      have uncharged : next.router.errorCounts = kernel.router.errorCounts ∧
          refusals ctx { conn } kernel.router next.router = 0 := step_uncharged step (by simp)
      rw [uncharged.1] at charged
      exact known.counted conn charged
  · intro call made
    cases action with
    | route now =>
      obtain ⟨msg, rest, head, rfl⟩ := route_some step
      rcases routeMessage_calls made with old | same
      · exact known.rated call old
      · rw [same]
        exact known.incoming _ (by rw [head]; exact List.mem_cons_self)
    | _ =>
      rw [step_rated step (by simp)] at made
      exact known.rated call made

theorem Known.mono {more} (known : Known issued kernel) (grown : issued ⊆ more) : Known more kernel where
  connections := fun conn connection found => grown (known.connections conn connection found)
  linked := fun linked => grown (known.linked linked)
  incoming := fun msg waits => grown (known.incoming msg waits)
  counted := fun conn charged => grown (known.counted conn charged)
  rated := fun call made => grown (known.rated call made)

theorem Known.accepted (known : Known issued kernel) (conn : Nat) (transport : Transport) :
    Known (issued ++ [conn]) { kernel with connections := kernel.connections.insert conn { transport } } := by
  have grown := known.mono (List.subset_append_left issued [conn])
  refine ⟨?_, grown.linked, grown.incoming, grown.counted, grown.rated⟩
  intro other connection found
  have stored : DashMap.get (kernel.connections.insert conn { transport }) other = some connection := found
  rw [get_insert] at stored
  split at stored
  next same => exact List.mem_append_right issued (List.mem_singleton.mpr same)
  · exact grown.connections other connection stored

theorem Known.bridged {deviceId mirror now} (known : Known issued kernel)
    (up : kernel.bridgeUp deviceId mirror now = some next) : Known (issued ++ [bridgeConnId]) next := by
  have grown := known.mono (List.subset_append_left issued [bridgeConnId])
  obtain ⟨_, _, _, rfl⟩ := bridgeUp_some up
  refine ⟨grown.connections, ?_, grown.incoming, grown.counted, grown.rated⟩
  intro _
  exact List.mem_append_right issued List.mem_cons_self

end Known

section Issued
variable {state next : Allocation β} {action : AllocationAction β} {start : Allocation β}

structure Boots (start : Allocation β) : Prop where
  udsCounter : start.udsCounter = 1
  wsCounter : start.wsCounter = 0
  issued : start.issued = []
  accepts : start.accepts = 0
  upgrades : start.upgrades = 0
  connections : start.kernel.connections = ∅
  link : start.kernel.link = none
  cycles : start.kernel.cycles = 0
  incoming : start.kernel.incoming = []
  counted : start.kernel.router.errorCounts = ∅
  rated : start.kernel.router.ipcCalls = []

def Few (state : Allocation β) : Prop := state.accepts < 1000000000 ∧ state.upgrades < 1000000000

/-- The ids of the listener, of the gateway and of the bridge lie apart. -/
structure Issued (state : Allocation β) : Prop where
  known : Known state.issued state.kernel
  uds : state.udsCounter = state.accepts + 1
  ws : state.wsCounter = state.upgrades
  ranges : ∀ conn ∈ state.issued, 1 ≤ conn ∧ conn ≤ state.accepts ∨
    Api.wsConnIdBase ≤ conn ∧ conn < Api.wsConnIdBase + state.upgrades ∨
    conn = bridgeConnId ∧ 0 < state.kernel.cycles

inductive Opens (ctx : Context β) (state next : Allocation β) (given : Option Nat) : Prop where
  | accepted (id : given = some state.udsCounter) (made : next = { state.opened state.udsCounter .uds with
      udsCounter := wrappingAdd state.udsCounter 1, accepts := state.accepts + 1 })
  | upgraded (id : given = some (wrappingAdd state.wsCounter Api.wsConnIdBase))
      (made : next = { state.opened (wrappingAdd state.wsCounter Api.wsConnIdBase) .ws with
        wsCounter := wrappingAdd state.wsCounter 1, upgrades := state.upgrades + 1 })
  | bridged {deviceId mirror now kernel}
      (id : given = some bridgeConnId) (up : state.kernel.bridgeUp deviceId mirror now = some kernel)
      (made : next = { state with kernel, issued := state.issued ++ [bridgeConnId] })
  | other {action : Action β} {kernel : Kernel β} (none : given = none) (opens : action.opens = false)
      (step : state.kernel.step ctx action = some kernel) (made : next = { state with kernel })

theorem step_opens (step : state.step ctx action = some next) : ∃ given, Opens ctx state next given := by
  cases action with
  | accept => exact ⟨_, .accepted rfl (Option.some.inj step).symm⟩
  | upgrade => exact ⟨_, .upgraded rfl (Option.some.inj step).symm⟩
  | cycle deviceId mirror now =>
    obtain ⟨kernel, up, made⟩ := Option.map_eq_some_iff.mp step
    exact ⟨_, .bridged rfl up made.symm⟩
  | other action =>
    simp only [Allocation.step] at step
    split at step
    · cases step
    next closed =>
      obtain ⟨kernel, moved, made⟩ := Option.map_eq_some_iff.mp step
      exact ⟨_, .other rfl (by simpa using closed) moved made.symm⟩

theorem wrappingAdd_small {first second} (small : first + second < 3000000000) :
    wrappingAdd first second = first + second := by
  have wide : 3000000000 < UInt64.size := by decide
  rw [wrappingAdd, Nat.mod_eq_of_lt (Nat.lt_trans small wide)]

theorem Issued.fresh (issued : Issued state) (opens : Opens ctx state next (some conn)) (few : Few next)
    (first : conn = bridgeConnId → state.kernel.cycles = 0) : conn ∉ state.issued := by
  intro again
  have range := issued.ranges conn again
  have base : Api.wsConnIdBase = 1000000000 := rfl
  have top : bridgeConnId = 2000000000 := rfl
  cases opens with
  | accepted id made =>
    obtain rfl := Option.some.inj id
    have bound : state.accepts + 1 < 1000000000 := by
      have counted := few.1
      rw [made] at counted
      exact counted
    rw [issued.uds] at range
    omega
  | upgraded id made =>
    have bound : state.upgrades + 1 < 1000000000 := by
      have counted := few.2
      rw [made] at counted
      exact counted
    have others : state.accepts < 1000000000 := by
      have counted := few.1
      rw [made] at counted
      exact counted
    have value : conn = state.upgrades + 1000000000 := by
      rw [Option.some.inj id, issued.ws, base]
      exact wrappingAdd_small (by omega)
    omega
  | bridged id up made =>
    have none := first (Option.some.inj id)
    have bounds : Few state := by
      rw [made] at few
      exact few
    have value := Option.some.inj id
    have counted := bounds.1
    have upgraded := bounds.2
    omega
  | other none => cases none

theorem Opens.few {given} (opens : Opens ctx state next given) (few : Few next) : Few state := by
  cases opens with
  | accepted _ made =>
    rw [made] at few
    exact ⟨Nat.lt_of_succ_lt few.1, few.2⟩
  | upgraded _ made =>
    rw [made] at few
    exact ⟨few.1, Nat.lt_of_succ_lt few.2⟩
  | bridged _ _ made | other _ _ _ made =>
    rw [made] at few
    exact few

theorem Issued.step {given} (issued : Issued state) (opens : Opens ctx state next given) (few : Few next) :
    Issued next := by
  have bounds := opens.few few
  have uds := issued.uds
  have ws := issued.ws
  have base : Api.wsConnIdBase = 1000000000 := rfl
  cases opens with
  | accepted id made =>
    subst made
    refine ⟨issued.known.accepted _ _, ?_, ws, ?_⟩
    · rw [uds]
      have counted := bounds.1
      exact wrappingAdd_small (by omega)
    · intro conn member
      rcases List.mem_append.mp member with old | new
      · rcases issued.ranges conn old with mine | other
        · exact .inl ⟨mine.1, Nat.le_succ_of_le mine.2⟩
        · exact .inr other
      · rw [List.mem_singleton.mp new, uds]
        exact .inl ⟨Nat.le_add_left 1 state.accepts, Nat.le_refl _⟩
  | upgraded id made =>
    subst made
    have counted := bounds.2
    refine ⟨issued.known.accepted _ _, uds, ?_, ?_⟩
    · rw [ws]
      exact wrappingAdd_small (by omega)
    · intro conn member
      rcases List.mem_append.mp member with old | new
      · rcases issued.ranges conn old with mine | ⟨above, below⟩ | bridge
        · exact .inl mine
        · exact .inr (.inl ⟨above, Nat.lt_succ_of_lt below⟩)
        · exact .inr (.inr bridge)
      · have value : conn = state.upgrades + Api.wsConnIdBase := by
          rw [List.mem_singleton.mp new, ws]
          exact wrappingAdd_small (by omega)
        refine .inr (.inl ⟨by omega, ?_⟩)
        rw [value, Nat.add_comm]
        exact Nat.add_lt_add_left (Nat.lt_succ_self _) _
  | bridged id up made =>
    subst made
    refine ⟨issued.known.bridged up, uds, ws, ?_⟩
    intro conn member
    rcases List.mem_append.mp member with old | new
    · rcases issued.ranges conn old with mine | other | ⟨named, _⟩
      · exact .inl mine
      · exact .inr (.inl other)
      · exact .inr (.inr ⟨named, bridgeUp_cycles up⟩)
    · exact .inr (.inr ⟨List.mem_singleton.mp new, bridgeUp_cycles up⟩)
  | other none closed step made =>
    subst made
    refine ⟨issued.known.step step closed, uds, ws, ?_⟩
    intro conn member
    rw [(step_onlyEnds step closed).cycles]
    exact issued.ranges conn member

theorem Opens.given {given} (opens : Opens ctx state next given)
    (opened : next.issued = state.issued ++ [conn]) : given = some conn := by
  cases opens with
  | accepted id made | upgraded id made | bridged id _ made =>
    subst made
    rw [id]
    exact congrArg some (List.singleton_inj.mp (List.append_cancel_left opened))
  | other _ _ _ made =>
    subst made
    exact absurd opened (by simp)

theorem Boots.issued_empty (boots : Boots state) : Issued state := by
  refine ⟨⟨?_, ?_, ?_, ?_, ?_⟩, ?_, ?_, ?_⟩
  · intro conn connection found
    rw [boots.connections] at found
    cases found
  · intro linked
    rw [boots.link] at linked
    cases linked
  · intro msg waits
    rw [boots.incoming] at waits
    cases waits
  · intro conn charged
    rw [boots.counted] at charged
    cases charged
  · intro call made
    rw [boots.rated] at made
    cases made
  · rw [boots.udsCounter, boots.accepts]
  · rw [boots.wsCounter, boots.upgrades]
  · intro conn member
    rw [boots.issued] at member
    cases member

theorem issued_of_run (boots : Boots start)
    (run : Run (Allocation.step ctx) unguarded start state) (few : Few state) : Issued state := by
  revert few
  apply run.preserves
  · intro _
    exact boots.issued_empty
  · intro state action next _ step earlier few
    obtain ⟨given, opens⟩ := step_opens step
    exact (earlier (opens.few few)).step opens few

theorem Known.vacant {kernel : Kernel β} {issued : List Nat} (known : Known issued kernel) (fresh : conn ∉ issued) :
    kernel.connections.get conn = none := by
  cases found : kernel.connections.get conn with
  | none => rfl
  | some connection => exact absurd (known.connections conn connection found) fresh

theorem Issued.accept (issued : Issued state) (opens : Opens ctx state next (some conn)) (few : Few next)
    (ordinary : conn ≠ bridgeConnId) (transport : Transport) :
    state.kernel.accept conn transport =
      some { state.kernel with connections := state.kernel.connections.insert conn { transport } } := by
  have fresh := issued.fresh opens few fun bridge => absurd bridge ordinary
  rw [Kernel.accept, if_pos ⟨issued.known.vacant fresh, ordinary⟩]

/-- What the allocators do, the kernel does with ids that it checks. -/
theorem Issued.simulated {given} (issued : Issued state) (opens : Opens ctx state next given)
    (few : Few next) : ∃ action, state.kernel.step ctx action = some next.kernel := by
  have base : Api.wsConnIdBase = 1000000000 := rfl
  have top : bridgeConnId = 2000000000 := rfl
  have bounds := opens.few few
  cases opens with
  | accepted id made =>
    have opens : Opens ctx state next (some state.udsCounter) := .accepted rfl made
    have ordinary : state.udsCounter ≠ bridgeConnId := by
      have counted := bounds.1
      have uds := issued.uds
      omega
    refine ⟨.accept state.udsCounter .uds, ?_⟩
    rw [made]
    exact issued.accept opens few ordinary .uds
  | upgraded id made =>
    have opens : Opens ctx state next (some (wrappingAdd state.wsCounter Api.wsConnIdBase)) := .upgraded rfl made
    have counted := bounds.2
    have value : wrappingAdd state.wsCounter Api.wsConnIdBase = state.upgrades + Api.wsConnIdBase := by
      rw [issued.ws]
      exact wrappingAdd_small (by omega)
    refine ⟨.accept (wrappingAdd state.wsCounter Api.wsConnIdBase) .ws, ?_⟩
    rw [made]
    exact issued.accept opens few (by omega) .ws
  | bridged _ up made =>
    rw [made]
    exact ⟨.bridgeUp _ _ _, up⟩
  | other _ _ step made =>
    rw [made]
    exact ⟨_, step⟩

theorem run_kernel (boots : Boots start) (run : Run (Allocation.step ctx) unguarded start state)
    (few : Few state) : Run (Kernel.step ctx) unguarded start.kernel state.kernel := by
  have both : Few state → Issued state ∧ Run (Kernel.step ctx) unguarded start.kernel state.kernel := by
    apply run.preserves
    · intro _
      exact ⟨boots.issued_empty, .refl _⟩
    · intro state action next _ step earlier few
      obtain ⟨given, opens⟩ := step_opens step
      obtain ⟨issued, reached⟩ := earlier (opens.few few)
      obtain ⟨action, moved⟩ := issued.simulated opens few
      exact ⟨issued.step opens few, .step reached rfl moved⟩
  exact (both few).2

end Issued

/-- With fewer than 10^9 accepts and upgrades every connection of the listener and the
gateway, and the first one of the bridge, gets an id that no earlier connection had,
under which nothing is queued, charged or rated. The kernel that checks its ids makes
the same run. -/
theorem conn_ids_fresh {β : Type} (ctx : Context β) (start state next : Allocation β) (action : AllocationAction β)
    (conn : Nat) (boots : Boots start) (run : Run (Allocation.step ctx) unguarded start state)
    (step : state.step ctx action = some next) (opened : next.issued = state.issued ++ [conn])
    (accepts : next.accepts < 1000000000) (upgrades : next.upgrades < 1000000000)
    (first : conn = bridgeConnId → state.kernel.cycles = 0) :
    conn ∉ state.issued ∧ (∀ msg ∈ state.kernel.incoming, msg.connId ≠ conn) ∧
      state.kernel.router.errorCounts.get conn = none ∧ (∀ call ∈ state.kernel.router.ipcCalls, call.1 ≠ conn) ∧
      Run (Kernel.step ctx) unguarded start.kernel next.kernel := by
  have few : Few next := ⟨accepts, upgrades⟩
  obtain ⟨given, opens⟩ := step_opens step
  have issued := issued_of_run boots run (opens.few few)
  obtain rfl : given = some conn := opens.given opened
  have fresh : conn ∉ state.issued := issued.fresh opens few first
  refine ⟨fresh, ?_, ?_, ?_, run_kernel boots (.step run rfl step) few⟩
  · intro msg waits same
    rw [← same] at fresh
    exact fresh (issued.known.incoming msg waits)
  · cases charged : state.kernel.router.errorCounts.get conn with
    | none => rfl
    | some count => exact absurd (issued.known.counted conn (by rw [charged]; rfl)) fresh
  · intro call made same
    rw [← same] at fresh
    exact fresh (issued.known.rated call made)

section Cycles
open Scenario

def oneError : Context Packet := { context with maxConnErrors := 1 }

def client : Allocation Packet := { kernel := { router := { bridge := some [] } } }

theorem channel_of_cycle (serial : Nat) : (hostTx serial).conn = bridgeConnId := rfl

def hostSends (serial : Nat) : IncomingMessage Packet where
  connId := bridgeConnId
  frame := buildFrame Packet.wire "kernel" 0
    (.message { payload := some (.error { code := .unknown, message := "", details := "" }) })
  writeTx := hostTx serial
  owned := channel_of_cycle serial

def connects : AllocationAction Packet := .cycle "laptop" ["speaker"] start

def mixed : Allocation Packet :=
  (exec (Allocation.step oneError) unguarded client [.accept, connects, .upgrade, .other (.receive (hostSends 0))]).get
    (by decide +kernel)

theorem client_boots : Boots client := ⟨rfl, rfl, rfl, rfl, rfl, rfl, rfl, rfl, rfl, rfl, rfl⟩

def accepted : Allocation Packet := (mixed.step oneError .accept).get (by decide +kernel)

theorem conn_ids_fresh_second_accept : mixed.issued = [1, bridgeConnId, 1000000000] ∧ 2 ∉ mixed.issued ∧
    mixed.kernel.router.errorCounts.get 2 = none := by
  have run : Run (Allocation.step oneError) unguarded client mixed := exec_get_run (by decide +kernel)
  have step : mixed.step oneError .accept = some accepted := (Option.some_get _).symm
  obtain ⟨fresh, _, uncharged, _⟩ := conn_ids_fresh oneError client mixed accepted .accept 2 client_boots run step
    (by decide +kernel) (by decide +kernel) (by decide +kernel) (fun bridge => by cases bridge)
  exact ⟨by decide +kernel, fresh, uncharged⟩

def dropped : Allocation Packet :=
  (exec (Allocation.step oneError) unguarded client [connects, .other (.receive (hostSends 0)),
    .other (.receive (hostSends 0)), .other (.route start), .other .bridgeDown]).get (by decide +kernel)

def again : Allocation Packet := (dropped.step oneError connects).get (by decide +kernel)

/-- The second connection of the bridge has the id of the first, whose last message is
still queued and whose error leaves it no budget. -/
theorem bridge_cycles_share_id : Run (Allocation.step oneError) unguarded client dropped ∧
    dropped.step oneError connects = some again ∧ again.issued = [bridgeConnId, bridgeConnId] ∧
    again.kernel.incoming.map IncomingMessage.connId = [bridgeConnId] ∧
    again.kernel.router.errorCount bridgeConnId = 1 ∧
    again.kernel.router.isThrottled oneError (hostSends 1) = true :=
  ⟨exec_get_run (by decide +kernel), (Option.some_get _).symm, by decide +kernel, by decide +kernel, by decide +kernel,
    by decide +kernel⟩

end Cycles
end Vynkor.Proofs
