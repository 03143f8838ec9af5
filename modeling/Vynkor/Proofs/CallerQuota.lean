import Vynkor.Proofs.StreamChunks

/-! The concurrency cap: how many actions one caller may have pending with one
provider. The kernel checks it when it routes an action, but not when a caller
addresses a device directly. -/

namespace Vynkor.Proofs
open RouterState Execution

section Quota
variable {β : Type} {ctx : Context β} {now : Moment} {msg : IncomingMessage β} {st : RouterState β}
  {kernel next : Kernel β} {action : Action β} {cap : Nat} {callerId providerId key : String}

def between (callerId providerId : String) (pending : PendingAction) : Bool :=
  pending.requesterId == callerId && pending.providerId == providerId

/-- The number of pending actions of the pair, before it is cut to its word size. -/
def pendingBetween (registry : PluginRegistry) (callerId providerId : String) : Nat :=
  registry.pendingActions.values.countP (between callerId providerId)

theorem countPendingActionsFor_le (registry : PluginRegistry) :
    registry.countPendingActionsFor callerId providerId ≤ pendingBetween registry callerId providerId :=
  Nat.mod_le _ _

theorem countPendingActionsFor_eq {registry : PluginRegistry} (within : pendingBetween registry callerId providerId ≤ cap)
    (word : cap < UInt32.size) :
    registry.countPendingActionsFor callerId providerId = pendingBetween registry callerId providerId :=
  Nat.mod_eq_of_lt (Nat.lt_of_le_of_lt within word)

def WithinQuota (cap : Nat) (registry : PluginRegistry) : Prop :=
  ∀ callerId providerId, pendingBetween registry callerId providerId ≤ cap

def callsWithinQuota (ctx : Context β) (cap : Nat) (kernel : Kernel β) : Action β → Bool
  | .route now => kernel.incoming.head?.all fun msg =>
      match turn ctx now msg kernel.router with
      | .called _ pending =>
        decide (kernel.router.registry.countPendingActionsFor pending.requesterId pending.providerId < cap)
      | _ => true
  | _ => true

theorem opened_below (limit : ctx.actionCallerMaxConcurrent = some cap)
    (within : ∀ name pending, turn ctx now msg st = .called name pending →
      st.registry.countPendingActionsFor pending.requesterId pending.providerId < cap)
    (opened : (turn ctx now msg st).opens key = true) :
    ∃ pending, (st.routeMessage ctx now msg).1.registry.getPendingAction key = some pending ∧
      st.registry.countPendingActionsFor pending.requesterId pending.providerId < cap := by
  obtain ⟨sender, provider, request, _, same⟩ := turn_opens ctx now msg st opened
  rw [PluginRegistry.getPendingAction, routeMessage_table]
  rcases same with called | ⟨accepted, routed⟩
  · rw [called, Turn.table, DashMap.get_insert_self]
    exact ⟨_, rfl, within _ _ called⟩
  · rw [routed, Turn.table, DashMap.get_insert_self]
    have below := (routeAction_ok accepted).2.2 cap limit
    rw [checkIpcRate_registry] at below
    exact ⟨_, rfl, below⟩

theorem pendingBetween_le (step : kernel.step ctx action = some next) (extra : List String)
    (elsewhere : ∀ key pending, next.router.registry.getPendingAction key = some pending →
      between callerId providerId pending = true → key ∉ extra →
      ∀ now msg rest, action = .route now → kernel.incoming = msg :: rest →
        (turn ctx now msg kernel.router).opens key = false) :
    pendingBetween next.router.registry callerId providerId ≤
      extra.length + pendingBetween kernel.router.registry callerId providerId := by
  apply DashMap.countP_values_le
  intro key pending found counted
  by_cases listed : key ∈ extra
  · exact .inl listed
  · obtain ⟨before, stored, same⟩ := parties_step step (elsewhere key pending found counted listed) found
    refine .inr ⟨before, stored, ?_⟩
    simpa [between, same.requesterId, same.providerId] using counted

theorem Turn.opens_one {turn : Turn} {other : String} (opened : turn.opens key = true) (different : other ≠ key) :
    turn.opens other = false := by
  cases turn with
  | routed name _ | called name _ =>
    have mine : name = key := by simpa [Turn.opens] using opened
    simpa [Turn.opens, mine] using different.symm
  | _ => rfl

theorem quota_step (limit : ctx.actionCallerMaxConcurrent = some cap) (word : cap < UInt32.size)
    (allowed : callsWithinQuota ctx cap kernel action = true) (step : kernel.step ctx action = some next)
    (within : WithinQuota cap kernel.router.registry) : WithinQuota cap next.router.registry := by
  intro callerId providerId
  have before := within callerId providerId
  by_cases opened : ∃ key pending now msg rest, next.router.registry.getPendingAction key = some pending ∧
      between callerId providerId pending = true ∧ action = .route now ∧ kernel.incoming = msg :: rest ∧
      (turn ctx now msg kernel.router).opens key = true
  · -- the one new entry is of this pair, which is then below the cap
    obtain ⟨key, pending, now, msg, rest, found, mine, rfl, head, opens⟩ := opened
    obtain ⟨first, others, sameHead, result⟩ := route_some step
    rw [head] at sameHead
    cases sameHead
    have direct : ∀ name pending, turn ctx now msg kernel.router = .called name pending →
        kernel.router.registry.countPendingActionsFor pending.requesterId pending.providerId < cap := by
      intro name pending called
      simpa [callsWithinQuota, head, called] using allowed
    obtain ⟨entry, stored, below⟩ := opened_below limit direct opens
    rw [result] at found
    cases Option.some.inj (stored.symm.trans found)
    simp only [between, Bool.and_eq_true, beq_iff_eq] at mine
    rw [mine.1, mine.2, countPendingActionsFor_eq before word] at below
    have grown : pendingBetween next.router.registry callerId providerId ≤
        [key].length + pendingBetween kernel.router.registry callerId providerId := by
      apply pendingBetween_le step
      intro other _ _ _ unlisted later arrived waiting sameAction sameHead
      cases sameAction
      rw [head] at sameHead
      cases sameHead
      exact Turn.opens_one opens (by simpa using unlisted)
    simp only [List.length_singleton] at grown
    omega
  · have kept : pendingBetween next.router.registry callerId providerId ≤
        ([] : List String).length + pendingBetween kernel.router.registry callerId providerId := by
      apply pendingBetween_le step
      intro key pending found counted _ now msg rest mine head
      cases opens : (turn ctx now msg kernel.router).opens key with
      | false => rfl
      | true => exact absurd ⟨key, pending, now, msg, rest, found, counted, mine, head, opens⟩ opened
    simp only [List.length_nil] at kept
    omega

/-- A caller never has more actions pending with one provider than the cap
permits, if its direct calls keep to it as well. -/
theorem pending_within_quota (ctx : Context β) (cap : Nat) (limit : ctx.actionCallerMaxConcurrent = some cap)
    (word : cap < UInt32.size) (start state : Kernel β) (boot : start.router.registry.pendingActions = ∅)
    (run : Run (Kernel.step ctx) (callsWithinQuota ctx cap) start state) (callerId providerId : String) :
    state.router.registry.countPendingActionsFor callerId providerId ≤ cap := by
  have within : WithinQuota cap state.router.registry := by
    have initial : WithinQuota cap start.router.registry := by
      intro callerId providerId
      rw [pendingBetween, boot]
      exact Nat.zero_le cap
    apply run.preserves initial
    intro current action next allowed step
    exact quota_step limit word allowed step
  exact Nat.le_trans (countPendingActionsFor_le _) (within callerId providerId)

end Quota

section Direct
open Scenario

def oneAtATime : Context Packet := { context with actionCallerMaxConcurrent := some 1 }

/-- `notes` may ask the kernel for the screen of `tv`, or call it directly. -/
def house : List (Action Packet) := [
  .accept 1 .uds, .receive (sends 1 "kernel" (caller "notes")), .route start,
  .accept 3 .ws, .receive (sends 3 "kernel" (.pluginRegister
    { pluginId := "tv", deviceId := "tv", capabilities := ["screen"] })), .route start]

def askScreen (actionId : String) : List (Action Packet) := [
  .receive (sends 1 "kernel" (.actionRequest { actionId, action := "tv.screen" })), .route start]

def callScreen (actionId : String) : List (Action Packet) := [.receive (screenCall 1 actionId), .route start]

def quotaKept : Kernel Packet :=
  (exec (Kernel.step oneAtATime) (callsWithinQuota oneAtATime 1) {} (house ++ callScreen "x" ++ askScreen "y")).get
    (by decide +kernel)

theorem pending_within_quota_notes : quotaKept.router.registry.countPendingActionsFor "notes" "tv" ≤ 1 :=
  pending_within_quota oneAtATime 1 rfl (by decide) {} quotaKept rfl (exec_get_run (by decide +kernel)) "notes" "tv"

def quotaExceeded : Kernel Packet :=
  (exec (Kernel.step oneAtATime) unguarded {} (house ++ askScreen "x" ++ callScreen "y")).get (by decide +kernel)

/-- The direct call is let through although the one permitted action is pending. -/
theorem direct_call_exceeds_quota :
    Run (Kernel.step oneAtATime) unguarded {} quotaExceeded ∧ oneAtATime.actionCallerMaxConcurrent = some 1 ∧
      quotaExceeded.router.registry.countPendingActionsFor "notes" "tv" = 2 :=
  ⟨exec_get_run (by decide +kernel), rfl, by decide +kernel⟩

end Direct
end Vynkor.Proofs
