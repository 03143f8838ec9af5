import Vynkor.Proofs.KernelSteps

/-! The two disconnect loops along a run. A loop handles connections of its own
kind only, and what it has in hand changes by its own steps alone. -/

namespace Vynkor.Proofs
open DashMap Execution
variable {β : Type} {ctx : Context β} {kernel next : Kernel β} {action : Action β}

inductive LoopStep (kernel next : Kernel β) (action : Action β) (transport : Transport) : Prop where
  | idle (loop : next.loops transport = kernel.loops transport) (connections : next.connections = kernel.connections)
  | accepted {conn} {own : Transport} (fresh : kernel.connections.get conn = none) (ordinary : conn ≠ bridgeConnId)
      (loop : next.loops transport = kernel.loops transport)
      (connections : next.connections = kernel.connections.insert conn { transport := own })
  | ended {conn} {own : Transport} (running : kernel.connections.get conn = some { transport := own })
      (loop : next.loops transport = if transport = own then
        { kernel.loops own with queue := (kernel.loops own).queue ++ [conn] } else kernel.loops transport)
      (connections : next.connections = kernel.connections.insert conn { transport := own, ended := true })
  | taken {conn rest} (mine : action = .take transport)
      (waiting : kernel.loops transport = { queue := conn :: rest, hand := none })
      (loop : next.loops transport = { queue := rest, hand := (kernel.router.registry.getByConnId conn).map fun entry =>
        { connId := conn, pluginId := entry.pluginId, stage := .found } })
      (router : next.router = kernel.router) (connections : next.connections = kernel.connections)
  | advanced {leaving stage} (held : (kernel.loops transport).hand = some leaving)
      (loop : next.loops transport = { kernel.loops transport with hand := some { leaving with stage } })
      (connections : next.connections = kernel.connections)
  | finished {leaving} (held : (kernel.loops transport).hand = some leaving)
      (loop : next.loops transport = { kernel.loops transport with hand := none })
      (registry : next.router.registry = kernel.router.registry.unregister leaving.pluginId)
      (connections : next.connections = kernel.connections)

theorem inHand_some {transport stage leaving}
    (held : kernel.inHand transport stage = some leaving) : (kernel.loops transport).hand = some leaving :=
  (Option.filter_eq_some_iff.mp held).1

theorem step_loops (transport : Transport) (took : kernel.step ctx action = some next) :
    LoopStep kernel next action transport := by
  cases kernel_step took with
  | accept fresh ordinary => exact .accepted fresh ordinary rfl rfl
  | @hangup _ connection found running =>
    obtain ⟨own, ended⟩ := connection
    cases running
    exact .ended found rfl rfl
  | @take own _ _ _ waiting found =>
    subst found
    by_cases same : transport = own
    · subst same
      exact .taken rfl waiting (if_pos rfl) rfl rfl
    · exact .idle (if_neg same) rfl
  | @publishLeft own _ _ held | @unsubscribe own _ held =>
    by_cases same : transport = own
    · subst same
      exact .advanced (inHand_some held) (if_pos rfl) rfl
    · exact .idle (if_neg same) rfl
  | @unregister own _ held =>
    by_cases same : transport = own
    · subst same
      exact .finished (inHand_some held) (if_pos rfl) rfl rfl
    · exact .idle (if_neg same) rfl
  | _ => exact .idle rfl rfl

theorem step_incoming {msg : IncomingMessage β} (took : kernel.step ctx action = some next)
    (waits : msg ∈ next.incoming) : msg ∈ kernel.incoming ∨ kernel.isOpen msg.connId msg.writeTx = true := by
  cases kernel_step took with
  | receive opened =>
    rcases List.mem_append.mp waits with old | new
    · exact .inl old
    · rw [List.mem_singleton.mp new]
      exact .inr opened
  | @route _ first _ head =>
    rw [head]
    exact .inl (List.mem_cons_of_mem first waits)
  | _ => exact .inl waits

section Queues
variable {transport other : Transport} {conn : Nat} {leaving : Leaving}

def transportOf (kernel : Kernel β) (conn : Nat) : Option Transport :=
  (kernel.connections.get conn).map Connection.transport

/-- Every connection a loop has queued or in hand is of the loop's own kind, and
none is the bridge's. -/
structure Queued (kernel : Kernel β) : Prop where
  bridge : kernel.connections.get bridgeConnId = none
  queue : ∀ transport, ∀ conn ∈ (kernel.loops transport).queue, transportOf kernel conn = some transport
  hand : ∀ transport leaving, (kernel.loops transport).hand = some leaving →
    transportOf kernel leaving.connId = some transport

theorem queued_boot (router : RouterState β) : Queued ({ router } : Kernel β) where
  bridge := get_empty _
  queue := by
    intro _ _ member
    cases member
  hand := by
    intro _ _ held
    cases held

theorem LoopStep.keepsKind (step : LoopStep kernel next action other) (known : transportOf kernel conn = some transport) :
    transportOf next conn = some transport := by
  simp only [transportOf] at known ⊢
  cases step with
  | idle _ connections | taken _ _ _ _ connections | advanced _ _ connections | finished _ _ _ connections =>
    rw [connections, known]
  | accepted fresh _ _ connections =>
    rw [connections, get_insert]
    split
    next same =>
      rw [same, fresh] at known
      cases known
    · exact known
  | ended running _ connections =>
    rw [connections, get_insert]
    split
    next same =>
      rw [same, running] at known
      exact known
    · exact known

section
variable (step : LoopStep kernel next action transport)
include step

theorem LoopStep.queue (waits : conn ∈ (next.loops transport).queue) :
    conn ∈ (kernel.loops transport).queue ∨ transportOf next conn = some transport := by
  cases step with
  | idle loop | accepted _ _ loop | advanced _ loop | finished _ loop =>
    rw [loop] at waits
    exact .inl waits
  | ended running loop connections =>
    rw [loop] at waits
    split at waits
    next mine =>
      subst mine
      rcases List.mem_append.mp waits with old | new
      · exact .inl old
      · rw [List.mem_singleton.mp new, transportOf, connections, get_insert_self]
        exact .inr rfl
    · exact .inl waits
  | taken _ waiting loop =>
    rw [loop] at waits
    rw [waiting]
    exact .inl (List.mem_cons_of_mem _ waits)

theorem LoopStep.hand (held : (next.loops transport).hand = some leaving) :
    (∃ stage, (kernel.loops transport).hand = some { leaving with stage }) ∨
      leaving.connId ∈ (kernel.loops transport).queue ∧
      ∃ entry, next.router.registry.getByConnId leaving.connId = some entry ∧ entry.pluginId = leaving.pluginId := by
  cases step with
  | idle loop | accepted _ _ loop =>
    rw [loop] at held
    exact .inl ⟨leaving.stage, held⟩
  | ended _ loop =>
    rw [loop] at held
    split at held
    next mine =>
      subst mine
      exact .inl ⟨leaving.stage, held⟩
    · exact .inl ⟨leaving.stage, held⟩
  | taken _ waiting loop router =>
    rw [loop] at held
    obtain ⟨entry, found, rfl⟩ := Option.map_eq_some_iff.mp held
    rw [waiting, router]
    exact .inr ⟨List.mem_cons_self, entry, found, rfl⟩
  | advanced before loop =>
    rw [loop] at held
    cases held
    exact .inl ⟨_, before⟩
  | finished _ loop =>
    rw [loop] at held
    cases held

end

theorem queued_step (took : kernel.step ctx action = some next) (valid : Queued kernel) : Queued next := by
  refine ⟨?_, ?_, ?_⟩
  · cases step_loops .uds took with
    | idle _ connections | taken _ _ _ _ connections | advanced _ _ connections | finished _ _ _ connections =>
      rw [connections]
      exact valid.bridge
    | accepted _ ordinary _ connections =>
      rw [connections, get_insert, if_neg ordinary.symm]
      exact valid.bridge
    | ended running _ connections =>
      rw [connections, get_insert, if_neg]
      · exact valid.bridge
      · intro same
        rw [← same, valid.bridge] at running
        cases running
  · intro transport conn waits
    have step := step_loops transport took
    rcases step.queue waits with old | ends
    · exact step.keepsKind (valid.queue transport conn old)
    · exact ends
  · intro transport leaving held
    have step := step_loops transport took
    rcases step.hand held with ⟨stage, old⟩ | ⟨waited, _⟩
    · exact step.keepsKind (valid.hand transport { leaving with stage } old)
    · exact step.keepsKind (valid.queue transport _ waited)

end Queues
end Vynkor.Proofs
