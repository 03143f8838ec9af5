import Vynkor.Proofs.DisconnectLoops
import Vynkor.Proofs.Subscriptions
import Vynkor.Scenario

/-! The disconnect loops against the other tasks. A notice may overtake frames of
its connection, because the two queues are not ordered, and a plugin may leave
and return while a loop has its id in hand. -/

namespace Vynkor.Proofs
open Execution PluginRegistry
variable {β : Type} {ctx : Context β} {kernel next : Kernel β} {action : Action β} {transport : Transport}
  {conn : Nat} {leaving : Leaving}

/-- The handler of the connection has ended and its notice has left the queue. -/
def Noticed (kernel : Kernel β) (conn : Nat) (transport : Transport) : Prop :=
  kernel.connections.get conn = some { transport, ended := true } ∧ conn ∉ (kernel.loops transport).queue

/-- No queue and no task holds anything of an ended connection any more. -/
structure Cleared (kernel : Kernel β) (conn : Nat) (transport : Transport) : Prop where
  noticed : Noticed kernel conn transport
  routed : ∀ msg ∈ kernel.incoming, msg.connId ≠ conn
  handled : ∀ leaving ∈ (kernel.loops transport).hand, leaving.connId ≠ conn

/-- A loop takes a notice only once the router has handled every frame of that
connection. -/
def noticeInOrder (kernel : Kernel β) : Action β → Bool
  | .take transport => (kernel.loops transport).queue.head?.all fun conn =>
      kernel.incoming.all fun msg => msg.connId != conn
  | _ => true

theorem ended_not_open {tx : Sender} (ended : kernel.connections.get conn = some { transport, ended := true }) :
    kernel.isOpen conn tx = false := by
  simp [Kernel.isOpen, ended]

theorem LoopStep.noticed (step : LoopStep kernel next action transport) (noticed : Noticed next conn transport) :
    Noticed kernel conn transport ∨
      action = .take transport ∧ (kernel.loops transport).queue.head? = some conn ∧ next.router = kernel.router ∧
      kernel.connections.get conn = some { transport, ended := true } ∧
      (next.loops transport).hand = (kernel.router.registry.getByConnId conn).map fun entry =>
        { connId := conn, pluginId := entry.pluginId, stage := .found } := by
  obtain ⟨ended, absent⟩ := noticed
  cases step with
  | idle loop connections | advanced _ loop connections | finished _ loop _ connections =>
    rw [connections] at ended
    rw [loop] at absent
    exact .inl ⟨ended, absent⟩
  | accepted _ _ loop connections =>
    rw [connections, DashMap.get_insert] at ended
    rw [loop] at absent
    split at ended
    · cases ended
    · exact .inl ⟨ended, absent⟩
  | ended _ loop connections =>
    rw [connections, DashMap.get_insert] at ended
    rw [loop] at absent
    split at ended
    next same =>
      cases ended
      simp [same] at absent
    · refine .inl ⟨ended, ?_⟩
      split at absent
      next mine =>
        subst mine
        exact fun waits => absent (List.mem_append_left _ waits)
      · exact absent
  | @taken first rest mine waiting loop router connections =>
    rw [connections] at ended
    by_cases same : conn = first
    · subst same
      exact .inr ⟨mine, by rw [waiting]; rfl, router, ended, by rw [loop]⟩
    · rw [loop] at absent
      refine .inl ⟨ended, ?_⟩
      rw [waiting]
      exact List.not_mem_cons_of_ne_of_not_mem same absent

theorem LoopStep.holding (step : LoopStep kernel next action transport)
    (held : (kernel.loops transport).hand = some leaving) :
    (∃ stage, (next.loops transport).hand = some { leaving with stage }) ∨
      next.router.registry.get leaving.pluginId = none := by
  cases step with
  | idle loop | accepted _ _ loop =>
    rw [loop]
    exact .inl ⟨leaving.stage, held⟩
  | ended _ loop =>
    rw [loop]
    split
    next mine =>
      subst mine
      exact .inl ⟨leaving.stage, held⟩
    · exact .inl ⟨leaving.stage, held⟩
  | taken _ waiting =>
    rw [waiting] at held
    cases held
  | advanced before loop =>
    rw [before] at held
    cases held
    rw [loop]
    exact .inl ⟨_, rfl⟩
  | finished before _ registry =>
    rw [before] at held
    cases held
    rw [registry, get_unregister, if_pos rfl]
    exact .inr rfl

/-- Once its notice has left the queue, an ended connection has no frame left for
the router, and its plugin is registered only while the loop has it in hand. -/
structure Settled (kernel : Kernel β) : Prop where
  queued : Queued kernel
  drained : ∀ conn transport, Noticed kernel conn transport → ∀ msg ∈ kernel.incoming, msg.connId ≠ conn
  entries : ∀ conn transport, Noticed kernel conn transport → ∀ id entry, kernel.router.registry.get id = some entry →
    entry.connId = conn → ∃ stage, (kernel.loops transport).hand = some { connId := conn, pluginId := id, stage }

theorem settled_step (allowed : noticeInOrder kernel action = true) (took : kernel.step ctx action = some next)
    (valid : Settled kernel) : Settled next := by
  have queued : Queued next := queued_step took valid.queued
  refine ⟨queued, ?_, ?_⟩
  · intro conn transport noticed msg waits same
    rcases (step_loops transport took).noticed noticed with before | ⟨rfl, head, _, ended, _⟩
    · rcases step_incoming took waits with old | opened
      · exact valid.drained conn transport before msg old same
      · rw [same, ended_not_open before.1] at opened
        cases opened
    · rcases step_incoming took waits with old | opened
      · simp only [noticeInOrder, head, Option.all_some, List.all_eq_true] at allowed
        simpa [same] using allowed msg old
      · rw [same, ended_not_open ended] at opened
        cases opened
  · intro conn transport noticed id entry found same
    have step := step_loops transport took
    rcases step.noticed noticed with before | ⟨_, _, router, _, hand⟩
    · rcases (step_registry took).origin found with old | ⟨msg, rest, head, own⟩ | bridge
      · obtain ⟨stage, held⟩ := valid.entries conn transport before id entry old same
        rcases step.holding held with still | gone
        · exact still
        · rw [found] at gone
          cases gone
      · have waits : msg ∈ kernel.incoming := by simp [head]
        exact False.elim (valid.drained conn transport before msg waits (own.symm.trans same))
      · have ended := noticed.1
        rw [← same, bridge, queued.bridge] at ended
        cases ended
    · rw [router] at found
      have mapped : kernel.router.registry.getByConnId conn = some entry :=
        getByConnId_eq_some.mpr ⟨get_registered found, same⟩
      rw [hand, mapped, ← get_own found]
      exact ⟨.found, rfl⟩

/-- In a run whose loops take notices in order, an ended connection of which
nothing is left to handle has no registration. -/
theorem cleared_connection_unregistered {router : RouterState β} (empty : ∀ id, router.registry.get id = none)
    (run : Run (Kernel.step ctx) noticeInOrder { router } kernel) (cleared : Cleared kernel conn transport)
    (id : String) (entry : PluginEntry) (found : kernel.router.registry.get id = some entry) : entry.connId ≠ conn := by
  have boot : Settled ({ router } : Kernel β) := by
    refine ⟨queued_boot router, ?_, ?_⟩
    · intro _ _ _ _ waits
      cases waits
    · intro _ _ _ id _ found
      rw [empty id] at found
      cases found
  have settled : Settled kernel := run.preserves boot fun _ _ _ allowed took => settled_step allowed took
  intro same
  obtain ⟨_, held⟩ := settled.entries conn transport cleared.noticed id entry found same
  exact cleared.handled _ held rfl

section Overtaken
open Scenario

def orderly : List (Action Packet) := [
  .accept 1 .uds, .receive (hello 1 "notes"), .hangup 1, .route start,
  .take .uds, .publishLeft .uds start, .unsubscribe .uds, .unregister .uds]

/-- The loop takes the notice before the router takes the registration. -/
def overtaken : List (Action Packet) := [
  .accept 1 .uds, .receive (hello 1 "notes"), .hangup 1,
  .take .uds, .route start]

def orderlyEnd : Kernel Packet := (exec (Kernel.step context) noticeInOrder {} orderly).get (by decide +kernel)

def overtakenEnd : Kernel Packet := (exec (Kernel.step context) unguarded {} overtaken).get (by decide +kernel)

theorem cleared_connection_unregistered_orderly : Cleared orderlyEnd 1 .uds ∧
    ∀ id entry, orderlyEnd.router.registry.get id = some entry → entry.connId ≠ 1 := by
  have noticed : Noticed orderlyEnd 1 .uds := ⟨by decide +kernel, by decide +kernel⟩
  have cleared : Cleared orderlyEnd 1 .uds := ⟨noticed, by decide +kernel, by decide +kernel⟩
  exact ⟨cleared, cleared_connection_unregistered (fun _ => rfl) (exec_get_run (by decide +kernel)) cleared⟩

/-- Nothing of the connection is left anywhere, and `notes` stays registered on it. -/
theorem notice_overtakes_registration : Run (Kernel.step context) unguarded {} overtakenEnd ∧
    Cleared overtakenEnd 1 .uds ∧ (overtakenEnd.router.registry.get "notes").map PluginEntry.connId = some 1 := by
  have noticed : Noticed overtakenEnd 1 .uds := ⟨by decide +kernel, by decide +kernel⟩
  exact ⟨exec_get_run (by decide +kernel), ⟨noticed, by decide +kernel, by decide +kernel⟩, by decide +kernel⟩

end Overtaken

section Removal
variable {id : String} {entry : PluginEntry}

def handles (kernel : Kernel β) : Action β → Option Nat
  | .take transport => (kernel.loops transport).queue.head?
  | .publishLeft transport _ | .unsubscribe transport | .unregister transport =>
    (kernel.loops transport).hand.map fun leaving => leaving.connId
  | _ => none

def holds (kernel : Kernel β) (pluginId : String) : Bool :=
  [Transport.uds, .ws].any fun transport => (kernel.loops transport).hand.any fun leaving => leaving.pluginId == pluginId

def leavesHeld (kernel : Kernel β) : Action β → Bool
  | .stop pluginId => !holds kernel pluginId
  | .bridgeDown => kernel.link.all fun (deviceId, _) => !holds kernel deviceId
  | _ => true

theorem holds_of_hand (held : (kernel.loops transport).hand = some leaving) : holds kernel leaving.pluginId = true := by
  cases transport <;> simp [holds, held]

/-- What a loop has in hand is still registered on the connection it handles. -/
structure Attended (kernel : Kernel β) : Prop where
  queued : Queued kernel
  hand : ∀ transport leaving, (kernel.loops transport).hand = some leaving →
    ∃ entry, kernel.router.registry.get leaving.pluginId = some entry ∧ entry.connId = leaving.connId

theorem Attended.hand_unique (valid : Attended kernel) {otherTransport other}
    (held : (kernel.loops transport).hand = some leaving) (heldOther : (kernel.loops otherTransport).hand = some other)
    (same : leaving.pluginId = other.pluginId) : transport = otherTransport := by
  obtain ⟨entry, found, conn⟩ := valid.hand transport leaving held
  obtain ⟨entryOther, foundOther, connOther⟩ := valid.hand otherTransport other heldOther
  rw [same, foundOther] at found
  cases found
  have kind : transportOf kernel leaving.connId = some transport := valid.queued.hand transport leaving held
  rw [← conn, connOther, valid.queued.hand otherTransport other heldOther] at kind
  exact (Option.some.inj kind).symm

theorem attended_step (allowed : leavesHeld kernel action = true) (took : kernel.step ctx action = some next)
    (valid : Attended kernel) : Attended next := by
  refine ⟨queued_step took valid.queued, ?_⟩
  intro transport leaving held
  rcases (step_loops _ took).hand held with ⟨stage, before⟩ | ⟨_, entry, mapped, same⟩
  · obtain ⟨entry, found, conn⟩ := valid.hand transport { leaving with stage } before
    rcases (step_registry took).keeps found with kept | gone
    · exact ⟨entry, kept, conn⟩
    · exfalso
      have isHeld : holds kernel { leaving with stage }.pluginId = true := holds_of_hand before
      cases action with
      | unregister acting =>
        obtain ⟨finished, inHand, rfl⟩ := Option.map_eq_some_iff.mp took
        have same : finished.pluginId = leaving.pluginId := by simpa [removes, inHand] using gone
        have mine : acting = transport := valid.hand_unique (inHand_some inHand) before same
        subst mine
        simp [Kernel.setHand, Kernel.setLoop] at held
      | stop pluginId =>
        cases gone
        simp [leavesHeld, isHeld] at allowed
      | bridgeDown =>
        obtain ⟨⟨deviceId, serial⟩, live, rfl⟩ := Option.map_eq_some_iff.mp gone
        simp [leavesHeld, live, isHeld] at allowed
      | _ => cases gone
  · obtain ⟨found, conn⟩ := getByConnId_eq_some.mp mapped
    rw [same] at found
    exact ⟨entry, found, conn⟩

/-- The same subscriptions of one plugin in both directions of the bus. -/
structure SameSubscriptions (bus updated : EventBus) (pluginId : String) : Prop where
  subscribers : ∀ eventType, pluginId ∈ updated.subscribers eventType ↔ pluginId ∈ bus.subscribers eventType
  byPlugin : updated.byPlugin.get pluginId = bus.byPlugin.get pluginId

theorem SameSubscriptions.of_eq {bus updated : EventBus} (same : updated = bus) : SameSubscriptions bus updated id := by
  subst same
  exact ⟨fun _ => Iff.rfl, rfl⟩

theorem unsubscribeAll_other (bus : EventBus) {pluginId : String} (apart : id ≠ pluginId) :
    SameSubscriptions bus (bus.unsubscribeAll pluginId) id := by
  refine ⟨fun _ => mem_unsubscribeAll_other apart, ?_⟩
  simp only [EventBus.unsubscribeAll]
  split
  · rfl
  · exact (DashMap.get_erase _ _ _).trans (if_neg apart)

/-- In a run in which no other task removes what a loop has in hand, the handling
of a disconnect touches no plugin registered on another connection. -/
theorem disconnect_spares_others {router : RouterState β} (run : Run (Kernel.step ctx) leavesHeld { router } kernel)
    (took : kernel.step ctx action = some next) (handled : handles kernel action = some conn)
    (found : kernel.router.registry.get id = some entry) (elsewhere : entry.connId ≠ conn) :
    next.router.registry.get id = some entry ∧ SameSubscriptions kernel.router.bus next.router.bus id := by
  have boot : Attended ({ router } : Kernel β) := by
    refine ⟨queued_boot router, ?_⟩
    intro _ _ held
    cases held
  have attended : Attended kernel := run.preserves boot fun _ _ _ allowed took => attended_step allowed took
  have apart (transport : Transport) (leaving : Leaving) (held : (kernel.loops transport).hand = some leaving)
      (own : leaving.connId = conn) : id ≠ leaving.pluginId := by
    intro same
    obtain ⟨stored, foundHeld, sameConn⟩ := attended.hand transport leaving held
    rw [same, foundHeld] at found
    cases found
    exact elsewhere (sameConn.trans own)
  cases kernel_step took with
  | take => exact ⟨found, .of_eq rfl⟩
  | @publishLeft _ now =>
    refine ⟨?_, .of_eq (publish_bus ctx now kernel.router _)⟩
    exact (congrArg (fun registry => registry.get id) (publish_registry ctx now kernel.router _)).trans found
  | @unsubscribe transport leaving inHand =>
    have held := inHand_some inHand
    have own : leaving.connId = conn := by simpa [handles, held] using handled
    exact ⟨found, unsubscribeAll_other _ (apart transport leaving held own)⟩
  | @unregister transport leaving inHand =>
    have held := inHand_some inHand
    have own : leaving.connId = conn := by simpa [handles, held] using handled
    refine ⟨?_, .of_eq rfl⟩
    exact (get_unregister _ _ _).trans ((if_neg (apart transport leaving held own)).trans found)
  | _ => cases handled

end Removal

section Removed
open Scenario

def leftAlone : List (Action Packet) := [
  .accept 1 .uds, .receive (hello 1 "notes"), .route start,
  .accept 2 .ws, .receive (hello 2 "tv"), .route start,
  .hangup 1, .take .uds, .publishLeft .uds start, .unsubscribe .uds]

/-- `notes` hangs up; the manager stops it while the loop has it in hand; `notes`
registers again on a second connection and subscribes. -/
def returned : List (Action Packet) := [
  .accept 1 .uds, .receive (hello 1 "notes"), .route start,
  .hangup 1, .take .uds, .publishLeft .uds start, .stop "notes",
  .accept 2 .uds, .receive (hello 2 "notes"), .route start,
  .receive (sends 2 "kernel" (.subscribe ["timer"])), .route start]

def aloneEnd : Kernel Packet := (exec (Kernel.step context) leavesHeld {} leftAlone).get (by decide +kernel)

def returnedEnd : Kernel Packet := (exec (Kernel.step context) unguarded {} returned).get (by decide +kernel)

theorem disconnect_spares_others_tv : ∃ next entry, aloneEnd.step context (.unregister .uds) = some next ∧
    handles aloneEnd (.unregister .uds) = some 1 ∧ aloneEnd.router.registry.get "tv" = some entry ∧ entry.connId ≠ 1 ∧
    next.router.registry.get "tv" = some entry ∧ SameSubscriptions aloneEnd.router.bus next.router.bus "tv" := by
  have took : aloneEnd.step context (.unregister .uds) = some _ := (Option.some_get (by decide +kernel)).symm
  have found : aloneEnd.router.registry.get "tv" = some _ := (Option.some_get (by decide +kernel)).symm
  have handled : handles aloneEnd (.unregister .uds) = some 1 := by decide +kernel
  exact ⟨_, _, took, handled, found, by decide +kernel,
    disconnect_spares_others (exec_get_run (by decide +kernel)) took handled found (by decide +kernel)⟩

/-- The rest of the handling of connection 1 takes the subscription and then the
registration that `notes` made on connection 2. -/
theorem disconnect_removes_returned : ∃ unsubscribed unregistered,
    Run (Kernel.step context) unguarded {} returnedEnd ∧
    (returnedEnd.router.registry.get "notes").map PluginEntry.connId = some 2 ∧
    handles returnedEnd (.unsubscribe .uds) = some 1 ∧
    returnedEnd.step context (.unsubscribe .uds) = some unsubscribed ∧
    "notes" ∈ returnedEnd.router.bus.subscribers "timer" ∧ "notes" ∉ unsubscribed.router.bus.subscribers "timer" ∧
    (unsubscribed.router.registry.get "notes").map PluginEntry.connId = some 2 ∧
    handles unsubscribed (.unregister .uds) = some 1 ∧
    unsubscribed.step context (.unregister .uds) = some unregistered ∧
    (unregistered.router.registry.get "notes").isNone :=
  ⟨_, _, exec_get_run (by decide +kernel), by decide +kernel, by decide +kernel,
    (Option.some_get (by decide +kernel)).symm, by decide +kernel, by decide +kernel, by decide +kernel,
    by decide +kernel, (Option.some_get (by decide +kernel)).symm, by decide +kernel⟩

end Removed
end Vynkor.Proofs
