import Vynkor.Proofs.Subscriptions
import Vynkor.Proofs.TopoSort
import Vynkor.Scenario

/-! The events that a manifest declares. The loader subscribes the plugin once, at boot.
The subscription outlives stops and registrations, but not the handling of a
disconnect, and nobody renews it. -/

namespace Vynkor.Proofs
open Execution

section Loader
open PluginLoader
variable {β : Type} {ctx : Context β} {kernel : Kernel β} {start : PluginDef → Bool} {defs : List PluginDef}
  {validated : Validated} {refused : List String} {loaded : Loaded}

def declaration (validated : Validated) : String × Bool → Option (Action β)
  | (id, started) =>
    if started = true ∧ declaredEvents validated id ≠ [] then some (.declare id (declaredEvents validated id)) else none

def LoaderSteps (ctx : Context β) (kernel : Kernel β) (validated : Validated) (loaded : Loaded) : Prop :=
  ∃ bus, loaded.bus = some bus ∧
    exec (Kernel.step ctx) unguarded kernel (loaded.starts.filterMap (declaration validated)) =
      some (kernel.setRouter { kernel.router with bus })

theorem spawnNext_declares (declares : LoaderSteps ctx kernel validated loaded) (id : String) :
    LoaderSteps ctx kernel validated (spawnNext start defs validated refused loaded id) := by
  obtain ⟨bus, holds, executed⟩ := declares
  simp only [spawnNext]
  split
  · exact ⟨bus, holds, executed⟩
  next plugin _ =>
    simp only [LoaderSteps, List.filterMap_append, exec_append executed]
    by_cases subscribed : start plugin = true ∧ declaredEvents validated plugin.id ≠ []
    · refine ⟨bus.subscribe plugin.id (declaredEvents validated plugin.id), by rw [if_pos subscribed, holds]; rfl, ?_⟩
      rw [List.filterMap_cons_some (by rw [declaration, if_pos subscribed])]
      rfl
    · refine ⟨bus, by rw [if_neg subscribed, holds], ?_⟩
      rw [List.filterMap_cons_none (by rw [declaration, if_neg subscribed])]
      rfl

theorem spawnAll_declares (order : List String) (declares : LoaderSteps ctx kernel validated loaded) :
    LoaderSteps ctx kernel validated (order.foldl (spawnNext start defs validated refused) loaded) := by
  induction order generalizing loaded with
  | nil => exact declares
  | cons id rest ih => exact ih (spawnNext_declares declares id)

/-- To the kernel `load_all` is one step for each plugin that it has started and whose
manifest declares events. -/
theorem loadAll_declares {fuel validate registry} (distinct : (defs.map PluginDef.id).Nodup)
    (enough : defs.length ≤ fuel) :
    ∃ recorded loaded, loadAll fuel validate start defs registry (some kernel.router.bus) = some (recorded, loaded) ∧
      LoaderSteps ctx kernel (validateAll validate defs) loaded := by
  obtain ⟨_, _, sorted⟩ := topoSort_sorted (resolve defs (validateAll validate defs)) distinct enough
  exact ⟨_, _, by rw [loadAll, sorted]; rfl, spawnAll_declares _ ⟨kernel.router.bus, rfl, rfl⟩⟩

/-- Whatever is not the clock requires it. -/
def tellsTime (plugin : PluginDef) : Except VynkorError (Option InstallManifest) :=
  .ok (some { requires := if plugin.id = "clock" then [] else ["clock"], events := some ["timer"] })

theorem loadAll_declares_timer : ∃ recorded loaded,
    loadAll 2 tellsTime (fun _ => true) [{ id := "notes" }, { id := "clock" }] {}
      (some ({} : Kernel Packet).router.bus) = some (recorded, loaded) ∧
      LoaderSteps Scenario.context {} (validateAll tellsTime [{ id := "notes" }, { id := "clock" }]) loaded ∧
      loaded.starts = [("clock", true), ("notes", true)] := by
  obtain ⟨recorded, loaded, returns, steps⟩ := @loadAll_declares Packet Scenario.context {} (fun _ => true)
    [{ id := "notes" }, { id := "clock" }] 2 tellsTime {} (by decide) (by decide)
  refine ⟨recorded, loaded, returns, steps, ?_⟩
  have starts : (loadAll 2 tellsTime (fun _ => true) [{ id := "notes" }, { id := "clock" }] {}
      (some ({} : Kernel Packet).router.bus)).map (fun outcome => outcome.2.starts) =
        some [("clock", true), ("notes", true)] := by decide +kernel
  rw [returns] at starts
  exact Option.some.inj starts

end Loader

section Subscribed
variable {β : Type} {ctx : Context β} {kernel next declared final : Kernel β} {action : Action β}
  {id eventType : String}

def sendsUnsubscribe (ctx : Context β) (pluginId : String) (kernel : Kernel β) : Action β → Bool
  | .route now => kernel.incoming.head?.any fun msg =>
      match kernel.router.busRequest ctx now msg with
      | some (entry, .unsubscribe _) => entry.pluginId == pluginId
      | _ => false
  | _ => false

def sendsNoUnsubscribe (ctx : Context β) (pluginId : String) (kernel : Kernel β) (action : Action β) : Bool :=
  !sendsUnsubscribe ctx pluginId kernel action

def forgets (pluginId : String) (kernel : Kernel β) : Action β → Bool
  | .unsubscribe transport => (kernel.inHand transport .published).any fun leaving => leaving.pluginId == pluginId
  | _ => false

def staysDeclared (ctx : Context β) (pluginId : String) (kernel : Kernel β) (action : Action β) : Bool :=
  sendsNoUnsubscribe ctx pluginId kernel action && !forgets pluginId kernel action

theorem staysDeclared_step (allowed : staysDeclared ctx id kernel action = true)
    (took : kernel.step ctx action = some next) (subscribed : id ∈ kernel.router.bus.subscribers eventType) :
    id ∈ next.router.bus.subscribers eventType := by
  simp only [staysDeclared, sendsNoUnsubscribe, Bool.and_eq_true, Bool.not_eq_true'] at allowed
  have step := step_bus took
  generalize next.router.bus = bus at step ⊢
  cases step with
  | same => exact subscribed
  | @answered _ _ _ _ request mine head asked =>
    cases request with
    | subscribe => exact mem_subscribe.mpr (.inl subscribed)
    | unsubscribe =>
      -- the handler removes for the sender of the message only
      refine mem_unsubscribe.mpr ⟨subscribed, ?_⟩
      intro own
      have silent := allowed.1
      rw [mine] at silent
      simp [sendsUnsubscribe, head, asked, own.1] at silent
  | declared => exact mem_subscribe.mpr (.inl subscribed)
  | cleared mine held =>
    refine (mem_unsubscribeAll_other ?_).mpr subscribed
    intro own
    have kept := allowed.2
    rw [mine] at kept
    simp [forgets, held, own] at kept

/-- As long as no disconnect of the plugin is handled and it does not unsubscribe, the
events it declares are enqueued for it whenever it is registered, over all its
registrations. -/
theorem declared_events_enqueued {events : List String} {entry : PluginEntry} {event : Event} {now : Moment}
    {payload : β} (loads : kernel.step ctx (.declare id events) = some declared)
    (run : Run (Kernel.step ctx) (staysDeclared ctx id) declared final)
    (found : final.router.registry.get id = some entry) (declares : event.eventType ∈ events)
    (room : final.router.hasRoom entry.writeTx = true)
    (encoded : ctx.wire.encode (eventEnvelope now final.router event) = some payload) :
    Outbound.frame (buildFrame ctx.wire id 0 payload) ∈
      Mailboxes.added final.router.net (final.router.publish ctx now event).net entry.writeTx := by
  have boot : id ∈ declared.router.bus.subscribers event.eventType := by
    cases loads
    exact mem_subscribe.mpr (.inr ⟨rfl, declares⟩)
  have subscribed : id ∈ final.router.bus.subscribers event.eventType :=
    run.preserves boot fun _ _ _ allowed took => staysDeclared_step allowed took
  exact publish_enqueues found (mem_targets.mpr (.inl subscribed)) room encoded

end Subscribed

section Lifetimes
open Scenario

def joinedDeclared : Kernel Packet := Kernel.declare {} "notes" ["system.plugin_joined"]

def stoppedBetween : List (Action Packet) := [
  .accept 1 .uds, .receive (hello 1 "notes"), .route start,
  .stop "notes", .hangup 1, .take .uds,
  .accept 2 .uds, .receive (hello 2 "notes"), .route start]

def leftBetween : List (Action Packet) := [
  .accept 1 .uds, .receive (hello 1 "notes"), .route start,
  .hangup 1, .take .uds, .publishLeft .uds start, .unsubscribe .uds, .unregister .uds, .spawn "notes",
  .accept 2 .uds, .receive (hello 2 "notes"), .route start]

def stoppedBetweenEnd : Kernel Packet :=
  (exec (Kernel.step context) (staysDeclared context "notes") joinedDeclared stoppedBetween).get (by decide +kernel)

def leftBetweenEnd : Kernel Packet :=
  (exec (Kernel.step context) (sendsNoUnsubscribe context "notes") joinedDeclared leftBetween).get (by decide +kernel)

def lampJoined : Event where
  eventId := "sys-joined-lamp-0"
  eventType := "system.plugin_joined"
  payloadJson := []
  retryCount := 0

theorem declared_events_enqueued_notes : ∃ entry, stoppedBetweenEnd.router.registry.get "notes" = some entry ∧
    entry.connId = 2 ∧
    Outbound.frame (buildFrame Packet.wire "notes" 0
        (.message (eventEnvelope start stoppedBetweenEnd.router lampJoined))) ∈
      Mailboxes.added stoppedBetweenEnd.router.net
        (stoppedBetweenEnd.router.publish context start lampJoined).net entry.writeTx := by
  have found : stoppedBetweenEnd.router.registry.get "notes" = some _ := (Option.some_get (by decide +kernel)).symm
  have loads : Kernel.step context {} (.declare "notes" ["system.plugin_joined"]) = some joinedDeclared := rfl
  exact ⟨_, found, by decide +kernel, declared_events_enqueued loads (exec_get_run (by decide +kernel)) found
    (by decide) (by decide +kernel) rfl⟩

/-- After the disconnect `notes` is registered again, its channel has room, and the event
that its manifest declares is not enqueued. -/
theorem declared_events_lost :
    Kernel.step context {} (.declare "notes" ["system.plugin_joined"]) = some joinedDeclared ∧
    Run (Kernel.step context) (sendsNoUnsubscribe context "notes") joinedDeclared leftBetweenEnd ∧
    (leftBetweenEnd.router.registry.get "notes").map PluginEntry.writeTx = some { conn := 2 } ∧
    leftBetweenEnd.router.hasRoom { conn := 2 } = true ∧
    Mailboxes.added leftBetweenEnd.router.net (leftBetweenEnd.router.publish context start lampJoined).net
      { conn := 2 } = [] :=
  ⟨rfl, exec_get_run (by decide +kernel), by decide +kernel, by decide +kernel, by decide +kernel⟩

end Lifetimes
end Vynkor.Proofs
