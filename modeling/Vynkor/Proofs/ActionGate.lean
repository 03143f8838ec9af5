import Vynkor.Proofs.KernelSteps
import Vynkor.Scenario

/-! The permission an action asks for. The loader records it once, at boot;
unregistering the provider forgets it, and no later task records it again. -/

namespace Vynkor.Proofs
open Execution PluginRegistry RouterState

section Requirement
variable {β : Type} {ctx : Context β} {kernel next : Kernel β} {now : Moment} {msg : IncomingMessage β}
  {provider : PluginEntry} {action : String} {permission : PermissionType}

/-- The kernel after the loader has recorded what the manifests require. -/
def loaded (validate : PluginDef → Except VynkorError (Option InstallManifest)) (defs : List PluginDef)
    (boot : Kernel β) : Kernel β :=
  boot.setRouter (boot.router.setRegistry (PluginLoader.recordAll validate defs boot.router.registry))

theorem requirement_step {step pluginId} (allowed : keepsRegistered pluginId kernel step = true)
    (took : kernel.step ctx step = some next) :
    next.router.registry.actionRequirement pluginId action = kernel.router.registry.actionRequirement pluginId action := by
  have changed : RegistryStep ctx kernel step next.router.registry := step_registry took
  generalize next.router.registry = registry at changed ⊢
  cases changed with
  | same => rfl
  | swept swept => rw [swept.rest]; rfl
  | routed _ _ update => simp only [PluginRegistry.actionRequirement, update.requirements, checkIpcRate_registry]
  | removed gone =>
    apply unregister_requirement
    intro same
    simpa [keepsRegistered, gone, same] using allowed
  | bridged _ _ inserted => simp only [PluginRegistry.actionRequirement, inserted.requirements]

theorem actionDenied_false {registry providerId senderId}
    (required : registry.actionRequirement providerId action = some permission)
    (granted : actionDenied registry providerId senderId action = false) :
    checkPermission registry providerId permission = .ok () ∧ checkPermission registry senderId permission = .ok () := by
  simp only [actionDenied, required, Option.some_or, Bool.or_eq_false_iff, Bool.not_eq_false'] at granted
  obtain ⟨_, provider⟩ := isOk_iff.mp granted.1
  obtain ⟨_, sender⟩ := isOk_iff.mp granted.2
  exact ⟨provider, sender⟩

theorem routed_of_added {st : RouterState β} {item : Outbound β} {request : ActionRequest}
    (toKernel : ctx.wire.targetAsStr msg.frame.target = some "kernel")
    (held : st.registry.get provider.pluginId = some provider)
    (added : item ∈ Mailboxes.added st.net (st.routeMessage ctx now msg).1.net provider.writeTx)
    (asks : requestIn ctx.wire item = some request) :
    ∃ sender, st.registry.getByConnId msg.connId = some sender ∧
      ((st.checkIpcRate ctx now msg).1.routeAction ctx now sender.pluginId request.action).2 = .ok provider := by
  have sent : Sent ctx now msg (st.checkIpcRate ctx now msg).1 provider.writeTx item := routeMessage_sent added
  generalize channel : provider.writeTx = tx at sent
  cases sent with
  | reply plain carries =>
    rw [carries.request, plain] at asks
    cases asks
  | toRequester _ _ notice carries | toProvider _ _ _ notice carries =>
    rw [carries.request, isNotice_plain notice] at asks
    cases asks
  | mac => cases asks
  | event carries =>
    rw [carries.request] at asks
    cases asks
  | request _ sender routed carries =>
    rw [carries.request] at asks
    cases asks
    rw [checkIpcRate_registry] at sender
    refine ⟨_, sender, ?_⟩
    have found := findActionProvider_registered (routeAction_ok routed).1
    rw [checkIpcRate_registry] at found
    rw [get_same_channel held found channel]
    exact routed
  | forwarded aimed _ _ | bridged aimed _ _ _ =>
    exact False.elim (aimed.2.1 (Option.some.inj (aimed.1.symm.trans toKernel)))
  | broadcast aimed => exact absurd (Option.some.inj (aimed.symm.trans toKernel)) (by decide)

/-- In a run in which nobody unregisters the provider, a requirement the loader
recorded binds every request that is forwarded to it. -/
theorem forwarded_requires_permission {validate : PluginDef → Except VynkorError (Option InstallManifest)}
    {defs : List PluginDef} {boot : Kernel β} {item : Outbound β} {request : ActionRequest}
    (recorded : (loaded validate defs boot).router.registry.actionRequirement provider.pluginId request.action =
      some permission)
    (run : Run (Kernel.step ctx) (keepsRegistered provider.pluginId) (loaded validate defs boot) kernel)
    (toKernel : ctx.wire.targetAsStr msg.frame.target = some "kernel")
    (held : kernel.router.registry.get provider.pluginId = some provider)
    (added : item ∈ Mailboxes.added kernel.router.net (kernel.router.routeMessage ctx now msg).1.net provider.writeTx)
    (asks : requestIn ctx.wire item = some request) :
    ∃ sender, kernel.router.registry.getByConnId msg.connId = some sender ∧
      checkPermission kernel.router.registry provider.pluginId permission = .ok () ∧
      checkPermission kernel.router.registry sender.pluginId permission = .ok () := by
  let required (kernel : Kernel β) : Prop :=
    kernel.router.registry.actionRequirement provider.pluginId request.action = some permission
  have holds : required kernel := run.preserves recorded fun _ _ _ allowed took before =>
    (requirement_step allowed took).trans before
  obtain ⟨sender, found, routed⟩ := routed_of_added toKernel held added asks
  have granted := (routeAction_ok routed).2.1
  rw [checkIpcRate_registry] at granted
  exact ⟨sender, found, actionDenied_false holds granted⟩

end Requirement

section Reconnected
open Scenario

/-- The manifest of `tv` asks for a permission on its action `power`. -/
def tvManifest (_ : PluginDef) : Except VynkorError (Option InstallManifest) :=
  .ok (some { actions := some [{ name := "power", permission := some "system" }] })

def tvLoaded : Kernel Packet := loaded tvManifest [{ id := "tv" }] {}

def tvRegister (permissions : List String) : Payload :=
  .pluginRegister { pluginId := "tv", manifest := some { permissions, actions := ["power"] } }

def notesRegisters (permissions : List String) : Payload :=
  .pluginRegister { pluginId := "notes", manifest := some { permissions } }

def granted : List (Action Packet) := [
  .accept 1 .uds, .receive (sends 1 "kernel" (tvRegister ["system"])), .route start,
  .accept 2 .uds, .receive (sends 2 "kernel" (notesRegisters ["system"])), .route start]

/-- Neither holds it, and the process of `tv` is restarted before `notes` asks. -/
def restarted : List (Action Packet) := [
  .accept 1 .uds, .receive (sends 1 "kernel" (tvRegister [])), .route start,
  .accept 2 .uds, .receive (sends 2 "kernel" (notesRegisters [])), .route start,
  .hangup 1, .take .uds, .publishLeft .uds start, .unsubscribe .uds, .unregister .uds, .spawn "tv",
  .accept 3 .uds, .receive (sends 3 "kernel" (tvRegister [])), .route start]

def grantedEnd : Kernel Packet :=
  (exec (Kernel.step context) (keepsRegistered "tv") tvLoaded granted).get (by decide +kernel)

def restartedEnd : Kernel Packet := (exec (Kernel.step context) unguarded tvLoaded restarted).get (by decide +kernel)

def askPower : IncomingMessage Packet := sends 2 "kernel" (.actionRequest { actionId := "a", action := "power" })

def forwardedTo (kernel : Kernel Packet) (tx : Sender) : List (Outbound Packet) :=
  Mailboxes.added kernel.router.net (kernel.router.routeMessage context start askPower).1.net tx

def grantedTv : PluginEntry := (grantedEnd.router.registry.get "tv").get (by decide +kernel)

def grantedItem : Outbound Packet := (forwardedTo grantedEnd grantedTv.writeTx).head (by decide +kernel)

def stampedPower : ActionRequest := { actionId := "kact-0", action := "power", callerPluginId := "notes" }

theorem forwarded_requires_permission_granted : ∃ sender item,
    grantedEnd.router.registry.get "tv" = some grantedTv ∧ item ∈ forwardedTo grantedEnd grantedTv.writeTx ∧
    requestIn Packet.wire item = some stampedPower ∧
    grantedEnd.router.registry.getByConnId askPower.connId = some sender ∧
    checkPermission grantedEnd.router.registry grantedTv.pluginId .system = .ok () ∧
    checkPermission grantedEnd.router.registry sender.pluginId .system = .ok () := by
  have found : grantedEnd.router.registry.get "tv" = some grantedTv := (Option.some_get _).symm
  have own : grantedTv.pluginId = "tv" := get_own found
  have member : grantedItem ∈ forwardedTo grantedEnd grantedTv.writeTx := List.head_mem _
  have asks : requestIn Packet.wire grantedItem = some stampedPower := by decide +kernel
  have recorded : tvLoaded.router.registry.actionRequirement grantedTv.pluginId stampedPower.action = some .system := by
    decide +kernel
  have run : Run (Kernel.step context) (keepsRegistered grantedTv.pluginId) tvLoaded grantedEnd := by
    rw [own]
    exact exec_get_run (by decide +kernel)
  have toKernel : Packet.wire.targetAsStr askPower.frame.target = some "kernel" := by decide +kernel
  obtain ⟨sender, held, both⟩ := forwarded_requires_permission recorded run toKernel
    (get_registered found) member asks
  exact ⟨sender, _, found, member, asks, held, both⟩

/-- After the restart the request of `notes` reaches `tv`, and neither holds the
permission that was recorded for it. -/
theorem restart_forgets_requirement :
    tvLoaded.router.registry.actionRequirement "tv" "power" = some .system ∧
    Run (Kernel.step context) unguarded tvLoaded restartedEnd ∧
    (restartedEnd.router.registry.getByConnId 2).map PluginEntry.pluginId = some "notes" ∧
    (restartedEnd.router.registry.get "tv").map PluginEntry.connId = some 3 ∧
    (forwardedTo restartedEnd { conn := 3 }).map (fun item =>
      (requestIn Packet.wire item).map ActionRequest.action) = [some "power"] ∧
    (checkPermission restartedEnd.router.registry "tv" .system).isOk = false ∧
    (checkPermission restartedEnd.router.registry "notes" .system).isOk = false :=
  ⟨by decide +kernel, exec_get_run (by decide +kernel), by decide +kernel, by decide +kernel, by decide +kernel,
    by decide +kernel, by decide +kernel⟩

end Reconnected
end Vynkor.Proofs
