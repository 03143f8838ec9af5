import Vynkor.Proofs.Admission
import Vynkor.Proofs.KernelSteps
import Vynkor.Scenario

/-! What a plugin may do from its registration until it is unregistered: what its
token claims, within what the configuration allows. -/

namespace Vynkor.Proofs
open RouterState Execution
variable {β : Type} {ctx : Context β} {now : Moment} {register : PluginRegister} {manifest : PluginManifest}
  {entry : PluginEntry} {id : String}

section Admission
variable {validate : Moment → String → Except VynkorError PluginClaims} {claims : PluginClaims}
  {permission : PermissionType}

def configuredPermissions (ctx : Context β) (id : String) : Option (List String) :=
  ctx.configPermissions.bind fun configured => configured.get id

/-- The token claims the permission, and the configuration lists it or lists nothing. -/
def Granted (ctx : Context β) (claims : PluginClaims) (id : String) (permission : PermissionType) : Prop :=
  (∃ claimed ∈ claims.permissions, normalizePermission claimed = normalizePermission permission.asStrName) ∧
    (configuredPermissions ctx id = none ∨ configuredPermissions ctx id = some [] ∨
      ∃ allowed, configuredPermissions ctx id = some allowed ∧
        ∃ listed ∈ allowed, normalizePermission listed = normalizePermission permission.asStrName)

theorem holds_iff : manifest.holds permission = true ↔
    ∃ held ∈ manifest.permissions, normalizePermission held = normalizePermission permission.asStrName := by
  simp [PluginManifest.holds]

theorem clampPermissions_holds (claimed : manifest.permissions = claims.permissions) :
    (ctx.clampPermissions id manifest).holds permission = true ↔ Granted ctx claims id permission := by
  rw [holds_iff, Granted, configuredPermissions, Context.clampPermissions, ← claimed]
  cases ctx.configPermissions with
  | none => simp
  | some configured =>
    cases listed : configured.get id with
    | none => simp [listed]
    | some allowed =>
      by_cases empty : allowed = []
      · simp [listed, empty]
      · simp only [listed, empty, if_false, List.mem_filter, Option.bind_some]
        constructor
        · rintro ⟨held, ⟨member, kept⟩, same⟩
          simp only [List.contains_iff_mem, List.mem_map] at kept
          obtain ⟨entry, entryListed, entrySame⟩ := kept
          exact ⟨⟨held, member, same⟩, .inr (.inr ⟨allowed, rfl, entry, entryListed, entrySame.trans same⟩)⟩
        · rintro ⟨⟨held, member, same⟩, unlisted⟩
          obtain ⟨entry, entryListed, entrySame⟩ : ∃ entry ∈ allowed,
              normalizePermission entry = normalizePermission permission.asStrName := by
            simpa [empty] using unlisted
          refine ⟨held, ⟨member, ?_⟩, same⟩
          simp only [List.contains_iff_mem, List.mem_map]
          exact ⟨entry, entryListed, entrySame.trans same.symm⟩

theorem clampPermissions_ipcTargets (id : String) :
    (ctx.clampPermissions id manifest).ipcTargets = manifest.ipcTargets := by
  simp only [Context.clampPermissions]
  split
  · rfl
  · split
    · rfl
    · split <;> rfl

end Admission

section Registration
variable {msg : IncomingMessage β} {st : RouterState β} {updated : PluginRegistry}

theorem registerPlugin_manifest (done : st.registerPlugin now msg register manifest = .ok updated)
    (found : updated.get register.pluginId = some entry) :
    entry.manifest.permissions = manifest.permissions ∧ entry.manifest.ipcTargets = manifest.ipcTargets := by
  simp only [registerPlugin] at done
  split at done
  next mux =>
    rw [(insertEntry_ok done).get, if_pos (muxDevice_named mux)] at found
    cases found
    exact ⟨rfl, rfl⟩
  · rw [(insertEntry_ok done).get, if_pos rfl] at found
    cases found
    exact ⟨rfl, rfl⟩

theorem Update.joined (update : Update ctx now msg st updated) (absent : st.registry.get id = none)
    (found : updated.get id = some entry) :
    ∃ register manifest secret, ToKernel ctx msg (.pluginRegister register) ∧ register.pluginId = id ∧
      ctx.admitRegister now register = .ok (manifest, secret) ∧
      st.registerPlugin now msg register manifest = .ok updated := by
  cases update with
  | registered done arrived admitted =>
    refine ⟨_, _, _, arrived, ?_, admitted, done⟩
    obtain ⟨added, _, named, inserted⟩ := registerPlugin_ok done
    rcases inserted.found found with old | ⟨same, _⟩
    · cases absent.symm.trans old
    · rw [same, named]
  | same | ponged | routed | direct | resolved | touched | aborted | closed => cases absent.symm.trans found

end Registration

section Runs
variable {kernel next : Kernel β} {id : String}

theorem entry_kept {later : Kernel β} (found : kernel.router.registry.get id = some entry)
    (run : Run (Kernel.step ctx) (keepsRegistered id) kernel later) : later.router.registry.get id = some entry := by
  apply run.preserves found
  intro state action next allowed step found
  rcases (step_registry step).keeps found with kept | gone
  · exact kept
  · simp [keepsRegistered, gone, found] at allowed

theorem joined_entry {validate now msg rest register claims}
    (authenticated : ctx.validate = some validate) (head : kernel.incoming = msg :: rest)
    (arrived : ToKernel ctx msg (.pluginRegister register)) (valid : validate now register.jwtToken = .ok claims)
    (step : kernel.step ctx (.route now) = some next)
    (absent : kernel.router.registry.get register.pluginId = none)
    (accepted : next.router.registry.get register.pluginId = some entry) :
    (∀ permission, entry.manifest.holds permission = true ↔ Granted ctx claims register.pluginId permission) ∧
      entry.manifest.ipcTargets = claims.ipcTargets := by
  obtain ⟨_, _, own, rfl⟩ := route_some step
  cases head.symm.trans own
  have update := (routeMessage_routed ctx now msg kernel.router).registry
  rw [← checkIpcRate_registry ctx now msg kernel.router] at absent
  obtain ⟨_, manifest, secret, same, _, admitted, done⟩ := update.joined absent accepted
  cases arrived.unique same
  obtain ⟨_, declared, passed, _, rfl⟩ := admitRegister_iff.mp admitted
  obtain ⟨_, known, _, rfl⟩ := (authenticate_iff authenticated).mp passed
  cases valid.symm.trans known
  obtain ⟨permissions, targets⟩ := registerPlugin_manifest done accepted
  refine ⟨?_, targets.trans (clampPermissions_ipcTargets _)⟩
  intro permission
  rw [holds_iff, permissions, ← holds_iff]
  exact clampPermissions_holds rfl

/-- With authentication on, a plugin that registers may do what its token claims within
what the configuration allows, and may address whom the token names, until it is
unregistered. What its manifest declares does not matter. -/
theorem granted_permissions (ctx : Context β) (validate : Moment → String → Except VynkorError PluginClaims)
    (authenticated : ctx.validate = some validate) (kernel next later : Kernel β) (now : Moment)
    (msg : IncomingMessage β) (rest : List (IncomingMessage β)) (register : PluginRegister) (claims : PluginClaims)
    (entry : PluginEntry) (head : kernel.incoming = msg :: rest) (arrived : ToKernel ctx msg (.pluginRegister register))
    (valid : validate now register.jwtToken = .ok claims) (step : kernel.step ctx (.route now) = some next)
    (absent : kernel.router.registry.get register.pluginId = none)
    (accepted : next.router.registry.get register.pluginId = some entry)
    (run : Run (Kernel.step ctx) (keepsRegistered register.pluginId) next later) :
    (∀ permission, permission ≠ .unknown →
      ((checkPermission later.router.registry register.pluginId permission).isOk = true ↔
        Granted ctx claims register.pluginId permission)) ∧
      ∃ kept, later.router.registry.get register.pluginId = some kept ∧ kept.manifest.ipcTargets = claims.ipcTargets := by
  obtain ⟨held, targets⟩ := joined_entry authenticated head arrived valid step absent accepted
  have kept := entry_kept accepted run
  refine ⟨?_, entry, kept, targets⟩
  intro permission _
  rw [checkPermission_isOk kept]
  exact held permission

end Runs

section Desk
open Scenario

def deskClaims (token : String) : PluginClaims where
  sub := token
  permissions := ["network", "PERMISSION_STORAGE", "ipc_send"]
  ipcTargets := ["store"]
  exp := 86400
  iat := 0

/-- The configuration allows the reader less than its token claims. -/
def deskContext : Context Packet where
  wire := Packet.wire
  validate := some fun _ token => .ok (deskClaims token)
  macSecret := some [1]
  configPermissions := some ((∅ : DashMap String (List String)).insert "reader" ["storage", "PERMISSION_Network"])

def readerRegister : PluginRegister where
  pluginId := "reader"
  manifest := some { permissions := ["secrets", "storage"], ipcTargets := ["vault"] }
  jwtToken := "reader"

def readerJoins : IncomingMessage Packet := sends 1 "kernel" (.pluginRegister readerRegister)

def readerWaits : Kernel Packet :=
  (exec (Kernel.step deskContext) unguarded {} [.accept 1 .uds, .receive readerJoins]).get (by decide +kernel)

def readerJoined : Kernel Packet := (readerWaits.step deskContext (.route start)).get (by decide +kernel)

def readerEntry : PluginEntry := (readerJoined.router.registry.get "reader").get (by decide +kernel)

def readerLater : Kernel Packet :=
  (exec (Kernel.step deskContext) (keepsRegistered "reader") readerJoined [.accept 2 .ws, .stop "store", .hangup 2]).get
    (by decide +kernel)

theorem granted_permissions_reader : (∀ permission, permission ≠ .unknown →
    ((checkPermission readerLater.router.registry "reader" permission).isOk = true ↔
      Granted deskContext (deskClaims "reader") "reader" permission)) ∧
    ∃ kept, readerLater.router.registry.get "reader" = some kept ∧ kept.manifest.ipcTargets = ["store"] :=
  granted_permissions deskContext (fun _ token => .ok (deskClaims token)) rfl readerWaits readerJoined readerLater start
    readerJoins [] readerRegister (deskClaims "reader") readerEntry rfl
    ⟨by decide +kernel, { payload := some (.pluginRegister readerRegister) }, rfl, rfl⟩ rfl (Option.some_get _).symm
    (by decide +kernel) (Option.some_get _).symm (exec_get_run (by decide +kernel))

end Desk
end Vynkor.Proofs
