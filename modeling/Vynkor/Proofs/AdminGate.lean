import Vynkor.Api.Middleware
import Vynkor.Proofs.GrantedPermissions

/-! The two gates in front of kernel administration: the REST routes read the token as
it is spelled, the router reads what registration has made of it. -/

namespace Vynkor.Proofs
open Execution RouterState

section Gates
variable {β : Type} {ctx : Context β} {validate : Moment → String → Except VynkorError PluginClaims} {now : Moment}
  {token : String} {claims : PluginClaims}

def bearing (token : String) : Api.Request := { authorization := some ("Bearer " ++ token) }

def reachesHandler (ctx : Context β) (now : Moment) (request : Api.Request) : Bool :=
  (Api.adminRoute ctx.validate now (fun _ => .ok ()) request).isOk

theorem bearerToken_bearing (token : String) : Api.bearerToken (bearing token) = some token := by
  simp [Api.bearerToken, bearing, Text.stripPrefix, Text.startsWith]

theorem reachesHandler_iff (authenticated : ctx.validate = some validate) (valid : validate now token = .ok claims) :
    reachesHandler ctx now (bearing token) = true ↔ "PERMISSION_KERNEL_ADMIN" ∈ claims.permissions := by
  simp only [reachesHandler, Api.adminRoute, Api.authMiddleware, authenticated, bearerToken_bearing, valid,
    Api.requireKernelAdmin]
  split
  next listed => simpa [Except.isOk, Except.toBool, PermissionType.asStrName] using listed
  next unlisted => simpa [Except.isOk, Except.toBool, PermissionType.asStrName] using unlisted

def passesCommandGate (st : RouterState β) (msg : IncomingMessage β) (command : KernelCommand) : Bool :=
  readonlyCommands.contains command.command || (checkPermission st.registry (st.senderId msg) .kernelAdmin).isOk

theorem commandOutcome_gate (st : RouterState β) (msg : IncomingMessage β) (command : KernelCommand) :
    st.commandOutcome ctx now (st.senderId msg) command =
      if passesCommandGate st msg command then ctx.dispatch st.registry now command.command command.paramsJson
      else .permissionDenied (st.senderId msg ++ " lacks PERMISSION_KERNEL_ADMIN") := by
  simp only [commandOutcome, passesCommandGate]
  by_cases readonly : command.command ∈ readonlyCommands
  · simp [readonly]
  · by_cases held : (checkPermission st.registry (st.senderId msg) .kernelAdmin).isOk = true
    · simp [readonly, held]
    · simp [readonly, held]

/-- The configuration lists the permission for the plugin, in any spelling, or lists
nothing. -/
def Allows (ctx : Context β) (id : String) : Prop :=
  configuredPermissions ctx id = none ∨ configuredPermissions ctx id = some [] ∨
    ∃ allowed, configuredPermissions ctx id = some allowed ∧
      ∃ listed ∈ allowed, normalizePermission listed = normalizePermission PermissionType.kernelAdmin.asStrName

/-- The token has the permission as the proto spells it if it has it in any spelling and
the configuration allows it, and else it has not. -/
structure OneSpelling (ctx : Context β) (claims : PluginClaims) (id : String) : Prop where
  spelled : Allows ctx id → ∀ claimed ∈ claims.permissions,
    normalizePermission claimed = normalizePermission PermissionType.kernelAdmin.asStrName →
      "PERMISSION_KERNEL_ADMIN" ∈ claims.permissions
  allowed : "PERMISSION_KERNEL_ADMIN" ∈ claims.permissions → Allows ctx id

theorem oneSpelling_iff {id : String} :
    ("PERMISSION_KERNEL_ADMIN" ∈ claims.permissions ↔ Granted ctx claims id .kernelAdmin) ↔
      OneSpelling ctx claims id := by
  constructor
  · intro agree
    exact ⟨fun allowed claimed member same => agree.mpr ⟨⟨claimed, member, same⟩, allowed⟩,
      fun listed => (agree.mp listed).2⟩
  · intro one
    refine ⟨fun listed => ⟨⟨_, listed, rfl⟩, one.allowed listed⟩, ?_⟩
    rintro ⟨⟨claimed, member, same⟩, allowed⟩
    exact one.spelled allowed claimed member same

end Gates

/-- A REST request with a token and a command of the plugin that has registered with it
pass the gate or do not, both alike, just if the token spells the permission once. -/
theorem admin_gates_agree {β : Type} (ctx : Context β) (validate : Moment → String → Except VynkorError PluginClaims)
    (authenticated : ctx.validate = some validate) (kernel next later : Kernel β) (requested now : Moment)
    (msg : IncomingMessage β) (rest : List (IncomingMessage β)) (register : PluginRegister) (claims : PluginClaims)
    (entry : PluginEntry) (token : String) (presented : validate requested token = .ok claims)
    (valid : validate now token = .ok claims) (own : claims.sub = register.pluginId)
    (same : register.jwtToken = token) (head : kernel.incoming = msg :: rest)
    (arrived : ToKernel ctx msg (.pluginRegister register)) (step : kernel.step ctx (.route now) = some next)
    (absent : kernel.router.registry.get register.pluginId = none)
    (accepted : next.router.registry.get register.pluginId = some entry)
    (run : Run (Kernel.step ctx) (keepsRegistered register.pluginId) next later) (commanding : IncomingMessage β)
    (command : KernelCommand) (sender : later.router.senderId commanding = claims.sub)
    (writes : command.command ∉ readonlyCommands) :
    (reachesHandler ctx requested (bearing token) = true ↔ passesCommandGate later.router commanding command = true) ↔
      OneSpelling ctx claims claims.sub := by
  subst same
  obtain ⟨held, _⟩ := joined_entry authenticated head arrived valid step absent accepted
  have kept := entry_kept accepted run
  rw [own] at sender ⊢
  rw [← oneSpelling_iff, reachesHandler_iff authenticated presented, ← held .kernelAdmin, ← checkPermission_isOk kept]
  simp [passesCommandGate, sender, writes]

section Counter
open Scenario

def clerkClaims (permission token : String) : PluginClaims where
  sub := token
  permissions := [permission]
  ipcTargets := []
  exp := 86400
  iat := 0

/-- Every token claims the one permission, and the clerk is allowed what is listed. -/
def counterContext (permission : String) (allowed : List String) : Context Packet where
  wire := Packet.wire
  validate := some fun _ token => .ok (clerkClaims permission token)
  configPermissions := some ((∅ : DashMap String (List String)).insert "clerk" allowed)

def clerkRegister : PluginRegister := { pluginId := "clerk", jwtToken := "clerk" }

def clerkJoins : IncomingMessage Packet := sends 1 "kernel" (.pluginRegister clerkRegister)

def inventory : KernelCommand := { commandId := "1", command := "list_devices" }

def clerkAsks : IncomingMessage Packet := sends 1 "kernel" (.kernelCommand inventory)

def clerkWaits (ctx : Context Packet) : Option (Kernel Packet) :=
  exec (Kernel.step ctx) unguarded {} [.accept 1 .uds, .receive clerkJoins]

def clerkJoined (ctx : Context Packet) : Option (Kernel Packet) :=
  (clerkWaits ctx).bind fun kernel => kernel.step ctx (.route start)

def bothGates (ctx : Context Packet) : Option (Bool × Bool) :=
  (clerkJoined ctx).map fun kernel =>
    (reachesHandler ctx start (bearing "clerk"), passesCommandGate kernel.router clerkAsks inventory)

def listedContext : Context Packet := counterContext "PERMISSION_KERNEL_ADMIN" ["kernel_admin"]

def listedWaits : Kernel Packet := (clerkWaits listedContext).get (by decide +kernel)

def listedJoined : Kernel Packet := (listedWaits.step listedContext (.route start)).get (by decide +kernel)

theorem admin_gates_agree_clerk : reachesHandler listedContext start (bearing "clerk") = true ↔
    passesCommandGate listedJoined.router clerkAsks inventory = true :=
  (admin_gates_agree listedContext (fun _ token => .ok (clerkClaims "PERMISSION_KERNEL_ADMIN" token)) rfl listedWaits
    listedJoined listedJoined start start clerkJoins [] clerkRegister (clerkClaims "PERMISSION_KERNEL_ADMIN" "clerk")
    ((listedJoined.router.registry.get "clerk").get (by decide +kernel)) "clerk" rfl rfl rfl rfl rfl
    ⟨by decide +kernel, { payload := some (.pluginRegister clerkRegister) }, rfl, rfl⟩ (Option.some_get _).symm
    (by decide +kernel) (Option.some_get _).symm (.refl _) clerkAsks inventory (by decide +kernel)
    (by decide +kernel)).mpr
    ⟨fun _ _ _ _ => by decide, fun _ => .inr (.inr ⟨["kernel_admin"], rfl, by decide +kernel⟩)⟩

/-- The short spelling passes the router only; a claim that the configuration does not
allow passes the REST gate only. -/
theorem admin_gates_differ :
    bothGates (counterContext "kernel_admin" []) = some (false, true) ∧
    bothGates (counterContext "PERMISSION_KERNEL_ADMIN" ["storage"]) = some (true, false) := by
  decide +kernel

end Counter
end Vynkor.Proofs
