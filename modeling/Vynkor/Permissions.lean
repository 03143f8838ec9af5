import Vynkor.Registry

/-! Permission checks: what a plugin may do, and whom it may address. -/

namespace Vynkor

/-- The hardcoded map from actions to permissions is gone; only the call remains. -/
def requiredPermissionForAction (_action : String) : Option PermissionType := none

/-- The reading of a text, given how the names of the enumeration are read. -/
def resolveAs {α : Type} [DecidableEq α] (fromStrName : String → Option α) (unknown : α) (text : String) : Option α :=
  let name :=
    match Text.stripPrefix text "PERMISSION_" with
    | some rest => "PERMISSION_" ++ Text.toAsciiUppercase rest
    | none => "PERMISSION_" ++ Text.toAsciiUppercase text
  match fromStrName name with
  | none => none
  | some permission => if permission = unknown then none else some permission

def resolvePermission : String → Option PermissionType := resolveAs PermissionType.fromStrName .unknown

def normalizePermission (text : String) : String :=
  Text.toAsciiLowercase ((Text.stripPrefix text "PERMISSION_").getD text)

/-- The manifest lists the permission, in either of its two spellings. -/
def PluginManifest.holds (manifest : PluginManifest) (required : PermissionType) : Bool :=
  manifest.permissions.any fun permission =>
    normalizePermission permission == normalizePermission required.asStrName

def checkPermission (registry : PluginRegistry) (pluginId : String) (required : PermissionType) :
    Except VynkorError Unit :=
  match registry.get pluginId with
  | none => .error (.pluginNotFound pluginId)
  | some entry =>
    if entry.manifest.holds required then .ok ()
    else .error (.permissionDenied (pluginId ++ " lacks " ++ required.asStrName))

def checkIpcSend (registry : PluginRegistry) (pluginId : String) : Except VynkorError Unit :=
  checkPermission registry pluginId .ipcSend

def checkIpcTarget (registry : PluginRegistry) (senderId targetId : String) : Except VynkorError Unit :=
  match registry.get senderId with
  | none => .error (.pluginNotFound senderId)
  | some entry =>
    let listed : Except VynkorError Unit :=
      if entry.manifest.ipcTargets.any (· == targetId) then .ok ()
      else .error (.permissionDenied (senderId ++ " ipc_targets does not include " ++ targetId))
    match registry.get targetId with
    | none => listed
    | some target =>
      if target.userId ≠ entry.userId then
        .error (.permissionDenied ("cross-user IPC denied: " ++ senderId ++ " (user " ++ entry.userId ++ ") -> "
          ++ targetId ++ " (user " ++ target.userId ++ ")"))
      else listed

theorem isOk_iff {ε α : Type} {outcome : Except ε α} : outcome.isOk = true ↔ ∃ value, outcome = .ok value := by
  cases outcome <;> simp [Except.isOk, Except.toBool]

section Registered
variable {registry : PluginRegistry} {sender target : PluginEntry} {id targetId : String}

theorem checkPermission_isOk (found : registry.get id = some sender) (required : PermissionType) :
    (checkPermission registry id required).isOk = sender.manifest.holds required := by
  simp only [checkPermission, found]
  cases held : sender.manifest.holds required with
  | true => simp [Except.isOk, Except.toBool]
  | false => simp [Except.isOk, Except.toBool]

theorem checkIpcTarget_isOk (found : registry.get id = some sender) (foundTarget : registry.get targetId = some target) :
    (checkIpcTarget registry id targetId).isOk = true ↔
      target.userId = sender.userId ∧ targetId ∈ sender.manifest.ipcTargets := by
  simp only [checkIpcTarget, found, foundTarget]
  split
  next different => simp [Except.isOk, Except.toBool, different]
  next same =>
    split
    next listed =>
      simp only [List.any_eq_true, beq_iff_eq, exists_eq_right] at listed
      simp [Except.isOk, Except.toBool, not_not.mp same, listed]
    next unlisted =>
      simp only [List.any_eq_true, beq_iff_eq, exists_eq_right] at unlisted
      simp [Except.isOk, Except.toBool, unlisted]

end Registered
end Vynkor
