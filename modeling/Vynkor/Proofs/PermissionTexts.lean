import Vynkor.Proofs.GrantedPermissions

/-! The two ways to read the text of a permission. The loader resolves it to a type, in
upper case; grants and allowlists are compared in lower case. Both take the same prefix
off first. -/

namespace Vynkor.Proofs
variable {β : Type} {text : String} {permission : PermissionType}

def bareName (text : String) : String := (Text.stripPrefix text "PERMISSION_").getD text

theorem bareName_append (rest : String) : bareName ("PERMISSION_" ++ rest) = rest := by
  rw [bareName, Text.stripPrefix_append, Option.getD_some]

/-- What is assumed of the generated names: each is read back as its permission, and is
the prefix and a rest in upper case. -/
structure PermissionNames (α : Type) where
  asStrName : α → String
  fromStrName : String → Option α
  inverse : ∀ name permission, fromStrName name = some permission ↔ asStrName permission = name
  upper : ∀ permission, asStrName permission = "PERMISSION_" ++ bareName (asStrName permission) ∧
    Text.toAsciiUppercase (bareName (asStrName permission)) = bareName (asStrName permission)

section Reading
variable {α : Type} [DecidableEq α] (names : PermissionNames α) {permission unknown : α}
  (known : permission ≠ unknown)
include known

theorem resolveAs_some : resolveAs names.fromStrName unknown text = some permission ↔
    names.asStrName permission = "PERMISSION_" ++ Text.toAsciiUppercase (bareName text) := by
  rw [← names.inverse, resolveAs, bareName]
  cases Text.stripPrefix text "PERMISSION_" with
  | none | some =>
    simp only [Option.getD_none, Option.getD_some]
    generalize names.fromStrName _ = found
    cases found with
    | none => simp
    | some other =>
      by_cases placeholder : other = unknown
      · simp [placeholder, known.symm]
      · simp [placeholder]

/-- Names are written in upper case, so the lower case of a text decides. -/
theorem resolveAs_iff : resolveAs names.fromStrName unknown text = some permission ↔
    normalizePermission text = normalizePermission (names.asStrName permission) := by
  obtain ⟨whole, upper⟩ := names.upper permission
  have stems : normalizePermission text = normalizePermission (names.asStrName permission) ↔
      Text.toAsciiUppercase (bareName text) = bareName (names.asStrName permission) := by
    rw [← upper]
    exact Text.lowercase_eq_iff
  rw [resolveAs_some names known, stems]
  constructor
  · intro named
    rw [named, bareName_append]
  · intro same
    rw [same]
    exact whole

end Reading

theorem fromStrName_iff (name : String) (permission : PermissionType) :
    PermissionType.fromStrName name = some permission ↔ permission.asStrName = name := by
  constructor
  · intro found
    have matched := List.find?_some (show PermissionType.all.find? (·.asStrName == name) = some permission from found)
    exact beq_iff_eq.mp matched
  · rintro rfl
    cases permission <;> decide +kernel

theorem asStrName_bare (permission : PermissionType) :
    permission.asStrName = "PERMISSION_" ++ bareName permission.asStrName ∧
      Text.toAsciiUppercase (bareName permission.asStrName) = bareName permission.asStrName := by
  cases permission <;> decide +kernel

def generatedNames : PermissionNames PermissionType where
  asStrName := PermissionType.asStrName
  fromStrName := PermissionType.fromStrName
  inverse := fromStrName_iff
  upper := asStrName_bare

theorem resolvePermission_iff (known : permission ≠ .unknown) : resolvePermission text = some permission ↔
    normalizePermission text = normalizePermission permission.asStrName :=
  resolveAs_iff generatedNames known

theorem requirements_get {specs : List ActionSpec} {action : String}
    (found : (PluginLoader.requirements specs).get action = some permission) :
    ∃ spec ∈ specs, spec.name = action ∧ ∃ text, spec.permission = some text ∧
      resolvePermission text = some permission := by
  induction specs using List.reverseRecOn with
  | nil => cases found
  | append_singleton earlier spec ih =>
    have kept (old : (PluginLoader.requirements earlier).get action = some permission) :
        ∃ spec' ∈ earlier ++ [spec], spec'.name = action ∧ ∃ text, spec'.permission = some text ∧
          resolvePermission text = some permission := by
      obtain ⟨known, member, resolved⟩ := ih old
      exact ⟨known, List.mem_append_left _ member, resolved⟩
    rw [PluginLoader.requirements, List.foldl_append, List.foldl_cons, List.foldl_nil] at found
    split at found
    next resolved needed =>
      rw [DashMap.get_insert] at found
      split at found
      next same =>
        cases found
        obtain ⟨text, written, reads⟩ := Option.bind_eq_some_iff.mp needed
        exact ⟨spec, List.mem_append_right _ List.mem_cons_self, same.symm, text, written, reads⟩
      · exact kept found
    · exact kept found

/-- Wherever a text of a permission is read, it stands for the type that it resolves to. -/
theorem permission_texts_agree (permission : PermissionType) (known : permission ≠ .unknown) :
    (∀ text, resolvePermission text = some permission ↔
      normalizePermission text = normalizePermission permission.asStrName) ∧
    (∀ specs action, (PluginLoader.requirements specs).get action = some permission →
      ∃ spec ∈ specs, spec.name = action ∧ ∃ text, spec.permission = some text ∧
        resolvePermission text = some permission) ∧
    (∀ registry id entry, registry.get id = some entry → ((checkPermission registry id permission).isOk = true ↔
      ∃ granted ∈ entry.manifest.permissions, resolvePermission granted = some permission)) ∧
    ∀ (ctx : Context β) id manifest allowed, configuredPermissions ctx id = some allowed → allowed ≠ [] →
      ((ctx.clampPermissions id manifest).holds permission = true ↔
        (∃ granted ∈ manifest.permissions, resolvePermission granted = some permission) ∧
          ∃ listed ∈ allowed, resolvePermission listed = some permission) := by
  refine ⟨fun _ => resolvePermission_iff known, fun _ _ => requirements_get, ?_, ?_⟩
  · intro registry id entry found
    rw [checkPermission_isOk found, holds_iff]
    simp only [resolvePermission_iff known]
  · intro ctx id manifest allowed configured nonempty
    have claimed : manifest.permissions =
        ({ sub := id, permissions := manifest.permissions, exp := 0, iat := 0 } : PluginClaims).permissions := rfl
    rw [clampPermissions_holds claimed, Granted, configured]
    simp [nonempty, resolvePermission_iff known]

/-- The prefix is taken off in upper case only. -/
theorem permission_texts_agree_storage : PermissionType.storage ≠ .unknown ∧
    resolvePermission "PERMISSION_Storage" = some .storage ∧
    resolvePermission "permission_storage" ≠ some .storage := by
  have readings := (@permission_texts_agree Packet .storage (by decide)).1
  refine ⟨by decide, (readings "PERMISSION_Storage").mpr (by decide +kernel), ?_⟩
  intro read
  have same := (readings "permission_storage").mp read
  revert same
  decide +kernel

end Vynkor.Proofs
