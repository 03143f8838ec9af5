import Vynkor.Proofs.Admission
import Vynkor.Proofs.Credentials
import Vynkor.Proofs.Unregistered

/-! A device that is revoked, or whose credential has expired, does not get in with
its token, as long as the registration names the device. -/

namespace Vynkor.Proofs

open RouterState

section Refusal
variable {β : Type} {ctx : Context β} {now : Moment} {msg : IncomingMessage β} {st : RouterState β}
  {register : PluginRegister}

theorem registers_none_iff (arrived : ToKernel ctx msg (.pluginRegister register)) :
    registers ctx now msg st = none ↔ (admits ctx now msg st = true → ∀ manifest secret,
      ctx.admitRegister now register = .ok (manifest, secret) →
        (st.registerPlugin now msg register manifest).isOk = false) := by
  obtain ⟨aimed, envelope, decoded, holds⟩ := arrived
  simp only [registers, aimed, acceptedRegister, registerIn, payloadIn, decoded, Option.bind_some, holds]
  cases admits ctx now msg st with
  | false => simp
  | true =>
    cases ctx.admitRegister now register with
    | error => simp
    | ok admitted =>
      obtain ⟨manifest, secret⟩ := admitted
      simp

theorem registry_of_registers_none (arrived : ToKernel ctx msg (.pluginRegister register))
    (never : registers ctx now msg st = none) : (st.routeMessage ctx now msg).1.registry = st.registry := by
  have refused := (registers_none_iff arrived).mp never
  obtain ⟨aimed, envelope, decoded, holds⟩ := arrived
  cases passes : admits ctx now msg st with
  | false => rw [(routeMessage_refused passes).registry, checkIpcRate_registry]
  | true =>
    rw [routeMessage_handled passes aimed, recordOutcome_registry]
    obtain ⟨calls, quiet⟩ := checkIpcRate_quiet ctx now msg st
    rw [quiet]
    simp only [handleTarget, if_true, handleKernelMessage, decoded, holds, isRegister, Bool.not_true, Bool.false_and,
      Bool.false_eq_true, if_false, handlePayload]
    exact (handleRegister_aside (by exact refused passes)).registry

/-- The registry has a place for the id and for the connection. -/
structure HasPlace (registry : PluginRegistry) (id : String) (connId : Nat) : Prop where
  valid : validatePluginId id = .ok ()
  freeConn : registry.getByConnId connId = none
  freeId : registry.get id = none

theorem getByConnId_none_iff {registry : PluginRegistry} {connId : Nat} :
    registry.getByConnId connId = none ↔ registry.plugins.byConnId.get connId = none := by
  rw [PluginRegistry.getByConnId]
  cases held : registry.plugins.byConnId.get connId with
  | none => simp
  | some id =>
    obtain ⟨other, found, _⟩ := registry.plugins.backed _ _ held
    simp [PluginRegistry.get, found]

theorem insertEntry_isOk {registry : PluginRegistry} {entry : PluginEntry} {details : DeviceMeta}
    {capabilities : List String} : (registry.insertEntry now entry details capabilities).isOk = true ↔
      HasPlace registry entry.pluginId entry.connId := by
  rw [PluginRegistry.insertEntry]
  split
  next error invalid =>
    refine ⟨fun done => (Bool.false_ne_true done).elim, fun takes => ?_⟩
    cases invalid.symm.trans takes.valid
  next valid =>
    by_cases freeConn : registry.plugins.byConnId.get entry.connId = none
    · by_cases freeId : registry.plugins.byPluginId.get entry.pluginId = none
      · rw [dif_pos freeConn, dif_pos freeId]
        exact ⟨fun _ => ⟨valid, getByConnId_none_iff.mpr freeConn, freeId⟩, fun _ => rfl⟩
      · rw [dif_pos freeConn, dif_neg freeId]
        exact ⟨fun done => (Bool.false_ne_true done).elim, fun takes => absurd takes.freeId freeId⟩
    · rw [dif_neg freeConn]
      exact ⟨fun done => (Bool.false_ne_true done).elim,
        fun takes => absurd (getByConnId_none_iff.mp takes.freeConn) freeConn⟩

theorem registerPlugin_isOk {manifest : PluginManifest} :
    (st.registerPlugin now msg register manifest).isOk = true ↔ HasPlace st.registry register.pluginId msg.connId := by
  rw [registerPlugin]
  split
  next mux =>
    rw [muxDevice_named mux]
    exact insertEntry_isOk
  · exact insertEntry_isOk

variable {cipher : Cipher} {store : DeviceStore} {rows : List DeviceRecord}

theorem deviceSecret_ok_iff (keyed : ctx.macSecret.isSome = true)
    (stored : ctx.activeSecret = some fun now deviceId =>
      (store.activeSecret cipher (.ok rows) now.unixSecs deviceId).map (·.map utf8)) :
    (∃ secret, ctx.deviceSecret now register = .ok secret) ↔ register.deviceId = "" ∨
      ∃ text, store.activeSecret cipher (.ok rows) now.unixSecs register.deviceId = .ok (some text) := by
  by_cases none : register.deviceId = ""
  · simp [Context.deviceSecret, none]
  · simp only [Context.deviceSecret, stored, if_pos (And.intro none keyed), none, false_or]
    cases store.activeSecret cipher (.ok rows) now.unixSecs register.deviceId with
    | error => simp [Except.map]
    | ok found => cases found <;> simp [Except.map]

end Refusal

/-- The registration is handled, names the device as the plugin, and declares no device or
one that is active; and the registry has a place for it. -/
structure SlipsIn {β : Type} (ctx : Context β) (cipher : Cipher) (store : DeviceStore) (rows : List DeviceRecord)
    (now : Moment) (msg : IncomingMessage β) (st : RouterState β) (register : PluginRegister) (deviceId : String) :
    Prop where
  handled : admits ctx now msg st = true
  compatible : ctx.checkProtocolVersion register = .ok ()
  plugin : register.pluginId = deviceId
  undeclared : register.deviceId = "" ∨
    ∃ secret, store.activeSecret cipher (.ok rows) now.unixSecs register.deviceId = .ok (some secret)
  takes : HasPlace st.registry deviceId msg.connId

/-- A token of a device without an active credential is refused, and the registry left as it
is, if and only if the registration does not slip in under the name of the device without
declaring it. -/
theorem inactive_device_refused {β : Type} (ctx : Context β) (validate : Moment → String → Except VynkorError PluginClaims)
    (cipher : Cipher) (store : DeviceStore) (rows : List DeviceRecord) (row : DeviceRecord) (deviceId : String)
    (now : Moment) (msg : IncomingMessage β) (st : RouterState β) (register : PluginRegister) (claims : PluginClaims)
    (authenticated : ctx.validate = some validate) (keyed : ctx.macSecret.isSome = true)
    (stored : ctx.activeSecret = some fun now deviceId =>
      (store.activeSecret cipher (.ok rows) now.unixSecs deviceId).map (·.map utf8))
    (found : (rows.find? fun row => row.deviceId = deviceId) = some row)
    (inactive : row.status now.unixSecs = .revoked ∨ row.status now.unixSecs = .expired)
    (arrived : ToKernel ctx msg (.pluginRegister register))
    (valid : validate now register.jwtToken = .ok claims) (subject : claims.sub = deviceId) :
    (registers ctx now msg st = none ∧ (st.routeMessage ctx now msg).1.registry = st.registry) ↔
      ¬SlipsIn ctx cipher store rows now msg st register deviceId := by
  subst subject
  constructor
  · rintro ⟨never, _⟩ slips
    obtain ⟨secret, device⟩ := (deviceSecret_ok_iff keyed stored).mpr slips.undeclared
    have admitted := admitRegister_iff.mpr ⟨slips.compatible, _, (authenticate_iff authenticated).mpr
      ⟨claims, valid, .inl slips.plugin.symm, rfl⟩, device, rfl⟩
    have refused := (registers_none_iff arrived).mp never slips.handled _ _ admitted
    rw [registerPlugin_isOk.mpr (slips.plugin ▸ slips.takes)] at refused
    cases refused
  · intro shut
    have never : registers ctx now msg st = none := by
      rw [registers_none_iff arrived]
      intro handled manifest secret admitted
      rw [Bool.eq_false_iff]
      intro taken
      obtain ⟨compatible, _, passed, device, _⟩ := admitRegister_iff.mp admitted
      obtain ⟨_, known, authorized, _⟩ := (authenticate_iff authenticated).mp passed
      cases valid.symm.trans known
      have undeclared := (deviceSecret_ok_iff keyed stored).mp ⟨secret, device⟩
      have plugin : register.pluginId = claims.sub := by
        rcases authorized with plugin | ⟨some, same⟩
        · exact plugin.symm
        · -- the store is asked about the device itself
          have lost : row.status now.unixSecs ≠ .active := by
            rcases inactive with revoked | expired
            · simp [revoked]
            · simp [expired]
          obtain ⟨error, refused⟩ := activeSecret_inactive cipher store rfl found lost
          obtain ⟨text, active⟩ := undeclared.resolve_left some
          rw [← same, refused] at active
          cases active
      exact shut ⟨handled, compatible, plugin, undeclared, plugin ▸ registerPlugin_isOk.mp taken⟩
    exact ⟨never, registry_of_registers_none arrived never⟩

section Phone
open Scenario

def phoneRow : DeviceRecord := ⟨"phone", "phone", 0, 86400, true, List.replicate 13 0 ++ utf8 "secret"⟩

def tabletRow : DeviceRecord := ⟨"tablet", "tablet", 0, 86400, false, List.replicate 13 0 ++ utf8 "secret"⟩

def phoneClaims : PluginClaims where
  sub := "phone"
  permissions := ["PERMISSION_IPC_SEND"]
  exp := 86400
  iat := 0
  aud := some "vynkor"
  jti := some "00"

def hostSecret : String := "a secret of at least 32 bytes in length"

def hostConfig : Config := { jwtSecret := some hostSecret }

/-- The phone is revoked, the tablet is not. -/
def hostContext : Context Packet :=
  hostConfig.secure (singleToken phoneClaims) plainCipher (.ok [phoneRow, tabletRow]) context

def phoneRegister (deviceId : String) : PluginRegister := { pluginId := "phone", deviceId, jwtToken := "token" }

def phoneJoins (deviceId : String) : IncomingMessage Packet :=
  sends 1 "kernel" (.pluginRegister (phoneRegister deviceId))

theorem inactive_device_refused_phone : registers hostContext start (phoneJoins "phone") {} = none ∧
    ((({} : RouterState Packet).routeMessage hostContext start (phoneJoins "phone")).1.registry.get "phone").isNone := by
  have refused := inactive_device_refused hostContext
    (JwtValidator.validate (singleToken phoneClaims) (JwtValidator.withAudience (utf8 hostSecret) none))
    plainCipher (DeviceStore.new plainCipher hostSecret) [phoneRow, tabletRow] phoneRow "phone" start
    (phoneJoins "phone") {} (phoneRegister "phone") phoneClaims rfl rfl rfl rfl (.inl rfl)
    ⟨by decide +kernel, { payload := some (.pluginRegister (phoneRegister "phone")) }, rfl, rfl⟩ (by decide +kernel) rfl
  obtain ⟨never, unchanged⟩ := refused.mpr fun slips => by
    rcases slips.undeclared with none | ⟨secret, active⟩
    · exact absurd none (by decide)
    · cases active
  exact ⟨never, by rw [unchanged]; rfl⟩

/-- The store is asked about the declared device only: without one, or with another
device that is active, the revoked phone registers under its own name. -/
theorem revoked_device_accepted : phoneRow.status start.unixSecs = .revoked ∧
    hostContext.validate.map (fun validate => (validate start "token").toOption) = some (some phoneClaims) ∧
    ((({} : RouterState Packet).routeMessage hostContext start (phoneJoins "")).1.registry.get "phone").isSome = true ∧
    ((({} : RouterState Packet).routeMessage hostContext start (phoneJoins "tablet")).1.registry.get "phone").isSome =
      true := by
  decide +kernel

end Phone
end Vynkor.Proofs
