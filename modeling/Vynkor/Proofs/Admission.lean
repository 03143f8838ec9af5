import Vynkor.Router.Register

/-! The gates of a registration, one after the other: protocol version, token, device
credential. -/

namespace Vynkor.Proofs

section Gates
variable {β : Type} {ctx : Context β} {now : Moment} {register : PluginRegister} {manifest : PluginManifest}
  {secret : Option Bytes} {validate : Moment → String → Except VynkorError PluginClaims} {claims : PluginClaims}

/-- The token is one of the plugin, or of the device that the registration declares. -/
def authorizes (claims : PluginClaims) (register : PluginRegister) : Prop :=
  claims.sub = register.pluginId ∨ register.deviceId ≠ "" ∧ claims.sub = register.deviceId

def withClaims (manifest : PluginManifest) (claims : PluginClaims) : PluginManifest :=
  { manifest with permissions := claims.permissions, ipcTargets := claims.ipcTargets }

theorem admitRegister_iff : ctx.admitRegister now register = .ok (manifest, secret) ↔
    ctx.checkProtocolVersion register = .ok () ∧ ∃ declared, ctx.authenticate now register = .ok declared ∧
      ctx.deviceSecret now register = .ok secret ∧ ctx.clampPermissions register.pluginId declared = manifest := by
  simp only [Context.admitRegister, bind, Except.bind, pure, Except.pure]
  cases ctx.checkProtocolVersion register with
  | error => simp
  | ok =>
    cases ctx.authenticate now register with
    | error => simp
    | ok declared =>
      cases ctx.deviceSecret now register with
      | error => simp
      | ok found => simp [and_comm]

theorem authenticate_iff (authenticated : ctx.validate = some validate) :
    ctx.authenticate now register = .ok manifest ↔ ∃ claims, validate now register.jwtToken = .ok claims ∧
      authorizes claims register ∧ withClaims (register.manifest.getD {}) claims = manifest := by
  simp only [Context.authenticate, authenticated]
  cases validate now register.jwtToken with
  | error => simp
  | ok claims =>
    have mismatch : (claims.sub ≠ register.pluginId ∧ ¬(register.deviceId ≠ "" ∧ claims.sub = register.deviceId)) ↔
        ¬authorizes claims register := by
      rw [authorizes, not_or]
    simp only [Except.ok.injEq, exists_eq_left']
    split
    next refused => simp [mismatch.mp refused]
    next passed => simp [not_not.mp (mt mismatch.mpr passed), withClaims]

end Gates
end Vynkor.Proofs
