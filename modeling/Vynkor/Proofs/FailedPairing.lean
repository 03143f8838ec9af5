import Vynkor.Proofs.Pairing

/-! A pairing that fails. The credential is written before the token is minted and the
certificate is read, so that a failure of either comes too late. -/

namespace Vynkor.Proofs
open Cli

section Failed
variable {crate : TokenCrate} {cipher : Cipher} {store : DeviceStore} {config : Config} {opts : ConnectOpts}
  {around : Surroundings} {draws : Draws} {issued minted : Nat} {file written : DeviceFile} {secret deviceSecret : String}

def connectedId (opts : ConnectOpts) (draws : Draws) : String := opts.device.getD (randomDeviceId draws.device)

def connectedClaims (config : Config) (opts : ConnectOpts) (draws : Draws) (minted : Nat) : PluginClaims :=
  deviceClaims minted draws.jti (Text.trim (connectedId opts draws))
    ((opts.permissions.map parseCsv).getD defaultPermissions) ((opts.ipcTargets.map parseCsv).getD [])
    opts.ttlSeconds (opts.audience config)

/-- The call has a secret and an address, and its credential has been written. -/
structure WritesRow (cipher : Cipher) (config : Config) (opts : ConnectOpts) (around : Surroundings) (draws : Draws)
    (issued : Nat) (file : DeviceFile) (secret deviceSecret : String) (written : DeviceFile) : Prop where
  configured : config.jwtSecret = some secret
  advertised : (around.advertiseUrl opts.host).isOk = true
  wrote : ((DeviceStore.new cipher secret).issue cipher around.disk issued draws.secret draws.sealNonce
    (connectedId opts draws) (opts.name.getD (connectedId opts draws)) opts.ttlSeconds).exec file =
      (.ok deviceSecret, written)

/-- Nothing fails that comes after the credential. -/
structure Finishes (crate : TokenCrate) (config : Config) (opts : ConnectOpts) (around : Surroundings) (draws : Draws)
    (minted : Nat) (secret : String) : Prop where
  long : minJwtSecretBytes ≤ (utf8 secret).length
  named : Text.trim (connectedId opts draws) ≠ ""
  lives : opts.ttlSeconds ≠ 0
  signs : (crate.encode (utf8 secret) (connectedClaims config opts draws minted)).isOk = true
  pinned : around.certPem.isOk = true

theorem issue_error {now ttlSecs bytes nonce deviceId name disk error later}
    (failed : (store.issue cipher disk now bytes nonce deviceId name ttlSecs).exec file = (.error error, later)) :
    later = file := by
  rw [exec_issue] at failed
  split at failed
  · cases failed
    rfl
  · split at failed
    · cases failed
      rfl
    · split at failed
      · cases failed
        rfl
      · cases failed

theorem mintDeviceToken_isOk {nonce secret deviceId audience permissions targets ttlSecs} :
    (mintDeviceToken crate minted nonce secret deviceId permissions targets ttlSecs audience).isOk = true ↔
      minJwtSecretBytes ≤ secret.length ∧ Text.trim deviceId ≠ "" ∧ ttlSecs ≠ 0 ∧
        (crate.encode secret (deviceClaims minted nonce (Text.trim deviceId) permissions targets ttlSecs
          audience)).isOk = true := by
  rw [mintDeviceToken, ← Nat.not_lt]
  split
  next short => simp [short, Except.isOk, Except.toBool]
  next long =>
    split
    next blank => simp [blank, Except.isOk, Except.toBool]
    next named =>
      split
      next dead => simp [dead, Except.isOk, Except.toBool]
      next lives => split <;> simp_all [Except.isOk, Except.toBool]

theorem WritesRow.exec_connect
    (writes : WritesRow cipher config opts around draws issued file secret deviceSecret written) :
    ((connect crate cipher config opts around draws issued minted).exec file).2 = written ∧
      (((connect crate cipher config opts around draws issued minted).exec file).1.isOk = true ↔
        Finishes crate config opts around draws minted secret) := by
  obtain ⟨configured, advertised, wrote⟩ := writes
  obtain ⟨url, resolved⟩ := isOk_iff.mp advertised
  rw [connectedId] at wrote
  have finishes : Finishes crate config opts around draws minted secret ↔
      (mintDeviceToken crate minted draws.jti (utf8 secret) (connectedId opts draws)
        ((opts.permissions.map parseCsv).getD defaultPermissions) ((opts.ipcTargets.map parseCsv).getD [])
        opts.ttlSeconds (opts.audience config)).isOk = true ∧ around.certPem.isOk = true := by
    rw [mintDeviceToken_isOk]
    constructor
    · rintro ⟨long, named, lives, signs, pinned⟩
      exact ⟨⟨long, named, lives, signs⟩, pinned⟩
    · rintro ⟨⟨long, named, lives, signs⟩, pinned⟩
      exact ⟨long, named, lives, signs, pinned⟩
  rw [finishes, connectedId]
  simp only [connect, Method.exec_bind, Method.exec_ofExcept, Method.exec_adapt, configured, resolved, wrote,
    Option.elim_some, Except.mapError]
  cases mintDeviceToken crate minted draws.jti (utf8 secret) (opts.device.getD (randomDeviceId draws.device))
    ((opts.permissions.map parseCsv).getD defaultPermissions) ((opts.ipcTargets.map parseCsv).getD [])
    opts.ttlSeconds (opts.audience config) with
  | error error => simp [Except.isOk, Except.toBool]
  | ok token => cases around.certPem <;> simp [Except.isOk, Except.toBool]

/-- A call that fails before its credential is written leaves the file. -/
theorem exec_connect_unwritten
    (unwritten : ∀ secret deviceSecret written,
      ¬WritesRow cipher config opts around draws issued file secret deviceSecret written) :
    ((connect crate cipher config opts around draws issued minted).exec file).2 = file := by
  cases configured : config.jwtSecret with
  | none => simp [connect, configured]
  | some secret =>
    cases resolved : around.advertiseUrl opts.host with
    | error error => simp [connect, configured, resolved]
    | ok url =>
      cases outcome : ((DeviceStore.new cipher secret).issue cipher around.disk issued draws.secret draws.sealNonce
        (connectedId opts draws) (opts.name.getD (connectedId opts draws)) opts.ttlSeconds).exec file with
      | mk result later =>
        cases result with
        | ok deviceSecret =>
          exact absurd ⟨configured, isOk_iff.mpr ⟨url, resolved⟩, outcome⟩ (unwritten secret deviceSecret later)
        | error error =>
          have kept := issue_error outcome
          rw [connectedId] at outcome
          simp [connect, configured, resolved, outcome, Except.mapError, kept]

end Failed

/-- Whatever a pairing fails from, the credentials are as they were, if and only if nothing
can fail once the credential of the device has been written, or nothing is written. -/
theorem failed_pairing_keeps_rows (crate : TokenCrate) (cipher : Cipher) (config : Config) (opts : ConnectOpts)
    (around : Surroundings) (draws : Draws) (issued minted : Nat) (file : DeviceFile) :
    (∀ reason later, (connect crate cipher config opts around draws issued minted).exec file = (.error reason, later) →
      later = file) ↔
      ∀ secret deviceSecret written, WritesRow cipher config opts around draws issued file secret deviceSecret written →
        Finishes crate config opts around draws minted secret ∨ written = file := by
  constructor
  · intro keeps secret deviceSecret written writes
    obtain ⟨left, done⟩ := @WritesRow.exec_connect crate _ _ _ _ _ _ minted _ _ _ _ writes
    cases outcome : (connect crate cipher config opts around draws issued minted).exec file with
    | mk result later =>
      rw [outcome] at left done
      cases result with
      | ok payload => exact .inl (done.mp rfl)
      | error reason => exact .inr (left.symm.trans (keeps reason later outcome))
  · intro safe reason later failed
    by_cases wrote : ∃ secret deviceSecret written,
      WritesRow cipher config opts around draws issued file secret deviceSecret written
    · obtain ⟨secret, deviceSecret, written, writes⟩ := wrote
      obtain ⟨left, done⟩ := @WritesRow.exec_connect crate _ _ _ _ _ _ minted _ _ _ _ writes
      rw [failed] at left done
      rcases safe secret deviceSecret written writes with finishes | same
      · cases done.mpr finishes
      · exact left.trans same
    · simp only [not_exists] at wrote
      have kept := @exec_connect_unwritten crate _ _ _ _ _ _ minted _ wrote
      rwa [failed] at kept

section Hall
open Scenario

/-- The phone has been paired, and is paired again in the two thousandth second. -/
def repairs (ttlSeconds : Nat) (around : Surroundings) : Except String PairPayload × DeviceFile :=
  (connect (singleToken (connectedClaims hostConfig (hallOpts "phone" ttlSeconds) hallDraws 2000)) plainCipher hostConfig
    (hallOpts "phone" ttlSeconds) around { hallDraws with secret := Vector.replicate 32 9 } 2000 2000).exec
      (pairs "phone" 86400).2

def reasonOf : Except String PairPayload → Option String
  | .error reason => some reason
  | .ok _ => none

theorem reasonOf_some {outcome reason} (failed : reasonOf outcome = some reason) : outcome = .error reason := by
  cases outcome with
  | error => rw [Option.some.inj failed]
  | ok => cases failed

def phoneGate (file : DeviceFile) : Except VynkorError (Option String) :=
  (DeviceStore.new plainCipher hostSecret).activeSecret plainCipher file 2001 "phone"

def fullDisk : Surroundings := { hallSurroundings with disk := .error (.io "no space left on device") }

theorem failed_pairing_keeps_rows_full : repairs 60 fullDisk =
    (.error "io error: no space left on device", (pairs "phone" 86400).2) := by
  have failed : (repairs 60 fullDisk).1 = .error "io error: no space left on device" :=
    reasonOf_some (by decide +kernel)
  refine Prod.ext failed ((failed_pairing_keeps_rows _ plainCipher hostConfig (hallOpts "phone" 60) fullDisk _ 2000
    2000 _).mpr ?_ _ _ (Prod.ext failed rfl))
  intro secret deviceSecret written writes
  obtain rfl := Option.some.inj writes.configured
  exact .inl ⟨by decide +kernel, by decide +kernel, by decide, by decide +kernel, rfl⟩

def unreadableCert : Surroundings := { hallSurroundings with certPem := .error "permission denied" }

/-- The pairing fails, and the phone that had been paired is locked out: its credential
has expired at once, or its secret is no longer the one it was given. -/
theorem failed_pairing_locks_out :
    reasonOf (repairs 0 hallSurroundings).1 = some "auth error: ttl_secs must be > 0" ∧
    reasonOf (repairs 60 unreadableCert).1 = some "permission denied" ∧
    phoneGate (pairs "phone" 86400).2 = .ok (some phonePayload.deviceSecret) ∧
    phoneGate (repairs 0 hallSurroundings).2 = .error (.auth "device 'phone' credential expired — re-pair") ∧
    phoneGate (repairs 60 unreadableCert).2 = .ok (some (Text.hex (List.replicate 32 9))) ∧
    phonePayload.deviceSecret ≠ Text.hex (List.replicate 32 9) := by
  decide +kernel

end Hall
end Vynkor.Proofs
