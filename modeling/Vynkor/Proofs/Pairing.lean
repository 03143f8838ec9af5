import Vynkor.Cli.Device
import Vynkor.Proofs.RevokedDevice

/-! A device that was paired gets in: its credential, its token and its registration
agree, if its id is one that the registry accepts. -/

namespace Vynkor.Proofs
open Cli DeviceStore Execution RouterState
variable {crate : TokenCrate} {cipher : Cipher} {config : Config} {opts : ConnectOpts} {draws : Draws}
  {issued minted : Nat} {payload : PairPayload} {now : Moment}

section Connected
variable {around : Surroundings} {file paired : DeviceFile}

theorem mapError_ok {ε δ α : Type} {outcome : Except ε α} {rename : ε → δ} {value : α}
    (done : outcome.mapError rename = .ok value) : outcome = .ok value := by
  cases outcome with
  | error => cases done
  | ok => exact congrArg _ (Except.ok.inj done)

structure Paired (crate : TokenCrate) (cipher : Cipher) (config : Config) (opts : ConnectOpts) (draws : Draws)
    (issued minted : Nat) (payload : PairPayload) (paired : DeviceFile) (secret : String) : Prop where
  configured : config.jwtSecret = some secret
  credited : ∃ enc rows, paired = .ok rows ∧ Credited cipher (DeviceStore.new cipher secret) payload.deviceId
    payload.deviceSecret (issuedRow issued payload.deviceId payload.name opts.ttlSeconds enc) rows
  token : ∃ permissions targets, mintDeviceToken crate minted draws.jti (utf8 secret) payload.deviceId permissions targets
    opts.ttlSeconds (opts.audience config) = .ok payload.jwtToken

theorem connect_paired
    (connected : (connect crate cipher config opts around draws issued minted).exec file = (.ok payload, paired)) :
    ∃ secret, Paired crate cipher config opts draws issued minted payload paired secret := by
  obtain ⟨secret, _, given, afterSecret⟩ := Method.exec_bind_ok connected
  obtain ⟨configured, rfl⟩ := Method.exec_ofExcept_ok given
  obtain ⟨hostUrl, _, advertised, afterUrl⟩ := Method.exec_bind_ok afterSecret
  obtain ⟨_, rfl⟩ := Method.exec_ofExcept_ok advertised
  obtain ⟨deviceSecret, _, stored, afterIssue⟩ := Method.exec_bind_ok afterUrl
  obtain ⟨token, _, signed, afterMint⟩ := Method.exec_bind_ok afterIssue
  obtain ⟨encoded, rfl⟩ := Method.exec_ofExcept_ok signed
  obtain ⟨certPem, _, pinned, finished⟩ := Method.exec_bind_ok afterMint
  obtain ⟨_, rfl⟩ := Method.exec_ofExcept_ok pinned
  cases finished
  rw [Method.exec_adapt] at stored
  obtain ⟨credited, rfl⟩ := Prod.mk.inj stored
  refine ⟨secret, ?_, issue_ok (Prod.ext (mapError_ok credited) rfl), _, _, mapError_ok encoded⟩
  cases found : config.jwtSecret with
  | none => simp [found] at configured
  | some known => simpa [found] using configured

end Connected

section Accepted

theorem identifier_solid {char : Char} (plain : (char.isAlphanum || char == '-' || char == '_' || char == '.') = true) :
    Text.isWhitespace char = false := by
  have range : char.toNat = 45 ∨ char.toNat = 46 ∨ char.toNat = 95 ∨ (48 ≤ char.toNat ∧ char.toNat ≤ 57) ∨
      (65 ≤ char.toNat ∧ char.toNat ≤ 90) ∨ (97 ≤ char.toNat ∧ char.toNat ≤ 122) := by
    delta Char.isAlphanum Char.isAlpha Char.isUpper Char.isLower Char.isDigit at plain
    simp only [Bool.or_eq_true, Bool.and_eq_true, decide_eq_true_eq, beq_iff_eq, ge_iff_le,
      UInt32.le_iff_toNat_le] at plain
    rcases plain with ((letter | rfl) | rfl) | rfl
    · change ((65 ≤ char.toNat ∧ char.toNat ≤ 90) ∨ (97 ≤ char.toNat ∧ char.toNat ≤ 122)) ∨
        (48 ≤ char.toNat ∧ char.toNat ≤ 57) at letter
      omega
    · decide
    · decide
    · decide
  simp only [Text.isWhitespace, Bool.or_eq_false_iff, Bool.and_eq_false_imp, decide_eq_true_eq, decide_eq_false_iff_not,
    beq_eq_false_iff_ne]
  omega

theorem trim_valid {id : String} (valid : validatePluginId id = .ok ()) : Text.trim id = id := by
  apply Text.trim_eq_self
  intro char member
  exact identifier_solid ((validatePluginId_ok valid).plain char member)

variable {β : Type} {ctx : Context β} {msg : IncomingMessage β} {messageId : String} {st : RouterState β}
  {register : PluginRegister} {manifest : PluginManifest} {secret : Option Bytes} {registry : PluginRegistry}

/-- The connection's channel is told to tag with the key, behind the acknowledgement,
unless it is closed. -/
def KeyedWith (key : Bytes) (tx : Sender) (st after : RouterState β) : Prop :=
  (st.net tx).closed = false → ∃ front back, (after.net tx).queue =
    (st.net tx).queue ++ front ++ .enableMac key :: back ∧
    ∀ item ∈ front ++ back, ∃ frame, item = .frame frame

theorem handleRegister_joined {id entry} (free : st.registry.get id = none)
    (found : (st.handleRegister ctx now msg messageId register).1.registry.get id = some entry) :
    ∃ manifest secret, ctx.admitRegister now register = .ok (manifest, secret) ∧
      (st.registerPlugin now msg register manifest).isOk = true := by
  by_contra refused
  simp only [not_exists, not_and, Bool.not_eq_true] at refused
  rw [(handleRegister_aside (by exact refused)).registry, free] at found
  cases found

theorem handleRegister_keyed {master : Bytes} (keyed : ctx.macSecret = some master)
    (admitted : ctx.admitRegister now register = .ok (manifest, secret))
    (done : st.registerPlugin now msg register manifest = .ok registry) :
    KeyedWith (ctx.wire.deriveSessionKey (secret.getD master) now.nonce register.pluginId) msg.writeTx st
      (st.handleRegister ctx now msg messageId register).1 := by
  intro opened
  have acknowledged : Talk (Built ctx) (st.setRegistry registry)
      ((st.setRegistry registry).acknowledgeRegister ctx now msg messageId register.pluginId) :=
    sendEnvelope_talk rfl fun _ carries => carries.built
  obtain ⟨front, ahead, stillOpen, frontFrames⟩ := acknowledged.sends msg.writeTx
  rw [handleRegister, admitted]
  simp only [done, enableMac, keyed, sessionNonce, Option.isSome_some, if_true]
  generalize (st.setRegistry registry).acknowledgeRegister ctx now msg messageId register.pluginId = acked at *
  obtain ⟨back, behind, _, backFrames⟩ := (publish_frames ctx now _ _).sends msg.writeTx
  refine ⟨front, back, behind.trans ?_, ?_⟩
  · have room : ¬(acked.net msg.writeTx).closed = true := by
      rw [stillOpen]
      simpa [setRegistry] using opened
    simp only [Mailboxes.send, if_neg room, Mailboxes.post, Mailboxes.put_self, ahead]
    simp [setRegistry]
  · intro item member
    rcases List.mem_append.mp member with member | member
    · obtain ⟨_, _, built⟩ := frontFrames item member
      exact ⟨_, built⟩
    · obtain ⟨_, _, built⟩ := backFrames item member
      exact ⟨_, built⟩

end Accepted

section Paired
variable {paired later : DeviceFile} {secret : String}

theorem audience_asked (uses : ∀ required, config.jwtAudience = some required → opts.aud = none ∨ opts.aud = some required)
    (required : String) (asked : config.jwtAudience = some required) : required = opts.audience config := by
  rcases uses required asked with unset | set
  · simp [ConnectOpts.audience, unset, asked]
  · simp [ConnectOpts.audience, set]

theorem Paired.activeSecret_cases (pairing : Paired crate cipher config opts draws issued minted payload paired secret)
    (run : Run (DeviceStore.step cipher (DeviceStore.new cipher secret)) (notAbout payload.deviceId) paired later)
    (small : opts.ttlSeconds < UInt64.size) (since : issued ≤ now.unixSecs)
    (before : now.unixSecs < issued + opts.ttlSeconds) :
    (issued + opts.ttlSeconds < UInt64.size ∧ (DeviceStore.new cipher secret).activeSecret cipher later now.unixSecs
        payload.deviceId = .ok (some payload.deviceSecret)) ∨
      (UInt64.size ≤ issued + opts.ttlSeconds ∧ ∃ error, (DeviceStore.new cipher secret).activeSecret cipher later
        now.unixSecs payload.deviceId = .error error) := by
  obtain ⟨enc, rows, rfl, credited⟩ := pairing.credited
  obtain ⟨kept, rfl, stays⟩ := credited_later run credited
  rcases Nat.lt_or_ge (issued + opts.ttlSeconds) UInt64.size with fits | wraps
  · refine .inl ⟨fits, stays.activeSecret ?_⟩
    simp only [DeviceRecord.status, issuedRow, Nat.mod_eq_of_lt fits]
    rw [if_neg (by simp), if_neg (by omega)]
  · refine .inr ⟨wraps, activeSecret_inactive cipher _ rfl stays.found ?_⟩
    -- what is left of the sum is less than the time of the issue
    have passed : (issued + opts.ttlSeconds) % UInt64.size ≤ now.unixSecs := by
      rw [Nat.mod_eq_sub_mod wraps]
      exact (Nat.mod_le _ _).trans (by omega)
    simp [DeviceRecord.status, issuedRow, passed]

end Paired

/-- A paired device registers with its token until the credential expires, and its frames
are tagged under its own secret, if and only if the registry takes its id, the expiry does
not wrap, and the connection is free and speaks the protocol. The two readings of the clock
are not on different sides of the wrap. -/
theorem paired_device_registers {β : Type} (ctx : Context β) (crate : TokenCrate) (cipher : Cipher) (config : Config)
    (opts : ConnectOpts) (around : Surroundings) (draws : Draws) (issued minted : Nat) (file paired later : DeviceFile)
    (payload : PairPayload) (secret : String) (now : Moment) (msg : IncomingMessage β) (messageId : String)
    (st : RouterState β) (register : PluginRegister)
    (uses : ∀ required, config.jwtAudience = some required → opts.aud = none ∨ opts.aud = some required)
    (small : opts.ttlSeconds < UInt64.size)
    (connected : (connect crate cipher config opts around draws issued minted).exec file = (.ok payload, paired))
    (configured : config.jwtSecret = some secret) (ordered : issued ≤ minted)
    (together : issued + opts.ttlSeconds < UInt64.size → minted + opts.ttlSeconds < UInt64.size)
    (run : Run (DeviceStore.step cipher (DeviceStore.new cipher secret)) (notAbout payload.deviceId) paired later)
    (since : issued ≤ now.unixSecs) (before : now.unixSecs < issued + opts.ttlSeconds)
    (plugin : register.pluginId = payload.deviceId) (device : register.deviceId = payload.deviceId)
    (token : register.jwtToken = payload.jwtToken) (freeId : st.registry.get payload.deviceId = none) :
    ((∃ entry, (st.handleRegister (config.secure crate cipher later ctx) now msg messageId register).1.registry.get
        payload.deviceId = some entry ∧ entry.connId = msg.connId) ∧
      KeyedWith (ctx.wire.deriveSessionKey (utf8 payload.deviceSecret) now.nonce payload.deviceId) msg.writeTx st
        (st.handleRegister (config.secure crate cipher later ctx) now msg messageId register).1) ↔
      validatePluginId payload.deviceId = .ok () ∧ issued + opts.ttlSeconds < UInt64.size ∧
        ctx.checkProtocolVersion register = .ok () ∧ st.registry.getByConnId msg.connId = none := by
  obtain ⟨own, pairing⟩ := connect_paired connected
  cases configured.symm.trans pairing.configured
  have keyed : (config.secure crate cipher later ctx).macSecret = some (utf8 secret) := by
    simp [Config.secure, Config.macSecret, configured]
  have stored : (config.secure crate cipher later ctx).activeSecret = some fun now deviceId =>
      ((DeviceStore.new cipher secret).activeSecret cipher later now.unixSecs deviceId).map (·.map utf8) := by
    simp [Config.secure, Config.deviceStore, configured]
  have named : validatePluginId payload.deviceId = .ok () → register.deviceId ≠ "" := by
    intro valid empty
    rw [← device, empty] at valid
    cases valid
  have active := pairing.activeSecret_cases run small since before
  constructor
  · rintro ⟨⟨entry, found, _⟩, _⟩
    obtain ⟨manifest, known, admitted, taken⟩ := handleRegister_joined freeId found
    have takes := registerPlugin_isOk.mp taken
    obtain ⟨compatible, _, _, credential, _⟩ := admitRegister_iff.mp admitted
    have valid : validatePluginId payload.deviceId = .ok () := plugin ▸ takes.valid
    rcases active with ⟨fits, _⟩ | ⟨_, error, expired⟩
    · exact ⟨valid, fits, compatible, takes.freeConn⟩
    · rw [Context.deviceSecret, if_pos ⟨named valid, by simp [keyed]⟩, stored] at credential
      simp [device, expired, Except.map] at credential
  · rintro ⟨valid, fits, version, freeConn⟩
    obtain ⟨permissions, targets, minting⟩ := pairing.token
    have accepted := validate_minted now minting (together fits) (by omega) (audience_asked uses)
    rw [trim_valid valid] at accepted
    have authenticated : (config.secure crate cipher later ctx).validate =
        some ((JwtValidator.withAudience (utf8 secret) config.jwtAudience).validate crate) := by
      simp [Config.secure, Config.jwtValidator, configured]
    have credential : (config.secure crate cipher later ctx).deviceSecret now register =
        .ok (some (utf8 payload.deviceSecret)) := by
      obtain ⟨_, granted⟩ := active.resolve_right fun wrapped => Nat.not_lt.mpr wrapped.1 fits
      rw [Context.deviceSecret, if_pos ⟨named valid, by simp [keyed]⟩, stored]
      simp [device, granted, Except.map]
    have compatible : (config.secure crate cipher later ctx).checkProtocolVersion register = .ok () := version
    have admitted := admitRegister_iff.mpr ⟨compatible, _, (authenticate_iff authenticated).mpr
      ⟨_, token ▸ accepted, .inl plugin.symm, rfl⟩, credential, rfl⟩
    obtain ⟨registry, done⟩ := isOk_iff.mp (registerPlugin_isOk.mpr ⟨plugin ▸ valid, freeConn, plugin ▸ freeId⟩)
    constructor
    · obtain ⟨entry, channel, sameId, inserted⟩ := registerPlugin_ok done
      refine ⟨entry, ?_, conn_of_channel channel⟩
      rw [handleRegister_registry admitted done, inserted.get, if_pos (sameId.trans plugin).symm]
    · rw [← plugin]
      exact handleRegister_keyed keyed admitted done

section Hall
open Scenario

def hallDraws : Draws := ⟨0, Vector.replicate 32 1, Vector.replicate 12 2, Vector.replicate 16 3⟩

def hallSurroundings : Surroundings where
  configPath := "config.yaml"
  advertiseUrl _ := .ok "ws://10.0.0.5:8080/ws"
  certPem := .ok none
  disk := .ok ()

def hallOpts (deviceId : String) (ttlSeconds : Nat) : ConnectOpts := { device := some deviceId, ttlSeconds }

def hallCrate (deviceId : String) (ttlSeconds : Nat) : TokenCrate :=
  singleToken (deviceClaims 1000 hallDraws.jti (Text.trim deviceId) defaultPermissions [] ttlSeconds "vynkor")

def pairs (deviceId : String) (ttlSeconds : Nat) : Except String PairPayload × DeviceFile :=
  (connect (hallCrate deviceId ttlSeconds) plainCipher hostConfig (hallOpts deviceId ttlSeconds) hallSurroundings hallDraws
    1000 1000).exec (.ok [])

def soon : Moment := { instant := 0, unixMillis := 1000500, nonce := [7] }

def pairedRegister (payload : PairPayload) : PluginRegister where
  pluginId := payload.deviceId
  deviceId := payload.deviceId
  jwtToken := payload.jwtToken
  capabilities := ["speaker"]

def pairedJoins (payload : PairPayload) : IncomingMessage Packet :=
  sends 1 "kernel" (.pluginRegister (pairedRegister payload))

def joinsPaired (deviceId : String) (ttlSeconds : Nat) : Option Bool :=
  match pairs deviceId ttlSeconds with
  | (.error _, _) => none
  | (.ok payload, file) =>
    let secured := hostConfig.secure (hallCrate deviceId ttlSeconds) plainCipher file context
    let joined := (({} : RouterState Packet).handleRegister secured soon (pairedJoins payload) ""
      (pairedRegister payload)).1
    some (joined.registry.get payload.deviceId).isSome

def phonePayload : PairPayload := ((pairs "phone" 86400).1.toOption).get (by decide +kernel)

def phoneLater : DeviceFile :=
  (exec (DeviceStore.step plainCipher (DeviceStore.new plainCipher hostSecret)) (notAbout "phone") (pairs "phone" 86400).2
    [(.issue 1000 hallDraws.secret hallDraws.sealNonce "tablet" "tablet" 60, .ok ()), (.remove "tablet", .ok ())]).get
    (by decide +kernel)

theorem paired_device_registers_phone :
    (∃ entry, (({} : RouterState Packet).handleRegister
        (hostConfig.secure (hallCrate "phone" 86400) plainCipher phoneLater context) soon (pairedJoins phonePayload) ""
        (pairedRegister phonePayload)).1.registry.get phonePayload.deviceId = some entry ∧ entry.connId = 1) ∧
      KeyedWith (utf8 phonePayload.deviceSecret ++ [7]) { conn := 1 } {} (({} : RouterState Packet).handleRegister
        (hostConfig.secure (hallCrate "phone" 86400) plainCipher phoneLater context) soon (pairedJoins phonePayload) ""
        (pairedRegister phonePayload)).1 :=
  (paired_device_registers context (hallCrate "phone" 86400) plainCipher hostConfig (hallOpts "phone" 86400)
    hallSurroundings hallDraws 1000 1000 (.ok []) (pairs "phone" 86400).2 phoneLater phonePayload hostSecret soon
    (pairedJoins phonePayload) "" {} (pairedRegister phonePayload) (by intro _ _; exact .inl rfl) (by decide +kernel)
    rfl rfl (by decide) id (exec_get_run (by decide +kernel)) (by decide +kernel) (by decide +kernel) rfl rfl rfl
    rfl).mpr ⟨by decide +kernel, by decide +kernel, rfl, rfl⟩

/-- Each of these devices is paired, and none of them gets in: the token names the
trimmed id, the registry does not take the id, or the expiry wraps. -/
theorem paired_device_refused : joinsPaired " phone" 86400 = some false ∧ joinsPaired "my phone" 86400 = some false ∧
    joinsPaired "phone" (UInt64.size - 1) = some false ∧ joinsPaired "phone" 86400 = some true := by
  decide +kernel

end Hall
end Vynkor.Proofs
