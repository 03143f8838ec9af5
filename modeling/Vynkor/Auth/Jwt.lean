import Vynkor.Registry

/-! Tokens: what the kernel accepts and how one is minted for a device. The token
crate is a parameter; `TokenCrate` carries its two functions with the laws the
kernel relies on. -/

namespace Vynkor

def minJwtSecretBytes : Nat := 32

def utf8 (text : String) : Bytes := text.toUTF8.data.toList

structure PluginClaims where
  sub : String
  permissions : List String
  ipcTargets : List String := []
  exp : Nat
  iat : Nat
  aud : Option String := none
  jti : Option String := none
  deriving DecidableEq

/-- Signing under a secret, and decoding at a time (in seconds), which checks the
signature, the expiry and the audience if one is required. -/
structure TokenCrate where
  encode : Bytes → PluginClaims → Except String String
  decode : Bytes → Option String → Nat → String → Except String PluginClaims
  encode_ne : ∀ secret claims token, encode secret claims = .ok token → token ≠ ""
  decode_encode : ∀ secret claims audience now token, encode secret claims = .ok token → now < claims.exp →
    (∀ required, audience = some required → claims.aud = some required) →
    decode secret audience now token = .ok claims

structure JwtValidator where
  decodingKey : Bytes
  audience : Option String

namespace JwtValidator

/-- With an audience, every accepted token must carry it. -/
def withAudience (secret : Bytes) (audience : Option String) : JwtValidator := ⟨secret, audience⟩

def new (secret : Bytes) : JwtValidator := withAudience secret none

/-- A token for an audience is one of a device and must carry a nonce. -/
def validate (crate : TokenCrate) (validator : JwtValidator) (moment : Moment) (token : String) :
    Except VynkorError PluginClaims :=
  if token = "" then .error (.auth "missing JWT token")
  else
    match crate.decode validator.decodingKey validator.audience moment.unixSecs token with
    | .error error => .error (.auth error)
    | .ok claims =>
      if claims.aud.isSome ∧ claims.jti.getD "" = "" then .error (.auth "token carries aud but no jti nonce")
      else .ok claims

end JwtValidator

/-- The expiry is a machine word, so that the sum may wrap. -/
def deviceClaims (now : Nat) (nonce : Vector UInt8 16) (deviceId : String) (permissions ipcTargets : List String)
    (ttlSecs : Nat) (audience : String) : PluginClaims where
  sub := deviceId
  permissions := permissions
  ipcTargets := ipcTargets
  exp := (now + ttlSecs) % UInt64.size
  iat := now
  aud := some audience
  jti := some (Text.hex nonce.toList)

def mintDeviceToken (crate : TokenCrate) (now : Nat) (nonce : Vector UInt8 16) (secret : Bytes) (deviceId : String)
    (permissions ipcTargets : List String) (ttlSecs : Nat) (audience : String) : Except VynkorError String :=
  let deviceId := Text.trim deviceId
  if secret.length < minJwtSecretBytes then
    .error (.auth (s!"jwt_secret is {secret.length} bytes, must be at least {minJwtSecretBytes} bytes " ++
      "(HS256 secrets shorter than this are brute-forceable)"))
  else if deviceId = "" then .error (.auth "device_id must not be empty")
  else if ttlSecs = 0 then .error (.auth "ttl_secs must be > 0")
  else
    match crate.encode secret (deviceClaims now nonce deviceId permissions ipcTargets ttlSecs audience) with
    | .error error => .error (.auth error)
    | .ok token => .ok token

section Minted
variable {crate : TokenCrate} {now ttlSecs : Nat} {nonce : Vector UInt8 16} {secret : Bytes}
  {deviceId audience token : String} {permissions ipcTargets : List String}

theorem mintDeviceToken_ok
    (minted : mintDeviceToken crate now nonce secret deviceId permissions ipcTargets ttlSecs audience = .ok token) :
    crate.encode secret (deviceClaims now nonce (Text.trim deviceId) permissions ipcTargets ttlSecs audience) =
      .ok token := by
  rw [mintDeviceToken] at minted
  split at minted
  · cases minted
  · split at minted
    · cases minted
    · split at minted
      · cases minted
      · split at minted
        · cases minted
        next encoded => rw [encoded, Except.ok.inj minted]

/-- A minted token validates until it expires, for every validator that asks for no
other audience. -/
theorem validate_minted {required : Option String} (moment : Moment)
    (minted : mintDeviceToken crate now nonce secret deviceId permissions ipcTargets ttlSecs audience = .ok token)
    (fits : now + ttlSecs < UInt64.size) (unexpired : moment.unixSecs < now + ttlSecs)
    (asked : ∀ name, required = some name → name = audience) :
    (JwtValidator.withAudience secret required).validate crate moment token =
      .ok (deviceClaims now nonce (Text.trim deviceId) permissions ipcTargets ttlSecs audience) := by
  have encoded := mintDeviceToken_ok minted
  have decoded := crate.decode_encode _ _ required moment.unixSecs _ encoded
    (by rwa [deviceClaims, Nat.mod_eq_of_lt fits]) (by
      intro name same
      rw [deviceClaims, asked name same])
  have named : Text.hex nonce.toList ≠ "" := by
    apply Text.hex_ne_empty
    intro none
    have size := congrArg List.length none
    simp at size
  rw [JwtValidator.validate, if_neg (crate.encode_ne _ _ _ encoded)]
  simp only [JwtValidator.withAudience, decoded]
  rw [if_neg (by simp [deviceClaims, named])]

end Minted
end Vynkor
