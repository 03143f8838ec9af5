import Vynkor.Config

/-! `vyn device connect`: a credential and a token for one device, handed over in the
pair payload. -/

namespace Vynkor.Cli

structure ConnectOpts where
  device : Option String := none
  name : Option String := none
  host : Option String := none
  permissions : Option String := none
  ipcTargets : Option String := none
  ttlSeconds : Nat := 86400
  aud : Option String := none

structure PairPayload where
  v : Nat := 2
  name : String
  hostUrl : String
  deviceId : String
  jwtToken : String
  deviceSecret : String
  certPem : Option String

/-- What the random source gives to one call. -/
structure Draws where
  device : UInt32
  secret : Vector UInt8 32
  sealNonce : Vector UInt8 12
  jti : Vector UInt8 16

/-- What the call finds outside: where its configuration was read, the address to
advertise for a `--host`, the served certificate if there is one, and whether the disk
takes the file of credentials. -/
structure Surroundings where
  configPath : String
  advertiseUrl : Option String → Except String String
  certPem : Except String (Option String)
  disk : Except VynkorError Unit

def randomDeviceId (draw : UInt32) : String :=
  "dev-" ++ Text.hex [UInt8.ofNat (draw.toNat / 65536), UInt8.ofNat (draw.toNat / 256), UInt8.ofNat draw.toNat]

def parseCsv (text : String) : List String := ((Text.split text ',').map Text.trim).filter (· ≠ "")

def defaultPermissions : List String := ["PERMISSION_IPC_SEND", "PERMISSION_EVENT_PUBLISH"]

def ConnectOpts.audience (opts : ConnectOpts) (config : Config) : String :=
  (opts.aud.or config.jwtAudience).getD "vynkor"

/-- The credential is written before the token is minted; `issued` and `minted` are
the clock readings of the two. -/
def connect (crate : TokenCrate) (cipher : Cipher) (config : Config) (opts : ConnectOpts) (around : Surroundings)
    (draws : Draws) (issued minted : Nat) : Method DeviceFile String PairPayload := do
  let secret ← ofExcept (config.jwtSecret.elim
    (.error s!"no jwt_secret configured in '{around.configPath}' — set jwt_secret to pair devices") .ok)
  let deviceId := opts.device.getD (randomDeviceId draws.device)
  let name := opts.name.getD deviceId
  let hostUrl ← ofExcept (around.advertiseUrl opts.host)
  let deviceSecret ← ExceptT.adapt VynkorError.toText
    ((DeviceStore.new cipher secret).issue cipher around.disk issued draws.secret draws.sealNonce deviceId name
      opts.ttlSeconds)
  let jwtToken ← ofExcept ((mintDeviceToken crate minted draws.jti (utf8 secret) deviceId
    ((opts.permissions.map parseCsv).getD defaultPermissions) ((opts.ipcTargets.map parseCsv).getD [])
    opts.ttlSeconds (opts.audience config)).mapError VynkorError.toText)
  let certPem ← ofExcept around.certPem
  return { name, hostUrl, deviceId, jwtToken, deviceSecret, certPem }

end Vynkor.Cli
