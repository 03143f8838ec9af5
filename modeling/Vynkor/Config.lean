import Vynkor.Auth.DeviceStore
import Vynkor.Loader
import Vynkor.Router.State

/-! The part of the configuration that authentication is built from, the plugins it lists,
the numbers that loading it corrects and others that the kernel starts with. -/

namespace Vynkor

structure Config where
  jwtSecret : Option String := none
  jwtAudience : Option String := none
  plugins : List PluginDef := []
  routerChannelCapacity : Nat := 1024
  maxConnections : Nat := 1024
  watchdogIntervalSecs : Nat := 30
  watchdogTimeoutSecs : Nat := 10
  maxWsConnections : Nat := 1024
  maxArchiveBytes : Nat := 256 * 1024 * 1024
  pruneIntervalSecs : Nat := 60
  wsRegisterTimeoutSecs : Nat := 10

namespace Config
variable (config : Config) (crate : TokenCrate) (cipher : Cipher) (file : DeviceFile)

def jwtValidator : Option JwtValidator :=
  config.jwtSecret.map fun secret => JwtValidator.withAudience (utf8 secret) config.jwtAudience

def deviceStore : Option DeviceStore := config.jwtSecret.map (DeviceStore.new cipher)

def macSecret : Option Bytes := config.jwtSecret.map utf8

/-- A router that runs with the configuration, while the file of credentials is as given. -/
def secure {β : Type} (ctx : Context β) : Context β :=
  { ctx with
    validate := config.jwtValidator.map fun validator => validator.validate crate
    macSecret := config.macSecret
    activeSecret := (config.deviceStore cipher).map fun store => fun moment deviceId =>
      (store.activeSecret cipher file moment.unixSecs deviceId).map (·.map utf8) }

end Config
end Vynkor
