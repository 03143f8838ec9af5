import Vynkor.Auth.DeviceStore
import Vynkor.Data.Replacement

/-! The commands of the device store in processes of their own. They share the device
file and the temporary file next to it, and hold no lock on either. -/

namespace Vynkor.DeviceStore
open Replacement

inductive Reply where
  | secret (text : String)
  | found (known : Bool)
  deriving DecidableEq

abbrev Processes := Files Bool DeviceFile VynkorError Reply

section Drafts
variable (cipher : Cipher) (store : DeviceStore)

/-- A command on its own, with a disk that takes its file. -/
def call : Command → Method DeviceFile VynkorError Reply
  | .issue now secret nonce deviceId name ttlSecs => do
    let text ← store.issue cipher (.ok ()) now secret nonce deviceId name ttlSecs
    return .secret text
  | .setRevoked deviceId revoked => do
    let known ← store.setRevoked cipher (.ok ()) deviceId revoked
    return .found known
  | .remove deviceId => do
    let known ← store.remove cipher (.ok ()) deviceId
    return .found known

/-- What a command makes of the file it has read, up to the write of the temporary file. -/
def draft (command : Command) (file : DeviceFile) : Draft DeviceFile VynkorError Reply :=
  match store.readAll cipher file with
  | .error error => .failed error
  | .ok rows =>
    match command with
    | .issue now secret nonce deviceId name ttlSecs =>
      match store.sealSecret cipher nonce (Text.hex secret.toList) with
      | .error error => .failed error
      | .ok enc => .write (.ok (renew (issuedRow now deviceId name ttlSecs enc) rows)) (.secret (Text.hex secret.toList))
    | .setRevoked deviceId revoked =>
      if rows.any fun row => row.deviceId = deviceId then
        .write (.ok (rows.map fun row => if row.deviceId = deviceId then { row with revoked } else row)) (.found true)
      else .keep (.found false)
    | .remove deviceId =>
      if rows.any fun row => row.deviceId = deviceId then
        .write (.ok (rows.filter fun row => row.deviceId ≠ deviceId)) (.found true)
      else .keep (.found false)

/-- A rename finds no temporary file when the other process has renamed it first. -/
def noTemporary : VynkorError := .io "No such file or directory (os error 2)"

def processStep (commands : Bool → Command) : Processes → Replacement.Action Bool → Option Processes :=
  Replacement.step (fun who => store.draft cipher (commands who)) noTemporary

end Drafts
end Vynkor.DeviceStore
