import Vynkor.Auth.Jwt
import Vynkor.Data.Execution
import Vynkor.Data.Method

/-! Credentials of paired devices, in a file of sealed rows that is read again for
every check. The cipher and the key derivation are parameters. -/

namespace Vynkor

/-- Authenticated encryption under a key, with a nonce and associated data. -/
structure Cipher where
  deriveKey : String → Bytes
  encrypt : Bytes → Bytes → Bytes → Bytes → Option Bytes
  decrypt : Bytes → Bytes → Bytes → Bytes → Option Bytes
  encrypt_ne : ∀ key nonce aad text sealed, encrypt key nonce aad text = some sealed → sealed ≠ []
  decrypt_encrypt : ∀ key nonce aad text sealed, encrypt key nonce aad text = some sealed →
    decrypt key nonce aad sealed = some text

def secretAad : Bytes := utf8 "vynkor-device-secret"

def nonceLen : Nat := 12

inductive DeviceStatus where
  | active | revoked | expired
  deriving DecidableEq

structure DeviceRecord where
  deviceId : String
  name : String
  createdAt : Nat
  expiresAt : Nat
  revoked : Bool
  secretEnc : Bytes
  deriving DecidableEq

/-- A row past its expiry behaves like a revoked one at every gate. -/
def DeviceRecord.status (row : DeviceRecord) (nowSecs : Nat) : DeviceStatus :=
  if row.revoked then .revoked else if row.expiresAt ≤ nowSecs then .expired else .active

/-- What reading and parsing the file gives; a file that is missing or blank has no rows. -/
abbrev DeviceFile := Except VynkorError (List DeviceRecord)

structure DeviceStore where
  key : Bytes

namespace DeviceStore

def new (cipher : Cipher) (jwtMasterSecret : String) : DeviceStore := ⟨cipher.deriveKey jwtMasterSecret⟩

section Rows
variable (cipher : Cipher) (store : DeviceStore)

def sealSecret (nonce : Vector UInt8 12) (secretHex : String) : Except VynkorError Bytes :=
  match cipher.encrypt store.key nonce.toList secretAad (utf8 secretHex) with
  | none => .error (.auth "device store encryption failed")
  | some sealed => .ok (nonce.toList ++ sealed)

def unsealSecret (enc : Bytes) : Except VynkorError String :=
  if enc.length ≤ nonceLen then .error (.auth "corrupt device store entry")
  else
    match cipher.decrypt store.key (enc.take nonceLen) secretAad (enc.drop nonceLen) with
    | none => .error (.auth ("device store decrypt failed — was jwt_secret rotated? re-pair devices " ++
        "(rm <data_dir>/devices.json)"))
    | some text =>
      match String.fromUTF8? ⟨text.toArray⟩ with
      | none => .error (.auth "bad secret encoding")
      | some secret => .ok secret

/-- The first row that cannot be opened fails the whole read: without its row a
revoked device would look like an unknown one. -/
def verifyRows : List DeviceRecord → Except VynkorError Unit
  | [] => .ok ()
  | row :: rest =>
    match store.unsealSecret cipher row.secretEnc with
    | .error error => .error error
    | .ok _ => verifyRows rest

def readAll (file : DeviceFile) : Except VynkorError (List DeviceRecord) :=
  match file with
  | .error error => .error error
  | .ok rows =>
    match store.verifyRows cipher rows with
    | .error error => .error error
    | .ok () => .ok rows

def get (file : DeviceFile) (deviceId : String) : Except VynkorError (Option (DeviceRecord × String)) :=
  match store.readAll cipher file with
  | .error error => .error error
  | .ok rows =>
    match rows.find? fun row => row.deviceId = deviceId with
    | none => .ok none
    | some row =>
      match store.unsealSecret cipher row.secretEnc with
      | .error error => .error error
      | .ok secret => .ok (some (row, secret))

def activeSecret (file : DeviceFile) (nowSecs : Nat) (deviceId : String) : Except VynkorError (Option String) :=
  match store.get cipher file deviceId with
  | .error error => .error error
  | .ok none => .ok none
  | .ok (some (row, secret)) =>
    match row.status nowSecs with
    | .active => .ok (some secret)
    | .revoked => .error (.auth s!"device '{deviceId}' is revoked — re-pair to restore access")
    | .expired => .error (.auth s!"device '{deviceId}' credential expired — re-pair")

end Rows

/-- One row for the device: the first is renewed, or a new one comes last. -/
def renew (fresh : DeviceRecord) : List DeviceRecord → List DeviceRecord
  | [] => [fresh]
  | row :: rest => if row.deviceId = fresh.deviceId then fresh :: rest else row :: renew fresh rest

def issuedRow (now : Nat) (deviceId name : String) (ttlSecs : Nat) (secretEnc : Bytes) : DeviceRecord where
  deviceId := deviceId
  name := name
  createdAt := now
  expiresAt := (now + ttlSecs) % UInt64.size
  revoked := false
  secretEnc := secretEnc

section Commands
variable (cipher : Cipher) (store : DeviceStore) (disk : Except VynkorError Unit)

def readRows : Method DeviceFile VynkorError (List DeviceRecord) := do
  let file ← MonadState.get
  ofExcept (store.readAll cipher file)

/-- The new file replaces the old one as a whole; `disk` is the outcome of writing it. -/
def writeAll (rows : List DeviceRecord) : Method DeviceFile VynkorError Unit := do
  ofExcept disk
  modify fun _ => .ok rows

/-- The secret leaves the host once, with the result of this call. -/
def issue (now : Nat) (secret : Vector UInt8 32) (nonce : Vector UInt8 12) (deviceId name : String) (ttlSecs : Nat) :
    Method DeviceFile VynkorError String := do
  let rows ← store.readRows cipher
  let enc ← ofExcept (store.sealSecret cipher nonce (Text.hex secret.toList))
  writeAll disk (renew (issuedRow now deviceId name ttlSecs enc) rows)
  return Text.hex secret.toList

def setRevoked (deviceId : String) (revoked : Bool) : Method DeviceFile VynkorError Bool := do
  let rows ← store.readRows cipher
  if rows.any fun row => row.deviceId = deviceId then
    writeAll disk (rows.map fun row => if row.deviceId = deviceId then { row with revoked } else row)
    return true
  else return false

def remove (deviceId : String) : Method DeviceFile VynkorError Bool := do
  let rows ← store.readRows cipher
  if rows.any fun row => row.deviceId = deviceId then
    writeAll disk (rows.filter fun row => row.deviceId ≠ deviceId)
    return true
  else return false

end Commands

/-- What the command line does to the file between two registrations. -/
inductive Command where
  | issue (now : Nat) (secret : Vector UInt8 32) (nonce : Vector UInt8 12) (deviceId name : String) (ttlSecs : Nat)
  | setRevoked (deviceId : String) (revoked : Bool)
  | remove (deviceId : String)

def Command.deviceId : Command → String
  | .issue _ _ _ deviceId _ _ | .setRevoked deviceId _ | .remove deviceId => deviceId

def step (cipher : Cipher) (store : DeviceStore) (file : DeviceFile) (action : Command × Except VynkorError Unit) :
    Option DeviceFile :=
  match action with
  | (.issue now secret nonce deviceId name ttlSecs, disk) =>
    some ((store.issue cipher disk now secret nonce deviceId name ttlSecs).exec file).2
  | (.setRevoked deviceId revoked, disk) => some ((store.setRevoked cipher disk deviceId revoked).exec file).2
  | (.remove deviceId, disk) => some ((store.remove cipher disk deviceId).exec file).2

end DeviceStore
end Vynkor
