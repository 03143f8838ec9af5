import Vynkor.Bridge
import Vynkor.Config
import Vynkor.Connection

/-! A kernel without authentication over the plainest wire, whose runs can be
evaluated, and the plainest token and cipher for one with authentication. -/

namespace Vynkor

/-- A message that stands for its own encoding, or bytes that encode none. -/
inductive Packet where
  | message (envelope : Envelope)
  | raw (bytes : Bytes)
  deriving DecidableEq, Inhabited

def Packet.wire : Wire Packet where
  decode
    | .message envelope => some envelope
    | .raw _ => none
  encode envelope := some (.message envelope)
  size
    | .message _ => 4
    | .raw bytes => bytes.length
  crc32
    | .message _ => 0
    | .raw bytes => bytes.foldl (fun sum byte => sum + byte.toUInt32) 0
  targetAsStr target := some (String.ofList ((target.takeWhile (· ≠ 0)).map fun byte => Char.ofNat byte.toNat))
  protocolVersion := "1.6.0"
  deriveSessionKey secret nonce _ := secret ++ nonce
  decode_encode := by
    intro envelope bytes encoded
    cases encoded
    rfl

/-- A tag is the key it was made with. -/
def Packet.framing : Framing Packet where
  toBytes
    | .message _ => []
    | .raw bytes => bytes
  ofBytes := .raw
  parseFragHeader _ := none
  serializeHeader frame := frame.target
  computeTag key _ _ := key
  verifyTag key _ _ tag := tag == key
  tooLarge _ := false
  toBytes_ofBytes _ := rfl

namespace Scenario

def context : Context Packet := { wire := Packet.wire }

def start : Moment := { instant := 0 }

/-- A frame with the given payload, read from a connection. -/
def incoming (conn : Nat) (target : String) (payload : Packet) (flags : UInt16 := 0) : IncomingMessage Packet where
  connId := conn
  frame := buildFrame Packet.wire target flags payload
  writeTx := { conn }
  owned := rfl

def sends (conn : Nat) (target : String) (payload : Payload) : IncomingMessage Packet :=
  incoming conn target (.message { payload := some payload })

/-- The registration of a plugin that says nothing but its id. -/
def hello (conn : Nat) (pluginId : String) : IncomingMessage Packet :=
  sends conn "kernel" (.pluginRegister { pluginId })

def routed (st : RouterState Packet) (msg : IncomingMessage Packet) : RouterState Packet :=
  (st.routeMessage context start msg).1

def joined (st : RouterState Packet) (conn : Nat) (register : PluginRegister) : RouterState Packet :=
  routed st (sends conn "kernel" (.pluginRegister register))

/-- A client kernel whose device `laptop` is connected to a host. -/
def bridged (st : RouterState Packet) : RouterState Packet :=
  match { st with bridge := some [] }.bridgeUp start "laptop" 0 ["speaker"] with
  | .ok up => up
  | .error _ => st

/-- A cipher that leaves the text as it is, behind a mark. -/
def plainCipher : Cipher where
  deriveKey := utf8
  encrypt _ _ _ text := some (0 :: text)
  decrypt _ _ _ body := some body.tail
  encrypt_ne := by
    intro key nonce aad text body done
    cases done
    exact List.cons_ne_nil 0 text
  decrypt_encrypt := by
    intro key nonce aad text body done
    cases done
    rfl

/-- One token for one set of claims, with a minute of leeway past its expiry. -/
def singleToken (claims : PluginClaims) : TokenCrate where
  encode _ asked := if asked = claims then .ok "token" else .error "InvalidKeyFormat"
  decode _ audience now token :=
    if token ≠ "token" then .error "InvalidToken"
    else if claims.exp + 60 < now then .error "ExpiredSignature"
    else if audience = none ∨ audience = claims.aud then .ok claims
    else .error "InvalidAudience"
  encode_ne := by
    intro secret asked token done
    split at done
    · cases done
      decide
    · cases done
  decode_encode := by
    intro secret asked audience now token done unexpired required
    split at done
    next same =>
      cases done
      subst same
      have matching : audience = none ∨ audience = asked.aud := by
        cases audience with
        | none => exact .inl rfl
        | some name => exact .inr (required name rfl).symm
      rw [if_neg (by simp), if_neg (by omega), if_pos matching]
    · cases done

end Scenario
end Vynkor
