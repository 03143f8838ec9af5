import Vynkor.Proto

/-! Frames, and the part of the wire crate the router relies on. The crate is
a parameter: `Wire` carries its functions with the one law the kernel needs,
that decoding inverts encoding. `β` is the type of payload bytes. -/

namespace Vynkor

def flagMacPresent : UInt16 := 0x0001
def flagRawBinary : UInt16 := 0x0010

structure Frame (β : Type) where
  magic : UInt16
  flags : UInt16
  length : UInt32
  target : Bytes
  crc32 : UInt32
  payload : β
  mac : Option Bytes
  deriving DecidableEq

def Frame.isRawBinary {β : Type} (frame : Frame β) : Bool := frame.flags &&& flagRawBinary != 0

structure Wire (β : Type) where
  decode : β → Option Envelope
  encode : Envelope → Option β
  size : β → Nat
  crc32 : β → UInt32
  targetAsStr : Bytes → Option String
  protocolVersion : String
  deriveSessionKey : Bytes → Bytes → String → Bytes
  decode_encode : ∀ envelope bytes, encode envelope = some bytes → decode bytes = some envelope

def frameMagic : UInt16 := 0x5652

/-- The target padded with NULs to the 32-byte header field, truncated past 32 bytes. -/
def targetBytes (target : String) : Bytes :=
  let bytes := target.toUTF8.data.toList.take 32
  bytes ++ List.replicate (32 - bytes.length) 0

def buildFrame {β : Type} (wire : Wire β) (target : String) (flags : UInt16) (payload : β) : Frame β where
  magic := frameMagic
  flags := flags
  length := UInt32.ofNat (wire.size payload)
  target := targetBytes target
  crc32 := wire.crc32 payload
  payload := payload
  mac := none

/-- A relayed frame loses the sender's MAC flag and tag: the recipient's write
loop tags it again with its own session key. -/
def Frame.stripMac {β : Type} (frame : Frame β) : Frame β :=
  { frame with flags := frame.flags &&& ~~~flagMacPresent, mac := none }

/-- The sending half of a write channel, named by the connection whose writer
drains it. A bridge opens a new channel in each connection cycle under one
connection id; `serial` tells these apart. -/
structure Sender where
  conn : Nat
  serial : Nat := 0
  deriving DecidableEq

inductive Outbound (β : Type) where
  | frame (frame : Frame β)
  | enableMac (key : Bytes)
  deriving DecidableEq

/-- A frame read from a connection, with that connection's own write channel. -/
structure IncomingMessage (β : Type) where
  connId : Nat
  frame : Frame β
  writeTx : Sender
  owned : writeTx.conn = connId

end Vynkor
