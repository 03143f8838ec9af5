import Vynkor.Data.BigEndian
import Vynkor.Registry

/-! The two loops of a connection: reading frames, with the frame MAC and the
reassembly of fragments, and writing the items of the write channel. -/

namespace Vynkor

def flagCompressed : UInt16 := 0x0002
def flagFragmented : UInt16 := 0x0004
def frameHeaderSize : Nat := 44
def fragHeaderSize : Nat := 10
def maxPayloadSize : Nat := 1048576

structure FragmentHeader where
  fragmentId : UInt16
  sequence : UInt16
  total : UInt16
  streamId : UInt32
  deriving DecidableEq

/-- What the two loops use of the wire crate and the frame MAC: payloads as bytes,
the fragment header, tags, and which payloads are too large to be written. -/
structure Framing (β : Type) where
  toBytes : β → Bytes
  ofBytes : Bytes → β
  parseFragHeader : Bytes → Option FragmentHeader
  serializeHeader : Frame β → Bytes
  computeTag : Bytes → Bytes → β → Bytes
  verifyTag : Bytes → Bytes → β → Bytes → Bool
  tooLarge : β → Bool
  toBytes_ofBytes : ∀ bytes, toBytes (ofBytes bytes) = bytes

/-- Arithmetic on `usize` in a build without overflow checks. -/
def wrappingAdd (first second : Nat) : Nat := (first + second) % UInt64.size

def wrappingSub (first second : Nat) : Nat := (first + (UInt64.size - second % UInt64.size)) % UInt64.size

/-- The same in a build with overflow checks, which stops at an overflow. -/
def checkedAdd (first second : Nat) : Option Nat := if first + second < UInt64.size then some (first + second) else none

def checkedSub (first second : Nat) : Option Nat := if second ≤ first then some (first - second) else none

structure ReassemblyBuf where
  fragments : DashMap UInt16 Bytes
  total : UInt16
  /-- That of the first fragment. -/
  target : Bytes
  firstSeen : Nat
  bufferedBytes : Nat

namespace ReassemblyBuf

section
variable (buf : ReassemblyBuf)

def isComplete : Bool := buf.fragments.keys.length == buf.total.toNat

/-- The fragments in the order of their sequence numbers. -/
def reassemble : Bytes :=
  (buf.fragments.keys.mergeSort fun first second => decide (first ≤ second)).flatMap fun sequence =>
    (buf.fragments.get sequence).getD []

def replacedLen (sequence : UInt16) : Nat :=
  ((buf.fragments.get sequence).map List.length).getD 0

def grownBytes (sequence : UInt16) (data : Bytes) : Nat :=
  wrappingSub (wrappingAdd buf.bufferedBytes data.length) (buf.replacedLen sequence)

/-- A fragment that is sent again replaces its old bytes. The difference of the
two lengths may wrap, and adding it up undoes that. -/
def insert (sequence : UInt16) (data : Bytes) : ReassemblyBuf :=
  { buf with
    bufferedBytes := wrappingAdd buf.bufferedBytes (wrappingSub data.length (buf.replacedLen sequence))
    fragments := buf.fragments.insert sequence data }

/-- `grownBytes` and `insert` in a build with overflow checks. -/
def grownBytesChecked (sequence : UInt16) (data : Bytes) : Option Nat := do
  let sum ← checkedAdd buf.bufferedBytes data.length
  checkedSub sum (buf.replacedLen sequence)

def insertChecked (sequence : UInt16) (data : Bytes) : Option ReassemblyBuf := do
  let difference ← checkedSub data.length (buf.replacedLen sequence)
  let bufferedBytes ← checkedAdd buf.bufferedBytes difference
  return { buf with bufferedBytes, fragments := buf.fragments.insert sequence data }

end

end ReassemblyBuf

abbrev Reassembly := DashMap UInt32 ReassemblyBuf

structure ConnectionLimits where
  fragmentTimeout : Nat := fromSecs 30
  maxReassemblyStreams : Nat := 64

def pruneStaleReassembly (timeout now : Nat) (streams : Reassembly) : Reassembly :=
  streams.retain fun _ buf => !decide (timeout ≤ now - buf.firstSeen)

/-- What the read loop makes of a frame: the connection is dropped, perhaps after
an error notice; the frame is kept for later; or a message goes to the router. -/
inductive Reading (β : Type) where
  | dropped (notice : Option ErrorCode)
  | kept (streams : Reassembly)
  | passed (streams : Reassembly) (frame : Frame β)

/-- The buffer that a fragment belongs to, unless its declared total disagrees or
there are too many streams. -/
def ConnectionLimits.streamBuffer {β : Type} (limits : ConnectionLimits) (now : Nat) (streams : Reassembly)
    (frame : Frame β) (header : FragmentHeader) : Option ReassemblyBuf :=
  match streams.get header.streamId with
  | some buf => if buf.total ≠ header.total then none else some buf
  | none =>
    if limits.maxReassemblyStreams ≤ streams.keys.length then none
    else some { fragments := ∅, total := header.total, target := frame.target, firstSeen := now, bufferedBytes := 0 }

namespace Framing
variable {β : Type} (framing : Framing β)

def tagPresent (frame : Frame β) : Bool := frame.flags &&& flagMacPresent != 0 && frame.mac.isSome

/-- On a secured connection every frame must carry a valid tag. -/
def macError (key : Bytes) (frame : Frame β) : Option ErrorCode :=
  if tagPresent frame && frame.mac.any (framing.verifyTag key (framing.serializeHeader frame) frame.payload) then none
  else some (if tagPresent frame then .macInvalid else .macMissing)

def assemble (wire : Wire β) (frame : Frame β) (buf : ReassemblyBuf) : Frame β where
  magic := frame.magic
  flags := frame.flags &&& ~~~flagFragmented
  length := UInt32.ofNat buf.reassemble.length
  target := buf.target
  crc32 := wire.crc32 (framing.ofBytes buf.reassemble)
  payload := framing.ofBytes buf.reassemble
  mac := none

section
variable (wire : Wire β) (limits : ConnectionLimits) (now : Nat)

def storeFragment (streams : Reassembly) (frame : Frame β) (header : FragmentHeader) : Reading β :=
  if header.total = 0 ∨ header.total ≤ header.sequence then .dropped none
  else
    match limits.streamBuffer now streams frame header with
    | none => .dropped none
    | some buf =>
      let data := (framing.toBytes frame.payload).drop fragHeaderSize
      if maxPayloadSize < buf.grownBytes header.sequence data then .dropped none
      else
        let buf := buf.insert header.sequence data
        if buf.isComplete then .passed (streams.erase header.streamId) (framing.assemble wire frame buf)
        else .kept (streams.insert header.streamId buf)

/-- One frame of the read loop, under the session key that is installed. -/
def readFrame (key : Option Bytes) (streams : Reassembly) (frame : Frame β) : Reading β :=
  match key.bind fun key => framing.macError key frame with
  | some code => .dropped (some code)
  | none =>
    let streams := pruneStaleReassembly limits.fragmentTimeout now streams
    if frame.flags &&& flagFragmented != 0 then
      match framing.parseFragHeader (framing.toBytes frame.payload) with
      | none => .dropped none
      | some header => framing.storeFragment wire limits now streams frame header
    else .passed streams frame

/-- `storeFragment` in a build with overflow checks: nothing if it panics. -/
def storeFragmentChecked (streams : Reassembly) (frame : Frame β) (header : FragmentHeader) : Option (Reading β) :=
  if header.total = 0 ∨ header.total ≤ header.sequence then some (.dropped none)
  else
    match limits.streamBuffer now streams frame header with
    | none => some (.dropped none)
    | some buf => do
      let data := (framing.toBytes frame.payload).drop fragHeaderSize
      let grown ← buf.grownBytesChecked header.sequence data
      if maxPayloadSize < grown then some (.dropped none)
      else
        let buf ← buf.insertChecked header.sequence data
        if buf.isComplete then some (.passed (streams.erase header.streamId) (framing.assemble wire frame buf))
        else some (.kept (streams.insert header.streamId buf))

def readFrameChecked (key : Option Bytes) (streams : Reassembly) (frame : Frame β) : Option (Reading β) :=
  match key.bind fun key => framing.macError key frame with
  | some code => some (.dropped (some code))
  | none =>
    let streams := pruneStaleReassembly limits.fragmentTimeout now streams
    if frame.flags &&& flagFragmented != 0 then
      match framing.parseFragHeader (framing.toBytes frame.payload) with
      | none => some (.dropped none)
      | some header => framing.storeFragmentChecked wire limits now streams frame header
    else some (.passed streams frame)

end

end Framing

namespace Reading
variable {β : Type}

/-- What is buffered afterwards, unless the connection is dropped. -/
def next : Reading β → Option Reassembly
  | .dropped _ => none
  | .kept streams | .passed streams _ => some streams

def message : Reading β → Option (Frame β)
  | .passed _ frame => some frame
  | _ => none

end Reading

/-- A frame that the read loop gets, when it gets it, and the session key that is
installed by then. -/
structure Arrival (β : Type) where
  now : Nat
  key : Option Bytes := none
  frame : Frame β

namespace Framing
variable {β : Type} (framing : Framing β)

/-- The read loop over several frames: for each of them the message that was
passed on, if any; nothing if the connection was dropped on the way. -/
def run (wire : Wire β) (limits : ConnectionLimits) :
    Reassembly → List (Arrival β) → Option (Reassembly × List (Option (Frame β)))
  | streams, [] => some (streams, [])
  | streams, arrival :: rest =>
    let reading := framing.readFrame wire limits arrival.now arrival.key streams arrival.frame
    match reading.next with
    | none => none
    | some next => (run wire limits next rest).map fun (final, messages) => (final, reading.message :: messages)

/-- How the handler of a connection ends in a build with overflow checks. -/
inductive HandlerEnd where
  | reported
  | panicked
  deriving DecidableEq

/-- The frames that come before the input ends. The disconnect is reported when it
does, and also when the handler drops the connection earlier. -/
def runChecked (wire : Wire β) (limits : ConnectionLimits) : Reassembly → List (Arrival β) → HandlerEnd
  | _, [] => .reported
  | streams, arrival :: rest =>
    match framing.readFrameChecked wire limits arrival.now arrival.key streams arrival.frame with
    | none => .panicked
    | some reading =>
      match reading.next with
      | none => .reported
      | some next => runChecked wire limits next rest

/-- A frame as the write loop sends it: tagged once a key is set. -/
def tagged (key : Option Bytes) (frame : Frame β) : Frame β :=
  match key with
  | none => frame
  | some key =>
    let frame := { frame with flags := frame.flags ||| flagMacPresent }
    { frame with mac := some (framing.computeTag key (framing.serializeHeader frame) frame.payload) }

def frameToBytes (frame : Frame β) : Bytes :=
  BigEndian.bytes 2 frame.magic.toNat ++ BigEndian.bytes 2 frame.flags.toNat ++
    BigEndian.bytes 4 frame.length.toNat ++ frame.target ++ BigEndian.bytes 4 frame.crc32.toNat ++
    framing.toBytes frame.payload ++ frame.mac.getD []

end Framing
end Vynkor
