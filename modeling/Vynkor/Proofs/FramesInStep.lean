import Vynkor.Proofs.BridgeSteps
import Vynkor.Proofs.ReassemblyTrace

/-! Whoever reads what a writer emits stays in step with it: the header says how long
the payload is and whether a tag follows. The frames of the write channels are built
by the kernel, relayed as they were read, or put together from fragments; a channel
only ever holds frames without tag, and the writers add theirs. -/

namespace Vynkor.Proofs
open Execution Framing Mailboxes RouterState
variable {β : Type} {wire : Wire β} {framing : Framing β} {limits : ConnectionLimits} {ctx : Context β}

section Frames
variable {frame : Frame β}

/-- A frame as it is read: the header describes the payload, which is not compressed
any more, and there is a tag if its flag is set. -/
def asRead (wire : Wire β) (frame : Frame β) : Bool :=
  frame.target.length == 32 && frame.length == UInt32.ofNat (wire.size frame.payload) &&
    frame.crc32 == wire.crc32 frame.payload && frame.flags &&& flagCompressed == 0 &&
    frame.mac.isSome == (frame.flags &&& flagMacPresent != 0)

/-- Payloads have the size of their bytes, and tags have 32 of them. -/
structure Measured (wire : Wire β) (framing : Framing β) : Prop where
  sized : ∀ payload, wire.size payload = (framing.toBytes payload).length
  tags : ∀ key header payload, (framing.computeTag key header payload).length = 32

/-- The header describes the payload, which is neither compressed nor a fragment. -/
structure Whole (wire : Wire β) (frame : Frame β) : Prop where
  target : frame.target.length = 32
  length : frame.length = UInt32.ofNat (wire.size frame.payload)
  crc32 : frame.crc32 = wire.crc32 frame.payload
  uncompressed : frame.flags &&& flagCompressed = 0
  unfragmented : frame.flags &&& flagFragmented = 0

/-- A frame that nobody has tagged. -/
structure Plain (wire : Wire β) (frame : Frame β) : Prop extends Whole wire frame where
  untagged : frame.flags &&& flagMacPresent = 0
  mac : frame.mac = none

/-- The flag is set if and only if a tag of 32 bytes follows the payload, and nothing
else ever follows it. -/
structure Emitted (wire : Wire β) (frame : Frame β) : Prop extends Whole wire frame where
  tagged : frame.flags &&& flagMacPresent ≠ 0 ↔ ∃ tag, frame.mac = some tag ∧ tag.length = 32
  untagged : frame.flags &&& flagMacPresent = 0 ↔ frame.mac = none

/-- What a reader takes for the next frame of a stream, and the rest: a header, as many
bytes as its length field says, and a tag if its flag is set. -/
def nextFrame (stream : Bytes) : Bytes × Bytes :=
  let flags := UInt16.ofNat (BigEndian.value ((stream.drop 2).take 2))
  let length := BigEndian.value ((stream.drop 4).take 4)
  stream.splitAt (frameHeaderSize + length + if flags &&& flagMacPresent = 0 then 0 else 32)

theorem and_mask {flags flag} (clear : flags &&& flag = 0) (mask : UInt16) : flags &&& mask &&& flag = 0 := by
  rw [UInt16.and_assoc, UInt16.and_comm mask, ← UInt16.and_assoc, clear]
  exact UInt16.zero_and

theorem and_not_and (flags flag : UInt16) : flags &&& ~~~flag &&& flag = 0 := by
  rw [UInt16.and_assoc, UInt16.not_and_self]
  exact UInt16.and_zero

theorem or_and {flags other flag : UInt16} (clear : flags &&& flag = 0) : (flags ||| other) &&& flag = other &&& flag := by
  apply UInt16.toBitVec_inj.mp
  have none : flags.toBitVec &&& flag.toBitVec = 0 := by simpa using congrArg UInt16.toBitVec clear
  ext bit inside
  have unset := congrArg (·.getLsbD bit) none
  simp at unset ⊢
  grind

theorem targetBytes_length (target : String) : (targetBytes target).length = 32 := by
  simp only [targetBytes, List.length_append, List.length_replicate, List.length_take]
  omega

theorem buildFrame_plain (wire : Wire β) (target : String) (payload : β) :
    Plain wire (buildFrame wire target 0 payload) := by
  refine ⟨⟨targetBytes_length target, rfl, rfl, ?_, ?_⟩, ?_, rfl⟩ <;> exact UInt16.zero_and

theorem Whole.stripMac (whole : Whole wire frame) : Plain wire frame.stripMac :=
  ⟨⟨whole.target, whole.length, whole.crc32, and_mask whole.uncompressed _, and_mask whole.unfragmented _⟩,
    and_not_and _ _, rfl⟩

theorem Whole.retarget (whole : Whole wire frame) (target : String) :
    Whole wire { frame with target := targetBytes target } :=
  ⟨targetBytes_length target, whole.length, whole.crc32, whole.uncompressed, whole.unfragmented⟩

theorem Plain.retarget (plain : Plain wire frame) (target : String) :
    Plain wire { frame with target := targetBytes target } :=
  ⟨plain.toWhole.retarget target, plain.untagged, plain.mac⟩

theorem Plain.tagged (plain : Plain wire frame) (measured : Measured wire framing) (key : Option Bytes) :
    Emitted wire (framing.tagged key frame) := by
  cases key with
  | none =>
    refine ⟨plain.toWhole, ?_, ?_⟩
    · simp [Framing.tagged, plain.untagged, plain.mac]
    · simp [Framing.tagged, plain.untagged, plain.mac]
  | some key =>
    have set : (frame.flags ||| flagMacPresent) &&& flagMacPresent ≠ 0 := by
      rw [or_and plain.untagged]
      decide
    refine ⟨⟨plain.target, plain.length, plain.crc32, ?_, ?_⟩, ?_, ?_⟩
    · show (frame.flags ||| flagMacPresent) &&& flagCompressed = 0
      rw [or_and plain.uncompressed]
      decide
    · show (frame.flags ||| flagMacPresent) &&& flagFragmented = 0
      rw [or_and plain.unfragmented]
      decide
    · exact ⟨fun _ => ⟨_, rfl, measured.tags _ _ _⟩, fun _ => set⟩
    · exact ⟨fun clear => absurd clear set, fun absent => by cases absent⟩

theorem asRead_whole (read : asRead wire frame = true) (unmarked : frame.flags &&& flagFragmented = 0) :
    Whole wire frame := by
  simp only [asRead, Bool.and_eq_true, beq_iff_eq] at read
  obtain ⟨⟨⟨⟨target, length⟩, crc32⟩, uncompressed⟩, _⟩ := read
  exact ⟨target, length, crc32, uncompressed, unmarked⟩

theorem assemble_whole (measured : Measured wire framing) {buf}
    (target : buf.target.length = 32) (read : asRead wire frame = true) :
    Whole wire (framing.assemble wire frame buf) := by
  simp only [asRead, Bool.and_eq_true, beq_iff_eq] at read
  obtain ⟨⟨_, uncompressed⟩, _⟩ := read
  refine ⟨target, ?_, rfl, and_mask uncompressed _, and_not_and _ _⟩
  show UInt32.ofNat buf.reassemble.length = UInt32.ofNat (wire.size (framing.ofBytes buf.reassemble))
  rw [measured.sized, framing.toBytes_ofBytes]

theorem Emitted.tag_length (emitted : Emitted wire frame) :
    (frame.mac.getD []).length = if frame.flags &&& flagMacPresent = 0 then 0 else 32 := by
  split
  next clear => simp [emitted.untagged.mp clear]
  next set =>
    obtain ⟨tag, mac, length⟩ := emitted.tagged.mp set
    simpa [mac] using length

section
variable (emitted : Emitted wire frame) (sized : wire.size frame.payload = (framing.toBytes frame.payload).length)
include emitted sized

theorem Emitted.bytes_length : (framing.frameToBytes frame).length =
      frameHeaderSize + wire.size frame.payload + if frame.flags &&& flagMacPresent = 0 then 0 else 32 := by
  simp only [frameToBytes, List.length_append, BigEndian.length_bytes, emitted.target, emitted.tag_length, sized,
    frameHeaderSize]

/-- The reader takes exactly the bytes of the frame, whatever comes behind it. -/
theorem Emitted.nextFrame (fits : wire.size frame.payload < UInt32.size) (rest : Bytes) :
    nextFrame (framing.frameToBytes frame ++ rest) = (framing.frameToBytes frame, rest) := by
  obtain ⟨behind, layout⟩ : ∃ behind, framing.frameToBytes frame ++ rest = BigEndian.bytes 2 frame.magic.toNat ++
      (BigEndian.bytes 2 frame.flags.toNat ++ (BigEndian.bytes 4 frame.length.toNat ++ behind)) := by
    simp only [frameToBytes, List.append_assoc]
    exact ⟨_, rfl⟩
  have flags : UInt16.ofNat (BigEndian.value (((framing.frameToBytes frame ++ rest).drop 2).take 2)) = frame.flags := by
    rw [layout, List.drop_left' (BigEndian.length_bytes 2 _), List.take_left' (BigEndian.length_bytes 2 _),
      BigEndian.value_bytes_two, Nat.mod_eq_of_lt frame.flags.toNat_lt]
    exact UInt16.ofNat_toNat
  have length : BigEndian.value (((framing.frameToBytes frame ++ rest).drop 4).take 4) = wire.size frame.payload := by
    have short : (BigEndian.bytes 2 frame.magic.toNat ++ BigEndian.bytes 2 frame.flags.toNat).length = 4 := by simp
    rw [layout, ← List.append_assoc, List.drop_left' short, List.take_left' (BigEndian.length_bytes 4 _),
      BigEndian.value_bytes_four, Nat.mod_eq_of_lt frame.length.toNat_lt, emitted.length]
    exact UInt32.toNat_ofNat_of_lt' fits
  simp only [Proofs.nextFrame, flags, length, List.splitAt_eq, ← emitted.bytes_length sized]
  rw [List.take_left, List.drop_left]

end

end Frames

/-- What a connection holds for the router is whole, and what it wrote can be read. -/
structure FineLink (wire : Wire β) (link : Link β) : Prop where
  held : ∀ msg, link.task = .holding msg → Whole wire msg.frame
  targets : ∀ stream buf, link.streams.get stream = some buf → buf.target.length = 32
  written : ∀ frame ∈ link.socket, Emitted wire frame

theorem FineLink.at {link} (fine : FineLink wire link) {task}
    (idle : ∀ msg, task ≠ .holding msg) : FineLink wire { link with task } :=
  ⟨fun msg holding => absurd holding (idle msg), fine.targets, fine.written⟩

theorem prune_targets {streams} (targets : ∀ stream buf, streams.get stream = some buf → buf.target.length = 32)
    (timeout now : Nat) :
    ∀ stream buf, (pruneStaleReassembly timeout now streams).get stream = some buf → buf.target.length = 32 := by
  intro stream buf found
  rw [pruneStaleReassembly, DashMap.get_retain, Option.filter_eq_some_iff] at found
  exact targets stream buf found.1

theorem Stores.target {streams part buf}
    (stores : Stores framing limits streams part buf) (read : asRead wire part.arrival.frame = true)
    (targets : ∀ stream buf, streams.get stream = some buf → buf.target.length = 32) : buf.target.length = 32 := by
  rcases streamBuffer_cases stores.found with ⟨found, _⟩ | ⟨_, _, rfl⟩
  · exact targets _ _ found
  · simp only [asRead, Bool.and_eq_true, beq_iff_eq] at read
    exact read.1.1.1.1

/-- One frame of the read loop, from the buffers before it to the message it passes on. -/
theorem Absorbs.fine {streams next arrival message}
    (absorbs : Absorbs framing wire limits streams arrival next message)
    (measured : Measured wire framing) (read : asRead wire arrival.frame = true)
    (targets : ∀ stream buf, streams.get stream = some buf → buf.target.length = 32) :
    (∀ stream buf, next.get stream = some buf → buf.target.length = 32) ∧
      ∀ frame, message = some frame → Whole wire frame := by
  cases absorbs with
  | whole unmarked =>
    refine ⟨targets, ?_⟩
    rintro _ ⟨rfl⟩
    exact asRead_whole read unmarked
  | @kept part buf fragment stores missing =>
    obtain rfl := asPart_arrival fragment
    refine ⟨?_, by intro _ absent; cases absent⟩
    intro stream other found
    rw [DashMap.get_insert] at found
    split at found
    · cases found
      exact stores.target read targets
    · exact targets stream other found
  | @completed part buf fragment stores complete =>
    obtain rfl := asPart_arrival fragment
    refine ⟨?_, ?_⟩
    · intro stream other found
      exact targets stream other (DashMap.get_erase_eq_some.mp found).2
    · rintro _ ⟨rfl⟩
      exact assemble_whole measured (stores.target read targets) read

theorem readFrame_fine (arrival : Arrival β) {streams after reading}
    (measured : Measured wire framing) (read : asRead wire arrival.frame = true)
    (targets : ∀ stream buf, streams.get stream = some buf → buf.target.length = 32)
    (got : framing.readFrame wire limits arrival.now arrival.key streams arrival.frame = reading)
    (kept : reading.next = some after) :
    (∀ stream buf, after.get stream = some buf → buf.target.length = 32) ∧
      ∀ message, reading.message = some message → Whole wire message := by
  subst got
  exact (readFrame_absorbs kept).fine measured read (prune_targets targets _ _)

section Steps
variable {state next : Tasks β} {action : TaskAction β} {conn : Nat}

structure WellFramed (wire : Wire β) (state : Tasks β) : Prop where
  queued : ∀ tx frame, .frame frame ∈ (state.net tx).queue → Plain wire frame
  waiting : ∀ msg ∈ state.kernel.incoming, Whole wire msg.frame
  links : ∀ conn, FineLink wire (state.links conn)

/-- The step reads a frame as it was read from the wire, or takes over a whole one
from the bridge. -/
def FineAction (wire : Wire β) : TaskAction β → Prop
  | .read _ _ frame => asRead wire frame = true
  | .other (.receive msg) => Whole wire msg.frame
  | _ => True

theorem Posted.plain {tx frame} (posted : Posted ctx state.kernel tx (.frame frame))
    (framed : WellFramed ctx.wire state) : Plain ctx.wire frame := by
  rcases posted with ⟨target, bytes, built⟩ | ⟨msg, member, passed⟩
  · cases built
    exact buildFrame_plain ctx.wire target bytes
  · cases passed
    exact (framed.waiting msg member).stripMac

theorem Writes.shrinks {tx item} (written : Writes framing conn state next)
    (member : item ∈ (next.net tx).queue) : item ∈ (state.net tx).queue := by
  cases written with
  | installed | written | skipped | lost => exact mem_drain member
  | closed => exact mem_close member

theorem WellFramed.queues (framed : WellFramed ctx.wire state)
    (took : state.step ctx framing limits action = some next) :
    ∀ tx frame, .frame frame ∈ (next.net tx).queue → Plain ctx.wire frame := by
  intro tx frame member
  cases step_net took with
  | adds adds =>
    rcases adds.mem_queue member with old | new
    · exact framed.queued tx frame old
    · exact new.plain framed
  | @keyed registering key _ _ _ net =>
    have adds : Mailboxes.Adds (fun _ item => item = .enableMac key) state.net
        (state.net.send registering.msg.writeTx (.enableMac key)) := send_adds state.net _ _ rfl
    rw [net] at member
    rcases adds.mem_queue member with old | new
    · exact framed.queued tx frame old
    · cases new
  | written _ written => exact framed.queued tx frame (written.shrinks member)
  | ended _ net =>
    rw [net] at member
    exact framed.queued tx frame (mem_close member)
  | bridged _ net =>
    rcases net with net | net
    · rw [net] at member
      exact framed.queued tx frame (mem_drain member)
    · rw [net] at member
      exact framed.queued tx frame (mem_close member)

theorem WellFramed.waits (framed : WellFramed ctx.wire state) (sound : FineAction ctx.wire action)
    (took : state.step ctx framing limits action = some next) :
    ∀ msg ∈ next.kernel.incoming, Whole ctx.wire msg.frame := by
  intro msg member
  have queue := (step_frame took).incoming
  generalize next.kernel.incoming = incoming at queue member
  cases queue with
  | same => exact framed.waiting msg member
  | taken _ waiting => exact framed.waiting msg (by simp [waiting, member])
  | held holding =>
    rcases List.mem_append.mp member with old | new
    · exact framed.waiting msg old
    · cases List.mem_singleton.mp new
      exact (framed.links _).held _ holding
  | bridged mine =>
    subst mine
    rcases List.mem_append.mp member with old | new
    · exact framed.waiting msg old
    · cases List.mem_singleton.mp new
      exact sound

theorem read_fine {now frame} (fine : FineLink ctx.wire (state.links conn))
    (measured : Measured ctx.wire framing) (read : asRead ctx.wire frame = true)
    (took : state.read ctx framing limits conn now frame = some next) :
    FineLink ctx.wire (next.links conn) := by
  simp only [Tasks.read] at took
  split at took
  · split at took
    · cases took
      rw [Tasks.setTask, setLink_self]
      exact fine.at (by simp)
    · cases took
      rw [Tasks.setTask, setLink_self]
      exact fine.at (by simp)
    next streams got =>
      cases took
      rw [setLink_self]
      obtain ⟨targets, _⟩ := readFrame_fine ⟨now, (state.links conn).cell, frame⟩ measured read fine.targets got rfl
      exact ⟨fine.held, targets, fine.written⟩
    next streams message got =>
      cases took
      obtain ⟨targets, whole⟩ :=
        readFrame_fine ⟨now, (state.links conn).cell, frame⟩ measured read fine.targets got rfl
      rw [setLink_self]
      refine ⟨?_, targets, fine.written⟩
      rintro _ ⟨rfl⟩
      exact whole message rfl
  · split at took
    · cases took
    next unmarked =>
      split at took
      · cases took
        rw [Tasks.setTask, setLink_self]
        exact fine.at (by simp)
      · cases took
        rw [Tasks.setTask, setLink_self]
        refine ⟨?_, fine.targets, fine.written⟩
        rintro _ ⟨rfl⟩
        have clear : frame.flags &&& flagFragmented = 0 := by simpa using unmarked
        exact asRead_whole read clear
  · cases took

theorem Writes.fine (written : Writes framing conn state next) (framed : WellFramed ctx.wire state)
    (measured : Measured ctx.wire framing) : FineLink ctx.wire (next.links conn) := by
  have fine := framed.links conn
  cases written with
  | installed =>
    rw [setLink_self]
    exact ⟨fine.held, fine.targets, fine.written⟩
  | @written frame rest queue =>
    rw [setLink_self]
    refine ⟨fine.held, fine.targets, ?_⟩
    intro sent member
    rcases List.mem_append.mp member with old | new
    · exact fine.written sent old
    · cases List.mem_singleton.mp new
      exact (framed.queued { conn } frame (by simp [queue])).tagged measured _
  | skipped | closed => exact fine
  | lost =>
    rw [Tasks.setTask, setLink_self]
    exact fine.at (by simp)

section
variable (framed : WellFramed ctx.wire state) (measured : Measured ctx.wire framing)
  (sound : FineAction ctx.wire action) (took : state.step ctx framing limits action = some next)
include framed measured sound took

theorem WellFramed.touched (mine : touches action = some conn) : FineLink ctx.wire (next.links conn) := by
  have fine := framed.links conn
  cases action with
  | read =>
    cases mine
    exact read_fine fine measured sound took
  | leave =>
    cases mine
    simp only [Tasks.step, Tasks.leave] at took
    split at took
    · cases took
      rw [Tasks.setTask, setLink_self]
      exact fine.at (by simp)
    · cases took
  | enqueue =>
    cases mine
    obtain ⟨_, kernel, _, _, rfl⟩ := enqueue_some took
    rw [Tasks.setTask, setLink_self]
    exact fine.at (by simp)
  | refuse =>
    cases mine
    obtain ⟨_, _, _, rfl⟩ := refuse_some took
    rw [Tasks.setTask, setLink_self]
    exact fine.at (by simp)
  | write =>
    cases mine
    exact (write_some took).fine framed measured
  | _ => cases mine

theorem WellFramed.step : WellFramed ctx.wire next := by
  refine ⟨framed.queues took, framed.waits sound took, ?_⟩
  intro conn
  by_cases mine : touches action = some conn
  · exact framed.touched measured sound took mine
  · rw [(step_frame took).links conn mine]
    exact framed.links conn

end

end Steps

section Bridge
variable {bridge : Bridge} {state next : BridgedTasks β} {action : BridgedAction β}

def readsFrames (wire : Wire β) (_ : BridgedTasks β) : BridgedAction β → Bool
  | .task (.read _ _ frame) | .register frame _ | .read frame => asRead wire frame
  | _ => true

/-- The same for what the bridge holds and has written. -/
structure HostFramed (wire : Wire β) (host : HostLink β) : Prop where
  held : ∀ serial key frame, host.task = .holding serial key frame → Whole wire frame
  written : ∀ frame ∈ host.socket, Emitted wire frame

theorem HostFramed.at {host : HostLink β} {wire : Wire β} (framed : HostFramed wire host) {task : BridgeTask β}
    (idle : ∀ serial key frame, task ≠ .holding serial key frame) : HostFramed wire { host with task } :=
  ⟨fun serial key frame holding => absurd holding (idle serial key frame), framed.written⟩

theorem Plain.hostFrame {frame} (plain : Plain ctx.wire frame)
    (measured : Measured ctx.wire framing) (key : Option Bytes) :
    Emitted ctx.wire (Bridge.hostFrame ctx.wire framing key frame) := by
  rw [Bridge.hostFrame]
  split
  · exact (plain.retarget _).tagged measured key
  · exact plain.tagged measured key

inductive Outer (ctx : Context β) (framing : Framing β) (bridge : Bridge) (state : BridgedTasks β)
    (action : BridgedAction β) : HostLink β → Prop where
  | same : Outer ctx framing bridge state action state.host
  | moved {task} (idle : ∀ serial key frame, task ≠ .holding serial key frame) :
      Outer ctx framing bridge state action { state.host with task }
  | connected {bytes} : Outer ctx framing bridge state action
      { task := .registering, socket := [buildFrame ctx.wire "kernel" 0 bytes] }
  | read {serial key frame} (mine : action = .read frame)
      (unmarked : frame.flags &&& flagFragmented = 0) : Outer ctx framing bridge state action
        { state.host with task := .holding serial key (bridge.localFrame ctx.wire frame) }
  | wrote {tx key frame} (queued : .frame frame ∈ (state.tasks.net tx).queue) :
      Outer ctx framing bridge state action
        { state.host with socket := state.host.socket ++ [Bridge.hostFrame ctx.wire framing key frame] }

theorem BridgeStep.outer (step : BridgeStep ctx framing limits bridge state action next) :
    Outer ctx framing bridge state action next.host := by
  cases step with
  | task | waited | skipped | lost => exact .same
  | connected => exact .connected
  | failed | registered | ended | enqueued => exact .moved (by simp)
  | read _ unmarked => exact .read rfl unmarked
  | @wrote _ tx _ frame _ _ queue =>
    have queued : .frame frame ∈ (state.tasks.net tx).queue := by simp [queue]
    exact .wrote queued

theorem Inner.framed (inner : Inner ctx framing limits state action next.tasks) (framed : WellFramed ctx.wire state.tasks)
    (host : HostFramed ctx.wire state.host)
    (measured : Measured ctx.wire framing)
    (allowed : readsFrames ctx.wire state action = true) : WellFramed ctx.wire next.tasks := by
  cases inner with
  | same unchanged => exact unchanged ▸ framed
  | @task inner mine apart took =>
    subst mine
    refine framed.step measured ?_ took
    cases inner with
    | read => exact allowed
    | other elsewhere =>
      cases elsewhere with
      | receive => cases apart
      | _ => trivial
    | _ => trivial
  | @bridge inner took silent =>
    refine framed.step measured ?_ took
    cases inner with
    | receive msg => exact absurd rfl (silent msg)
    | _ => trivial
  | @enqueue serial key frame holding took =>
    refine framed.step measured ?_ took
    exact host.held serial key frame holding

theorem Outer.framed {after : HostLink β} (outer : Outer ctx framing bridge state action after)
    (framed : WellFramed ctx.wire state.tasks) (host : HostFramed ctx.wire state.host)
    (measured : Measured ctx.wire framing)
    (allowed : readsFrames ctx.wire state action = true) : HostFramed ctx.wire after := by
  cases outer with
  | same => exact host
  | moved idle => exact host.at idle
  | @connected bytes =>
    refine ⟨by simp, ?_⟩
    intro frame member
    cases List.mem_singleton.mp member
    exact (buildFrame_plain ctx.wire "kernel" bytes).tagged measured none
  | @read serial key frame mine unmarked =>
    subst mine
    refine ⟨?_, host.written⟩
    rintro _ _ _ ⟨rfl⟩
    exact (asRead_whole allowed unmarked).stripMac.toWhole.retarget _
  | @wrote tx key frame queued =>
    refine ⟨host.held, ?_⟩
    intro sent member
    rcases List.mem_append.mp member with old | new
    · exact host.written sent old
    · cases List.mem_singleton.mp new
      exact (framed.queued tx frame queued).hostFrame measured key

/-- If frames are read as the wire crate returns them, then every frame in a write
channel is untagged, whole and described by its header; and what the writers of the
connections and of the bridge emit carries a tag exactly if the flag is set, so that
a reader takes frame by frame what was written. -/
theorem frames_in_step (ctx : Context β) (framing : Framing β) (limits : ConnectionLimits) (bridge : Bridge)
    (sized : ∀ payload, ctx.wire.size payload = (framing.toBytes payload).length)
    (tags : ∀ key header payload, (framing.computeTag key header payload).length = 32)
    (router : RouterState β) (quiet : ∀ tx, (router.net tx).queue = []) (state : BridgedTasks β)
    (run : Run (BridgedTasks.step ctx framing limits bridge) (readsFrames ctx.wire)
      { tasks := { kernel := { router } } } state) :
    (∀ tx frame, .frame frame ∈ (state.tasks.net tx).queue → Plain ctx.wire frame) ∧
    ∀ frame, (∃ conn, frame ∈ (state.tasks.links conn).socket) ∨ frame ∈ state.host.socket →
      Emitted ctx.wire frame ∧ (ctx.wire.size frame.payload < UInt32.size →
        ∀ rest, nextFrame (framing.frameToBytes frame ++ rest) = (framing.frameToBytes frame, rest)) := by
  have measured : Measured ctx.wire framing := ⟨sized, tags⟩
  have invariant : WellFramed ctx.wire state.tasks ∧ HostFramed ctx.wire state.host := by
    apply run.preserves
    · refine ⟨⟨?_, by simp, ?_⟩, by simp, by simp⟩
      · intro tx frame member
        rw [Tasks.net, quiet tx] at member
        cases member
      · intro conn
        refine ⟨by simp, ?_, by simp⟩
        intro _ _ found
        cases found
    intro before action after allowed took holds
    have step := bridge_step took
    exact ⟨step.inner.framed holds.1 holds.2 measured allowed, step.outer.framed holds.1 holds.2 measured allowed⟩
  obtain ⟨framed, host⟩ := invariant
  refine ⟨framed.queued, ?_⟩
  intro frame written
  have emitted : Emitted ctx.wire frame := by
    rcases written with ⟨conn, member⟩ | member
    · exact (framed.links conn).written frame member
    · exact host.written frame member
  exact ⟨emitted, fun fits rest => emitted.nextFrame (sized _) fits rest⟩

end Bridge

section Runs
open Scenario

def tidyFraming : Framing Packet where
  toBytes
    | .message _ => [0, 0, 0, 0]
    | .raw bytes => bytes
  ofBytes := .raw
  parseFragHeader _ := none
  serializeHeader frame := frame.target
  computeTag key _ _ := (key ++ List.replicate 32 0).take 32
  verifyTag key _ _ tag := tag == (key ++ List.replicate 32 0).take 32
  tooLarge _ := false
  toBytes_ofBytes _ := rfl

def tablet : Bridge where
  deviceId := "tablet"

def pinged : List (BridgedAction Packet) :=
  .connect true :: signsOn.map .task ++ [.task (.write 1 true), .task (.write 1 true),
    .task (.other (.ping "notes" start)), .task (.write 1 true)]

def pingedEnd : BridgedTasks Packet :=
  (exec (BridgedTasks.step vault tidyFraming {} tablet) (readsFrames Packet.wire) {} pinged).get (by decide +kernel)

theorem frames_in_step_pinged :
    (pingedEnd.tasks.links 1).socket.map (fun frame => frame.flags &&& flagMacPresent) = [0, 1] ∧
    pingedEnd.host.socket.length = 1 ∧
    ∀ frame, (∃ conn, frame ∈ (pingedEnd.tasks.links conn).socket) ∨ frame ∈ pingedEnd.host.socket →
      Emitted Packet.wire frame := by
  refine ⟨by decide +kernel, by decide +kernel, ?_⟩
  intro frame written
  have sized : ∀ payload, vault.wire.size payload = (tidyFraming.toBytes payload).length := by
    intro payload
    cases payload <;> rfl
  have tags : ∀ key header payload, (tidyFraming.computeTag key header payload).length = 32 := by
    intro key header payload
    simp [tidyFraming]
  have inStep := frames_in_step vault tidyFraming {} tablet sized tags {} (fun _ => rfl) pingedEnd
    (exec_get_run (by decide +kernel))
  exact (inStep.2 frame written).1

end Runs

end Vynkor.Proofs
