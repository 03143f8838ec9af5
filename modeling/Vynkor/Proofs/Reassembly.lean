import Mathlib.Order.Basic
import Vynkor.Connection
import Vynkor.Data.Gather

/-! A message that comes in fragments. Whatever the order in which they arrive,
and whatever arrives in between on other streams, the read loop passes on the
message once, with the last fragment that was missing. -/

namespace Vynkor.Proofs
open DashMap Framing
variable {β : Type} {framing : Framing β} {wire : Wire β} {limits : ConnectionLimits}

def bigEndian16 (word : UInt16) : Bytes := [(word >>> 8).toUInt8, word.toUInt8]

def bigEndian32 (word : UInt32) : Bytes := bigEndian16 (word >>> 16).toUInt16 ++ bigEndian16 word.toUInt16

/-- The documented layout of the fragment header. -/
def encodeFragHeader (header : FragmentHeader) : Bytes :=
  bigEndian16 header.fragmentId ++ bigEndian16 header.sequence ++ bigEndian16 header.total ++ bigEndian32 header.streamId

theorem encodeFragHeader_length (header : FragmentHeader) : (encodeFragHeader header).length = fragHeaderSize := rfl

/-- A payload cut into pieces, and what its fragments have in common. -/
structure FragmentedMessage where
  streamId : UInt32
  target : Bytes
  flags : UInt16
  pieces : List Bytes
  cut : 0 < pieces.length
  few : pieces.length < UInt16.size
  fits : pieces.flatten.length ≤ maxPayloadSize
  marked : (flags &&& flagFragmented != 0) = true

namespace FragmentedMessage
variable (message : FragmentedMessage) {sequence : UInt16}

def payload : Bytes := message.pieces.flatten

def total : UInt16 := UInt16.ofNat message.pieces.length

def piece (sequence : UInt16) : Bytes := message.pieces[sequence.toNat]?.getD []

def sequences : List UInt16 := (List.range message.pieces.length).map UInt16.ofNat

def IsFragment {β : Type} (framing : Framing β) (sequence : UInt16) (frame : Frame β) : Prop :=
  sequence ∈ message.sequences ∧ frame.target = message.target ∧ frame.flags = message.flags ∧
    ∃ fragmentId, framing.toBytes frame.payload =
      encodeFragHeader ⟨fragmentId, sequence, message.total, message.streamId⟩ ++ message.piece sequence

theorem total_toNat : message.total.toNat = message.pieces.length :=
  UInt16.toNat_ofNat_of_lt' message.few

theorem toNat_sequence {index} (inside : index < message.pieces.length) :
    (UInt16.ofNat index).toNat = index :=
  UInt16.toNat_ofNat_of_lt' (Nat.lt_trans inside message.few)

theorem sequences_length : message.sequences.length = message.pieces.length := by
  simp [sequences]

theorem sequences_sorted : message.sequences.Pairwise (· < ·) := by
  rw [sequences, List.pairwise_map]
  apply List.pairwise_lt_range.imp_of_mem
  intro first second firstInside secondInside before
  rw [List.mem_range] at firstInside secondInside
  rw [UInt16.lt_iff_toNat_lt, message.toNat_sequence firstInside, message.toNat_sequence secondInside]
  exact before

theorem sequence_below (member : sequence ∈ message.sequences) :
    sequence.toNat < message.pieces.length := by
  obtain ⟨index, inside, rfl⟩ := List.mem_map.mp member
  rw [List.mem_range] at inside
  rw [message.toNat_sequence inside]
  exact inside

theorem pieces_whole : message.sequences.flatMap message.piece = message.payload := by
  have each : message.sequences.map message.piece = message.pieces := by
    apply List.ext_getElem
    · rw [List.length_map, message.sequences_length]
    · intro index _ inside
      simp [sequences, piece, message.toNat_sequence inside, inside]
  rw [List.flatMap_def, each, payload]

end FragmentedMessage

section Reading
variable {now opened : Nat} {key : Option Bytes} {streams next : Reassembly} {frame : Frame β} {sequence : UInt16}
  {seen : List UInt16} {message : FragmentedMessage} {buf : ReassemblyBuf} {streamId : UInt32}
  {base added removed : Nat} {data : Bytes}

def sequenceOn (framing : Framing β) (streamId : UInt32) (frame : Frame β) : Option UInt16 :=
  if frame.flags &&& flagFragmented != 0 then
    (framing.parseFragHeader (framing.toBytes frame.payload)).bind fun header =>
      if header.streamId = streamId then some header.sequence else none
  else none

theorem prune_none (free : streams.get streamId = none) :
    (pruneStaleReassembly limits.fragmentTimeout now streams).get streamId = none := by
  rw [pruneStaleReassembly, get_retain, free]
  rfl

theorem prune_fresh (found : streams.get streamId = some buf)
    (fresh : now - buf.firstSeen < limits.fragmentTimeout) :
    (pruneStaleReassembly limits.fragmentTimeout now streams).get streamId = some buf := by
  rw [pruneStaleReassembly, get_retain, found, Option.filter_some, if_pos]
  simp only [Bool.not_eq_true', decide_eq_false_iff_not]
  omega

theorem storeFragment_elsewhere {header} (other : header.streamId ≠ streamId)
    (read : (framing.storeFragment wire limits now streams frame header).next = some next) :
    next.get streamId = streams.get streamId := by
  simp only [storeFragment] at read
  split at read
  · cases read
  · split at read
    · cases read
    · split at read
      · cases read
      · split at read
        · cases read
          rw [get_erase, if_neg other.symm]
        · cases read
          rw [get_insert, if_neg other.symm]

/-- A frame that is not on the stream leaves what is buffered for it, unless that
has become stale. -/
theorem readFrame_elsewhere (other : sequenceOn framing streamId frame = none)
    (read : (framing.readFrame wire limits now key streams frame).next = some next) :
    next.get streamId = (pruneStaleReassembly limits.fragmentTimeout now streams).get streamId := by
  simp only [readFrame] at read
  split at read
  · cases read
  · split at read
    next fragmented =>
      split at read
      · cases read
      next header parsed =>
        have apart : header.streamId ≠ streamId := by
          intro same
          simp [sequenceOn, fragmented, parsed, same] at other
        exact storeFragment_elsewhere apart read
    · cases read
      rfl

/-- What the stream's buffer holds when the fragments in `seen` have arrived, the
first of them not before `opened`. -/
structure Buffered (message : FragmentedMessage) (opened : Nat) (seen : List UInt16) (buf : ReassemblyBuf) : Prop where
  total : buf.total = message.total
  target : buf.target = message.target
  recent : opened ≤ buf.firstSeen
  gathers : DashMap.Gathers message.sequences message.piece buf.fragments
  bytes : buf.bufferedBytes = buf.fragments.gathered.length
  holds : ∀ sequence, (buf.fragments.get sequence).isSome = true ↔ sequence ∈ seen

/-- The stream has no buffer until its first fragment has arrived. -/
def Progress (message : FragmentedMessage) (opened : Nat) (seen : List UInt16) (streams : Reassembly) : Prop :=
  match seen with
  | [] => streams.get message.streamId = none
  | _ :: _ => ∃ buf, streams.get message.streamId = some buf ∧ Buffered message opened seen buf

theorem Progress.prune (progress : Progress message opened seen streams)
    (fresh : now - opened < limits.fragmentTimeout) :
    Progress message opened seen (pruneStaleReassembly limits.fragmentTimeout now streams) := by
  cases seen with
  | nil => exact prune_none progress
  | cons first rest =>
    obtain ⟨buf, found, buffered⟩ := progress
    have recent := buffered.recent
    exact ⟨buf, prune_fresh found (by omega), buffered⟩

theorem Progress.keep {kept} (progress : Progress message opened seen streams)
    (same : kept.get message.streamId = streams.get message.streamId) : Progress message opened seen kept := by
  cases seen with
  | nil => exact same.trans progress
  | cons first rest =>
    obtain ⟨buf, found, buffered⟩ := progress
    exact ⟨buf, same.trans found, buffered⟩

theorem Buffered.isComplete_iff (buffered : Buffered message opened seen buf) :
    buf.isComplete = true ↔ ∀ sequence ∈ message.sequences, sequence ∈ seen := by
  have distinct : message.sequences.Nodup := message.sequences_sorted.imp fun before => UInt16.ne_of_lt before
  have counted := buffered.gathers.complete_iff distinct
  simp only [buffered.holds] at counted
  rw [← counted, ReassemblyBuf.isComplete, buffered.total, message.total_toNat, message.sequences_length, beq_iff_eq]

theorem Buffered.reassemble (buffered : Buffered message opened seen buf)
    (complete : buf.isComplete = true) : buf.reassemble = message.payload := by
  have full : buf.fragments.keys.length = message.sequences.length := by
    rw [message.sequences_length, ← message.total_toNat, ← buffered.total]
    simpa [ReassemblyBuf.isComplete] using complete
  have whole := buffered.gathers.whole (· ≤ ·) (message.sequences_sorted.imp UInt16.le_of_lt) full
  rw [message.pieces_whole] at whole
  exact whole

theorem streamBuffer_progress (fragmentId sequence : UInt16) (progress : Progress message opened seen streams)
    (sameTarget : frame.target = message.target) (late : opened ≤ now)
    (room : seen = [] → streams.keys.length < limits.maxReassemblyStreams) :
    ∃ buf, limits.streamBuffer now streams frame ⟨fragmentId, sequence, message.total, message.streamId⟩ = some buf ∧
      Buffered message opened seen buf := by
  cases seen with
  | nil =>
    have free : streams.get message.streamId = none := progress
    have below := room rfl
    refine ⟨_, by rw [ConnectionLimits.streamBuffer, free]; exact if_neg (by omega), ?_⟩
    exact ⟨rfl, sameTarget, late, gathers_empty, rfl, by simp⟩
  | cons first rest =>
    obtain ⟨buf, found, buffered⟩ := progress
    refine ⟨buf, ?_, buffered⟩
    rw [ConnectionLimits.streamBuffer, found]
    exact if_neg (not_not.mpr buffered.total)

/-- While the bytes fit a machine word, the wrapping sums are the exact ones. -/
theorem wrappingSub_add (inside : removed ≤ base) (small : base + added < UInt64.size) :
    wrappingSub (wrappingAdd base added) removed = base + added - removed := by
  have wide : UInt64.size = 18446744073709551616 := rfl
  simp only [wrappingSub, wrappingAdd, wide] at small ⊢
  omega

theorem wrappingAdd_sub (inside : removed ≤ base) (small : base + added < UInt64.size) :
    wrappingAdd base (wrappingSub added removed) = base + added - removed := by
  have wide : UInt64.size = 18446744073709551616 := rfl
  simp only [wrappingSub, wrappingAdd, wide] at small ⊢
  omega

theorem replacedLen_le (counted : buf.bufferedBytes = buf.fragments.gathered.length)
    (sequence : UInt16) : buf.replacedLen sequence ≤ buf.bufferedBytes := by
  have removed := gathered_insert buf.fragments sequence []
  rw [ReassemblyBuf.replacedLen, counted]
  simp only [List.length_nil] at removed
  omega

theorem grownBytes_eq (counted : buf.bufferedBytes = buf.fragments.gathered.length)
    (small : buf.bufferedBytes + data.length < UInt64.size) :
    buf.grownBytes sequence data = (DashMap.gathered (buf.fragments.insert sequence data)).length := by
  have inserted := gathered_insert buf.fragments sequence data
  have inside := replacedLen_le counted sequence
  rw [ReassemblyBuf.grownBytes, wrappingSub_add inside small]
  simp only [ReassemblyBuf.replacedLen] at inside ⊢
  omega

theorem insert_bytes (counted : buf.bufferedBytes = buf.fragments.gathered.length)
    (small : buf.bufferedBytes + data.length < UInt64.size) :
    (buf.insert sequence data).bufferedBytes = (buf.insert sequence data).fragments.gathered.length := by
  have inside := replacedLen_le counted sequence
  refine Eq.trans ?_ (grownBytes_eq counted small)
  rw [ReassemblyBuf.grownBytes, wrappingSub_add inside small]
  exact wrappingAdd_sub inside small

theorem Buffered.small (buffered : Buffered message opened seen buf)
    (member : sequence ∈ message.sequences) : buf.bufferedBytes + (message.piece sequence).length < UInt64.size := by
  have inserted := gathered_insert buf.fragments sequence (message.piece sequence)
  have inside := replacedLen_le buffered.bytes sequence
  have before := buffered.gathers.length_le
  have after := (buffered.gathers.insert member).length_le
  have fits := message.fits
  have wide : 2 * maxPayloadSize < UInt64.size := by decide
  rw [message.pieces_whole, FragmentedMessage.payload] at before after
  simp only [ReassemblyBuf.replacedLen, buffered.bytes] at inside ⊢
  omega

theorem Buffered.insert (buffered : Buffered message opened seen buf)
    (member : sequence ∈ message.sequences) :
    Buffered message opened (sequence :: seen) (buf.insert sequence (message.piece sequence)) := by
  refine ⟨buffered.total, buffered.target, buffered.recent, buffered.gathers.insert member,
    insert_bytes buffered.bytes (buffered.small member), ?_⟩
  intro other
  simp only [ReassemblyBuf.insert, get_insert, List.mem_cons]
  split
  next same => simp [same]
  next different => simp [different, buffered.holds]

/-- Every fragment is stored; the one that makes the set complete is not kept but
answered with the message. -/
theorem readFrame_fragment
    (parses : ∀ header data, framing.parseFragHeader (encodeFragHeader header ++ data) = some header)
    (progress : Progress message opened seen (pruneStaleReassembly limits.fragmentTimeout now streams))
    (fragment : message.IsFragment framing sequence frame) (secured : key.bind (framing.macError · frame) = none)
    (late : opened ≤ now) (room : seen = [] →
      (pruneStaleReassembly limits.fragmentTimeout now streams).keys.length < limits.maxReassemblyStreams) :
    ∃ buf, Buffered message opened (sequence :: seen) buf ∧
      framing.readFrame wire limits now key streams frame = if buf.isComplete then
        .passed ((pruneStaleReassembly limits.fragmentTimeout now streams).erase message.streamId)
          (framing.assemble wire frame buf)
      else .kept ((pruneStaleReassembly limits.fragmentTimeout now streams).insert message.streamId buf) := by
  obtain ⟨member, sameTarget, sameFlags, fragmentId, encoded⟩ := fragment
  obtain ⟨buf, found, buffered⟩ := streamBuffer_progress fragmentId sequence progress sameTarget late room
  have inserted := buffered.insert member
  refine ⟨_, inserted, ?_⟩
  have numbered : ¬(message.total = 0 ∨ message.total ≤ sequence) := by
    have below := message.sequence_below member
    have positive := message.cut
    rw [UInt16.le_iff_toNat_le, ← UInt16.toNat_inj, message.total_toNat]
    simp only [UInt16.toNat_zero]
    omega
  have small : ¬maxPayloadSize < buf.grownBytes sequence (message.piece sequence) := by
    have bounded := inserted.gathers.length_le
    rw [message.pieces_whole] at bounded
    have fits := message.fits
    simp only [ReassemblyBuf.insert, FragmentedMessage.payload] at bounded
    rw [grownBytes_eq buffered.bytes (buffered.small member)]
    omega
  have data : (encodeFragHeader ⟨fragmentId, sequence, message.total, message.streamId⟩ ++ message.piece sequence).drop
      fragHeaderSize = message.piece sequence := List.drop_left' (encodeFragHeader_length _)
  simp only [readFrame, secured, sameFlags, message.marked, if_true, encoded, parses, storeFragment, if_neg numbered,
    found, data, if_neg small]

end Reading

section Loop
variable {opened : Nat} {streams : Reassembly} {message : FragmentedMessage} {init : List (Arrival β)}
  {last : Arrival β} {seen : List UInt16} {buf : ReassemblyBuf} {arrival : Arrival β} {next : Reassembly}

/-- What one arrival must be for the message to get through: a fragment of it that
carries a valid tag, if one is required, and finds room for a new stream; or any
frame of another stream that does not end the connection. -/
def Admissible (framing : Framing β) (wire : Wire β) (limits : ConnectionLimits) (message : FragmentedMessage)
    (streams : Reassembly) (arrival : Arrival β) : Prop :=
  match sequenceOn framing message.streamId arrival.frame with
  | some sequence => message.IsFragment framing sequence arrival.frame ∧
      arrival.key.bind (framing.macError · arrival.frame) = none ∧
      (streams.get message.streamId = none →
        (pruneStaleReassembly limits.fragmentTimeout arrival.now streams).keys.length < limits.maxReassemblyStreams)
  | none => (framing.readFrame wire limits arrival.now arrival.key streams arrival.frame).next ≠ none

def Undisturbed (framing : Framing β) (wire : Wire β) (limits : ConnectionLimits) (message : FragmentedMessage) :
    Reassembly → List (Arrival β) → Prop
  | _, [] => True
  | streams, arrival :: rest => Admissible framing wire limits message streams arrival ∧
      ∀ next, (framing.readFrame wire limits arrival.now arrival.key streams arrival.frame).next = some next →
        Undisturbed framing wire limits message next rest

def arrived (framing : Framing β) (message : FragmentedMessage) (arrivals : List (Arrival β)) : List UInt16 :=
  arrivals.filterMap fun arrival => sequenceOn framing message.streamId arrival.frame

structure Delivers (framing : Framing β) (wire : Wire β) (message : FragmentedMessage) (frame : Frame β) : Prop where
  payload : framing.toBytes frame.payload = message.payload
  target : frame.target = message.target
  flags : frame.flags = message.flags &&& ~~~flagFragmented
  length : frame.length = UInt32.ofNat message.payload.length
  crc32 : frame.crc32 = wire.crc32 frame.payload
  mac : frame.mac = none

theorem Buffered.delivers {frame}
    (buffered : Buffered message opened seen buf) (complete : buf.isComplete = true)
    (sameFlags : frame.flags = message.flags) :
    Delivers framing wire message (framing.assemble wire frame buf) where
  payload := (framing.toBytes_ofBytes _).trans (buffered.reassemble complete)
  target := buffered.target
  flags := by rw [assemble, sameFlags]
  length := by rw [assemble, buffered.reassemble complete]
  crc32 := rfl
  mac := rfl

theorem Progress.unseen (progress : Progress message opened seen streams)
    (empty : seen = []) : streams.get message.streamId = none := by
  subst empty
  exact progress

theorem Admissible.fragment {sequence}
    (parses : ∀ header data, framing.parseFragHeader (encodeFragHeader header ++ data) = some header)
    (progress : Progress message opened seen streams)
    (admissible : Admissible framing wire limits message streams arrival)
    (own : sequenceOn framing message.streamId arrival.frame = some sequence) (late : opened ≤ arrival.now)
    (fresh : arrival.now - opened < limits.fragmentTimeout) :
    ∃ buf, Buffered message opened (sequence :: seen) buf ∧ arrival.frame.flags = message.flags ∧
      framing.readFrame wire limits arrival.now arrival.key streams arrival.frame = if buf.isComplete then
        .passed ((pruneStaleReassembly limits.fragmentTimeout arrival.now streams).erase message.streamId)
          (framing.assemble wire arrival.frame buf)
      else .kept ((pruneStaleReassembly limits.fragmentTimeout arrival.now streams).insert message.streamId buf) := by
  simp only [Admissible, own] at admissible
  obtain ⟨fragment, secured, room⟩ := admissible
  obtain ⟨buf, buffered, read⟩ := readFrame_fragment parses (progress.prune fresh) fragment secured late
    fun empty => room (progress.unseen empty)
  exact ⟨buf, buffered, fragment.2.2.1, read⟩

/-- The loop passes the message on with the last arrival, and nothing of its stream
before that. -/
def Completes (framing : Framing β) (wire : Wire β) (limits : ConnectionLimits) (message : FragmentedMessage)
    (streams : Reassembly) (init : List (Arrival β)) (last : Arrival β) : Prop :=
  ∃ final messages frame, framing.run wire limits streams (init ++ [last]) = some (final, messages ++ [some frame]) ∧
    Delivers framing wire message frame ∧ messages.length = init.length ∧
    ∀ entry ∈ init.zip messages, (sequenceOn framing message.streamId entry.1.frame).isSome = true → entry.2 = none

theorem completes_last
    (read : framing.readFrame wire limits last.now last.key streams last.frame =
      .passed next (framing.assemble wire last.frame buf))
    (buffered : Buffered message opened seen buf) (complete : buf.isComplete = true)
    (sameFlags : last.frame.flags = message.flags) : Completes framing wire limits message streams [] last := by
  have ran : framing.run wire limits streams [last] = some (next, [some (framing.assemble wire last.frame buf)]) := by
    simp only [Framing.run, read, Reading.next, Reading.message, Option.map_some]
  exact ⟨next, [], _, ran, buffered.delivers complete sameFlags, rfl, by simp⟩

theorem Completes.cons
    (read : (framing.readFrame wire limits arrival.now arrival.key streams arrival.frame).next = some next)
    (completes : Completes framing wire limits message next init last)
    (silent : (sequenceOn framing message.streamId arrival.frame).isSome = true →
      (framing.readFrame wire limits arrival.now arrival.key streams arrival.frame).message = none) :
    Completes framing wire limits message streams (arrival :: init) last := by
  obtain ⟨final, messages, frame, ran, delivers, sameLength, before⟩ := completes
  refine ⟨final, (framing.readFrame wire limits arrival.now arrival.key streams arrival.frame).message :: messages,
    frame, ?_, delivers, by simp [sameLength], ?_⟩
  · simp only [List.cons_append, Framing.run, read, ran, Option.map_some]
  · intro entry member mine
    rcases List.mem_cons.mp member with rfl | member
    · exact silent mine
    · exact before entry member mine

/-- The loop from any point on: as long as a fragment is missing nothing is passed
on for the message, and with the last one the message is. -/
theorem run_delivers
    (parses : ∀ header data, framing.parseFragHeader (encodeFragHeader header ++ data) = some header)
    (progress : Progress message opened seen streams)
    (undisturbed : Undisturbed framing wire limits message streams (init ++ [last]))
    (clock : ∀ arrival ∈ init, arrival.now ≤ last.now)
    (window : ∀ arrival ∈ init ++ [last], (sequenceOn framing message.streamId arrival.frame).isSome = true →
      opened ≤ arrival.now)
    (intime : last.now - opened < limits.fragmentTimeout)
    (missing : ∃ sequence ∈ message.sequences, sequence ∉ seen ∧ sequence ∉ arrived framing message init)
    (covered : ∀ sequence ∈ message.sequences, sequence ∈ seen ∨ sequence ∈ arrived framing message (init ++ [last])) :
    Completes framing wire limits message streams init last := by
  -- on the arrivals before the last; what has been seen so far grows with each fragment
  induction init generalizing streams seen with
  | nil =>
    obtain ⟨absent, member, unseen, _⟩ := missing
    obtain ⟨admissible, _⟩ := undisturbed
    have needed : absent ∈ arrived framing message [last] := (covered absent member).resolve_left unseen
    cases own : sequenceOn framing message.streamId last.frame with
    | none => simp [arrived, own] at needed
    | some sequence =>
      have late := window last List.mem_cons_self (by rw [own]; rfl)
      obtain ⟨buf, buffered, sameFlags, read⟩ := admissible.fragment parses progress own late intime
      have complete : buf.isComplete = true := by
        apply buffered.isComplete_iff.mpr
        intro other inside
        simpa [arrived, own, or_comm] using covered other inside
      rw [if_pos complete] at read
      exact completes_last read buffered complete sameFlags
  | cons arrival rest ih =>
    obtain ⟨admissible, later⟩ := undisturbed
    have fresh : arrival.now - opened < limits.fragmentTimeout := by
      have before := clock arrival List.mem_cons_self
      omega
    have clockLater : ∀ other ∈ rest, other.now ≤ last.now := fun other inside =>
      clock other (List.mem_cons_of_mem _ inside)
    have windowLater : ∀ other ∈ rest ++ [last], (sequenceOn framing message.streamId other.frame).isSome = true →
        opened ≤ other.now := fun other inside => window other (List.mem_cons_of_mem _ inside)
    cases own : sequenceOn framing message.streamId arrival.frame with
    | none =>
      simp only [Admissible, own] at admissible
      obtain ⟨next, read⟩ := Option.ne_none_iff_exists'.mp admissible
      have kept := (progress.prune fresh).keep (readFrame_elsewhere own read)
      simp only [arrived, List.cons_append, List.filterMap_cons, own] at missing covered
      apply Completes.cons read
      · exact ih kept (later next read) clockLater windowLater missing covered
      · simp [own]
    | some sequence =>
      have late := window arrival List.mem_cons_self (by rw [own]; rfl)
      obtain ⟨buf, buffered, _, read⟩ := admissible.fragment parses progress own late fresh
      simp only [arrived, List.cons_append, List.filterMap_cons, own, List.mem_cons, not_or] at missing covered
      obtain ⟨absent, member, unseen, different, notLater⟩ := missing
      have incomplete : ¬buf.isComplete = true := by
        intro complete
        have seenNow := buffered.isComplete_iff.mp complete absent member
        simp [different, unseen] at seenNow
      rw [if_neg incomplete] at read
      have next : (framing.readFrame wire limits arrival.now arrival.key streams arrival.frame).next = some
          ((pruneStaleReassembly limits.fragmentTimeout arrival.now streams).insert message.streamId buf) := by
        rw [read]
        rfl
      have kept : Progress message opened (sequence :: seen)
          ((pruneStaleReassembly limits.fragmentTimeout arrival.now streams).insert message.streamId buf) :=
        ⟨buf, get_insert_self _ _ _, buffered⟩
      apply Completes.cons next
      · apply ih kept (later _ next) clockLater windowLater
        · exact ⟨absent, member, by simp [different, unseen], notLater⟩
        · intro other inside
          have seenOrLater := covered other inside
          simp only [List.mem_cons]
          tauto
      · intro _
        rw [read]
        rfl

/-- A payload of at most the maximal size that is cut into fragments is passed on
once, whole, with the fragment that completes it. The fragments may come in any
order and repeatedly, and between frames of other streams, less than the timeout
after the moment of the first. -/
theorem fragments_reassembled (framing : Framing β) (wire : Wire β) (limits : ConnectionLimits)
    (parses : ∀ header data, framing.parseFragHeader (encodeFragHeader header ++ data) = some header)
    (message : FragmentedMessage) (streams : Reassembly) (opened : Nat) (init : List (Arrival β)) (last : Arrival β)
    (free : streams.get message.streamId = none)
    (undisturbed : Undisturbed framing wire limits message streams (init ++ [last]))
    (clock : (init ++ [last]).Pairwise fun earlier later => earlier.now ≤ later.now)
    (window : ∀ arrival ∈ init ++ [last], (sequenceOn framing message.streamId arrival.frame).isSome = true →
      opened ≤ arrival.now ∧ arrival.now < opened + limits.fragmentTimeout)
    (missing : ∃ sequence ∈ message.sequences, sequence ∉ arrived framing message init)
    (covered : ∀ sequence ∈ message.sequences, sequence ∈ arrived framing message (init ++ [last])) :
    ∃ final messages frame, framing.run wire limits streams (init ++ [last]) = some (final, messages ++ [some frame]) ∧
      Delivers framing wire message frame ∧ messages.length = init.length ∧
      ∀ entry ∈ init.zip messages, (sequenceOn framing message.streamId entry.1.frame).isSome = true → entry.2 = none := by
  obtain ⟨absent, member, notBefore⟩ := missing
  have completes : (sequenceOn framing message.streamId last.frame).isSome = true := by
    have found := covered absent member
    rw [arrived, List.filterMap_append, List.mem_append] at found
    obtain ⟨arrival, listed, own⟩ := List.mem_filterMap.mp (found.resolve_left notBefore)
    rw [List.mem_singleton.mp listed] at own
    rw [own]
    rfl
  have intime := window last (by simp) completes
  have unopened : Progress message opened [] streams := free
  apply run_delivers parses unopened undisturbed
  · intro arrival inside
    exact (List.pairwise_append.mp clock).2.2 arrival inside last List.mem_cons_self
  · intro arrival inside own
    exact (window arrival inside own).1
  · omega
  · exact ⟨absent, member, List.not_mem_nil, notBefore⟩
  · intro sequence inside
    exact .inr (covered sequence inside)

end Loop

def wordOf (high low : UInt8) : UInt16 := UInt16.ofNat (high.toNat * 256 + low.toNat)

theorem wordOf_bigEndian16 (word : UInt16) : wordOf (word >>> 8).toUInt8 word.toUInt8 = word := by
  rw [← UInt16.toNat_inj, wordOf]
  have bounded := word.toNat_lt
  simp only [UInt16.toNat_ofNat', UInt16.toNat_toUInt8, UInt16.toNat_shiftRight, Nat.shiftRight_eq_div_pow]
  simp
  omega

def doubleWordOf (high low : UInt16) : UInt32 := UInt32.ofNat (high.toNat * 65536 + low.toNat)

theorem doubleWordOf_bigEndian32 (word : UInt32) : doubleWordOf (word >>> 16).toUInt16 word.toUInt16 = word := by
  rw [← UInt32.toNat_inj, doubleWordOf]
  have bounded := word.toNat_lt
  simp only [UInt32.toNat_ofNat', UInt32.toNat_toUInt16, UInt32.toNat_shiftRight, Nat.shiftRight_eq_div_pow]
  simp
  omega

def decodeFragHeader : Bytes → Option FragmentHeader
  | id1 :: id0 :: seq1 :: seq0 :: total1 :: total0 :: s3 :: s2 :: s1 :: s0 :: _ =>
    some ⟨wordOf id1 id0, wordOf seq1 seq0, wordOf total1 total0,
      doubleWordOf (wordOf s3 s2) (wordOf s1 s0)⟩
  | _ => none

theorem decodeFragHeader_encode (header : FragmentHeader) (data : Bytes) :
    decodeFragHeader (encodeFragHeader header ++ data) = some header := by
  obtain ⟨fragmentId, sequence, total, streamId⟩ := header
  simp only [encodeFragHeader, bigEndian32, bigEndian16, List.cons_append, List.nil_append, decodeFragHeader,
    wordOf_bigEndian16, doubleWordOf_bigEndian32]

def plainFraming : Framing Bytes where
  toBytes := id
  ofBytes := id
  parseFragHeader := decodeFragHeader
  serializeHeader _ := []
  computeTag _ _ _ := []
  verifyTag _ _ _ _ := true
  tooLarge _ := false
  toBytes_ofBytes _ := rfl

def plainWire : Wire Bytes where
  decode _ := none
  encode _ := none
  size := List.length
  crc32 bytes := bytes.foldl (fun sum byte => sum + byte.toUInt32) 0
  targetAsStr _ := none
  protocolVersion := ""
  deriveSessionKey _ _ _ := []
  decode_encode := by
    intro _ _ encoded
    cases encoded

def letter : FragmentedMessage where
  streamId := 99
  target := targetBytes "kernel"
  flags := flagFragmented
  pieces := [[1, 2], [3]]
  cut := by decide
  few := by decide
  fits := by decide
  marked := by decide

def letterFrame (sequence : UInt16) : Frame Bytes :=
  buildFrame plainWire "kernel" flagFragmented (encodeFragHeader ⟨7, sequence, 2, 99⟩ ++ letter.piece sequence)

def letterEnd : Arrival Bytes := { now := 5, frame := letterFrame 1 }

def letterStart : Arrival Bytes := { now := 9, frame := letterFrame 0 }

theorem letter_fragment : letter.IsFragment plainFraming 1 letterEnd.frame ∧
    letter.IsFragment plainFraming 0 letterStart.frame :=
  ⟨⟨by decide, rfl, rfl, 7, rfl⟩, ⟨by decide, rfl, rfl, 7, rfl⟩⟩

theorem fragments_reassembled_letter : ∃ final messages frame,
    plainFraming.run plainWire {} ∅ [letterEnd, letterStart] = some (final, messages ++ [some frame]) ∧
      Delivers plainFraming plainWire letter frame ∧ messages.length = 1 := by
  have undisturbed : Undisturbed plainFraming plainWire {} letter ∅ [letterEnd, letterStart] := by
    refine ⟨⟨letter_fragment.1, rfl, by decide⟩, ?_⟩
    intro next read
    cases read
    refine ⟨⟨letter_fragment.2, rfl, by decide⟩, ?_⟩
    intro _ _
    trivial
  have covered : letter.sequences.all (arrived plainFraming letter [letterEnd, letterStart]).contains = true := by decide
  obtain ⟨final, messages, frame, ran, delivers, sameLength, _⟩ :=
    fragments_reassembled plainFraming plainWire {} decodeFragHeader_encode letter ∅ 5 [letterEnd] letterStart rfl
      undisturbed (by decide) (by decide) ⟨0, by decide, by decide⟩
      fun sequence member => List.contains_iff_mem.mp (List.all_eq_true.mp covered sequence member)
  exact ⟨final, messages, frame, ran, delivers, sameLength⟩

end Vynkor.Proofs
