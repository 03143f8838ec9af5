import Vynkor.Data.Execution
import Vynkor.Proofs.Reassembly

/-! The read loop together with a record of where its bytes come from: for every
buffer the fragments that it holds, and for every reassembled message the
fragments that it was built from. -/

namespace Vynkor.Proofs
open DashMap Execution Framing
variable {β : Type} {framing : Framing β} {wire : Wire β} {limits : ConnectionLimits} {streams next : Reassembly}
  {arrival : Arrival β} {buf : ReassemblyBuf}

structure Part (β : Type) where
  header : FragmentHeader
  arrival : Arrival β

/-- The fragment that opened a buffer, and those it holds by now under their
sequence numbers. -/
structure Gathering (β : Type) where
  first : Part β
  parts : DashMap UInt16 (Part β) := ∅

structure Assembled (β : Type) where
  frame : Frame β
  gathering : Gathering β

structure Traced (β : Type) where
  streams : Reassembly := ∅
  gatherings : DashMap UInt32 (Gathering β) := ∅
  assembled : List (Assembled β) := []
  arrivals : List (Arrival β) := []

section Trace
variable (framing : Framing β) (wire : Wire β) (limits : ConnectionLimits) {part : Part β}

def Part.data (part : Part β) : Bytes := (framing.toBytes part.arrival.frame.payload).drop fragHeaderSize

def asPart (arrival : Arrival β) : Option (Part β) :=
  if arrival.frame.flags &&& flagFragmented != 0 then
    (framing.parseFragHeader (framing.toBytes arrival.frame.payload)).map fun header => ⟨header, arrival⟩
  else none

def Gathering.add (gathering : Gathering β) (part : Part β) : Gathering β :=
  { gathering with parts := gathering.parts.insert part.header.sequence part }

def Gathering.payload (gathering : Gathering β) : Bytes :=
  (gathering.parts.keys.mergeSort fun first second => decide (first ≤ second)).flatMap fun sequence =>
    ((gathering.parts.get sequence).map (Part.data framing)).getD []

/-- The fragments behind the buffer that a fragment finds; by itself it opens a new
one. -/
def Traced.gathering (state : Traced β) (part : Part β) : Gathering β :=
  match (pruneStaleReassembly limits.fragmentTimeout part.arrival.now state.streams).get part.header.streamId with
  | some _ => (state.gatherings.get part.header.streamId).getD { first := part }
  | none => { first := part }

def Traced.record (state : Traced β) (arrival : Arrival β) (streams : Reassembly) (message : Option (Frame β)) :
    Traced β :=
  let next := { state with streams, arrivals := state.arrivals ++ [arrival] }
  match asPart framing arrival, message with
  | none, _ => next
  | some part, none =>
    { next with gatherings := state.gatherings.insert part.header.streamId ((state.gathering limits part).add part) }
  | some part, some frame =>
    { next with assembled := state.assembled ++ [⟨frame, (state.gathering limits part).add part⟩] }

def Traced.step (state : Traced β) (arrival : Arrival β) : Option (Traced β) :=
  let reading := framing.readFrame wire limits arrival.now arrival.key state.streams arrival.frame
  reading.next.map fun streams => state.record framing limits arrival streams reading.message

end Trace

structure Stores (framing : Framing β) (limits : ConnectionLimits) (streams : Reassembly) (part : Part β)
    (buf : ReassemblyBuf) : Prop where
  inside : part.header.sequence < part.header.total
  found : limits.streamBuffer part.arrival.now streams part.arrival.frame part.header = some buf
  fits : buf.grownBytes part.header.sequence (part.data framing) ≤ maxPayloadSize

theorem asPart_unmarked (framing : Framing β) (unmarked : arrival.frame.flags &&& flagFragmented = 0) :
    asPart framing arrival = none := by
  simp [asPart, unmarked]

/-- What the read loop makes of a frame that does not end the connection. -/
inductive Absorbs (framing : Framing β) (wire : Wire β) (limits : ConnectionLimits) (streams : Reassembly)
    (arrival : Arrival β) : Reassembly → Option (Frame β) → Prop where
  | whole (unmarked : arrival.frame.flags &&& flagFragmented = 0) :
      Absorbs framing wire limits streams arrival streams (some arrival.frame)
  | kept {part buf} (fragment : asPart framing arrival = some part) (stores : Stores framing limits streams part buf)
      (missing : (buf.insert part.header.sequence (part.data framing)).isComplete = false) :
      Absorbs framing wire limits streams arrival
        (streams.insert part.header.streamId (buf.insert part.header.sequence (part.data framing))) none
  | completed {part buf} (fragment : asPart framing arrival = some part)
      (stores : Stores framing limits streams part buf)
      (complete : (buf.insert part.header.sequence (part.data framing)).isComplete = true) :
      Absorbs framing wire limits streams arrival (streams.erase part.header.streamId)
        (some (framing.assemble wire arrival.frame (buf.insert part.header.sequence (part.data framing))))

theorem storeFragment_absorbs {header} (fragment : asPart framing arrival = some ⟨header, arrival⟩)
    (read : (framing.storeFragment wire limits arrival.now streams arrival.frame header).next = some next) :
    Absorbs framing wire limits streams arrival next
      (framing.storeFragment wire limits arrival.now streams arrival.frame header).message := by
  generalize shape : framing.storeFragment wire limits arrival.now streams arrival.frame header = reading at read ⊢
  simp only [storeFragment] at shape
  split at shape
  · subst shape
    cases read
  next numbered =>
    split at shape
    · subst shape
      cases read
    next buf found =>
      split at shape
      · subst shape
        cases read
      next small =>
        have stores : Stores framing limits streams ⟨header, arrival⟩ buf :=
          ⟨UInt16.not_le.mp (not_or.mp numbered).2, found, Nat.le_of_not_lt small⟩
        split at shape
        next complete =>
          subst shape
          cases read
          exact .completed fragment stores complete
        next missing =>
          subst shape
          cases read
          exact .kept fragment stores (Bool.not_eq_true _ ▸ missing)

theorem readFrame_absorbs
    (read : (framing.readFrame wire limits arrival.now arrival.key streams arrival.frame).next = some next) :
    Absorbs framing wire limits (pruneStaleReassembly limits.fragmentTimeout arrival.now streams) arrival next
      (framing.readFrame wire limits arrival.now arrival.key streams arrival.frame).message := by
  generalize shape : framing.readFrame wire limits arrival.now arrival.key streams arrival.frame = reading at read ⊢
  simp only [readFrame] at shape
  split at shape
  · subst shape
    cases read
  · split at shape
    next marked =>
      split at shape
      · subst shape
        cases read
      next header parsed =>
        have fragment : asPart framing arrival = some ⟨header, arrival⟩ := by
          rw [asPart, if_pos marked, parsed]
          rfl
        subst shape
        exact storeFragment_absorbs fragment read
    next unmarked =>
      subst shape
      cases read
      exact .whole (by simpa using unmarked)

theorem asPart_arrival {part : Part β} (fragment : asPart framing arrival = some part) : part.arrival = arrival := by
  simp only [asPart] at fragment
  split at fragment
  · obtain ⟨header, _, rfl⟩ := Option.map_eq_some_iff.mp fragment
    rfl
  · cases fragment

section Bounds
variable {part : Part β} {message : Option (Frame β)}

theorem streamBuffer_cases
    (found : limits.streamBuffer part.arrival.now streams part.arrival.frame part.header = some buf) :
    streams.get part.header.streamId = some buf ∧ buf.total = part.header.total ∨
      streams.get part.header.streamId = none ∧ streams.keys.length < limits.maxReassemblyStreams ∧
        buf = { fragments := ∅, total := part.header.total, target := part.arrival.frame.target,
                firstSeen := part.arrival.now, bufferedBytes := 0 } := by
  simp only [ConnectionLimits.streamBuffer] at found
  split at found
  next stored present =>
    split at found
    · cases found
    next same =>
      cases found
      exact .inl ⟨present, not_not.mp same⟩
  next absent =>
    split at found
    · cases found
    next room =>
      cases found
      exact .inr ⟨absent, Nat.lt_of_not_le room, rfl⟩

theorem Stores.total (stores : Stores framing limits streams part buf) : buf.total = part.header.total := by
  rcases streamBuffer_cases stores.found with ⟨_, same⟩ | ⟨_, _, rfl⟩
  · exact same
  · rfl

structure WellKept (buf : ReassemblyBuf) : Prop where
  counted : buf.bufferedBytes = buf.fragments.gathered.length
  small : buf.bufferedBytes ≤ maxPayloadSize
  numbered : ∀ sequence ∈ buf.fragments.keys, sequence < buf.total

/-- What a connection keeps for reassembly is limited, whatever its peer sends. -/
structure Bounded (limits : ConnectionLimits) (streams : Reassembly) : Prop where
  few : streams.keys.length ≤ limits.maxReassemblyStreams
  kept : ∀ streamId buf, streams.get streamId = some buf →
    WellKept buf ∧ buf.fragments.keys.length < buf.total.toNat

/-- A vector of bytes has at most `isize::MAX` of them. -/
def addressable (framing : Framing β) (_ : Traced β) (arrival : Arrival β) : Bool :=
  decide ((framing.toBytes arrival.frame.payload).length ≤ 9223372036854775807)

theorem WellKept.room {data : Bytes} (wellKept : WellKept buf) (short : data.length ≤ 9223372036854775807) :
    buf.bufferedBytes + data.length < UInt64.size := by
  have small := wellKept.small
  have wide : maxPayloadSize + 9223372036854775807 < UInt64.size := by decide
  omega

theorem WellKept.insert {sequence data} (wellKept : WellKept buf) (inside : sequence < buf.total)
    (short : data.length ≤ 9223372036854775807) (fits : buf.grownBytes sequence data ≤ maxPayloadSize) :
    WellKept (buf.insert sequence data) := by
  have room := wellKept.room short
  have counted : (buf.insert sequence data).bufferedBytes = (buf.insert sequence data).fragments.gathered.length :=
    insert_bytes wellKept.counted room
  refine ⟨counted, ?_, ?_⟩
  · rw [grownBytes_eq wellKept.counted room] at fits
    rw [counted]
    exact fits
  · intro other member
    simp only [ReassemblyBuf.insert, AList.keys_insert, List.mem_cons] at member ⊢
    rcases member with rfl | member
    · exact inside
    · exact wellKept.numbered other (List.mem_of_mem_erase member)

theorem WellKept.keys_length_le (wellKept : WellKept buf) : buf.fragments.keys.length ≤ buf.total.toNat := by
  have distinct : (buf.fragments.keys.map UInt16.toNat).Nodup :=
    buf.fragments.keys_nodup.map fun _ _ same => UInt16.toNat_inj.mp same
  have below : buf.fragments.keys.map UInt16.toNat ⊆ List.range buf.total.toNat := by
    intro number member
    obtain ⟨sequence, stored, rfl⟩ := List.mem_map.mp member
    exact List.mem_range.mpr (UInt16.lt_iff_toNat_lt.mp (wellKept.numbered sequence stored))
  have shorter := (List.subperm_of_subset distinct below).length_le
  rw [List.length_map, List.length_range] at shorter
  exact shorter

theorem WellKept.reassemble_length (wellKept : WellKept buf) : buf.reassemble.length ≤ maxPayloadSize := by
  have permuted := (List.mergeSort_perm buf.fragments.keys fun first second => decide (first ≤ second)).flatMap_right
    fun sequence => (buf.fragments.get sequence).getD []
  have small := wellKept.small
  rw [wellKept.counted, DashMap.gathered, ← permuted.length_eq] at small
  exact small

theorem Bounded.prune (bounded : Bounded limits streams) (now : Nat) :
    Bounded limits (pruneStaleReassembly limits.fragmentTimeout now streams) := by
  refine ⟨Nat.le_trans (keys_length_retain_le _ _) bounded.few, ?_⟩
  intro streamId buf found
  rw [pruneStaleReassembly, get_retain, Option.filter_eq_some_iff] at found
  exact bounded.kept streamId buf found.1

theorem Bounded.found (bounded : Bounded limits streams)
    (found : limits.streamBuffer part.arrival.now streams part.arrival.frame part.header = some buf) : WellKept buf := by
  rcases streamBuffer_cases found with ⟨stored, _⟩ | ⟨_, _, rfl⟩
  · exact (bounded.kept _ _ stored).1
  · exact ⟨rfl, Nat.zero_le _, by simp⟩

theorem Bounded.stores (bounded : Bounded limits streams) (stores : Stores framing limits streams part buf)
    (short : (framing.toBytes part.arrival.frame.payload).length ≤ 9223372036854775807) :
    WellKept (buf.insert part.header.sequence (part.data framing)) := by
  apply (bounded.found stores.found).insert (stores.total ▸ stores.inside) _ stores.fits
  rw [Part.data, List.length_drop]
  omega

theorem Absorbs.bounded (absorbs : Absorbs framing wire limits streams arrival next message)
    (short : (framing.toBytes arrival.frame.payload).length ≤ 9223372036854775807) (bounded : Bounded limits streams) :
    Bounded limits next ∧ ∀ frame, message = some frame → (asPart framing arrival).isSome = true →
      (framing.toBytes frame.payload).length ≤ maxPayloadSize := by
  cases absorbs with
  | whole unmarked =>
    refine ⟨bounded, ?_⟩
    intro frame _ fragment
    rw [asPart_unmarked framing unmarked] at fragment
    cases fragment
  | @kept part buf fragment stores missing =>
    have wellKept := bounded.stores stores (asPart_arrival fragment ▸ short)
    refine ⟨⟨?_, ?_⟩, by intro _ absent; cases absent⟩
    · rcases streamBuffer_cases stores.found with ⟨found, _⟩ | ⟨_, room, _⟩
      · exact Nat.le_trans (Nat.le_of_eq (keys_length_insert_present found _)) bounded.few
      · exact Nat.le_trans (keys_length_insert_le _ _ _) room
    · intro streamId other found
      rw [get_insert] at found
      split at found
      · cases found
        have different : (buf.insert part.header.sequence (part.data framing)).fragments.keys.length ≠
            (buf.insert part.header.sequence (part.data framing)).total.toNat := by
          simpa [ReassemblyBuf.isComplete] using missing
        exact ⟨wellKept, Nat.lt_of_le_of_ne wellKept.keys_length_le different⟩
      · exact bounded.kept streamId other found
  | completed fragment stores complete =>
    have wellKept := bounded.stores stores (asPart_arrival fragment ▸ short)
    refine ⟨⟨Nat.le_trans (keys_length_erase_le _ _) bounded.few, ?_⟩, ?_⟩
    · intro streamId other found
      exact bounded.kept streamId other (get_erase_eq_some.mp found).2
    · intro frame same _
      cases same
      rw [assemble, framing.toBytes_ofBytes]
      exact wellKept.reassemble_length

end Bounds

section Origins
variable {state next : Traced β} {arrivals more : List (Arrival β)} {streamId : UInt32} {part first : Part β}
  {gathering : Gathering β} {streams : Reassembly} {sequence : UInt16}

/-- The part stands in the gathering under its own number; it came on the stream,
as the first one or within the timeout of the first one. -/
structure Belongs (framing : Framing β) (limits : ConnectionLimits) (arrivals : List (Arrival β)) (streamId : UInt32)
    (first : Part β) (sequence : UInt16) (part : Part β) : Prop where
  fragment : asPart framing part.arrival = some part
  arrived : part.arrival ∈ arrivals
  stream : part.header.streamId = streamId
  sequence : part.header.sequence = sequence
  intime : part = first ∨ part.arrival.now - first.arrival.now < limits.fragmentTimeout

def Gathering.Collected (framing : Framing β) (limits : ConnectionLimits) (arrivals : List (Arrival β))
    (streamId : UInt32) (gathering : Gathering β) : Prop :=
  ∀ sequence part, gathering.parts.get sequence = some part →
    Belongs framing limits arrivals streamId gathering.first sequence part

/-- The gathering describes what the buffer holds. -/
structure Mirrors (framing : Framing β) (limits : ConnectionLimits) (arrivals : List (Arrival β)) (streamId : UInt32)
    (gathering : Gathering β) (buf : ReassemblyBuf) : Prop where
  keys : gathering.parts.keys = buf.fragments.keys
  data : ∀ sequence, buf.fragments.get sequence = (gathering.parts.get sequence).map (Part.data framing)
  opened : buf.firstSeen = gathering.first.arrival.now
  target : buf.target = gathering.first.arrival.frame.target
  collected : gathering.Collected framing limits arrivals streamId

/-- The payload of a reassembled message is that of the fragments behind it. -/
structure BuiltFrom (framing : Framing β) (limits : ConnectionLimits) (arrivals : List (Arrival β))
    (message : Assembled β) : Prop where
  payload : framing.toBytes message.frame.payload = message.gathering.payload framing
  target : message.frame.target = message.gathering.first.arrival.frame.target
  collected : ∃ streamId, message.gathering.Collected framing limits arrivals streamId

theorem Belongs.later (belongs : Belongs framing limits arrivals streamId first sequence part) :
    Belongs framing limits (arrivals ++ more) streamId first sequence part :=
  { belongs with arrived := List.mem_append_left _ belongs.arrived }

theorem Belongs.listed
    (belongs : Belongs framing limits arrivals streamId first sequence part) : part ∈ arrivals.filterMap
    (asPart framing) :=
  List.mem_filterMap.mpr ⟨part.arrival, belongs.arrived, belongs.fragment⟩

theorem Mirrors.later (mirrors : Mirrors framing limits arrivals streamId gathering buf) :
    Mirrors framing limits (arrivals ++ more) streamId gathering buf :=
  { mirrors with collected := fun sequence part found => (mirrors.collected sequence part found).later }

theorem BuiltFrom.later {message} (built : BuiltFrom framing limits arrivals message) :
    BuiltFrom framing limits (arrivals ++ more) message := by
  obtain ⟨streamId, collected⟩ := built.collected
  exact { built with collected := ⟨streamId, fun sequence part found => (collected sequence part found).later⟩ }

theorem Mirrors.add (mirrors : Mirrors framing limits arrivals part.header.streamId gathering buf)
    (fragment : asPart framing part.arrival = some part)
    (intime : part = gathering.first ∨ part.arrival.now - gathering.first.arrival.now < limits.fragmentTimeout) :
    Mirrors framing limits (arrivals ++ [part.arrival]) part.header.streamId (gathering.add part)
      (buf.insert part.header.sequence (part.data framing)) := by
  refine ⟨?_, ?_, mirrors.opened, mirrors.target, ?_⟩
  · simp only [Gathering.add, ReassemblyBuf.insert, AList.keys_insert, mirrors.keys]
  · intro sequence
    simp only [Gathering.add, ReassemblyBuf.insert, get_insert]
    split
    · rfl
    · exact mirrors.data sequence
  · intro sequence other found
    simp only [Gathering.add, get_insert] at found
    split at found
    next same =>
      cases found
      exact ⟨fragment, by simp, rfl, same.symm, intime⟩
    · exact (mirrors.collected sequence other found).later

theorem Mirrors.built (mirrors : Mirrors framing limits arrivals streamId gathering buf) (frame : Frame β) :
    BuiltFrom framing limits arrivals ⟨framing.assemble wire frame buf, gathering⟩ := by
  refine ⟨?_, mirrors.target, streamId, mirrors.collected⟩
  simp only [assemble, framing.toBytes_ofBytes, ReassemblyBuf.reassemble, Gathering.payload, mirrors.keys, mirrors.data]

/-- The record is right about every buffer and every message. -/
structure Recorded (framing : Framing β) (limits : ConnectionLimits) (state : Traced β) : Prop where
  buffers : ∀ streamId buf, state.streams.get streamId = some buf → ∃ gathering,
    state.gatherings.get streamId = some gathering ∧ Mirrors framing limits state.arrivals streamId gathering buf
  messages : ∀ message ∈ state.assembled, BuiltFrom framing limits state.arrivals message

theorem Traced.record_streams {message : Option (Frame β)} :
    (state.record framing limits arrival streams message).streams = streams := by
  simp only [Traced.record]
  split <;> rfl

theorem Traced.record_arrivals {message : Option (Frame β)} :
    (state.record framing limits arrival streams message).arrivals = state.arrivals ++ [arrival] := by
  simp only [Traced.record]
  split <;> rfl

theorem Traced.record_assembled {passed message}
    (member : message ∈ (state.record framing limits arrival streams passed).assembled) :
    message ∈ state.assembled ∨ passed = some message.frame ∧ (asPart framing arrival).isSome = true := by
  simp only [Traced.record] at member
  split at member
  · exact .inl member
  · exact .inl member
  next part frame fragment =>
    rcases List.mem_append.mp member with earlier | last
    · exact .inl earlier
    · rw [List.mem_singleton.mp last]
      exact .inr ⟨rfl, by rw [fragment]; rfl⟩

theorem run_snoc {streams middle final messages}
    (ran : framing.run wire limits streams arrivals = some (middle, messages))
    (read : (framing.readFrame wire limits arrival.now arrival.key middle arrival.frame).next = some final) :
    framing.run wire limits streams (arrivals ++ [arrival]) = some (final,
      messages ++ [(framing.readFrame wire limits arrival.now arrival.key middle arrival.frame).message]) := by
  induction arrivals generalizing streams messages with
  | nil =>
    cases ran
    simp only [List.nil_append, Framing.run, read, Option.map_some]
  | cons first rest ih =>
    simp only [List.cons_append, Framing.run] at ran ⊢
    split at ran
    · cases ran
    next next passed =>
      obtain ⟨⟨last, later⟩, ranRest, same⟩ := Option.map_eq_some_iff.mp ran
      cases same
      simp only [ih ranRest, Option.map_some, List.cons_append]

theorem step_absorbs (step : state.step framing wire limits arrival = some next) : ∃ streams message,
    Absorbs framing wire limits (pruneStaleReassembly limits.fragmentTimeout arrival.now state.streams) arrival
      streams message ∧ next = state.record framing limits arrival streams message := by
  obtain ⟨streams, read, rfl⟩ := Option.map_eq_some_iff.mp step
  exact ⟨streams, _, readFrame_absorbs read, rfl⟩

theorem Recorded.describes (recorded : Recorded framing limits state)
    (stores : Stores framing limits
      (pruneStaleReassembly limits.fragmentTimeout part.arrival.now state.streams) part buf) :
    Mirrors framing limits state.arrivals part.header.streamId (state.gathering limits part) buf ∧
      (part = (state.gathering limits part).first ∨
        part.arrival.now - (state.gathering limits part).first.arrival.now < limits.fragmentTimeout) := by
  rcases streamBuffer_cases stores.found with ⟨found, _⟩ | ⟨absent, _, rfl⟩
  · have live := found
    rw [pruneStaleReassembly, get_retain, Option.filter_eq_some_iff] at live
    obtain ⟨gathering, known, mirrors⟩ := recorded.buffers _ _ live.1
    have same : state.gathering limits part = gathering := by simp only [Traced.gathering, found, known, Option.getD_some]
    rw [same]
    refine ⟨mirrors, .inr ?_⟩
    rw [← mirrors.opened]
    simpa using live.2
  · have fresh : state.gathering limits part = { first := part } := by simp only [Traced.gathering, absent]
    rw [fresh]
    exact ⟨⟨rfl, fun _ => rfl, rfl, rfl, by intro _ _ found; cases found⟩, .inl rfl⟩

theorem Recorded.step (recorded : Recorded framing limits state)
    (step : state.step framing wire limits arrival = some next) : Recorded framing limits next := by
  have pruned : ∀ streamId buf,
      (pruneStaleReassembly limits.fragmentTimeout arrival.now state.streams).get streamId = some buf → ∃ gathering,
        state.gatherings.get streamId = some gathering ∧
          Mirrors framing limits (state.arrivals ++ [arrival]) streamId gathering buf := by
    intro streamId buf found
    rw [pruneStaleReassembly, get_retain, Option.filter_eq_some_iff] at found
    obtain ⟨gathering, known, mirrors⟩ := recorded.buffers streamId buf found.1
    exact ⟨gathering, known, mirrors.later⟩
  obtain ⟨streams, message, absorbs, rfl⟩ := step_absorbs step
  cases absorbs with
  | whole unmarked =>
    simp only [Traced.record, asPart_unmarked framing unmarked]
    exact ⟨pruned, fun message member => (recorded.messages message member).later⟩
  | kept fragment stores missing =>
    obtain rfl := asPart_arrival fragment
    obtain ⟨mirrors, intime⟩ := recorded.describes stores
    simp only [Traced.record, fragment]
    refine ⟨?_, fun message member => (recorded.messages message member).later⟩
    intro streamId buf found
    rw [get_insert] at found
    simp only [get_insert]
    split at found
    next same =>
      cases found
      subst same
      exact ⟨_, if_pos rfl, mirrors.add fragment intime⟩
    next other =>
      simp only [if_neg other]
      exact pruned streamId buf found
  | completed fragment stores complete =>
    obtain rfl := asPart_arrival fragment
    obtain ⟨mirrors, intime⟩ := recorded.describes stores
    simp only [Traced.record, fragment]
    refine ⟨?_, ?_⟩
    · intro streamId buf found
      exact pruned streamId buf (get_erase_eq_some.mp found).2
    · intro message member
      rcases List.mem_append.mp member with earlier | last
      · exact (recorded.messages message earlier).later
      · rw [List.mem_singleton.mp last]
        exact (mirrors.add fragment intime).built _

theorem recorded_empty : Recorded framing limits {} := by
  refine ⟨?_, ?_⟩
  · intro streamId buf found
    cases found
  · intro message member
    cases member

/-- The record follows the read loop and keeps its messages. -/
theorem traced_run {guard} (run : Run (Traced.step framing wire limits) guard {} state) :
    ∃ messages, framing.run wire limits ∅ state.arrivals = some (state.streams, messages) ∧
      ∀ message ∈ state.assembled, some message.frame ∈ messages := by
  apply run.preserves
  · exact ⟨[], rfl, by simp⟩
  intro state arrival next _ step follows
  obtain ⟨messages, ran, listed⟩ := follows
  obtain ⟨streams, read, rfl⟩ := Option.map_eq_some_iff.mp step
  refine ⟨messages ++ [(framing.readFrame wire limits arrival.now arrival.key state.streams arrival.frame).message],
    ?_, ?_⟩
  · rw [Traced.record_streams, Traced.record_arrivals]
    exact run_snoc ran read
  · intro message member
    rcases Traced.record_assembled member with earlier | same
    · exact List.mem_append_left _ (listed message earlier)
    · rw [same.1]
      exact List.mem_append_right _ List.mem_cons_self

end Origins

section Results
variable (framing : Framing β) (wire : Wire β) (limits : ConnectionLimits)

/-- Whatever arrives on a connection, what it keeps for reassembly is limited in the
number of streams, in bytes and in fragments. A message that it reassembles is no
larger than a frame may be, and its fragments came within the timeout of the first
one, which itself is not subject to the timeout. -/
theorem reassembly_bounded (final : Traced β)
    (run : Run (Traced.step framing wire limits) (addressable framing) {} final) :
    Bounded limits final.streams ∧ ∀ message ∈ final.assembled,
      (framing.toBytes message.frame.payload).length ≤ maxPayloadSize ∧
        BuiltFrom framing limits final.arrivals message := by
  have invariant : Recorded framing limits final ∧ Bounded limits final.streams ∧
      ∀ message ∈ final.assembled, (framing.toBytes message.frame.payload).length ≤ maxPayloadSize := by
    apply run.preserves
    · exact ⟨recorded_empty, ⟨Nat.zero_le _, by intro _ _ found; cases found⟩, by simp⟩
    intro state arrival next allowed step holds
    obtain ⟨recorded, bounded, small⟩ := holds
    refine ⟨recorded.step step, ?_⟩
    obtain ⟨streams, message, absorbs, rfl⟩ := step_absorbs step
    obtain ⟨within, fits⟩ := absorbs.bounded (of_decide_eq_true allowed) (bounded.prune arrival.now)
    refine ⟨Traced.record_streams ▸ within, ?_⟩
    intro message member
    rcases Traced.record_assembled member with earlier | ⟨same, fragment⟩
    · exact small message earlier
    · exact fits message.frame same fragment
  exact ⟨invariant.2.1, fun message member => ⟨invariant.2.2 message member, invariant.1.messages message member⟩⟩

def Agree (first second : Part β) : Prop :=
  first.header.fragmentId = second.header.fragmentId ∧ first.arrival.frame.target = second.arrival.frame.target ∧
    first.arrival.frame.flags = second.arrival.frame.flags

instance (first second : Part β) : Decidable (Agree first second) := inferInstanceAs (Decidable (_ ∧ _ ∧ _))

/-- A fragment that finds a buffer agrees with the fragment that opened it. -/
def joinsOwn (state : Traced β) (arrival : Arrival β) : Bool :=
  (asPart framing arrival).all fun part => decide (Agree (state.gathering limits part).first part)

def Gathering.Uniform (gathering : Gathering β) : Prop :=
  ∀ sequence part, gathering.parts.get sequence = some part → Agree gathering.first part

/-- The sender numbers the messages of a stream: fragments have the same number
exactly when they are of one message. -/
def NumberedBySender {μ : Type} (message : Frame β → μ) (arrivals : List (Arrival β)) : Prop :=
  ∀ first ∈ arrivals.filterMap (asPart framing), ∀ second ∈ arrivals.filterMap (asPart framing),
    first.header.streamId = second.header.streamId →
      (message first.arrival.frame = message second.arrival.frame ↔ first.header.fragmentId = second.header.fragmentId)

variable {framing limits} in
theorem Gathering.Uniform.add {part : Part β} {state : Traced β}
    (known : ∀ streamId gathering, state.gatherings.get streamId = some gathering → gathering.Uniform)
    (agree : Agree (state.gathering limits part).first part) : ((state.gathering limits part).add part).Uniform := by
  have before : (state.gathering limits part).Uniform := by
    simp only [Traced.gathering]
    split
    · cases found : state.gatherings.get part.header.streamId with
      | none =>
        intro _ _ absent
        cases absent
      | some gathering => exact known _ _ found
    · intro _ _ absent
      cases absent
  intro sequence other found
  simp only [Gathering.add, get_insert] at found ⊢
  split at found
  · cases found
    exact agree
  · exact before sequence other found

/-- As long as no fragment finds a buffer that was opened for another message, no
message is put together from fragments of two. -/
theorem reassembled_from_one_message {μ : Type} (message : Frame β → μ) (final : Traced β)
    (run : Run (Traced.step framing wire limits) (joinsOwn framing limits) {} final)
    (numbered : NumberedBySender framing message final.arrivals) :
    ∀ dispatched ∈ final.assembled, BuiltFrom framing limits final.arrivals dispatched ∧
      ∀ sequence other first second, dispatched.gathering.parts.get sequence = some first →
        dispatched.gathering.parts.get other = some second →
          Agree first second ∧ message first.arrival.frame = message second.arrival.frame := by
  have invariant : Recorded framing limits final ∧
      (∀ streamId gathering, final.gatherings.get streamId = some gathering → gathering.Uniform) ∧
      ∀ dispatched ∈ final.assembled, dispatched.gathering.Uniform := by
    apply run.preserves
    · exact ⟨recorded_empty, (by intro _ _ found; cases found), by simp⟩
    intro state arrival next allowed step holds
    obtain ⟨recorded, known, uniform⟩ := holds
    refine ⟨recorded.step step, ?_⟩
    obtain ⟨streams, passed, absorbs, rfl⟩ := step_absorbs step
    cases absorbs with
    | whole unmarked =>
      simp only [Traced.record, asPart_unmarked framing unmarked]
      exact ⟨known, uniform⟩
    | kept fragment =>
      simp only [joinsOwn, fragment, Option.all_some, decide_eq_true_eq] at allowed
      simp only [Traced.record, fragment]
      refine ⟨?_, uniform⟩
      intro streamId gathering found
      rw [get_insert] at found
      split at found
      · cases found
        exact .add known allowed
      · exact known streamId gathering found
    | completed fragment =>
      simp only [joinsOwn, fragment, Option.all_some, decide_eq_true_eq] at allowed
      simp only [Traced.record, fragment]
      refine ⟨known, ?_⟩
      intro dispatched member
      rcases List.mem_append.mp member with earlier | last
      · exact uniform dispatched earlier
      · rw [List.mem_singleton.mp last]
        exact .add known allowed
  obtain ⟨recorded, _, uniform⟩ := invariant
  intro dispatched member
  have built := recorded.messages dispatched member
  refine ⟨built, ?_⟩
  intro sequence other first second firstFound secondFound
  have firstAgrees := uniform dispatched member sequence first firstFound
  have secondAgrees := uniform dispatched member other second secondFound
  have agree : Agree first second := ⟨firstAgrees.1.symm.trans secondAgrees.1,
    firstAgrees.2.1.symm.trans secondAgrees.2.1, firstAgrees.2.2.symm.trans secondAgrees.2.2⟩
  obtain ⟨streamId, collected⟩ := built.collected
  have firstBelongs := collected sequence first firstFound
  have secondBelongs := collected other second secondFound
  have sameStream := firstBelongs.stream.trans secondBelongs.stream.symm
  exact ⟨agree, (numbered first firstBelongs.listed second secondBelongs.listed sameStream).mpr agree.1⟩

end Results

def halfFrame (fragmentId sequence : UInt16) (data : Bytes) : Arrival Bytes where
  now := 5
  frame := buildFrame plainWire "kernel" flagFragmented (encodeFragHeader ⟨fragmentId, sequence, 2, 99⟩ ++ data)

/-- The sender has the messages 1, 2 and 3, 4 and numbers them so. -/
def messageSent (frame : Frame Bytes) : Option Bytes :=
  (decodeFragHeader frame.payload).map fun header => if header.fragmentId = 1 then [1, 2] else [3, 4]

def sentWhole : List (Arrival Bytes) := [halfFrame 1 0 [1], halfFrame 1 1 [2], halfFrame 2 1 [4], halfFrame 2 0 [3]]

def sentWholeEnd : Traced Bytes :=
  (exec (Traced.step plainFraming plainWire {}) (joinsOwn plainFraming {}) {} sentWhole).get (by decide +kernel)

theorem reassembled_from_one_message_whole : sentWholeEnd.assembled.length = 2 ∧
    ∀ dispatched ∈ sentWholeEnd.assembled, BuiltFrom plainFraming {} sentWholeEnd.arrivals dispatched ∧
      ∀ sequence other first second, dispatched.gathering.parts.get sequence = some first →
        dispatched.gathering.parts.get other = some second →
          Agree first second ∧ messageSent first.arrival.frame = messageSent second.arrival.frame :=
  ⟨by decide +kernel, reassembled_from_one_message plainFraming plainWire {} messageSent sentWholeEnd
    (exec_get_run (by decide +kernel)) (by unfold NumberedBySender; decide +kernel)⟩

/-- The second half of the first message is lost, and so is the first half of the
second one, which reuses the stream. -/
def sentHalves : List (Arrival Bytes) := [halfFrame 1 0 [1], halfFrame 2 1 [4]]

def sentHalvesEnd : Traced Bytes :=
  (exec (Traced.step plainFraming plainWire {}) unguarded {} sentHalves).get (by decide +kernel)

def halvesMixed : Assembled Bytes := sentHalvesEnd.assembled.head (by decide +kernel)

theorem halvesMixed_payload : halvesMixed.frame.payload = [1, 4] := by
  have recorded : Recorded plainFraming {} sentHalvesEnd := by
    have run : Run (Traced.step plainFraming plainWire {}) unguarded {} sentHalvesEnd := exec_get_run (by decide +kernel)
    apply run.preserves recorded_empty
    intro state arrival next _ step recorded
    exact recorded.step step
  have payload := (recorded.messages halvesMixed (List.head_mem _)).payload
  have keys : halvesMixed.gathering.parts.keys = [1, 0] := by decide +kernel
  have sorted : ([1, 0] : List UInt16).mergeSort (fun first second => decide (first ≤ second)) = [0, 1] := by
    simp [List.mergeSort]
  have pieces : ([0, 1] : List UInt16).flatMap (fun sequence =>
      ((halvesMixed.gathering.parts.get sequence).map (Part.data plainFraming)).getD []) = [1, 4] := by decide +kernel
  rw [Gathering.payload, keys, sorted] at payload
  exact payload.trans pieces

/-- What is left of the two messages is passed on as one. -/
theorem halves_of_two_messages : Run (Traced.step plainFraming plainWire {}) unguarded {} sentHalvesEnd ∧
    NumberedBySender plainFraming messageSent sentHalvesEnd.arrivals ∧
    ∃ dispatched ∈ sentHalvesEnd.assembled, dispatched.frame.payload = [1, 4] ∧
      ∃ first second, dispatched.gathering.parts.get 0 = some first ∧ dispatched.gathering.parts.get 1 = some second ∧
        ¬Agree first second ∧ messageSent first.arrival.frame ≠ messageSent second.arrival.frame := by
  refine ⟨exec_get_run (by decide +kernel), by unfold NumberedBySender; decide +kernel,
    halvesMixed, List.head_mem _, halvesMixed_payload, (halvesMixed.gathering.parts.get 0).get (by decide +kernel),
    (halvesMixed.gathering.parts.get 1).get (by decide +kernel), (Option.some_get _).symm, (Option.some_get _).symm,
    by decide +kernel, by decide +kernel⟩

def sentAgain : List (Arrival Bytes) := [halfFrame 1 0 [1, 1, 1], halfFrame 1 0 [1], halfFrame 2 0 [3], halfFrame 1 1 [2]]

def sentAgainEnd : Traced Bytes :=
  (exec (Traced.step plainFraming plainWire {}) (addressable plainFraming) {} sentAgain).get (by decide +kernel)

theorem reassembly_bounded_again : sentAgainEnd.assembled.length = 1 ∧ Bounded {} sentAgainEnd.streams ∧
    ∀ message ∈ sentAgainEnd.assembled, message.frame.payload.length ≤ maxPayloadSize ∧
      BuiltFrom plainFraming {} sentAgainEnd.arrivals message :=
  ⟨by decide +kernel, reassembly_bounded plainFraming plainWire {} sentAgainEnd (exec_get_run (by decide +kernel))⟩

def impatient : ConnectionLimits where
  fragmentTimeout := 0

def soleFrame : Arrival Bytes where
  now := 5
  frame := buildFrame plainWire "kernel" flagFragmented (encodeFragHeader ⟨1, 0, 1, 99⟩ ++ [1, 2])

def soleEnd : Traced Bytes :=
  (exec (Traced.step plainFraming plainWire impatient) (addressable plainFraming) {} [soleFrame]).get
    (by decide +kernel)

/-- Such a message is passed on even where the timeout is zero. -/
theorem sole_fragment_passes : Run (Traced.step plainFraming plainWire impatient) (addressable plainFraming) {} soleEnd ∧
    ∃ message ∈ soleEnd.assembled, ∃ part, message.gathering.parts.get 0 = some part ∧
      ¬part.arrival.now - message.gathering.first.arrival.now < impatient.fragmentTimeout :=
  ⟨exec_get_run (by decide +kernel), soleEnd.assembled.head (by decide +kernel), List.head_mem _,
    ((soleEnd.assembled.head (by decide +kernel)).gathering.parts.get 0).get (by decide +kernel),
    (Option.some_get _).symm, by decide +kernel⟩

end Vynkor.Proofs
