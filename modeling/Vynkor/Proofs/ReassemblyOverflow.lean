import Vynkor.Proofs.ReassemblyTrace

/-! The read loop in a build with overflow checks. It panics when a fragment is sent
again with fewer bytes than before, and at no other frame. -/

namespace Vynkor.Proofs
open Framing

section Checked
variable {β : Type} {framing : Framing β} {wire : Wire β} {limits : ConnectionLimits} {streams : Reassembly}
  {arrival : Arrival β} {part : Part β} {buf : ReassemblyBuf} {sequence : UInt16} {data : Bytes}

def shorter (framing : Framing β) (part : Part β) (buf : ReassemblyBuf) : Bool :=
  decide ((part.data framing).length < buf.replacedLen part.header.sequence)

/-- The handler accepts the frame as a fragment of a stream whose buffer holds more
bytes under its sequence number. -/
def shrinks (framing : Framing β) (limits : ConnectionLimits) (streams : Reassembly) (arrival : Arrival β) : Bool :=
  (arrival.key.bind fun key => framing.macError key arrival.frame).isNone && (asPart framing arrival).any fun part =>
    ((pruneStaleReassembly limits.fragmentTimeout arrival.now streams).get part.header.streamId).any fun buf =>
      decide (buf.total = part.header.total) && shorter framing part buf

def NeverShrinks (framing : Framing β) (wire : Wire β) (limits : ConnectionLimits) :
    Reassembly → List (Arrival β) → Prop
  | _, [] => True
  | streams, arrival :: rest => shrinks framing limits streams arrival = false ∧
      ∀ next, (framing.readFrame wire limits arrival.now arrival.key streams arrival.frame).next = some next →
        NeverShrinks framing wire limits next rest

theorem grownBytesChecked_eq (wellKept : WellKept buf) (short : data.length ≤ 9223372036854775807) :
    buf.grownBytesChecked sequence data = some (buf.grownBytes sequence data) := by
  have room := wellKept.room short
  have inside := replacedLen_le wellKept.counted sequence
  have covered : buf.replacedLen sequence ≤ buf.bufferedBytes + data.length := by omega
  rw [ReassemblyBuf.grownBytes, wrappingSub_add inside room]
  simp only [ReassemblyBuf.grownBytesChecked, checkedAdd, if_pos room, Option.bind_eq_bind, Option.bind_some, checkedSub,
    if_pos covered]

theorem insertChecked_eq (wellKept : WellKept buf) (short : data.length ≤ 9223372036854775807)
    (longer : buf.replacedLen sequence ≤ data.length) :
    buf.insertChecked sequence data = some (buf.insert sequence data) := by
  have room := wellKept.room short
  have inside := replacedLen_le wellKept.counted sequence
  have below : buf.bufferedBytes + data.length - buf.replacedLen sequence < UInt64.size := by omega
  have same : buf.bufferedBytes + (data.length - buf.replacedLen sequence) =
      buf.bufferedBytes + data.length - buf.replacedLen sequence := by omega
  rw [ReassemblyBuf.insert, wrappingAdd_sub inside room]
  simp only [ReassemblyBuf.insertChecked, checkedSub, if_pos longer, Option.bind_eq_bind, Option.bind_some, checkedAdd,
    same, if_pos below]
  rfl

theorem insertChecked_shorter (fewer : data.length < buf.replacedLen sequence) :
    buf.insertChecked sequence data = none := by
  have uncovered : ¬buf.replacedLen sequence ≤ data.length := by omega
  simp only [ReassemblyBuf.insertChecked, checkedSub, if_neg uncovered]
  rfl

theorem grownBytes_shorter (wellKept : WellKept buf) (short : data.length ≤ 9223372036854775807)
    (fewer : data.length < buf.replacedLen sequence) : buf.grownBytes sequence data ≤ maxPayloadSize := by
  have inside := replacedLen_le wellKept.counted sequence
  have small := wellKept.small
  rw [ReassemblyBuf.grownBytes, wrappingSub_add inside (wellKept.room short)]
  omega

theorem storeFragmentChecked_buffered (short : (framing.toBytes part.arrival.frame.payload).length ≤ 9223372036854775807)
    (numbered : ¬(part.header.total = 0 ∨ part.header.total ≤ part.header.sequence)) (wellKept : WellKept buf)
    (found : limits.streamBuffer part.arrival.now streams part.arrival.frame part.header = some buf) :
    framing.storeFragmentChecked wire limits part.arrival.now streams part.arrival.frame part.header =
      if shorter framing part buf then none
      else some (framing.storeFragment wire limits part.arrival.now streams part.arrival.frame part.header) := by
  have dataShort : (part.data framing).length ≤ 9223372036854775807 := by
    rw [Part.data, List.length_drop]
    omega
  have grown : buf.grownBytesChecked part.header.sequence (part.data framing) =
      some (buf.grownBytes part.header.sequence (part.data framing)) := grownBytesChecked_eq wellKept dataShort
  simp only [storeFragmentChecked, storeFragment, if_neg numbered, found, Option.bind_eq_bind]
  rw [← Part.data, grown, Option.bind_some]
  cases compared : shorter framing part buf with
  | true =>
    have fewer := of_decide_eq_true compared
    have small := grownBytes_shorter wellKept dataShort fewer
    rw [if_neg (Nat.not_lt.mpr small), insertChecked_shorter fewer]
    rfl
  | false =>
    have enough := Nat.le_of_not_lt (of_decide_eq_false compared)
    rw [insertChecked_eq wellKept dataShort enough]
    simp only [Option.bind_some, Bool.false_eq_true, if_false]
    split
    · rfl
    · split <;> rfl

theorem shorter_stored (compared : shorter framing part buf = true) :
    part.header.sequence ∈ buf.fragments.keys := by
  rw [DashMap.mem_keys]
  by_contra absent
  rw [Bool.not_eq_true, Option.isSome_eq_false_iff, Option.isNone_iff_eq_none] at absent
  simp [shorter, ReassemblyBuf.replacedLen, absent] at compared

theorem Bounded.shorter_found (bounded : Bounded limits streams) (found : streams.get part.header.streamId = some buf)
    (sameTotal : buf.total = part.header.total) (compared : shorter framing part buf = true) :
    ¬(part.header.total = 0 ∨ part.header.total ≤ part.header.sequence) := by
  have inside := (bounded.kept _ _ found).1.numbered _ (shorter_stored compared)
  rw [sameTotal, UInt16.lt_iff_toNat_lt] at inside
  rw [UInt16.le_iff_toNat_le, ← UInt16.toNat_inj, UInt16.toNat_zero]
  omega

/-- The build with overflow checks panics at the frames that shrink a buffer, and
reads all others as the other build does. -/
theorem storeFragmentChecked_eq (part : Part β) (bounded : Bounded limits streams)
    (short : (framing.toBytes part.arrival.frame.payload).length ≤ 9223372036854775807) :
    framing.storeFragmentChecked wire limits part.arrival.now streams part.arrival.frame part.header =
      if (streams.get part.header.streamId).any fun buf =>
        decide (buf.total = part.header.total) && shorter framing part buf then none
      else some (framing.storeFragment wire limits part.arrival.now streams part.arrival.frame part.header) := by
  by_cases invalid : part.header.total = 0 ∨ part.header.total ≤ part.header.sequence
  · rw [if_neg]
    · simp only [storeFragmentChecked, storeFragment, if_pos invalid]
    · intro shrunk
      obtain ⟨buf, found, compared⟩ := (Option.any_eq_true _ _).mp shrunk
      rw [Bool.and_eq_true, decide_eq_true_eq] at compared
      exact bounded.shorter_found found compared.1 compared.2 invalid
  · cases found : limits.streamBuffer part.arrival.now streams part.arrival.frame part.header with
    | none =>
      rw [if_neg]
      · simp only [storeFragmentChecked, storeFragment, if_neg invalid, found]
      · intro shrunk
        obtain ⟨buf, stored, compared⟩ := (Option.any_eq_true _ _).mp shrunk
        simp [ConnectionLimits.streamBuffer, stored] at found compared
        exact found compared.1
    | some buf =>
      rw [storeFragmentChecked_buffered short invalid (bounded.found found) found]
      rcases streamBuffer_cases found with ⟨stored, sameTotal⟩ | ⟨absent, _, rfl⟩
      · simp [stored, sameTotal]
      · simp [absent, shorter, ReassemblyBuf.replacedLen]

theorem readFrameChecked_eq (bounded : Bounded limits streams)
    (short : (framing.toBytes arrival.frame.payload).length ≤ 9223372036854775807) :
    framing.readFrameChecked wire limits arrival.now arrival.key streams arrival.frame =
      if shrinks framing limits streams arrival then none
      else some (framing.readFrame wire limits arrival.now arrival.key streams arrival.frame) := by
  simp only [readFrameChecked, readFrame, shrinks, asPart]
  split
  next code refused => simp [refused]
  next accepted =>
    simp only [accepted, Option.isNone_none, Bool.true_and]
    split
    · cases parsed : framing.parseFragHeader (framing.toBytes arrival.frame.payload) with
      | none => simp
      | some header => exact storeFragmentChecked_eq ⟨header, arrival⟩ (bounded.prune arrival.now) short
    · simp

theorem Bounded.read {next : Reassembly} (bounded : Bounded limits streams)
    (short : (framing.toBytes arrival.frame.payload).length ≤ 9223372036854775807)
    (read : (framing.readFrame wire limits arrival.now arrival.key streams arrival.frame).next = some next) :
    Bounded limits next :=
  ((readFrame_absorbs read).bounded short (bounded.prune arrival.now)).1

theorem runChecked_reported_iff (bounded : Bounded limits streams) (arrivals : List (Arrival β))
    (short : ∀ arrival ∈ arrivals, (framing.toBytes arrival.frame.payload).length ≤ 9223372036854775807) :
    framing.runChecked wire limits streams arrivals = .reported ↔ NeverShrinks framing wire limits streams arrivals := by
  induction arrivals generalizing streams with
  | nil => simp [runChecked, NeverShrinks]
  | cons arrival rest ih =>
    have shortFirst := short arrival List.mem_cons_self
    have shortRest : ∀ other ∈ rest, (framing.toBytes other.frame.payload).length ≤ 9223372036854775807 :=
      fun other member => short other (List.mem_cons_of_mem _ member)
    simp only [runChecked, NeverShrinks, readFrameChecked_eq bounded shortFirst]
    cases shrinks framing limits streams arrival with
    | true => simp
    | false =>
      simp only [Bool.false_eq_true, if_false, true_and]
      cases read : (framing.readFrame wire limits arrival.now arrival.key streams arrival.frame).next with
      | none => simp
      | some next =>
        simp only [Option.some.injEq, forall_eq']
        exact ih (bounded.read shortFirst read) shortRest

end Checked

/-- In a build with overflow checks the handler of a connection gets to report the
disconnect exactly when no fragment is sent again with fewer bytes than are
buffered for it. -/
theorem disconnect_reported_iff {β : Type} (framing : Framing β) (wire : Wire β) (limits : ConnectionLimits)
    (arrivals : List (Arrival β))
    (short : ∀ arrival ∈ arrivals, (framing.toBytes arrival.frame.payload).length ≤ 9223372036854775807) :
    framing.runChecked wire limits ∅ arrivals = .reported ↔ NeverShrinks framing wire limits ∅ arrivals := by
  have empty : Bounded limits ∅ := ⟨Nat.zero_le _, by intro _ _ found; cases found⟩
  exact runChecked_reported_iff empty arrivals short

def sentShorter : List (Arrival Bytes) := [halfFrame 1 0 [1, 1, 1], halfFrame 1 0 [1]]

def sentLonger : List (Arrival Bytes) := [halfFrame 1 0 [1], halfFrame 1 0 [1, 1, 1], halfFrame 1 1 [2]]

theorem disconnect_reported_longer : plainFraming.runChecked plainWire {} ∅ sentLonger = .reported ∧
    NeverShrinks plainFraming plainWire {} ∅ sentLonger := by
  have reported : plainFraming.runChecked plainWire {} ∅ sentLonger = .reported := by decide +kernel
  exact ⟨reported, (disconnect_reported_iff plainFraming plainWire {} sentLonger (by decide +kernel)).mp reported⟩

/-- The handler panics, and nobody learns that the connection is gone. -/
theorem shorter_fragment_panics : plainFraming.runChecked plainWire {} ∅ sentShorter = .panicked := by
  decide +kernel

end Vynkor.Proofs
