import Vynkor.Data.TextField
import Vynkor.Proofs.RegistryOps
import Vynkor.Scenario

/-! Names in the target field of a frame. An accepted id always comes back out of the
field; the qualified name of a capability, whose length nobody checks, comes back if
it fits. -/

namespace Vynkor.Proofs
open RouterState

section Names
variable {β : Type} {ctx : Context β} {name id : String}

/-- The wire crate reads a target without its trailing NULs, when that is UTF-8. -/
def ReadsTargets (wire : Wire β) : Prop :=
  ∀ field text, TextField.read field = some text → wire.targetAsStr field = some text

/-- The name comes back out of a frame, and the router forwards the frame under it. -/
structure Addressable (ctx : Context β) (name : String) : Prop where
  back : ctx.wire.targetAsStr (targetBytes name) = some name
  forwarded : ∀ now (msg : IncomingMessage β) (st : RouterState β), msg.frame.target = targetBytes name →
    st.isThrottled ctx msg = false → st.routeTarget ctx now msg =
      ((st.forward ctx now msg name).1.recordOutcome ctx now msg (st.forward ctx now msg name).2,
        .handled (st.forward ctx now msg name).2)

theorem addressable_of_fits (reads : ReadsTargets ctx.wire) (fits : TextField.Fits 32 name)
    (unreserved : name ≠ "kernel" ∧ name ≠ "*") : Addressable ctx name := by
  have back : ctx.wire.targetAsStr (targetBytes name) = some name := reads _ _ (TextField.read_pack_iff.mpr fits)
  constructor
  · exact back
  · intro now msg st aimed calm
    simp only [routeTarget, aimed, back, calm, handleTarget, if_neg unreserved.1, if_neg unreserved.2]
    rfl

theorem ValidId.fits (valid : ValidId id) : TextField.Fits 32 id := by
  refine ⟨valid.short, ?_⟩
  intro last
  have plain := valid.plain _ (List.mem_of_getLast? last)
  revert plain
  decide

theorem ValidId.addressable (valid : ValidId id) (reads : ReadsTargets ctx.wire) : Addressable ctx id :=
  addressable_of_fits reads valid.fits valid.unreserved

theorem qualified_unreserved (device cap : String) :
    device ++ "." ++ cap ≠ "kernel" ∧ device ++ "." ++ cap ≠ "*" := by
  have dotted : '.' ∈ (device ++ "." ++ cap).toList := by simp
  constructor
  · intro same
    rw [same] at dotted
    revert dotted
    decide
  · intro same
    rw [same] at dotted
    revert dotted
    decide

end Names

/-- The id of every registration that is accepted comes back out of a frame's target,
and so does each qualified capability name of a device that fits the field. A name
that does not fit is no longer in the field. -/
theorem declared_names_addressable {β : Type} (ctx : Context β) (reads : ReadsTargets ctx.wire)
    (registry : PluginRegistry) (now : Moment) (connId : Nat) (manifest : PluginManifest) (writeTx : Sender)
    (owned : writeTx.conn = connId) (details : DeviceMeta) :
    (∀ pluginId later, registry.registerWithDevice now pluginId connId manifest writeTx owned details = .ok later →
      Addressable ctx pluginId) ∧
    ∀ deviceId caps later, registry.registerDevice now deviceId connId caps manifest writeTx owned details = .ok later →
      Addressable ctx deviceId ∧ ∃ entry, later.get deviceId = some entry ∧
        entry.manifest.actions = caps.map (fun cap => deviceId ++ "." ++ cap) ∧
        ∀ name ∈ entry.manifest.actions, (TextField.Fits 32 name → Addressable ctx name) ∧
          (TextField.read (targetBytes name) = some name ↔ TextField.Fits 32 name) := by
  constructor
  · intro pluginId later done
    exact (insertEntry_valid done).addressable reads
  · intro deviceId caps later done
    have stored := (insertEntry_ok done).get deviceId
    rw [if_pos rfl] at stored
    refine ⟨(insertEntry_valid done).addressable reads, _, stored, rfl, ?_⟩
    intro name declared
    obtain ⟨cap, _, rfl⟩ := List.mem_map.mp declared
    constructor
    · intro fits
      exact addressable_of_fits reads fits (qualified_unreserved deviceId cap)
    · exact TextField.read_pack_iff

section Television
open Scenario

def fieldContext : Context Packet := { wire := { Packet.wire with targetAsStr := TextField.read } }

theorem fieldContext_reads : ReadsTargets fieldContext.wire := fun _ _ found => found

def television (deviceId cap : String) : Except VynkorError PluginRegistry :=
  ({} : PluginRegistry).registerDevice start deviceId 1 [cap] {} { conn := 1 } rfl {}

theorem ok_of_isSome {ε α : Type} {outcome : Except ε α} (done : outcome.toOption.isSome = true) :
    outcome = .ok (outcome.toOption.get done) := by
  cases outcome with
  | error => cases done
  | ok => rfl

theorem declared_names_addressable_tv : Addressable fieldContext "tv" ∧ Addressable fieldContext "tv.show" := by
  obtain ⟨_, device⟩ := declared_names_addressable fieldContext fieldContext_reads {} start 1 {} { conn := 1 } rfl {}
  have registered : television "tv" "show" = .ok _ := ok_of_isSome (by decide +kernel)
  obtain ⟨named, entry, _, actions, each⟩ := device "tv" ["show"] _ registered
  have declared : "tv.show" ∈ entry.manifest.actions := by
    rw [actions]
    decide
  exact ⟨named, (each "tv.show" declared).1 (by decide +kernel)⟩

/-- The set is registered with a capability whose qualified name is one byte too long:
a frame addressed to it carries another name, which leads nowhere. -/
theorem long_capability_unreachable : ∃ later, television "living-room-television-set" "volume" = .ok later ∧
    (later.getMux "living-room-television-set.volume").isSome = true ∧
    fieldContext.wire.targetAsStr (targetBytes "living-room-television-set.volume") =
      some "living-room-television-set.volum" ∧
    later.getMux "living-room-television-set.volum" = none := by
  have cut : targetBytes "living-room-television-set.volume" = TextField.pack 32 "living-room-television-set.volum" := by
    decide +kernel
  refine ⟨_, ok_of_isSome (by decide +kernel), by decide +kernel, ?_, ?_⟩
  · have fits : TextField.Fits 32 "living-room-television-set.volum" := by decide +kernel
    rw [cut]
    exact TextField.read_pack_iff.mpr fits
  · exact Option.isNone_iff_eq_none.mp (by decide +kernel)

end Television
end Vynkor.Proofs
