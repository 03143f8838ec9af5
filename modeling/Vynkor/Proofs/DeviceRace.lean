import Mathlib.Data.List.Permutation
import Vynkor.Auth.DeviceProcesses
import Vynkor.Proofs.Credentials
import Vynkor.Scenario

/-! Two processes that change the device file at the same time. -/

namespace Vynkor.Proofs
open DeviceStore Execution Replacement
variable {cipher : Cipher} {store : DeviceStore} {command : Command} {file next : DeviceFile}
  {reply : Reply} {deviceId : String}

/-- What a command drafts and then puts in place is what it does alone. -/
theorem call_draft : (store.call cipher command).exec file =
    match (store.draft cipher command file).result file with
    | .error error => (.error error, file)
    | .ok (next, reply) => (.ok reply, next) := by
  cases command with
  | issue now secret nonce deviceId name ttlSecs =>
    simp only [DeviceStore.call, draft, Method.exec_bind, exec_issue]
    cases store.readAll cipher file with
    | error => rfl
    | ok rows => cases store.sealSecret cipher nonce (Text.hex secret.toList) <;> rfl
  | setRevoked deviceId revoked =>
    simp only [DeviceStore.call, draft, Method.exec_bind, exec_setRevoked]
    cases store.readAll cipher file with
    | error => rfl
    | ok rows =>
      dsimp only
      cases rows.any fun row => decide (row.deviceId = deviceId) <;> rfl
  | remove deviceId =>
    simp only [DeviceStore.call, draft, Method.exec_bind, exec_remove]
    cases store.readAll cipher file with
    | error => rfl
    | ok rows =>
      dsimp only
      cases rows.any fun row => decide (row.deviceId = deviceId) <;> rfl

theorem call_step : store.step cipher file (command, .ok ()) = some ((store.call cipher command).exec file).2 := by
  cases command with
  | issue now secret nonce deviceId name ttlSecs =>
    simp only [DeviceStore.step, DeviceStore.call, Method.exec_bind]
    cases store.issue cipher (.ok ()) now secret nonce deviceId name ttlSecs |>.exec file with
    | mk outcome file => cases outcome <;> rfl
  | setRevoked deviceId revoked =>
    simp only [DeviceStore.step, DeviceStore.call, Method.exec_bind]
    cases store.setRevoked cipher (.ok ()) deviceId revoked |>.exec file with
    | mk outcome file => cases outcome <;> rfl
  | remove deviceId =>
    simp only [DeviceStore.step, DeviceStore.call, Method.exec_bind]
    cases store.remove cipher (.ok ()) deviceId |>.exec file with
    | mk outcome file => cases outcome <;> rfl

theorem both_returned {commands : Bool → Command} {start : DeviceFile} {final : Processes}
    {order : List (Bool × Reply)} {replies : Bool → Reply}
    (serial : Serial (fun who => store.draft cipher (commands who)) start order final)
    (returned : ∀ who, final.phase who = .returned (.ok (replies who))) :
    ∃ first, order = [(first, replies first), (!first, replies !first)] := by
  have listed : ∀ entry, entry ∈ order ↔ entry ∈ [(false, replies false), (true, replies true)] := by
    rintro ⟨who, reply⟩
    rw [serial.returned, returned]
    cases who <;> simp [eq_comm]
  have perm : order.Perm [(false, replies false), (true, replies true)] :=
    (List.perm_ext_iff_of_nodup serial.once.of_map (by simp)).mpr listed
  rcases List.perm_pair.mp perm with same | swapped
  · exact ⟨false, same⟩
  · exact ⟨true, swapped⟩

def Barred (deviceId : String) (file : DeviceFile) : Prop :=
  ∀ rows, file = .ok rows → ∀ row ∈ rows, row.deviceId = deviceId → row.revoked = true

theorem call_revokes
    (called : (store.call cipher (.setRevoked deviceId true)).exec file = (.ok reply, next)) :
    Barred deviceId next := by
  obtain ⟨known, middle, revoked, returned⟩ := Method.exec_bind_ok called
  cases returned
  rw [exec_setRevoked] at revoked
  split at revoked
  · cases revoked
  next rows read =>
    split at revoked
    · cases revoked
      rintro _ ⟨⟩ row member own
      obtain ⟨old, -, rfl⟩ := List.mem_map.mp member
      by_cases same : old.deviceId = deviceId
      · rw [if_pos same]
      · rw [if_neg same] at own
        exact absurd own same
    next unknown =>
      cases revoked
      intro found same row member own
      obtain rfl := Except.ok.inj ((readAll_iff.mp read).1.symm.trans same)
      exact absurd (List.any_eq_true.mpr ⟨row, member, by simpa using own⟩) unknown

theorem Edit.barred {rows edited} (edit : Edit cipher store command rows edited)
    (other : command.deviceId ≠ deviceId) (barred : Barred deviceId (.ok rows)) : Barred deviceId (.ok edited) := by
  rintro _ ⟨⟩ row member own
  cases edit with
  | kept => exact barred rows rfl row member own
  | issued =>
    rcases mem_renew member with rfl | old
    · exact absurd own other
    · exact barred rows rfl row old own
  | @revoked changed =>
    obtain ⟨old, present, rfl⟩ := List.mem_map.mp member
    by_cases same : old.deviceId = changed
    · rw [if_pos same] at own
      exact absurd (same.symm.trans own) other
    · rw [if_neg same] at own ⊢
      exact barred rows rfl old present own
  | removed => exact barred rows rfl row (List.mem_of_mem_filter member) own

theorem call_barred (other : command.deviceId ≠ deviceId) (barred : Barred deviceId file)
    (called : (store.call cipher command).exec file = (.ok reply, next)) : Barred deviceId next := by
  cases file with
  | error error =>
    rw [call_draft] at called
    cases called
  | ok rows =>
    have step : store.step cipher (.ok rows) (command, .ok ()) = some next := by rw [call_step, called]
    obtain ⟨edited, rfl, edit⟩ := step_edit step
    exact edit.barred other barred

theorem call_result (result : (store.draft cipher command file).result file = .ok (next, reply)) :
    (store.call cipher command).exec file = (.ok reply, next) := by
  rw [call_draft, result]

/-- If neither process renames its file onto one it has not read, or one the other has
written, the commands take effect one after the other, with the replies they have given.
A revocation then stands against a command for another device. -/
theorem concurrent_commands (cipher : Cipher) (store : DeviceStore) (commands : Bool → Command)
    (start : DeviceFile) (final : Processes) (replies : Bool → Reply)
    (run : Run (store.processStep cipher commands) Replacement.undisturbed { file := start } final)
    (returned : ∀ who, final.phase who = .returned (.ok (replies who))) :
    (∃ first middle, (store.call cipher (commands first)).exec start = (.ok (replies first), middle) ∧
      (store.call cipher (commands !first)).exec middle = (.ok (replies !first), final.file)) ∧
    ∀ who deviceId, commands who = .setRevoked deviceId true → (commands !who).deviceId ≠ deviceId →
      ∀ rows, final.file = .ok rows → ∀ row ∈ rows, row.deviceId = deviceId → row.revoked = true := by
  obtain ⟨order, serial⟩ := serial_run run
  obtain ⟨first, rfl⟩ := both_returned serial returned
  obtain ⟨middle, result, last⟩ := sequence_pair serial.file
  have called := call_result result
  have followed := call_result last
  refine ⟨⟨first, middle, called, followed⟩, ?_⟩
  intro who deviceId revokes other
  cases same : who == first with
  | true =>
    obtain rfl := eq_of_beq same
    rw [revokes] at called
    exact call_barred other (call_revokes called) followed
  | false =>
    obtain rfl : who = !first := by cases who <;> cases first <;> trivial
    rw [revokes] at followed
    exact call_revokes followed

section Sideboard
open Scenario

def sideboard : DeviceStore := DeviceStore.new plainCipher "a secret of at least 32 bytes in length"

def sideboardFile : DeviceFile :=
  ((sideboard.issue plainCipher (.ok ()) 1000 (Vector.replicate 32 1) (Vector.replicate 12 0) "phone" "phone" 60).exec
    (.ok [])).2

def sideboardCommands : Bool → Command
  | false => .setRevoked "phone" true
  | true => .issue 1010 (Vector.replicate 32 2) (Vector.replicate 12 0) "tablet" "tablet" 60

def sideboardReplies : Bool → Reply
  | false => .found true
  | true => .secret (Text.hex (List.replicate 32 2))

def sideboardEnd (guard : Processes → Replacement.Action Bool → Bool)
    (actions : List (Replacement.Action Bool)) : Option Processes :=
  exec (sideboard.processStep plainCipher sideboardCommands) guard { file := sideboardFile } actions

def apart : List (Replacement.Action Bool) :=
  [.read false, .write false, .rename false, .read true, .write true, .rename true]

def crossed : List (Replacement.Action Bool) :=
  [.read false, .read true, .write false, .rename false, .write true, .rename true]

def apartEnd : Processes := (sideboardEnd Replacement.undisturbed apart).get (by decide +kernel)

def crossedEnd : Processes := (sideboardEnd unguarded crossed).get (by decide +kernel)

theorem concurrent_commands_apart :
    (∃ first middle, (sideboard.call plainCipher (sideboardCommands first)).exec sideboardFile =
        (.ok (sideboardReplies first), middle) ∧
      (sideboard.call plainCipher (sideboardCommands !first)).exec middle =
        (.ok (sideboardReplies !first), apartEnd.file)) ∧
    ∀ who deviceId, sideboardCommands who = .setRevoked deviceId true → (sideboardCommands !who).deviceId ≠ deviceId →
      ∀ rows, apartEnd.file = .ok rows → ∀ row ∈ rows, row.deviceId = deviceId → row.revoked = true :=
  concurrent_commands plainCipher sideboard sideboardCommands sideboardFile apartEnd sideboardReplies
    (exec_get_run (by decide +kernel)) (by decide +kernel)

def revocations (file : DeviceFile) : List (String × Bool) :=
  match file with
  | .error _ => []
  | .ok rows => rows.map fun row => (row.deviceId, row.revoked)

/-- Both commands return, and the phone is not revoked; in either order it would be. -/
theorem revocation_lost :
    Run (sideboard.processStep plainCipher sideboardCommands) unguarded { file := sideboardFile } crossedEnd ∧
    (∀ who, crossedEnd.phase who = .returned (.ok (sideboardReplies who))) ∧
    revocations crossedEnd.file = [("phone", false), ("tablet", false)] ∧
    ∀ first, revocations ((sideboard.call plainCipher (sideboardCommands !first)).exec
      ((sideboard.call plainCipher (sideboardCommands first)).exec sideboardFile).2).2 =
        [("phone", true), ("tablet", false)] :=
  ⟨exec_get_run (by decide +kernel), by decide +kernel, by decide +kernel, by decide +kernel⟩

end Sideboard
end Vynkor.Proofs
