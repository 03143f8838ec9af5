import Vynkor.Auth.DeviceStore
import Vynkor.Data.TextField

/-! The file of credentials: what a sealed row gives back, what the gate says of a
row, and which rows the commands leave alone. -/

namespace Vynkor.Proofs
open DeviceStore

open Execution
variable {cipher : Cipher} {store : DeviceStore} {rows : List DeviceRecord} {deviceId : String}

section Rows
variable {file : DeviceFile} {row fresh : DeviceRecord} {now : Nat} {enc : Bytes} {secret : String}

theorem unseal_sealed {nonce secret} (done : store.sealSecret cipher nonce secret = .ok enc) :
    store.unsealSecret cipher enc = .ok secret := by
  rw [DeviceStore.sealSecret] at done
  split at done
  · cases done
  next body encrypted =>
    obtain rfl := Except.ok.inj done
    have size : nonce.toList.length = nonceLen := by simp [nonceLen]
    have longer : ¬(nonce.toList ++ body).length ≤ nonceLen := by
      have some := List.length_pos_iff.mpr (cipher.encrypt_ne _ _ _ _ _ encrypted)
      rw [List.length_append, size]
      omega
    rw [DeviceStore.unsealSecret, if_neg longer, List.take_left' size, List.drop_left' size,
      cipher.decrypt_encrypt _ _ _ _ _ encrypted]
    have opened : String.fromUTF8? ⟨(utf8 secret).toArray⟩ = some secret := TextField.fromUTF8_encode secret
    simp only [opened]

def Legible (cipher : Cipher) (store : DeviceStore) (rows : List DeviceRecord) : Prop :=
  ∀ row ∈ rows, ∃ secret, store.unsealSecret cipher row.secretEnc = .ok secret

theorem verifyRows_iff : store.verifyRows cipher rows = .ok () ↔ Legible cipher store rows := by
  induction rows with
  | nil => simp [verifyRows, Legible]
  | cons row rest ih =>
    rw [verifyRows]
    cases opened : store.unsealSecret cipher row.secretEnc with
    | error => simp [Legible, opened]
    | ok secret => simp only [ih, Legible, List.forall_mem_cons, opened, Except.ok.injEq, exists_eq', true_and]

theorem readAll_iff : store.readAll cipher file = .ok rows ↔ file = .ok rows ∧ Legible cipher store rows := by
  cases file with
  | error => simp [DeviceStore.readAll]
  | ok found =>
    rw [DeviceStore.readAll, ← verifyRows_iff]
    cases verified : store.verifyRows cipher found with
    | error =>
      simp only [reduceCtorEq, Except.ok.injEq, false_iff, not_and]
      rintro rfl
      simp [verified]
    | ok =>
      simp only [Except.ok.injEq, iff_self_and]
      rintro rfl
      exact verified

theorem activeSecret_inactive (cipher : Cipher) (store : DeviceStore) (read : file = .ok rows)
    (found : (rows.find? fun row => row.deviceId = deviceId) = some row)
    (inactive : row.status now ≠ .active) : ∃ error, store.activeSecret cipher file now deviceId = .error error := by
  rw [activeSecret, DeviceStore.get]
  cases opened : store.readAll cipher file with
  | error error => exact ⟨error, rfl⟩
  | ok others =>
    cases read.symm.trans (readAll_iff.mp opened).1
    simp only [found]
    cases store.unsealSecret cipher row.secretEnc with
    | error error => exact ⟨error, rfl⟩
    | ok secret =>
      cases status : row.status now with
      | active => exact absurd status inactive
      | revoked => simp [status]
      | expired => simp [status]

/-- The file holds a credential of the device with this secret, in its first row. -/
structure Credited (cipher : Cipher) (store : DeviceStore) (deviceId secret : String) (row : DeviceRecord)
    (rows : List DeviceRecord) : Prop where
  legible : Legible cipher store rows
  found : (rows.find? fun row => row.deviceId = deviceId) = some row
  opens : store.unsealSecret cipher row.secretEnc = .ok secret

theorem Credited.activeSecret (credited : Credited cipher store deviceId secret row rows)
    (active : row.status now = .active) : store.activeSecret cipher (.ok rows) now deviceId = .ok (some secret) := by
  rw [DeviceStore.activeSecret, DeviceStore.get, readAll_iff.mpr ⟨rfl, credited.legible⟩]
  simp only [credited.found, credited.opens, active]

end Rows

section Renewal
variable {fresh : DeviceRecord}

theorem renew_find_self (own : fresh.deviceId = deviceId) :
    ((renew fresh rows).find? fun row => row.deviceId = deviceId) = some fresh := by
  subst own
  induction rows with
  | nil => simp [renew]
  | cons row rest ih =>
    rw [renew]
    split
    · simp
    next other => rw [List.find?_cons_of_neg (by simpa using other), ih]

theorem renew_find_other (other : fresh.deviceId ≠ deviceId) :
    ((renew fresh rows).find? fun row => row.deviceId = deviceId) =
      rows.find? fun row => row.deviceId = deviceId := by
  induction rows with
  | nil => simp [renew, other]
  | cons row rest ih =>
    rw [renew]
    split
    next same =>
      rw [List.find?_cons_of_neg (by simpa using other), List.find?_cons_of_neg (by simpa [same] using other)]
    · simp only [List.find?_cons, ih]

theorem mem_renew {row} (member : row ∈ renew fresh rows) : row = fresh ∨ row ∈ rows := by
  induction rows with
  | nil => simpa [renew] using member
  | cons first rest ih =>
    rw [renew] at member
    split at member
    · rcases List.mem_cons.mp member with same | later
      · exact .inl same
      · exact .inr (List.mem_cons_of_mem _ later)
    · rcases List.mem_cons.mp member with same | later
      · exact .inr (by simp [same])
      · exact (ih later).imp_right (List.mem_cons_of_mem _)

theorem Legible.renew {secret} (legible : Legible cipher store rows)
    (opens : store.unsealSecret cipher fresh.secretEnc = .ok secret) :
    Legible cipher store (renew fresh rows) := by
  intro row member
  rcases mem_renew member with rfl | old
  · exact ⟨secret, opens⟩
  · exact legible row old

end Renewal

section Commands
variable {file later : DeviceFile} {row : DeviceRecord} {deviceId secret : String} {disk : Except VynkorError Unit}
  {now ttlSecs : Nat} {bytes : Vector UInt8 32} {nonce : Vector UInt8 12} {name : String}
  {command : Command}

theorem exec_readRows : (store.readRows cipher).exec file = (store.readAll cipher file, file) := by
  rw [DeviceStore.readRows, Method.exec_bind]
  exact Method.exec_ofExcept _ _

theorem exec_writeAll : (DeviceStore.writeAll disk rows).exec file =
    match disk with
    | .ok () => (.ok (), .ok rows)
    | .error error => (.error error, file) := by
  rw [DeviceStore.writeAll, Method.exec_bind, Method.exec_ofExcept]
  cases disk <;> rfl

/-- A command reads the rows and then writes them, or leaves the file as it is. -/
theorem exec_issue : (store.issue cipher disk now bytes nonce deviceId name ttlSecs).exec file =
    match store.readAll cipher file with
    | .error error => (.error error, file)
    | .ok rows =>
      match store.sealSecret cipher nonce (Text.hex bytes.toList) with
      | .error error => (.error error, file)
      | .ok enc =>
        match disk with
        | .error error => (.error error, file)
        | .ok () => (.ok (Text.hex bytes.toList),
            .ok (renew (issuedRow now deviceId name ttlSecs enc) rows)) := by
  simp only [DeviceStore.issue, Method.exec_bind, exec_readRows, Method.exec_ofExcept, exec_writeAll]
  cases store.readAll cipher file with
  | error => rfl
  | ok rows =>
    cases store.sealSecret cipher nonce (Text.hex bytes.toList) with
    | error => rfl
    | ok enc => cases disk <;> rfl

theorem exec_setRevoked {revoked} : (store.setRevoked cipher disk deviceId revoked).exec file =
    match store.readAll cipher file with
    | .error error => (.error error, file)
    | .ok rows =>
      if rows.any fun row => row.deviceId = deviceId then
        match disk with
        | .error error => (.error error, file)
        | .ok () => (.ok true, .ok (rows.map fun row => if row.deviceId = deviceId then { row with revoked } else row))
      else (.ok false, file) := by
  simp only [DeviceStore.setRevoked, Method.exec_bind, exec_readRows, Method.exec_ite, exec_writeAll]
  cases store.readAll cipher file with
  | error => rfl
  | ok rows => cases disk <;> rfl

theorem exec_remove : (store.remove cipher disk deviceId).exec file =
    match store.readAll cipher file with
    | .error error => (.error error, file)
    | .ok rows =>
      if rows.any fun row => row.deviceId = deviceId then
        match disk with
        | .error error => (.error error, file)
        | .ok () => (.ok true, .ok (rows.filter fun row => row.deviceId ≠ deviceId))
      else (.ok false, file) := by
  simp only [DeviceStore.remove, Method.exec_bind, exec_readRows, Method.exec_ite, exec_writeAll]
  cases store.readAll cipher file with
  | error => rfl
  | ok rows => cases disk <;> rfl

theorem issue_ok
    (done : (store.issue cipher disk now bytes nonce deviceId name ttlSecs).exec file = (.ok secret, later)) :
    ∃ enc rows, later = .ok rows ∧
      Credited cipher store deviceId secret (issuedRow now deviceId name ttlSecs enc) rows := by
  rw [exec_issue] at done
  split at done
  · cases done
  next rows read =>
    split at done
    · cases done
    next enc closed =>
      split at done
      · cases done
      · cases done
        have opens := unseal_sealed closed
        exact ⟨enc, _, rfl, (readAll_iff.mp read).2.renew opens, renew_find_self rfl, opens⟩

inductive Edit (cipher : Cipher) (store : DeviceStore) :
    Command → List DeviceRecord → List DeviceRecord → Prop where
  | kept {command : Command} {rows : List DeviceRecord} : Edit cipher store command rows rows
  | issued {now ttlSecs bytes nonce deviceId name enc rows}
      (done : store.sealSecret cipher nonce (Text.hex bytes.toList) = .ok enc) :
      Edit cipher store (.issue now bytes nonce deviceId name ttlSecs) rows
        (renew (issuedRow now deviceId name ttlSecs enc) rows)
  | revoked {deviceId revoked rows} :
      Edit cipher store (.setRevoked deviceId revoked) rows
        (rows.map fun row => if row.deviceId = deviceId then { row with revoked } else row)
  | removed {deviceId : String} {rows : List DeviceRecord} :
      Edit cipher store (.remove deviceId) rows (rows.filter fun row => row.deviceId ≠ deviceId)

theorem step_edit (step : store.step cipher (.ok rows) (command, disk) = some later) :
    ∃ edited, later = .ok edited ∧ Edit cipher store command rows edited := by
  cases command with
  | issue now bytes nonce deviceId name ttlSecs =>
    obtain rfl := Option.some.inj step
    rw [exec_issue]
    split
    · exact ⟨rows, rfl, .kept⟩
    next found read =>
      obtain rfl := Except.ok.inj (readAll_iff.mp read).1
      split
      · exact ⟨rows, rfl, .kept⟩
      next enc closed =>
        split
        · exact ⟨rows, rfl, .kept⟩
        · exact ⟨_, rfl, .issued closed⟩
  | setRevoked deviceId revoked =>
    obtain rfl := Option.some.inj step
    rw [exec_setRevoked]
    split
    · exact ⟨rows, rfl, .kept⟩
    next found read =>
      obtain rfl := Except.ok.inj (readAll_iff.mp read).1
      split
      · split
        · exact ⟨rows, rfl, .kept⟩
        · exact ⟨_, rfl, .revoked⟩
      · exact ⟨rows, rfl, .kept⟩
  | remove deviceId =>
    obtain rfl := Option.some.inj step
    rw [exec_remove]
    split
    · exact ⟨rows, rfl, .kept⟩
    next found read =>
      obtain rfl := Except.ok.inj (readAll_iff.mp read).1
      split
      · split
        · exact ⟨rows, rfl, .kept⟩
        · exact ⟨_, rfl, .removed⟩
      · exact ⟨rows, rfl, .kept⟩

theorem Edit.credited {edited}
    (edit : Edit cipher store command rows edited) (other : command.deviceId ≠ deviceId)
    (credited : Credited cipher store deviceId secret row rows) : Credited cipher store deviceId secret row edited := by
  cases edit with
  | kept => exact credited
  | issued done =>
    refine ⟨credited.legible.renew (unseal_sealed done), ?_, credited.opens⟩
    rw [renew_find_other other, credited.found]
  | @revoked id revoked =>
    refine ⟨?_, ?_, credited.opens⟩
    · intro row member
      obtain ⟨old, present, rfl⟩ := List.mem_map.mp member
      obtain ⟨secret, opens⟩ := credited.legible old present
      refine ⟨secret, ?_⟩
      split <;> exact opens
    · rw [List.find?_map]
      have same : ((fun row => decide (row.deviceId = deviceId)) ∘ fun row : DeviceRecord =>
          if row.deviceId = id then { row with revoked } else row) = fun row => decide (row.deviceId = deviceId) := by
        funext row
        simp only [Function.comp_apply]
        split <;> rfl
      have own : row.deviceId = deviceId := by simpa using List.find?_some credited.found
      rw [same, credited.found, Option.map_some, if_neg (fun mine => other (mine.symm.trans own))]
  | @removed id =>
    have different : deviceId ≠ id := Ne.symm other
    refine ⟨fun row member => credited.legible row (List.mem_filter.mp member).1, ?_, credited.opens⟩
    rw [List.find?_filter, ← credited.found]
    congr 1
    funext row
    by_cases own : row.deviceId = deviceId
    · simp [own, different]
    · simp [own]

def notAbout (deviceId : String) (_ : DeviceFile) (action : Command × Except VynkorError Unit) : Bool :=
  action.1.deviceId ≠ deviceId

theorem credited_later (run : Run (DeviceStore.step cipher store) (notAbout deviceId) (.ok rows) later)
    (credited : Credited cipher store deviceId secret row rows) :
    ∃ kept, later = .ok kept ∧ Credited cipher store deviceId secret row kept := by
  apply run.preserves ⟨rows, rfl, credited⟩
  intro state action next allowed step held
  obtain ⟨kept, rfl, credited⟩ := held
  obtain ⟨edited, rfl, edit⟩ := step_edit step
  exact ⟨edited, rfl, edit.credited (by simpa [notAbout] using allowed) credited⟩

end Commands
end Vynkor.Proofs
