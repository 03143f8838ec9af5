import Mathlib.Data.List.Induction
import Vynkor.Proofs.Credentials
import Vynkor.Scenario

/-! The file of credentials as the history of the calls: what the gate says of a device
follows from what was issued, revoked and removed before. -/

namespace Vynkor.Proofs
open DeviceStore Execution History

/-- What a call that has returned has told its caller. -/
inductive Told where
  | issued (deviceId secret : String) (expiry : Nat)
  | marked (deviceId : String) (revoked : Bool)
  | removed (deviceId : String)
  deriving DecidableEq

def Told.deviceId : Told → String
  | .issued deviceId _ _ | .marked deviceId _ | .removed deviceId => deviceId

section Abstract

/-- A credential, without the file that keeps it. -/
structure Credential where
  secret : String
  expiry : Nat
  revoked : Bool := false
  deriving DecidableEq

def Credential.become (held : Option Credential) : Told → Option Credential
  | .issued _ secret expiry => some { secret, expiry }
  | .marked _ revoked => held.map fun credential => { credential with revoked }
  | .removed _ => none

def Credential.next (deviceId : String) (held : Option Credential) (event : Told) : Option Credential :=
  if event.deviceId = deviceId then become held event else held

def credential (deviceId : String) (log : List Told) : Option Credential := log.foldl (Credential.next deviceId) none

def Credential.gate (deviceId : String) (now : Nat) : Option Credential → Except VynkorError (Option String)
  | none => .ok none
  | some credential =>
    if credential.revoked then .error (.auth s!"device '{deviceId}' is revoked — re-pair to restore access")
    else if credential.expiry ≤ now then .error (.auth s!"device '{deviceId}' credential expired — re-pair")
    else .ok (some credential.secret)

variable {deviceId secret : String} {expiry now : Nat} {log after : List Told} {event : Told} {held : Credential}

theorem credential_snoc :
    credential deviceId (log ++ [event]) = Credential.next deviceId (credential deviceId log) event := by
  simp [credential]

theorem credential_own (event : Told) (own : event.deviceId = deviceId) :
    credential deviceId (log ++ [event]) = Credential.become (credential deviceId log) event := by
  rw [credential_snoc, Credential.next, if_pos own]

theorem credential_other (event : Told) (other : event.deviceId ≠ deviceId) :
    credential deviceId (log ++ [event]) = credential deviceId log := by
  rw [credential_snoc, Credential.next, if_neg other]

/-- The last issue for the device, and what has come after it. -/
def LastIssue (log : List Told) (deviceId secret : String) (expiry : Nat) (after : List Told) : Prop :=
  (∃ before, log = before ++ .issued deviceId secret expiry :: after) ∧
    ∀ later expires, .issued deviceId later expires ∉ after

def Suspended (deviceId : String) (after : List Told) : Prop :=
  Since after (fun _ event => event = .marked deviceId true) (.marked deviceId false)

theorem suspended_snoc : Suspended deviceId (after ++ [event]) ↔
    event = .marked deviceId true ∨ Suspended deviceId after ∧ event ≠ .marked deviceId false :=
  since_snoc

theorem LastIssue.here : LastIssue (log ++ [.issued deviceId secret expiry]) deviceId secret expiry [] :=
  ⟨⟨log, rfl⟩, fun _ _ => List.not_mem_nil⟩

theorem LastIssue.snoc (last : LastIssue log deviceId secret expiry after)
    (other : ∀ later expires, event ≠ .issued deviceId later expires) :
    LastIssue (log ++ [event]) deviceId secret expiry (after ++ [event]) := by
  obtain ⟨⟨before, rfl⟩, none⟩ := last
  refine ⟨⟨before, by simp⟩, ?_⟩
  intro later expires member
  rcases List.mem_append.mp member with old | new
  · exact none later expires old
  · exact other later expires (List.mem_singleton.mp new).symm

theorem LastIssue.of_snoc (last : LastIssue (log ++ [event]) deviceId secret expiry after) :
    event = .issued deviceId secret expiry ∧ after = [] ∨ (∀ later expires, event ≠ .issued deviceId later expires) ∧
      ∃ rest, after = rest ++ [event] ∧ LastIssue log deviceId secret expiry rest := by
  obtain ⟨⟨before, split⟩, none⟩ := last
  rcases snoc_eq_append_cons split with ⟨rfl, _, rfl⟩ | ⟨rest, rfl, earlier⟩
  · exact .inl ⟨rfl, rfl⟩
  · refine .inr ⟨?_, rest, rfl, ⟨before, earlier⟩, ?_⟩
    · rintro later expires rfl
      exact none later expires (by simp)
    · intro later expires member
      exact none later expires (List.mem_append_left _ member)

theorem LastIssue.unique {other expires since}
    (first : LastIssue log deviceId secret expiry after) (second : LastIssue log deviceId other expires since) :
    secret = other ∧ expiry = expires ∧ after = since := by
  -- from the newest event backwards: it is the last issue of both, or of neither
  induction log using List.reverseRecOn generalizing after since with
  | nil =>
    obtain ⟨⟨before, split⟩, _⟩ := first
    simp at split
  | append_singleton log event ih =>
    rcases first.of_snoc with ⟨rfl, rfl⟩ | ⟨unissued, rest, rfl, earlier⟩
    · rcases second.of_snoc with ⟨same, rfl⟩ | ⟨apart, _⟩
      · cases same
        exact ⟨rfl, rfl, rfl⟩
      · exact absurd rfl (apart secret expiry)
    · rcases second.of_snoc with ⟨same, _⟩ | ⟨_, rest', rfl, earlier'⟩
      · exact absurd same (unissued other expires)
      · obtain ⟨rfl, rfl, rfl⟩ := ih earlier earlier'
        exact ⟨rfl, rfl, rfl⟩

theorem lastIssue_exists (member : .issued deviceId secret expiry ∈ log) :
    ∃ last expires after, LastIssue log deviceId last expires after := by
  induction log using List.reverseRecOn with
  | nil => cases member
  | append_singleton log event ih =>
    by_cases issues : ∃ last expires, event = .issued deviceId last expires
    · obtain ⟨last, expires, rfl⟩ := issues
      exact ⟨last, expires, [], .here⟩
    · have other : ∀ last expires, event ≠ .issued deviceId last expires :=
        fun last expires same => issues ⟨last, expires, same⟩
      rcases List.mem_append.mp member with old | new
      · obtain ⟨last, expires, after, earlier⟩ := ih old
        exact ⟨last, expires, _, earlier.snoc other⟩
      · exact absurd (List.mem_singleton.mp new).symm (other secret expiry)

/-- What is known of a device that holds a credential. -/
structure Standing (log : List Told) (deviceId : String) (held : Credential) (after : List Told) : Prop where
  last : LastIssue log deviceId held.secret held.expiry after
  kept : .removed deviceId ∉ after
  revoked : held.revoked = true ↔ Suspended deviceId after

theorem Standing.other (standing : Standing log deviceId held after) (other : event.deviceId ≠ deviceId) :
    Standing (log ++ [event]) deviceId held (after ++ [event]) := by
  have apart : ∀ own : Told, own.deviceId = deviceId → event ≠ own := by
    rintro own same rfl
    exact other same
  refine ⟨standing.last.snoc fun _ _ => apart _ rfl, ?_, ?_⟩
  · rw [List.mem_append, List.mem_singleton, not_or]
    exact ⟨standing.kept, Ne.symm (apart _ rfl)⟩
  · rw [suspended_snoc, standing.revoked]
    simp [apart (.marked deviceId true) rfl, apart (.marked deviceId false) rfl]

theorem Standing.mark (standing : Standing log deviceId held after) (revoked : Bool) :
    Standing (log ++ [.marked deviceId revoked]) deviceId { held with revoked }
      (after ++ [.marked deviceId revoked]) := by
  refine ⟨standing.last.snoc (by simp), ?_, ?_⟩
  · rw [List.mem_append, List.mem_singleton, not_or]
    exact ⟨standing.kept, by simp⟩
  · rw [suspended_snoc]
    cases revoked <;> simp

/-- A device without a credential has never been issued one, or it has been removed. -/
def Lacking (log : List Told) (deviceId : String) : Prop :=
  ∀ secret expiry after, LastIssue log deviceId secret expiry after → .removed deviceId ∈ after

theorem Lacking.snoc (lacking : Lacking log deviceId)
    (other : ∀ secret expiry, event ≠ .issued deviceId secret expiry) : Lacking (log ++ [event]) deviceId := by
  intro secret expiry after last
  rcases last.of_snoc with ⟨same, _⟩ | ⟨_, rest, rfl, earlier⟩
  · exact absurd same (other secret expiry)
  · exact List.mem_append_left _ (lacking secret expiry rest earlier)

theorem lacking_removed : Lacking (log ++ [.removed deviceId]) deviceId := by
  intro secret expiry after last
  rcases last.of_snoc with ⟨same, _⟩ | ⟨_, rest, rfl, _⟩
  · cases same
  · simp

/-- The credential that a log leaves, read off its last issue. -/
inductive CredentialReading (log : List Told) (deviceId : String) : Option Credential → Prop where
  | lacking (lacking : Lacking log deviceId) : CredentialReading log deviceId none
  | standing {held : Credential} {after : List Told} (standing : Standing log deviceId held after) :
      CredentialReading log deviceId (some held)

theorem CredentialReading.other {credential} (reads : CredentialReading log deviceId credential)
    (other : event.deviceId ≠ deviceId) : CredentialReading (log ++ [event]) deviceId credential := by
  cases reads with
  | lacking lacking => exact .lacking (lacking.snoc fun _ _ same => other (by rw [same]; rfl))
  | standing standing => exact .standing (standing.other other)

theorem CredentialReading.own {credential} (reads : CredentialReading log deviceId credential)
    (own : event.deviceId = deviceId) :
    CredentialReading (log ++ [event]) deviceId (Credential.become credential event) := by
  cases event with
  | issued id secret expiry =>
    obtain rfl : deviceId = id := own.symm
    exact .standing ⟨.here, List.not_mem_nil, by simp [Suspended, not_since_nil]⟩
  | marked id revoked =>
    obtain rfl : deviceId = id := own.symm
    cases reads with
    | lacking lacking => exact .lacking (lacking.snoc (by simp))
    | standing standing => exact .standing (standing.mark revoked)
  | removed id =>
    obtain rfl : deviceId = id := own.symm
    exact .lacking lacking_removed

end Abstract

/-- The file, and what the calls on it have told. -/
structure DeviceLedger where
  file : DeviceFile := .ok []
  log : List Told := []

def DeviceLedger.after {α : Type} (ledger : DeviceLedger) (event : α → Told) :
    Except VynkorError α × DeviceFile → DeviceLedger
  | (.ok value, file) => { file, log := ledger.log ++ [event value] }
  | (.error _, file) => { ledger with file }

def DeviceLedger.step (cipher : Cipher) (store : DeviceStore) (ledger : DeviceLedger) :
    Command → Option DeviceLedger
  | .issue now bytes nonce deviceId name ttlSecs => some (ledger.after (.issued deviceId · (now + ttlSecs))
      ((store.issue cipher (.ok ()) now bytes nonce deviceId name ttlSecs).exec ledger.file))
  | .setRevoked deviceId revoked => some (ledger.after (fun _ => .marked deviceId revoked)
      ((store.setRevoked cipher (.ok ()) deviceId revoked).exec ledger.file))
  | .remove deviceId => some (ledger.after (fun _ => .removed deviceId)
      ((store.remove cipher (.ok ()) deviceId).exec ledger.file))

def expires (_ : DeviceLedger) : Command → Bool
  | .issue now _ _ _ _ ttlSecs => now + ttlSecs < UInt64.size
  | .setRevoked _ _ | .remove _ => true

section Rows
variable {cipher : Cipher} {store : DeviceStore} {rows : List DeviceRecord} {row fresh : DeviceRecord}
  {deviceId other : String}

def markRow (deviceId : String) (revoked : Bool) (row : DeviceRecord) : DeviceRecord :=
  if row.deviceId = deviceId then { row with revoked } else row

theorem markRow_deviceId (revoked : Bool) : (markRow deviceId revoked row).deviceId = row.deviceId := by
  rw [markRow]
  split <;> rfl

def rowOf (deviceId : String) (rows : List DeviceRecord) : Option DeviceRecord :=
  rows.find? fun row => row.deviceId = deviceId

theorem rowOf_deviceId (found : rowOf deviceId rows = some row) : row.deviceId = deviceId := by
  simpa using List.find?_some found

theorem rowOf_renew : rowOf other (renew fresh rows) =
    if fresh.deviceId = other then some fresh else rowOf other rows := by
  split
  next same => exact renew_find_self same
  next apart => exact renew_find_other apart

theorem rowOf_mark (revoked : Bool) : rowOf other (rows.map (markRow deviceId revoked)) =
    (rowOf other rows).map (markRow deviceId revoked) := by
  rw [rowOf, List.find?_map, rowOf]
  simp only [Function.comp_def, markRow_deviceId]

theorem rowOf_mark_other (revoked : Bool) (apart : deviceId ≠ other) :
    rowOf other (rows.map (markRow deviceId revoked)) = rowOf other rows := by
  rw [rowOf_mark]
  cases found : rowOf other rows with
  | none => rfl
  | some row => rw [Option.map_some, markRow, if_neg fun same => apart (same.symm.trans (rowOf_deviceId found))]

theorem rowOf_remove : rowOf other (rows.filter fun row => row.deviceId ≠ deviceId) =
    if deviceId = other then none else rowOf other rows := by
  rw [rowOf, List.find?_filter]
  split
  next same =>
    subst same
    simp
  next apart =>
    congr 1
    funext row
    by_cases own : row.deviceId = other
    · simp [own, Ne.symm apart]
    · simp [own]

theorem map_deviceId_renew : (renew fresh rows).map DeviceRecord.deviceId =
    if fresh.deviceId ∈ rows.map DeviceRecord.deviceId then rows.map DeviceRecord.deviceId
    else rows.map DeviceRecord.deviceId ++ [fresh.deviceId] := by
  induction rows with
  | nil => rfl
  | cons first rest ih =>
    rw [renew]
    split
    next same => simp [same]
    next apart =>
      simp only [List.map_cons, ih, List.mem_cons, Ne.symm apart, false_or]
      split <;> rfl

end Rows

section Refinement
variable {cipher : Cipher} {store : DeviceStore} {rows : List DeviceRecord} {ledger next : DeviceLedger}
  {command : Command} {deviceId : String}

structure Keeps (cipher : Cipher) (store : DeviceStore) (row : DeviceRecord) (held : Credential) : Prop where
  opens : store.unsealSecret cipher row.secretEnc = .ok held.secret
  expiry : row.expiresAt = held.expiry
  revoked : row.revoked = held.revoked

/-- The rows keep, one for each device, what the log says it holds. -/
structure Reflects (cipher : Cipher) (store : DeviceStore) (rows : List DeviceRecord) (log : List Told) : Prop where
  legible : Legible cipher store rows
  unique : (rows.map DeviceRecord.deviceId).Nodup
  held : ∀ deviceId, Option.Rel (Keeps cipher store) (rowOf deviceId rows) (credential deviceId log)

theorem Reflects.activeSecret {log} (reflects : Reflects cipher store rows log) (now : Nat)
    (deviceId : String) : store.activeSecret cipher (.ok rows) now deviceId =
      Credential.gate deviceId now (credential deviceId log) := by
  have held := reflects.held deviceId
  rw [DeviceStore.activeSecret, DeviceStore.get, readAll_iff.mpr ⟨rfl, reflects.legible⟩]
  cases found : rowOf deviceId rows with
  | none =>
    rw [found] at held
    cases said : credential deviceId log with
    | none =>
      rw [rowOf] at found
      simp only [found, Credential.gate]
    | some credential =>
      rw [said] at held
      cases held
  | some row =>
    rw [found] at held
    cases said : credential deviceId log with
    | none =>
      rw [said] at held
      cases held
    | some credential =>
      rw [said] at held
      obtain ⟨keeps⟩ := held
      rw [rowOf] at found
      simp only [found, keeps.opens, DeviceRecord.status, Credential.gate, keeps.revoked, keeps.expiry]
      by_cases revoked : credential.revoked = true
      · simp [revoked]
      · by_cases expired : credential.expiry ≤ now
        · simp [revoked, expired]
        · simp [revoked, expired]

inductive CallEffect (cipher : Cipher) (store : DeviceStore) (rows : List DeviceRecord) (log : List Told) :
    Command → List DeviceRecord → List Told → Prop where
  | failed {command : Command} : CallEffect cipher store rows log command rows log
  | issued {now ttlSecs bytes nonce deviceId name enc}
      (done : store.sealSecret cipher nonce (Text.hex bytes.toList) = .ok enc) :
      CallEffect cipher store rows log (.issue now bytes nonce deviceId name ttlSecs)
        (renew (issuedRow now deviceId name ttlSecs enc) rows)
        (log ++ [.issued deviceId (Text.hex bytes.toList) (now + ttlSecs)])
  | marked {deviceId revoked} : CallEffect cipher store rows log (.setRevoked deviceId revoked)
      (rows.map (markRow deviceId revoked)) (log ++ [.marked deviceId revoked])
  | removed {deviceId : String} : CallEffect cipher store rows log (.remove deviceId)
      (rows.filter fun row => row.deviceId ≠ deviceId) (log ++ [.removed deviceId])

theorem rel_map {α β γ δ : Type} {related : α → β → Prop} {changed : γ → δ → Prop} {left right first second}
    (rel : Option.Rel related first second)
    (keeps : ∀ value other, first = some value → related value other → changed (left value) (right other)) :
    Option.Rel changed (first.map left) (second.map right) := by
  cases rel with
  | some both => exact .some (keeps _ _ rfl both)
  | none => exact .none

theorem CallEffect.other {log told later}
    (call : CallEffect cipher store rows log command later told) (apart : command.deviceId ≠ deviceId) :
    credential deviceId told = credential deviceId log := by
  cases call with
  | failed => rfl
  | issued => exact credential_other (.issued _ _ _) apart
  | marked => exact credential_other (.marked _ _) apart
  | removed => exact credential_other (.removed _) apart

section Calls
variable {log : List Told} (reflects : Reflects cipher store rows log)
include reflects

theorem Reflects.issue {now ttlSecs : Nat} {bytes : Vector UInt8 32} {nonce : Vector UInt8 12} {name : String}
    {enc : Bytes} (closed : store.sealSecret cipher nonce (Text.hex bytes.toList) = .ok enc)
    (fits : now + ttlSecs < UInt64.size) :
    Reflects cipher store (renew (issuedRow now deviceId name ttlSecs enc) rows)
      (log ++ [.issued deviceId (Text.hex bytes.toList) (now + ttlSecs)]) := by
  have opens := unseal_sealed closed
  refine ⟨reflects.legible.renew opens, ?_, ?_⟩
  · rw [map_deviceId_renew]
    split
    · exact reflects.unique
    next fresh =>
      rw [List.nodup_append_comm]
      exact List.nodup_cons.mpr ⟨fresh, reflects.unique⟩
  · intro other
    rw [rowOf_renew]
    split
    next own =>
      rw [credential_own (.issued deviceId _ _) own]
      exact .some ⟨opens, Nat.mod_eq_of_lt fits, rfl⟩
    next apart =>
      rw [credential_other (.issued deviceId _ _) apart]
      exact reflects.held other

theorem Reflects.mark (revoked : Bool) : Reflects cipher store (rows.map (markRow deviceId revoked))
    (log ++ [.marked deviceId revoked]) := by
  refine ⟨?_, ?_, ?_⟩
  · intro row member
    obtain ⟨old, present, rfl⟩ := List.mem_map.mp member
    obtain ⟨secret, opens⟩ := reflects.legible old present
    refine ⟨secret, ?_⟩
    rw [markRow]
    split <;> exact opens
  · have same : DeviceRecord.deviceId ∘ markRow deviceId revoked = DeviceRecord.deviceId := by
      funext row
      exact markRow_deviceId revoked
    rw [List.map_map, same]
    exact reflects.unique
  · intro other
    have held := reflects.held other
    by_cases own : deviceId = other
    · rw [rowOf_mark, credential_own (.marked _ _) own]
      refine rel_map held ?_
      intro row credential found keeps
      rw [markRow, if_pos ((rowOf_deviceId found).trans own.symm)]
      exact ⟨keeps.opens, keeps.expiry, rfl⟩
    · rw [rowOf_mark_other revoked own, credential_other (.marked _ _) own]
      exact held

theorem Reflects.remove : Reflects cipher store (rows.filter fun row => row.deviceId ≠ deviceId)
    (log ++ [.removed deviceId]) := by
  refine ⟨?_, reflects.unique.sublist (List.filter_sublist.map _), ?_⟩
  · intro row member
    exact reflects.legible row (List.mem_filter.mp member).1
  · intro other
    rw [rowOf_remove]
    split
    next own =>
      rw [credential_own (.removed _) own]
      exact .none
    next apart =>
      rw [credential_other (.removed _) apart]
      exact reflects.held other

theorem Reflects.call {told : List Told} {later : List DeviceRecord} (fits : expires ledger command = true)
    (call : CallEffect cipher store rows log command later told) : Reflects cipher store later told := by
  cases call with
  | failed => exact reflects
  | issued closed => exact reflects.issue closed (of_decide_eq_true fits)
  | marked => exact reflects.mark _
  | removed => exact reflects.remove

end Calls

theorem after_file {α : Type} (event : α → Told) (result : Except VynkorError α × DeviceFile) :
    (ledger.after event result).file = result.2 := by
  obtain ⟨outcome, file⟩ := result
  cases outcome <;> rfl

/-- The file goes through the commands as it does without the log. -/
theorem ledger_file (step : ledger.step cipher store command = some next) :
    store.step cipher ledger.file (command, .ok ()) = some next.file := by
  cases command with
  | issue | setRevoked | remove =>
    obtain rfl := Option.some.inj step
    rw [after_file]
    rfl

end Refinement

section Gate
variable {deviceId secret : String} {now : Nat} {log : List Told} {held : Credential}

theorem gate_ok : Credential.gate deviceId now (some held) = .ok (some secret) ↔
    held.secret = secret ∧ held.revoked = false ∧ now < held.expiry := by
  rw [Credential.gate]
  cases held.revoked with
  | true => simp
  | false =>
    by_cases expired : held.expiry ≤ now
    · simp [expired]
    · simp [expired, Nat.lt_of_not_le expired]

theorem gate_error : (∃ error, Credential.gate deviceId now (some held) = .error error) ↔
    held.revoked = true ∨ held.expiry ≤ now := by
  rw [Credential.gate]
  cases held.revoked with
  | true => simp
  | false =>
    by_cases expired : held.expiry ≤ now
    · simp [expired]
    · simp [expired]

theorem gate_present : Credential.gate deviceId now (some held) ≠ .ok none := by
  rw [Credential.gate]
  split
  · simp
  · split <;> simp

variable {credential : Option Credential} (reads : CredentialReading log deviceId credential)
include reads

theorem CredentialReading.active : Credential.gate deviceId now credential = .ok (some secret) ↔
    ∃ expiry after, LastIssue log deviceId secret expiry after ∧ .removed deviceId ∉ after ∧
      ¬Suspended deviceId after ∧ now < expiry := by
  cases reads with
  | lacking lacking =>
    constructor
    · intro given
      cases given
    · rintro ⟨expiry, after, last, kept, _⟩
      exact absurd (lacking secret expiry after last) kept
  | @standing held after standing =>
    rw [gate_ok, ← Bool.not_eq_true, standing.revoked]
    constructor
    · rintro ⟨rfl, unrevoked, unexpired⟩
      exact ⟨held.expiry, after, standing.last, standing.kept, unrevoked, unexpired⟩
    · rintro ⟨expiry, since, last, _, unrevoked, unexpired⟩
      obtain ⟨rfl, rfl, rfl⟩ := standing.last.unique last
      exact ⟨rfl, unrevoked, unexpired⟩

theorem CredentialReading.unknown : Credential.gate deviceId now credential = .ok none ↔
    (∀ secret expiry, .issued deviceId secret expiry ∉ log) ∨
      ∃ secret expiry after, LastIssue log deviceId secret expiry after ∧ .removed deviceId ∈ after := by
  cases reads with
  | lacking lacking =>
    refine iff_of_true rfl ?_
    by_cases never : ∀ secret expiry, .issued deviceId secret expiry ∉ log
    · exact .inl never
    · push Not at never
      obtain ⟨secret, expiry, member⟩ := never
      obtain ⟨last, expires, after, found⟩ := lastIssue_exists member
      exact .inr ⟨last, expires, after, found, lacking last expires after found⟩
  | @standing held after standing =>
    refine iff_of_false gate_present ?_
    rintro (never | ⟨secret, expiry, since, last, removed⟩)
    · obtain ⟨⟨before, rfl⟩, _⟩ := standing.last
      exact never held.secret held.expiry (by simp)
    · obtain ⟨_, _, rfl⟩ := standing.last.unique last
      exact standing.kept removed

theorem CredentialReading.refused : (∃ error, Credential.gate deviceId now credential = .error error) ↔
    ∃ secret expiry after, LastIssue log deviceId secret expiry after ∧ .removed deviceId ∉ after ∧
      (Suspended deviceId after ∨ expiry ≤ now) := by
  cases reads with
  | lacking lacking =>
    refine iff_of_false ?_ ?_
    · rintro ⟨error, refused⟩
      cases refused
    · rintro ⟨secret, expiry, after, last, kept, _⟩
      exact kept (lacking secret expiry after last)
  | @standing held after standing =>
    rw [gate_error, standing.revoked]
    constructor
    · intro ended
      exact ⟨held.secret, held.expiry, after, standing.last, standing.kept, ended⟩
    · rintro ⟨secret, expiry, since, last, _, ended⟩
      obtain ⟨rfl, rfl, rfl⟩ := standing.last.unique last
      exact ended

end Gate

section Shelf
open Scenario

end Shelf
end Vynkor.Proofs
