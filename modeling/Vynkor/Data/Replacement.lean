import Mathlib.Data.List.Nodup
import Vynkor.Data.Execution

/-! A file that several processes rewrite as a whole. Each reads it, works out new
contents on its own, writes them to the one temporary file and renames that onto the
file. -/

namespace Replacement
open Execution
variable {κ σ ε α : Type}

/-- What an operation makes of the contents it has read. -/
inductive Draft (σ ε α : Type) where
  | failed (error : ε)
  | keep (value : α)
  | write (contents : σ) (value : α)
  deriving DecidableEq

/-- How far an operation has come. -/
inductive Phase (σ ε α : Type) where
  | ready
  | drafted (seen contents : σ) (value : α)
  | written (seen contents : σ) (value : α)
  | returned (outcome : Except ε α)
  deriving DecidableEq

/-- The file, the temporary file and one operation of each process. -/
structure Files (κ σ ε α : Type) where
  file : σ
  temporary : Option σ := none
  phase : κ → Phase σ ε α := fun _ => .ready

inductive Action (κ : Type) where
  | read (who : κ)
  | write (who : κ)
  | rename (who : κ)

section Steps
variable [DecidableEq κ] (draft : κ → σ → Draft σ ε α) (missing : ε) (files : Files κ σ ε α)

def Files.setPhase (who : κ) (phase : Phase σ ε α) : Files κ σ ε α :=
  { files with phase := fun other => if other = who then phase else files.phase other }

/-- Reads the file and works out what to write, if anything. -/
def Files.read (who : κ) : Option (Files κ σ ε α) :=
  match files.phase who with
  | .ready => some (files.setPhase who
      (match draft who files.file with
      | .failed error => .returned (.error error)
      | .keep value => .returned (.ok value)
      | .write contents value => .drafted files.file contents value))
  | _ => none

def Files.write (who : κ) : Option (Files κ σ ε α) :=
  match files.phase who with
  | .drafted seen contents value =>
    some ({ files with temporary := some contents }.setPhase who (.written seen contents value))
  | _ => none

/-- Fails if another process has renamed the temporary file away. -/
def Files.rename (who : κ) : Option (Files κ σ ε α) :=
  match files.phase who with
  | .written _ _ value =>
    match files.temporary with
    | some contents =>
      some ({ files with file := contents, temporary := none }.setPhase who (.returned (.ok value)))
    | none => some (files.setPhase who (.returned (.error missing)))
  | _ => none

def step : Action κ → Option (Files κ σ ε α)
  | .read who => files.read draft who
  | .write who => files.write who
  | .rename who => files.rename missing who

end Steps

/-- At every rename the file is as the process has read it, and the temporary file as
the process has written it. -/
def undisturbed [DecidableEq σ] (files : Files κ σ ε α) : Action κ → Bool
  | .rename who =>
    match files.phase who with
    | .written seen contents _ => files.file = seen ∧ files.temporary = some contents
    | _ => true
  | _ => true

/-- The contents and the value after an operation that no other one interrupts. -/
def Draft.result (seen : σ) : Draft σ ε α → Except ε (σ × α)
  | .failed error => .error error
  | .keep value => .ok (seen, value)
  | .write contents value => .ok (contents, value)

/-- Operations one after the other, each on what the last has left, with their values. -/
inductive Sequence (draft : κ → σ → Draft σ ε α) (start : σ) : List (κ × α) → σ → Prop where
  | nil : Sequence draft start [] start
  | snoc {order : List (κ × α)} {contents next : σ} {who : κ} {value : α}
      (earlier : Sequence draft start order contents)
      (result : (draft who contents).result contents = .ok (next, value)) :
      Sequence draft start (order ++ [(who, value)]) next

/-- The operations that have returned a value, in the order in which they took effect. -/
structure Serial (draft : κ → σ → Draft σ ε α) (start : σ) (order : List (κ × α)) (files : Files κ σ ε α) : Prop where
  once : (order.map Prod.fst).Nodup
  returned : ∀ who value, (who, value) ∈ order ↔ files.phase who = .returned (.ok value)
  file : Sequence draft start order files.file
  drafted : ∀ who seen contents value, files.phase who = .drafted seen contents value ∨
    files.phase who = .written seen contents value → draft who seen = .write contents value

section Serial
variable {draft : κ → σ → Draft σ ε α} {missing : ε} {files next : Files κ σ ε α} {start contents : σ}
  {order : List (κ × α)} {who : κ} {value : α}

theorem serial_start (draft : κ → σ → Draft σ ε α) (start : σ) : Serial draft start [] { file := start } where
  once := List.nodup_nil
  returned := by simp
  file := .nil
  drafted := by simp

theorem sequence_snoc (sequence : Sequence draft start (order ++ [(who, value)]) contents) :
    ∃ earlier, Sequence draft start order earlier ∧ (draft who earlier).result earlier = .ok (contents, value) := by
  generalize whole : order ++ [(who, value)] = longer at sequence
  cases sequence with
  | nil => simp at whole
  | snoc earlier result =>
    obtain ⟨rfl, last⟩ := List.append_inj' whole rfl
    cases last
    exact ⟨_, earlier, result⟩

theorem sequence_nil (sequence : Sequence draft start [] contents) : contents = start := by
  generalize empty : ([] : List (κ × α)) = order at sequence
  cases sequence with
  | nil => rfl
  | snoc => simp at empty

theorem sequence_pair {second : κ} {last : α}
    (sequence : Sequence draft start [(who, value), (second, last)] contents) :
    ∃ middle, (draft who start).result start = .ok (middle, value) ∧
      (draft second middle).result middle = .ok (contents, last) := by
  have split : Sequence draft start ([(who, value)] ++ [(second, last)]) contents := sequence
  obtain ⟨middle, earlier, result⟩ := sequence_snoc split
  have alone : Sequence draft start ([] ++ [(who, value)]) middle := earlier
  obtain ⟨initial, empty, found⟩ := sequence_snoc alone
  obtain rfl := sequence_nil empty
  exact ⟨middle, found, result⟩

variable [DecidableEq κ]

theorem setPhase_phase (phase : Phase σ ε α) (other : κ) :
    (files.setPhase who phase).phase other = if other = who then phase else files.phase other := rfl

section
variable (serial : Serial draft start order files)
include serial

theorem Serial.advance {phase : Phase σ ε α} {temporary : Option σ}
    (before : ∀ value, files.phase who ≠ .returned (.ok value)) (after : ∀ value, phase ≠ .returned (.ok value))
    (works : ∀ seen contents value, phase = .drafted seen contents value ∨ phase = .written seen contents value →
      draft who seen = .write contents value) :
    Serial draft start order ({ files with temporary }.setPhase who phase) := by
  refine ⟨serial.once, ?_, serial.file, ?_⟩
  · intro other value
    rw [serial.returned, setPhase_phase]
    split
    next same =>
      subst same
      simp [before, after]
    · rfl
  · intro other seen contents value held
    rw [setPhase_phase] at held
    split at held
    next same =>
      subst same
      exact works seen contents value held
    · exact serial.drafted other seen contents value held

theorem Serial.finish (temporary : Option σ) (before : ∀ value, files.phase who ≠ .returned (.ok value))
    (file : Sequence draft start (order ++ [(who, value)]) contents) : Serial draft start (order ++ [(who, value)])
      ({ files with file := contents, temporary }.setPhase who (.returned (.ok value))) := by
  have unlisted : ∀ value, (who, value) ∉ order := by
    intro value listed
    exact before value ((serial.returned who value).mp listed)
  refine ⟨?_, ?_, file, ?_⟩
  · rw [List.map_append]
    apply List.nodup_append_comm.mp
    refine List.nodup_cons.mpr ⟨?_, serial.once⟩
    intro listed
    obtain ⟨⟨other, value⟩, member, rfl⟩ := List.mem_map.mp listed
    exact unlisted value member
  · intro other result
    rw [List.mem_append, List.mem_singleton, setPhase_phase]
    split
    next same =>
      subst same
      simp [unlisted, eq_comm]
    next different => simp [different, serial.returned]
  · intro other seen contents value held
    rw [setPhase_phase] at held
    split at held
    · simp at held
    · exact serial.drafted other seen contents value held

theorem Serial.read (stepped : files.read draft who = some next) : ∃ order, Serial draft start order next := by
  simp only [Files.read] at stepped
  split at stepped
  next ready =>
    cases stepped
    have before : ∀ value, files.phase who ≠ .returned (.ok value) := by simp [ready]
    cases drafts : draft who files.file with
    | failed error => exact ⟨order, serial.advance before (by simp) (by simp)⟩
    | keep value => exact ⟨_, serial.finish files.temporary before (serial.file.snoc (by rw [drafts]; rfl))⟩
    | write contents value =>
      refine ⟨order, serial.advance before (by simp) ?_⟩
      rintro seen contents value (held | held)
      · cases held
        exact drafts
      · cases held
  · cases stepped

theorem Serial.write (stepped : files.write who = some next) : Serial draft start order next := by
  simp only [Files.write] at stepped
  split at stepped
  next seen contents value drafted =>
    cases stepped
    refine serial.advance (by simp [drafted]) (by simp) ?_
    rintro _ _ _ (held | held)
    · cases held
    · cases held
      exact serial.drafted who seen contents value (.inl drafted)
  · cases stepped

end

variable [DecidableEq σ]

theorem Serial.rename (serial : Serial draft start order files) (allowed : undisturbed files (.rename who) = true)
    (stepped : files.rename missing who = some next) : ∃ order, Serial draft start order next := by
  simp only [Files.rename] at stepped
  split at stepped
  next seen contents value written =>
    simp only [undisturbed, written, Bool.decide_and, Bool.and_eq_true, decide_eq_true_eq] at allowed
    obtain ⟨unchanged, own⟩ := allowed
    simp only [own] at stepped
    cases stepped
    have before : ∀ value, files.phase who ≠ .returned (.ok value) := by simp [written]
    have drafts := serial.drafted who seen contents value (.inr written)
    rw [← unchanged] at drafts
    exact ⟨_, serial.finish none before (serial.file.snoc (by rw [drafts]; rfl))⟩
  · cases stepped

/-- Operations that do not disturb each other take effect one after the other. -/
theorem serial_run (run : Run (step draft missing) undisturbed { file := start } files) :
    ∃ order, Serial draft start order files := by
  apply run.preserves ⟨[], serial_start draft start⟩
  intro files action next allowed stepped held
  obtain ⟨order, serial⟩ := held
  cases action with
  | read who => exact serial.read stepped
  | write who => exact ⟨order, serial.write stepped⟩
  | rename who => exact serial.rename allowed stepped

end Serial
end Replacement
