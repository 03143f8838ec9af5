import Vynkor.ConfigFile
import Vynkor.Startup

/-! Which numbers of a configuration make the kernel panic. Loading corrects a queue
without a place, but neither a prune interval of zero nor times too long to add. -/

namespace Vynkor.Proofs
open Config

section Numbers
variable {yaml : Yaml} {content : Except String String} {dir : Listing} {config : Config}

theorem clamp_pos {value default : Nat} (positive : 0 < default) : 0 < clamp value default := by
  rw [clamp]
  split
  · exact positive
  next given => exact Nat.pos_of_ne_zero given

theorem loadConfig_clamped (loaded : loadConfig yaml content dir = .ok config) :
    ∃ merged : Config, config = merged.clampInvalidNumerics := by
  simp only [loadConfig, bind, Except.bind] at loaded
  split at loaded
  · cases loaded
  next text _ =>
    split at loaded
    · cases loaded
    next inline _ =>
      split at loaded
      · cases loaded
      next merged _ =>
        cases loaded
        exact ⟨merged, rfl⟩

theorem routerQueue_isSome (loaded : loadConfig yaml content dir = .ok config) : config.routerQueue.isSome = true := by
  obtain ⟨merged, rfl⟩ := loadConfig_clamped loaded
  have places : 0 < merged.clampInvalidNumerics.routerChannelCapacity := clamp_pos (by decide)
  rw [routerQueue, mpscChannel, Option.isSome_ite']
  exact places.ne'

theorem pruneInterval_isSome : config.pruneInterval.isSome = true ↔ 0 < config.pruneIntervalSecs := by
  rw [pruneInterval, tokioInterval, Option.isSome_ite', fromSecs]
  omega

theorem watchdogDeadline_isSome :
    config.watchdogDeadline.isSome = true ↔ config.watchdogIntervalSecs + config.watchdogTimeoutSecs < UInt64.size := by
  rw [watchdogDeadline, addDurations, Option.isSome_ite, fromSecs, fromSecs, fromSecs, ← Nat.add_mul]
  exact Nat.mul_lt_mul_right (by decide)

theorem registerDeadline_isSome {now : Nat} : (config.registerDeadline now).isSome = true ↔
    (config.jwtSecret.isSome = true → 0 < config.wsRegisterTimeoutSecs →
      now + fromSecs config.wsRegisterTimeoutSecs < fromSecs instantSecs) := by
  cases secret : config.jwtSecret with
  | none => simp [registerDeadline, socketDeadline, registerTimeout, jwtValidator, secret]
  | some key =>
    have timed : config.registerTimeout = config.wsRegisterTimeoutSecs := by
      simp [registerTimeout, jwtValidator, secret]
    rw [registerDeadline, timed, socketDeadline, addToInstant]
    split
    next waits => simp [waits]
    next never => simp [never]

end Numbers

/-- Exactly when nothing panics. -/
theorem startup_numbers (yaml : Yaml) (content : Except String String) (dir : Listing) (config : Config)
    (loaded : loadConfig yaml content dir = .ok config) (now : Nat) :
    (config.routerQueue.isSome = true ∧ config.pruneInterval.isSome = true ∧ config.watchdogDeadline.isSome = true ∧
      (config.registerDeadline now).isSome = true) ↔
    0 < config.pruneIntervalSecs ∧ config.watchdogIntervalSecs + config.watchdogTimeoutSecs < UInt64.size ∧
      (config.jwtSecret.isSome = true → 0 < config.wsRegisterTimeoutSecs →
        now + fromSecs config.wsRegisterTimeoutSecs < fromSecs instantSecs) := by
  rw [pruneInterval_isSome, watchdogDeadline_isSome, registerDeadline_isSome]
  exact and_iff_right (routerQueue_isSome loaded)

def configured (config : Config) : Yaml where
  config _ := .ok config
  pluginDef _ := .error "no plugin"

def hubSecret : String := "a secret of the hub with 32 bytes"

def guarded : Config := { jwtSecret := some hubSecret, pruneIntervalSecs := 5 }

theorem startup_numbers_guarded : loadConfig (configured guarded) (.ok "") none = .ok guarded ∧
    guarded.watchdogDeadline = some 40000000000 ∧ (guarded.registerDeadline 7).isSome = true := by
  have loaded : loadConfig (configured guarded) (.ok "") none = .ok guarded := rfl
  have started := (startup_numbers (configured guarded) (.ok "") none guarded loaded 7).mpr (by decide)
  exact ⟨loaded, by decide +kernel, started.2.2.2⟩

def unpruned : Config := { pruneIntervalSecs := 0 }

def unwatched : Config := { watchdogIntervalSecs := UInt64.size - 1 }

def unhurried : Config := { jwtSecret := some hubSecret, wsRegisterTimeoutSecs := UInt64.size - 1 }

/-- Each of the three loads, and panics in another place. -/
theorem extreme_numbers_panic :
    (loadConfig (configured unpruned) (.ok "") none = .ok unpruned ∧ unpruned.pruneInterval = none) ∧
    (loadConfig (configured unwatched) (.ok "") none = .ok unwatched ∧ unwatched.watchdogDeadline = none) ∧
    (loadConfig (configured unhurried) (.ok "") none = .ok unhurried ∧ unhurried.registerDeadline 0 = none) :=
  ⟨⟨rfl, by decide⟩, ⟨rfl, by decide⟩, ⟨rfl, by decide⟩⟩

end Vynkor.Proofs
