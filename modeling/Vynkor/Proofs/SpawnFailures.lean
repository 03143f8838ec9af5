import Vynkor.Proofs.SupervisorSteps
import Vynkor.Spawn

/-! What a start that fails leaves behind. A shim that reports no pid is killed and its
scope removed; after every other failure the child and the scope are left as they are. In
no case does the supervisor get an entry. -/

namespace Vynkor.Proofs
open Supervisor

section Machine
variable {machine : Machine} {scope : String}

theorem get_prepare (machine : Machine) (scope : String) :
    (machine.prepare scope).scopes.get scope = some ((machine.scopes.get scope).getD []) := by
  cases found : machine.scopes.get scope with
  | some members => simp [Machine.prepare, DashMap.containsKey, found]
  | none => simp [Machine.prepare, DashMap.containsKey, found]

theorem running_prepare (machine : Machine) (scope : String) : (machine.prepare scope).running = machine.running := by
  simp only [Machine.prepare]
  split <;> rfl

theorem running_cleanup (machine : Machine) (scope : String) : (machine.cleanup scope).running = machine.running := by
  simp only [Machine.cleanup]
  split <;> rfl

theorem get_cleanup {members : List Nat} (found : machine.scopes.get scope = some members) :
    (machine.cleanup scope).scopes.get scope = none ↔ members = [] := by
  rw [Machine.cleanup, found]
  by_cases empty : members = []
  · simp [empty]
  · simp [found, empty]

end Machine

section Calls
variable {around : Surroundings} {entries : DashMap String Supervisor.PluginEntry} {nextEpoch : Nat} {machine : Machine}
  {config : LaunchConfig} {restartCount : UInt32} {replaceEpoch : Option Nat} {course : Course} {pid : Nat}

theorem failed_spawn_entries {error : VynkorError}
    (failed : (spawnInternal around entries nextEpoch machine config restartCount replaceEpoch course).result =
      .error error) :
    (spawnInternal around entries nextEpoch machine config restartCount replaceEpoch course).entries = entries := by
  simp only [spawnInternal] at failed ⊢
  split at failed
  next taken => rw [if_pos taken]
  next free =>
    rw [if_neg free]
    cases created : course.child with
    | error error => rfl
    | ok pid =>
      simp only [created] at failed ⊢
      rw [failed, recordSpawn]

theorem running_begun : (course.begun config pid machine).running = machine.running ++ course.processes pid := by
  rw [Course.begun, Course.prepared]
  cases course.scope config with
  | none => rfl
  | some scope => exact congrArg (· ++ course.processes pid) (running_prepare machine scope)

theorem get_begun {scope : String} (own : course.scope config = some scope) :
    (course.begun config pid machine).scopes.get scope =
      some ((machine.scopes.get scope).getD [] ++ if course.joined then course.processes pid else []) := by
  rw [Course.begun, Course.prepared, own, Option.elim_some]
  cases course.joined with
  | false => simpa [Machine.start] using get_prepare machine scope
  | true => simp [Machine.start, DashMap.get_update, get_prepare]

/-- The machine once the child is killed and its scope removed, if that is empty. -/
def removed (course : Course) (config : LaunchConfig) (pid : Nat) (machine : Machine) : Machine :=
  let stopped := machine.stop (course.scope config) ((course.processes pid).filter (· ∉ course.outliving))
  (course.scope config).elim stopped stopped.cleanup

/-- Only after the line of the shim does a failed call clean up. -/
theorem finish_failed {error : VynkorError} (alive : course.childId.isSome = true)
    (failed : (course.finish config pid machine).1 = .error error) :
    (∃ text, course.handshake = .line text) ∧ (course.finish config pid machine).2 = removed course config pid machine ∨
      (∀ text, course.handshake ≠ .line text) ∧ (course.finish config pid machine).2 = machine := by
  obtain ⟨id, named⟩ := Option.isSome_iff_exists.mp alive
  simp only [Course.finish, named] at failed ⊢
  by_cases sandboxed : config.sandbox = true
  · simp only [sandboxed, if_true] at failed ⊢
    cases handshake : course.handshake with
    | late | broken => exact .inr ⟨fun _ named => (by cases named), rfl⟩
    | line text =>
      simp only [handshake] at failed ⊢
      cases reported : Course.reportedPid text with
      | some pluginPid => simp [reported] at failed
      | none => exact .inl ⟨⟨text, rfl⟩, rfl⟩
  · simp [sandboxed] at failed

theorem mem_dead {process : Nat} (member : process ∈ course.processes pid) :
    process ∈ (course.processes pid).filter (· ∉ course.outliving) ↔ process ∉ course.outliving := by
  simp [member]

theorem running_removed (fresh : ∀ process ∈ course.processes pid, process ∉ machine.running) :
    (removed course config pid (course.begun config pid machine)).running = machine.running ↔
      ∀ process ∈ course.processes pid, process ∉ course.outliving := by
  have stopped : (removed course config pid (course.begun config pid machine)).running =
      (machine.running ++ course.processes pid).filter
        (· ∉ (course.processes pid).filter (· ∉ course.outliving)) := by
    rw [removed, ← running_begun]
    cases course.scope config with
    | none => rfl
    | some scope => exact running_cleanup _ scope
  have others : machine.running.filter (· ∉ (course.processes pid).filter (· ∉ course.outliving)) = machine.running := by
    rw [List.filter_eq_self]
    intro process member
    simpa using Or.inl fun started => fresh process started member
  rw [stopped, List.filter_append, others, List.append_right_eq_self, List.filter_eq_nil_iff]
  refine forall₂_congr fun process member => ?_
  rw [decide_eq_true_eq, not_not, mem_dead member]

theorem get_removed {scope : String} (own : course.scope config = some scope)
    (mortal : ∀ process ∈ course.processes pid, process ∉ course.outliving) :
    (removed course config pid (course.begun config pid machine)).scopes.get scope = none ↔
      ∀ process ∈ (machine.scopes.get scope).getD [], process ∈ course.processes pid := by
  have dead : (course.processes pid).filter (· ∉ course.outliving) = course.processes pid := by
    rw [List.filter_eq_self]
    exact fun process member => decide_eq_true (mortal process member)
  have left : ((course.begun config pid machine).stop (some scope) (course.processes pid)).scopes.get scope =
      some (((machine.scopes.get scope).getD [] ++ if course.joined then course.processes pid else []).filter
        (· ∉ course.processes pid)) := by
    simp [Machine.stop, DashMap.get_update, get_begun own]
  rw [removed, own, dead, Option.elim_some, get_cleanup left, List.filter_eq_nil_iff]
  constructor
  · intro gone process member
    simpa using gone process (List.mem_append_left _ member)
  · intro known process member
    rcases List.mem_append.mp member with old | joined
    · simpa using known process old
    · split at joined
      · simpa using joined
      · cases joined

/-- When no other task runs in between, the call takes the supervisor through the steps
of a start. -/
theorem spawnInternal_alone {supervisor : PluginSupervisor} {task : Task} (created : course.child = .ok pid)
    (passed : (replaceEpoch.isNone && supervisor.entries.containsKey config.pluginId) = false)
    (job : supervisor.spawns.get task =
      some { pluginId := config.pluginId, config := config.toPluginConfig, restartCount }) (spawned : Spawned)
    (called : spawned =
      spawnInternal around supervisor.entries supervisor.nextEpoch machine config restartCount replaceEpoch course) :
    ∃ made, supervisor.create task true = some made ∧ spawned.nextEpoch = made.nextEpoch ∧
      (∀ pluginPid, spawned.result = .ok pluginPid →
        ∃ entered, made.insertEntry task = some entered ∧ spawned.entries = entered.entries) ∧
      ∀ error, spawned.result = .error error → spawned.entries = made.entries := by
  subst called
  refine ⟨_, by simp only [PluginSupervisor.create, job]; rfl, ?_, ?_, ?_⟩
  · simp [spawnInternal, passed, created, PluginSupervisor.note]
  · intro pluginPid reported
    simp only [spawnInternal, passed, created, Bool.false_eq_true, if_false] at reported ⊢
    refine ⟨_, by simp [PluginSupervisor.insertEntry, PluginSupervisor.note]; rfl, ?_⟩
    simp [reported, recordSpawn]
  · intro error failed
    exact failed_spawn_entries failed

end Calls

/-- A start that fails once its child was created leaves the table of the supervisor as it
was. It leaves no process and no scope behind if and only if the shim got as far as a line
without a pid, or the end of its output, nothing that it has started outlives it, and no
other process was in the scope. -/
theorem unreported_pid_cleaned_up (around : Surroundings) (entries : DashMap String Supervisor.PluginEntry)
    (nextEpoch : Nat) (machine : Machine) (config : LaunchConfig) (restartCount : UInt32) (replaceEpoch : Option Nat)
    (course : Course) (pid : Nat) (error : VynkorError)
    (passed : (replaceEpoch.isNone && entries.containsKey config.pluginId) = false) (created : course.child = .ok pid)
    (alive : course.childId.isSome = true) (fresh : ∀ process ∈ course.processes pid, process ∉ machine.running)
    (spawned : Spawned)
    (called : spawned = spawnInternal around entries nextEpoch machine config restartCount replaceEpoch course)
    (failed : spawned.result = .error error) :
    spawned.entries = entries ∧
      ((spawned.machine.running = machine.running ∧
          ∀ scope, course.scope config = some scope → spawned.machine.scopes.get scope = none) ↔
        (∃ text, course.handshake = .line text) ∧ (∀ process ∈ course.processes pid, process ∉ course.outliving) ∧
          ∀ scope, course.scope config = some scope →
            ∀ process ∈ (machine.scopes.get scope).getD [], process ∈ course.processes pid) := by
  have machines : spawned.result = (course.finish config pid (course.begun config pid machine)).1 ∧
      spawned.machine = (course.finish config pid (course.begun config pid machine)).2 := by
    simp [called, spawnInternal, passed, created]
  refine ⟨by subst called; exact failed_spawn_entries failed, ?_⟩
  rw [machines.2]
  rcases finish_failed alive (machines.1.symm.trans failed) with ⟨line, cleaned⟩ | ⟨silent, kept⟩
  · rw [cleaned, running_removed fresh, and_iff_right line]
    exact and_congr_right fun mortal => forall₂_congr fun scope own => get_removed own mortal
  · rw [kept, running_begun, List.append_right_eq_self]
    exact ⟨fun none => absurd none.1 (List.cons_ne_nil _ _), fun told => absurd told.1 (not_exists.mpr silent)⟩

def cellar : Surroundings where
  socketPath := utf8 "/run/vynkor.sock"
  dataDir := none
  shimBin := utf8 "/opt/vynkor"

def sensor : LaunchConfig := { pluginId := "sensor", binaryPath := utf8 "/opt/sensor", sandbox := true }

def sensorCourse (handshake : Handshake) : Course := { child := .ok 7, handshake, childId := some 7 }

def sensorStart (handshake : Handshake) : Spawned :=
  spawnInternal cellar ∅ 0 {} sensor 0 none (sensorCourse handshake)

theorem unreported_pid_cleaned_up_sensor :
    (sensorStart (.line (some "no namespaces"))).machine.running = [] ∧
      (sensorStart (.line (some "no namespaces"))).machine.scopes.get "sensor" = none ∧
      (sensorStart (.line (some "no namespaces"))).entries = ∅ := by
  have failed : (sensorStart (.line (some "no namespaces"))).result = .error _ := rfl
  obtain ⟨entries, cleaned⟩ := unreported_pid_cleaned_up cellar ∅ 0 {} sensor 0 none
    (sensorCourse (.line (some "no namespaces"))) 7 _ (by decide +kernel) rfl rfl (by decide +kernel) _ rfl failed
  obtain ⟨running, scopes⟩ := cleaned.mpr ⟨⟨_, rfl⟩, by decide +kernel, by simp⟩
  exact ⟨running, scopes "sensor" (by decide +kernel), entries⟩

/-- The call fails with the child still running and its scope in place. -/
def leavesRunning (spawned : Spawned) : Bool :=
  !spawned.result.isOk && spawned.machine.running = [7] && spawned.machine.scopes.get "sensor" = some [7] &&
    !spawned.entries.containsKey "sensor"

/-- A shim that is late, and one whose pipe breaks. -/
theorem late_shim_left_running :
    leavesRunning (sensorStart .late) ∧ leavesRunning (sensorStart (.broken "EIO")) := by
  decide +kernel

end Vynkor.Proofs
