import Vynkor.Proofs.Instances

/-! Chains of instances, from a start to respawn after respawn, with the restart count
that each instance was registered with. -/

namespace Vynkor.Proofs
open DashMap Execution Supervisor
variable {state next : PluginSupervisor} {action : Action}

/-- An instance as it was registered. Its parent is the instance after whose exit it
was respawned, with whether that was by a manual restart. -/
structure Instance where
  epoch : Nat
  config : PluginConfig
  restartCount : UInt32
  parent : Option (Nat × Bool)
  deriving DecidableEq

/-- The supervisor beside all instances that it has ever registered. -/
structure Family where
  state : PluginSupervisor := {}
  born : List Instance := []

def parentOf (state : PluginSupervisor) : Task → Option (Nat × Bool)
  | .monitor => (lastDecision state.history).map Prod.snd
  | .call _ => none

def bornBy (state : PluginSupervisor) : Action → List Instance
  | .insertEntry task =>
    match state.spawns.get task with
    | some spawn =>
      spawn.created.toList.map fun epoch => ⟨epoch, spawn.config, spawn.restartCount, parentOf state task⟩
    | none => []
  | _ => []

def Family.step (family : Family) (action : Action) : Option Family :=
  (family.state.step action).map fun next => ⟨next, family.born ++ bornBy family.state action⟩

/-- A start, followed by respawns that replace the instance before; the newest first. -/
inductive Chain (born : List Instance) : List Instance → Prop where
  | start {first} (member : first ∈ born) (called : first.parent = none) : Chain born [first]
  | respawn {last next older forced} (chain : Chain born (last :: older))
      (member : next ∈ born) (after : next.parent = some (last.epoch, forced)) : Chain born (next :: last :: older)

def byPolicy (member : Instance) : Bool := member.parent.any fun parent => !parent.2

/-- The restart count grows by one from each instance of the chain to the next, and the
policy has respawned no more often than it may. -/
structure Counted (chain : List Instance) : Prop where
  grows : ∀ newer next last older, chain = newer ++ next :: last :: older →
    next.restartCount.toNat = last.restartCount.toNat + 1
  bounded : ∀ member ∈ chain, chain.countP byPolicy ≤ member.config.maxRestarts.toNat
  never : ∀ member ∈ chain, member.config.restartPolicy = .never → chain.countP byPolicy = 0

/-- When the monitor decides on an exit, no other instance has been registered in the
meantime, and the count can still grow. -/
def decidesOnOwn (family : Family) : Action → Bool
  | .decision =>
    match family.state.monitor with
    | .unstopped event _ => (family.state.entries.get event.pluginId).all fun entry =>
        entry.epoch == event.epoch && entry.restartCount.toNat + 1 < UInt32.size
    | _ => true
  | _ => true

/-- A respawn with this configuration and count may follow the instance. -/
structure Follows (last : Instance) (config : PluginConfig) (count : UInt32) (forced : Bool) : Prop where
  config : config = last.config
  count : count.toNat = last.restartCount.toNat + 1
  allowed : forced = false → last.config.restartPolicy ≠ .never ∧ last.restartCount < last.config.maxRestarts

/-- The respawn that the monitor is about to make follows the instance that it decided on. -/
def Prepared (family : Family) (config : PluginConfig) (count : UInt32) : Prop :=
  ∃ id last forced, last ∈ family.born ∧ lastDecision family.state.history = some (id, last.epoch, forced) ∧
    Follows last config count forced

structure Lineal (family : Family) : Prop where
  unique : ∀ first ∈ family.born, ∀ second ∈ family.born, first.epoch = second.epoch → first = second
  watched : ∀ member ∈ family.born, ∃ id, owner family.state.processes member.epoch = some (id, true)
  entries : ∀ id entry, family.state.entries.get id = some entry → ∃ member ∈ family.born,
    member.epoch = entry.epoch ∧ member.config = entry.config ∧ member.restartCount = entry.restartCount
  links : ∀ next ∈ family.born, ∀ epoch forced, next.parent = some (epoch, forced) →
    ∃ last ∈ family.born, last.epoch = epoch ∧ Follows last next.config next.restartCount forced
  roots : ∀ first ∈ family.born, first.parent = none → first.restartCount = 0
  calls : ∀ number spawn, family.state.spawns.get (.call number) = some spawn → spawn.restartCount = 0
  decided : ∀ event config count, family.state.monitor = .sleeping event config count → Prepared family config count
  respawning : ∀ spawn, family.state.spawns.get .monitor = some spawn →
    Prepared family spawn.config spawn.restartCount

section Chains
variable {born : List Instance} {chain : List Instance} {family : Family}

/-- What holds of a chain with its newest instance in front. -/
structure SoundChain (head : Instance) (older : List Instance) : Prop where
  length : head.restartCount.toNat = older.length
  configs : ∀ member ∈ older, member.config = head.config
  fewer : (head :: older).countP byPolicy ≤ older.length
  bounded : (head :: older).countP byPolicy ≤ head.config.maxRestarts.toNat
  never : head.config.restartPolicy = .never → (head :: older).countP byPolicy = 0

theorem SoundChain.respawn {head next older forced} (sound : SoundChain head older)
    (follows : Follows head next.config next.restartCount forced) (after : next.parent = some (head.epoch, forced)) :
    SoundChain next (head :: older) := by
  have policy : byPolicy next = !forced := by simp [byPolicy, after]
  refine ⟨?_, ?_, ?_, ?_, ?_⟩
  · rw [follows.count, sound.length, List.length_cons]
  · intro member inside
    rw [follows.config]
    rcases List.mem_cons.mp inside with rfl | earlier
    · rfl
    · exact sound.configs member earlier
  · have step : List.countP byPolicy (next :: head :: older) ≤ (head :: older).countP byPolicy + 1 := by
      rw [List.countP_cons]
      split <;> omega
    have fewer := sound.fewer
    rw [List.length_cons]
    omega
  · rw [follows.config, List.countP_cons, policy]
    cases forced with
    | true => simpa using sound.bounded
    | false =>
      have below := UInt32.lt_iff_toNat_lt.mp (follows.allowed rfl).2
      rw [sound.length] at below
      have fewer := sound.fewer
      simp only [Bool.not_false, if_true]
      omega
  · intro never
    rw [follows.config] at never
    rw [List.countP_cons, policy]
    cases forced with
    | true => simpa using sound.never never
    | false => exact absurd never (follows.allowed rfl).1

theorem Chain.sound (lineal : Lineal family) (made : Chain family.born chain) :
    ∃ head older, chain = head :: older ∧ head ∈ family.born ∧ SoundChain head older := by
  induction made with
  | @start first member called =>
    have zero := lineal.roots first member called
    exact ⟨first, [], rfl, member, by simp [zero], by simp, by simp [byPolicy, called], by simp [byPolicy, called],
      by simp [byPolicy, called]⟩
  | @respawn last next older forced chain member after ih =>
    obtain ⟨_, _, same, known, sound⟩ := ih
    cases same
    obtain ⟨parent, present, own, follows⟩ := lineal.links next member _ _ after
    cases lineal.unique parent present last known own
    exact ⟨next, last :: older, rfl, member, sound.respawn follows after⟩

theorem Chain.suffix (newer : List Instance) {rest} (made : Chain born (newer ++ rest)) (some : rest ≠ []) :
    Chain born rest := by
  induction newer with
  | nil => exact made
  | cons first newer ih =>
    apply ih
    rw [List.cons_append] at made
    generalize shorter : newer ++ rest = tail at made
    cases made with
    | start => simp [some] at shorter
    | respawn chain => exact chain

theorem Chain.counted (lineal : Lineal family) (made : Chain family.born chain) : Counted chain := by
  obtain ⟨head, older, rfl, _, sound⟩ := made.sound lineal
  have same : ∀ member ∈ head :: older, member.config = head.config := by
    intro member inside
    rcases List.mem_cons.mp inside with rfl | earlier
    · rfl
    · exact sound.configs member earlier
  refine ⟨?_, ?_, ?_⟩
  · intro newer next last rest split
    rw [split] at made
    obtain ⟨_, _, same, _, whole⟩ := (Chain.suffix newer made (by simp)).sound lineal
    cases same
    obtain ⟨_, _, same, _, tail⟩ := (Chain.suffix (newer ++ [next]) (by simpa using made) (by simp)).sound lineal
    cases same
    rw [whole.length, tail.length, List.length_cons]
  · intro member inside
    rw [same member inside]
    exact sound.bounded
  · intro member inside never
    rw [same member inside] at never
    exact sound.never never

end Chains

section Steps
variable {born : List Instance} {entry : PluginEntry} {forced : Bool}

theorem lineal_empty : Lineal {} := by
  refine ⟨?_, ?_, ?_, ?_, ?_, ?_, ?_, ?_⟩
  · intro _ member
    cases member
  · intro _ member
    cases member
  · intro _ _ held
    cases held
  · intro _ member
    cases member
  · intro _ member
    cases member
  · intro _ _ job
    cases job
  · intro _ _ _ sleeps
    cases sleeps
  · intro _ job
    cases job

section
variable (lineal : Lineal ⟨state, born⟩)
  (owners : ∀ epoch id, owner state.processes epoch = some (id, true) → owner next.processes epoch = some (id, true))
  (entries : ∀ id entry, next.entries.get id = some entry → state.entries.get id = some entry)
  (calls : ∀ number spawn, next.spawns.get (.call number) = some spawn → spawn.restartCount = 0)
include lineal owners entries calls

theorem Lineal.keep
    (decided : ∀ event config count, next.monitor = .sleeping event config count → Prepared ⟨next, born⟩ config count)
    (respawning : ∀ spawn, next.spawns.get .monitor = some spawn →
      Prepared ⟨next, born⟩ spawn.config spawn.restartCount) : Lineal ⟨next, born⟩ := by
  refine ⟨lineal.unique, ?_, ?_, lineal.links, lineal.roots, calls, decided, respawning⟩
  · intro member inside
    obtain ⟨id, known⟩ := lineal.watched member inside
    exact ⟨id, owners _ _ known⟩
  · intro id entry held
    exact lineal.entries id entry (entries id entry held)

theorem Lineal.aside (monitor : next.monitor = state.monitor)
    (decisions : lastDecision next.history = lastDecision state.history)
    (spawns : ∀ spawn, next.spawns.get .monitor = some spawn → ∃ same, state.spawns.get .monitor = some same ∧
      same.config = spawn.config ∧ same.restartCount = spawn.restartCount) : Lineal ⟨next, born⟩ := by
  have prepared : ∀ config count, Prepared ⟨state, born⟩ config count → Prepared ⟨next, born⟩ config count := by
    intro config count
    rw [Prepared, Prepared, decisions]
    exact fun prepared => prepared
  refine lineal.keep owners entries calls ?_ ?_
  · intro event config count sleeps
    exact prepared config count (lineal.decided event config count (monitor ▸ sleeps))
  · intro spawn job
    obtain ⟨same, earlier, config, count⟩ := spawns spawn job
    rw [← config, ← count]
    exact prepared _ _ (lineal.respawning same earlier)

end

theorem Lineal.turn (tracked : Tracked state) (lineal : Lineal ⟨state, born⟩)
    (busy : state.monitor ≠ .respawning) (processes : next.processes = state.processes)
    (entries : ∀ id entry, next.entries.get id = some entry → state.entries.get id = some entry)
    (spawns : next.spawns = state.spawns)
    (decided : ∀ event config count, next.monitor = .sleeping event config count → Prepared ⟨next, born⟩ config count) :
    Lineal ⟨next, born⟩ := by
  refine lineal.keep (fun _ _ => processes ▸ id) entries (spawns ▸ lineal.calls) decided ?_
  intro spawn job
  rw [spawns] at job
  exact absurd (tracked.respawning spawn job) busy

theorem shouldRestart_policy {success}
    (chosen : PluginSupervisor.shouldRestart entry false success = true) :
    entry.config.restartPolicy ≠ .never ∧ entry.restartCount < entry.config.maxRestarts := by
  rw [PluginSupervisor.shouldRestart, Bool.false_or] at chosen
  cases policy : entry.config.restartPolicy with
  | never => simp [policy] at chosen
  | always =>
    rw [policy] at chosen
    exact ⟨by simp, by simpa using chosen⟩
  | onFailure =>
    rw [policy] at chosen
    exact ⟨by simp, by simpa using (Bool.and_eq_true_iff.mp chosen).2⟩

theorem Lineal.restart (lineal : Lineal ⟨state, born⟩) {event : ExitEvent}
    (held : state.entries.get event.pluginId = some entry) (own : entry.epoch = event.epoch)
    (fits : entry.restartCount.toNat + 1 < UInt32.size)
    (chosen : PluginSupervisor.shouldRestart entry forced event.success = true)
    (decision : lastDecision next.history = some (event.pluginId, event.epoch, forced)) :
    Prepared ⟨next, born⟩ entry.config (entry.restartCount + 1) := by
  obtain ⟨member, inside, same, config, count⟩ := lineal.entries _ _ held
  refine ⟨event.pluginId, member, forced, inside, ?_, config.symm, ?_, ?_⟩
  · rw [decision, same, own]
  · rw [count, UInt32.toNat_add]
    exact Nat.mod_eq_of_lt fits
  · intro policy
    subst policy
    rw [config, count]
    exact shouldRestart_policy chosen

section Birth
variable {task : Task} {spawn : Spawn} {epoch : Nat}

theorem Lineal.unborn (tracked : Tracked state) (lineal : Lineal ⟨state, born⟩)
    (job : state.spawns.get task = some spawn) (made : spawn.created = some epoch) (member : Instance)
    (inside : member ∈ born) : member.epoch ≠ epoch := by
  intro same
  obtain ⟨id, known⟩ := lineal.watched member inside
  rw [same, tracked.jobs task spawn epoch job made] at known
  cases known

theorem Prepared.grow {config count} (prepared : Prepared ⟨state, born⟩ config count)
    (history : next.history = state.history) (more : List Instance) :
    Prepared ⟨next, born ++ more⟩ config count := by
  obtain ⟨id, last, forced, inside, decision, follows⟩ := prepared
  exact ⟨id, last, forced, List.mem_append_left _ inside, history ▸ decision, follows⟩

theorem Lineal.parent (lineal : Lineal ⟨state, born⟩) (job : state.spawns.get task = some spawn)
    (after : parentOf state task = some (epoch, forced)) :
    ∃ last ∈ born, last.epoch = epoch ∧ Follows last spawn.config spawn.restartCount forced := by
  cases task with
  | call number => cases after
  | monitor =>
    obtain ⟨id, last, manual, present, decision, follows⟩ := lineal.respawning spawn job
    simp only [parentOf, decision, Option.map_some, Option.some.injEq, Prod.mk.injEq] at after
    obtain ⟨rfl, rfl⟩ := after
    exact ⟨last, present, rfl, follows⟩

theorem Lineal.root (lineal : Lineal ⟨state, born⟩) (job : state.spawns.get task = some spawn)
    (called : parentOf state task = none) : spawn.restartCount = 0 := by
  cases task with
  | call number => exact lineal.calls number spawn job
  | monitor =>
    obtain ⟨id, last, manual, _, decision, _⟩ := lineal.respawning spawn job
    simp [parentOf, decision] at called

theorem Lineal.register (tracked : Tracked state) (lineal : Lineal ⟨state, born⟩)
    (job : state.spawns.get task = some spawn) (made : spawn.created = some epoch)
    (owners : ∀ other, owner next.processes other =
      if other = epoch then some (spawn.pluginId, true) else owner state.processes other)
    (entries : next.entries = state.entries.insert spawn.pluginId
      { config := spawn.config, restartCount := spawn.restartCount, epoch })
    (spawns : next.spawns = state.spawns.erase task) (history : next.history = state.history)
    (monitor : next.monitor = if task = .monitor then .idle else state.monitor) :
    Lineal ⟨next, born ++ [⟨epoch, spawn.config, spawn.restartCount, parentOf state task⟩]⟩ := by
  have unborn := lineal.unborn tracked job made
  refine ⟨?_, ?_, ?_, ?_, ?_, ?_, ?_, ?_⟩
  · intro first inFirst second inSecond same
    simp only [List.mem_append, List.mem_singleton] at inFirst inSecond
    rcases inFirst with old | rfl
    · rcases inSecond with other | rfl
      · exact lineal.unique first old second other same
      · exact absurd same (unborn first old)
    · rcases inSecond with other | rfl
      · exact absurd same.symm (unborn second other)
      · rfl
  · intro member inside
    simp only [List.mem_append, List.mem_singleton] at inside
    rw [owners]
    rcases inside with old | rfl
    · rw [if_neg (unborn member old)]
      exact lineal.watched member old
    · exact ⟨spawn.pluginId, if_pos rfl⟩
  · intro id entry held
    rw [entries, get_insert] at held
    split at held
    · cases held
      exact ⟨_, List.mem_append_right _ (List.mem_singleton.mpr rfl), rfl, rfl, rfl⟩
    · obtain ⟨member, inside, same⟩ := lineal.entries id entry held
      exact ⟨member, List.mem_append_left _ inside, same⟩
  · intro member inside parent forced after
    simp only [List.mem_append, List.mem_singleton] at inside
    rcases inside with old | rfl
    · obtain ⟨last, present, own⟩ := lineal.links member old parent forced after
      exact ⟨last, List.mem_append_left _ present, own⟩
    · obtain ⟨last, present, own⟩ := lineal.parent job after
      exact ⟨last, List.mem_append_left _ present, own⟩
  · intro first inside called
    simp only [List.mem_append, List.mem_singleton] at inside
    rcases inside with old | rfl
    · exact lineal.roots first old called
    · exact lineal.root job called
  · intro number other known
    rw [spawns] at known
    exact lineal.calls number other (get_erase_eq_some.mp known).2
  · intro event config count sleeps
    rw [monitor] at sleeps
    split at sleeps
    · cases sleeps
    · exact (lineal.decided event config count sleeps).grow history _
  · intro other known
    rw [spawns] at known
    exact (lineal.respawning other (get_erase_eq_some.mp known).2).grow history _

end Birth

theorem Lineal.release (lineal : Lineal ⟨state, born⟩) (task : Task) {released : PluginSupervisor}
    (processes : released.processes = state.processes) (entries : released.entries = state.entries)
    (spawns : released.spawns = state.spawns) (history : released.history = state.history)
    (monitor : released.monitor = state.monitor) : Lineal ⟨released.release task, born⟩ := by
  refine lineal.keep (by simp [processes]) (by simp [entries]) ?_ ?_ ?_
  · intro number other rejob
    rw [release_spawns, spawns] at rejob
    exact lineal.calls number other (get_erase_eq_some.mp rejob).2
  · intro event config count sleeps
    rw [release_monitor, monitor] at sleeps
    split at sleeps
    · cases sleeps
    · rw [Prepared, release_history, history]
      exact lineal.decided event config count sleeps
  · intro other rejob
    rw [release_spawns, spawns] at rejob
    rw [Prepared, release_history, history]
    exact lineal.respawning other (get_erase_eq_some.mp rejob).2

theorem Lineal.stays (tracked : Tracked state) (lineal : Lineal ⟨state, born⟩)
    (guarded : decidesOnOwn ⟨state, born⟩ action = true) (moves : Moves state action next)
    (other : ∀ task, action ≠ .insertEntry task) : Lineal ⟨next, born⟩ := by
  cases moves with
  | @inserted task => exact absurd rfl (other task)
  | spawnPlugin | refused | restarted | recorded | cleared | returned | flagged =>
    exact lineal.aside (fun _ _ => id) (fun _ _ => id) lineal.calls rfl (by simp [decisionOf])
      (fun spawn job => ⟨spawn, job, rfl, rfl⟩)
  | unstoppable | unrestartable =>
    exact lineal
  | stopped free held =>
    refine lineal.aside (fun _ _ => id) ?_ lineal.calls rfl (by simp [decisionOf])
      (fun spawn job => ⟨spawn, job, rfl, rfl⟩)
    intro id entry kept
    exact (get_erase_eq_some.mp kept).2
  | admitted called absent =>
    refine lineal.aside (fun _ _ => id) (fun _ _ => id) ?_ rfl rfl ?_
    · intro other spawn job
      rw [get_insert] at job
      split at job
      · cases job
        rfl
      · exact lineal.calls other spawn job
    · intro spawn job
      rw [get_insert, if_neg (by simp)] at job
      exact ⟨spawn, job, rfl, rfl⟩
  | @created task spawn job new =>
    refine lineal.aside (fun _ _ => (Moves.created job new).watched tracked) (fun _ _ => id) ?_ rfl
      (by simp [decisionOf]) ?_
    · intro number other rejob
      rw [get_insert] at rejob
      split at rejob
      next same =>
        cases rejob
        exact lineal.calls number spawn (same ▸ job)
      · exact lineal.calls number other rejob
    · intro other rejob
      rw [get_insert] at rejob
      split at rejob
      next same =>
        cases rejob
        exact ⟨spawn, same ▸ job, rfl, rfl⟩
      · exact ⟨other, rejob, rfl, rfl⟩
  | @uncreated task | @failed task => exact lineal.release task rfl rfl rfl rfl rfl
  | exited | reaped | reported =>
    exact lineal.aside (by simp) (fun _ _ => id) lineal.calls rfl (by simp [decisionOf])
      (fun spawn job => ⟨spawn, job, rfl, rfl⟩)
  | received holds | taken holds | current holds | unstopped holds | counted holds | cancelled holds | stale holds
  | stoppedBefore holds | undecided holds | givesUp holds =>
    exact lineal.turn tracked (by simp [holds]) rfl (fun _ _ => id) rfl (by simp)
  | forgotten holds =>
    refine lineal.turn tracked (by simp [holds]) rfl ?_ rfl (by simp)
    intro id entry kept
    exact (get_erase_eq_some.mp kept).2
  | @restarts event forced entry holds held chosen =>
    refine lineal.turn tracked (by simp [holds]) rfl (fun _ _ => id) rfl ?_
    intro _ _ _ sleeps
    cases sleeps
    simp only [decidesOnOwn, holds, held, Option.all_some, Bool.and_eq_true, beq_iff_eq, decide_eq_true_eq] at guarded
    exact lineal.restart held guarded.1 guarded.2 chosen (by simp [decisionOf])
  | @woken event config count holds unrecorded =>
    refine lineal.keep (fun _ _ => id) (fun _ _ => id) ?_ (by simp) ?_
    · intro number spawn job
      rw [get_insert, if_neg (by simp)] at job
      exact lineal.calls number spawn job
    · intro spawn job
      rw [get_insert, if_pos rfl] at job
      cases job
      exact lineal.decided event config count holds

theorem Lineal.moves (tracked : Tracked state) (lineal : Lineal ⟨state, born⟩)
    (guarded : decidesOnOwn ⟨state, born⟩ action = true) (moves : Moves state action next) :
    Lineal ⟨next, born ++ bornBy state action⟩ := by
  by_cases registers : ∃ task, action = .insertEntry task
  · obtain ⟨task, rfl⟩ := registers
    cases moves with
    | @inserted _ spawn epoch job made =>
      have unwatched := tracked.jobs task spawn epoch job made
      have added : bornBy state (.insertEntry task) =
          [⟨epoch, spawn.config, spawn.restartCount, parentOf state task⟩] := by
        simp [bornBy, job, made]
      rw [added]
      refine lineal.register tracked job made ?_ (release_entries _ _) (release_spawns _ _) (release_history _ _)
        (release_monitor _ _)
      intro other
      rw [release_processes, owner_watch]
      split
      next same => rw [same, unwatched, Option.map_some]
      · rfl
  · have none : bornBy state action = [] := by
      cases action with
      | insertEntry task => exact absurd ⟨task, rfl⟩ registers
      | _ => rfl
    rw [none, List.append_nil]
    exact lineal.stays tracked guarded moves (not_exists.mp registers)

end Steps

section Stale
variable {event : ExitEvent}

def byMonitor : Action → Bool
  | .create task _ | .insertEntry task | .failHandshake task _ => task = .monitor
  | .receive | .takeForced | .isCurrent | .wasStopped | .decision | .wake | .forget | .countStopped => true
  | _ => false

def notIdle (state : PluginSupervisor) (_ : Action) : Bool := state.monitor ≠ .idle

/-- The monitor ignores the exit: whatever it does next starts and registers nothing
and removes no entry. -/
structure Ignores (event : ExitEvent) (state : PluginSupervisor) : Prop where
  monitor : state.monitor = .received event ∨ (∃ forced, state.monitor = .taken event forced) ∨
    state.monitor = .idle
  harmless : ∀ action next, byMonitor action = true → state.step action = some next →
    next.entries = state.entries ∧ next.processes = state.processes ∧ next.spawns = state.spawns

/-- The exit is that of an instance which was registered and is not any more. -/
structure Outdated (event : ExitEvent) (state : PluginSupervisor) : Prop where
  tracked : Tracked state
  watched : ∃ id, owner state.processes event.epoch = some (id, true)
  absent : ∀ entry, state.entries.get event.pluginId = some entry → entry.epoch ≠ event.epoch
  monitor : state.monitor = .received event ∨ (∃ forced, state.monitor = .taken event forced) ∨
    state.monitor = .idle

theorem Outdated.absent_later (outdated : Outdated event state) (moves : Moves state action next) :
    ∀ entry, next.entries.get event.pluginId = some entry → entry.epoch ≠ event.epoch := by
  intro entry held
  obtain ⟨id, watched⟩ := outdated.watched
  cases moves with
  | @inserted task spawn epoch job made =>
    have unwatched := outdated.tracked.jobs task spawn epoch job made
    rw [release_entries, get_insert] at held
    split at held
    · cases held
      intro same
      change epoch = event.epoch at same
      rw [same, watched] at unwatched
      cases unwatched
    · exact outdated.absent entry held
  | uncreated | failed =>
    rw [release_entries] at held
    exact outdated.absent entry held
  | stopped | forgotten => exact outdated.absent entry (get_erase_eq_some.mp held).2
  | _ => exact outdated.absent entry held

theorem Outdated.moves (outdated : Outdated event state) (busy : notIdle state action = true)
    (moves : Moves state action next) : Outdated event next := by
  obtain ⟨id, watched⟩ := outdated.watched
  refine ⟨outdated.tracked.moves moves, ⟨id, moves.watched outdated.tracked watched⟩, outdated.absent_later moves, ?_⟩
  have stands := outdated.monitor
  cases moves with
  | received idle => simp [notIdle, idle] at busy
  | taken holds =>
    rw [holds] at stands
    simp only [Monitor.received.injEq, reduceCtorEq, exists_false, or_false] at stands
    exact .inr (.inl ⟨_, by rw [stands]⟩)
  | current holds held own =>
    rw [holds] at stands
    simp only [Monitor.taken.injEq, reduceCtorEq, false_or, or_false, exists_and_left] at stands
    obtain ⟨rfl, _⟩ := stands
    exact absurd own (outdated.absent _ held)
  | stale => exact .inr (.inr rfl)
  | stoppedBefore holds | unstopped holds | undecided holds | restarts holds | givesUp holds | cancelled holds
  | woken holds | forgotten holds | counted holds => simp [holds] at stands
  | uncreated | failed | inserted =>
    rw [release_monitor]
    split
    · exact .inr (.inr rfl)
    · exact stands
  | _ => exact stands

theorem Outdated.ignores (outdated : Outdated event state) : Ignores event state := by
  have stands := outdated.monitor
  have unspawned : state.spawns.get .monitor = none := by
    cases job : state.spawns.get .monitor with
    | none => rfl
    | some spawn => simp [outdated.tracked.respawning spawn job] at stands
  refine ⟨stands, ?_⟩
  intro action next own took
  cases step_moves took with
  | received | taken | current | stale | stoppedBefore | unstopped | undecided | restarts | givesUp | cancelled
  | counted =>
    exact ⟨rfl, rfl, rfl⟩
  | woken holds | forgotten holds => simp [holds] at stands
  | created job | uncreated job | inserted job | failed job =>
    rw [byMonitor, decide_eq_true_eq] at own
    rw [own, unspawned] at job
    cases job
  | _ => cases own

end Stale

/-- Along every chain of respawns the count grows by one and the policy keeps to its
limit, if the monitor decides on the instance that exited. An exit of an instance that
is not registered when the monitor takes it from the queue is ignored. -/
theorem restart_chains (family : Family) (lived : Run Family.step decidesOnOwn {} family) (start : PluginSupervisor)
    (reached : Run PluginSupervisor.step unguarded {} start) :
    (∀ chain, Chain family.born chain → Counted chain) ∧
      ∀ first event rest, start.events = event :: rest →
        (∀ entry, start.entries.get event.pluginId = some entry → entry.epoch ≠ event.epoch) →
        start.step .receive = some first → ∀ later, Run PluginSupervisor.step notIdle first later →
          Ignores event later := by
  constructor
  · intro chain made
    have valid : Tracked family.state ∧ Lineal family := by
      apply lived.preserves ⟨tracked_empty, lineal_empty⟩
      intro state action next allowed took holds
      obtain ⟨tracked, lineal⟩ := holds
      obtain ⟨after, moved, rfl⟩ := Option.map_eq_some_iff.mp took
      exact ⟨tracked.moves (step_moves moved), lineal.moves tracked allowed (step_moves moved)⟩
    exact made.counted valid.2
  · intro first event rest queue absent received later after
    have valid : Tracked start ∧ Unreaped start ∧ Reported start := by
      apply reached.preserves ⟨tracked_empty, unreaped_empty, reported_empty⟩
      intro state action next _ took holds
      obtain ⟨tracked, unreaped, reported⟩ := holds
      have moves := step_moves took
      exact ⟨tracked.moves moves, unreaped.moves moves, reported.moves tracked moves⟩
    obtain ⟨tracked, unreaped, reported⟩ := valid
    have final := reported.queued event (by rw [pending, queue]; simp)
    have taken := step_moves received
    have outdated : Outdated event first := by
      have tracked := tracked.moves taken
      cases taken with
      | received idle queued =>
        cases queue.symm.trans queued
        exact ⟨tracked, unreaped.watched final, absent, .inl rfl⟩
    apply Outdated.ignores
    apply after.preserves outdated
    intro state action next busy took outdated
    exact outdated.moves busy (step_moves took)

def respawns : List Action := [.wake, .create .monitor true, .insertEntry .monitor]

def crashLoop : List Action := starts 1 persistent ++ dies 1 ++ decides ++ respawns

def crashLoopEnd : Family := (exec Family.step decidesOnOwn {} crashLoop).get (by decide +kernel)

def firstInstance : Instance := ⟨1, persistent, 0, none⟩

def secondInstance : Instance := ⟨2, persistent, 1, some (1, false)⟩

def outrunEnd : PluginSupervisor :=
  (exec PluginSupervisor.step unguarded {} (starts 1 persistent ++ dies 1 ++ [.stopPlugin 2 "notes"])).get
    (by decide +kernel)

def outrunReceived : PluginSupervisor := (outrunEnd.step .receive).get (by decide +kernel)

theorem restart_chains_crashLoop :
    Counted [secondInstance, firstInstance] ∧ Ignores ⟨"notes", 1, false⟩ outrunReceived := by
  obtain ⟨counts, ignores⟩ := restart_chains crashLoopEnd (exec_get_run (by decide +kernel)) outrunEnd
    (exec_get_run (by decide +kernel))
  constructor
  · exact counts _ (.respawn (.start (by decide +kernel) rfl) (by decide +kernel) rfl)
  · refine ignores outrunReceived ⟨"notes", 1, false⟩ [] (by decide +kernel) ?_ (Option.some_get _).symm _ (.refl _)
    intro entry held
    cases held

/-- The monitor has found an exit to be of the registered instance. Before it decides,
that is stopped and the plugin is started anew. -/
def startedMeanwhile (config : PluginConfig) : List Action :=
  [.receive, .takeForced, .isCurrent, .wasStopped, .stopPlugin 2 "notes"] ++ starts 3 config ++ [.decision] ++ respawns

def uncountedEnd : Family :=
  (exec Family.step unguarded {} (crashLoop ++ dies 2 ++ startedMeanwhile persistent)).get (by decide +kernel)

def unwantedEnd : Family :=
  (exec Family.step unguarded {} (starts 1 { restartPolicy := .never } ++ dies 1 ++ startedMeanwhile persistent)).get
    (by decide +kernel)

/-- The respawn takes the count and the configuration of the new instance, and replaces
the old one all the same: the count does not grow, and a plugin that is never to be
restarted is. -/
theorem restart_miscounted :
    (Run Family.step unguarded {} uncountedEnd ∧
      Chain uncountedEnd.born [⟨4, persistent, 1, some (2, false)⟩, secondInstance, firstInstance]) ∧
    (Run Family.step unguarded {} unwantedEnd ∧
      Chain unwantedEnd.born [⟨3, persistent, 1, some (1, false)⟩, ⟨1, { restartPolicy := .never }, 0, none⟩]) := by
  refine ⟨⟨exec_get_run (by decide +kernel), ?_⟩, exec_get_run (by decide +kernel), ?_⟩
  · exact .respawn (.respawn (.start (by decide +kernel) rfl) (by decide +kernel) rfl) (by decide +kernel) rfl
  · exact .respawn (.start (by decide +kernel) rfl) (by decide +kernel) rfl

end Vynkor.Proofs
