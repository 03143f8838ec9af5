import Vynkor.Proofs.MacHandshake

/-! What a connection's writing task sends after the acknowledgement of a
registration. An observer counts the items in the channel up to the
acknowledgement and notes the frames that are written after them. -/

namespace Vynkor.Proofs
open RouterState Execution

/-- How many items the writing task takes until it has taken the acknowledgement,
the frames it has written since, and the keys it has installed since. -/
structure Watch (β : Type) where
  ahead : Nat
  after : List (Frame β) := []
  keys : Nat := 0

section Watching
variable {β : Type} {ctx : Context β} {framing : Framing β} {limits : ConnectionLimits} {state next : Tasks β}
  {action : TaskAction β} {conn : Nat} {joining : Registering β} {key : Bytes} {watch : Watch β}
  {delivered : Bool} {first last : Tasks β × Watch β} {rest : List (Outbound β)}

/-- The observer of a connection sees the steps of its writing task. -/
def Watch.sees (watch : Watch β) (conn : Nat) (state : Tasks β) (action : TaskAction β) (next : Tasks β) : Watch β :=
  match action with
  | .write other _ =>
    if other ≠ conn then watch
    else if watch.ahead ≠ 0 then { watch with ahead := watch.ahead - 1 }
    else
      match (state.net { conn }).queue with
      | .enableMac _ :: _ => { watch with keys := watch.keys + 1 }
      | _ => { watch with
          after := watch.after ++ (next.links conn).socket.drop (state.links conn).socket.length }
  | _ => watch

def watchedStep (ctx : Context β) (framing : Framing β) (limits : ConnectionLimits) (conn : Nat)
    (pair : Tasks β × Watch β) (action : TaskAction β) : Option (Tasks β × Watch β) :=
  (pair.1.step ctx framing limits action).map fun next => (next, pair.2.sees conn pair.1 action next)

/-- Between an acknowledgement and its key no other task puts anything on that write
channel. -/
def undisturbed (ctx : Context β) (framing : Framing β) (limits : ConnectionLimits) (state : Tasks β)
    (action : TaskAction β) : Bool :=
  match state.task, state.step ctx framing limits action with
  | .acknowledged joining, some next =>
    match next.task with
    | .acknowledged _ => (Mailboxes.added state.net next.net joining.msg.writeTx).isEmpty
    | _ => true
  | _, _ => true

/-- The frame carries a tag that was computed under the key. -/
def Secured (framing : Framing β) (key : Bytes) (frame : Frame β) : Prop :=
  frame.flags &&& flagMacPresent ≠ 0 ∧ ∃ plain, frame = framing.tagged (some key) plain

theorem or_and_self_right (flags flag : UInt16) : (flags ||| flag) &&& flag = flag := by
  apply UInt16.toBitVec_inj.mp
  ext bit
  simp
  intro set
  exact .inr set

theorem tagged_secured (framing : Framing β) (key : Bytes) (frame : Frame β) :
    Secured framing key (framing.tagged (some key) frame) := by
  refine ⟨?_, frame, rfl⟩
  show (frame.flags ||| flagMacPresent) &&& flagMacPresent ≠ 0
  rw [or_and_self_right]
  decide

/-- How far the key of the registration has come: not queued yet, with nothing behind
the acknowledgement; queued right behind it; in use; or replaced by the key of a later
registration. -/
inductive Phase (framing : Framing β) (conn : Nat) (joining : Registering β) (key : Bytes) (state : Tasks β)
    (watch : Watch β) : Prop where
  | finished (isOver : Over state conn) (secured : ∀ frame ∈ watch.after, Secured framing key frame)
  | waiting (task : state.task = .acknowledged joining)
      (ahead : (state.net { conn }).queue.length = watch.ahead) (silent : watch.after = []) (keys : watch.keys = 0)
  | queued {front back} (queue : (state.net { conn }).queue = front ++ .enableMac key :: back)
      (ahead : front.length = watch.ahead) (silent : watch.after = []) (keys : watch.keys = 0)
  | inUse (ahead : watch.ahead = 0) (keys : watch.keys = 1) (armed : (state.links conn).key = some key)
      (secured : ∀ frame ∈ watch.after, Secured framing key frame)
  | replaced (keys : 2 ≤ watch.keys)

theorem Phase.secured (phase : Phase framing conn joining key state watch) (current : watch.keys ≤ 1) :
    ∀ frame ∈ watch.after, Secured framing key frame := by
  cases phase with
  | finished _ secured => exact secured
  | waiting _ _ silent _ => simp [silent]
  | queued _ _ silent _ => simp [silent]
  | inUse _ _ _ secured => exact secured
  | replaced keys => omega

theorem Watch.sees_other (other : ∀ delivered, action ≠ .write conn delivered) :
    watch.sees conn state action next = watch := by
  cases action with
  | write away delivered =>
    have different : away ≠ conn := by
      intro same
      subst same
      exact other delivered rfl
    simp [Watch.sees, different]
  | _ => rfl

theorem Watch.keys_le (watch : Watch β) (conn : Nat) (state : Tasks β) (action : TaskAction β) (next : Tasks β) :
    watch.keys ≤ (watch.sees conn state action next).keys := by
  simp only [Watch.sees]
  split
  · split
    · exact Nat.le_refl _
    · split
      · exact Nat.le_refl _
      · split
        · exact Nat.le_succ _
        · exact Nat.le_refl _
  · exact Nat.le_refl _

theorem Watch.sees_ahead {count} (ahead : watch.ahead = count + 1) :
    watch.sees conn state (.write conn delivered) next = { watch with ahead := count } := by
  simp [Watch.sees, ahead]

theorem Watch.sees_key {found} (ahead : watch.ahead = 0)
    (queue : (state.net { conn }).queue = .enableMac found :: rest) :
    watch.sees conn state (.write conn delivered) next = { watch with keys := watch.keys + 1 } := by
  simp [Watch.sees, ahead, queue]

theorem Watch.sees_frame {frame} (ahead : watch.ahead = 0)
    (queue : (state.net { conn }).queue = .frame frame :: rest) :
    watch.sees conn state (.write conn delivered) next =
      { watch with after := watch.after ++ (next.links conn).socket.drop (state.links conn).socket.length } := by
  simp [Watch.sees, ahead, queue]

theorem Watch.sees_after_silent (socket : (next.links conn).socket = (state.links conn).socket) :
    (watch.sees conn state (.write conn delivered) next).after = watch.after := by
  simp only [Watch.sees]
  split
  · rfl
  · split
    · rfl
    · split
      · rfl
      · simp [socket]

section
variable (took : state.write framing conn delivered = some next)
include took

theorem write_goesOn : Over next conn ∧ (next.links conn).socket = (state.links conn).socket ∨
    ∃ item, (state.net { conn }).queue = item :: (next.net { conn }).queue := by
  cases write_pops took with
  | finished isOver socket => exact .inl ⟨isOver, socket⟩
  | installed popped _ _ | written popped _ _ | skipped popped _ _ => exact .inr ⟨_, popped⟩

theorem phase_pop_front {item front back}
    (queue : (state.net { conn }).queue = item :: (front ++ .enableMac key :: back))
    (ahead : front.length + 1 = watch.ahead) (silent : watch.after = []) (keys : watch.keys = 0) :
    Phase framing conn joining key next (watch.sees conn state (.write conn delivered) next) := by
  rw [Watch.sees_ahead ahead.symm]
  rcases write_goesOn took with ⟨isOver, _⟩ | ⟨_, popped⟩
  · exact .finished isOver (by simp [silent])
  · rw [queue] at popped
    exact .queued (List.cons.inj popped).2.symm rfl silent keys

theorem phase_pop_waiting (task : next.task = .acknowledged joining)
    (ahead : (state.net { conn }).queue.length = watch.ahead)
    (silent : watch.after = []) (keys : watch.keys = 0) :
    Phase framing conn joining key next (watch.sees conn state (.write conn delivered) next) := by
  rcases write_goesOn took with ⟨isOver, socket⟩ | ⟨item, popped⟩
  · refine .finished isOver ?_
    rw [Watch.sees_after_silent socket]
    simp [silent]
  · rw [popped, List.length_cons] at ahead
    rw [Watch.sees_ahead ahead.symm]
    exact .waiting task rfl silent keys

theorem phase_pop_key {back}
    (queue : (state.net { conn }).queue = .enableMac key :: back) (ahead : watch.ahead = 0) (silent : watch.after = [])
    (keys : watch.keys = 0) :
    Phase framing conn joining key next (watch.sees conn state (.write conn delivered) next) := by
  rw [Watch.sees_key ahead queue]
  cases write_pops took with
  | finished isOver _ => exact .finished isOver (by simp [silent])
  | installed popped armed _ =>
    rw [queue] at popped
    cases (List.cons.inj popped).1
    exact .inUse ahead (by simp [keys]) armed (by simp [silent])
  | written popped _ _ | skipped popped _ _ =>
    rw [queue] at popped
    cases (List.cons.inj popped).1

theorem phase_pop_inUse (ahead : watch.ahead = 0) (keys : watch.keys = 1) (armed : (state.links conn).key = some key)
    (secured : ∀ frame ∈ watch.after, Secured framing key frame) :
    Phase framing conn joining key next (watch.sees conn state (.write conn delivered) next) := by
  cases write_pops took with
  | finished isOver socket =>
    refine .finished isOver ?_
    rw [Watch.sees_after_silent socket]
    exact secured
  | installed popped _ _ =>
    rw [Watch.sees_key ahead popped]
    exact .replaced (by simp [keys])
  | @written frame popped sameKey socket =>
    rw [Watch.sees_frame ahead popped, socket, List.drop_left, armed]
    refine .inUse ahead keys (sameKey.trans armed) ?_
    intro other member
    rcases List.mem_append.mp member with old | new
    · exact secured other old
    · rw [List.mem_singleton.mp new]
      exact tagged_secured framing key frame
  | skipped popped _ ends =>
    rw [Watch.sees_frame ahead popped, ends.socket, List.drop_length, List.append_nil]
    exact .inUse ahead keys (ends.key.trans armed) secured

end

theorem phase_pop (took : state.write framing conn delivered = some next)
    (phase : Phase framing conn joining key state watch) :
    Phase framing conn joining key next (watch.sees conn state (.write conn delivered) next) := by
  cases phase with
  | finished isOver _ => exact absurd isOver (write_live took)
  | waiting task ahead silent keys =>
    have written := write_some took
    have still : next.task = .acknowledged joining := by cases written <;> exact task
    exact phase_pop_waiting took still ahead silent keys
  | @queued front back queue ahead silent keys =>
    cases front with
    | nil => exact phase_pop_key took queue ahead.symm silent keys
    | cons item front => exact phase_pop_front took queue ahead silent keys
  | inUse ahead keys armed secured => exact phase_pop_inUse took ahead keys armed secured
  | replaced keys => exact .replaced (Nat.le_trans keys (watch.keys_le conn state _ next))

section
variable (own : joining.msg.writeTx = { conn }) (secret : joining.sessionKey ctx = some key)
  (allowed : undisturbed ctx framing limits state action = true)
  (took : state.step ctx framing limits action = some next) (feeds : Feeds ctx conn state next)
include own secret allowed took feeds

theorem phase_feed_waiting (task : state.task = .acknowledged joining)
    (ahead : (state.net { conn }).queue.length = watch.ahead)
    (silent : watch.after = []) (keys : watch.keys = 0) : Phase framing conn joining key next watch := by
  cases step_router took with
  | stays same keyed =>
    have still : next.task = .acknowledged joining := same.trans task
    simp only [undisturbed, task, took, still, own, List.isEmpty_iff] at allowed
    cases feeds with
    | finished isOver => exact .finished isOver (by simp [silent])
    | fed queue _ _ =>
      rw [Mailboxes.added, queue, List.drop_left] at allowed
      rw [allowed, List.append_nil] at queue
      exact .waiting still (by rw [queue, ahead]) silent keys
    | keyed _ _ _ more => simp [keyed] at more
  | @arms armed before _ now _ router =>
    rw [task] at before
    cases before
    have net := armStep_net ctx joining state.kernel.router
    simp only [secret, ← router] at net
    cases closed : (state.net { conn }).closed with
    | true => exact .finished (.closed ((step_net took).closed_stays closed)) (by simp [silent])
    | false =>
      have queue : (next.net { conn }).queue = (state.net { conn }).queue ++ .enableMac key :: [] := by
        simp only [Tasks.net] at closed ⊢
        rw [net, own]
        exact Mailboxes.send_queue _ _ _ closed
      exact .queued queue ahead silent keys
  | accepts before | acknowledges _ before | joins before =>
    rw [task] at before
    cases before

theorem phase_feed (phase : Phase framing conn joining key state watch) : Phase framing conn joining key next watch := by
  cases phase with
  | finished isOver secured => exact .finished (isOver.stays took) secured
  | waiting task ahead silent keys => exact phase_feed_waiting own secret allowed took feeds task ahead silent keys
  | @queued front back queue ahead silent keys =>
    cases feeds with
    | finished isOver => exact .finished isOver (by simp [silent])
    | fed grown _ _ | keyed _ _ _ _ grown _ =>
      rw [queue, List.append_assoc] at grown
      exact .queued grown ahead silent keys
  | inUse ahead keys armed secured =>
    cases feeds with
    | finished isOver => exact .finished isOver secured
    | fed _ _ ends | keyed _ _ _ _ _ ends => exact .inUse ahead keys (ends.key.trans armed) secured
  | replaced keys => exact .replaced keys

end

theorem phase_step (apart : conn ≠ bridgeConnId) (own : joining.msg.writeTx = { conn })
    (secret : joining.sessionKey ctx = some key) (allowed : undisturbed ctx framing limits state action = true)
    (took : state.step ctx framing limits action = some next)
    (phase : Phase framing conn joining key state watch) :
    Phase framing conn joining key next (watch.sees conn state action next) := by
  by_cases mine : ∃ delivered, action = .write conn delivered
  · obtain ⟨delivered, rfl⟩ := mine
    exact phase_pop took phase
  · have other : ∀ delivered, action ≠ .write conn delivered := fun delivered same => mine ⟨delivered, same⟩
    rw [Watch.sees_other other]
    exact phase_feed own secret allowed took (step_feeds took apart other) phase

theorem bridge_unseen (took : state.step ctx framing limits action = some next)
    (unbridged : state.kernel.connections.get bridgeConnId = none) :
    watch.sees bridgeConnId state action next = watch := by
  apply Watch.sees_other
  intro delivered mine
  subst mine
  exact write_connected took unbridged

theorem bridge_unseen_run {guard}
    (run : Run (watchedStep ctx framing limits bridgeConnId) guard first last)
    (unbridged : first.1.kernel.connections.get bridgeConnId = none) :
    last.1.kernel.connections.get bridgeConnId = none ∧ last.2 = first.2 := by
  induction run with
  | refl => exact ⟨unbridged, rfl⟩
  | step _ _ moved ih =>
    obtain ⟨next, step, rfl⟩ := Option.map_eq_some_iff.mp moved
    refine ⟨(step_frame step).connections.apart ih.1, ?_⟩
    rw [bridge_unseen step ih.1]
    exact ih.2

theorem phase_run (apart : conn ≠ bridgeConnId)
    (own : joining.msg.writeTx = { conn }) (secret : joining.sessionKey ctx = some key)
    (run : Run (watchedStep ctx framing limits conn) (fun pair => undisturbed ctx framing limits pair.1) first last)
    (phase : Phase framing conn joining key first.1 first.2) :
    Phase framing conn joining key last.1 last.2 := by
  induction run with
  | refl => exact phase
  | step _ allowed moved ih =>
    obtain ⟨next, step, rfl⟩ := Option.map_eq_some_iff.mp moved
    exact phase_step apart own secret allowed step ih

/-- From the acknowledgement of a registration on, as long as no other task comes
between an acknowledgement and its key, every frame that is written after the
acknowledgement is tagged under the session key of the registration, until a later
registration on the connection brings its own. -/
theorem frames_after_acknowledgement_tagged (ctx : Context β) (framing : Framing β) (limits : ConnectionLimits)
    (start before acknowledged final : Tasks β) (watch : Watch β) (joining : Registering β) (conn : Nat) (key : Bytes)
    (fresh : Fresh start) (reached : Run (Tasks.step ctx framing limits) unguarded start before)
    (task : before.task = .registered joining) (took : before.acknowledge ctx = some acknowledged)
    (own : joining.msg.writeTx = { conn }) (secret : joining.sessionKey ctx = some key)
    (run : Run (watchedStep ctx framing limits conn) (fun pair => undisturbed ctx framing limits pair.1)
      (acknowledged, { ahead := (acknowledged.net { conn }).queue.length }) (final, watch))
    (current : watch.keys ≤ 1) : ∀ frame ∈ watch.after, Secured framing key frame := by
  have unbridged : acknowledged.kernel.connections.get bridgeConnId = none := by
    have earlier : before.kernel.connections.get bridgeConnId = none :=
      reached.preserves fresh.apart fun _ _ _ _ took => (step_frame took).connections.apart
    have move : before.step ctx framing limits .acknowledge = some acknowledged := took
    exact (step_frame move).connections.apart earlier
  by_cases apart : conn = bridgeConnId
  · subst apart
    have unseen : watch = { ahead := (acknowledged.net { conn := bridgeConnId }).queue.length } :=
      (bridge_unseen_run run unbridged).2
    simp [unseen]
  · obtain ⟨other, same, rfl⟩ := acknowledge_some took
    rw [task] at same
    cases same
    have phase : Phase framing conn joining key final watch :=
      phase_run apart own secret run (.waiting rfl rfl rfl rfl)
    exact phase.secured current

end Watching

section Intruder
open Scenario

def expectsNews : List (TaskAction Packet) :=
  [.accept 1 .ws, .other (.declare "notes" ["system.plugin_died"])] ++ handsOver signOn

def news : TaskAction Packet :=
  .other (.publishDied
    { eventId := "sys-died-tv-0", eventType := "system.plugin_died", payloadJson := [], retryCount := 0 } start)

def expectingEnd : Tasks Packet := (exec vaultStep unguarded {} expectsNews).get (by decide +kernel)

def registeredIn : RouterTask Packet → Option (Registering Packet)
  | .registered joining => some joining
  | _ => none

theorem registeredIn_some {task joining}
    (found : registeredIn task = some joining) : task = .registered joining := by
  cases task <;> cases found
  rfl

def newcomer : Registering Packet := (registeredIn expectingEnd.task).get (by decide +kernel)

theorem newcomer_registered : expectingEnd.task = .registered newcomer :=
  registeredIn_some (Option.some_get (by decide +kernel)).symm

def greetedEnd : Tasks Packet := (expectingEnd.acknowledge vault).get (by decide +kernel)

theorem greeted_acknowledged : expectingEnd.acknowledge vault = some greetedEnd :=
  (Option.some_get (by decide +kernel)).symm

abbrev watchedVault : Tasks Packet × Watch Packet → TaskAction Packet → Option (Tasks Packet × Watch Packet) :=
  watchedStep vault Packet.framing {} 1

def greeted : Tasks Packet × Watch Packet := (greetedEnd, { ahead := (greetedEnd.net { conn := 1 }).queue.length })

def quietEnd : Tasks Packet × Watch Packet :=
  (exec watchedVault (fun pair => undisturbed vault Packet.framing {} pair.1) greeted
    [.arm, .join, news, .write 1 true, .write 1 true, .write 1 true]).get (by decide +kernel)

theorem frames_after_acknowledgement_tagged_news : quietEnd.2.after.length = 1 ∧
    ∀ frame ∈ quietEnd.2.after, Secured Packet.framing [7] frame := by
  have watched : Run watchedVault (fun pair => undisturbed vault Packet.framing {} pair.1) greeted quietEnd :=
    exec_get_run (by decide +kernel)
  refine ⟨by decide +kernel, ?_⟩
  exact frames_after_acknowledgement_tagged vault Packet.framing {} {} expectingEnd greetedEnd quietEnd.1 quietEnd.2
    newcomer 1 [7] acknowledged_fresh (exec_get_run (by decide +kernel)) newcomer_registered greeted_acknowledged
    (by decide +kernel) (by decide +kernel) watched (by decide +kernel)

def noisyEnd : Tasks Packet × Watch Packet :=
  (exec watchedVault unguarded greeted [news, .arm, .write 1 true, .write 1 true]).get (by decide +kernel)

theorem frame_before_key_untagged : Run vaultStep unguarded {} expectingEnd ∧
    expectingEnd.task = .registered newcomer ∧ expectingEnd.acknowledge vault = some greetedEnd ∧
    newcomer.msg.writeTx = { conn := 1 } ∧ newcomer.sessionKey vault = some [7] ∧
    Run watchedVault unguarded greeted noisyEnd ∧ noisyEnd.2.keys = 0 ∧
    ∃ frame ∈ noisyEnd.2.after, ¬Secured Packet.framing [7] frame := by
  have bare : noisyEnd.2.after.any (fun frame => frame.flags &&& flagMacPresent == 0) = true := by decide +kernel
  obtain ⟨frame, member, unflagged⟩ := List.any_eq_true.mp bare
  have reached : Run vaultStep unguarded {} expectingEnd := exec_get_run (by decide +kernel)
  have watched : Run watchedVault unguarded greeted noisyEnd := exec_get_run (by decide +kernel)
  refine ⟨reached, newcomer_registered, greeted_acknowledged, by decide +kernel, by decide +kernel, watched,
    by decide +kernel, frame, member, ?_⟩
  intro secured
  exact secured.1 (beq_iff_eq.mp unflagged)

end Intruder
end Vynkor.Proofs
