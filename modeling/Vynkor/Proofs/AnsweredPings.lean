import Vynkor.Proofs.WatchdogKills

/-! The watchdog in time. Its rounds are one interval apart, and a plugin that answers
every ping within the timeout is heard of before the deadline, however many of its answers
are still on the way. -/

namespace Vynkor.Proofs
open DashMap Execution Supervisor

section Model

/-- The tasks, the time of the next round, and what the rounds so far have done. -/
structure Timed (β : Type) where
  watched : Watched β := {}
  clock : Nat
  nextRound : Nat
  visits : List Visit := []

inductive TimedAction (β : Type) where
  | task (action : WatchAction β)
  | pass (later : Nat)
  | round (unixMillis : Nat)

variable {β : Type} (ctx : Context β) (interval timeout : Nat)

def isOfRound : WatchAction β → Bool
  | .kernel (.ping _ _) | .deed .tick | .inspect _ => true
  | _ => false

def instantOf (watched : Watched β) : WatchAction β → Option Nat
  | .kernel action => (watched.kernel.joining action).map Prod.snd
  | .recordPong moment => some moment.instant
  | _ => none

namespace Timed
variable (state : Timed β)

def rounded (unixMillis : Nat) : Watched β × List Visit :=
  Watched.round ctx (interval + timeout) { instant := state.clock, unixMillis } state.watched.supervised state.watched

/-- Time stops at the next round until that is over. -/
def step : TimedAction β → Option (Timed β)
  | .task action =>
    if !isOfRound action && (instantOf state.watched action).all (· == state.clock) then
      (state.watched.step ctx (interval + timeout) action).map fun watched => { state with watched }
    else none
  | .pass later =>
    if state.clock ≤ later ∧ later ≤ state.nextRound then some { state with clock := later } else none
  | .round unixMillis =>
    if state.clock = state.nextRound then
      let rounded := state.rounded ctx interval timeout unixMillis
      some { state with
        watched := rounded.1
        nextRound := state.clock + interval
        visits := state.visits ++ rounded.2 }
    else none

end Timed

variable (id : String)

/-- Every ping to the plugin is queued, and time does not pass its timeout before a pong
is recorded. -/
def answersPings (state : Timed β) : TimedAction β → Bool
  | .pass later => state.visits.all fun visit => visit.pluginId != id || visit.verdict != .pinged ||
      decide (later ≤ visit.instant + timeout) || state.watched.heard.any fun sign =>
        sign.pluginId == id && !sign.registration && decide (visit.instant ≤ sign.instant)
  | .round unixMillis => (state.rounded ctx interval timeout unixMillis).2.all fun visit =>
      visit.pluginId != id || visit.verdict != .dropped
  | .task _ => true

/-- While the plugin is registered the watchdog has it on its list, and its pongs are
recorded only then. -/
def keptInView (state : Timed β) : TimedAction β → Bool
  | .round _ => (state.watched.kernel.router.registry.get id).isNone ||
      state.watched.signals.supervisor.entries.containsKey id
  | .task (.recordPong _) => state.watched.ponging.all fun pong =>
      pong.2 != id || (state.watched.kernel.router.registry.get id).isSome
  | _ => true

end Model

section Rounds
variable {β : Type} {ctx : Context β} {deadline : Nat} {moment : Moment}

def looksAt (state : Watched β) (processes : List (String × Nat)) : Watched β :=
  { state with signals := { state.signals with watchdog := processes } }

/-- A round is what the steps of the watchdog do if no other task comes in between. -/
theorem round_run (processes : List (String × Nat)) (state : Watched β) :
    Run (Watched.step ctx deadline) unguarded (looksAt state processes)
      (looksAt (Watched.round ctx deadline moment processes state).1 []) := by
  induction processes generalizing state with
  | nil => exact .refl _
  | cons process rest ih =>
    refine .trans ?_ (ih (state.visit ctx deadline moment process))
    have looked : (looksAt state (process :: rest)).step ctx deadline (.inspect moment.instant) =
        some { state with signals := if state.silent deadline process.1 moment.instant then
          { state.signals with watchdog := rest }.send .kill process.2
          else { state.signals with watchdog := rest } } := rfl
    cases silent : state.silent deadline process.1 moment.instant with
    | true =>
      rw [silent, if_pos rfl] at looked
      rw [Watched.visit, silent, if_pos rfl]
      exact .step (.refl _) rfl looked
    | false =>
      rw [silent, if_neg Bool.false_ne_true] at looked
      rw [Watched.visit, silent, if_neg Bool.false_ne_true]
      have pinged : (looksAt state rest).step ctx deadline (.kernel (.ping process.1 moment)) =
          some (looksAt { state with kernel := state.kernel.ping ctx process.1 moment } rest) := by
        simp [Watched.step, Watched.kernelStep, Watched.routerFree, Kernel.step, Kernel.joined, Kernel.joining, looksAt]
      exact .step (.step (.refl _) rfl looked) rfl pinged

theorem visit_registry (state : Watched β) (process : String × Nat) :
    (state.visit ctx deadline moment process).kernel.router.registry = state.kernel.router.registry ∧
      (state.visit ctx deadline moment process).heard = state.heard := by
  rw [Watched.visit]
  split
  · exact ⟨rfl, rfl⟩
  · obtain ⟨net, pinged⟩ := ping_shared ctx state.kernel process.1 moment
    rw [pinged]
    exact ⟨rfl, rfl⟩

theorem silent_congr {state other : Watched β}
    (same : other.kernel.router.registry = state.kernel.router.registry) (id : String) (now : Nat) :
    other.silent deadline id now = state.silent deadline id now := by
  rw [Watched.silent, Watched.silent, same]

theorem round_registry (processes : List (String × Nat)) (state : Watched β) :
    (Watched.round ctx deadline moment processes state).1.kernel.router.registry = state.kernel.router.registry ∧
      (Watched.round ctx deadline moment processes state).1.heard = state.heard := by
  induction processes generalizing state with
  | nil => exact ⟨rfl, rfl⟩
  | cons process rest ih =>
    obtain ⟨registry, heard⟩ := ih (state.visit ctx deadline moment process)
    obtain ⟨registry', heard'⟩ := visit_registry state process
    exact ⟨registry.trans registry', heard.trans heard'⟩

structure Visited (deadline : Nat) (moment : Moment) (state : Watched β) (visit : Visit) : Prop where
  instant : visit.instant = moment.instant
  killed : visit.verdict = .killed → state.silent deadline visit.pluginId moment.instant = true
  absent : visit.verdict = .absent → state.kernel.router.registry.get visit.pluginId = none

theorem visited_verdict (state : Watched β) (id : String) :
    Visited deadline moment state ⟨id, moment.instant, state.verdict ctx deadline moment id⟩ := by
  refine ⟨rfl, ?_, ?_⟩
  · intro killed
    simp only [Watched.verdict] at killed
    split at killed
    next silent => exact silent
    · split at killed
      · cases killed
      · split at killed <;> cases killed
  · intro absent
    simp only [Watched.verdict] at absent
    split at absent
    · cases absent
    · split at absent
      next unknown => exact unknown
      · split at absent <;> cases absent

theorem round_visited {processes state visit}
    (member : visit ∈ (Watched.round ctx deadline moment processes state).2) : Visited deadline moment state visit := by
  induction processes generalizing state with
  | nil => cases member
  | cons process rest ih =>
    rcases List.mem_cons.mp member with rfl | later
    · exact visited_verdict state process.1
    · obtain ⟨registry, _⟩ := @visit_registry _ ctx deadline moment state process
      obtain ⟨instant, killed, absent⟩ := ih later
      rw [silent_congr registry] at killed
      rw [registry] at absent
      exact ⟨instant, killed, absent⟩

theorem round_visits {processes process} (member : process ∈ processes) (state : Watched β) :
    ∃ visit ∈ (Watched.round ctx deadline moment processes state).2, visit.pluginId = process.1 := by
  induction processes generalizing state with
  | nil => cases member
  | cons first rest ih =>
    rcases List.mem_cons.mp member with rfl | later
    · exact ⟨_, List.mem_cons_self, rfl⟩
    · obtain ⟨visit, listed, same⟩ := ih later (state.visit ctx deadline moment first)
      exact ⟨visit, List.mem_cons_of_mem _ listed, same⟩

end Rounds

section Invariant
variable {β : Type} {ctx : Context β} {interval timeout : Nat} {id : String} {state next : Timed β}

/-- The next round comes within an interval of the last sign of the plugin, or a ping that
is not answered yet was sent within one. -/
def InSight (interval : Nat) (id : String) (state : Timed β) (last : Nat) : Prop :=
  state.nextRound ≤ last + interval ∨ ∃ visit ∈ state.visits, visit.pluginId = id ∧ visit.verdict = .pinged ∧
    last < visit.instant ∧ visit.instant ≤ last + interval

/-- Nothing was heard of the plugin after its pong time. -/
structure Latest (interval : Nat) (id : String) (state : Timed β) (last : Nat) : Prop where
  recorded : state.watched.kernel.router.registry.pongTimes.get id = some last
  past : last ≤ state.clock
  signs : ∀ sign ∈ state.watched.heard, sign.pluginId = id → sign.instant ≤ last
  inSight : InSight interval id state last

structure Prompt (interval timeout : Nat) (id : String) (state : Timed β) : Prop where
  ahead : state.clock ≤ state.nextRound
  near : state.nextRound ≤ state.clock + interval
  past : ∀ sign ∈ state.watched.heard, sign.instant ≤ state.clock
  unknown : state.watched.kernel.router.registry.get id = none →
    state.watched.kernel.router.registry.pongTimes.get id = none
  known : ∀ entry, state.watched.kernel.router.registry.get id = some entry → ∃ last, Latest interval id state last
  owed : ∀ visit ∈ state.visits, visit.pluginId = id → visit.verdict = .pinged →
    state.clock ≤ visit.instant + timeout ∨
      ∃ sign ∈ state.watched.heard, sign.pluginId = id ∧ visit.instant ≤ sign.instant
  spared : ∀ visit ∈ state.visits, visit.pluginId = id → visit.verdict ≠ .killed

theorem Prompt.elapsed (prompt : Prompt interval timeout id state) {last}
    (found : state.watched.kernel.router.registry.pongTimes.get id = some last) :
    state.clock ≤ last + (interval + timeout) := by
  cases held : state.watched.kernel.router.registry.get id with
  | none =>
    rw [prompt.unknown held] at found
    cases found
  | some entry =>
    obtain ⟨recorded, latest⟩ := prompt.known entry held
    obtain rfl : recorded = last := Option.some.inj (latest.recorded.symm.trans found)
    have ahead := prompt.ahead
    rcases latest.inSight with soon | ⟨visit, member, own, pinged, unanswered, close⟩
    · omega
    · rcases prompt.owed visit member own pinged with waiting | ⟨sign, heard, mine, answered⟩
      · omega
      · have := latest.signs sign heard mine
        omega

section Tasks
variable {watched : Watched β} {sign : Heard} {action : Action β}

theorem Prompt.aside (prompt : Prompt interval timeout id state) (heard : watched.heard = state.watched.heard)
    (registry : watched.kernel.router.registry.get id = state.watched.kernel.router.registry.get id ∧
        watched.kernel.router.registry.pongTimes.get id = state.watched.kernel.router.registry.pongTimes.get id ∨
      watched.kernel.router.registry.get id = none ∧ watched.kernel.router.registry.pongTimes.get id = none) :
    Prompt interval timeout id { state with watched } := by
  refine ⟨prompt.ahead, prompt.near, ?_, ?_, ?_, ?_, prompt.spared⟩
  · rw [heard]
    exact prompt.past
  · intro unknown
    rcases registry with ⟨get, pongs⟩ | ⟨_, gone⟩
    · exact pongs.trans (prompt.unknown (get.symm.trans unknown))
    · exact gone
  · intro entry found
    rcases registry with ⟨get, pongs⟩ | ⟨gone, _⟩
    · obtain ⟨last, recorded, past, signs, inSight⟩ := prompt.known entry (get.symm.trans found)
      exact ⟨last, pongs.trans recorded, past, heard ▸ signs, inSight⟩
    · cases gone.symm.trans found
  · rw [heard]
    exact prompt.owed

theorem Prompt.signed (prompt : Prompt interval timeout id state)
    (heard : watched.heard = state.watched.heard ++ [sign]) (now : sign.instant = state.clock)
    (pongs : watched.kernel.router.registry.pongTimes =
      state.watched.kernel.router.registry.pongTimes.insert sign.pluginId sign.instant)
    (present : sign.pluginId = id → watched.kernel.router.registry.get id ≠ none)
    (other : sign.pluginId ≠ id →
      watched.kernel.router.registry.get id = state.watched.kernel.router.registry.get id) :
    Prompt interval timeout id { state with watched } := by
  have past : ∀ sign ∈ watched.heard, sign.instant ≤ state.clock := by
    intro sign' listed
    rw [heard] at listed
    rcases List.mem_append.mp listed with before | new
    · exact prompt.past sign' before
    · cases List.mem_singleton.mp new
      exact now.le
  refine ⟨prompt.ahead, prompt.near, past, ?_, ?_, ?_, prompt.spared⟩
  · intro unknown
    by_cases own : sign.pluginId = id
    · exact absurd unknown (present own)
    · rw [pongs, get_insert, if_neg (Ne.symm own)]
      exact prompt.unknown ((other own).symm.trans unknown)
  · intro entry found
    by_cases own : sign.pluginId = id
    · refine ⟨state.clock, ?_, le_rfl, fun sign' listed _ => past sign' listed, .inl prompt.near⟩
      rw [pongs, get_insert, if_pos own.symm, now]
    · obtain ⟨last, recorded, before, signs, inSight⟩ := prompt.known entry ((other own).symm.trans found)
      refine ⟨last, ?_, before, ?_, inSight⟩
      · rw [pongs, get_insert, if_neg (Ne.symm own)]
        exact recorded
      · intro sign' listed mine
        rw [heard] at listed
        rcases List.mem_append.mp listed with old | new
        · exact signs sign' old mine
        · cases List.mem_singleton.mp new
          exact absurd mine own
  · intro visit member own pinged
    refine (prompt.owed visit member own pinged).imp_right ?_
    rintro ⟨answer, listed, answered⟩
    exact ⟨answer, heard ▸ List.mem_append_left _ listed, answered⟩

theorem joined_instant {kernel moved : Kernel β}
    (joined : kernel.joined action moved = some sign) : (kernel.joining action).map Prod.snd = some sign.instant := by
  simp only [Kernel.joined] at joined
  split at joined
  · cases joined
  next joins =>
    split at joined
    · cases joined
    · obtain ⟨entry, _, rfl⟩ := Option.map_eq_some_iff.mp joined
      rw [joins]
      rfl

theorem Prompt.kernel (prompt : Prompt interval timeout id state)
    (now : (instantOf state.watched (.kernel action)).all (· == state.clock) = true)
    (took : state.watched.kernelStep ctx action = some watched) : Prompt interval timeout id { state with watched } := by
  obtain ⟨kernel, moved, rfl, step⟩ := kernelStep_some took
  generalize joins : state.watched.kernel.joined action kernel = joined at step
  generalize shared : kernel.router.registry = after at step
  cases step with
  | kept get pongs => exact prompt.aside (List.append_nil _) (.inl ⟨by rw [shared, get], by rw [shared, pongs]⟩)
  | removed pluginId =>
    apply prompt.aside (List.append_nil _)
    simp only [shared, get_unregister, get_unregister_pongs]
    by_cases own : id = pluginId
    · subst own
      cases held : state.watched.kernel.router.registry.get id with
      | none => simp [prompt.unknown held]
      | some entry => simp
    · simp [own]
  | @joined _ plugin instant inserted pongs =>
    have recorded := joined_instant joins
    apply prompt.signed rfl
    · simpa [instantOf, recorded] using now
    · rw [shared]
      exact pongs
    · rintro rfl
      simp [shared, inserted.get]
    · intro other
      rw [shared, inserted.get, if_neg (Ne.symm other)]

theorem Prompt.task {action} (prompt : Prompt interval timeout id state)
    (inView : keptInView id state (.task action) = true)
    (took : state.step ctx interval timeout (.task action) = some next) : Prompt interval timeout id next := by
  simp only [Timed.step] at took
  split at took
  next free =>
    obtain ⟨watched, moved, rfl⟩ := Option.map_eq_some_iff.mp took
    obtain ⟨_, now⟩ := (Bool.and_eq_true _ _).mp free
    cases action with
    | kernel action => exact prompt.kernel now moved
    | lookUp moment =>
      obtain ⟨kernel, conn, plugin, _, shared, rfl⟩ := lookUp_some moved
      exact prompt.aside rfl (.inl ⟨by rw [shared], by rw [shared]⟩)
    | recordPong moment =>
      obtain ⟨kernel, conn, pluginId, busy, shared, rfl⟩ := recordPong_some moved
      apply prompt.signed rfl
      · simpa [instantOf] using now
      · rw [shared]
        rfl
      · rintro rfl
        rw [shared]
        have held : (state.watched.kernel.router.registry.get pluginId).isSome = true := by
          simpa [keptInView, busy] using inView
        exact Option.isSome_iff_ne_none.mp held
      · intro _
        rw [shared]
        rfl
    | deed deed =>
      obtain ⟨signals, _, rfl⟩ := deedStep_some moved
      exact prompt.aside rfl (.inl ⟨rfl, rfl⟩)
    | inspect now =>
      obtain ⟨_, _, _, signals, _, _, rfl⟩ := inspect_some moved
      exact prompt.aside rfl (.inl ⟨rfl, rfl⟩)
  · cases took

end Tasks

theorem Prompt.pass {later} (prompt : Prompt interval timeout id state)
    (answers : answersPings ctx interval timeout id state (.pass later) = true)
    (took : state.step ctx interval timeout (.pass later) = some next) : Prompt interval timeout id next := by
  simp only [Timed.step] at took
  split at took
  next between =>
    cases took
    obtain ⟨onward, inTime⟩ := between
    refine ⟨inTime, ?_, ?_, prompt.unknown, ?_, ?_, prompt.spared⟩
    · exact prompt.near.trans (Nat.add_le_add_right onward _)
    · intro sign listed
      exact (prompt.past sign listed).trans onward
    · intro entry found
      obtain ⟨last, recorded, past, signs, inSight⟩ := prompt.known entry found
      exact ⟨last, recorded, past.trans onward, signs, inSight⟩
    · intro visit member own pinged
      have answered := List.all_eq_true.mp answers visit member
      simp only [own, pinged, bne_self_eq_false, Bool.false_or, Bool.or_eq_true, decide_eq_true_eq, List.any_eq_true,
        Bool.and_eq_true, beq_iff_eq] at answered
      refine answered.imp_right ?_
      rintro ⟨sign, listed, ⟨mine, _⟩, after⟩
      exact ⟨sign, listed, mine, after⟩
  · cases took

section Round
variable {unixMillis : Nat}

theorem Prompt.round_spares (prompt : Prompt interval timeout id state) :
    ∀ visit ∈ (state.rounded ctx interval timeout unixMillis).2, visit.pluginId = id → visit.verdict ≠ .killed := by
  rintro visit member rfl killed
  obtain ⟨last, found, old⟩ := (Option.any_eq_true _ _).mp ((round_visited member).killed killed)
  have close := prompt.elapsed found
  have apart : interval + timeout < state.clock - last := of_decide_eq_true old
  omega

theorem Prompt.round_pings {entry} (prompt : Prompt interval timeout id state)
    (answers : answersPings ctx interval timeout id state (.round unixMillis) = true)
    (inView : keptInView id state (.round unixMillis) = true)
    (held : state.watched.kernel.router.registry.get id = some entry) :
    ∃ visit ∈ (state.rounded ctx interval timeout unixMillis).2,
      visit.pluginId = id ∧ visit.verdict = .pinged ∧ visit.instant = state.clock := by
  simp only [keptInView, held, Option.isNone_some, Bool.false_or] at inView
  obtain ⟨supervised, entered⟩ := Option.isSome_iff_exists.mp inView
  have listed : (id, supervised.epoch) ∈ state.watched.supervised :=
    List.mem_map.mpr ⟨(id, supervised), (mem_toList _ _ _).mpr entered, rfl⟩
  obtain ⟨visit, member, own⟩ := round_visits listed state.watched
  refine ⟨visit, member, own, ?_, (round_visited member).instant⟩
  have queued := List.all_eq_true.mp answers visit member
  cases verdict : visit.verdict with
  | killed => exact absurd verdict (prompt.round_spares visit member own)
  | pinged => rfl
  | dropped => simp [own, verdict] at queued
  | absent =>
    have missing := (round_visited member).absent verdict
    rw [own, held] at missing
    cases missing

theorem Prompt.round (prompt : Prompt interval timeout id state)
    (answers : answersPings ctx interval timeout id state (.round unixMillis) = true)
    (inView : keptInView id state (.round unixMillis) = true)
    (took : state.step ctx interval timeout (.round unixMillis) = some next) : Prompt interval timeout id next := by
  simp only [Timed.step] at took
  split at took
  next due =>
    cases took
    obtain ⟨registry, heard⟩ : (state.rounded ctx interval timeout unixMillis).1.kernel.router.registry =
        state.watched.kernel.router.registry ∧
          (state.rounded ctx interval timeout unixMillis).1.heard = state.watched.heard := round_registry _ _
    refine ⟨Nat.le_add_right _ _, le_rfl, ?_, ?_, ?_, ?_, ?_⟩
    · rw [heard]
      exact prompt.past
    · rw [registry]
      exact prompt.unknown
    · intro entry found
      rw [registry] at found
      obtain ⟨last, recorded, past, signs, inSight⟩ := prompt.known entry found
      refine ⟨last, by rw [registry]; exact recorded, past, by rw [heard]; exact signs, ?_⟩
      rcases inSight with soon | ⟨visit, member, unanswered⟩
      · rcases past.eq_or_lt with rfl | before
        · exact .inl le_rfl
        · obtain ⟨visit, member, own, pinged, now⟩ := prompt.round_pings answers inView found
          exact .inr ⟨visit, List.mem_append_right _ member, own, pinged, now ▸ before, by omega⟩
      · exact .inr ⟨visit, List.mem_append_left _ member, unanswered⟩
    · intro visit member own pinged
      rw [heard]
      rcases List.mem_append.mp member with before | new
      · exact prompt.owed visit before own pinged
      · have now : visit.instant = state.clock := (round_visited new).instant
        exact .inl (now ▸ Nat.le_add_right _ _)
    · intro visit member
      rcases List.mem_append.mp member with before | new
      · exact prompt.spared visit before
      · exact prompt.round_spares visit new
  · cases took

end Round

theorem prompt_step {action} (prompt : Prompt interval timeout id state)
    (answers : answersPings ctx interval timeout id state action = true) (inView : keptInView id state action = true)
    (took : state.step ctx interval timeout action = some next) : Prompt interval timeout id next := by
  cases action with
  | task action => exact prompt.task inView took
  | pass later => exact prompt.pass answers took
  | round unixMillis => exact prompt.round answers inView took

theorem prompt_start (began : Nat) :
    Prompt interval timeout id ({ clock := began, nextRound := began + interval } : Timed β) := by
  refine ⟨Nat.le_add_right _ _, le_rfl, ?_, fun _ => rfl, ?_, ?_, ?_⟩
  · intro _ listed
    cases listed
  · intro _ found
    cases found
  · intro _ member
    cases member
  · intro _ member
    cases member

end Invariant

section Bound
variable {β : Type} (ctx : Context β) (interval timeout : Nat) (id : String)

def answersInView (state : Timed β) (action : TimedAction β) : Bool :=
  answersPings ctx interval timeout id state action && keptInView id state action

/-- A plugin that answers every ping within the timeout is never killed by the watchdog. -/
theorem answering_plugin_spared (began : Nat) {final : Timed β}
    (run : Run (Timed.step ctx interval timeout) (answersInView ctx interval timeout id)
      { clock := began, nextRound := began + interval } final) :
    (∀ last, final.watched.kernel.router.registry.pongTimes.get id = some last →
      final.clock - last ≤ interval + timeout) ∧
    ∀ visit ∈ final.visits, visit.pluginId = id → visit.verdict ≠ .killed := by
  have prompt : Prompt interval timeout id final := by
    apply run.preserves (prompt_start began)
    intro before action after allowed took holds
    obtain ⟨answers, inView⟩ := (Bool.and_eq_true _ _).mp allowed
    exact prompt_step holds answers inView took
  refine ⟨?_, prompt.spared⟩
  intro last found
  exact Nat.sub_le_of_le_add (by have := prompt.elapsed found; omega)

end Bound

section Instances
open Scenario

def tasks (actions : List (WatchAction Packet)) : List (TimedAction Packet) := actions.map .task

def notesJoins : List (TimedAction Packet) :=
  tasks [.kernel (.accept 1 .uds), .kernel (.receive (hello 1 "notes")),
    .kernel (.route start)]

def looksUpPong : List (TimedAction Packet) := tasks [.kernel (.receive (sends 1 "kernel" (.pong 0 0))), .lookUp start]

def punctual : Timed Packet :=
  (exec (Timed.step context 10 15) (answersInView context 10 15 "notes") { clock := 0, nextRound := 10 }
    (tasks (acts (starts 1 persistent)) ++ notesJoins ++ [.pass 10, .round 0, .pass 20, .round 0, .pass 25] ++
      looksUpPong ++ [.task (.recordPong { instant := 25 }), .pass 30, .round 0, .pass 35] ++ looksUpPong ++
      [.task (.recordPong { instant := 35 }), .pass 40])).get (by decide +kernel)

/-- Two pings are under way when the first is answered. -/
theorem answering_plugin_spared_punctual :
    punctual.visits = [⟨"notes", 10, .pinged⟩, ⟨"notes", 20, .pinged⟩, ⟨"notes", 30, .pinged⟩] ∧
      punctual.watched.kernel.router.registry.pongTimes.get "notes" = some 35 ∧
      (∀ last, punctual.watched.kernel.router.registry.pongTimes.get "notes" = some last →
        punctual.clock - last ≤ 10 + 15) ∧
      ∀ visit ∈ punctual.visits, visit.pluginId = "notes" → visit.verdict ≠ .killed :=
  ⟨by decide +kernel, by decide +kernel,
    answering_plugin_spared context 10 15 "notes" 0 (exec_get_run (by decide +kernel))⟩

/-- A round of a timed run is its single steps, at whatever time it comes. -/
theorem rounded_run {β : Type} {ctx : Context β} {interval timeout : Nat} {state : Timed β}
    (idle : state.watched.signals.watchdog = [])
    (unixMillis : Nat) :
    Run (Watched.step ctx (interval + timeout)) unguarded state.watched
      (looksAt (state.rounded ctx interval timeout unixMillis).1 []) := by
  have ticked : state.watched.step ctx (interval + timeout) (.deed .tick) =
      some (looksAt state.watched state.watched.supervised) := by
    simp only [Watched.step, Watched.deedStep, Signalling.step, Signalling.tick, idle]
    rfl
  exact .trans (.step (.refl _) rfl ticked) (round_run _ _)

theorem rounded_run_punctual : Run (Watched.step context (10 + 15)) unguarded punctual.watched
    (looksAt (punctual.rounded context 10 15 0).1 []) :=
  rounded_run (by decide +kernel) 0

/-- The disconnect is handled between the lookup of the pong and its record. -/
def recordedLate : Timed Packet :=
  (exec (Timed.step context 10 10) (answersPings context 10 10 "notes") { clock := 0, nextRound := 10 }
    (tasks (acts (starts 1 persistent)) ++ notesJoins ++ [.pass 10, .round 0] ++ looksUpPong ++
      tasks [.kernel (.hangup 1), .kernel (.take .uds), .kernel (.publishLeft .uds start), .kernel (.unsubscribe .uds),
        .kernel (.unregister .uds), .recordPong { instant := 10 }] ++
      [.pass 20, .round 0, .pass 30, .round 0, .pass 40, .round 0])).get (by decide +kernel)

def unsupervised : Timed Packet :=
  (exec (Timed.step context 10 10) (answersPings context 10 10 "notes") { clock := 0, nextRound := 10 }
    (notesJoins ++ [.pass 10, .round 0, .pass 20, .round 0] ++ tasks (acts (starts 1 persistent)) ++
      [.pass 30, .round 0])).get (by decide +kernel)

theorem answering_plugin_killed :
    (Run (Timed.step context 10 10) (answersPings context 10 10 "notes") { clock := 0, nextRound := 10 } recordedLate ∧
      recordedLate.visits = [⟨"notes", 10, .pinged⟩, ⟨"notes", 20, .absent⟩, ⟨"notes", 30, .absent⟩,
        ⟨"notes", 40, .killed⟩] ∧
      recordedLate.watched.kernel.router.registry.pongTimes.get "notes" = some 10) ∧
    Run (Timed.step context 10 10) (answersPings context 10 10 "notes") { clock := 0, nextRound := 10 } unsupervised ∧
      unsupervised.visits = [⟨"notes", 30, .killed⟩] ∧
      unsupervised.watched.kernel.router.registry.pongTimes.get "notes" = some 0 := by
  refine ⟨⟨exec_get_run (by decide +kernel), ?_⟩, exec_get_run (by decide +kernel), ?_⟩
  · decide +kernel
  · decide +kernel

end Instances
end Vynkor.Proofs
