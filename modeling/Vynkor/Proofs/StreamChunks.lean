import Vynkor.Proofs.PendingOwnership

/-! The chunks of one pending action, from the state in which it is watched until
its entry goes. In each direction a stream keeps what the router matched to the
action and what it then really queued for the receiver. -/

namespace Vynkor.Proofs
open RouterState Execution
variable {β : Type} {ctx : Context β} {key : String}

inductive Direction where
  | toProvider | toRequester
  deriving DecidableEq

/-- What a chunk carries; only request chunks have a final flag. -/
structure Piece where
  seq : Nat
  bytes : Bytes
  final : Option Bool
  deriving DecidableEq

def requestPiece (chunk : ActionRequestChunk) : Piece := ⟨chunk.seq, chunk.chunk, some chunk.final⟩

def replyPiece (chunk : ActionResponseChunk) : Piece := ⟨chunk.seq, chunk.chunk, none⟩

def pieceIn {β : Type} (wire : Wire β) : Direction → Outbound β → Option (String × Piece)
  | .toProvider, item =>
    match payloadIn wire item with
    | some (.actionRequestChunk chunk) => some (chunk.actionId, requestPiece chunk)
    | _ => none
  | .toRequester, item =>
    match payloadIn wire item with
    | some (.actionResponseChunk chunk) => some (chunk.actionId, replyPiece chunk)
    | _ => none

/-- Chunks matched to the action, and those queued, with channel and id. -/
structure Flow where
  matched : List Piece := []
  queued : List (Sender × String × Piece) := []

def Flow.sent (flow : Flow) : List Piece := flow.queued.map fun entry => entry.2.2

def Flow.on (flow : Flow) (tx : Sender) : List Piece :=
  (flow.queued.filter fun entry => entry.1 = tx).map fun entry => entry.2.2

structure Stream where
  live : Bool := true
  flows : Direction → Flow := fun _ => {}

def Turn.matched (key : String) : Turn → Option (Direction × Piece × PendingAction)
  | .requested other pending chunk _ => if other = key then some (.toProvider, requestPiece chunk, pending) else none
  | .replied other pending chunk _ => if other = key then some (.toRequester, replyPiece chunk, pending) else none
  | _ => none

def receiver (registry : PluginRegistry) (pending : PendingAction) : Direction → Option Sender
  | .toProvider => (registry.get pending.providerId).map fun provider => provider.writeTx
  | .toRequester => some pending.requesterWriteTx

namespace Stream
variable (ctx : Context β) (key : String)

def arrivals (way : Direction) (pending : PendingAction) (before after : RouterState β) :
    List (Sender × String × Piece) :=
  match receiver before.registry pending way with
  | none => []
  | some tx =>
    ((Mailboxes.added before.net after.net tx).filterMap (pieceIn ctx.wire way)).map fun piece => (tx, piece)

def observe (stream : Stream) (before after : RouterState β) (turn : Turn) : Stream where
  live := (after.registry.getPendingAction key).isSome && !turn.opens key
  flows := match turn.matched key with
    | none => stream.flows
    | some (way, piece, pending) => Function.update stream.flows way {
        matched := (stream.flows way).matched ++ [piece]
        queued := (stream.flows way).queued ++ arrivals ctx way pending before after }

/-- A stream is watched until its entry goes or is replaced. -/
def follow (stream : Stream) (kernel next : Kernel β) : Action β → Stream
  | .route moment =>
    match kernel.incoming with
    | [] => stream
    | msg :: _ =>
      if stream.live then stream.observe ctx key kernel.router next.router (turn ctx moment msg kernel.router) else stream
  | _ => { stream with live := stream.live && (next.router.registry.getPendingAction key).isSome }

def step (state : Kernel β × Stream) (action : Action β) : Option (Kernel β × Stream) :=
  (state.1.step ctx action).map fun next => (next, state.2.follow ctx key state.1 next action)

/-- A provider that gets a chunk of the action is on the given channel. -/
def keepsChannel (tx : Sender) (state : Kernel β × Stream) : Action β → Bool
  | .route moment => state.1.incoming.head?.all fun msg =>
      match (turn ctx moment msg state.1.router).matched key with
      | some (.toProvider, _, pending) =>
        (state.1.router.registry.get pending.providerId).all fun provider => provider.writeTx == tx
      | _ => true
  | _ => true

end Stream

section Arrivals
variable {moment : Moment} {msg : IncomingMessage β} {st : RouterState β} {pending : PendingAction}
  {after : RouterState β} {way : Direction}

def pieceOf : Direction → Speech → Option (String × Piece)
  | .toProvider, .request chunk => some (chunk.actionId, requestPiece chunk)
  | .toRequester, .reply chunk => some (chunk.actionId, replyPiece chunk)
  | _, _ => none

theorem pieceIn_eq (wire : Wire β) (way : Direction) :
    pieceIn wire way = fun item => (speechIn wire item).bind (pieceOf way) := by
  funext item
  cases way with
  | toProvider =>
    simp only [pieceIn, speechIn]
    cases payloadIn wire item with
    | none => rfl
    | some payload => cases payload <;> rfl
  | toRequester =>
    simp only [pieceIn, speechIn]
    cases payloadIn wire item with
    | none => rfl
    | some payload => cases payload <;> rfl

def receiverId (key : String) (pending : PendingAction) : Direction → String
  | .toProvider => key
  | .toRequester => pending.originalActionId

theorem arrivals_delivered {channel word piece} (aimed : receiver st.registry pending way = some channel)
    (spoken : pieceOf way word = some piece)
    (posted : ∃ item, speechIn ctx.wire item = some word ∧ after.net = st.net.post channel item) :
    Stream.arrivals ctx way pending st after = [(channel, piece)] := by
  obtain ⟨item, seen, net⟩ := posted
  simp [Stream.arrivals, aimed, net, pieceIn_eq, seen, spoken]

theorem arrivals_ended (way : Direction) (pending : PendingAction)
    (shows : Mailboxes.Shows (speechIn ctx.wire) (Turn.lastWords pending) st.net after.net) :
    Stream.arrivals ctx way pending st after = [] := by
  simp only [Stream.arrivals]
  split
  · rfl
  next tx _ =>
    have closer := shows.closer (pieceOf way) tx
    have none : (((Turn.lastWords pending).filter fun entry => entry.1 = tx).map Prod.snd).filterMap
        (pieceOf way) = [] := by
      apply List.filterMap_eq_nil_iff.mpr
      intro word said
      obtain ⟨entry, member, rfl⟩ := List.mem_map.mp said
      have listed := (List.mem_filter.mp member).1
      simp only [Turn.lastWords] at listed
      split at listed
      · cases listed
      · rw [List.mem_singleton.mp listed]
        cases way <;> rfl
    rw [none] at closer
    rw [pieceIn_eq, List.sublist_nil.mp closer]
    rfl

theorem matched_arrives {piece} (matched : (turn ctx moment msg st).matched key = some (way, piece, pending)) :
    (∃ channel, receiver st.registry pending way = some channel ∧
      Stream.arrivals ctx way pending st (st.routeMessage ctx moment msg).1 =
        [(channel, receiverId key pending way, piece)]) ∨
    (Stream.arrivals ctx way pending st (st.routeMessage ctx moment msg).1 = [] ∧
      (st.routeMessage ctx moment msg).1.registry.getPendingAction key = none) := by
  have own : ∀ target, ctx.wire.targetAsStr msg.frame.target = some target → target = "kernel" := by
    intro target named
    have addressed := turn_own ctx moment msg st (by intro idle; rw [idle] at matched; cases matched)
      (by intro key pending called; rw [called] at matched; cases matched)
    rw [named] at addressed
    exact Option.some.inj addressed
  have enacts := routeMessage_enacts ctx moment msg st own
  have aimed := (turn_fits ctx moment msg st).2
  generalize turn ctx moment msg st = taken at matched enacts aimed
  have gone : ∀ table : DashMap String PendingAction, DashMap.get (table.erase key) key = none :=
    fun table => DashMap.get_erase_self table key
  cases taken with
  | requested other entry chunk queued =>
    simp only [Turn.matched] at matched
    split at matched
    next same =>
      cases matched
      subst same
      cases queued with
      | none => exact .inr ⟨arrivals_ended _ _ enacts.shows, (congrArg (DashMap.get · other) enacts.table).trans (gone _)⟩
      | some channel =>
        obtain ⟨provider, found, same⟩ := aimed
        have lookup : receiver st.registry pending .toProvider = some channel := by simp [receiver, found, same]
        exact .inl ⟨channel, lookup, arrivals_delivered lookup rfl (enacts.delivers channel _ rfl)⟩
    · cases matched
  | replied other entry chunk queued =>
    simp only [Turn.matched] at matched
    split at matched
    next same =>
      cases matched
      subst same
      cases queued with
      | none => exact .inr ⟨arrivals_ended _ _ enacts.shows, (congrArg (DashMap.get · other) enacts.table).trans (gone _)⟩
      | some channel =>
        have lookup : receiver st.registry pending .toRequester = some channel := congrArg some aimed
        exact .inl ⟨channel, lookup, arrivals_delivered lookup rfl (enacts.delivers channel _ rfl)⟩
    · cases matched
  | _ => cases matched

end Arrivals

section Invariant
variable {origin : PendingAction} {kernel next : Kernel β} {stream : Stream} {action : Action β}
  {channels : Direction → Option Sender} {way : Direction} {piece : Piece} {rest : List (IncomingMessage β)}
  {msg : IncomingMessage β} {key : String}

/-- The watched entry still has the parties it started with, all its chunks were
queued, and those that were queued before it went come first. Where a channel is
given, all of them went there. -/
structure Sound (key : String) (origin : PendingAction) (channels : Direction → Option Sender)
    (state : Kernel β × Stream) : Prop where
  parties : state.2.live = true → ∃ now, state.1.router.registry.getPendingAction key = some now ∧ SameParties origin now
  whole : state.2.live = true → ∀ way, (state.2.flows way).sent = (state.2.flows way).matched
  first : ∀ way, (state.2.flows way).sent <+: (state.2.flows way).matched
  channel : ∀ way tx, channels way = some tx → ∀ entry ∈ (state.2.flows way).queued, entry.1 = tx
  named : ∀ way, ∀ entry ∈ (state.2.flows way).queued, entry.2.1 = receiverId key origin way

theorem Sound.unmatched {live} (sound : Sound key origin channels (kernel, stream))
    (ended : live = true → stream.live = true)
    (kept : live = true → ∃ now, next.router.registry.getPendingAction key = some now ∧ SameParties origin now) :
    Sound key origin channels (next, { stream with live }) where
  parties := kept
  whole running := sound.whole (ended running)
  first := sound.first
  channel := sound.channel
  named := sound.named

theorem Sound.matched {live arrived}
    (sound : Sound key origin channels (kernel, stream)) (running : stream.live = true)
    (kept : live = true → ∃ now, next.router.registry.getPendingAction key = some now ∧ SameParties origin now)
    (outcome : (∃ channel, arrived = [(channel, receiverId key origin way, piece)] ∧
      ∀ tx, channels way = some tx → channel = tx) ∨ (arrived = [] ∧ live = false)) :
    Sound key origin channels (next, { live, flows := Function.update stream.flows way {
      matched := (stream.flows way).matched ++ [piece]
      queued := (stream.flows way).queued ++ arrived } }) := by
  have whole := sound.whole running way
  refine ⟨kept, ?_, ?_, ?_, ?_⟩
  · intro stillLive
    apply (Function.forall_update_iff stream.flows fun _ flow => flow.sent = flow.matched).mpr
    refine ⟨?_, fun other _ => sound.whole running other⟩
    rcases outcome with ⟨channel, rfl, _⟩ | ⟨_, dead⟩
    · rw [← whole]
      simp [Flow.sent]
    · rw [dead] at stillLive
      cases stillLive
  · apply (Function.forall_update_iff stream.flows fun _ flow => flow.sent <+: flow.matched).mpr
    refine ⟨?_, fun other _ => sound.first other⟩
    rw [← whole]
    rcases outcome with ⟨channel, rfl, _⟩ | ⟨rfl, _⟩
    · simp [Flow.sent]
    · simp [Flow.sent]
  · apply (Function.forall_update_iff stream.flows fun other flow => ∀ tx, channels other = some tx →
      ∀ entry ∈ flow.queued, entry.1 = tx).mpr
    refine ⟨?_, fun other _ => sound.channel other⟩
    intro tx given entry member
    rcases List.mem_append.mp member with old | new
    · exact sound.channel way tx given entry old
    · rcases outcome with ⟨channel, rfl, aimed⟩ | ⟨rfl, _⟩
      · rw [List.mem_singleton.mp new]
        exact aimed tx given
      · cases new
  · apply (Function.forall_update_iff stream.flows fun other flow =>
      ∀ entry ∈ flow.queued, entry.2.1 = receiverId key origin other).mpr
    refine ⟨?_, fun other _ => sound.named other⟩
    intro entry member
    rcases List.mem_append.mp member with old | new
    · exact sound.named way entry old
    · rcases outcome with ⟨channel, rfl, _⟩ | ⟨rfl, _⟩
      · rw [List.mem_singleton.mp new]
      · cases new

theorem Turn.matched_found {turn : Turn} {pendingActions : DashMap String PendingAction} {pending : PendingAction}
    (fits : turn.Fits pendingActions)
    (matched : turn.matched key = some (way, piece, pending)) : pendingActions.get key = some pending := by
  cases turn with
  | requested other entry chunk queued =>
    simp only [Turn.matched] at matched
    split at matched
    next same =>
      cases matched
      exact same ▸ fits
    · cases matched
  | replied other entry chunk queued =>
    simp only [Turn.matched] at matched
    split at matched
    next same =>
      cases matched
      exact same ▸ fits
    · cases matched
  | _ => cases matched

theorem Sound.kept (sound : Sound key origin channels (kernel, stream)) (running : stream.live = true)
    (took : kernel.step ctx action = some next)
    (elsewhere : ∀ moment msg rest, action = .route moment → kernel.incoming = msg :: rest →
      (turn ctx moment msg kernel.router).opens key = false)
    (present : (next.router.registry.getPendingAction key).isSome = true) :
    ∃ now, next.router.registry.getPendingAction key = some now ∧ SameParties origin now := by
  obtain ⟨now, found⟩ := Option.isSome_iff_exists.mp present
  obtain ⟨before, stored, same⟩ := parties_step took elsewhere found
  obtain ⟨held, holds, started⟩ := sound.parties running
  rw [stored] at holds
  cases holds
  exact ⟨now, found, started.trans same⟩

theorem aimed_channel {moment held channel tx} (given : channels way = some tx)
    (head : kernel.incoming = msg :: rest)
    (matched : (turn ctx moment msg kernel.router).matched key = some (way, piece, held))
    (started : SameParties origin held) (aimed : receiver kernel.router.registry held way = some channel)
    (toRequester : ∀ tx, channels .toRequester = some tx → tx = origin.requesterWriteTx)
    (toProvider : ∀ tx, channels .toProvider = some tx →
      Stream.keepsChannel ctx key tx (kernel, stream) (.route moment) = true) : channel = tx := by
  cases way with
  | toRequester =>
    have direct : held.requesterWriteTx = channel := Option.some.inj aimed
    rw [toRequester tx given, ← direct]
    exact started.requesterWriteTx
  | toProvider =>
    have steady := toProvider tx given
    simp only [Stream.keepsChannel, head, List.head?_cons, Option.all_some, matched] at steady
    obtain ⟨provider, registered, rfl⟩ := Option.map_eq_some_iff.mp aimed
    simpa [registered] using steady

theorem Sound.observed {moment : Moment}
    (took : kernel.step ctx (.route moment) = some next) (sound : Sound key origin channels (kernel, stream))
    (running : stream.live = true) (head : kernel.incoming = msg :: rest)
    (router : next.router = (kernel.router.routeMessage ctx moment msg).1)
    (toRequester : ∀ tx, channels .toRequester = some tx → tx = origin.requesterWriteTx)
    (toProvider : ∀ tx, channels .toProvider = some tx →
      Stream.keepsChannel ctx key tx (kernel, stream) (.route moment) = true) :
    Sound key origin channels
      (next, stream.observe ctx key kernel.router next.router (turn ctx moment msg kernel.router)) := by
  have kept : ((next.router.registry.getPendingAction key).isSome &&
      !(turn ctx moment msg kernel.router).opens key) = true →
      ∃ now, next.router.registry.getPendingAction key = some now ∧ SameParties origin now := by
    intro alive
    simp only [Bool.and_eq_true, Bool.not_eq_true'] at alive
    refine sound.kept running took ?_ alive.1
    intro other first others sameAction sameHead
    cases sameAction
    rw [head] at sameHead
    cases sameHead
    exact alive.2
  simp only [Stream.observe]
  cases matched : (turn ctx moment msg kernel.router).matched key with
  | none => exact sound.unmatched (fun _ => running) kept
  | some found =>
    obtain ⟨way, piece, pending⟩ := found
    have stored := Turn.matched_found (turn_fits ctx moment msg kernel.router).1 matched
    obtain ⟨held, holds, started⟩ := sound.parties running
    have mine : held = pending := Option.some.inj (holds.symm.trans stored)
    subst mine
    apply sound.matched running kept
    rw [router]
    rcases matched_arrives matched with ⟨channel, aimed, arrived⟩ | ⟨nothing, gone⟩
    · refine .inl ⟨channel, ?_, ?_⟩
      · have sameId : receiverId key held way = receiverId key origin way := by
          cases way with
          | toProvider => rfl
          | toRequester => exact started.originalActionId
        rw [arrived, sameId]
      · intro tx given
        exact aimed_channel given head matched started aimed toRequester toProvider
    · exact .inr ⟨nothing, by rw [gone]; rfl⟩

theorem sound_step (took : kernel.step ctx action = some next) (sound : Sound key origin channels (kernel, stream))
    (toRequester : ∀ tx, channels .toRequester = some tx → tx = origin.requesterWriteTx)
    (toProvider : ∀ tx, channels .toProvider = some tx → Stream.keepsChannel ctx key tx (kernel, stream) action = true) :
    Sound key origin channels (next, stream.follow ctx key kernel next action) := by
  by_cases routes : ∃ moment, action = .route moment
  · obtain ⟨moment, rfl⟩ := routes
    obtain ⟨msg, rest, head, same⟩ := route_some took
    have router : next.router = (kernel.router.routeMessage ctx moment msg).1 := by rw [same]
    simp only [Stream.follow, head]
    split
    next running => exact sound.observed took running head router toRequester toProvider
    next stopped => exact sound.unmatched id fun alive => absurd alive stopped
  · have steady : stream.follow ctx key kernel next action =
        { stream with live := stream.live && (next.router.registry.getPendingAction key).isSome } := by
      cases action with
      | route moment => exact absurd ⟨moment, rfl⟩ routes
      | _ => rfl
    rw [steady]
    apply sound.unmatched
    · intro alive
      simp only [Bool.and_eq_true] at alive
      exact alive.1
    · intro alive
      simp only [Bool.and_eq_true] at alive
      refine sound.kept alive.1 took ?_ alive.2
      intro moment _ _ same
      exact absurd ⟨moment, same⟩ routes

end Invariant

theorem Flow.on_prefix {flow : Flow} {tx : Sender} (first : flow.sent <+: flow.matched)
    (channel : ∀ entry ∈ flow.queued, entry.1 = tx) (other : Sender) : flow.on other <+: flow.matched := by
  by_cases same : other = tx
  · subst same
    have whole : flow.queued.filter (fun entry => entry.1 = other) = flow.queued := by
      apply List.filter_eq_self.mpr
      simpa using channel
    rw [Flow.on, whole]
    exact first
  · have none : flow.queued.filter (fun entry => entry.1 = other) = [] := by
      apply List.filter_eq_nil_iff.mpr
      intro entry member
      simpa [channel entry member] using fun equal => same equal.symm
    rw [Flow.on, none]
    exact List.nil_prefix

theorem sound_start {origin : PendingAction} {start : Kernel β} (channels : Direction → Option Sender)
    (opened : start.router.registry.getPendingAction key = some origin) : Sound key origin channels (start, {}) where
  parties _ := ⟨origin, opened, .refl origin⟩
  whole _ _ := rfl
  first _ := List.prefix_refl _
  channel _ _ _ := nofun
  named _ := nofun

theorem Sound.lost {origin : PendingAction} {channels : Direction → Option Sender} {ctx : Context β}
    {state next : Kernel β × Stream} {action : Action β} {way : Direction}
    (sound : Sound key origin channels state) (reached : Sound key origin channels next)
    (took : Stream.step ctx key state action = some next) (running : state.2.live = true)
    (missing : (next.2.flows way).sent ≠ (next.2.flows way).matched) :
    next.1.router.registry.getPendingAction key = none := by
  obtain ⟨kernel, moved, rfl⟩ := Option.map_eq_some_iff.mp took
  have ended : (state.2.follow ctx key state.1 kernel action).live ≠ true :=
    fun alive => missing (reached.whole alive way)
  have whole := sound.whole running way
  cases action with
  | route moment =>
    obtain ⟨msg, rest, head, _⟩ := route_some moved
    simp only [Stream.follow, head, running, if_true, Stream.observe] at missing ended
    cases matched : (turn ctx moment msg state.1.router).matched key with
    | none =>
      rw [matched] at missing
      exact absurd whole missing
    | some found =>
      have opensNothing : (turn ctx moment msg state.1.router).opens key = false := by
        generalize turn ctx moment msg state.1.router = taken at matched
        cases taken with
        | requested => rfl
        | replied => rfl
        | _ => cases matched
      simpa [opensNothing] using ended
  | _ => exact absurd whole missing

/-- In each direction the chunks of a pending action are queued as they came and
in that order, until one is not queued, and with that step the action is gone.
Replies all go to the channel of the request; request chunks go to one channel as
long as the provider stays on the one it has. -/
theorem stream_chunks_in_order (ctx : Context β) (key : String) (start : Kernel β) (origin : PendingAction)
    (opened : start.router.registry.getPendingAction key = some origin) :
    (∀ state, Run (Stream.step ctx key) unguarded (start, {}) state →
      (∀ way, (state.2.flows way).sent <+: (state.2.flows way).matched ∧
        ∀ entry ∈ (state.2.flows way).queued, entry.2.1 = receiverId key origin way) ∧
      (∀ tx, (state.2.flows .toRequester).on tx <+: (state.2.flows .toRequester).matched) ∧
      (state.2.live = true → ∀ action next, Stream.step ctx key state action = some next →
        ∀ way, (next.2.flows way).sent ≠ (next.2.flows way).matched →
          next.1.router.registry.getPendingAction key = none)) ∧
    ∀ provider state, start.router.registry.get origin.providerId = some provider →
      Run (Stream.step ctx key) (Stream.keepsChannel ctx key provider.writeTx) (start, {}) state →
      ∀ way tx, (state.2.flows way).on tx <+: (state.2.flows way).matched := by
  have replies (state : Kernel β × Stream) (run : Run (Stream.step ctx key) unguarded (start, {}) state) :
      Sound key origin (fun way => match way with
        | .toProvider => none
        | .toRequester => some origin.requesterWriteTx) state := by
    apply run.preserves (sound_start _ opened)
    intro current action next _ took sound
    obtain ⟨kernel, moved, rfl⟩ := Option.map_eq_some_iff.mp took
    exact sound_step moved sound (fun _ given => (Option.some.inj given).symm) nofun
  refine ⟨?_, ?_⟩
  · intro state run
    have sound := replies state run
    refine ⟨fun way => ⟨sound.first way, sound.named way⟩, ?_, ?_⟩
    · exact Flow.on_prefix (sound.first .toRequester) (sound.channel .toRequester _ rfl)
    · intro running action next took way missing
      exact sound.lost (replies next (.step run rfl took)) took running missing
  · intro provider state provides run way tx
    have sound : Sound key origin (fun way => match way with
        | .toProvider => some provider.writeTx
        | .toRequester => some origin.requesterWriteTx) state := by
      apply run.preserves (sound_start _ opened)
      intro current action next allowed took sound
      obtain ⟨kernel, moved, rfl⟩ := Option.map_eq_some_iff.mp took
      refine sound_step moved sound (fun _ given => (Option.some.inj given).symm) ?_
      intro tx given
      cases given
      exact allowed
    cases way with
    | toProvider => exact Flow.on_prefix (sound.first .toProvider) (sound.channel .toProvider _ rfl) tx
    | toRequester => exact Flow.on_prefix (sound.first .toRequester) (sound.channel .toRequester _ rfl) tx

section Reconnect
open Scenario

def filmRegister : PluginRegister := { pluginId := "tv", manifest := some { actions := ["record"] } }

def filming : List (Action Packet) := [
  .accept 1 .uds, .receive (hello 1 "notes"), .route start,
  .accept 2 .uds, .receive (sends 2 "kernel" (.pluginRegister filmRegister)), .route start,
  .receive (sends 1 "kernel" (.actionRequest { actionId := "film", action := "record", streaming := true })), .route start]

def filmStart : Kernel Packet := (exec (Kernel.step context) unguarded {} filming).get (by decide +kernel)

def filmEntry : PendingAction := (filmStart.router.registry.getPendingAction "kact-0").get (by decide +kernel)

def filmTv : PluginEntry := (filmStart.router.registry.get "tv").get (by decide +kernel)

def filmChunk (seq : Nat) : List (Action Packet) := [
  .receive (sends 1 "kernel" (.actionRequestChunk { actionId := "film", seq, chunk := [7], final := false })),
  .route start]

def tvReconnects : List (Action Packet) := [
  .hangup 2, .take .uds, .publishLeft .uds start, .unsubscribe .uds, .unregister .uds,
  .accept 3 .uds, .receive (sends 3 "kernel" (.pluginRegister filmRegister)), .route start]

def filmEnd : Kernel Packet × Stream :=
  (exec (Stream.step context "kact-0") (Stream.keepsChannel context "kact-0" filmTv.writeTx) (filmStart, {})
    (filmChunk 0 ++ filmChunk 1)).get (by decide +kernel)

theorem stream_chunks_in_order_film :
    (filmEnd.2.flows .toProvider).matched = [⟨0, [7], some false⟩, ⟨1, [7], some false⟩] ∧
      (filmEnd.2.flows .toProvider).on filmTv.writeTx <+: (filmEnd.2.flows .toProvider).matched := by
  have opened : filmStart.router.registry.getPendingAction "kact-0" = some filmEntry := (Option.some_get _).symm
  have named : filmEntry.providerId = "tv" := by decide +kernel
  have provides : filmStart.router.registry.get filmEntry.providerId = some filmTv := by
    rw [named]
    exact (Option.some_get _).symm
  exact ⟨by decide +kernel, (stream_chunks_in_order context "kact-0" filmStart filmEntry opened).2 filmTv filmEnd provides
    (exec_get_run (by decide +kernel)) .toProvider filmTv.writeTx⟩

def splitEnd : Kernel Packet × Stream :=
  (exec (Stream.step context "kact-0") unguarded (filmStart, {})
    (filmChunk 0 ++ tvReconnects ++ filmChunk 1)).get (by decide +kernel)

/-- The session outlives the connection of its provider: the channel of the new
one starts with the second chunk. -/
theorem reconnected_provider_misses_chunk :
    Run (Kernel.step context) unguarded {} filmStart ∧
      Run (Stream.step context "kact-0") unguarded (filmStart, {}) splitEnd ∧ splitEnd.2.live = true ∧
      (splitEnd.1.router.registry.get "tv").map PluginEntry.writeTx = some { conn := 3 } ∧
      (splitEnd.2.flows .toProvider).matched = [⟨0, [7], some false⟩, ⟨1, [7], some false⟩] ∧
      (splitEnd.2.flows .toProvider).on { conn := 3 } = [⟨1, [7], some false⟩] ∧
      ¬ (splitEnd.2.flows .toProvider).on { conn := 3 } <+: (splitEnd.2.flows .toProvider).matched :=
  ⟨exec_get_run (by decide +kernel), exec_get_run (by decide +kernel), by decide +kernel, by decide +kernel,
    by decide +kernel, by decide +kernel, by decide +kernel⟩

end Reconnect
end Vynkor.Proofs
