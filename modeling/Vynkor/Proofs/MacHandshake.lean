import Vynkor.Proofs.WriteChannels

/-! The session key and the acknowledgement of a registration on their way through
one write channel: what is written before the key takes effect, and what is tagged
afterwards. -/

namespace Vynkor.Proofs
open Execution RouterState
variable {β : Type} {ctx : Context β} {framing : Framing β} {limits : ConnectionLimits} {action : TaskAction β}
  {conn : Nat}

section Links
variable {state next : Tasks β} {delivered : Bool}

structure Read (before after : Link β) : Prop where
  ends : SameEnds before after
  closing : before.task = .closing → after.task = .closing

theorem Read.refl (link : Link β) : Read link link := ⟨⟨rfl, rfl⟩, id⟩

theorem step_link (took : state.step ctx framing limits action = some next) (conn : Nat) :
    Read (state.links conn) (next.links conn) ∨ ∃ delivered, action = .write conn delivered := by
  by_cases mine : touches action = some conn
  · cases action with
    | read =>
      cases mine
      obtain ⟨reading, same⟩ := read_some took
      rw [setLink_self]
      exact .inl ⟨same, fun closing => by simp [reading] at closing⟩
    | leave =>
      cases mine
      obtain ⟨reading, same⟩ := leave_some took
      rw [setLink_self]
      exact .inl ⟨same, fun closing => by simp [reading] at closing⟩
    | enqueue =>
      cases mine
      obtain ⟨_, _, holding, _, rfl⟩ := enqueue_some took
      rw [Tasks.setTask, setLink_self]
      exact .inl ⟨⟨rfl, rfl⟩, fun closing => by simp [holding] at closing⟩
    | refuse =>
      cases mine
      obtain ⟨_, _, _, rfl⟩ := refuse_some took
      rw [Tasks.setTask, setLink_self]
      exact .inl ⟨⟨rfl, rfl⟩, fun _ => rfl⟩
    | write _ delivered =>
      cases mine
      exact .inr ⟨delivered, rfl⟩
    | _ => cases mine
  · rw [(step_frame took).links conn mine]
    exact .inl (.refl _)

/-- The task that writes to the connection is over. -/
inductive Over (state : Tasks β) (conn : Nat) : Prop where
  | closed (closed : (state.net { conn }).closed = true)
  | closing {ended} (gateway : state.kernel.connections.get conn = some { transport := .ws, ended })
      (closing : (state.links conn).task = .closing)

theorem writes_ws (writing : state.writes conn = some .ws) :
    ∃ ended, state.kernel.connections.get conn = some { transport := .ws, ended } := by
  simp only [Tasks.writes] at writing
  split at writing
  · split at writing <;> cases writing
  next found _ => exact ⟨_, found⟩
  · cases writing

theorem Over.silent (isOver : Over state conn) : state.writes conn = none := by
  cases isOver with
  | closed closed =>
    simp only [Tasks.writes, closed, if_true]
    split <;> rfl
  | closing gateway closing => simp [Tasks.writes, gateway, closing]

theorem write_live (took : state.write framing conn delivered = some next) : ¬Over state conn := by
  intro isOver
  simp [Tasks.write, isOver.silent] at took

theorem Over.stays (isOver : Over state conn) (took : state.step ctx framing limits action = some next) :
    Over next conn := by
  cases isOver with
  | closed closed => exact .closed ((step_net took).closed_stays closed)
  | closing gateway closing =>
    obtain ⟨_, still⟩ := (step_frame took).connections.keeps gateway
    rcases step_link took conn with read | ⟨delivered, rfl⟩
    · exact .closing still (read.closing closing)
    · exact absurd (.closing gateway closing) (write_live took)

inductive Pops (framing : Framing β) (conn : Nat) (state next : Tasks β) : Prop where
  | finished (isOver : Over next conn) (socket : (next.links conn).socket = (state.links conn).socket)
  | installed {key} (queue : (state.net { conn }).queue = .enableMac key :: (next.net { conn }).queue)
      (armed : (next.links conn).key = some key) (socket : (next.links conn).socket = (state.links conn).socket)
  | written {frame} (queue : (state.net { conn }).queue = .frame frame :: (next.net { conn }).queue)
      (key : (next.links conn).key = (state.links conn).key)
      (socket : (next.links conn).socket = (state.links conn).socket ++ [framing.tagged (state.links conn).key frame])
  | skipped {frame} (queue : (state.net { conn }).queue = .frame frame :: (next.net { conn }).queue)
      (tooLarge : framing.tooLarge frame.payload = true) (ends : SameEnds (state.links conn) (next.links conn))

theorem drained_queue {item rest} (link : Link β) (queue : (state.net { conn }).queue = item :: rest) :
    (((state.setNet (state.net.drain { conn })).setLink conn link).net { conn }).queue = rest := by
  simp [Tasks.net, Tasks.setLink, Tasks.setNet, Tasks.setRouter, Kernel.setRouter, Mailboxes.drain]
  simp only [Tasks.net] at queue
  rw [queue]
  rfl

theorem write_pops (took : state.write framing conn delivered = some next) :
    Pops framing conn state next := by
  have written := write_some took
  cases written with
  | installed queue =>
    refine .installed (by rw [drained_queue _ queue, queue]) ?_ ?_ <;> simp [Tasks.setLink]
  | written queue =>
    refine .written (by rw [drained_queue _ queue, queue]) ?_ ?_ <;> simp [Tasks.setLink]
  | skipped queue tooLarge =>
    refine .skipped ?_ tooLarge ⟨rfl, rfl⟩
    rw [queue]
    congr 1
    exact (drained_queue (state.links conn) queue).symm
  | lost gateway =>
    obtain ⟨ended, found⟩ := writes_ws gateway
    refine .finished (.closing found ?_) ?_ <;> simp [Tasks.setTask, Tasks.setLink, Tasks.setNet, Tasks.setRouter]
  | closed =>
    refine .finished (.closed ?_) rfl
    simp [Tasks.net, Tasks.setNet, Tasks.setRouter, Kernel.setRouter, Mailboxes.close]

inductive Feeds (ctx : Context β) (conn : Nat) (state next : Tasks β) : Prop where
  | finished (isOver : Over next conn)
  | fed {items} (queue : (next.net { conn }).queue = (state.net { conn }).queue ++ items)
      (frames : ∀ item ∈ items, ∃ frame, item = .frame frame) (ends : SameEnds (state.links conn) (next.links conn))
  | keyed {joining key} (before : state.task = .acknowledged joining)
      (own : joining.msg.writeTx = { conn }) (secured : joining.sessionKey ctx = some key)
      (keyed : next.keyed = state.keyed ++ [joining])
      (queue : (next.net { conn }).queue = (state.net { conn }).queue ++ [.enableMac key])
      (ends : SameEnds (state.links conn) (next.links conn))

theorem step_feeds (took : state.step ctx framing limits action = some next) (apart : conn ≠ bridgeConnId)
    (other : ∀ delivered, action ≠ .write conn delivered) : Feeds ctx conn state next := by
  have ends : SameEnds (state.links conn) (next.links conn) := by
    rcases step_link took conn with read | ⟨delivered, mine⟩
    · exact read.ends
    · exact absurd mine (other delivered)
  cases (step_net took).fed apart other with
  | frames queue _ frames => exact .fed queue frames ends
  | @keyed joining key before secured keyed net =>
    by_cases own : joining.msg.writeTx = { conn }
    · cases closed : (state.net { conn }).closed with
      | true => exact .finished (.closed ((step_net took).closed_stays closed))
      | false =>
        refine .keyed before own secured keyed ?_ ends
        rw [net, own]
        exact Mailboxes.send_queue state.net _ _ closed
    · have same : next.net { conn } = state.net { conn } := by
        rw [net]
        exact Mailboxes.send_other state.net _ (Ne.symm own)
      have queue : (next.net { conn }).queue = (state.net { conn }).queue ++ [] := by rw [same, List.append_nil]
      exact .fed queue (by simp) ends
  | hungUp _ closed => exact .finished (.closed closed)

end Links

section Announcing
variable {start state next : Tasks β} {joining : Registering β} {socket : List (Frame β)}
  {queue : List (Outbound β)} {frame : Frame β} {key : Bytes} {delivered : Bool} {st : RouterState β} {bytes : β}

def Acknowledges (ctx : Context β) (joining : Registering β) (frame : Frame β) : Prop :=
  ∃ ack, payloadIn ctx.wire (.frame frame) = some (.pluginRegisterAck ack) ∧ ack.accepted = true ∧
    ack.sessionNonce = joining.nonce ctx

/-- The acknowledgement is written, or queued and small enough to be written. -/
def Underway (ctx : Context β) (framing : Framing β) (joining : Registering β) (socket : List (Frame β))
    (queue : List (Outbound β)) : Prop :=
  (∃ frame ∈ socket, Acknowledges ctx joining frame) ∨
    ∃ frame, .frame frame ∈ queue ∧ Acknowledges ctx joining frame ∧ framing.tooLarge frame.payload = false

theorem Acknowledges.tagged (acknowledges : Acknowledges ctx joining frame) (key : Option Bytes) :
    Acknowledges ctx joining (framing.tagged key frame) := by
  obtain ⟨ack, holds, accepted, nonce⟩ := acknowledges
  refine ⟨ack, ?_, accepted, nonce⟩
  simpa only [payloadIn, tagged_payload] using holds

theorem Underway.more (underway : Underway ctx framing joining socket queue) (items : List (Outbound β)) :
    Underway ctx framing joining socket (queue ++ items) := by
  rcases underway with written | ⟨frame, member, rest⟩
  · exact .inl written
  · exact .inr ⟨frame, List.mem_append_left items member, rest⟩

theorem Underway.written (underway : Underway ctx framing joining socket (.frame frame :: queue))
    (key : Option Bytes) : Underway ctx framing joining (socket ++ [framing.tagged key frame]) queue := by
  rcases underway with ⟨old, member, acknowledges⟩ | ⟨own, member, acknowledges, small⟩
  · exact .inl ⟨old, List.mem_append_left _ member, acknowledges⟩
  · rcases List.mem_cons.mp member with head | later
    · cases head
      exact .inl ⟨_, List.mem_append_right _ List.mem_cons_self, acknowledges.tagged key⟩
    · exact .inr ⟨own, later, acknowledges, small⟩

theorem Underway.skipped (underway : Underway ctx framing joining socket (.frame frame :: queue))
    (tooLarge : framing.tooLarge frame.payload = true) : Underway ctx framing joining socket queue := by
  rcases underway with written | ⟨own, member, acknowledges, small⟩
  · exact .inl written
  · rcases List.mem_cons.mp member with head | later
    · cases head
      rw [small] at tooLarge
      cases tooLarge
    · exact .inr ⟨own, later, acknowledges, small⟩

theorem Underway.installed (underway : Underway ctx framing joining socket (.enableMac key :: queue)) :
    Underway ctx framing joining socket queue := by
  rcases underway with written | ⟨own, member, rest⟩
  · exact .inl written
  · rcases List.mem_cons.mp member with head | later
    · cases head
    · exact .inr ⟨own, later, rest⟩

/-- Every key in the channel of the connection is that of a registration whose
acknowledgement went ahead of it. -/
def Announced (ctx : Context β) (framing : Framing β) (state : Tasks β) (conn : Nat) : Prop :=
  ∀ front key back, (state.net { conn }).queue = front ++ .enableMac key :: back →
    ∃ joining ∈ state.keyed, joining.msg.writeTx = { conn } ∧ joining.sessionKey ctx = some key ∧
      Underway ctx framing joining (state.links conn).socket front

theorem split_before {front back old new : List (Outbound β)} (whole : old ++ new = front ++ .enableMac key :: back)
    (frames : ∀ item ∈ new, ∃ frame, item = .frame frame) : ∃ middle, old = front ++ .enableMac key :: middle := by
  rcases List.append_eq_append_iff.mp whole with ⟨middle, _, rest⟩ | ⟨middle, cut, rest⟩
  · obtain ⟨_, absurdity⟩ := frames (.enableMac key) (by rw [rest]; simp)
    cases absurdity
  · cases middle with
    | nil =>
      rw [List.nil_append] at rest
      obtain ⟨_, absurdity⟩ := frames (.enableMac key) (rest ▸ List.mem_cons_self)
      cases absurdity
    | cons first middle =>
      simp only [List.cons_append, List.cons.injEq] at rest
      rw [← rest.1] at cut
      exact ⟨middle, cut⟩

theorem keyed_grows (move : RouterMove ctx state action next) (member : joining ∈ state.keyed) :
    joining ∈ next.keyed := by
  cases move with
  | stays _ keyed => rwa [keyed]
  | accepts _ _ keyed => rwa [keyed]
  | acknowledges _ _ _ keyed => rwa [keyed]
  | arms _ _ _ keyed =>
    rw [keyed]
    exact List.mem_append_left _ member
  | joins _ _ keyed => rwa [keyed]

def acceptedAck (ctx : Context β) (joining : Registering β) (st : RouterState β) : PluginRegisterAck where
  accepted := true
  rejectReason := ""
  grantedPermissions := ((st.registry.get joining.pluginId).map fun entry => entry.manifest.permissions).getD []
  sessionNonce := joining.nonce ctx

def acknowledgement (ctx : Context β) (joining : Registering β) (st : RouterState β) : Envelope where
  messageId := joining.messageId
  payload := some (.pluginRegisterAck (acceptedAck ctx joining st))

/-- The acknowledgement finds room in the channel, can be encoded and is not too
large to be written, unless the channel is closed. -/
def announces (ctx : Context β) (framing : Framing β) (state : Tasks β) : TaskAction β → Bool
  | .acknowledge =>
    match ctx.macSecret, state.task with
    | some _, .registered joining =>
      (state.net joining.msg.writeTx).closed || state.kernel.router.hasRoom joining.msg.writeTx &&
        (ctx.wire.encode (state.kernel.router.stampEnvelope joining.moment
          (acknowledgement ctx joining state.kernel.router))).any fun bytes => !framing.tooLarge bytes
    | _, _ => true
  | _ => true

section
variable
  (encoded : ctx.wire.encode (st.stampEnvelope joining.moment (acknowledgement ctx joining st)) = some bytes)
include encoded

theorem acknowledgeStep_queued (room : st.hasRoom joining.msg.writeTx = true) :
    ((st.acknowledgeStep ctx joining).net joining.msg.writeTx).queue =
      (st.net joining.msg.writeTx).queue ++ [.frame (buildFrame ctx.wire "client" 0 bytes)] := by
  have sent : st.acknowledgeStep ctx joining =
      st.sendEnvelope ctx joining.moment joining.msg.writeTx (acknowledgement ctx joining st) := rfl
  simp only [sent, sendEnvelope, trySendEnvelope, buildOutbound, encoded, Option.map_some, trySend]
  rw [Mailboxes.trySend_self writeCapacity st.net _ _ room]

theorem acknowledgement_acknowledges : Acknowledges ctx joining (buildFrame ctx.wire "client" 0 bytes) := by
  refine ⟨acceptedAck ctx joining st, ?_, rfl, rfl⟩
  simp only [payloadIn, buildFrame, ctx.wire.decode_encode _ _ encoded, Option.bind_some]
  rfl

end

/-- Whatever a step takes from the channel of a connection or puts there, an
acknowledgement under way stays under way. -/
theorem underway_step (took : state.step ctx framing limits action = some next) (apart : conn ≠ bridgeConnId)
    (underway : Underway ctx framing joining (state.links conn).socket (state.net { conn }).queue) :
    Over next conn ∨ Underway ctx framing joining (next.links conn).socket (next.net { conn }).queue := by
  by_cases mine : ∃ delivered, action = .write conn delivered
  · obtain ⟨delivered, rfl⟩ := mine
    cases write_pops took with
    | finished isOver _ => exact .inl isOver
    | installed queue _ socket =>
      rw [queue] at underway
      rw [socket]
      exact .inr underway.installed
    | written queue _ socket =>
      rw [queue] at underway
      rw [socket]
      exact .inr (underway.written _)
    | skipped queue tooLarge ends =>
      rw [queue] at underway
      rw [ends.socket]
      exact .inr (underway.skipped tooLarge)
  · cases step_feeds took apart fun delivered same => mine ⟨delivered, same⟩ with
    | finished isOver => exact .inl isOver
    | fed queue _ ends =>
      rw [queue, ends.socket]
      exact .inr (underway.more _)
    | keyed _ _ _ _ queue ends =>
      rw [queue, ends.socket]
      exact .inr (underway.more _)

theorem Announced.pop {item : Outbound β} (announced : Announced ctx framing state conn)
    (keyed : next.keyed = state.keyed) (queue : (state.net { conn }).queue = item :: (next.net { conn }).queue)
    (pops : ∀ joining front, Underway ctx framing joining (state.links conn).socket (item :: front) →
      Underway ctx framing joining (next.links conn).socket front) : Announced ctx framing next conn := by
  intro front key back whole
  obtain ⟨joining, member, own, secured, underway⟩ := announced (item :: front) key back (by
    rw [queue, whole, List.cons_append])
  exact ⟨joining, keyed ▸ member, own, secured, pops joining front underway⟩

theorem announced_pop (took : state.write framing conn delivered = some next)
    (keyed : next.keyed = state.keyed) (announced : Announced ctx framing state conn) :
    Over next conn ∨ Announced ctx framing next conn := by
  cases write_pops took with
  | finished isOver _ => exact .inl isOver
  | installed queue _ socket =>
    refine .inr (announced.pop keyed queue fun _ _ underway => ?_)
    rw [socket]
    exact underway.installed
  | written queue _ socket =>
    refine .inr (announced.pop keyed queue fun _ _ underway => ?_)
    rw [socket]
    exact underway.written _
  | skipped queue tooLarge ends =>
    refine .inr (announced.pop keyed queue fun _ _ underway => ?_)
    rw [ends.socket]
    exact underway.skipped tooLarge

theorem announced_feed (feeds : Feeds ctx conn state next)
    (grows : ∀ joining ∈ state.keyed, joining ∈ next.keyed) (announced : Announced ctx framing state conn)
    (pending : ∀ joining key, state.task = .acknowledged joining → joining.msg.writeTx = { conn } →
      joining.sessionKey ctx = some key →
      Underway ctx framing joining (state.links conn).socket (state.net { conn }).queue) :
    Over next conn ∨ Announced ctx framing next conn := by
  cases feeds with
  | finished isOver => exact .inl isOver
  | fed queue frames ends =>
    refine .inr ?_
    intro front key back whole
    rw [queue] at whole
    obtain ⟨middle, before⟩ := split_before whole frames
    obtain ⟨joining, member, rest⟩ := announced front key middle before
    rw [ends.socket]
    exact ⟨joining, grows joining member, rest⟩
  | @keyed newest fresh task own secured keyed queue ends =>
    refine .inr ?_
    intro front key back whole
    rw [queue] at whole
    rw [ends.socket]
    rcases List.eq_nil_or_concat back with rfl | ⟨middle, last, rfl⟩
    · obtain ⟨sameFront, sameKey⟩ := List.append_inj' whole rfl
      cases sameKey
      subst sameFront
      exact ⟨newest, by simp [keyed], own, secured, pending newest fresh task own secured⟩
    · have cut : (state.net { conn }).queue ++ [.enableMac fresh] = (front ++ .enableMac key :: middle) ++ [last] := by
        rw [whole]
        simp
      obtain ⟨before, _⟩ := List.append_inj' cut rfl
      obtain ⟨joining, member, rest⟩ := announced front key middle before
      exact ⟨joining, grows joining member, rest⟩

structure Fresh (start : Tasks β) : Prop where
  idle : start.task = .idle
  quiet : ∀ tx, (start.net tx).queue = []
  apart : start.kernel.connections.get bridgeConnId = none

/-- On every connection whose writing task is not over, keys follow their
acknowledgements, and so will the key of the registration under way. -/
structure Handshaken (ctx : Context β) (framing : Framing β) (state : Tasks β) : Prop where
  announced : ∀ conn, conn ≠ bridgeConnId → Over state conn ∨ Announced ctx framing state conn
  pending : ∀ conn joining key, conn ≠ bridgeConnId → state.task = .acknowledged joining →
    joining.msg.writeTx = { conn } → joining.sessionKey ctx = some key →
    Over state conn ∨ Underway ctx framing joining (state.links conn).socket (state.net { conn }).queue

theorem fresh_handshaken (fresh : Fresh start) : Handshaken ctx framing start := by
  refine ⟨?_, ?_⟩
  · intro conn _
    refine .inr ?_
    intro front key back whole
    rw [fresh.quiet] at whole
    simp at whole
  · intro conn joining key _ task
    rw [fresh.idle] at task
    cases task

theorem announced_step (took : state.step ctx framing limits action = some next)
    (handshaken : Handshaken ctx framing state) (apart : conn ≠ bridgeConnId) :
    Over next conn ∨ Announced ctx framing next conn := by
  rcases handshaken.announced conn apart with isOver | announced
  · exact .inl (isOver.stays took)
  · by_cases mine : ∃ delivered, action = .write conn delivered
    · obtain ⟨delivered, rfl⟩ := mine
      have written := write_some took
      have keyed : next.keyed = state.keyed := by cases written <;> rfl
      exact announced_pop took keyed announced
    · by_cases ended : Over state conn
      · exact .inl (ended.stays took)
      · have feeds : Feeds ctx conn state next := step_feeds took apart fun delivered same => mine ⟨delivered, same⟩
        apply announced_feed feeds (fun _ member => keyed_grows (step_router took) member) announced
        intro joining key task own secured
        exact (handshaken.pending conn joining key apart task own secured).resolve_left ended

theorem acknowledge_underway {secret} (secured : ctx.macSecret = some secret)
    (allowed : announces ctx framing state .acknowledge = true) (before : state.task = .registered joining)
    (own : joining.msg.writeTx = { conn }) (took : state.acknowledge ctx = some next) :
    Over next conn ∨ Underway ctx framing joining (next.links conn).socket (next.net { conn }).queue := by
  obtain ⟨other, same, rfl⟩ := acknowledge_some took
  rw [before] at same
  cases same
  simp only [announces, secured, before, Bool.or_eq_true, Bool.and_eq_true, Option.any_eq_true,
    Bool.not_eq_true'] at allowed
  rcases allowed with closed | ⟨room, bytes, encoded, small⟩
  · rw [own] at closed
    have step : NetStep ctx framing state .acknowledge _ :=
      step_net (show state.step ctx framing {} .acknowledge = some _ from took)
    exact .inl (.closed (step.closed_stays closed))
  · refine .inr (.inr ⟨buildFrame ctx.wire "client" 0 bytes, ?_, acknowledgement_acknowledges encoded, small⟩)
    have queue := acknowledgeStep_queued encoded room
    rw [own] at queue
    show _ ∈ ((state.kernel.router.acknowledgeStep ctx joining).net { conn }).queue
    rw [queue]
    simp

theorem handshaken_step (allowed : announces ctx framing state action = true)
    (took : state.step ctx framing limits action = some next) (handshaken : Handshaken ctx framing state) :
    Handshaken ctx framing next := by
  refine ⟨fun conn apart => announced_step took handshaken apart, ?_⟩
  intro conn joining key apart task own secured
  cases step_router took with
  | stays same _ =>
    rcases handshaken.pending conn joining key apart (same.symm.trans task) own secured with isOver | underway
    · exact .inl (isOver.stays took)
    · exact underway_step took apart underway
  | acknowledges mine before now =>
    subst mine
    rw [now] at task
    cases task
    cases secret : ctx.macSecret with
    | none => simp [Registering.sessionKey, secret] at secured
    | some secret => exact acknowledge_underway secret allowed before own took
  | accepts _ now | arms _ _ now | joins _ now =>
    rw [now] at task
    cases task

theorem write_connected (took : state.write framing conn delivered = some next) :
    state.kernel.connections.get conn ≠ none := by
  intro unknown
  simp [Tasks.write, Tasks.writes, unknown] at took

theorem write_installs {rest}
    (took : state.write framing conn delivered = some next)
    (taken : (state.net { conn }).queue = .enableMac key :: rest) : (next.links conn).cell = some key := by
  cases writing : state.writes conn with
  | none => simp [Tasks.write, writing] at took
  | some transport =>
    simp only [Tasks.write, writing, taken, Option.some.injEq] at took
    subst took
    simp [Tasks.setLink]

/-- As long as every acknowledgement is queued, whenever a write loop takes a session
key from its channel, the acknowledgement with the nonce of that key is already on
the socket. -/
theorem key_follows_acknowledgement (ctx : Context β) (framing : Framing β) (limits : ConnectionLimits)
    (start state next : Tasks β) (conn : Nat) (delivered : Bool) (key : Bytes) (rest : List (Outbound β))
    (fresh : Fresh start) (run : Run (Tasks.step ctx framing limits) (announces ctx framing) start state)
    (took : state.write framing conn delivered = some next)
    (taken : (state.net { conn }).queue = .enableMac key :: rest) :
    (next.links conn).cell = some key ∧ ∃ joining ∈ state.keyed, joining.msg.writeTx = { conn } ∧
      joining.sessionKey ctx = some key ∧
      ∃ frame ∈ (state.links conn).socket, Acknowledges ctx joining frame := by
  have handshaken : Handshaken ctx framing state :=
    run.preserves (fresh_handshaken fresh) fun _ _ _ allowed took => handshaken_step allowed took
  have unbridged : state.kernel.connections.get bridgeConnId = none :=
    run.preserves fresh.apart fun _ _ _ _ took => (step_frame took).connections.apart
  have apart : conn ≠ bridgeConnId := by
    intro same
    subst same
    exact write_connected took unbridged
  refine ⟨write_installs took taken, ?_⟩
  have announced : Announced ctx framing state conn :=
    (handshaken.announced conn apart).resolve_left (write_live took)
  obtain ⟨joining, member, own, secured, written | ⟨_, queued, _⟩⟩ := announced [] key rest taken
  · exact ⟨joining, member, own, secured, written⟩
  · cases queued

end Announcing

section Lockout
open Scenario

def accepts (frame : Frame Packet) : Bool :=
  match payloadIn Packet.wire (.frame frame) with
  | some (.pluginRegisterAck ack) => ack.accepted
  | _ => false

theorem Acknowledges.accepts {joining frame}
    (acknowledges : Acknowledges vault joining frame) : accepts frame = true := by
  obtain ⟨ack, holds, accepted, _⟩ := acknowledges
  have same : vault.wire = Packet.wire := rfl
  rw [same] at holds
  simp [Proofs.accepts, holds, accepted]

def acknowledgedEnd : Tasks Packet :=
  (exec vaultStep (announces vault Packet.framing) {} (signsOn ++ [.write 1 true])).get (by decide +kernel)

theorem acknowledged_fresh : Fresh ({} : Tasks Packet) := ⟨rfl, fun _ => rfl, rfl⟩

theorem key_follows_acknowledgement_notes :
    ∃ frame ∈ (acknowledgedEnd.links 1).socket, ∃ joining, Acknowledges vault joining frame := by
  have took : acknowledgedEnd.write Packet.framing 1 true = some _ := (Option.some_get (by decide +kernel)).symm
  obtain ⟨_, joining, _, _, _, frame, written, acknowledges⟩ :=
    key_follows_acknowledgement vault Packet.framing {} {} acknowledgedEnd _ 1 true [7] [] acknowledged_fresh
      (exec_get_run (by decide +kernel)) took (by decide +kernel)
  exact ⟨frame, written, joining, acknowledges⟩

/-- The channel is full when the acknowledgement is due, and has room again when the
key is. -/
def lockout : List (TaskAction Packet) :=
  flood ++ handsOver signOn ++ [.acknowledge, .write 1 true, .arm] ++ List.replicate 63 (.write 1 true)

def lockedOutEnd : Tasks Packet := (exec vaultStep unguarded {} lockout).get (by decide +kernel)

theorem lost_acknowledgement_locks_out : Run vaultStep unguarded {} lockedOutEnd ∧
    (lockedOutEnd.net { conn := 1 }).queue = [.enableMac [7]] ∧
    (lockedOutEnd.write Packet.framing 1 true).map (fun next => (next.links 1).cell) = some (some [7]) ∧
    ∀ frame ∈ (lockedOutEnd.links 1).socket, ∀ joining, ¬Acknowledges vault joining frame := by
  refine ⟨exec_get_run (by decide +kernel), by decide +kernel, by decide +kernel, ?_⟩
  intro frame member joining acknowledges
  have none : (lockedOutEnd.links 1).socket.all (fun frame => !accepts frame) = true := by decide +kernel
  have refused := List.all_eq_true.mp none frame member
  rw [acknowledges.accepts] at refused
  cases refused

end Lockout
end Vynkor.Proofs
