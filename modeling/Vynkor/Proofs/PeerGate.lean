import Vynkor.Data.Method
import Vynkor.Proofs.RouterEffects

/-! Who may reach whom by unicast and broadcast. The gates are read off as
conditions on the sender's registry entry; then for each channel it is said
exactly when a peer frame lands in it. -/

namespace Vynkor.Proofs
open Mailboxes PluginRegistry RouterState

section Gates
variable {β : Type} {registry : PluginRegistry} {msg : IncomingMessage β} {sender : PluginEntry} {target : String}

def MayTransmit (sender : PluginEntry) (frame : Frame β) : Prop :=
  sender.manifest.holds .ipcSend = true ∧ (frame.isRawBinary = true → sender.manifest.holds .audioStream = true)

/-- The part of the target before its first dot is listed, the target is not. -/
def ListedByDevice (manifest : PluginManifest) (target : String) : Prop :=
  target ∉ manifest.ipcTargets ∧ ∃ dev cap, Text.splitOnce target '.' = some (dev, cap) ∧ dev ∈ manifest.ipcTargets

theorem stripMac_isRawBinary (frame : Frame β) : frame.stripMac.isRawBinary = frame.isRawBinary := by
  have kept : ~~~flagMacPresent &&& flagRawBinary = flagRawBinary := by decide
  simp only [Frame.isRawBinary, Frame.stripMac, UInt16.and_assoc, kept]

theorem audioAllowed_iff (found : registry.get sender.pluginId = some sender) (frame : Frame β) :
    audioAllowed registry frame sender.pluginId = true ↔
      (frame.isRawBinary = true → sender.manifest.holds .audioStream = true) := by
  simp only [audioAllowed]
  rw [checkPermission_isOk found]
  cases frame.isRawBinary <;> simp

theorem forwardAllowed_iff (manifest : PluginManifest) (target : String) (resolved : Option PluginEntry) :
    forwardAllowed manifest target resolved = true ↔
      target ∈ manifest.ipcTargets ∨ (resolved.isSome = true ∧ ListedByDevice manifest target) := by
  simp only [forwardAllowed, ListedByDevice]
  rw [← Text.splitOnce_isSome]
  by_cases listed : target ∈ manifest.ipcTargets
  · simp [listed]
  · cases split : Text.splitOnce target '.' with
    | none => simp [listed]
    | some pieces =>
      obtain ⟨dev, cap⟩ := pieces
      simp [listed]

theorem authorizeForward_ok_iff : authorizeForward registry msg target = .ok sender ↔
    registry.getByConnId msg.connId = some sender ∧ MayTransmit sender msg.frame ∧
      (∀ entry, registry.getMux target = some entry → entry.userId = sender.userId) ∧
      (target ∈ sender.manifest.ipcTargets ∨
        ((registry.getMux target).isSome = true ∧ ListedByDevice sender.manifest target)) := by
  simp only [authorizeForward]
  cases held : registry.getByConnId msg.connId with
  | none => simp
  | some known =>
    have found := (getByConnId_eq_some.mp held).1
    simp only [checkIpcSend, checkPermission_isOk found, found, Method.guard_eq_ok, Bool.not_eq_true', Bool.not_eq_false,
      forwardAllowed_iff, audioAllowed_iff found, Except.ok.injEq, Option.some.injEq, MayTransmit]
    have sameUser : ¬(registry.getMux target).any (fun entry => decide (entry.userId ≠ known.userId)) = true ↔
        ∀ entry, registry.getMux target = some entry → entry.userId = known.userId := by
      cases registry.getMux target <;> simp
    rw [sameUser]
    constructor
    · rintro ⟨sends, user, allowed, raw, rfl⟩
      exact ⟨rfl, ⟨sends, raw⟩, user, allowed⟩
    · rintro ⟨rfl, ⟨sends, raw⟩, user, allowed⟩
      exact ⟨sends, user, allowed, raw, rfl⟩

theorem authorizeBroadcast_ok_iff : authorizeBroadcast registry msg = .ok sender ↔
    registry.getByConnId msg.connId = some sender ∧ MayTransmit sender msg.frame := by
  simp only [authorizeBroadcast]
  cases held : registry.getByConnId msg.connId with
  | none => simp
  | some known =>
    have found := (getByConnId_eq_some.mp held).1
    simp only [checkIpcSend, checkPermission_isOk found, Method.guard_eq_ok, Bool.not_eq_true', Bool.not_eq_false,
      audioAllowed_iff found, Except.ok.injEq, Option.some.injEq, MayTransmit]
    constructor
    · rintro ⟨sends, raw, rfl⟩
      exact ⟨rfl, sends, raw⟩
    · rintro ⟨rfl, sends, raw⟩
      exact ⟨sends, raw, rfl⟩

variable {granted : PluginEntry}

theorem authorizeForward_sender (authorized : authorizeForward registry msg target = .ok granted)
    (known : registry.getByConnId msg.connId = some sender) : granted = sender := by
  have found := (authorizeForward_ok_iff.mp authorized).1
  rw [known] at found
  exact (Option.some.inj found).symm

theorem authorizeBroadcast_sender (authorized : authorizeBroadcast registry msg = .ok granted)
    (known : registry.getByConnId msg.connId = some sender) : granted = sender := by
  have found := (authorizeBroadcast_ok_iff.mp authorized).1
  rw [known] at found
  exact (Option.some.inj found).symm

end Gates

section Channels
variable {β : Type} {ctx : Context β} {now : Moment} {msg : IncomingMessage β} {st : RouterState β}
  {sender receiver : PluginEntry} {target : String}

def received (st after : RouterState β) (receiver : PluginEntry) : List (Outbound β) :=
  Mailboxes.added st.net after.net receiver.writeTx

theorem received_trySend (st : RouterState β) (receiver : PluginEntry) (tx : Sender) (item : Outbound β) :
    received st (st.trySend tx item).1 receiver =
      if receiver.writeTx = tx ∧ st.hasRoom tx = true then [item] else [] :=
  added_trySend writeCapacity st.net tx receiver.writeTx item

theorem forward_denied {denial : Denial} (refused : authorizeForward st.registry msg target = .error denial) :
    (st.forward ctx now msg target).2 = true := by
  simp [forward, refused]

theorem forward_resolved (ctx : Context β) (now : Moment) (receiver : PluginEntry) {entry : PluginEntry}
    (authorized : authorizeForward st.registry msg target = .ok sender)
    (resolved : st.registry.getMux target = some entry) :
    (st.forward ctx now msg target).2 = false ∧ received st (st.forward ctx now msg target).1 receiver =
      if receiver.writeTx = entry.writeTx ∧ st.hasRoom entry.writeTx = true then [relayed msg] else [] := by
  have sent : st.forward ctx now msg target =
      (((st.setRegistry (st.recordDirect ctx now msg target sender entry)).trySend entry.writeTx (relayed msg)).1,
        false) := by
    simp [forward, authorized, resolved]
  rw [sent]
  exact ⟨rfl, received_trySend st receiver entry.writeTx (relayed msg)⟩

theorem relayToHost_received (st : RouterState β) (msg : IncomingMessage β) (receiver : PluginEntry) :
    ((st.relayToHost msg).2 = true ∧ received st (st.relayToHost msg).1 receiver ≠ []) ↔
    st.hasRoom receiver.writeTx = true ∧ ∃ rest, st.bridge = some (receiver.writeTx :: rest) := by
  simp only [relayToHost]
  split
  next tx rest live =>
    have sent : (st.trySend tx (relayed msg)).2 = st.hasRoom tx := trySend_sent ..
    rw [received_trySend, sent]
    constructor
    · intro arrived
      obtain ⟨room, nonempty⟩ := arrived
      have same : receiver.writeTx = tx := by
        by_contra apart
        simp [apart] at nonempty
      exact ⟨same ▸ room, rest, by rw [same, live]⟩
    · intro live
      obtain ⟨room, others, first⟩ := live
      rw [live] at first
      cases first
      simp [room]
  next idle =>
    constructor
    · intro arrived
      obtain ⟨sent, _⟩ := arrived
      cases sent
    · intro live
      obtain ⟨_, rest, live⟩ := live
      exact absurd live (idle _ _)

theorem forward_unresolved (authorized : authorizeForward st.registry msg target = .ok sender)
    (unresolved : st.registry.getMux target = none) :
    ((st.forward ctx now msg target).2 = false ∧
      received st (st.forward ctx now msg target).1 receiver ≠ []) ↔
    st.hasRoom receiver.writeTx = true ∧ ∃ rest, st.bridge = some (receiver.writeTx :: rest) := by
  rw [← relayToHost_received st msg receiver]
  simp only [forward, authorized, unresolved]
  cases relay : (st.relayToHost msg).2 with
  | true => simp
  | false => simp

/-- A unicast frame that is not refused reaches exactly the resolved plugin or,
when the target resolves to none, the first bridge connection. -/
theorem forward_received (held : st.registry.get receiver.pluginId = some receiver) :
    ((st.forward ctx now msg target).2 = false ∧
      received st (st.forward ctx now msg target).1 receiver ≠ []) ↔
    st.hasRoom receiver.writeTx = true ∧ ∃ sender, authorizeForward st.registry msg target = .ok sender ∧
      (st.registry.getMux target = some receiver ∨
        (st.registry.getMux target = none ∧ ∃ rest, st.bridge = some (receiver.writeTx :: rest))) := by
  cases authorized : authorizeForward st.registry msg target with
  | error denial => simp [forward_denied authorized]
  | ok sender =>
    cases resolved : st.registry.getMux target with
    | none => simp [forward_unresolved authorized resolved]
    | some entry =>
      have stored := getMux_registered resolved
      obtain ⟨handled, added⟩ := forward_resolved ctx now receiver authorized resolved
      rw [handled, added]
      constructor
      · intro arrived
        obtain ⟨_, nonempty⟩ := arrived
        split at nonempty
        next sent =>
          have same := get_same_channel stored held sent.1.symm
          subst same
          exact ⟨sent.2, sender, rfl, .inl rfl⟩
        · exact absurd rfl nonempty
      · intro passes
        obtain ⟨room, _, _, reached⟩ := passes
        rcases reached with same | ⟨none, _⟩
        · cases same
          simp [room]
        · cases none

theorem broadcastTo_untouched {entries tx}
    (refused : ∀ entry ∈ entries, entry.writeTx = tx → entry.connId ≠ msg.connId →
      (checkIpcTarget st.registry sender.pluginId entry.pluginId).isOk = false) :
    (broadcastTo msg sender entries st).net tx = st.net tx := by
  have talk : Talk (fun address _ => address ≠ tx) st (broadcastTo msg sender entries st) := by
    apply broadcastTo_talk
    intro entry member other accepted _ same
    rw [refused entry member same other] at accepted
    cases accepted
  exact talk.sends.untouched fun _ apart => apart rfl

/-- The entries of a broadcast are distinct and use distinct channels, so an
addressed channel is written exactly once. -/
theorem broadcastTo_reached {entries : List PluginEntry} (distinct : entries.Nodup)
    (separate : ∀ entry ∈ entries, entry.writeTx = receiver.writeTx → entry = receiver) (member : receiver ∈ entries)
    (other : receiver.connId ≠ msg.connId)
    (accepted : (checkIpcTarget st.registry sender.pluginId receiver.pluginId).isOk = true) :
    (broadcastTo msg sender entries st).net receiver.writeTx =
      (st.trySend receiver.writeTx (relayed msg)).1.net receiver.writeTx := by
  induction entries generalizing st with
  | nil => cases member
  | cons entry rest ih =>
    obtain ⟨absent, distinctRest⟩ := List.nodup_cons.mp distinct
    have separateRest : ∀ later ∈ rest, later.writeTx = receiver.writeTx → later = receiver :=
      fun later inRest => separate later (List.mem_cons_of_mem entry inRest)
    simp only [broadcastTo]
    rcases List.mem_cons.mp member with same | inRest
    · subst same
      rw [if_neg other, if_pos accepted]
      apply broadcastTo_untouched
      intro later inRest sameChannel
      exact absurd (separateRest later inRest sameChannel ▸ inRest) absent
    · have elsewhere : receiver.writeTx ≠ entry.writeTx := by
        intro shared
        have same := separate entry List.mem_cons_self shared.symm
        exact absent (same ▸ inRest)
      split
      · exact ih distinctRest separateRest inRest accepted
      · split
        · have later := @ih (st.trySend entry.writeTx (relayed msg)).1 distinctRest separateRest inRest accepted
          refine later.trans ?_
          exact trySend_congr writeCapacity _ (trySend_other writeCapacity _ _ elsewhere)
        · exact ih distinctRest separateRest inRest accepted

/-- A broadcast reaches exactly the plugins on other connections that pass the
target check. -/
theorem broadcast_received (held : st.registry.get receiver.pluginId = some receiver) :
    ((st.broadcast ctx now msg).2 = false ∧ received st (st.broadcast ctx now msg).1 receiver ≠ []) ↔
    st.hasRoom receiver.writeTx = true ∧ receiver.connId ≠ msg.connId ∧
      ∃ sender, authorizeBroadcast st.registry msg = .ok sender ∧
        (checkIpcTarget st.registry sender.pluginId receiver.pluginId).isOk = true := by
  cases authorized : authorizeBroadcast st.registry msg with
  | error denial => simp [broadcast, authorized]
  | ok sender =>
    have separate : ∀ entry ∈ st.registry.list, entry.writeTx = receiver.writeTx → entry = receiver :=
      fun entry member same => get_same_channel (mem_list.mp member) held same
    have reached (other : receiver.connId ≠ msg.connId)
        (accepted : (checkIpcTarget st.registry sender.pluginId receiver.pluginId).isOk = true) :
        received st (broadcastTo msg sender st.registry.list st) receiver =
          if st.hasRoom receiver.writeTx = true then [relayed msg] else [] := by
      have once := broadcastTo_reached nodup_list separate (mem_list.mpr held)
        other accepted
      have added := received_trySend st receiver receiver.writeTx (relayed msg)
      simp only [received, Mailboxes.added, true_and] at added ⊢
      rw [once, added]
    simp only [broadcast, authorized, true_and]
    constructor
    · intro nonempty
      have aimed : receiver.connId ≠ msg.connId ∧
          (checkIpcTarget st.registry sender.pluginId receiver.pluginId).isOk = true := by
        by_contra refused
        apply nonempty
        simp only [received, Mailboxes.added]
        rw [broadcastTo_untouched, List.drop_length]
        intro entry member same other
        cases separate entry member same
        by_contra accepted
        exact refused ⟨other, by simpa using accepted⟩
      rw [reached aimed.1 aimed.2] at nonempty
      refine ⟨by_contra fun full => nonempty (if_neg full), aimed.1, sender, rfl, aimed.2⟩
    · intro passes
      obtain ⟨room, other, _, same, accepted⟩ := passes
      cases same
      simp [reached other accepted, room]

end Channels

end Vynkor.Proofs
