import Vynkor.Proofs.KernelSteps
import Vynkor.Watchdog

/-! Pong times. They are written by registrations and pongs and go with the
registration, unless a pong is recorded after it has gone. -/

namespace Vynkor.Proofs
open PluginRegistry RouterState

section Operations
variable {registry updated : PluginRegistry} {now : Moment} {entry : PluginEntry}

theorem insertEntry_pongs {details capabilities}
    (done : registry.insertEntry now entry details capabilities = .ok updated) :
    updated.pongTimes = registry.pongTimes.insert entry.pluginId now.instant := by
  obtain ⟨_, _, _, rfl⟩ := insertEntry_some done
  rfl

theorem registerPlugin_pongs {β : Type} {msg : IncomingMessage β} {st : RouterState β} {register : PluginRegister}
    {manifest : PluginManifest} (done : st.registerPlugin now msg register manifest = .ok updated) :
    ∃ entry, entry.connId = msg.connId ∧ Inserted st.registry updated entry ∧
      updated.pongTimes = st.registry.pongTimes.insert entry.pluginId now.instant := by
  simp only [registerPlugin] at done
  split at done
  · exact ⟨_, rfl, insertEntry_ok done, insertEntry_pongs done⟩
  · exact ⟨_, rfl, insertEntry_ok done, insertEntry_pongs done⟩

theorem get_unregister_pongs (registry : PluginRegistry) (pluginId id : String) :
    (registry.unregister pluginId).pongTimes.get id =
      if id = pluginId ∧ (registry.get pluginId).isSome then none else registry.pongTimes.get id := by
  cases found : registry.get pluginId with
  | none => simp [PluginRegistry.unregister, found]
  | some entry => simp [PluginRegistry.unregister, found, DashMap.get_erase]

theorem unregister_pongs {pluginId id last}
    (found : (registry.unregister pluginId).pongTimes.get id = some last) : registry.pongTimes.get id = some last := by
  rw [get_unregister_pongs] at found
  split at found
  · cases found
  · exact found

theorem getByConnId_congr (same : ∀ id, updated.get id = registry.get id) (conn : Nat) :
    updated.getByConnId conn = registry.getByConnId conn := by
  ext entry
  rw [getByConnId_eq_some, getByConnId_eq_some, same]

theorem Inserted.getByConnId (inserted : Inserted registry updated entry) :
    updated.getByConnId entry.connId = some entry := by
  rw [getByConnId_eq_some, inserted.get, if_pos rfl]
  exact ⟨rfl, rfl⟩

end Operations

/-- What a step that records no pong makes of registrations and pong times. -/
inductive PongStep (before : PluginRegistry) : Option Heard → PluginRegistry → Prop where
  | kept {after} (get : ∀ id, after.get id = before.get id)
      (pongs : after.pongTimes = before.pongTimes) : PongStep before none after
  | removed (pluginId : String) : PongStep before none (before.unregister pluginId)
  | joined {after entry instant} (inserted : Inserted before after entry)
      (pongs : after.pongTimes = before.pongTimes.insert entry.pluginId instant) :
      PongStep before (some ⟨entry.pluginId, entry.connId, instant, true⟩) after

section Kernel
variable {β : Type} {ctx : Context β} {now : Moment} {msg : IncomingMessage β} {st : RouterState β}
  {kernel next : Kernel β} {action : Action β} {entry : PluginEntry} {pluginId : String} {instant : Nat}

theorem joined_kept (get : ∀ id, next.router.registry.get id = kernel.router.registry.get id) :
    kernel.joined action next = none := by
  simp only [Kernel.joined]
  split
  · rfl
  next conn instant _ =>
    rw [getByConnId_congr get]
    split
    · rfl
    next absent => simpa using absent

theorem joined_inserted (joins : kernel.joining action = some (entry.connId, instant))
    (inserted : Inserted kernel.router.registry next.router.registry entry) :
    kernel.joined action next = some ⟨entry.pluginId, entry.connId, instant, true⟩ := by
  simp only [Kernel.joined, joins, inserted.freeConn, inserted.getByConnId]
  rfl

theorem PongStep.of_kept (get : ∀ id, next.router.registry.get id = kernel.router.registry.get id)
    (pongs : next.router.registry.pongTimes = kernel.router.registry.pongTimes) :
    PongStep kernel.router.registry (kernel.joined action next) next.router.registry := by
  rw [joined_kept get]
  exact .kept get pongs

theorem PongStep.of_inserted (joins : kernel.joining action = some (entry.connId, instant))
    (inserted : Inserted kernel.router.registry next.router.registry entry)
    (pongs : next.router.registry.pongTimes = kernel.router.registry.pongTimes.insert entry.pluginId instant) :
    PongStep kernel.router.registry (kernel.joined action next) next.router.registry := by
  rw [joined_inserted joins inserted]
  exact .joined inserted pongs

theorem Update.pongs {registry : PluginRegistry} (update : Update ctx now msg st registry) :
    ((∀ id, registry.get id = st.registry.get id) ∧ registry.pongTimes = st.registry.pongTimes) ∨
      (∃ original server sender, ToKernel ctx msg (.pong original server) ∧
        st.registry.getByConnId msg.connId = some sender ∧ registry = st.registry.recordPong now sender.pluginId) ∨
      ∃ entry, entry.connId = msg.connId ∧ Inserted st.registry registry entry ∧
        registry.pongTimes = st.registry.pongTimes.insert entry.pluginId now.instant := by
  cases update with
  | registered done => exact .inr (.inr (registerPlugin_pongs done))
  | ponged arrived held => exact .inr (.inl ⟨_, _, _, arrived, held, rfl⟩)
  | same | routed | direct | resolved | touched | aborted | closed => exact .inl ⟨fun _ => rfl, rfl⟩

theorem pongOf_some {original server sender} (passes : admits ctx now msg st = true)
    (arrived : ToKernel ctx msg (.pong original server))
    (held : st.registry.getByConnId msg.connId = some sender) :
    st.pongOf ctx now msg = some sender.pluginId := by
  obtain ⟨aimed, envelope, decoded, holds⟩ := arrived
  simp only [admits, Bool.and_eq_true, Bool.not_eq_true'] at passes
  simp [pongOf, passes.1, passes.2, aimed, decoded, holds, held]

theorem pongOf_inversion (pong : st.pongOf ctx now msg = some pluginId) :
    admits ctx now msg st = true ∧ ∃ original server sender, ToKernel ctx msg (.pong original server) ∧
      st.registry.getByConnId msg.connId = some sender ∧ sender.pluginId = pluginId := by
  simp only [pongOf] at pong
  split at pong
  next gates =>
    simp only [Bool.and_eq_true, Bool.not_eq_true', beq_iff_eq] at gates
    split at pong
    next envelope decoded =>
      split at pong
      next original server holds =>
        obtain ⟨sender, held, same⟩ := Option.map_eq_some_iff.mp pong
        refine ⟨by simp [admits, gates.1.1, gates.2], original, server, sender, ?_, held, same⟩
        exact ⟨gates.1.2, envelope, decoded, holds⟩
      · cases pong
    · cases pong
  · cases pong

/-- The two steps of a pong are what the router does in one when nothing comes in between. -/
theorem pong_at_once (pong : st.pongOf ctx now msg = some pluginId) :
    (st.routeMessage ctx now msg).1.registry = st.registry.recordPong now pluginId := by
  obtain ⟨passes, original, server, sender, ⟨aimed, envelope, decoded, holds⟩, held, rfl⟩ :=
    pongOf_inversion pong
  rw [routeMessage_handled passes aimed, recordOutcome_registry]
  rw [← checkIpcRate_registry ctx now msg st] at held ⊢
  simp [handleTarget, handleKernelMessage, decoded, holds, isRegister, isRegistered_eq, held,
    handlePayload, handlePong, setRegistry]

theorem route_pongs {rest} (head : kernel.incoming = msg :: rest) (none : kernel.router.pongOf ctx now msg = none)
    (routed : next.router = (kernel.router.routeMessage ctx now msg).1) :
    PongStep kernel.router.registry (kernel.joined (.route now) next) next.router.registry := by
  cases passes : admits ctx now msg kernel.router with
  | false =>
    have same : next.router.registry = kernel.router.registry := by
      rw [routed, (routeMessage_refused passes).registry, checkIpcRate_registry]
    exact .of_kept (fun _ => by rw [same]) (by rw [same])
  | true =>
    have update := (routeMessage_routed ctx now msg kernel.router).registry.pongs
    rw [← routed, checkIpcRate_registry] at update
    rcases update with ⟨get, pongs⟩ | ⟨_, _, sender, arrived, held, _⟩ | ⟨entry, sameConn, inserted, pongs⟩
    · exact .of_kept get pongs
    · rw [pongOf_some passes arrived held] at none
      cases none
    · exact .of_inserted (by simp [Kernel.joining, head, sameConn]) inserted pongs

theorem aside_pongs (took : kernel.step ctx action = some next) (joins : kernel.joining action = none)
    (notRoute : ∀ now, action ≠ .route now)
    (notBridge : ∀ deviceId mirror now, action ≠ .bridgeUp deviceId mirror now) :
    PongStep kernel.router.registry (kernel.joined action next) next.router.registry := by
  have unjoined : kernel.joined action next = none := by simp only [Kernel.joined, joins]
  rw [unjoined]
  have step := step_registry took
  generalize next.router.registry = registry at step ⊢
  cases step with
  | same => exact .kept (fun _ => rfl) rfl
  | swept swept =>
    rw [swept.rest]
    exact .kept (fun _ => rfl) rfl
  | routed mine => exact absurd mine (notRoute _)
  | removed gone => exact .removed _
  | bridged mine => exact absurd mine (notBridge _ _ _)

theorem kernel_pongs (took : kernel.step ctx action = some next)
    (free : ∀ now msg rest, action = .route now → kernel.incoming = msg :: rest →
      kernel.router.pongOf ctx now msg = none) :
    PongStep kernel.router.registry (kernel.joined action next) next.router.registry := by
  cases action with
  | route now =>
    obtain ⟨msg, rest, head, rfl⟩ := route_some took
    exact route_pongs head (free now msg rest rfl head) rfl
  | bridgeUp deviceId mirror now =>
    obtain ⟨_, registry, done, rfl⟩ := bridgeUp_some took
    have inserted : Inserted kernel.router.registry registry _ := insertEntry_ok done
    exact .of_inserted rfl inserted (insertEntry_pongs done)
  | _ => exact aside_pongs took rfl (by simp) (by simp)

end Kernel
end Vynkor.Proofs
