import Vynkor.Proofs.KernelSteps

/-! The events that one step publishes, and what it leaves of the events table and of
the sequence number of plugin events. All other steps leave both alone. -/

namespace Vynkor.Proofs
open RouterState
variable {β : Type} {ctx : Context β} {now : Moment} {msg : IncomingMessage β} {st : RouterState β}
  {kernel next : Kernel β} {action : Action β}

def stepChange (ctx : Context β) (kernel : Kernel β) : Action β → RecordChange
  | .route now =>
    match kernel.incoming with
    | [] => .quiet
    | msg :: _ => routedChange ctx now msg kernel.router
  | .publishLeft transport now =>
    match kernel.inHand transport .found with
    | none => .quiet
    | some leaving => .system now (kernel.leftEvent ctx now leaving.pluginId)
  | .publishDied event now => .system now event
  | _ => .quiet

theorem records_routeMessage : records (st.routeMessage ctx now msg).1 =
    (routedChange ctx now msg st).apply (records st) := by
  obtain ⟨calls, quiet⟩ := checkIpcRate_quiet ctx now msg st
  rw [(routeMessage_routed ctx now msg st).records, quiet]
  rfl

theorem records_pruneTick : records (st.pruneTick ctx now) = records st := by
  obtain ⟨_, _, idle⟩ := sweepIdle_talk ctx now (st.sweepExpired ctx now)
  exact idle.records.trans (sweepExpired_talk ctx now st).records

theorem step_records (step : kernel.step ctx action = some next) :
    records next.router = (stepChange ctx kernel action).apply (records kernel.router) := by
  cases kernel_step step with
  | route head =>
    simp only [stepChange, head]
    exact records_routeMessage
  | prune => exact records_pruneTick
  | publishLeft held =>
    simp only [stepChange, held]
    exact records_publish _
  | publishDied => exact records_publish _
  | ping told =>
    have talk : Talk Anything kernel.router _ := told fun _ _ _ => trivial
    exact talk.records
  | _ => rfl

end Vynkor.Proofs
