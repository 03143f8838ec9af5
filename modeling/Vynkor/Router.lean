import Vynkor.Router.Peer

/-! The router task: one message after the other, interrupted by the prune tick. -/

namespace Vynkor

/-- Replies of a provider and pongs pass even when the sender is throttled. -/
def isThrottleExempt {β : Type} (wire : Wire β) (frame : Frame β) : Bool :=
  match wire.decode frame.payload with
  | some { payload := some payload, .. } =>
    match payload with
    | .actionResponse _ | .actionResponseChunk _ | .actionRequestChunk _ | .sessionClose _ | .pong _ _ => true
    | _ => false
  | _ => false

def errorBudgetIdleTtl : Nat := fromSecs 300

inductive Verdict where
  | rateLimited
  | badTarget
  | throttled
  | handled (errored : Bool)
  deriving DecidableEq

namespace RouterState
variable {β : Type} (ctx : Context β) (now : Moment) (msg : IncomingMessage β) (st : RouterState β)

def checkIpcRate : RouterState β × Bool :=
  match ctx.ipcLimiter with
  | none => (st, true)
  | some limiter =>
    ({ st with ipcCalls := st.ipcCalls ++ [(msg.connId, now.instant)] },
      limiter st.ipcCalls msg.connId now.instant)

def errorCount (connId : Nat) : Nat := ((st.errorCounts.get connId).map Prod.fst).getD 0

/-- The sender used up its error budget and the message is not exempt. -/
def isThrottled : Bool :=
  decide (ctx.maxConnErrors ≤ st.errorCount msg.connId) && !isThrottleExempt ctx.wire msg.frame

/-- An error is counted; a well-behaved message clears the count. Idle counts
are dropped only when the table is full. -/
def recordOutcome (errored : Bool) : RouterState β :=
  if errored then
    let counts := if ctx.maxTrackedErrorConns ≤ st.errorCounts.entries.length then
        st.errorCounts.retain fun _ (_, last) => decide (now.instant - last < errorBudgetIdleTtl)
      else st.errorCounts
    let count := ((counts.get msg.connId).map Prod.fst).getD 0
    { st with errorCounts := counts.insert msg.connId ((count + 1) % UInt32.size, now.instant) }
  else { st with errorCounts := st.errorCounts.erase msg.connId }

def handleTarget (target : String) : RouterState β × Bool :=
  if target = "kernel" then st.handleKernelMessage ctx now msg
  else if target = "*" then st.broadcast ctx now msg
  else st.forward ctx now msg target

/-- Routing of a message within its sender's rate. -/
def routeTarget : RouterState β × Verdict :=
  match ctx.wire.targetAsStr msg.frame.target with
  | none => (st.sendError ctx now msg.writeTx .unknown "invalid UTF-8 in frame target", .badTarget)
  | some target =>
    if st.isThrottled ctx msg then (st, .throttled)
    else
      let handled := st.handleTarget ctx now msg target
      (handled.1.recordOutcome ctx now msg handled.2, .handled handled.2)

def routeMessage : RouterState β × Verdict :=
  let checked := st.checkIpcRate ctx now msg
  if checked.2 then checked.1.routeTarget ctx now msg
  else (checked.1.sendError ctx now msg.writeTx .rateLimited "IPC rate limit exceeded", .rateLimited)

def answerExpired : List PendingAction → RouterState β → RouterState β
  | [], st => st
  | expired :: rest, st =>
    answerExpired rest (st.sendEnvelope ctx now expired.requesterWriteTx { payload := some (.actionResponse
      { actionId := expired.originalActionId, status := .timeout, error := "action timed out" }) })

def endIdle : List (String × PendingAction) → RouterState β → RouterState β
  | [], st => st
  | (internalId, pending) :: rest, st =>
    endIdle rest (st.notifyForcedTermination ctx now internalId pending "idle timeout")

def sweepExpired : RouterState β :=
  let swept := st.registry.sweepExpiredActions now.instant
  answerExpired ctx now swept.2 (st.setRegistry swept.1)

def sweepIdle : RouterState β :=
  match ctx.sessionIdleTimeoutSecs with
  | none => st
  | some idleSecs =>
    let swept := st.registry.sweepIdleSessions now.instant (fromSecs idleSecs)
    endIdle ctx now swept.2 (st.setRegistry swept.1)

/-- The tick also lets the rate limiters forget idle keys, which changes none of
their decisions. -/
def pruneTick : RouterState β := (st.sweepExpired ctx now).sweepIdle ctx now

end RouterState
end Vynkor
