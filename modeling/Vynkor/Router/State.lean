import Vynkor.Auth.Jwt
import Vynkor.Data.Mailbox
import Vynkor.EventBus
import Vynkor.Permissions

/-! What the router task owns or shares: the registry, the bus, the outbox, the
write channels of all connections, its error budgets and its counters. Reads of
the clock within one message are one `Moment`. -/

namespace Vynkor

/-- Decision of a keyed rate limiter, given the calls it has seen. -/
abbrev Limiter (κ : Type) := List (κ × Nat) → κ → Nat → Bool

structure CommandOutcome where
  status : CommandStatus
  dataJson : Bytes := []
  error : String := ""

def CommandOutcome.permissionDenied (error : String) : CommandOutcome := { status := .permissionDenied, error }

/-- The configuration and the collaborators the router calls. Token validation,
the credential store, kernel commands and the lifecycle JSON are parameters; the
defaults are those of a kernel without authentication. -/
structure Context (β : Type) where
  wire : Wire β
  validate : Option (Moment → String → Except VynkorError PluginClaims) := none
  activeSecret : Option (Moment → String → Except VynkorError (Option Bytes)) := none
  macSecret : Option Bytes := none
  configPermissions : Option (DashMap String (List String)) := none
  ipcLimiter : Option (Limiter Nat) := none
  actionLimiter : Option (Limiter (String × String)) := none
  actionCallerMaxConcurrent : Option Nat := none
  actionTimeoutMs : Nat := 30000
  maxConnErrors : Nat := 16
  maxTrackedErrorConns : Nat := 8192
  sessionIdleTimeoutSecs : Option Nat := none
  routerChannelCapacity : Nat := 1024
  dispatch : PluginRegistry → Moment → String → Bytes → CommandOutcome := fun _ _ _ _ => { status := .unknown }
  lifecyclePayload : PluginRegistry → String → Bytes := fun _ _ => []

/-- Frames that may wait in one connection's write channel. -/
def writeCapacity : Nat := 64

def nextSeq (seq : Nat) : Nat := (seq + 1) % UInt64.size

/-- `bridge` holds the host channels of the live bridge connections, when the
kernel runs as a client of a remote host. -/
structure RouterState (β : Type) where
  registry : PluginRegistry := {}
  bus : EventBus := {}
  store : Option EventStore := none
  net : Mailboxes Sender (Outbound β) := fun _ => {}
  errorCounts : DashMap Nat (Nat × Nat) := ∅
  msgSeq : Nat := 0
  actionSeq : Nat := 0
  eventSeq : Nat := 0
  ipcCalls : List (Nat × Nat) := []
  actionCalls : List ((String × String) × Nat) := []
  bridge : Option (List Sender) := none

namespace RouterState
variable {β : Type} (ctx : Context β) (now : Moment) (st : RouterState β)

def hasRoom (tx : Sender) : Bool := st.net.hasRoom writeCapacity tx

def trySend (tx : Sender) (item : Outbound β) : RouterState β × Bool :=
  ({ st with net := (st.net.trySend writeCapacity tx item).1 }, (st.net.trySend writeCapacity tx item).2)

def kernelMessageId : String := s!"k-{now.unixMillis}-{st.msgSeq}"

/-- A reply keeps the trace id of the message it answers; only an envelope
without one takes the next kernel id. -/
def stampEnvelope (envelope : Envelope) : Envelope :=
  { envelope with
    messageId := if envelope.messageId = "" then st.kernelMessageId now else envelope.messageId
    timestamp := now.unixMillis
    senderId := "kernel" }

def buildOutbound (envelope : Envelope) : RouterState β × Option (Outbound β) :=
  ({ st with msgSeq := if envelope.messageId = "" then nextSeq st.msgSeq else st.msgSeq },
    (ctx.wire.encode (st.stampEnvelope now envelope)).map fun payload =>
      .frame (buildFrame ctx.wire "client" 0 payload))

def trySendEnvelope (tx : Sender) (envelope : Envelope) : RouterState β × Bool :=
  match st.buildOutbound ctx now envelope with
  | (st, some out) => st.trySend tx out
  | (st, none) => (st, false)

def sendEnvelope (tx : Sender) (envelope : Envelope) : RouterState β := (st.trySendEnvelope ctx now tx envelope).1

def sendError (tx : Sender) (code : ErrorCode) (message : String) : RouterState β :=
  st.sendEnvelope ctx now tx { payload := some (.error { code, message, details := "" }) }

def sendRegisterReject (tx : Sender) (reason : String) : RouterState β :=
  st.sendEnvelope ctx now tx { payload := some (.pluginRegisterAck
    { accepted := false, rejectReason := reason, grantedPermissions := [], sessionNonce := [] }) }

def setRegistry (registry : PluginRegistry) : RouterState β := { st with registry }

/-- Before acceptance the requester still waits for its response, so the abort
notice is followed by a terminal one. -/
def notifyRequester (pending : PendingAction) (reason : String) : RouterState β :=
  let st := st.sendEnvelope ctx now pending.requesterWriteTx
    { payload := some (.actionStreamAbort { actionId := pending.originalActionId, reason }) }
  if pending.sessionAccepted then st
  else st.sendEnvelope ctx now pending.requesterWriteTx { payload := some (.actionResponse
    { actionId := pending.originalActionId, status := .streamBackpressure, error := reason }) }

/-- Both sides of a stream that dies learn of it. -/
def notifyForcedTermination (internalId : String) (pending : PendingAction) (reason : String) : RouterState β :=
  let st := st.notifyRequester ctx now pending reason
  match st.registry.get pending.providerId with
  | some provider => st.sendEnvelope ctx now provider.writeTx
      { payload := some (.actionStreamAbort { actionId := internalId, reason }) }
  | none => st

def abortStream (internalId reason : String) : RouterState β :=
  match st.registry.takePendingAction internalId with
  | (_, none) => st
  | (registry, some pending) => (st.setRegistry registry).notifyForcedTermination ctx now internalId pending reason

def deliverTo (payload : β) : List String → RouterState β → RouterState β
  | [], st => st
  | pluginId :: rest, st =>
    match st.registry.get pluginId with
    | some entry =>
      deliverTo payload rest (st.trySend entry.writeTx (.frame (buildFrame ctx.wire pluginId 0 payload))).1
    | none => deliverTo payload rest st

def deliver (event : Event) : RouterState β :=
  let targets := st.bus.targets event.eventType
  if targets = [] then st
  else
    let envelope : Envelope := {
      messageId := st.kernelMessageId now, senderId := "kernel", timestamp := now.unixMillis,
      payload := some (.event event) }
    let st := { st with msgSeq := nextSeq st.msgSeq }
    match ctx.wire.encode envelope with
    | none => st
    | some payload => deliverTo ctx payload targets st

/-- An event is persisted before it is delivered. -/
def publish (event : Event) : RouterState β :=
  { st with store := st.store.map fun store => EventStore.persist store now event }.deliver ctx now event

end RouterState
end Vynkor
