import Vynkor.Data.Text

/-! The protocol messages the kernel handles. The generated types live in the
wire crate; the fields here are the ones the kernel reads or writes. An
enumeration value the kernel does not know keeps its number, as on the wire. -/

namespace Vynkor

abbrev Bytes := List UInt8

inductive PermissionType where
  | unknown | network | filesRead | filesWrite | system | audio | notify | scheduler | browser
  | ipcSend | audioStream | kernelAdmin | eventPublish | storage | secrets | clipboard | launch
  | screen | home
  deriving DecidableEq

def PermissionType.asStrName : PermissionType → String
  | .unknown => "PERMISSION_UNKNOWN"
  | .network => "PERMISSION_NETWORK"
  | .filesRead => "PERMISSION_FILES_READ"
  | .filesWrite => "PERMISSION_FILES_WRITE"
  | .system => "PERMISSION_SYSTEM"
  | .audio => "PERMISSION_AUDIO"
  | .notify => "PERMISSION_NOTIFY"
  | .scheduler => "PERMISSION_SCHEDULER"
  | .browser => "PERMISSION_BROWSER"
  | .ipcSend => "PERMISSION_IPC_SEND"
  | .audioStream => "PERMISSION_AUDIO_STREAM"
  | .kernelAdmin => "PERMISSION_KERNEL_ADMIN"
  | .eventPublish => "PERMISSION_EVENT_PUBLISH"
  | .storage => "PERMISSION_STORAGE"
  | .secrets => "PERMISSION_SECRETS"
  | .clipboard => "PERMISSION_CLIPBOARD"
  | .launch => "PERMISSION_LAUNCH"
  | .screen => "PERMISSION_SCREEN"
  | .home => "PERMISSION_HOME"

def PermissionType.all : List PermissionType :=
  [.unknown, .network, .filesRead, .filesWrite, .system, .audio, .notify, .scheduler, .browser,
    .ipcSend, .audioStream, .kernelAdmin, .eventPublish, .storage, .secrets, .clipboard, .launch,
    .screen, .home]

def PermissionType.fromStrName (name : String) : Option PermissionType :=
  PermissionType.all.find? fun permission => permission.asStrName == name

inductive ErrorCode where
  | unknown | notRegistered | deserialization | protocolMismatch | permissionDenied | rateLimited
  | macMissing | macInvalid
  deriving DecidableEq

inductive ActionStatus where
  | unknown | ok | error | notFound | permissionDeny | timeout | quotaExceeded | streamBackpressure
  | other (code : Int)
  deriving DecidableEq

inductive EventPublishStatus where
  | ok | permissionDeny
  deriving DecidableEq

inductive CommandStatus where
  | unknown | ok | error | permissionDenied
  deriving DecidableEq

inductive DeviceOs where
  | unspecified | linux | macos | windows | android | ios | freebsd
  deriving DecidableEq

inductive DeviceState where
  | online | offline | revoked
  deriving DecidableEq

structure PluginManifest where
  permissions : List String := []
  actions : List String := []
  ipcTargets : List String := []
  deriving DecidableEq

/-- `os` is `none` when the number on the wire names no known system. -/
structure PluginRegister where
  pluginId : String
  manifest : Option PluginManifest := none
  jwtToken : String := ""
  deviceId : String := ""
  userId : String := ""
  os : Option DeviceOs := none
  arch : String := ""
  osVersion : String := ""
  capabilities : List String := []
  protocolVersion : String := ""
  deriving DecidableEq

structure PluginRegisterAck where
  accepted : Bool
  rejectReason : String
  grantedPermissions : List String
  sessionNonce : Bytes
  deriving DecidableEq

structure Event where
  eventId : String
  eventType : String
  payloadJson : Bytes
  retryCount : Nat
  deriving DecidableEq

structure EventPublish where
  eventType : String
  payloadJson : Bytes
  deriving DecidableEq

structure EventPublishAck where
  eventId : String
  status : EventPublishStatus
  error : String
  deriving DecidableEq

structure ActionRequest where
  actionId : String
  action : String
  paramsJson : Bytes := []
  timeoutMs : Nat := 0
  streaming : Bool := false
  callerPluginId : String := ""
  deriving DecidableEq

structure ActionResponse where
  actionId : String
  status : ActionStatus
  dataJson : Bytes := []
  error : String := ""
  deriving DecidableEq

structure ActionRequestChunk where
  actionId : String
  seq : Nat
  chunk : Bytes
  final : Bool
  deriving DecidableEq

structure ActionResponseChunk where
  actionId : String
  seq : Nat
  chunk : Bytes
  deriving DecidableEq

structure ActionStreamAbort where
  actionId : String
  reason : String
  deriving DecidableEq

structure SessionClose where
  actionId : String
  reason : String
  deriving DecidableEq

structure KernelCommand where
  commandId : String
  command : String
  paramsJson : Bytes := []
  deriving DecidableEq

structure KernelCommandAck where
  commandId : String
  status : CommandStatus
  dataJson : Bytes
  error : String
  deriving DecidableEq

structure ErrorMessage where
  code : ErrorCode
  message : String
  details : String
  deriving DecidableEq

/-- `other` stands for every message kind the router has no arm for. -/
inductive Payload where
  | pluginRegister (register : PluginRegister)
  | pluginRegisterAck (ack : PluginRegisterAck)
  | ping (timestamp : Nat)
  | pong (originalTimestamp serverTimestamp : Nat)
  | subscribe (eventTypes : List String)
  | unsubscribe (eventTypes : List String)
  | event (event : Event)
  | eventPublish (publish : EventPublish)
  | eventPublishAck (ack : EventPublishAck)
  | eventAck (eventId : String)
  | actionRequest (request : ActionRequest)
  | actionResponse (response : ActionResponse)
  | actionRequestChunk (chunk : ActionRequestChunk)
  | actionResponseChunk (chunk : ActionResponseChunk)
  | actionStreamAbort (notice : ActionStreamAbort)
  | sessionClose (close : SessionClose)
  | kernelCommand (command : KernelCommand)
  | kernelCommandAck (ack : KernelCommandAck)
  | pluginShutdown (reason : String) (graceSeconds : UInt32)
  | error (error : ErrorMessage)
  | other (tag : Nat) (body : Bytes)
  deriving DecidableEq

def Payload.actionRequest? : Payload → Option ActionRequest
  | .actionRequest request => some request
  | _ => none

structure Envelope where
  messageId : String := ""
  senderId : String := ""
  timestamp : Nat := 0
  payload : Option Payload := none
  deriving DecidableEq

/-- Kernel errors whose text reaches a plugin. -/
inductive VynkorError where
  | io (message : String)
  | pluginNotFound (id : String)
  | pluginAlreadyRegistered (id : String)
  | pluginAlreadyRunning (id : String)
  | invalidPluginId (reason : String)
  | permissionDenied (permission : String)
  | auth (message : String)
  | internal (message : String)
  deriving DecidableEq

def VynkorError.toText : VynkorError → String
  | .io message => "io error: " ++ message
  | .pluginNotFound id => "plugin not found: " ++ id
  | .pluginAlreadyRegistered id => "plugin already registered: " ++ id
  | .pluginAlreadyRunning id => "plugin already running: " ++ id
  | .invalidPluginId reason => "invalid plugin id: " ++ reason
  | .permissionDenied permission => "permission denied: " ++ permission
  | .auth message => "auth error: " ++ message
  | .internal message => "internal error: " ++ message

end Vynkor
