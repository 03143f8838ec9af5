import Vynkor.Connection
import Vynkor.Startup

/-! The gateway of WebSocket connections: who may open one, and how many there are at
a time. Requests run concurrently and meet in two atomic counters. -/

namespace Vynkor.Api

def wsConnIdBase : Nat := 1000000000

/-- Token validation and the credential store are parameters, as for the router. -/
structure WsGateway where
  validate : Option (Moment → String → Except VynkorError PluginClaims) := none
  activeSecret : Option (Moment → String → Except VynkorError (Option Bytes)) := none
  maxConnections : Nat
  registerTimeoutSecs : Nat := 0

/-- Only a connection that has shown a token has to register in time. -/
def WsGateway.registerTimeout (gateway : WsGateway) : Nat :=
  if gateway.validate.isSome then gateway.registerTimeoutSecs else 0

/-- The first entry of the `sec-websocket-protocol` header, if that is text, which
does not name the protocol. -/
def extractWsToken (protocols : Option String) : String :=
  match protocols with
  | none => ""
  | some value => (((Text.split value ',').map Text.trim).find? (· != "vynkor")).getD ""

/-- A revoked or expired device gets no socket; an unknown subject passes. -/
def WsGateway.admits (gateway : WsGateway) (moment : Moment) (protocols : Option String) : Bool :=
  match gateway.validate with
  | none => true
  | some validate =>
    match validate moment (extractWsToken protocols) with
    | .error _ => false
    | .ok claims =>
      match gateway.activeSecret with
      | none => true
      | some activeSecret => (activeSecret moment claims.sub).isOk

/-- Where a request stands in `ws_handler`, and after it. -/
inductive WsRequest where
  | unauthorized
  | admitted
  /-- It has incremented the counter, which held `previous`. -/
  | counted (previous : Nat)
  | tooMany
  /-- The response is on its way, the callback has not been run. -/
  | upgrading (connId : Nat)
  /-- The callback runs `handle_socket`. -/
  | opened (connId : Nat)
  | closed (connId : Nat)
  /-- The upgrade failed: the callback is dropped. -/
  | failed (connId : Nat)
  /-- `handle_socket` panicked, and the callback with it. -/
  | panicked (connId : Nat)
  deriving DecidableEq

structure WsState where
  openConns : Nat := 0
  connCounter : Nat := 0
  requests : List WsRequest := []
  deriving DecidableEq

inductive WsAction where
  | request (moment : Moment) (protocols : Option String)
  | reserve (index : Nat)
  | decide (index : Nat)
  | upgrade (index now : Nat)
  | failUpgrade (index : Nat)
  | close (index : Nat)

namespace WsState

def put (state : WsState) (index : Nat) (request : WsRequest) : WsState :=
  { state with requests := state.requests.set index request }

/-- The decision is taken on what the increment returned. A request that is refused
gives its increment back, and so does the callback once `handle_socket` returns; that first
of all computes its deadline. -/
def step (gateway : WsGateway) (state : WsState) : WsAction → Option WsState
  | .request moment protocols => some { state with
      requests := state.requests ++ [if gateway.admits moment protocols then .admitted else .unauthorized] }
  | .reserve index =>
    match state.requests[index]? with
    | some .admitted => some { state.put index (.counted state.openConns) with
        openConns := wrappingAdd state.openConns 1 }
    | _ => none
  | .decide index =>
    match state.requests[index]? with
    | some (.counted previous) =>
      if gateway.maxConnections ≤ previous then
        some { state.put index .tooMany with openConns := wrappingSub state.openConns 1 }
      else
        some { state.put index (.upgrading (wrappingAdd state.connCounter wsConnIdBase)) with
          connCounter := wrappingAdd state.connCounter 1 }
    | _ => none
  | .upgrade index now =>
    match state.requests[index]? with
    | some (.upgrading connId) => some (state.put index
        (if (socketDeadline gateway.registerTimeout now).isSome then .opened connId else .panicked connId))
    | _ => none
  | .failUpgrade index =>
    match state.requests[index]? with
    | some (.upgrading connId) => some (state.put index (.failed connId))
    | _ => none
  | .close index =>
    match state.requests[index]? with
    | some (.opened connId) => some { state.put index (.closed connId) with
        openConns := wrappingSub state.openConns 1 }
    | _ => none

end WsState
end Vynkor.Api
