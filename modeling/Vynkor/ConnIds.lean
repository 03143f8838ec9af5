import Vynkor.Api.WebSocket
import Vynkor.Orchestrator

/-! Where the ids of connections come from. The listener and the gateway each count
their own, every cycle of the bridge takes the same one, and nobody asks whether an id
is in use. -/

namespace Vynkor

/-- `issued` lists the ids given so far, `accepts` and `upgrades` count how many the
listener and the gateway gave; no task reads them. -/
structure Allocation (β : Type) where
  kernel : Kernel β := {}
  udsCounter : Nat := 1
  wsCounter : Nat := 0
  issued : List Nat := []
  accepts : Nat := 0
  upgrades : Nat := 0

/-- A connection is opened, or any task of the kernel makes a step. -/
inductive AllocationAction (β : Type) where
  | accept
  | upgrade
  | cycle (deviceId : String) (mirror : List String) (now : Moment)
  | other (action : Action β)

def Action.opens {β : Type} : Action β → Bool
  | .accept _ _ | .bridgeUp _ _ _ => true
  | _ => false

namespace Allocation
variable {β : Type} (ctx : Context β) (state : Allocation β)

/-- The new connection takes the place of one with the same id. -/
def opened (conn : Nat) (transport : Transport) : Allocation β :=
  { state with
    kernel := { state.kernel with connections := state.kernel.connections.insert conn { transport } }
    issued := state.issued ++ [conn] }

def step : AllocationAction β → Option (Allocation β)
  | .accept => some { state.opened state.udsCounter .uds with
      udsCounter := wrappingAdd state.udsCounter 1, accepts := state.accepts + 1 }
  | .upgrade => some { state.opened (wrappingAdd state.wsCounter Api.wsConnIdBase) .ws with
      wsCounter := wrappingAdd state.wsCounter 1, upgrades := state.upgrades + 1 }
  | .cycle deviceId mirror now =>
    (state.kernel.bridgeUp deviceId mirror now).map fun kernel =>
      { state with kernel, issued := state.issued ++ [bridgeConnId] }
  | .other action =>
    if action.opens then none else (state.kernel.step ctx action).map fun kernel => { state with kernel }

end Allocation
end Vynkor
