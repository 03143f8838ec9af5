import Vynkor.Router

/-! The client side of a remote host. While a bridge connection is up, one local
entry stands for the whole device, and its write channel is also the channel to
the host. -/

namespace Vynkor

/-- Above the ids of all other connections. -/
def bridgeConnId : Nat := 2000000000

def hostTx (serial : Nat) : Sender := { conn := bridgeConnId, serial }

namespace RouterState
variable {β : Type} (now : Moment) (deviceId : String) (serial : Nat) (st : RouterState β)

/-- The local entry provides no action; it only carries frames to the host. -/
def registerBridge (mirror : List String) : Except VynkorError PluginRegistry :=
  st.registry.registerWithDevice now deviceId bridgeConnId
    { ipcTargets := mirror, permissions := ["PERMISSION_IPC_SEND"] } (hostTx serial) rfl
    { deviceId, userId := "default", capabilities := mirror }

def bridgeUp (mirror : List String) : Except VynkorError (RouterState β) :=
  match st.registerBridge now deviceId serial mirror with
  | .error error => .error error
  | .ok registry => .ok { st with registry, bridge := st.bridge.map fun conns => conns ++ [hostTx serial] }

def bridgeDown : RouterState β :=
  { st with
    registry := st.registry.unregister deviceId
    bridge := st.bridge.map fun conns => conns.filter (· ≠ hostTx serial)
    net := st.net.close (hostTx serial) }

end RouterState
end Vynkor
