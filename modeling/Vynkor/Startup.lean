import Vynkor.Config

/-! What the kernel makes of the numbers of its configuration when it starts and when a
WebSocket connection opens. `none` stands for a panic. -/

namespace Vynkor

def mpscChannel (capacity : Nat) : Option Nat := if capacity = 0 then none else some capacity

def tokioInterval (period : Nat) : Option Nat := if period = 0 then none else some period

/-- A duration counts its seconds in 64 bits. -/
def addDurations (first second : Nat) : Option Nat :=
  if first + second < fromSecs UInt64.size then some (first + second) else none

/-- An instant of the Linux clock counts its seconds in 63 bits. -/
def instantSecs : Nat := 9223372036854775808

def addToInstant (now duration : Nat) : Option Nat :=
  if now + duration < fromSecs instantSecs then some (now + duration) else none

/-- The deadline of a connection that opens at the instant, if it has one. -/
def socketDeadline (registerTimeoutSecs now : Nat) : Option (Option Nat) :=
  if 0 < registerTimeoutSecs then (addToInstant now (fromSecs registerTimeoutSecs)).map some else some none

namespace Config
variable (config : Config)

def routerQueue : Option Nat := mpscChannel config.routerChannelCapacity

def pruneInterval : Option Nat := tokioInterval (fromSecs config.pruneIntervalSecs)

def watchdogDeadline : Option Nat :=
  addDurations (fromSecs config.watchdogIntervalSecs) (fromSecs config.watchdogTimeoutSecs)

/-- Only a connection that has shown a token has to register in time. -/
def registerTimeout : Nat := if config.jwtValidator.isSome then config.wsRegisterTimeoutSecs else 0

def registerDeadline (now : Nat) : Option (Option Nat) := socketDeadline config.registerTimeout now

end Config
end Vynkor
