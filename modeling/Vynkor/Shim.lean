import Vynkor.Startup

/-! The shim of a sandboxed plugin. It starts the plugin in namespaces of its own, passes
terminal signals on to it, kills it if that does not end it in time, and takes over its
status. The handler of a signal can run between any two steps. -/

namespace Vynkor.Shim

inductive Signal where
  | hup
  | int
  | term
  deriving DecidableEq

inductive WaitStatus where
  | exited (code : Int)
  | signaled (signal : Nat)
  deriving DecidableEq

def WaitStatus.code : WaitStatus → Int
  | .exited code => code
  | .signaled signal => 128 + signal

inductive Child where
  | unborn
  | running
  | ended (status : WaitStatus)
  deriving DecidableEq

/-- What the handler and the loop share, and beside it when a signal was first passed on, the
loop last looked for one without a deadline, it last compared the clock with the deadline,
and SIGKILL was sent. -/
structure Reaper where
  now : Nat := 0
  terminalForwarded : Bool := false
  sigkillSent : Bool := false
  killDeadline : Option Nat := none
  sentAt : Option Nat := none
  lookedAt : Nat := 0
  checkedAt : Nat := 0
  kills : List Nat := []

namespace Reaper
variable (reaper : Reaper)

def forward : Reaper :=
  { reaper with terminalForwarded := true, sentAt := some (reaper.sentAt.getD reaper.now) }

/-- None if the deadline is out of the range of the clock, which is a panic. -/
def arm (graceSecs : Nat) : Option Reaper :=
  let looked := { reaper with lookedAt := if reaper.killDeadline.isNone then reaper.now else reaper.lookedAt }
  if reaper.terminalForwarded && reaper.killDeadline.isNone then
    (addToInstant reaper.now (fromSecs graceSecs)).map fun deadline => { looked with killDeadline := some deadline }
  else some looked

def check : Reaper :=
  let checked := { reaper with checkedAt := reaper.now }
  if reaper.killDeadline.any (· ≤ reaper.now) && !reaper.sigkillSent then
    { checked with sigkillSent := true, kills := reaper.now :: reaper.kills }
  else checked

end Reaper

/-- What `run` does next. -/
inductive Point where
  | sigaction
  | block
  | spawn
  | store
  | unblock
  | poll
  | report
  | wait
  | arm
  | check
  | sleep (wake : Nat)
  | returned (result : Except String Int)
  | panicked
  | died (signal : Signal)
  deriving DecidableEq

structure State where
  point : Point := .sigaction
  child : Child := .unborn
  received : List Signal := []
  forwarded : List Signal := []
  /-- The signals are blocked, and which of them have arrived. -/
  masked : Bool := false
  pending : List Signal := []
  /-- `CHILD_PID` is set. -/
  childPid : Bool := false
  /-- SIGKILL was sent to a plugin that is not ready. -/
  abandoned : Bool := false
  /-- The pid of the plugin is printed. -/
  printed : Bool := false
  reaper : Reaper := {}

/-- What a call of the operating system comes to. -/
inductive Answer where
  | ok
  /-- The child has not written its byte. -/
  | unready (error : String)
  | interrupted
  | failed (error : String)

inductive Action where
  | pass (later : Nat)
  | signal (signal : Signal)
  | childEnds (status : WaitStatus)
  | proceed (answer : Answer)

namespace State
variable (shim : State)

/-- The handler, which leaves the signal its default effect while there is no plugin; so it
is without a handler. -/
def forwardSignal (signal : Signal) : State :=
  if shim.childPid then { shim with forwarded := signal :: shim.forwarded, reaper := shim.reaper.forward }
  else { shim with point := .died signal }

def receive (signal : Signal) : Option State :=
  let heard := { shim with received := signal :: shim.received }
  match shim.point with
  | .died _ | .panicked => none
  | _ => some (if shim.masked then { heard with pending := shim.pending.insert signal } else heard.forwardSignal signal)

def proceed (graceSecs : Nat) (answer : Answer) : Option State :=
  match shim.point, answer with
  | .sigaction, .ok => some { shim with point := .block }
  | .block, .ok => some { shim with point := .spawn, masked := true }
  | .spawn, .ok => some { shim with point := .store, child := .running }
  | .store, .ok => some { shim with point := .unblock, childPid := true }
  | .unblock, .ok =>
    match shim.pending with
    | [] => some { shim with point := .poll, masked := false }
    | signal :: rest => some ({ shim with pending := rest }.forwardSignal signal)
  | .poll, .ok => some { shim with point := .report }
  | .poll, .unready error => some { shim with point := .returned (.error error), abandoned := true }
  | .report, .ok => some { shim with point := .wait, printed := true }
  | .wait, .ok =>
    match shim.child with
    | .ended status => some { shim with point := .returned (.ok status.code) }
    | _ => some { shim with point := .arm }
  | .wait, .interrupted => some shim
  | .arm, .ok =>
    match shim.reaper.arm graceSecs with
    | some reaper => some { shim with point := .check, reaper }
    | none => some { shim with point := .panicked }
  | .check, .ok => some { shim with point := .sleep (shim.reaper.now + fromMillis 50), reaper := shim.reaper.check }
  | .sleep wake, .ok => if wake ≤ shim.reaper.now then some { shim with point := .wait } else none
  | .sigaction, .failed error | .block, .failed error | .spawn, .failed error | .poll, .failed error
  | .wait, .failed error => some { shim with point := .returned (.error error) }
  | _, _ => none

def step (graceSecs : Nat) : Action → Option State
  | .pass later =>
    if shim.reaper.now ≤ later then some { shim with reaper := { shim.reaper with now := later } } else none
  | .signal signal => shim.receive signal
  | .childEnds status => if shim.child = .running then some { shim with child := .ended status } else none
  | .proceed answer => shim.proceed graceSecs answer

end State
end Vynkor.Shim
