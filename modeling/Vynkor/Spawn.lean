import Vynkor.Auth.Jwt
import Vynkor.Data.OsText
import Vynkor.Loader
import Vynkor.Supervisor

/-! How the supervisor starts the process of a plugin on Linux: its data directory, its
environment, its cgroup scope, and the handshake with the shim that a sandboxed plugin
runs under. What the operating system does in the course of it is a parameter. -/

namespace Vynkor
open UnixPath Supervisor

inductive FsAccessMode where
  | full
  | readOnly
  | none
  deriving DecidableEq

def FsAccessMode.asStr : FsAccessMode → String
  | .full => "full"
  | .readOnly => "read-only"
  | .none => "none"

def FsAccessMode.parse (text : String) : Option FsAccessMode :=
  if text = "full" then some .full
  else if text = "read-only" ∨ text = "readonly" then some .readOnly
  else if text = "none" then some .none
  else Option.none

/-- The whole configuration of a plugin. Of what is added here only the start of its
process makes use. -/
structure LaunchConfig extends Supervisor.PluginConfig where
  pluginId : String
  binaryPath : Path
  args : List String := []
  env : List String := []
  maxFsAccess : FsAccessMode := .full
  readonlyPaths : List Path := []
  writablePaths : List Path := []

def pluginDataDir (dataDir : Path) (pluginId : String) : Path := join (join dataDir (utf8 "plugins")) (utf8 pluginId)

def isScopeChar (char : Char) : Bool := char.isAlphanum || char = '.' || char = '_' || char = '-'

def sanitizePluginId (pluginId : String) : String :=
  let out := String.ofList ((pluginId.toList.take 63).map fun char => if isScopeChar char then char else '_')
  if out = "" ∨ out = "." ∨ out = ".." then "plugin" else out

abbrev Environment := DashMap String Bytes

namespace Environment
variable (env : Environment)

/-- `std::env::var`, which finds nothing that is not UTF-8. -/
def var (name : String) : Option String := (env.get name).bind OsText.decode

def setText (name value : String) : Environment := env.insert name (utf8 value)

/-- Sets what a list of `KEY=VALUE` texts says. -/
def setAll (entries : List String) : Environment :=
  entries.foldl (fun env entry =>
    match Text.splitOnce entry '=' with
    | some (key, value) => env.setText key value
    | none => env) env

end Environment

structure FsRestriction where
  mode : FsAccessMode
  readonlyPaths : List Path
  writablePaths : List Path
  deriving DecidableEq

def maxFsAccessEnv : String := "VYN_MAX_FS_ACCESS"

def roPathsEnv : String := "VYN_RO_PATHS"

def rwPathsEnv : String := "VYN_RW_PATHS"

def pathSep : Char := Char.ofNat 0x1F

def joinPathsEnv (paths : List Path) : String := Text.join pathSep (paths.map OsText.lossy)

def pathsIn (value : String) : List Path := ((Text.split value pathSep).filter (· ≠ "")).map utf8

def parsePathsEnv (env : Environment) (name : String) : List Path :=
  match env.var name with
  | some value => pathsIn value
  | none => []

def fromEnv (env : Environment) : Option FsRestriction :=
  match (env.var maxFsAccessEnv).bind FsAccessMode.parse with
  | none | some .full => none
  | some mode => some {
      mode
      readonlyPaths := parsePathsEnv env roPathsEnv
      writablePaths := parsePathsEnv env rwPathsEnv }

def shimGraceEnv : String := "VYN_SHIM_GRACE_SECS"

/-- What the kernel process itself runs with. -/
structure Surroundings where
  socketPath : Path
  dataDir : Option Path
  shimBin : Path
  inherited : Environment := ∅

structure ProcessCommand where
  program : Path
  args : List Bytes
  env : Environment

namespace LaunchConfig
variable (config : LaunchConfig) (around : Surroundings)

def dataDir (made : Bool) : Option Path :=
  if made then around.dataDir.map fun dataDir => pluginDataDir dataDir config.pluginId else none

def grantedPaths (made : Bool) : List Path := config.writablePaths ++ (config.dataDir around made).toList

def shimEnv (made : Bool) (env : Environment) : Environment :=
  let env := if 0 < config.graceSeconds then env.setText shimGraceEnv (toString config.graceSeconds.toNat) else env
  if config.maxFsAccess ≠ .full then
    ((env.setText maxFsAccessEnv config.maxFsAccess.asStr).setText roPathsEnv
      (joinPathsEnv config.readonlyPaths)).setText rwPathsEnv (joinPathsEnv (config.grantedPaths around made))
  else env

/-- The plugin's own variables come last. -/
def processEnv (made : Bool) : Environment :=
  let env := if config.sandbox then config.shimEnv around made around.inherited else around.inherited
  let env := env.insert "VYN_SOCKET_PATH" around.socketPath
  let env := match config.dataDir around made with
    | some dir => env.insert "VYN_DATA_DIR" dir
    | none => env
  Environment.setAll env config.env

def command (made : Bool) : ProcessCommand where
  program := if config.sandbox then around.shimBin else config.binaryPath
  args := (if config.sandbox then [utf8 "__shim", config.binaryPath] else []) ++ config.args.map utf8
  env := config.processEnv around made

end LaunchConfig

/-- The processes that run, and the scopes with the processes in them. -/
structure Machine where
  running : List Nat := []
  scopes : DashMap String (List Nat) := ∅

namespace Machine
variable (machine : Machine)

/-- Makes the scope, which may be there already. -/
def prepare (scope : String) : Machine :=
  if machine.scopes.containsKey scope then machine else { machine with scopes := machine.scopes.insert scope [] }

def start (scope : Option String) (processes : List Nat) : Machine where
  running := machine.running ++ processes
  scopes := scope.elim machine.scopes fun scope => machine.scopes.update scope (· ++ processes)

def stop (scope : Option String) (processes : List Nat) : Machine where
  running := machine.running.filter (· ∉ processes)
  scopes := scope.elim machine.scopes fun scope => machine.scopes.update scope (·.filter (· ∉ processes))

def cleanup (scope : String) : Machine :=
  if machine.scopes.get scope = some [] then { machine with scopes := machine.scopes.erase scope } else machine

end Machine

/-- The first line of the shim: none if its output ended. -/
inductive Handshake where
  | late
  | broken (error : String)
  | line (text : Option String)
  deriving DecidableEq

/-- What the operating system does in the course of one call. -/
structure Course where
  dirMade : Bool := true
  /-- A scope could be prepared. -/
  hasScope : Bool := true
  /-- The child has moved itself into the scope. -/
  joined : Bool := true
  child : Except String Nat
  /-- Processes that the child has started by the end of the handshake, and those of them
  that outlive it if it is killed. -/
  forked : List Nat := []
  outliving : List Nat := []
  handshake : Handshake := .line none
  /-- The id of the child, which one that was waited for does not have. -/
  childId : Option Nat

structure Spawned where
  result : Except VynkorError Nat
  entries : DashMap String Supervisor.PluginEntry
  nextEpoch : Nat
  machine : Machine
  /-- What was executed, if it came to that. -/
  command : Option ProcessCommand := none

namespace Course
variable (course : Course)

def scope (config : LaunchConfig) : Option String :=
  if course.hasScope then some (sanitizePluginId config.pluginId) else none

def processes (pid : Nat) : List Nat := pid :: course.forked

def prepared (config : LaunchConfig) (machine : Machine) : Machine :=
  (course.scope config).elim machine machine.prepare

/-- The child and what it starts are in its scope, if it has joined it. -/
def begun (config : LaunchConfig) (pid : Nat) (machine : Machine) : Machine :=
  (course.prepared config machine).start (if course.joined then course.scope config else none) (course.processes pid)

def reportedPid (line : Option String) : Option Nat :=
  (line.bind fun text => Text.parseUnsigned UInt32.size (Text.trim text)).filter (0 < ·)

def debugLine : Option String → String
  | some text => "Some(" ++ text.quote ++ ")"
  | none => "None"

/-- How a call ends whose child was created. Only a shim that reports no pid is killed and
its scope removed. -/
def finish (config : LaunchConfig) (pid : Nat) (machine : Machine) : Except VynkorError Nat × Machine :=
  if config.sandbox then
    match course.handshake with
    | .late => (.error (.internal "sandbox shim did not report a plugin pid within 15s"), machine)
    | .broken error => (.error (.io error), machine)
    | .line text =>
      match reportedPid text with
      | none =>
        let machine := machine.stop (course.scope config) ((course.processes pid).filter (· ∉ course.outliving))
        (.error (.internal ("sandbox shim exited before the plugin started (line: " ++ debugLine text ++ ")")),
          (course.scope config).elim machine machine.cleanup)
      | some pluginPid =>
        match course.childId with
        | some _ => (.ok pluginPid, machine)
        | none => (.error (.internal "no shim pid"), machine)
  else
    match course.childId with
    | some pid => (.ok pid, machine)
    | none => (.error (.internal "no pid"), machine)

end Course

/-- A process that has started gets its entry. -/
def recordSpawn (entries : DashMap String Supervisor.PluginEntry) (config : LaunchConfig) (restartCount : UInt32)
    (epoch : Nat) : Except VynkorError Nat → DashMap String Supervisor.PluginEntry
  | .ok _ => entries.insert config.pluginId { config := config.toPluginConfig, restartCount, epoch }
  | .error _ => entries

/-- `spawn_internal`, with the supervisor's table and its counter of epochs. -/
def spawnInternal (around : Surroundings) (entries : DashMap String Supervisor.PluginEntry) (nextEpoch : Nat)
    (machine : Machine) (config : LaunchConfig) (restartCount : UInt32) (replaceEpoch : Option Nat) (course : Course) :
    Spawned :=
  if replaceEpoch.isNone && entries.containsKey config.pluginId then
    { result := .error (.pluginAlreadyRunning config.pluginId), entries, nextEpoch, machine }
  else
    let command := some (config.command around course.dirMade)
    match course.child with
    | .error error => {
        result := .error (.io error), entries, nextEpoch := nextEpoch + 1, command
        machine := (course.scope config).elim machine (course.prepared config machine).cleanup }
    | .ok pid =>
      let finished := course.finish config pid (course.begun config pid machine)
      { result := finished.1
        entries := recordSpawn entries config restartCount (nextEpoch + 1) finished.1
        nextEpoch := nextEpoch + 1
        machine := finished.2
        command }

end Vynkor
