import Vynkor.Scenario
import Vynkor.Shim
import Vynkor.Shutdown
import Vynkor.Spawn

/-! What the shim of a sandboxed plugin reads from its environment. An entry of the plugin's
own list replaces the variable that the supervisor sets for it, for that list is applied
last. -/

namespace Vynkor.Proofs
open DashMap Scenario Supervisor UnixPath
variable {env : Environment} {name : String} {config : LaunchConfig} {around : Surroundings} {made : Bool}

/-- What the last entry that sets the variable says. -/
def ownValue (entries : List String) (name : String) : Option String :=
  entries.reverse.findSome? fun entry =>
    (Text.splitOnce entry '=').bind fun pair => if pair.1 = name then some pair.2 else none

theorem get_setAll (entries : List String) :
    DashMap.get (env.setAll entries) name = ((ownValue entries name).map utf8).or (env.get name) := by
  induction entries using List.reverseRecOn with
  | nil => rfl
  | append_singleton rest entry ih =>
    have last : env.setAll (rest ++ [entry]) = (env.setAll rest).setAll [entry] := List.foldl_append
    rw [last, ownValue, List.reverse_concat, List.findSome?_cons, ← ownValue]
    generalize env.setAll rest = before at ih
    cases parts : Text.splitOnce entry '=' with
    | none => simpa [Environment.setAll, parts] using ih
    | some pair =>
      obtain ⟨key, value⟩ := pair
      by_cases same : key = name
      · simp [Environment.setAll, parts, same, Environment.setText]
      · simpa [Environment.setAll, parts, same, Ne.symm same, Environment.setText, get_insert] using ih

theorem get_setText (env : Environment) (other value : String) :
    DashMap.get (env.setText other value) name = if name = other then some (utf8 value) else env.get name :=
  get_insert _ _ _ _

theorem var_of_get {value : String} (found : env.get name = some (utf8 value)) : env.var name = some value := by
  rw [Environment.var, found]
  exact OsText.decode_encode value

theorem get_processEnv (sandboxed : config.sandbox = true) (apart : name ≠ "VYN_SOCKET_PATH" ∧ name ≠ "VYN_DATA_DIR") :
    DashMap.get (config.processEnv around made) name = ((ownValue config.env name).map utf8).or
      (DashMap.get (config.shimEnv around made around.inherited) name) := by
  rw [LaunchConfig.processEnv, get_setAll, if_pos sandboxed]
  cases config.dataDir around made with
  | none => simp only [get_insert, if_neg apart.1]
  | some dir => simp only [get_insert, if_neg apart.1, if_neg apart.2]

/-- The shim reads the plugin's own text in the place of what it was told. -/
theorem var_processEnv (sandboxed : config.sandbox = true)
    (apart : name ≠ "VYN_SOCKET_PATH" ∧ name ≠ "VYN_DATA_DIR") {told : String}
    (set : DashMap.get (config.shimEnv around made around.inherited) name = some (utf8 told)) :
    (config.processEnv around made).var name = some ((ownValue config.env name).getD told) := by
  refine var_of_get ?_
  rw [get_processEnv sandboxed apart, set]
  cases ownValue config.env name <;> rfl

theorem parse_asStr (mode : FsAccessMode) : FsAccessMode.parse mode.asStr = some mode := by
  cases mode <;> decide

/-- The path is text that a list of paths can hold. -/
def isPortable (path : Path) : Bool := (OsText.decode path).any fun text => text ≠ "" && pathSep ∉ text.toList

theorem portable_text {path : Path} (portable : isPortable path = true) : utf8 (OsText.lossy path) = path ∧
    OsText.lossy path ≠ "" ∧ pathSep ∉ (OsText.lossy path).toList := by
  cases decoded : OsText.decode path with
  | none => simp [isPortable, decoded] at portable
  | some text =>
    rw [OsText.lossy, decoded, Option.getD_some]
    exact ⟨TextField.encode_of_fromUTF8 decoded, by simpa [isPortable, decoded] using portable⟩

theorem pathsIn_join_of_portable {paths : List Path} (portable : ∀ path ∈ paths, isPortable path = true) :
    pathsIn (joinPathsEnv paths) = paths := by
  by_cases none : paths = []
  · subst none
    decide +kernel
  · have separate : ∀ text ∈ paths.map OsText.lossy, pathSep ∉ text.toList := by
      intro text member
      obtain ⟨path, listed, rfl⟩ := List.mem_map.mp member
      exact (portable_text (portable path listed)).2.2
    have kept : (paths.map OsText.lossy).filter (· ≠ "") = paths.map OsText.lossy := by
      rw [List.filter_eq_self]
      intro text member
      obtain ⟨path, listed, rfl⟩ := List.mem_map.mp member
      exact decide_eq_true (portable_text (portable path listed)).2.1
    have back : paths.map (utf8 ∘ OsText.lossy) = paths.map id :=
      List.map_congr_left fun path listed => (portable_text (portable path listed)).1
    simp only [pathsIn, joinPathsEnv, Text.split_join separate (by simpa using none), kept, List.map_map, back,
      List.map_id]

/-- Whatever a list of paths is read from, the paths are text of one piece. -/
theorem portable_of_mem_pathsIn {value : String} {path : Path} (member : path ∈ pathsIn value) :
    isPortable path = true := by
  obtain ⟨piece, kept, rfl⟩ := List.mem_map.mp member
  obtain ⟨listed, solid⟩ := List.mem_filter.mp kept
  have text : OsText.decode (utf8 piece) = some piece := OsText.decode_encode piece
  rw [isPortable, text, Option.any_some, Bool.and_eq_true]
  exact ⟨solid, decide_eq_true (Text.not_mem_of_mem_split listed)⟩

/-- The paths that the shim reads are these: the plugin's own list has them or, if it has
none, each of them survives the join. -/
def ReadAs (own : Option String) (paths : List Path) : Prop :=
  own.elim (∀ path ∈ paths, isPortable path = true) fun value => pathsIn value = paths

theorem pathsIn_getD_iff {own : Option String} {paths : List Path} :
    pathsIn (own.getD (joinPathsEnv paths)) = paths ↔ ReadAs own paths := by
  cases own with
  | some value => rfl
  | none =>
    refine ⟨fun same path member => ?_, pathsIn_join_of_portable⟩
    rw [← same] at member
    exact portable_of_mem_pathsIn member

/-- No variable of the plugin's own makes a difference, and no path gets lost on the way. -/
structure Arrives (config : LaunchConfig) (around : Surroundings) (made : Bool) : Prop where
  mode : ∀ own, ownValue config.env maxFsAccessEnv = some own → FsAccessMode.parse own = some config.maxFsAccess
  readonly : ReadAs (ownValue config.env roPathsEnv) config.readonlyPaths
  writable : ReadAs (ownValue config.env rwPathsEnv) (config.grantedPaths around made)

theorem parse_getD_iff {own : Option String} {mode : FsAccessMode} :
    FsAccessMode.parse (own.getD mode.asStr) = some mode ↔
      ∀ value, own = some value → FsAccessMode.parse value = some mode := by
  cases own with
  | none => simp [parse_asStr]
  | some value => simp

theorem fromEnv_eq_some_iff {restriction : FsRestriction} (limited : restriction.mode ≠ .full) :
    fromEnv env = some restriction ↔ (env.var maxFsAccessEnv).bind FsAccessMode.parse = some restriction.mode ∧
      parsePathsEnv env roPathsEnv = restriction.readonlyPaths ∧
      parsePathsEnv env rwPathsEnv = restriction.writablePaths := by
  obtain ⟨mode, readonly, writable⟩ := restriction
  rw [fromEnv]
  cases (env.var maxFsAccessEnv).bind FsAccessMode.parse with
  | none => simp
  | some found =>
    cases found with
    | full => simpa using fun same => absurd same.symm limited
    | readOnly | none => simp

/-- The shim finds the restriction of the configuration, with the data directory as the
last of the writable paths, if and only if the variables of the plugin's own say the same
where they replace it, and every path is text of one piece where they do not. -/
theorem restriction_reaches_shim (config : LaunchConfig) (around : Surroundings) (made : Bool)
    (sandboxed : config.sandbox = true) (limited : config.maxFsAccess ≠ .full) :
    fromEnv (config.processEnv around made) = some {
      mode := config.maxFsAccess
      readonlyPaths := config.readonlyPaths
      writablePaths := config.writablePaths ++ (config.dataDir around made).toList } ↔ Arrives config around made := by
  have mode : (config.processEnv around made).var maxFsAccessEnv =
      some ((ownValue config.env maxFsAccessEnv).getD config.maxFsAccess.asStr) := by
    refine var_processEnv sandboxed (by decide) ?_
    simp [LaunchConfig.shimEnv, limited, get_setText, maxFsAccessEnv, roPathsEnv, rwPathsEnv]
  have readonly : (config.processEnv around made).var roPathsEnv =
      some ((ownValue config.env roPathsEnv).getD (joinPathsEnv config.readonlyPaths)) := by
    refine var_processEnv sandboxed (by decide) ?_
    simp [LaunchConfig.shimEnv, limited, get_setText, roPathsEnv, rwPathsEnv]
  have writable : (config.processEnv around made).var rwPathsEnv =
      some ((ownValue config.env rwPathsEnv).getD (joinPathsEnv (config.grantedPaths around made))) := by
    refine var_processEnv sandboxed (by decide) ?_
    simp [LaunchConfig.shimEnv, limited, get_setText]
  rw [fromEnv_eq_some_iff limited, mode, parsePathsEnv, parsePathsEnv, readonly, writable, Option.bind_some,
    parse_getD_iff]
  refine (and_congr_right' (and_congr pathsIn_getD_iff pathsIn_getD_iff)).trans ?_
  exact ⟨fun read => ⟨read.1, read.2.1, read.2.2⟩,
    fun arrives => ⟨arrives.mode, arrives.readonly, arrives.writable⟩⟩

def workshop : Surroundings :=
  { socketPath := utf8 "/run/vyn.sock", dataDir := some (utf8 "/data"), shimBin := utf8 "/vyn" }

def editor : LaunchConfig :=
  { pluginId := "editor", binaryPath := utf8 "/opt/editor", sandbox := true, maxFsAccess := .none
    env := ["LANG=C"], readonlyPaths := [utf8 "/usr", utf8 "/etc"], writablePaths := [utf8 "/drafts"] }

theorem restriction_reaches_shim_editor :
    fromEnv (editor.processEnv workshop true) = some {
      mode := .none
      readonlyPaths := [utf8 "/usr", utf8 "/etc"]
      writablePaths := [utf8 "/drafts"] ++ [utf8 "/data/plugins/editor"] } := by
  have unset : ∀ name ∈ [maxFsAccessEnv, roPathsEnv, rwPathsEnv], ownValue editor.env name = none := by decide +kernel
  refine (restriction_reaches_shim editor workshop true rfl (by decide)).mpr ⟨?_, ?_, ?_⟩
  · simp [unset]
  · rw [ReadAs, unset _ (by simp), Option.elim_none]
    decide +kernel
  · rw [ReadAs, unset _ (by simp), Option.elim_none]
    decide +kernel

/-- A variable of its own lifts the restriction, and a path with a separator is two. -/
theorem restriction_overridden :
    fromEnv ({ editor with env := ["VYN_MAX_FS_ACCESS=full"] }.processEnv workshop true) = none ∧
      ((fromEnv ({ editor with readonlyPaths := [utf8 (String.ofList ['a', pathSep, 'b'])] }.processEnv workshop true)).map
        fun restriction => restriction.readonlyPaths) = some [utf8 "a", utf8 "b"] := by
  decide +kernel

end Vynkor.Proofs
