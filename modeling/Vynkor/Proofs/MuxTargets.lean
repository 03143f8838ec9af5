import Vynkor.Proofs.RegistryCalls
import Vynkor.Scenario

/-! Which entry a target resolves to. Next to the registry stands, for each id, what
its last registration declared; no method reads that. -/

namespace Vynkor.Proofs
open Execution PluginRegistry RouterState

section Resolution
variable {registry updated : PluginRegistry} {moment : Moment} {entry found : PluginEntry} {details : DeviceMeta}
  {capabilities : List String} {target left right id cap dev : String}

theorem splitOnce_dot :
    Text.splitOnce target '.' = some (left, right) ↔ target = left ++ "." ++ right ∧ '.' ∉ left.toList := by
  rw [Text.splitOnce_eq_some_iff, ← String.toList_inj]
  simp

def recordCaps (registry : PluginRegistry) (device : String) : List String :=
  ((registry.devices.get device).map DeviceInfo.capabilities).getD []

theorem declaresCap_eq : registry.declaresCap entry target dev cap =
    (entry.manifest.actions.any (· == target) ||
      entry.manifest.actions.any (fun action => (Text.splitOnce action '.').any fun parts => parts.2 == cap) ||
      (recordCaps registry dev).any (· == cap)) := by
  rw [PluginRegistry.declaresCap]
  congr 1
  · congr 2
    funext action
    cases Text.splitOnce action '.' with
    | none => rfl
    | some parts => rfl
  · rw [recordCaps]
    cases registry.devices.get dev with
    | none => rfl
    | some device => rfl

theorem declaresCap_iff : registry.declaresCap entry target dev cap = true ↔
    target ∈ entry.manifest.actions ∨
    (∃ action ∈ entry.manifest.actions, ∃ other, Text.splitOnce action '.' = some (other, cap)) ∨
    cap ∈ recordCaps registry dev := by
  have suffix (action : String) : (Text.splitOnce action '.').any (fun parts => parts.2 == cap) = true ↔
      ∃ other, Text.splitOnce action '.' = some (other, cap) := by
    cases Text.splitOnce action '.' with
    | none => simp
    | some parts => simp [Prod.ext_iff]
  simp only [declaresCap_eq, Bool.or_eq_true, List.any_eq_true, suffix, beq_iff_eq, exists_eq_right, or_assoc]

theorem getMux_qualified (free : registry.get target = none) (named : target = id ++ "." ++ cap)
    (undotted : '.' ∉ id.toList) (registered : registry.get id = some entry) :
    registry.getMux target = if registry.declaresCap entry target id cap then some entry else none := by
  have split : Text.splitOnce target '.' = some (id, cap) := splitOnce_dot.mpr ⟨named, undotted⟩
  simp only [PluginRegistry.getMux, free, PluginRegistry.getDeviceCap, split, registered]

theorem recordCaps_insertEntry (done : registry.insertEntry moment entry details capabilities = .ok updated)
    (device : String) :
    recordCaps updated device = if device = entry.deviceId then capabilities else recordCaps registry device := by
  simp only [recordCaps, insertEntry_devices done, upsertDevice]
  split
  · rw [DashMap.get_insert]
    split
    · rfl
    · rfl
  · rw [DashMap.get_insert]
    split
    · rfl
    · rfl

theorem recordCaps_unregister (id device : String) :
    recordCaps (registry.unregister id) device = recordCaps registry device := by
  simp only [PluginRegistry.unregister]
  split
  · rfl
  next entry found =>
    simp only [recordCaps]
    split
    · rfl
    · rw [DashMap.get_update]
      split
      · rw [Option.map_map]
        rfl
      · rfl

end Resolution

def registeredId : RegistryCall → Option String
  | .registerWithDevice _ pluginId .. => some pluginId
  | .registerDevice _ deviceId .. => some deviceId
  | .unregister _ => none

/-- The capabilities that the entry of a call declares: those of a multiplexed device,
or those of a plugin that is its own device. -/
def declares (entry : PluginEntry) : RegistryCall → List String
  | .registerWithDevice _ _ _ _ _ _ details => if entry.deviceId = entry.pluginId then details.capabilities else []
  | .registerDevice _ _ _ caps .. => caps
  | .unregister _ => []

structure Declarations where
  registry : PluginRegistry := {}
  declared : String → List String := fun _ => []

def arrival (later : PluginRegistry) (call : RegistryCall) : Option PluginEntry := (registeredId call).bind later.get

namespace Declarations

def note (declared : String → List String) (call : RegistryCall) : Option PluginEntry → String → List String
  | none => declared
  | some entry => Function.update declared entry.pluginId (declares entry call)

def step (state : Declarations) (call : RegistryCall) : Option Declarations :=
  match operation state.registry call with
  | .error _ => some state
  | .ok later => some { registry := later, declared := note state.declared call (arrival later call) }

end Declarations

/-- Nothing stands in the way of the entry's own declarations: who declares
capabilities has no dot in its id, the part after the dot of an action is one of them,
and the record of a device is written by the plugin of that name only. -/
def settles (registry : PluginRegistry) (entry : PluginEntry) (declared : List String) : Bool :=
  (entry.deviceId == entry.pluginId ||
    (registry.get entry.deviceId).isNone && (recordCaps registry entry.pluginId).isEmpty) &&
  if Text.contains entry.pluginId '.' then declared.isEmpty
  else entry.manifest.actions.all fun action =>
    match Text.splitOnce action '.' with
    | some (_, cap) => declared.contains cap
    | none => true

def tidy (state : Declarations) (call : RegistryCall) : Bool :=
  match operation state.registry call with
  | .error _ => true
  | .ok later =>
    match arrival later call with
    | none => true
    | some entry => settles state.registry entry (declares entry call)

section Settles
variable {registry : PluginRegistry} {entry : PluginEntry} {declared : List String}

section
variable (settled : settles registry entry declared = true)
include settled

theorem settles_record (foreign : entry.deviceId ≠ entry.pluginId) :
    registry.get entry.deviceId = none ∧ recordCaps registry entry.pluginId = [] := by
  simp only [settles, Bool.and_eq_true, Bool.or_eq_true, beq_iff_eq, Option.isNone_iff_eq_none,
    List.isEmpty_iff] at settled
  exact settled.1.resolve_left foreign

theorem settles_dotted (dotted : '.' ∈ entry.pluginId.toList) : declared = [] := by
  have contained : Text.contains entry.pluginId '.' = true := by simpa [Text.contains] using dotted
  simp only [settles, contained, if_true, Bool.and_eq_true, List.isEmpty_iff] at settled
  exact settled.2

theorem settles_actions (undotted : '.' ∉ entry.pluginId.toList)
    {action left cap} (member : action ∈ entry.manifest.actions)
    (split : Text.splitOnce action '.' = some (left, cap)) : cap ∈ declared := by
  have absent : Text.contains entry.pluginId '.' = false := by simpa [Text.contains] using undotted
  simp only [settles, absent, Bool.and_eq_true, Bool.false_eq_true, if_false, List.all_eq_true] at settled
  simpa [split] using settled.2 action member

end

end Settles

/-- What a registration that succeeds declares. -/
inductive DeclaredBy (entry : PluginEntry) (capabilities : List String) : List String → Prop where
  | plugin : DeclaredBy entry capabilities (if entry.deviceId = entry.pluginId then capabilities else [])
  | device (qualified : entry.manifest.actions = capabilities.map fun cap => entry.pluginId ++ "." ++ cap) :
      DeclaredBy entry capabilities capabilities

inductive Performed (registry later : PluginRegistry) (call : RegistryCall) : Prop where
  | removed (id : String) (named : call = .unregister id) (left : later = registry.unregister id)
  | added {moment entry details capabilities}
      (done : registry.insertEntry moment entry details capabilities = .ok later)
      (arrived : arrival later call = some entry) (declares : DeclaredBy entry capabilities (declares entry call))

theorem operation_performed {registry later call}
    (done : operation registry call = .ok later) : Performed registry later call := by
  cases call with
  | unregister id =>
    cases done
    exact .removed id rfl rfl
  | registerWithDevice moment pluginId connId manifest writeTx owned details =>
    have stored := (insertEntry_ok done).get pluginId
    rw [if_pos rfl] at stored
    exact .added done stored .plugin
  | registerDevice moment deviceId connId caps manifest writeTx owned details =>
    have stored := (insertEntry_ok done).get deviceId
    rw [if_pos rfl] at stored
    exact .added done stored (.device rfl)

/-- A tidy call changes nothing, removes a plugin or registers one. -/
inductive Tidied (state next : Declarations) : Prop where
  | same (kept : next = state)
  | removed (id : String) (left : next = { state with registry := state.registry.unregister id })
  | added {moment entry details capabilities declared}
      (done : state.registry.insertEntry moment entry details capabilities = .ok next.registry)
      (declares : DeclaredBy entry capabilities declared)
      (noted : next.declared = Function.update state.declared entry.pluginId declared)
      (settled : settles state.registry entry declared = true)

theorem step_tidied {state next call} (allowed : tidy state call = true)
    (took : state.step call = some next) : Tidied state next := by
  simp only [Declarations.step] at took
  simp only [tidy] at allowed
  split at took
  · cases took
    exact .same rfl
  next later done =>
    rw [done] at allowed
    cases took
    cases operation_performed done with
    | removed id named left =>
      subst named left
      exact .removed id rfl
    | added done arrived declares =>
      simp only [arrived] at allowed
      refine .added done declares ?_ allowed
      simp only [arrived, Declarations.note]

/-- Actions and device records list just what was declared. -/
structure Truthful (state : Declarations) : Prop where
  dotted : ∀ id entry, state.registry.get id = some entry → '.' ∈ id.toList → state.declared id = []
  actions : ∀ id entry, state.registry.get id = some entry → '.' ∉ id.toList → ∀ action ∈ entry.manifest.actions,
    ∀ left cap, Text.splitOnce action '.' = some (left, cap) → cap ∈ state.declared id
  recorded : ∀ id entry, state.registry.get id = some entry → '.' ∉ id.toList →
    recordCaps state.registry id ⊆ state.declared id
  complete : ∀ id entry, state.registry.get id = some entry → ∀ cap ∈ state.declared id,
    id ++ "." ++ cap ∈ entry.manifest.actions ∨ cap ∈ recordCaps state.registry id

section Preserved
variable {state next : Declarations}

theorem Truthful.added {moment entry details capabilities declared} (settled : Truthful state)
    (done : state.registry.insertEntry moment entry details capabilities = .ok next.registry)
    (declares : DeclaredBy entry capabilities declared)
    (noted : next.declared = Function.update state.declared entry.pluginId declared)
    (settles : settles state.registry entry declared = true) : Truthful next := by
  have inserted : Inserted state.registry next.registry entry := insertEntry_ok done
  have own : next.declared entry.pluginId = declared := by rw [noted, Function.update_self]
  -- an entry that was there keeps its declarations, and its record: who registers under it is of its own device
  have kept : ∀ id old, state.registry.get id = some old →
      next.declared id = state.declared id ∧ recordCaps next.registry id = recordCaps state.registry id := by
    intro id old found
    have apart : id ≠ entry.pluginId := by
      rintro rfl
      rw [inserted.freeId] at found
      cases found
    constructor
    · rw [noted, Function.update_of_ne apart]
    · rw [recordCaps_insertEntry done, if_neg]
      rintro rfl
      rw [(settles_record settles apart).1] at found
      cases found
  constructor
  · intro id found stored dotted
    rcases inserted.found stored with old | ⟨rfl, rfl⟩
    · rw [(kept id found old).1]
      exact settled.dotted id found old dotted
    · rw [own]
      exact settles_dotted settles dotted
  · intro id found stored undotted action member left cap split
    rcases inserted.found stored with old | ⟨rfl, rfl⟩
    · rw [(kept id found old).1]
      exact settled.actions id found old undotted action member left cap split
    · rw [own]
      exact settles_actions settles undotted member split
  · intro id found stored undotted
    rcases inserted.found stored with old | ⟨rfl, rfl⟩
    · rw [(kept id found old).1, (kept id found old).2]
      exact settled.recorded id found old undotted
    · rw [own, recordCaps_insertEntry done]
      split
      next same =>
        cases declares with
        | plugin => rw [if_pos same.symm]; exact List.Subset.refl _
        | device => exact List.Subset.refl _
      next foreign =>
        rw [(settles_record settles (Ne.symm foreign)).2]
        exact List.nil_subset _
  · intro id found stored cap member
    rcases inserted.found stored with old | ⟨rfl, rfl⟩
    · rw [(kept id found old).1] at member
      rw [(kept id found old).2]
      exact settled.complete id found old cap member
    · rw [own] at member
      cases declares with
      | device qualified =>
        rw [qualified]
        exact .inl (List.mem_map_of_mem member)
      | plugin =>
        split at member
        next same =>
          rw [recordCaps_insertEntry done, if_pos same.symm]
          exact .inr member
        · cases member

theorem Truthful.removed (settled : Truthful state) (id : String) :
    Truthful { state with registry := state.registry.unregister id } := by
  constructor
  · intro other entry found
    exact settled.dotted other entry (get_of_unregister found)
  · intro other entry found
    exact settled.actions other entry (get_of_unregister found)
  · intro other entry found undotted
    rw [recordCaps_unregister]
    exact settled.recorded other entry (get_of_unregister found) undotted
  · intro other entry found
    rw [recordCaps_unregister]
    exact settled.complete other entry (get_of_unregister found)

theorem truthful_of_run (run : Run Declarations.step tidy {} state) : Truthful state := by
  refine run.preserves ⟨?_, ?_, ?_, ?_⟩ ?_
  · intro id entry found
    cases found
  · intro id entry found
    cases found
  · intro id entry found
    cases found
  · intro id entry found
    cases found
  · intro state call next allowed took settled
    cases step_tidied allowed took with
    | same kept =>
      rw [kept]
      exact settled
    | removed id left =>
      rw [left]
      exact settled.removed id
    | added done declares noted settles => exact settled.added done declares noted settles

theorem Truthful.getMux_iff (settled : Truthful state) (target : String) (entry : PluginEntry) :
    state.registry.getMux target = some entry ↔ state.registry.get entry.pluginId = some entry ∧
      (entry.pluginId = target ∨ state.registry.get target = none ∧
        ∃ cap ∈ state.declared entry.pluginId, target = entry.pluginId ++ "." ++ cap) := by
  constructor
  · intro resolved
    refine ⟨getMux_registered resolved, ?_⟩
    simp only [PluginRegistry.getMux] at resolved
    split at resolved
    next direct stored =>
      cases resolved
      exact .inl (get_own stored)
    next free =>
      obtain ⟨cap, split, registered⟩ := getDeviceCap_some resolved
      obtain ⟨named, undotted⟩ := splitOnce_dot.mp split
      have declared : state.registry.declaresCap entry target entry.pluginId cap = true := by
        simp only [PluginRegistry.getDeviceCap, split, registered] at resolved
        split at resolved
        next declared => exact declared
        · cases resolved
      refine .inr ⟨free, cap, ?_, named⟩
      rcases declaresCap_iff.mp declared with listed | ⟨action, listed, other, parts⟩ | recorded
      · exact settled.actions _ _ registered undotted target listed _ _ split
      · exact settled.actions _ _ registered undotted action listed _ _ parts
      · exact settled.recorded _ _ registered undotted recorded
  · rintro ⟨registered, rfl | ⟨free, cap, declared, named⟩⟩
    · exact getMux_eq_get registered
    · have undotted : '.' ∉ entry.pluginId.toList := by
        intro dotted
        rw [settled.dotted _ _ registered dotted] at declared
        cases declared
      rw [getMux_qualified free named undotted registered, if_pos]
      rcases settled.complete _ _ registered cap declared with listed | recorded
      · rw [named]
        exact declaresCap_iff.mpr (.inl listed)
      · exact declaresCap_iff.mpr (.inr (.inr recorded))

end Preserved

/-- After tidy calls a target resolves to the entry of that id, or else to the entry
that declares the capability after its own id and a dot; to no other. -/
theorem get_mux_exact (final : Declarations) (run : Run Declarations.step tidy {} final) (target : String)
    (entry : PluginEntry) :
    final.registry.getMux target = some entry ↔ final.registry.get entry.pluginId = some entry ∧
      (entry.pluginId = target ∨ final.registry.get target = none ∧
        ∃ cap ∈ final.declared entry.pluginId, target = entry.pluginId ++ "." ++ cap) :=
  (truthful_of_run run).getMux_iff target entry

section Cabinet
open Scenario

theorem channel_of (conn : Nat) : Sender.conn { conn } = conn := rfl

def device (conn : Nat) (deviceId : String) (caps : List String) : RegistryCall :=
  .registerDevice start deviceId conn caps {} { conn } (channel_of conn) {}

def plugin (conn : Nat) (pluginId : String) (actions : List String) : RegistryCall :=
  .registerWithDevice start pluginId conn { actions } { conn } (channel_of conn) {}

def cabinet : Declarations :=
  (exec Declarations.step tidy {} [device 1 "tv" ["show", "mute"], plugin 2 "notes" ["add"]]).get (by decide +kernel)

theorem get_mux_exact_cabinet :
    ∃ entry, cabinet.registry.get "tv" = some entry ∧ cabinet.registry.getMux "tv.mute" = some entry := by
  have run : Run Declarations.step tidy {} cabinet := exec_get_run (by decide +kernel)
  have present : (cabinet.registry.get "tv").isSome = true := by decide +kernel
  have absent : cabinet.registry.get "tv.mute" = none := Option.isNone_iff_eq_none.mp (by decide +kernel)
  have declared : "mute" ∈ cabinet.declared "tv" := by decide +kernel
  obtain ⟨entry, found⟩ := Option.isSome_iff_exists.mp present
  have named : entry.pluginId = "tv" := get_own found
  refine ⟨entry, found, (get_mux_exact cabinet run "tv.mute" entry).mpr ?_⟩
  rw [named]
  exact ⟨found, .inr ⟨absent, "mute", declared, rfl⟩⟩

def attic : Declarations :=
  (exec Declarations.step unguarded {} [device 1 "tv.den" ["show"], plugin 2 "notes" ["mail.add"]]).get
    (by decide +kernel)

/-- A device with a dot in its id declares a capability that leads nowhere, and a
plugin that declares none is found under the rest of its action's name. -/
theorem mux_misses_and_invents : Run Declarations.step unguarded {} attic ∧
    (attic.registry.get "tv.den").isSome = true ∧ "show" ∈ attic.declared "tv.den" ∧
    attic.registry.get "tv.den.show" = none ∧ attic.registry.getMux "tv.den.show" = none ∧
    attic.declared "notes" = [] ∧ (attic.registry.getMux "notes.add").map PluginEntry.pluginId = some "notes" := by
  refine ⟨exec_get_run (by decide +kernel), by decide +kernel, by decide +kernel, ?_, ?_, by decide +kernel,
    by decide +kernel⟩
  · exact Option.isNone_iff_eq_none.mp (by decide +kernel)
  · exact Option.isNone_iff_eq_none.mp (by decide +kernel)

end Cabinet

section Capability

def afterCall (registry : PluginRegistry) (call : RegistryCall) : Option PluginRegistry :=
  match operation registry call with
  | .error _ => some registry
  | .ok later => some later

def unregisters (device : String) : RegistryCall → Bool
  | .unregister id => id == device
  | _ => false

/-- The device stays, and nobody of another device takes the name of its capability. -/
def undisputed (device cap : String) (registry : PluginRegistry) (call : RegistryCall) : Bool :=
  !unregisters device call &&
  match operation registry call with
  | .error _ => true
  | .ok later =>
    match arrival later call with
    | none => true
    | some entry => entry.pluginId != device ++ "." ++ cap || entry.deviceId == device

/-- The device is registered with the capability among its actions, and whoever has the
qualified name as id is of that device. -/
structure Provides (registry : PluginRegistry) (device cap : String) : Prop where
  registered : ∃ entry, registry.get device = some entry ∧ entry.deviceId = device ∧
    device ++ "." ++ cap ∈ entry.manifest.actions
  related : ∀ entry, registry.get (device ++ "." ++ cap) = some entry → entry.deviceId = device

variable {registry later : PluginRegistry} {device cap : String} {call : RegistryCall}

theorem Provides.inserted {entry} (provides : Provides registry device cap)
    (inserted : Inserted registry later entry)
    (fair : (entry.pluginId != device ++ "." ++ cap || entry.deviceId == device) = true) :
    Provides later device cap := by
  constructor
  · obtain ⟨own, found, facts⟩ := provides.registered
    exact ⟨own, inserted.keeps found, facts⟩
  · intro other found
    rcases inserted.found found with old | ⟨same, rfl⟩
    · exact provides.related other old
    · rw [← same] at fair
      simpa using fair

theorem Provides.step (provides : Provides registry device cap) (allowed : undisputed device cap registry call = true)
    (took : afterCall registry call = some later) : Provides later device cap := by
  simp only [afterCall] at took
  split at took
  · cases took
    exact provides
  next after done =>
    cases took
    simp only [undisputed, done, Bool.and_eq_true] at allowed
    cases operation_performed done with
    | removed id named left =>
      subst named left
      have apart : id ≠ device := by simpa [unregisters] using allowed.1
      constructor
      · obtain ⟨own, found, facts⟩ := provides.registered
        exact ⟨own, by rw [get_unregister, if_neg apart.symm, found], facts⟩
      · intro other found
        exact provides.related other (get_of_unregister found)
    | added done arrived =>
      simp only [arrived] at allowed
      exact provides.inserted (insertEntry_ok done) allowed.2

theorem Provides.getMux (provides : Provides registry device cap) (undotted : '.' ∉ device.toList) :
    ∃ entry, registry.getMux (device ++ "." ++ cap) = some entry ∧ entry.deviceId = device := by
  cases taken : registry.get (device ++ "." ++ cap) with
  | some entry => exact ⟨entry, getMux_eq_get taken, provides.related entry taken⟩
  | none =>
    obtain ⟨entry, registered, same, listed⟩ := provides.registered
    refine ⟨entry, ?_, same⟩
    rw [getMux_qualified taken rfl undotted registered, if_pos (declaresCap_iff.mpr (.inl listed))]

end Capability

/-- A device without a dot in its id keeps the traffic of its capability as long as it
stays registered and nobody of another device registers under the capability's name:
the name leads to an entry of the device, whose channel gets what is forwarded. -/
theorem capability_stays_with_device (before registered final : PluginRegistry) (moment : Moment) (device : String)
    (connId : Nat) (caps : List String) (manifest : PluginManifest) (writeTx : Sender) (owned : writeTx.conn = connId)
    (details : DeviceMeta)
    (done : before.registerDevice moment device connId caps manifest writeTx owned details = .ok registered)
    (own : details.deviceId = "" ∨ details.deviceId = device) (undotted : '.' ∉ device.toList) (cap : String)
    (declared : cap ∈ caps)
    (related : ∀ entry, before.get (device ++ "." ++ cap) = some entry → entry.deviceId = device)
    (run : Run afterCall (undisputed device cap) registered final) :
    ∃ entry, final.getMux (device ++ "." ++ cap) = some entry ∧ entry.deviceId = device ∧
      ∀ (β : Type) (ctx : Context β) (now : Moment) (msg : IncomingMessage β) (st : RouterState β) (sender : PluginEntry),
        st.registry = final → authorizeForward final msg (device ++ "." ++ cap) = .ok sender →
        (st.forward ctx now msg (device ++ "." ++ cap)).1 =
          ((st.setRegistry (st.recordDirect ctx now msg (device ++ "." ++ cap) sender entry)).trySend
            entry.writeTx (relayed msg)).1 := by
  have ownDevice : (if details.deviceId = "" then device else details.deviceId) = device := by
    rcases own with empty | same
    · rw [if_pos empty]
    · rw [same, ite_self]
  have inserted := insertEntry_ok done
  have stored := inserted.get device
  rw [if_pos rfl] at stored
  have provides : Provides registered device cap := by
    constructor
    · exact ⟨_, stored, ownDevice, List.mem_map_of_mem declared⟩
    · intro entry found
      rcases inserted.found found with old | ⟨_, rfl⟩
      · exact related entry old
      · exact ownDevice
  have kept : Provides final device cap := by
    apply run.preserves provides
    intro registry call later allowed took provides
    exact provides.step allowed took
  obtain ⟨entry, resolved, same⟩ := kept.getMux undotted
  refine ⟨entry, resolved, same, ?_⟩
  intro β ctx now msg st sender held passes
  simp only [RouterState.forward, held, passes, resolved]

section Takeover
open Scenario

def parlour : PluginRegistry :=
  (exec afterCall unguarded {} [device 1 "tv" ["show"]]).get (by decide +kernel)

def evening : List RegistryCall := [plugin 2 "notes" ["add"], plugin 1 "tv.show" [], .unregister "notes"]

def eveningEnd : PluginRegistry := (exec afterCall (undisputed "tv" "show") parlour evening).get (by decide +kernel)

theorem capability_stays_with_device_tv :
    ∃ entry, eveningEnd.getMux "tv.show" = some entry ∧ entry.deviceId = "tv" := by
  have run : Run afterCall (undisputed "tv" "show") parlour eveningEnd := exec_get_run (by decide +kernel)
  obtain ⟨entry, resolved, same, _⟩ := capability_stays_with_device {} parlour eveningEnd start "tv" 1 ["show"] {}
    { conn := 1 } rfl {} rfl (.inl rfl) (by decide) "show" (by decide) (fun _ found => by cases found) run
  exact ⟨entry, resolved, same⟩

def takenOver : PluginRegistry := (exec afterCall unguarded parlour [plugin 2 "tv.show" []]).get (by decide +kernel)

/-- A host plugin registers under the name of the capability and gets its traffic, while
the device is still registered. -/
theorem capability_taken_over : Run afterCall unguarded parlour takenOver ∧
    (parlour.getMux "tv.show").map PluginEntry.deviceId = some "tv" ∧
    (takenOver.get "tv").map PluginEntry.connId = some 1 ∧
    (takenOver.getMux "tv.show").map (fun entry => (entry.deviceId, entry.writeTx)) = some ("local", { conn := 2 }) :=
  ⟨exec_get_run (by decide +kernel), by decide +kernel, by decide +kernel, by decide +kernel⟩

end Takeover
end Vynkor.Proofs
