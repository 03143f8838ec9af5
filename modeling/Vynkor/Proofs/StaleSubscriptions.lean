import Vynkor.Proofs.DisconnectRace

/-! Subscriptions that outlive their maker. The bus knows plugin ids and no connections,
and only a disconnect loop removes what a plugin has subscribed to. Every other way to
lose a registration leaves the subscriptions to whoever registers the id next. -/

namespace Vynkor.Proofs
open Execution RouterState

section Channels
variable {β : Type} {ctx : Context β} {kernel next : Kernel β} {action : Action β} {now : Moment}
  {msg : IncomingMessage β} {st : RouterState β} {registry : PluginRegistry} {id : String} {entry : PluginEntry}

def Unnumbered (tx : Sender) : Prop := tx.conn = bridgeConnId ∨ tx.serial = 0

structure Channels (kernel : Kernel β) : Prop where
  incoming : ∀ msg ∈ kernel.incoming, Unnumbered msg.writeTx
  entries : ∀ id entry, kernel.router.registry.get id = some entry → Unnumbered entry.writeTx

theorem isOpen_plain {conn tx} (opened : kernel.isOpen conn tx = true) : Unnumbered tx := by
  simp only [Kernel.isOpen] at opened
  split at opened
  · simp only [Bool.and_eq_true, beq_iff_eq] at opened
    rw [opened.2]
    exact .inr rfl
  · simp only [Bool.and_eq_true, beq_iff_eq, Option.any_eq_true] at opened
    obtain ⟨_, _, _, rfl⟩ := opened
    exact .inl rfl

theorem RegistryStep.plain (step : RegistryStep ctx kernel action registry) (channels : Channels kernel)
    (found : registry.get id = some entry) : Unnumbered entry.writeTx := by
  cases step with
  | same => exact channels.entries id entry found
  | swept swept =>
    rw [swept.rest] at found
    exact channels.entries id entry found
  | @routed now msg rest _ _ head update =>
    rcases update.channel found with old | own
    · rw [checkIpcRate_registry] at old
      exact channels.entries id entry old
    · rw [own]
      exact channels.incoming msg (by simp [head])
  | removed => exact channels.entries id entry (get_of_unregister found)
  | bridged _ own inserted =>
    rcases inserted.found found with old | ⟨_, rfl⟩
    · exact channels.entries id entry old
    · exact .inl (entry.owned.trans own.1)

theorem channels_step (took : kernel.step ctx action = some next) (channels : Channels kernel) : Channels next where
  incoming := by
    intro msg waits
    rcases step_incoming took waits with old | opened
    · exact channels.incoming msg old
    · exact isOpen_plain opened
  entries := fun _ _ found => (step_registry took).plain channels found

theorem sender_eq {tx other : Sender} (conns : tx.conn = other.conn) (serials : tx.serial = other.serial) :
    tx = other := by
  cases tx
  cases other
  cases conns
  cases serials
  rfl

theorem Channels.same (channels : Channels kernel) (waits : msg ∈ kernel.incoming)
    (registered : kernel.router.registry.getByConnId msg.connId = some entry) (ordinary : msg.connId ≠ bridgeConnId) :
    entry.writeTx = msg.writeTx := by
  obtain ⟨found, sameConn⟩ := PluginRegistry.getByConnId_eq_some.mp registered
  have conns : entry.writeTx.conn = msg.writeTx.conn := entry.owned.trans (sameConn.trans msg.owned.symm)
  have ours : msg.writeTx.serial = 0 := (channels.incoming msg waits).resolve_left (by rw [msg.owned]; exact ordinary)
  have theirs : entry.writeTx.serial = 0 :=
    (channels.entries _ entry found).resolve_left (by rw [conns, msg.owned]; exact ordinary)
  exact sender_eq conns (theirs.trans ours.symm)

end Channels

section Steps
variable {β : Type} {ctx : Context β} {state next : Switchboard β} {action : SwitchAction β}

inductive SwitchStep (ctx : Context β) (state : Switchboard β) : SwitchAction β → Switchboard β → Prop where
  | kernel {action kernel} (free : state.routerFree ctx action = true)
      (took : state.kernel.step ctx action = some kernel) :
      SwitchStep ctx state (.kernel action) { state with kernel, made := state.madeAfter action }
  | lookUp {now msg rest entry request router} (idle : state.asking = none)
      (head : state.kernel.incoming = msg :: rest)
      (asked : state.kernel.router.busRequest ctx now msg = some (entry, request))
      (registry : router.registry = state.kernel.router.registry) (bus : router.bus = state.kernel.router.bus) :
      SwitchStep ctx state (.lookUp now) { state with
        kernel := { state.kernel with router, incoming := rest }
        asking := some { tx := msg.writeTx, pluginId := entry.pluginId, request } }
  | answer {asking} (asked : state.asking = some asking) :
      SwitchStep ctx state .answer {
        kernel := state.kernel.setRouter { state.kernel.router with
          bus := state.kernel.router.bus.answer asking.pluginId asking.request }
        made := state.answered asking }

theorem switch_step (took : state.step ctx action = some next) : SwitchStep ctx state action next := by
  cases action with
  | kernel action =>
    simp only [Switchboard.step, Switchboard.kernelStep] at took
    split at took
    next free =>
      obtain ⟨kernel, moved, rfl⟩ := Option.map_eq_some_iff.mp took
      exact .kernel free moved
    · cases took
  | lookUp now =>
    simp only [Switchboard.step, Switchboard.lookUp] at took
    split at took
    next msg rest idle head =>
      split at took
      next entry request asked =>
        cases took
        refine .lookUp idle head asked ?_ rfl
        rw [routeMessage_request asked, recordOutcome_registry]
        exact checkIpcRate_registry ctx now msg state.kernel.router
      · cases took
    · cases took
  | answer =>
    simp only [Switchboard.step, Switchboard.answer] at took
    split at took
    next asking asked =>
      cases took
      exact .answer asked
    · cases took

/-- With nothing in between, the two steps of a request are what the router does in one. -/
theorem request_at_once {now looked answered}
    (first : state.step ctx (.lookUp now) = some looked) (second : looked.step ctx .answer = some answered) :
    state.kernel.step ctx (.route now) = some answered.kernel := by
  simp only [Switchboard.step, Switchboard.lookUp] at first
  split at first
  next msg rest idle head =>
    split at first
    next entry request asked =>
      cases first
      cases second
      have answer := routeMessage_answer asked
      simp only [Kernel.step, Kernel.route, head, Kernel.setRouter, ← answer]
    · cases first
  · cases first

end Steps

section Accounts
variable {β : Type} {ctx : Context β} {state next : Switchboard β} {action : SwitchAction β} {bus updated : EventBus}
  {records : List Made} {router : RouterState β}

/-- Every subscription of the bus has a record, and every record is of one. -/
def Lists (records : List Made) (bus : EventBus) : Prop :=
  ∀ id eventType, id ∈ bus.subscribers eventType ↔ ∃ made ∈ records, made.pluginId = id ∧ made.eventType = eventType

theorem mem_makes {maker pluginId eventTypes made} :
    made ∈ Switchboard.makes maker pluginId eventTypes ↔
      made.maker = maker ∧ made.pluginId = pluginId ∧ made.eventType ∈ eventTypes := by
  obtain ⟨madeBy, madeFor, madeOf⟩ := made
  simp only [Switchboard.makes, List.mem_map, Made.mk.injEq]
  constructor
  · rintro ⟨eventType, member, rfl, rfl, rfl⟩
    exact ⟨rfl, rfl, member⟩
  · rintro ⟨rfl, rfl, member⟩
    exact ⟨madeOf, member, rfl, rfl, rfl⟩

theorem Lists.makes (lists : Lists records bus) (maker : Maker) (pluginId : String) (eventTypes : List String) :
    Lists (records ++ Switchboard.makes maker pluginId eventTypes) (bus.subscribe pluginId eventTypes) := by
  intro id eventType
  rw [mem_subscribe, lists id eventType]
  simp only [List.mem_append, mem_makes, or_and_right, exists_or]
  refine or_congr_right ?_
  constructor
  · rintro ⟨rfl, member⟩
    exact ⟨⟨maker, id, eventType⟩, ⟨rfl, rfl, member⟩, rfl, rfl⟩
  · rintro ⟨made, ⟨_, sameId, member⟩, rfl, rfl⟩
    exact ⟨sameId, member⟩

theorem Lists.filter {keep} (lists : Lists records bus)
    (kept : ∀ made : Made, made.pluginId ∈ updated.subscribers made.eventType ↔
      made.pluginId ∈ bus.subscribers made.eventType ∧ keep made = true) : Lists (records.filter keep) updated := by
  intro id eventType
  constructor
  · intro subscribed
    -- whether a record stays depends on its pair alone, so any maker does for the question
    have before := ((kept ⟨.loader, id, eventType⟩).mp subscribed).1
    obtain ⟨made, member, rfl, rfl⟩ := (lists id eventType).mp before
    exact ⟨made, List.mem_filter.mpr ⟨member, ((kept made).mp subscribed).2⟩, rfl, rfl⟩
  · rintro ⟨made, member, rfl, rfl⟩
    obtain ⟨member, keeps⟩ := List.mem_filter.mp member
    exact (kept made).mpr ⟨(lists _ _).mpr ⟨made, member, rfl, rfl⟩, keeps⟩

/-- The records tell the makers of exactly what the bus holds. -/
structure MadeKnown (state : Switchboard β) : Prop where
  twoWay : TwoWay state.kernel.router.bus
  lists : Lists state.made state.kernel.router.bus

theorem madeAfter_same {action} (notDeclare : ∀ pluginId events, action ≠ .declare pluginId events)
    (notClear : ∀ transport, action ≠ .unsubscribe transport) : state.madeAfter action = state.made := by
  cases action with
  | declare pluginId events => exact absurd rfl (notDeclare pluginId events)
  | unsubscribe transport => exact absurd rfl (notClear transport)
  | _ => rfl

theorem kernel_made {action kernel} (free : state.routerFree ctx action = true)
    (took : state.kernel.step ctx action = some kernel) (valid : MadeKnown state) :
    TwoWay kernel.router.bus ∧ Lists (state.madeAfter action) kernel.router.bus := by
  have step := step_bus took
  generalize kernel.router.bus = bus at step ⊢
  cases step with
  | same notDeclare notClear =>
    rw [madeAfter_same notDeclare notClear]
    exact ⟨valid.twoWay, valid.lists⟩
  | answered mine head asked =>
    subst mine
    simp [Switchboard.routerFree, Switchboard.nextRequest, head, asked] at free
  | @declared pluginId events mine =>
    subst mine
    exact ⟨valid.twoWay.subscribe, valid.lists.makes .loader pluginId events⟩
  | cleared mine held =>
    subst mine
    simp only [Switchboard.madeAfter, held]
    refine ⟨valid.twoWay.unsubscribeAll, valid.lists.filter fun made => ?_⟩
    rw [mem_unsubscribeAll valid.twoWay, decide_eq_true_eq]

theorem madeKnown_step (took : state.step ctx action = some next) (valid : MadeKnown state) : MadeKnown next := by
  cases switch_step took with
  | kernel free moved =>
    obtain ⟨twoWay, lists⟩ := kernel_made free moved valid
    exact ⟨twoWay, lists⟩
  | lookUp _ _ _ _ bus =>
    refine ⟨?_, ?_⟩
    · dsimp only
      rw [bus]
      exact valid.twoWay
    · dsimp only
      rw [bus]
      exact valid.lists
  | @answer asking asked =>
    refine ⟨valid.twoWay.answer asking.request, ?_⟩
    obtain ⟨tx, pluginId, request⟩ := asking
    cases request with
    | subscribe eventTypes => exact valid.lists.makes (.message tx) pluginId eventTypes
    | unsubscribe eventTypes =>
      refine valid.lists.filter fun made => ?_
      rw [decide_eq_true_eq]
      exact mem_unsubscribe

theorem madeKnown_boot (quiet : router.bus = {}) :
    MadeKnown ({ kernel := { router } } : Switchboard β) := by
  refine ⟨?_, ?_⟩
  · dsimp only
    rw [quiet]
    exact TwoWay.empty
  · dsimp only
    rw [quiet]
    intro id eventType
    simp [EventBus.subscribers]

theorem made_lists_bus (quiet : router.bus = {})
    (run : Run (Switchboard.step ctx) unguarded { kernel := { router } } state) :
    Lists state.made state.kernel.router.bus := by
  have valid : MadeKnown state :=
    run.preserves (madeKnown_boot quiet) fun _ _ _ _ took => madeKnown_step took
  exact valid.lists

end Accounts

section Orderly
variable {β : Type} {ctx : Context β} {state next : Switchboard β} {action : SwitchAction β} {id : String} {tx : Sender}
  {kernel : Kernel β} {transport : Transport} {leaving : Leaving}

def isSubscribe : BusRequest → Bool
  | .subscribe _ => true
  | .unsubscribe _ => false

def subscribing (state : Switchboard β) (pluginId : String) : Bool :=
  state.asking.any fun asking => asking.pluginId == pluginId && isSubscribe asking.request

def subscribedByMessage (state : Switchboard β) (pluginId : String) : Bool :=
  subscribing state pluginId || state.made.any fun made => made.pluginId == pluginId && made.maker != .loader

/-- A loop has removed the subscriptions of the plugin and not yet its registration. -/
def halfGone (kernel : Kernel β) (pluginId : String) : Bool :=
  [Transport.uds, .ws].any fun transport =>
    (kernel.inHand transport .unsubscribed).any fun leaving => leaving.pluginId == pluginId

/-- Who has subscribed itself loses its registration to a disconnect loop only, and not
while the router has a Subscribe of it in hand or takes one up; a Subscribe of the
bridge is taken up in its own connection cycle. -/
def keepsOrder (ctx : Context β) (state : Switchboard β) : SwitchAction β → Bool
  | .kernel (.stop pluginId) => !subscribedByMessage state pluginId
  | .kernel .bridgeDown => state.kernel.link.all fun (deviceId, _) => !subscribedByMessage state deviceId
  | .kernel (.unsubscribe transport) =>
    (state.kernel.inHand transport .published).all fun leaving => !subscribing state leaving.pluginId
  | .lookUp now =>
    match state.kernel.incoming.head?, state.nextRequest ctx now with
    | some msg, some (entry, .subscribe _) =>
      !halfGone state.kernel entry.pluginId && (msg.connId != bridgeConnId || entry.writeTx == msg.writeTx)
    | _, _ => true
  | _ => true

/-- A message of the connection has subscribed the plugin, or is about to. -/
inductive Claims (state : Switchboard β) (tx : Sender) (pluginId : String) : Prop where
  | made {eventType} (member : ⟨.message tx, pluginId, eventType⟩ ∈ state.made)
  | asking {eventTypes} (asked : state.asking = some ⟨tx, pluginId, .subscribe eventTypes⟩)

theorem Claims.subscribing {eventTypes} (asked : state.asking = some ⟨tx, id, .subscribe eventTypes⟩) :
    subscribing state id = true := by
  simp [Proofs.subscribing, asked, isSubscribe]

theorem Claims.subscribed (claims : Claims state tx id) : subscribedByMessage state id = true := by
  cases claims with
  | made member =>
    simp only [subscribedByMessage, Bool.or_eq_true, List.any_eq_true]
    exact .inr ⟨_, member, by simp⟩
  | asking asked => simp [subscribedByMessage, Claims.subscribing asked]

/-- Subscriptions by messages belong to the connection on which their plugin is registered. -/
structure Tidy (state : Switchboard β) : Prop where
  channels : Channels state.kernel
  own : ∀ tx id, Claims state tx id → ∃ entry, state.kernel.router.registry.get id = some entry ∧ entry.writeTx = tx
  gone : ∀ transport leaving, state.kernel.inHand transport .unsubscribed = some leaving →
    ∀ tx, ¬Claims state tx leaving.pluginId

theorem mem_madeAfter {action made} (member : made ∈ state.madeAfter action) :
    made ∈ state.made ∨ made.maker = .loader := by
  cases action with
  | declare pluginId events =>
    rcases List.mem_append.mp member with old | new
    · exact .inl old
    · exact .inr (mem_makes.mp new).1
  | unsubscribe transport =>
    simp only [Switchboard.madeAfter] at member
    split at member
    · exact .inl (List.mem_filter.mp member).1
    · exact .inl member
  | _ => exact .inl member

theorem Claims.before_kernel {action}
    (claims : Claims { state with kernel, made := state.madeAfter action } tx id) : Claims state tx id := by
  cases claims with
  | made member =>
    rcases mem_madeAfter member with old | loader
    · exact .made old
    · cases loader
  | asking asked => exact .asking asked

theorem Claims.before_answer {asking} (asked : state.asking = some asking)
    (claims : Claims { kernel, made := state.answered asking } tx id) : Claims state tx id := by
  cases claims with
  | made member =>
    obtain ⟨askedBy, pluginId, request⟩ := asking
    cases request with
    | subscribe eventTypes =>
      rcases List.mem_append.mp member with old | new
      · exact .made old
      · -- what the answer records was the claim of the request in hand
        obtain ⟨maker, sameId, _⟩ := mem_makes.mp new
        cases maker
        cases sameId
        exact .asking asked
    | unsubscribe eventTypes => exact .made (List.mem_filter.mp member).1
  | asking asked => cases asked

theorem Tidy.not_removed {action} (valid : Tidy state)
    (allowed : keepsOrder ctx state (.kernel action) = true) (claims : Claims state tx id) :
    removes state.kernel action ≠ some id := by
  intro gone
  cases action with
  | unregister transport =>
    -- the loop has removed the subscriptions before, and nobody has claimed any since
    obtain ⟨leaving, held, rfl⟩ := Option.map_eq_some_iff.mp gone
    exact valid.gone transport leaving held tx claims
  | stop pluginId =>
    cases gone
    simp [keepsOrder, claims.subscribed] at allowed
  | bridgeDown =>
    obtain ⟨⟨deviceId, serial⟩, live, rfl⟩ := Option.map_eq_some_iff.mp gone
    simp [keepsOrder, live, claims.subscribed] at allowed
  | _ => cases gone

theorem inHand_setHand (kernel : Kernel β) (transport other : Transport) (hand : Option Leaving) (stage : Stage) :
    (kernel.setHand transport hand).inHand other stage =
      if other = transport then hand.filter fun leaving => leaving.stage == stage else kernel.inHand other stage := by
  simp only [Kernel.inHand, Kernel.setHand, Kernel.setLoop]
  split
  · rfl
  · rfl

theorem inHand_unsubscribed {after action}
    (took : kernel.step ctx action = some after) (held : after.inHand transport .unsubscribed = some leaving) :
    kernel.inHand transport .unsubscribed = some leaving ∨ action = .unsubscribe transport ∧
      ∃ before, kernel.inHand transport .published = some before ∧ before.pluginId = leaving.pluginId := by
  cases kernel_step took with
  | @unsubscribe acting before published =>
    rw [inHand_setHand] at held
    split at held
    next mine =>
      subst mine
      cases held
      exact .inr ⟨rfl, before, published, rfl⟩
    · exact .inl held
  | publishLeft | unregister =>
    rw [inHand_setHand] at held
    split at held
    · cases held
    · exact .inl held
  | take _ found =>
    simp only [Kernel.inHand, Kernel.setLoop] at held ⊢
    split at held
    · obtain ⟨found', stage⟩ := Option.filter_eq_some_iff.mp held
      rw [found] at found'
      obtain ⟨_, _, rfl⟩ := Option.map_eq_some_iff.mp found'
      cases stage
    · exact .inl held
  | hangup =>
    simp only [Kernel.inHand, Kernel.setLoop] at held ⊢
    split at held
    next mine =>
      subst mine
      exact .inl held
    · exact .inl held
  | _ => exact .inl held

theorem cleared_unclaimed {before} (published : state.kernel.inHand transport .published = some before)
    (allowed : keepsOrder ctx state (.kernel (.unsubscribe transport)) = true) :
    ¬Claims { state with kernel, made := state.madeAfter (.unsubscribe transport) } tx before.pluginId := by
  intro claims
  cases claims with
  | made member =>
    simp only [Switchboard.madeAfter, published, List.mem_filter, decide_eq_true_eq] at member
    exact member.2 rfl
  | asking asked =>
    have waits : subscribing state before.pluginId = true := Claims.subscribing asked
    simp [keepsOrder, published, waits] at allowed

theorem tidy_kernel {action} (valid : Tidy state)
    (allowed : keepsOrder ctx state (.kernel action) = true) (took : state.kernel.step ctx action = some kernel) :
    Tidy { state with kernel, made := state.madeAfter action } where
  channels := channels_step took valid.channels
  own := by
    intro tx id claims
    have before : Claims state tx id := claims.before_kernel
    obtain ⟨entry, found, channel⟩ := valid.own tx id before
    have kept := ((step_registry took).keeps found).resolve_right (valid.not_removed allowed before)
    exact ⟨entry, kept, channel⟩
  gone := by
    intro transport leaving held tx claims
    rcases inHand_unsubscribed took held with before | ⟨rfl, before, published, same⟩
    · exact valid.gone transport leaving before tx claims.before_kernel
    · rw [← same] at claims
      exact cleared_unclaimed published allowed claims

theorem halfGone_of_inHand
    (held : kernel.inHand transport .unsubscribed = some leaving) : halfGone kernel leaving.pluginId = true := by
  cases transport <;> simp [halfGone, held]

theorem tidy_lookUp {router : RouterState β} {now msg rest entry request} (valid : Tidy state)
    (allowed : keepsOrder ctx state (.lookUp now) = true) (head : state.kernel.incoming = msg :: rest)
    (asked : state.kernel.router.busRequest ctx now msg = some (entry, request))
    (registry : router.registry = state.kernel.router.registry) :
    Tidy { state with
      kernel := { state.kernel with router, incoming := rest }
      asking := some { tx := msg.writeTx, pluginId := entry.pluginId, request } } := by
  have waits : msg ∈ state.kernel.incoming := by simp [head]
  obtain ⟨_, registered, _⟩ := busRequest_inversion asked
  refine ⟨⟨?_, ?_⟩, ?_, ?_⟩
  · intro other member
    exact valid.channels.incoming other (by rw [head]; exact List.mem_cons_of_mem msg member)
  · intro id found
    dsimp only
    rw [registry]
    exact valid.channels.entries id found
  · intro tx id claims
    dsimp only
    rw [registry]
    cases claims with
    | made member => exact valid.own tx id (.made member)
    | asking own =>
      cases own
      simp only [keepsOrder, Switchboard.nextRequest, head, List.head?_cons, Option.bind_some, asked] at allowed
      simp only [Bool.and_eq_true, Bool.or_eq_true, bne_iff_ne, beq_iff_eq] at allowed
      refine ⟨entry, (PluginRegistry.getByConnId_eq_some.mp registered).1, ?_⟩
      rcases allowed.2 with ordinary | same
      · exact valid.channels.same waits registered ordinary
      · exact same
  · intro transport leaving held tx claims
    cases claims with
    | made member => exact valid.gone transport leaving held tx (.made member)
    | asking own =>
      simp only [Option.some.injEq, Asking.mk.injEq] at own
      obtain ⟨_, same, rfl⟩ := own
      have half : halfGone state.kernel leaving.pluginId = true := halfGone_of_inHand held
      rw [← same] at half
      simp only [keepsOrder, Switchboard.nextRequest, head, List.head?_cons, Option.bind_some, asked] at allowed
      simp [half] at allowed

theorem tidy_step (allowed : keepsOrder ctx state action = true) (took : state.step ctx action = some next)
    (valid : Tidy state) : Tidy next := by
  cases switch_step took with
  | kernel _ moved => exact tidy_kernel valid allowed moved
  | lookUp _ head asked registry => exact tidy_lookUp valid allowed head asked registry
  | answer asked =>
    refine ⟨⟨valid.channels.incoming, valid.channels.entries⟩, ?_, ?_⟩
    · intro tx id claims
      exact valid.own tx id (claims.before_answer asked)
    · intro transport leaving held tx claims
      exact valid.gone transport leaving held tx (claims.before_answer asked)

theorem tidy_boot {router : RouterState β} (empty : ∀ id, router.registry.get id = none) :
    Tidy ({ kernel := { router } } : Switchboard β) where
  channels := by
    refine ⟨nofun, ?_⟩
    intro id entry found
    cases (empty id).symm.trans found
  own := by
    intro tx id claims
    cases claims with
    | made member => cases member
    | asking asked => cases asked
  gone := nofun

/-- In a run in which only disconnect loops remove who has subscribed itself, and with no
Subscribe of it half done, a connection without a registration has left no subscription
behind, and a plugin gets only the events that it has subscribed to on its own connection
or that the loader has. -/
theorem subscriptions_leave_with_connection {router : RouterState β} (empty : ∀ id, router.registry.get id = none)
    (quiet : router.bus = {}) (run : Run (Switchboard.step ctx) (keepsOrder ctx) { kernel := { router } } state) :
    (∀ tx, (∀ id entry, state.kernel.router.registry.get id = some entry → entry.writeTx ≠ tx) →
      ∀ made ∈ state.made, made.maker ≠ .message tx) ∧
    ∀ id entry now event, state.kernel.router.registry.get id = some entry →
      (state.kernel.router.publish ctx now event).net entry.writeTx ≠ state.kernel.router.net entry.writeTx →
      ∃ made ∈ state.made, made.pluginId = id ∧ (made.eventType = event.eventType ∨ made.eventType = "*") ∧
        (made.maker = .loader ∨ made.maker = .message entry.writeTx) := by
  have tidy : Tidy state := run.preserves (tidy_boot empty) fun _ _ _ allowed took => tidy_step allowed took
  have lists : Lists state.made state.kernel.router.bus := made_lists_bus quiet (run.weaken fun _ _ _ => rfl)
  have claimed (made : Made) (member : made ∈ state.made) (tx : Sender) (maker : made.maker = .message tx) :
      Claims state tx made.pluginId := by
    obtain ⟨_, _, eventType⟩ := made
    cases maker
    exact .made member
  constructor
  · intro tx unregistered made member maker
    obtain ⟨entry, found, channel⟩ := tidy.own tx made.pluginId (claimed made member tx maker)
    exact unregistered made.pluginId entry found channel
  · intro id entry now event found reached
    have target : id ∈ state.kernel.router.bus.targets event.eventType := by
      by_contra absent
      exact reached (publish_aside found absent)
    have listed : ∃ made ∈ state.made, made.pluginId = id ∧
        (made.eventType = event.eventType ∨ made.eventType = "*") := by
      rcases mem_targets.mp target with exact | all
      · obtain ⟨made, member, own, same⟩ := (lists id event.eventType).mp exact
        exact ⟨made, member, own, .inl same⟩
      · obtain ⟨made, member, own, same⟩ := (lists id "*").mp all
        exact ⟨made, member, own, .inr same⟩
    obtain ⟨made, member, own, type⟩ := listed
    refine ⟨made, member, own, type, ?_⟩
    cases maker : made.maker with
    | loader => exact .inl rfl
    | message tx =>
      obtain ⟨stored, foundStored, channel⟩ := tidy.own tx made.pluginId (claimed made member tx maker)
      rw [own, found] at foundStored
      cases foundStored
      exact .inr (congrArg Maker.message channel.symm)

end Orderly

section Left
open Scenario

def submits (conn : Nat) (payload : Payload) : List (SwitchAction Packet) :=
  [.kernel (.receive (sends conn "kernel" payload))]

def joins (conn : Nat) (pluginId : String) : List (SwitchAction Packet) :=
  .kernel (.accept conn .uds) :: submits conn (.pluginRegister { pluginId }) ++ [.kernel (.route start)]

def subscribes (conn : Nat) (eventTypes : List String) : List (SwitchAction Packet) :=
  submits conn (.subscribe eventTypes) ++ [.lookUp start, .answer]

def leaves (conn : Nat) : List (SwitchAction Packet) :=
  [.hangup conn, .take .uds, .publishLeft .uds start, .unsubscribe .uds, .unregister .uds].map .kernel

/-- `notes` subscribes and leaves, comes back and subscribes to something else. -/
def leftInOrder : List (SwitchAction Packet) :=
  joins 1 "notes" ++ subscribes 1 ["plugin.clock.tick"] ++ leaves 1 ++ joins 2 "notes" ++
    subscribes 2 ["plugin.door.rang"]

/-- `notes` subscribes and is stopped; the loop finds nobody on its connection. -/
def leftByStop : List (SwitchAction Packet) :=
  joins 1 "notes" ++ subscribes 1 ["plugin.clock.tick"] ++
    [.stop "notes", .hangup 1, .take .uds].map .kernel ++ joins 2 "notes"

/-- `notes` leaves; the router has looked it up for its Subscribe and answers it last. -/
def leftHalfway : List (SwitchAction Packet) :=
  joins 1 "notes" ++ submits 1 (.subscribe ["plugin.clock.tick"]) ++
    [.hangup 1, .take .uds, .publishLeft .uds start, .unsubscribe .uds].map .kernel ++ [.lookUp start] ++
    [.kernel (.unregister .uds), .answer] ++ joins 2 "notes"

def inOrderEnd : Switchboard Packet :=
  (exec (Switchboard.step context) (keepsOrder context) {} leftInOrder).get (by decide +kernel)

def byStopEnd : Switchboard Packet := (exec (Switchboard.step context) unguarded {} leftByStop).get (by decide +kernel)

def halfwayEnd : Switchboard Packet :=
  (exec (Switchboard.step context) unguarded {} leftHalfway).get (by decide +kernel)

def clockTick : Event where
  eventId := "evt-clock-0-0"
  eventType := "plugin.clock.tick"
  payloadJson := []
  retryCount := 0

theorem subscriptions_leave_with_connection_notes :
    (inOrderEnd.kernel.router.registry.get "notes").map PluginEntry.writeTx = some { conn := 2 } ∧
    inOrderEnd.made = [⟨.message { conn := 2 }, "notes", "plugin.door.rang"⟩] ∧
    ((∀ tx, (∀ id entry, inOrderEnd.kernel.router.registry.get id = some entry → entry.writeTx ≠ tx) →
      ∀ made ∈ inOrderEnd.made, made.maker ≠ .message tx) ∧
    ∀ id entry now event, inOrderEnd.kernel.router.registry.get id = some entry →
      (inOrderEnd.kernel.router.publish context now event).net entry.writeTx ≠
        inOrderEnd.kernel.router.net entry.writeTx →
      ∃ made ∈ inOrderEnd.made, made.pluginId = id ∧ (made.eventType = event.eventType ∨ made.eventType = "*") ∧
        (made.maker = .loader ∨ made.maker = .message entry.writeTx)) :=
  ⟨by decide +kernel, by decide +kernel,
    subscriptions_leave_with_connection (fun _ => rfl) rfl (exec_get_run (by decide +kernel))⟩

/-- Nothing of connection 1 is left anywhere, and `notes`, now on connection 2, gets the
events that connection 1 had subscribed to. -/
structure Inherits (state : Switchboard Packet) : Prop where
  run : Run (Switchboard.step context) unguarded {} state
  cleared : Cleared state.kernel 1 .uds
  answered : state.asking = none
  unregistered : (state.kernel.router.registry.getByConnId 1).isNone
  registered : (state.kernel.router.registry.get "notes").map PluginEntry.writeTx = some { conn := 2 }
  made : state.made = [⟨.message { conn := 1 }, "notes", "plugin.clock.tick"⟩]
  subscribed : "notes" ∈ state.kernel.router.bus.subscribers "plugin.clock.tick"
  reached : (Mailboxes.added state.kernel.router.net (state.kernel.router.publish context start clockTick).net
    { conn := 2 }).length = 1

/-- Both when the manager removes the registration and when the router subscribes a
plugin that the loop is about to remove. -/
theorem subscriptions_inherited : Inherits byStopEnd ∧ Inherits halfwayEnd := by
  have stopped : Cleared byStopEnd.kernel 1 .uds :=
    ⟨⟨by decide +kernel, by decide +kernel⟩, by decide +kernel, by decide +kernel⟩
  have halfway : Cleared halfwayEnd.kernel 1 .uds :=
    ⟨⟨by decide +kernel, by decide +kernel⟩, by decide +kernel, by decide +kernel⟩
  refine ⟨⟨exec_get_run (by decide +kernel), stopped, ?_, ?_, ?_, ?_, ?_, ?_⟩,
    ⟨exec_get_run (by decide +kernel), halfway, ?_, ?_, ?_, ?_, ?_, ?_⟩⟩
  all_goals decide +kernel

end Left
end Vynkor.Proofs
