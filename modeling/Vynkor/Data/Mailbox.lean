import Mathlib.Data.List.Basic

/-! Bounded multi-producer queues, one for each address. A non-blocking send
either appends to the addressed queue or leaves every queue as it was. -/

structure Mailbox (ι : Type) where
  queue : List ι := []
  closed : Bool := false

def Mailboxes (κ ι : Type) := κ → Mailbox ι

namespace Mailboxes
variable {κ ι : Type}

/-- What producers appended to a queue between two states. -/
def added (before after : Mailboxes κ ι) (address : κ) : List ι :=
  (after address).queue.drop (before address).queue.length

/-- Between the two states only items that `allowed` accepts were appended. -/
def Adds (allowed : κ → ι → Prop) (before after : Mailboxes κ ι) : Prop :=
  ∀ address, ∃ items, (after address).queue = (before address).queue ++ items ∧
    (after address).closed = (before address).closed ∧ ∀ item ∈ items, allowed address item

variable {allowed : κ → ι → Prop} {before middle after : Mailboxes κ ι} {address : κ} {item : ι} {capacity : Nat}

theorem Adds.refl (boxes : Mailboxes κ ι) : Adds allowed boxes boxes :=
  fun _ => ⟨[], by simp, rfl, by simp⟩

theorem Adds.trans (first : Adds allowed before middle) (last : Adds allowed middle after) :
    Adds allowed before after := by
  intro address
  obtain ⟨old, oldQueue, oldClosed, oldAllowed⟩ := first address
  obtain ⟨new, newQueue, newClosed, newAllowed⟩ := last address
  refine ⟨old ++ new, by rw [newQueue, oldQueue, List.append_assoc], newClosed.trans oldClosed, ?_⟩
  intro item member
  rcases List.mem_append.mp member with member | member
  · exact oldAllowed item member
  · exact newAllowed item member

theorem Adds.mono {wider : κ → ι → Prop} (adds : Adds allowed before after)
    (weaker : ∀ address item, allowed address item → wider address item) : Adds wider before after := by
  intro address
  obtain ⟨items, queue, closed, each⟩ := adds address
  exact ⟨items, queue, closed, fun item member => weaker address item (each item member)⟩

theorem Adds.mem_added (adds : Adds allowed before after)
    (member : item ∈ added before after address) : allowed address item := by
  obtain ⟨items, queue, _, each⟩ := adds address
  rw [added, queue, List.drop_left] at member
  exact each item member

theorem Adds.mem_queue (adds : Adds allowed before after)
    (member : item ∈ (after address).queue) : item ∈ (before address).queue ∨ allowed address item := by
  obtain ⟨items, queue, _, each⟩ := adds address
  rw [queue, List.mem_append] at member
  exact member.imp_right (each item)

theorem Adds.queue (adds : Adds allowed before after) (address : κ) :
    (after address).queue = (before address).queue ++ added before after address := by
  obtain ⟨items, queue, _, _⟩ := adds address
  rw [added, queue, List.drop_left]

theorem Adds.mem_added_later (adds : Adds allowed middle after)
    (member : item ∈ added before middle address) : item ∈ added before after address := by
  obtain ⟨items, queue, _, _⟩ := adds address
  rw [added, queue, List.drop_append]
  exact List.mem_append_left _ member

theorem Adds.untouched (adds : Adds allowed before after) (refused : ∀ item, ¬allowed address item) :
    after address = before address := by
  obtain ⟨items, queue, closed, each⟩ := adds address
  have none : items = [] := List.eq_nil_iff_forall_not_mem.mpr fun item member => refused item (each item member)
  rw [none, List.append_nil] at queue
  cases same : after address with
  | mk queue' closed' =>
    rw [same] at queue closed
    cases kept : before address with
    | mk => simp_all

@[simp] theorem added_self (boxes : Mailboxes κ ι) (address : κ) : added boxes boxes address = [] := by
  simp [added]

def hasRoom (capacity : Nat) (boxes : Mailboxes κ ι) (address : κ) : Bool :=
  !(boxes address).closed && decide ((boxes address).queue.length < capacity)

theorem Adds.hasRoom (adds : Adds allowed before after)
    (room : after.hasRoom capacity address = true) : before.hasRoom capacity address = true := by
  obtain ⟨items, queue, closed, _⟩ := adds address
  simp only [Mailboxes.hasRoom, queue, closed, List.length_append, Bool.and_eq_true, decide_eq_true_eq] at room ⊢
  exact ⟨room.1, by omega⟩

section Operations
variable [DecidableEq κ] {address other : κ} {boxes : Mailboxes κ ι}

def put (boxes : Mailboxes κ ι) (address : κ) (box : Mailbox ι) : Mailboxes κ ι :=
  fun other => if other = address then box else boxes other

def post (boxes : Mailboxes κ ι) (address : κ) (item : ι) : Mailboxes κ ι :=
  boxes.put address ⟨(boxes address).queue ++ [item], (boxes address).closed⟩

/-- A send that waits for room: only a closed queue refuses the item. -/
def send (boxes : Mailboxes κ ι) (address : κ) (item : ι) : Mailboxes κ ι :=
  if (boxes address).closed then boxes else boxes.post address item

def trySend (capacity : Nat) (boxes : Mailboxes κ ι) (address : κ) (item : ι) : Mailboxes κ ι × Bool :=
  if boxes.hasRoom capacity address then (boxes.post address item, true) else (boxes, false)

section
variable (boxes : Mailboxes κ ι) {item : ι}

/-- The consumer takes the oldest item. -/
def drain (address : κ) : Mailboxes κ ι :=
  boxes.put address ⟨(boxes address).queue.tail, (boxes address).closed⟩

/-- The consumer goes away; what is still queued is lost with it. -/
def close (address : κ) : Mailboxes κ ι := boxes.put address ⟨[], true⟩

@[simp] theorem put_self (address : κ) (box : Mailbox ι) : boxes.put address box address = box := by
  simp [put]

theorem put_other (box : Mailbox ι) (different : other ≠ address) : boxes.put address box other = boxes other := by
  simp [put, different]

theorem added_drain (address other : κ) : added boxes (boxes.drain address) other = [] := by
  by_cases same : other = address
  · subst other
    simp [added, drain]
  · simp [added, drain, put_other _ _ same]

theorem added_close (address other : κ) : added boxes (boxes.close address) other = [] := by
  by_cases same : other = address
  · subst other
    simp [added, close]
  · simp [added, close, put_other _ _ same]

end

theorem mem_drain (member : item ∈ (boxes.drain address other).queue) : item ∈ (boxes other).queue := by
  by_cases same : other = address
  · subst other
    exact List.mem_of_mem_tail (by simpa [drain] using member)
  · simpa [drain, put_other _ _ same] using member

theorem mem_close (member : item ∈ (boxes.close address other).queue) : item ∈ (boxes other).queue := by
  by_cases same : other = address
  · subst other
    simp [close] at member
  · simpa [close, put_other _ _ same] using member

section
variable (boxes : Mailboxes κ ι)

@[simp] theorem drain_closed (address other : κ) : (boxes.drain address other).closed = (boxes other).closed := by
  by_cases same : other = address
  · subst other
    simp [drain]
  · simp [drain, put_other _ _ same]

theorem close_closed (address : κ) {other} (closed : (boxes other).closed = true) :
    (boxes.close address other).closed = true := by
  by_cases same : other = address
  · subst other
    simp [close]
  · simpa [close, put_other _ _ same] using closed

theorem post_adds (address : κ) (item : ι) (permitted : allowed address item) :
    Adds allowed boxes (boxes.post address item) := by
  intro other
  by_cases same : other = address
  · subst other
    exact ⟨[item], by simp [post], by simp [post], by simpa using permitted⟩
  · exact ⟨[], by simp [post, put_other _ _ same], by simp [post, put_other _ _ same], by simp⟩

theorem send_adds (address : κ) (item : ι) (permitted : allowed address item) :
    Adds allowed boxes (boxes.send address item) := by
  simp only [send]
  split
  · exact .refl boxes
  · exact post_adds boxes address item permitted

theorem send_other (item : ι) (different : other ≠ address) : boxes.send address item other = boxes other := by
  simp only [send]
  split
  · rfl
  · exact put_other _ _ different

theorem send_queue (address : κ) (item : ι) (isOpen : (boxes address).closed = false) :
    (boxes.send address item address).queue = (boxes address).queue ++ [item] := by
  simp [send, isOpen, post]

end

section
variable (capacity : Nat) (boxes : Mailboxes κ ι) {address : κ}

theorem trySend_adds (address : κ) (item : ι)
    (permitted : boxes.hasRoom capacity address = true → allowed address item) :
    Adds allowed boxes (boxes.trySend capacity address item).1 := by
  simp only [trySend]
  split
  next room => exact post_adds boxes address item (permitted room)
  · exact .refl boxes

theorem trySend_length_le (address other : κ) (item : ι) :
    ((boxes.trySend capacity address item).1 other).queue.length ≤ (boxes other).queue.length + 1 := by
  simp only [trySend]
  split
  · by_cases same : other = address
    · subst other
      simp [post]
    · simp [post, put_other _ _ same]
  · exact Nat.le_succ _

theorem trySend_other (item : ι)
    (different : other ≠ address) : (boxes.trySend capacity address item).1 other = boxes other := by
  simp only [trySend]
  split
  · exact put_other _ _ different
  · rfl

theorem trySend_self (address : κ) (item : ι) (room : boxes.hasRoom capacity address = true) :
    (boxes.trySend capacity address item).1 address =
      ⟨(boxes address).queue ++ [item], (boxes address).closed⟩ := by
  simp [trySend, post, room]

theorem trySend_full (address : κ) (item : ι)
    (full : boxes.hasRoom capacity address = false) : boxes.trySend capacity address item = (boxes, false) := by
  simp [trySend, full]

end

theorem trySend_congr (capacity : Nat) {boxes others : Mailboxes κ ι} (item : ι)
    (same : boxes address = others address) :
    (boxes.trySend capacity address item).1 address = (others.trySend capacity address item).1 address := by
  have rooms : boxes.hasRoom capacity address = others.hasRoom capacity address := by simp only [hasRoom, same]
  cases room : others.hasRoom capacity address with
  | true => rw [trySend_self _ _ _ _ (rooms.trans room), trySend_self _ _ _ _ room, same]
  | false =>
    rw [trySend_full _ _ _ _ (rooms.trans room), trySend_full _ _ _ _ room]
    exact same

theorem trySend_sent (capacity : Nat) (boxes : Mailboxes κ ι) (address : κ) (item : ι) :
    (boxes.trySend capacity address item).2 = boxes.hasRoom capacity address := by
  cases room : boxes.hasRoom capacity address <;> simp [trySend, room]

@[simp] theorem added_post (boxes : Mailboxes κ ι) (address : κ) (item : ι) :
    added boxes (boxes.post address item) address = [item] := by
  simp [added, post]

theorem added_trySend (capacity : Nat) (boxes : Mailboxes κ ι) (address other : κ) (item : ι) :
    added boxes (boxes.trySend capacity address item).1 other =
      if other = address ∧ boxes.hasRoom capacity address = true then [item] else [] := by
  by_cases same : other = address
  · subst other
    cases room : boxes.hasRoom capacity address with
    | true => simp [added, trySend_self capacity boxes address item room]
    | false => simp [trySend_full capacity boxes address item room]
  · simp [added, trySend_other capacity boxes item same, same]

end Operations

section View
variable {γ : Type} [DecidableEq κ] (view : ι → Option γ)

/-- What was appended to a queue, seen through `view`, is part of what was said to
its address, in the same order. -/
def Shows (said : List (κ × γ)) (before after : Mailboxes κ ι) : Prop :=
  ∀ address, ∃ items, (after address).queue = (before address).queue ++ items ∧
    (items.filterMap view).Sublist ((said.filter fun entry => entry.1 = address).map Prod.snd)

variable {view} {said later : List (κ × γ)} {item : ι} {word : γ}

theorem Adds.shows (adds : Adds (fun _ item => view item = none) before after) : Shows view [] before after := by
  intro address
  obtain ⟨items, queue, _, unseen⟩ := adds address
  refine ⟨items, queue, ?_⟩
  rw [List.filterMap_eq_nil_iff.mpr unseen]
  exact List.nil_sublist _

theorem Shows.refl (boxes : Mailboxes κ ι) : Shows view [] boxes boxes := (Adds.refl boxes).shows

theorem Shows.append (first : Shows view said before middle) (last : Shows view later middle after) :
    Shows view (said ++ later) before after := by
  intro address
  obtain ⟨old, oldQueue, oldSeen⟩ := first address
  obtain ⟨new, newQueue, newSeen⟩ := last address
  refine ⟨old ++ new, by rw [newQueue, oldQueue, List.append_assoc], ?_⟩
  rw [List.filterMap_append, List.filter_append, List.map_append]
  exact oldSeen.append newSeen

theorem Shows.added (shows : Shows view said before after) (address : κ) :
    ((added before after address).filterMap view).Sublist
      ((said.filter fun entry => entry.1 = address).map Prod.snd) := by
  obtain ⟨items, queue, seen⟩ := shows address
  rw [Mailboxes.added, queue, List.drop_left]
  exact seen

theorem Shows.closer {δ : Type} (shows : Shows view said before after) (look : γ → Option δ) (address : κ) :
    ((Mailboxes.added before after address).filterMap fun item => (view item).bind look).Sublist
      (((said.filter fun entry => entry.1 = address).map Prod.snd).filterMap look) := by
  have seen := (shows.added address).filterMap look
  rw [List.filterMap_filterMap] at seen
  exact seen

theorem Shows.nothing (said : List (κ × γ)) (boxes : Mailboxes κ ι) : Shows view said boxes boxes :=
  fun _ => ⟨[], by simp, by simp⟩

theorem post_shows (boxes : Mailboxes κ ι) (address : κ) (seen : view item = some word) :
    Shows view [(address, word)] boxes (boxes.post address item) := by
  intro other
  by_cases same : other = address
  · subst other
    exact ⟨[item], by simp [post], by simp [seen]⟩
  · exact ⟨[], by simp [post, put_other _ _ same], by simp⟩

theorem trySend_shows (capacity : Nat) (boxes : Mailboxes κ ι) (address : κ)
    (seen : view item = some word) : Shows view [(address, word)] boxes (boxes.trySend capacity address item).1 := by
  simp only [trySend]
  split
  · exact post_shows boxes address seen
  · exact .nothing _ boxes

def wordsTo (said : List (κ × γ)) (address : κ) : List γ :=
  (said.filter fun entry => entry.1 = address).map Prod.snd

theorem wordsTo_append (said later : List (κ × γ)) (address : κ) :
    wordsTo (said ++ later) address = wordsTo said address ++ wordsTo later address := by
  rw [wordsTo, List.filter_append, List.map_append]
  rfl

/-- If something is said to the address, its queue is open and has room for all of it. -/
def Fits (capacity : Nat) (said : List (κ × γ)) (boxes : Mailboxes κ ι) (address : κ) : Prop :=
  wordsTo said address ≠ [] →
    (boxes address).closed = false ∧ (boxes address).queue.length + (wordsTo said address).length ≤ capacity

theorem fits_of_mem {boxes : Mailboxes κ ι} (room : ∀ entry ∈ said,
    (boxes entry.1).closed = false ∧ (boxes entry.1).queue.length + (wordsTo said entry.1).length ≤ capacity)
    (address : κ) : Fits capacity said boxes address := by
  intro some
  obtain ⟨word, member⟩ := List.exists_mem_of_ne_nil _ some
  obtain ⟨⟨other, spoken⟩, chosen, rfl⟩ := List.mem_map.mp member
  obtain ⟨listed, same⟩ := List.mem_filter.mp chosen
  obtain rfl : other = address := by simpa using same
  exact room (other, spoken) listed

/-- Where there is room, every word was appended as one item, in the same order. -/
def Posts (capacity : Nat) (view : ι → Option γ) (said : List (κ × γ)) (before after : Mailboxes κ ι) : Prop :=
  ∀ address, Fits capacity said before address → ∃ items, (after address).queue = (before address).queue ++ items ∧
    (after address).closed = (before address).closed ∧ items.map view = (wordsTo said address).map some

variable {capacity : Nat}

theorem Posts.refl (boxes : Mailboxes κ ι) : Posts capacity view ([] : List (κ × γ)) boxes boxes :=
  fun _ _ => ⟨[], by simp, rfl, rfl⟩

theorem Posts.append (first : Posts capacity view said before middle) (last : Posts capacity view later middle after) :
    Posts capacity view (said ++ later) before after := by
  intro address fits
  rw [Fits, wordsTo_append, List.length_append] at fits
  obtain ⟨old, oldQueue, oldClosed, oldWords⟩ := first address fun some => by
    obtain ⟨isOpen, room⟩ := fits (by simp [some])
    exact ⟨isOpen, by omega⟩
  obtain ⟨new, newQueue, newClosed, newWords⟩ := last address fun some => by
    obtain ⟨isOpen, room⟩ := fits (by simp [some])
    have length : old.length = (wordsTo said address).length := by simpa using congrArg List.length oldWords
    rw [oldQueue, List.length_append]
    exact ⟨oldClosed.trans isOpen, by omega⟩
  refine ⟨old ++ new, by rw [newQueue, oldQueue, List.append_assoc], newClosed.trans oldClosed, ?_⟩
  rw [List.map_append, oldWords, newWords, wordsTo_append, List.map_append]

theorem Posts.added (posts : Posts capacity view said before after) (fits : Fits capacity said before address) :
    (Mailboxes.added before after address).map view = (wordsTo said address).map some := by
  obtain ⟨items, queue, _, words⟩ := posts address fits
  rw [Mailboxes.added, queue, List.drop_left, words]

theorem trySend_posts (boxes : Mailboxes κ ι) (address : κ) (seen : view item = some word) :
    Posts capacity view [(address, word)] boxes (boxes.trySend capacity address item).1 := by
  intro other fits
  by_cases same : other = address
  · subst other
    obtain ⟨isOpen, room⟩ := fits (by simp [wordsTo])
    have fewer : (boxes address).queue.length < capacity := by
      simpa [wordsTo, Nat.succ_le_iff] using room
    have roomy : boxes.hasRoom capacity address = true := by simp [hasRoom, isOpen, fewer]
    refine ⟨[item], ?_, ?_, by simp [wordsTo, seen]⟩
    · rw [trySend_self capacity boxes address item roomy]
    · rw [trySend_self capacity boxes address item roomy]
  · have silent : wordsTo [(address, word)] other = [] := by simp [wordsTo, Ne.symm same]
    refine ⟨[], ?_, ?_, by rw [silent]; rfl⟩
    · rw [trySend_other capacity boxes item same, List.append_nil]
    · rw [trySend_other capacity boxes item same]

end View

section Map
variable {ι' : Type} (f : ι → ι')

def map (boxes : Mailboxes κ ι) : Mailboxes κ ι' :=
  fun address => ⟨(boxes address).queue.map f, (boxes address).closed⟩

theorem hasRoom_map (capacity : Nat) (boxes : Mailboxes κ ι) (address : κ) :
    (boxes.map f).hasRoom capacity address = boxes.hasRoom capacity address := by
  simp [hasRoom, map]

variable [DecidableEq κ]

theorem map_put (boxes : Mailboxes κ ι) (address : κ) (box : Mailbox ι) :
    (boxes.put address box).map f = (boxes.map f).put address ⟨box.queue.map f, box.closed⟩ := by
  funext other
  by_cases same : other = address
  · simp [map, put, same]
  · simp [map, put, same]

theorem map_post (boxes : Mailboxes κ ι) (address : κ) (item : ι) :
    (boxes.post address item).map f = (boxes.map f).post address (f item) := by
  simp [post, map_put, map]

theorem map_send (boxes : Mailboxes κ ι) (address : κ) (item : ι) :
    (boxes.send address item).map f = (boxes.map f).send address (f item) := by
  cases closed : (boxes address).closed with
  | true => simp [send, map, closed]
  | false =>
    have mapped : ((boxes.map f) address).closed = false := closed
    simp [send, closed, mapped, map_post]

theorem map_trySend (capacity : Nat) (boxes : Mailboxes κ ι) (address : κ) (item : ι) :
    ((boxes.trySend capacity address item).1.map f, (boxes.trySend capacity address item).2) =
      (boxes.map f).trySend capacity address (f item) := by
  cases room : boxes.hasRoom capacity address with
  | true => simp [trySend, hasRoom_map, room, map_post]
  | false => simp [trySend, hasRoom_map, room]

theorem map_drain (boxes : Mailboxes κ ι) (address : κ) : (boxes.drain address).map f = (boxes.map f).drain address := by
  simp [drain, map_put, map, List.map_tail]

theorem map_close (boxes : Mailboxes κ ι) (address : κ) : (boxes.close address).map f = (boxes.map f).close address := by
  simp [close, map_put]

end Map
end Mailboxes
