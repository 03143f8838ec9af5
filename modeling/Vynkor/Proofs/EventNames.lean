import Vynkor.Announcements
import Vynkor.Proofs.RouterEffects
import Vynkor.Scenario

/-! The types of the events on the bus: whether a subscriber can tell from the type
alone who has published an event. -/

namespace Vynkor.Proofs
open RouterState
variable {β : Type}

inductive SystemEvent (ctx : Context β) : Event → Prop where
  | joined (now : Moment) (registry : PluginRegistry) (pluginId : String) :
      SystemEvent ctx (joinedEvent ctx now registry pluginId)
  | left (kernel : Kernel β) (now : Moment) (pluginId : String) :
      SystemEvent ctx (kernel.leftEvent ctx now pluginId)
  | died (pluginId : String) (restartCount : UInt32) (willRestart : Bool) :
      SystemEvent ctx (diedEvent pluginId restartCount willRestart)

/-- The second id is the first one followed by a dot and more. -/
def Nested (outer inner : String) : Prop := ∃ rest, inner = outer ++ "." ++ rest

theorem nested_of_append {outer inner left right : String} (different : outer ≠ inner) {between : List Char}
    (longer : inner.toList = outer.toList ++ between) (same : '.' :: left.toList = between ++ '.' :: right.toList) :
    Nested outer inner := by
  cases between with
  | nil =>
    rw [List.append_nil] at longer
    exact absurd (String.toList_injective longer).symm different
  | cons dot rest =>
    obtain ⟨rfl, _⟩ := List.cons.inj same
    refine ⟨String.ofList rest, String.toList_injective ?_⟩
    simp [longer]

/-- Two texts of the form `id.type` are the same only if one id goes on with a dot
where the other ends. -/
theorem nested_of_same {p q a b : String} (different : p ≠ q) (same : p ++ "." ++ a = q ++ "." ++ b) :
    Nested p q ∨ Nested q p := by
  have lists : p.toList ++ '.' :: a.toList = q.toList ++ '.' :: b.toList := by
    simpa using congrArg String.toList same
  rcases List.append_eq_append_iff.mp lists with ⟨between, longer, rest⟩ | ⟨between, longer, rest⟩
  · exact .inl (nested_of_append different longer rest)
  · exact .inr (nested_of_append (Ne.symm different) longer rest)

/-- The condition is needed: of two such ids, each can publish a type of the other. -/
theorem nested_collide {p q : String} (nested : Nested p q) (b : String) :
    ∃ a, "plugin." ++ p ++ "." ++ a = "plugin." ++ q ++ "." ++ b := by
  obtain ⟨rest, rfl⟩ := nested
  exact ⟨rest ++ "." ++ b, by simp [String.append_assoc]⟩

/-- Types published by two plugins differ unless one of the ids is the other one followed
by a dot and more. No plugin can publish a type of the kernel's own. -/
theorem event_types_apart (ctx : Context β) (p q : String) (different : p ≠ q) (apart : ¬Nested p q ∧ ¬Nested q p)
    (pId qId : String) (pRequest qRequest : EventPublish) :
    (pluginEvent p pId pRequest).eventType ≠ (pluginEvent q qId qRequest).eventType ∧
    ∀ event, SystemEvent ctx event → (pluginEvent p pId pRequest).eventType ≠ event.eventType ∧
      (pluginEvent q qId qRequest).eventType ≠ event.eventType := by
  have own : ∀ id eventId request event, SystemEvent ctx event → (pluginEvent id eventId request).eventType ≠
      event.eventType := by
    intro id eventId request event system same
    have texts := congrArg String.toList same
    cases system <;> simp [pluginEvent, joinedEvent, Kernel.leftEvent, diedEvent] at texts
  refine ⟨?_, fun event system => ⟨own p pId pRequest event system, own q qId qRequest event system⟩⟩
  intro same
  have shorter : p ++ "." ++ pRequest.eventType = q ++ "." ++ qRequest.eventType := by
    apply String.toList_injective
    simpa [pluginEvent] using congrArg String.toList same
  rcases nested_of_same different shorter with inner | outer
  · exact apart.1 inner
  · exact apart.2 outer

section Mail
open Scenario

theorem not_nested_of_start {outer inner : String} (stops : Text.startsWith inner (outer ++ ".") = false) :
    ¬Nested outer inner := by
  rintro ⟨rest, rfl⟩
  have begins : Text.startsWith (outer ++ "." ++ rest) (outer ++ ".") = true :=
    List.isPrefixOf_iff_prefix.mpr ⟨rest.toList, by simp⟩
  rw [begins] at stops
  cases stops

def mailContext : Context Packet := { wire := Packet.wire }

theorem event_types_apart_mail :
    (pluginEvent "mail" "" ⟨"spam.found", []⟩).eventType ≠ (pluginEvent "mail-spam" "" ⟨"found", []⟩).eventType ∧
    ∀ event, SystemEvent mailContext event →
      (pluginEvent "mail" "" ⟨"spam.found", []⟩).eventType ≠ event.eventType ∧
      (pluginEvent "mail-spam" "" ⟨"found", []⟩).eventType ≠ event.eventType :=
  event_types_apart mailContext "mail" "mail-spam" (by decide)
    ⟨not_nested_of_start (by decide +kernel), not_nested_of_start (by decide +kernel)⟩ "" "" _ _

/-- A dot in an id: the filter's events are those the mail plugin can publish itself. -/
theorem event_types_collide :
    validatePluginId "mail" = .ok () ∧ validatePluginId "mail.spam" = .ok () ∧
    (pluginEvent "mail" "" ⟨"spam.found", []⟩).eventType = (pluginEvent "mail.spam" "" ⟨"found", []⟩).eventType := by
  decide +kernel

end Mail
end Vynkor.Proofs
