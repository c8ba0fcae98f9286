import Mathlib.Tactic.Common
import Mathlib.Data.List.Basic

/-!
# Pending entries of a history

A history is the list of the events so far, the oldest first. Some events open an entry, some
close one. Nothing here knows what the events are.

* `OpenSince` — the entry was opened by an event that no later one has closed;
* `ClosedBy` — an event closes the entry that an earlier one opened, and none in between did;
* `ClosedBy.unique` — one opening is closed at most once.
-/

namespace Evm.Pending

variable {Event κ : Type} (opens closes : Event → κ → Prop)

/-- The event at position `j` opened `k`, and nothing after it closed `k`. -/
structure OpenSince (events : List Event) (k : κ) (j : Nat) (event : Event) : Prop where
  position : events[j]? = some event
  isOpening : opens event k
  kept : ∀ m later, j < m → events[m]? = some later → ¬ closes later k

/-- The event at `i` closes `k`, which the one at `j` opened and none in between closed. -/
structure ClosedBy (events : List Event) (k : κ) (j i : Nat) (event closing : Event) : Prop where
  before : j < i
  openedAt : events[j]? = some event
  isOpening : opens event k
  closedAt : events[i]? = some closing
  isClosing : closes closing k
  kept : ∀ m between, j < m → m < i → events[m]? = some between → ¬ closes between k

variable {opens closes} {events : List Event} {k : κ} {j i i' : Nat} {event closing : Event}

/-- Where an event of a prolonged history stands. -/
theorem position_append {last : Event} (h : (events ++ [last])[j]? = some event) :
    events[j]? = some event ∨ (j = events.length ∧ event = last) := by
  rcases Nat.lt_or_ge j events.length with hlt | hge
  · rw [List.getElem?_append_left hlt] at h
    exact .inl h
  · rw [List.getElem?_append_right hge] at h
    have hzero : j - events.length = 0 := by
      have hlength := (List.getElem?_eq_some_iff.mp h).1
      rw [List.length_singleton] at hlength
      omega
    rw [hzero] at h
    refine .inr ⟨by omega, ?_⟩
    exact (Option.some.inj h).symm

theorem position_lt (h : events[j]? = some event) : j < events.length :=
  (List.getElem?_eq_some_iff.mp h).1

theorem position_append_left {last : Event} (h : events[j]? = some event) :
    (events ++ [last])[j]? = some event := by
  rw [List.getElem?_append_left (position_lt h)]
  exact h

theorem position_append_last {last : Event} :
    (events ++ [last])[events.length]? = some last := by
  rw [List.getElem?_append_right (Nat.le_refl _), Nat.sub_self]
  rfl

/-- An event that opens `k` starts an entry. -/
theorem OpenSince.last (h : opens event k) :
    OpenSince opens closes (events ++ [event]) k events.length event where
  position := position_append_last
  isOpening := h
  kept := by
    intro m later hm hlater _
    have hlt := position_lt hlater
    rw [List.length_append, List.length_singleton] at hlt
    omega

/-- An event that does not close `k` leaves its entry open. -/
theorem OpenSince.append {last : Event} (h : OpenSince opens closes events k j event)
    (hlast : ¬ closes last k) : OpenSince opens closes (events ++ [last]) k j event where
  position := position_append_left h.position
  isOpening := h.isOpening
  kept := by
    intro m later hm hlater
    rcases position_append hlater with hlater | ⟨-, rfl⟩
    · exact h.kept m later hm hlater
    · exact hlast

/-- An event that closes an open entry. -/
theorem OpenSince.closed {last : Event} (h : OpenSince opens closes events k j event)
    (hlast : closes last k) :
    ClosedBy opens closes (events ++ [last]) k j events.length event last where
  before := position_lt h.position
  openedAt := position_append_left h.position
  isOpening := h.isOpening
  closedAt := position_append_last
  isClosing := hlast
  kept := by
    intro m between hm hlt hbetween
    rw [List.getElem?_append_left hlt] at hbetween
    exact h.kept m between hm hbetween

/-- What was closed stays closed as it was. -/
theorem ClosedBy.append {last : Event} (h : ClosedBy opens closes events k j i event closing) :
    ClosedBy opens closes (events ++ [last]) k j i event closing where
  before := h.before
  openedAt := position_append_left h.openedAt
  isOpening := h.isOpening
  closedAt := position_append_left h.closedAt
  isClosing := h.isClosing
  kept := by
    intro m between hm hlt hbetween
    have hi := position_lt h.closedAt
    rw [List.getElem?_append_left (by omega)] at hbetween
    exact h.kept m between hm hlt hbetween

/-- One opening is closed at most once. -/
theorem ClosedBy.unique {event' closing' : Event}
    (h : ClosedBy opens closes events k j i event closing)
    (h' : ClosedBy opens closes events k j i' event' closing') : i = i' := by
  rcases Nat.lt_trichotomy i i' with hlt | heq | hgt
  · exact absurd h.isClosing (h'.kept i closing h.before hlt h.closedAt)
  · exact heq
  · exact absurd h'.isClosing (h.kept i' closing' h'.before hgt h'.closedAt)

end Evm.Pending
