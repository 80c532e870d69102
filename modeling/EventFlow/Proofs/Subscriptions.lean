import EventFlow.Proofs.Binding
import Mathlib.Data.List.Nodup

/-
  The history of a bus.

  A bus is reached from a new one by beginning and by ending
  subscriptions.  The ones that are live are the ones that
  were begun and not ended, in the order in which they were
  begun, and their ids count the beginnings.

  Key definitions include:
    * `Bus.ending`
    * `Bus.History`

  Key theorems include:
    * `Bus.History.map_id`
    * `Bus.History.live_eq`
    * `Bus.History.subscribers_eq`
    * `Bus.History.extended`
-/

------------------------------------------------------------
-- Histories
------------------------------------------------------------

namespace EventFlow

namespace Bus

/- The live subscriptions that are ended with one. -/
def ending
    (b : Bus)
    (s : Subscription) : List Subscription :=
  b.live.filter fun t => t.event == s.event && t.id == s.id

/-
  A bus together with the subscriptions that it began and
  the ones that it ended, each in order.
-/
inductive History :
    List Subscription → List Subscription → Bus → Prop where
| new : History [] [] {}
| began
    {begun ended : List Subscription}
    {b b' : Bus}
    {s : Subscription}
    (hBefore : History begun ended b)
    (event : String)
    (listener : Listener)
    (hBegan : b.subscribe event listener = .ok (s, b')) :
    History (begun ++ [s]) ended b'
| ended
    {begun ended : List Subscription}
    {b : Bus}
    (hBefore : History begun ended b)
    (s : Subscription) :
    History begun (ended ++ b.ending s) (b.unsubscribe s).2

variable {b b' : Bus}
variable {s : Subscription}

/- What a bus that began a subscription has begun. -/
theorem subscribe_eq_ok
    {event : String}
    {listener : Listener}
    (hBegan : b.subscribe event listener = .ok (s, b')) :
    ¬ Text.isBlankText event ∧
      s = b.next event listener ∧
      b' = b.extended [⟨event, listener⟩] := by
  by_cases hEvent : Text.isBlankText event
  · rw [subscribe, if_pos hEvent] at hBegan
    cases hBegan
  · rw [subscribe_of_event hEvent] at hBegan
    cases hBegan
    exact ⟨hEvent, rfl, rfl⟩

/- What stays live is what is not ended. -/
theorem mem_unsubscribe
    {t : Subscription} :
    t ∈ (b.unsubscribe s).2.live ↔
      t ∈ b.live ∧ t ∉ b.ending s := by
  simp only [unsubscribe, ending, List.mem_filter]
  grind

end Bus

end EventFlow

------------------------------------------------------------
-- Ids
------------------------------------------------------------

namespace EventFlow

namespace Bus

namespace History

variable {begun ended : List Subscription}
variable {b : Bus}

/- The ids of what was begun count the beginnings. -/
theorem map_id (hHistory : History begun ended b) :
    begun.map Subscription.id =
      List.range' 1 b.issued := by
  induction hHistory with
  | new => rfl
  | began hBefore event listener hBegan ih =>
      rcases subscribe_eq_ok hBegan with ⟨-, rfl, rfl⟩
      rw [List.map_append, ih]
      simp [next, extended, List.range'_concat,
        Nat.add_comm]
  | ended hBefore s ih => exact ih

/- The ids of what was begun increase. -/
theorem pairwise_id (hHistory : History begun ended b) :
    begun.Pairwise fun s t => s.id < t.id := by
  rw [← List.pairwise_map (f := Subscription.id)
    (R := (· < ·)), hHistory.map_id]
  exact List.pairwise_lt_range'

/- What was begun has only ids that were issued. -/
theorem id_le_issued
    (hHistory : History begun ended b)
    {s : Subscription}
    (hBegun : s ∈ begun) :
    s.id ≤ b.issued := by
  have hMem := List.mem_map_of_mem (f := Subscription.id)
    hBegun
  rw [hHistory.map_id, List.mem_range'_1] at hMem
  omega

/- What was begun is known by its id. -/
theorem eq_of_id_eq
    (hHistory : History begun ended b)
    {s t : Subscription}
    (hFirst : s ∈ begun)
    (hSecond : t ∈ begun)
    (hId : s.id = t.id) :
    s = t := by
  have hNodup : (begun.map Subscription.id).Nodup := by
    rw [hHistory.map_id]
    exact List.nodup_range'
  exact List.inj_on_of_nodup_map hNodup hFirst hSecond hId

end History

end Bus

end EventFlow

------------------------------------------------------------
-- Live Subscriptions
------------------------------------------------------------

namespace EventFlow

namespace Bus

namespace History

variable {begun ended : List Subscription}
variable {b : Bus}

/- What is live was begun, and so was what was ended. -/
theorem live_and_ended_subset
    (hHistory : History begun ended b) :
    b.live ⊆ begun ∧ ended ⊆ begun := by
  induction hHistory with
  | new => simp
  | began hBefore event listener hBegan ih =>
      rcases subscribe_eq_ok hBegan with ⟨-, rfl, rfl⟩
      constructor
      · exact List.append_subset.mpr
          ⟨fun t hLive =>
            List.mem_append_left _ (ih.1 hLive),
            List.subset_append_right _ _⟩
      · intro t hEnded
        exact List.mem_append_left _ (ih.2 hEnded)
  | ended hBefore s ih =>
      constructor
      · intro t hLive
        exact ih.1 (mem_unsubscribe.mp hLive).1
      · refine List.append_subset.mpr ⟨ih.2, ?_⟩
        intro t hEnding
        exact ih.1 (List.mem_filter.mp hEnding).1

/- What is live is what was begun and not ended, in order. -/
theorem live_eq (hHistory : History begun ended b) :
    b.live = begun.filter fun s => s ∉ ended := by
  induction hHistory with
  | new => rfl
  | @began begun ended b b' s hBefore event listener hBegan
      ih =>
      -- The id of the new one is not the id of an ended one.
      have hNew : s ∉ ended := by
        intro hEnded
        have hId := hBefore.id_le_issued
          (hBefore.live_and_ended_subset.2 hEnded)
        rcases subscribe_eq_ok hBegan with ⟨-, rfl, -⟩
        exact Nat.not_succ_le_self b.issued hId
      rcases subscribe_eq_ok hBegan with ⟨-, rfl, rfl⟩
      rw [List.filter_append, ← ih,
        List.filter_singleton, decide_eq_true hNew]
      rfl
  | @ended begun ended b hBefore s ih =>
      have hLive :
          (b.unsubscribe s).2.live =
            b.live.filter fun t => t ∉ b.ending s := by
        refine List.filter_congr fun t hMem => ?_
        rw [Bool.eq_iff_iff]
        simp [ending, hMem]
      rw [hLive, ih, List.filter_filter]
      refine List.filter_congr fun t _ => ?_
      simp [Bool.and_comm]

/-
  The subscribers of an event are the ones that were begun
  for it and not ended, in order.
-/
theorem subscribers_eq
    (hHistory : History begun ended b)
    (event : String) :
    b.subscribers event =
      begun.filter fun s => s.event = event ∧ s ∉ ended := by
  rw [subscribers, hHistory.live_eq, List.filter_filter]
  refine List.filter_congr fun s _ => ?_
  rw [Bool.eq_iff_iff]
  simp

end History

end Bus

end EventFlow

------------------------------------------------------------
-- Requests
------------------------------------------------------------

namespace EventFlow

namespace Bus

namespace History

variable {begun ended : List Subscription}
variable {b : Bus}

/- A bus that takes requests begins a subscription for each. -/
theorem extended
    (hHistory : History begun ended b)
    {requests : List Request}
    (hEvents :
      ∀ request ∈ requests,
        ¬ Text.isBlankText request.event) :
    History (begun ++ numbered b.issued requests) ended
      (b.extended requests) := by
  induction requests generalizing begun b with
  | nil =>
      rw [extended_nil, numbered, List.append_nil]
      exact hHistory
  | cons request requests ih =>
      rw [List.forall_mem_cons] at hEvents
      have hFirst :=
        hHistory.began request.event request.listener
          (subscribe_of_event hEvents.1 request.listener)
      have hRest := ih hFirst hEvents.2
      rw [List.append_assoc] at hRest
      rw [extended_cons]
      exact hRest

end History

end Bus

end EventFlow
