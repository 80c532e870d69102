import EventFlow.Proofs.BoundTriggers

/-
  The order of a bus.

  At every point of a session, also inside a handler, the
  bus is in order after all that was begun and ended on it:
  every id was issued once, and each event lists its own
  live subscriptions in the order of their ids.  For ids
  tell subscriptions apart, a bus that begins one adds just
  that one, and a bus that ends one removes just that one.

  Key definitions include:
    * `Bus.IsInOrder`
    * `Engine.Begins`
    * `Engine.Ends`

  Key theorems include:
    * `Bus.History.isInOrder`
    * `Bus.eraseP_id_eq_filter`
    * `Engine.begins_of_history`
    * `Engine.ends_of_history`
    * `Session.bus_stays_in_order`
-/

------------------------------------------------------------
-- Order
------------------------------------------------------------

namespace EventFlow

namespace Bus

/-
  Whether a bus is in order after subscriptions were begun
  and ended.  The ids that were issued are counted by the
  beginnings, so that none is issued twice.  What is live was
  begun and not ended, and has ids of its own.  The list of
  an event holds its live subscriptions by increasing id.
-/
structure IsInOrder
    (begun ended : List Subscription)
    (b : Bus) : Prop where
  counted :
    begun.map Subscription.id = List.range' 1 b.issued
  live : b.live = begun.filter fun s => s ∉ ended
  apart : (b.live.map Subscription.id).Nodup
  own :
    ∀ event s,
      s ∈ b.subscribers event ↔ s ∈ b.live ∧ s.event = event
  increasing :
    ∀ event,
      (b.subscribers event).Pairwise fun s later =>
        s.id < later.id

variable {begun ended : List Subscription}
variable {b : Bus}

theorem mem_subscribers
    (event : String)
    (s : Subscription) :
    s ∈ b.subscribers event ↔ s ∈ b.live ∧ s.event = event := by
  rw [subscribers, List.mem_filter, beq_iff_eq]

/- Live subscriptions have increasing ids. -/
theorem History.pairwise_live
    (hHistory : History begun ended b) :
    b.live.Pairwise fun s later => s.id < later.id := by
  rw [hHistory.live_eq]
  exact hHistory.pairwise_id.filter _

theorem History.pairwise_subscribers
    (hHistory : History begun ended b)
    (event : String) :
    (b.subscribers event).Pairwise fun s later =>
      s.id < later.id :=
  hHistory.pairwise_live.filter _

/- Increasing ids are distinct. -/
theorem nodup_id_of_pairwise
    {subscriptions : List Subscription}
    (hIncreasing :
      subscriptions.Pairwise fun s later =>
        s.id < later.id) :
    (subscriptions.map Subscription.id).Nodup := by
  rw [List.Nodup, List.pairwise_map]
  exact hIncreasing.imp Nat.ne_of_lt

/- Whatever its history, a bus is in order after it. -/
theorem History.isInOrder
    (hHistory : History begun ended b) :
    b.IsInOrder begun ended where
  counted := hHistory.map_id
  live := hHistory.live_eq
  apart := nodup_id_of_pairwise hHistory.pairwise_live
  own := mem_subscribers
  increasing := hHistory.pairwise_subscribers

/- What is not live any more will not be live again. -/
theorem History.not_mem_live
    {more gone : List Subscription}
    {b' : Bus}
    (hHistory : History begun ended b)
    (hLater : History (begun ++ more) (ended ++ gone) b')
    {s : Subscription}
    (hBegun : s ∈ begun)
    (hDead : s ∉ b.live) :
    s ∉ b'.live := by
  have hEnded : s ∈ ended := by
    by_contra hKept
    rw [hHistory.live_eq] at hDead
    exact hDead (List.mem_filter.mpr
      ⟨hBegun, decide_eq_true hKept⟩)
  intro hLive
  rw [hLater.live_eq, List.mem_filter, decide_eq_true_eq]
    at hLive
  exact hLive.2 (List.mem_append_left _ hEnded)

end Bus

end EventFlow

------------------------------------------------------------
-- Beginning
------------------------------------------------------------

namespace EventFlow

/-
  Whether an engine has begun a subscription: it has the next
  id, which nothing that was begun before has, and it is the
  only one that is added, at the end of its event's list.
-/
structure Engine.Begins
    (begun : List Subscription)
    (s : Subscription)
    (e e' : Engine) : Prop where
  fresh : ∀ old ∈ begun, old.id < s.id
  issued :
    s.id = e.bus.issued + 1 ∧ e'.bus.issued = s.id
  added :
    e'.bus.subscribers s.event =
      e.bus.subscribers s.event ++ [s]
  others :
    ∀ event ≠ s.event,
      e'.bus.subscribers event = e.bus.subscribers event

namespace Engine

variable {begun ended : List Subscription}
variable {e : Engine}

/- An event that is not blank is subscribed to just once. -/
theorem begins_of_history
    (hBus : Bus.History begun ended e.bus)
    {event : String}
    (hEvent : ¬ Text.isBlankText event)
    (listener : Listener) :
    ∃ s e',
      subscribe event listener e = (.ok s, e') ∧
        s.event = event ∧
          s.listener = listener ∧ Begins begun s e e' := by
  rcases subscribe_eq (e := e) hEvent listener with
    ⟨ns, hSubscribe⟩
  have hLive :
      (e.bus.extended [⟨event, listener⟩]).live =
        e.bus.live ++ [e.bus.next event listener] := rfl
  refine ⟨_, _, hSubscribe, rfl, rfl, ?_, ⟨rfl, rfl⟩, ?_, ?_⟩
  · intro old hOld
    exact Nat.lt_succ_of_le (hBus.id_le_issued hOld)
  · simp [Bus.subscribers, hLive, Bus.next, hear]
  · intro other hOther
    have hNot : ¬ (e.bus.next event listener).event = other :=
      fun hSame => hOther hSame.symm
    simp [Bus.subscribers, hLive, hNot, hear]

end Engine

end EventFlow

------------------------------------------------------------
-- Ending
------------------------------------------------------------

namespace EventFlow

namespace Bus

/- Of distinct ids, the first match is the only one. -/
theorem eraseP_id_eq_filter
    {subscriptions : List Subscription}
    (hApart : (subscriptions.map Subscription.id).Nodup)
    (id : Nat) :
    subscriptions.eraseP (·.id == id) =
      subscriptions.filter (·.id != id) := by
  induction subscriptions with
  | nil => rfl
  | cons s rest ih =>
      rw [List.map_cons, List.nodup_cons] at hApart
      by_cases hId : s.id = id
      · have hRest : ∀ t ∈ rest, t.id != id := by
          intro t hMem
          rw [bne_iff_ne, ← hId]
          intro hSame
          refine hApart.1 ?_
          rw [← hSame]
          exact List.mem_map_of_mem hMem
        rw [List.eraseP_cons_of_pos (by simpa using hId),
          List.filter_cons_of_neg (by simpa using hId),
          List.filter_eq_self.mpr hRest]
      · rw [List.eraseP_cons_of_neg (by simpa using hId),
          List.filter_cons_of_pos (by simpa using hId),
          ih hApart.2]

variable {b : Bus}
variable {s : Subscription}

theorem isLive_iff :
    b.isLive s = true ↔
      ∃ t ∈ b.subscribers s.event, t.id = s.id := by
  simp [isLive, mem_subscribers, and_assoc]

/- The list of an event after a subscription to it is ended. -/
theorem subscribers_unsubscribe :
    (b.unsubscribe s).2.subscribers s.event =
      (b.subscribers s.event).filter (·.id != s.id) := by
  simp only [subscribers, unsubscribe, List.filter_filter]
  refine List.filter_congr fun t _ => ?_
  cases hEvent : t.event == s.event <;>
    cases hId : t.id == s.id <;> simp_all

/- The list of another event stays as it is. -/
theorem subscribers_unsubscribe_of_ne
    {event : String}
    (hOther : event ≠ s.event) :
    (b.unsubscribe s).2.subscribers event =
      b.subscribers event := by
  simp only [subscribers, unsubscribe, List.filter_filter]
  refine List.filter_congr fun t _ => ?_
  cases hEvent : t.event == event with
  | false => rfl
  | true =>
      rw [beq_iff_eq] at hEvent
      have hNot : (t.event == s.event) = false :=
        beq_false_of_ne (hEvent ▸ hOther)
      simp [hNot]

/- What was ended is not live. -/
theorem isLive_unsubscribe :
    (b.unsubscribe s).2.isLive s = false := by
  rw [Bool.eq_false_iff, Ne, isLive_iff,
    subscribers_unsubscribe]
  rintro ⟨t, hMem, hId⟩
  rw [List.mem_filter, bne_iff_ne] at hMem
  exact hMem.2 hId

/- To end what is not live changes nothing. -/
theorem unsubscribe_of_not_isLive
    (hDead : b.isLive s = false) :
    b.unsubscribe s = (false, b) := by
  have hAll :
      ∀ t ∈ b.live,
        (!(t.event == s.event && t.id == s.id)) = true := by
    intro t hMem
    rw [isLive, List.any_eq_false] at hDead
    rw [Bool.not_eq_true', Bool.eq_false_iff]
    exact hDead t hMem
  rw [unsubscribe, hDead, List.filter_eq_self.mpr hAll]

end Bus

/-
  Whether an engine has ended a subscription, and told
  rightly whether it was live.  Of its event's list the first
  entry of its id is removed, the others keep their order; if
  it was ever begun, the entry removed is the subscription
  itself.  Ending it once more finds nothing and changes
  nothing.
-/
structure Engine.Ends
    (begun : List Subscription)
    (s : Subscription)
    (wasLive : Bool)
    (e e' : Engine) : Prop where
  found :
    wasLive ↔ ∃ t ∈ e.bus.subscribers s.event, t.id = s.id
  wasLive : s ∈ begun → (wasLive ↔ s ∈ e.bus.live)
  removed :
    e'.bus.subscribers s.event =
      (e.bus.subscribers s.event).eraseP (·.id == s.id)
  itself :
    s ∈ begun →
      e'.bus.subscribers s.event =
        (e.bus.subscribers s.event).erase s
  others :
    ∀ event ≠ s.event,
      e'.bus.subscribers event = e.bus.subscribers event
  issued : e'.bus.issued = e.bus.issued
  again : unsubscribe s e' = (.ok false, e')

namespace Engine

variable {begun ended : List Subscription}
variable {e : Engine}

/- What was begun is live where something of its id is. -/
theorem mem_live_iff_of_history
    (hBus : Bus.History begun ended e.bus)
    {s : Subscription}
    (hBegun : s ∈ begun) :
    (∃ t ∈ e.bus.subscribers s.event, t.id = s.id) ↔
      s ∈ e.bus.live := by
  constructor
  · rintro ⟨t, hMem, hId⟩
    have hLive := ((Bus.mem_subscribers _ t).mp hMem).1
    have hSame := hBus.eq_of_id_eq
      (hBus.live_and_ended_subset.1 hLive) hBegun hId
    rw [← hSame]
    exact hLive
  · intro hLive
    exact ⟨s, (Bus.mem_subscribers _ s).mpr ⟨hLive, rfl⟩,
      rfl⟩

/- Of a list of what was begun, an id picks one entry. -/
theorem filter_id_eq_erase
    (hBus : Bus.History begun ended e.bus)
    {s : Subscription}
    (hBegun : s ∈ begun)
    (event : String) :
    (e.bus.subscribers event).filter (·.id != s.id) =
      (e.bus.subscribers event).erase s := by
  have hNodup : (e.bus.subscribers event).Nodup :=
    (hBus.pairwise_subscribers event).imp fun hLt hSame =>
      Nat.ne_of_lt hLt (congrArg Subscription.id hSame)
  rw [hNodup.erase_eq_filter]
  refine List.filter_congr fun t hMem => ?_
  have hBefore := hBus.live_and_ended_subset.1
    ((Bus.mem_subscribers _ t).mp hMem).1
  rw [Bool.eq_iff_iff, bne_iff_ne, bne_iff_ne, not_iff_not]
  exact ⟨hBus.eq_of_id_eq hBefore hBegun,
    congrArg Subscription.id⟩

/- Whatever is to be ended, it is removed just once. -/
theorem ends_of_history
    (hBus : Bus.History begun ended e.bus)
    (s : Subscription) :
    ∃ wasLive e',
      unsubscribe s e = (.ok wasLive, e') ∧
        Ends begun s wasLive e e' := by
  refine ⟨e.bus.isLive s,
    { e with bus := (e.bus.unsubscribe s).2 }, rfl,
    Bus.isLive_iff, ?_, ?_, ?_, ?_, rfl, ?_⟩
  · intro hBegun
    exact Bus.isLive_iff.trans
      (mem_live_iff_of_history hBus hBegun)
  · rw [Bus.eraseP_id_eq_filter (Bus.nodup_id_of_pairwise
      (hBus.pairwise_subscribers s.event))]
    exact Bus.subscribers_unsubscribe
  · intro hBegun
    rw [← filter_id_eq_erase hBus hBegun]
    exact Bus.subscribers_unsubscribe
  · intro event hOther
    exact Bus.subscribers_unsubscribe_of_ne hOther
  · have hAgain :=
      Bus.unsubscribe_of_not_isLive
        (Bus.isLive_unsubscribe (b := e.bus) (s := s))
    rw [unsubscribe, hAgain]

end Engine

end EventFlow

------------------------------------------------------------
-- Sessions
------------------------------------------------------------

namespace EventFlow

namespace Session

/-
  Consider a session that was opened, at any point that is
  reached from there, also inside a handler that serves an
  event, and all that was begun and ended on its bus until
  then.  The bus is in order.  A subscription to a blank
  event is refused, and nothing changes; to any other event
  exactly one begins, whose id nothing has had before.
  Whatever is to be ended, the answer is whether it was live,
  and it alone is removed.  At every later point the bus is
  in order after these and what came since, and what was
  ended is not live again.
-/
theorem bus_stays_in_order
    [Surroundings]
    {r : EngineRequest}
    {env : List (String × String)}
    {files : Files}
    {level? : Option Value}
    {opened s : Session}
    (hOpened : start r env files level? = .ok opened)
    (hReached : Reached StepType.IsAny opened s) :
    ∃ e₀ : Engine,
      e₀.IsMade ∧
      (∃ deeds,
        Engine.Chronicle StepType.IsAny e₀ deeds s.engine) ∧
      ∀ deeds,
        Engine.Chronicle StepType.IsAny e₀ deeds s.engine →
          let begun := Deed.allBegun deeds
          let ended := Deed.allEnded deeds
          s.engine.bus.IsInOrder begun ended ∧
          (∀ event listener,
            Text.isBlankText event →
              Engine.subscribe event listener s.engine =
                (.error .eventBlank, s.engine)) ∧
          (∀ event listener,
            ¬ Text.isBlankText event →
              ∃ x e',
                Engine.subscribe event listener s.engine =
                    (.ok x, e') ∧
                  x.event = event ∧
                    x.listener = listener ∧
                      Engine.Begins begun x s.engine e') ∧
          (∀ x,
            ∃ wasLive e',
              Engine.unsubscribe x s.engine =
                  (.ok wasLive, e') ∧
                Engine.Ends begun x wasLive s.engine e') ∧
          ∀ later,
            Reached StepType.IsAny s later →
              ∃ more,
                Engine.Chronicle StepType.IsAny s.engine more
                  later.engine ∧
                later.engine.bus.IsInOrder
                  (begun ++ Deed.allBegun more)
                  (ended ++ Deed.allEnded more) ∧
                ∀ x ∈ begun,
                  x ∉ s.engine.bus.live →
                    x ∉ later.engine.bus.live := by
  rcases start_lives
      (fun _ _ => trivial) hOpened with
    ⟨hOpen, e₀, hMade, hFrom⟩
  have hNew := hMade.bus_eq
  rcases continues_of_reached hReached hOpen with
    ⟨hUntil, hProper⟩
  refine ⟨e₀, hMade, hFrom.trans hUntil, ?_⟩
  intro deeds hChronicle begun ended
  have hBus := Engine.history_of_chronicle hNew hChronicle
  refine ⟨hBus.isInOrder, ?_, ?_, ?_, ?_⟩
  · intro event listener hBlank
    exact Engine.subscribe_of_blank hBlank listener
  · intro event listener hEvent
    exact Engine.begins_of_history hBus hEvent listener
  · intro x
    exact Engine.ends_of_history hBus x
  · intro later hLater
    rcases (continues_of_reached hLater hProper).1 with
      ⟨more, hSince⟩
    have hThen := Engine.history_of_chronicle hNew
      (hChronicle.append hSince)
    rw [Deed.allBegun_append, Deed.allEnded_append] at hThen
    refine ⟨more, hSince, hThen.isInOrder, ?_⟩
    intro x hBegun hDead
    exact hBus.not_mem_live hThen hBegun hDead

/-
  A handler is subscribed that meddles with its own event,
  between two others, and the event comes about twice.
-/
def commotion : List Command := [
  .subscribe "ping" none meddler,
  .subscribe "pong" none echo,
  .subscribe "ping" (some "other") echo,
  .dispatch "ping" (.str "hello") .null false,
  .dispatch "ping" (.str "hello") .null false
]

open scoped Bare in
/-
  Behind the commotion five ids were issued, and the handler
  that was ended from inside an event is not live; ending it
  again finds nothing.
-/
theorem bus_stays_in_order_commotion :
    let stirred := furnished.after 1 commotion
    stirred.engine.bus.issued = 5 ∧
      (stirred.engine.bus.live.map Subscription.id).Nodup ∧
      (stirred.engine.bus.subscribers "ping").map
          Subscription.id = [1, 4, 5] ∧
      ∃ e',
        Engine.unsubscribe ⟨3, "ping", .handler 2⟩
          stirred.engine = (.ok false, e') := by
  intro stirred
  have hOpened : start {} [] [] none = .ok furnished := rfl
  have hProper :
      Command.AreProper StepType.IsAny commotion := by
    simp [commotion, meddler, echo, Command.AreProper,
      Command.IsProper, Handler.IsProper]
  have hReached : Reached StepType.IsAny furnished stirred :=
    .after .here 1 hProper
  have hSeen :
      stirred.engine.bus.issued = 5 ∧
        (stirred.engine.bus.subscribers "ping").map
          Subscription.id = [1, 4, 5] := by
    decide +kernel
  rcases bus_stays_in_order hOpened hReached with
    ⟨e₀, -, ⟨deeds, hChronicle⟩, hOrder⟩
  rcases hOrder deeds hChronicle with
    ⟨hInOrder, -, -, hEnds, -⟩
  refine ⟨hSeen.1, hInOrder.apart, hSeen.2, ?_⟩
  rcases hEnds ⟨3, "ping", .handler 2⟩ with
    ⟨wasLive, e', hUnsubscribe, hEnd⟩
  refine ⟨e', ?_⟩
  cases wasLive with
  | false => exact hUnsubscribe
  | true =>
      rcases hEnd.found.mp rfl with ⟨t, hMem, hId⟩
      have hAmong := List.mem_map_of_mem
        (f := Subscription.id) hMem
      rw [hSeen.2, hId] at hAmong
      simp at hAmong

end Session

end EventFlow
