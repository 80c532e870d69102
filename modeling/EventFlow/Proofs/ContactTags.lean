import EventFlow.Proofs.StoreIndependence
import EventFlow.Proofs.Worth
import EventFlow.Session.Perform

/-
  The tags of contacts are ordered sets.

  Whatever calls a store has seen, no contact has two tags
  that are worth the same.  What an update leaves is told by
  worths alone: the first tag of each worth, in the order in
  which they stand.  A call that fails leaves the store, a
  call for one contact leaves all others, and the logs of a
  contact are those that were added for it.

  Key definitions include:
    * `Value.AreApart`
    * `Value.gathered`
    * `Tags.firsts`
    * `Tags.left`
    * `ContactStore.Call`
    * `ContactStore.after`

  Key theorems include:
    * `Value.areApart_gathered`
    * `Value.distinct_append`
    * `Tags.gathered_eq`
    * `Tags.updated_eq`
    * `ContactStore.Call.keeps_orderly`
    * `ContactStore.orderly_after`
    * `ContactStore.after_updateTags`
    * `Session.perform_updateTags`
-/

------------------------------------------------------------
-- Values Apart
------------------------------------------------------------

namespace EventFlow

namespace Value

/- Whether no value is the same as one before it. -/
def AreApart (vs : List Value) : Prop :=
  vs.Pairwise fun v w => w.sameMember v = false

/-
  Values with others behind them, but for those that are the
  same as one before.
-/
def gathered
    (kept : List Value)
    (vs : List Value) : List Value :=
  vs.foldl
    (fun kept v => if v.isAmong kept then kept else kept ++ [v])
    kept

variable {v w : Value}
variable {kept vs : List Value}

theorem distinct_eq_gathered (vs : List Value) :
    distinct vs = gathered [] vs :=
  rfl

theorem gathered_append (kept vs ws : List Value) :
    gathered kept (vs ++ ws) =
      gathered (gathered kept vs) ws :=
  List.foldl_append

theorem gathered_cons_of_isAmong
    (hAmong : v.isAmong kept = true) :
    gathered kept (v :: vs) = gathered kept vs := by
  unfold gathered
  rw [List.foldl_cons, if_pos hAmong]

theorem gathered_cons_of_not_isAmong
    (hFresh : v.isAmong kept = false) :
    gathered kept (v :: vs) = gathered (kept ++ [v]) vs := by
  unfold gathered
  rw [List.foldl_cons, hFresh, if_neg Bool.false_ne_true]

/- A value is not among those that it is apart from. -/
theorem isAmong_eq_false_iff :
    v.isAmong kept = false ↔
      ∀ w ∈ kept, v.sameMember w = false := by
  unfold isAmong
  rw [List.any_eq_false]
  simp only [Bool.not_eq_true]

/- To be apart with one more value behind. -/
theorem areApart_concat :
    AreApart (kept ++ [v]) ↔
      AreApart kept ∧ v.isAmong kept = false := by
  unfold AreApart
  rw [List.pairwise_append, isAmong_eq_false_iff]
  simp

/- What is gathered is apart, if it was before. -/
theorem areApart_gathered
    (hApart : AreApart kept)
    (vs : List Value) :
    AreApart (gathered kept vs) := by
  induction vs generalizing kept with
  | nil => exact hApart
  | cons v vs ih =>
      by_cases hAmong : v.isAmong kept = true
      · rw [gathered_cons_of_isAmong hAmong]
        exact ih hApart
      · rw [Bool.not_eq_true] at hAmong
        rw [gathered_cons_of_not_isAmong hAmong]
        apply ih
        exact areApart_concat.mpr ⟨hApart, hAmong⟩

/- Nothing is left out of values that are apart. -/
theorem gathered_of_areApart
    (hApart : AreApart (kept ++ vs)) :
    gathered kept vs = kept ++ vs := by
  induction vs generalizing kept with
  | nil => exact (List.append_nil kept).symm
  | cons v vs ih =>
      rw [List.append_cons] at hApart ⊢
      have hFresh : v.isAmong kept = false := by
        have hFirst := (List.pairwise_append.mp hApart).1
        exact (areApart_concat.mp hFirst).2
      rw [gathered_cons_of_not_isAmong hFresh]
      exact ih hApart

/- Values that are apart stand in front of what is gathered. -/
theorem distinct_append
    (hApart : AreApart kept)
    (vs : List Value) :
    distinct (kept ++ vs) = gathered kept vs := by
  have hKept : gathered [] kept = kept :=
    gathered_of_areApart hApart
  rw [distinct_eq_gathered, gathered_append, hKept]

end Value

end EventFlow

------------------------------------------------------------
-- Ordered Sets
------------------------------------------------------------

namespace EventFlow

namespace Tags

/- The first tag of each worth. -/
def firsts : List Value → List Value
| [] => []
| v :: vs =>
    v :: (firsts vs).filter fun w => w.worth ≠ v.worth

/- The tags of which none is worth the same as a given one. -/
def without
    (given : List Value)
    (tags : List Value) : List Value :=
  tags.filter fun tag => tag.worth ∉ given.map Value.worth

/- The tags that an update by a list leaves. -/
def left
    (mode : TagMode)
    (current : List Value)
    (given : List Value) : List Value :=
  match mode with
  | .append => current ++ without current (firsts given)
  | .replace => firsts given
  | .remove => without given current

/-
  The first tag for which an update fails, as it cannot be a
  member of a set.  To remove tags never fails.
-/
def refused?
    (mode : TagMode)
    (given : List Value) : Option Value :=
  match mode with
  | .remove => none
  | _ => given.find? Value.isContainer

/-
  Whether tags form a set: each can be a member, and no two
  are worth the same.
-/
structure AreSet (tags : List Value) : Prop where
  scalar : ∀ tag ∈ tags, tag.isContainer = false
  proper : ∀ tag ∈ tags, tag.IsProper
  nodup : (tags.map Value.worth).Nodup

variable {v : Value}
variable {kept vs given current : List Value}

theorem areSet_nil : AreSet [] :=
  ⟨List.forall_mem_nil _, List.forall_mem_nil _,
    List.nodup_nil⟩

/- Fewer tags form a set, too. -/
theorem AreSet.sublist
    (hSet : AreSet vs)
    (hLess : List.Sublist kept vs) :
    AreSet kept where
  scalar := fun tag hMem =>
    hSet.scalar tag (hLess.subset hMem)
  proper := fun tag hMem =>
    hSet.proper tag (hLess.subset hMem)
  nodup := List.Nodup.sublist (hLess.map Value.worth)
    hSet.nodup

theorem firsts_sublist (vs : List Value) :
    List.Sublist (firsts vs) vs := by
  induction vs with
  | nil => exact .slnil
  | cons v vs ih =>
      rw [firsts]
      apply List.Sublist.cons_cons
      exact List.filter_sublist.trans ih

theorem nodup_firsts (vs : List Value) :
    ((firsts vs).map Value.worth).Nodup := by
  induction vs with
  | nil => exact List.nodup_nil
  | cons v vs ih =>
      rw [firsts, List.map_cons, List.nodup_cons]
      constructor
      · intro hMem
        rcases List.mem_map.mp hMem with ⟨w, hW, hSame⟩
        have hNe := (List.mem_filter.mp hW).2
        exact of_decide_eq_true hNe hSame
      · refine List.Nodup.sublist ?_ ih
        exact List.filter_sublist.map Value.worth

/- First tags form a set, if each can be a member. -/
theorem areSet_firsts
    (hScalar : ∀ v ∈ vs, v.isContainer = false)
    (hProper : ∀ v ∈ vs, v.IsProper) :
    AreSet (firsts vs) where
  scalar := fun v hMem =>
    hScalar v ((firsts_sublist vs).subset hMem)
  proper := fun v hMem =>
    hProper v ((firsts_sublist vs).subset hMem)
  nodup := nodup_firsts vs

/- Two sets without a common worth form one. -/
theorem AreSet.append_without
    (hSet : AreSet kept)
    (hBehind : AreSet vs) :
    AreSet (kept ++ without kept vs) := by
  have hLess : AreSet (without kept vs) :=
    hBehind.sublist List.filter_sublist
  refine ⟨?_, ?_, ?_⟩
  · rw [List.forall_mem_append]
    exact ⟨hSet.scalar, hLess.scalar⟩
  · rw [List.forall_mem_append]
    exact ⟨hSet.proper, hLess.proper⟩
  · rw [List.map_append]
    apply hSet.nodup.append hLess.nodup
    intro worth hKept hNew
    rcases List.mem_map.mp hNew with ⟨v, hV, rfl⟩
    exact of_decide_eq_true (List.mem_filter.mp hV).2 hKept

/- An update that does not fail leaves a set. -/
theorem AreSet.left
    (hSet : AreSet current)
    {mode : TagMode}
    (hMembers : refused? mode given = none)
    (hProper : ∀ tag ∈ given, tag.IsProper) :
    AreSet (left mode current given) := by
  have hFirsts (hNone : given.find? Value.isContainer = none) :
      AreSet (firsts given) := by
    apply areSet_firsts _ hProper
    simpa using hNone
  cases mode with
  | append => exact hSet.append_without (hFirsts hMembers)
  | replace => exact hFirsts hMembers
  | remove => exact hSet.sublist List.filter_sublist

end Tags

end EventFlow

------------------------------------------------------------
-- Updates
------------------------------------------------------------

namespace EventFlow

namespace Tags

variable {v : Value}
variable {kept vs given current : List Value}

/- A tag is among others if it is worth as much as one. -/
theorem isAmong_iff
    (hScalar : v.isContainer = false)
    (hProper : v.IsProper)
    (hKept : ∀ w ∈ kept, w.IsProper) :
    v.isAmong kept = true ↔
      v.worth ∈ kept.map Value.worth := by
  unfold Value.isAmong
  rw [List.any_eq_true, List.mem_map]
  refine exists_congr fun w => and_congr_right fun hMem => ?_
  rw [Value.sameMember_iff hScalar hProper (hKept w hMem),
    eq_comm]

/- The tags of a set are apart. -/
theorem AreSet.areApart
    (hSet : AreSet kept) :
    Value.AreApart kept := by
  have hApart := List.pairwise_map.mp hSet.nodup
  refine hApart.imp_of_mem fun {v w} hV hW hNe => ?_
  rw [← Bool.not_eq_true,
    Value.sameMember_iff (hSet.scalar w hW)
      (hSet.proper w hW) (hSet.proper v hV)]
  exact hNe.symm

/- What is gathered are the first tags that are new. -/
theorem gathered_eq
    (hKept : ∀ w ∈ kept, w.IsProper)
    (hScalar : ∀ v ∈ vs, v.isContainer = false)
    (hProper : ∀ v ∈ vs, v.IsProper) :
    Value.gathered kept vs =
      kept ++ without kept (firsts vs) := by
  induction vs generalizing kept with
  | nil => exact (List.append_nil kept).symm
  | cons v vs ih =>
      rw [List.forall_mem_cons] at hScalar hProper
      have hAmong := isAmong_iff hScalar.1 hProper.1 hKept
      unfold without
      rw [firsts, List.filter_cons, List.filter_filter]
      by_cases hOld : v.worth ∈ kept.map Value.worth
      · rw [Value.gathered_cons_of_isAmong (hAmong.mpr hOld),
          ih hKept hScalar.2 hProper.2,
          if_neg (by simpa using hOld)]
        -- What is new is not worth as much as what is kept.
        congr 1
        refine List.filter_congr fun w hW => ?_
        by_cases hSame : w.worth = v.worth
        · simp [hSame, hOld]
        · simp [hSame]
      · have hFresh : v.isAmong kept = false := by
          rw [← Bool.not_eq_true, hAmong]
          exact hOld
        have hKept' : ∀ w ∈ kept ++ [v], w.IsProper := by
          rw [List.forall_mem_append]
          exact ⟨hKept, List.forall_mem_singleton.mpr
            hProper.1⟩
        rw [Value.gathered_cons_of_not_isAmong hFresh,
          ih hKept' hScalar.2 hProper.2,
          if_pos (by simpa using hOld), List.append_assoc,
          List.singleton_append]
        congr 2
        refine List.filter_congr fun w hW => ?_
        simp [not_or]

/- Tags are members of sets unless one is a container. -/
theorem mapM_key_eq (vs : List Value) :
    vs.mapM Value.key =
      match vs.find? Value.isContainer with
      | some v => .error (.notHashable v.kind)
      | none => .ok vs := by
  induction vs with
  | nil => rfl
  | cons v vs ih =>
      rw [List.mapM_cons, Value.key, List.find?_cons]
      cases v.isContainer with
      | true => rfl
      | false =>
          rw [ih]
          cases vs.find? Value.isContainer <;> rfl

theorem find?_append_of_scalar
    (hScalar : ∀ v ∈ kept, v.isContainer = false)
    (vs : List Value) :
    (kept ++ vs).find? Value.isContainer =
      vs.find? Value.isContainer := by
  have hNone : kept.find? Value.isContainer = none := by
    rw [List.find?_eq_none]
    simpa using hScalar
  rw [List.find?_append, hNone, Option.none_or]

/- To remove by a list is to leave what is not listed. -/
theorem removed_list (given current : List Value) :
    removed (.list given) current =
      .ok (current.filter fun tag => !tag.isAmong given) := by
  induction current with
  | nil => rfl
  | cons tag rest ih =>
      rw [removed, ih, List.filter_cons]
      cases hListed : tag.isAmong given <;>
        simp [listed, hListed, Except.map]

/- From a set this removes what is worth the same. -/
theorem removed_eq
    (hSet : AreSet current)
    (hProper : ∀ tag ∈ given, tag.IsProper) :
    removed (.list given) current =
      .ok (without given current) := by
  rw [removed_list]
  apply congrArg Except.ok
  refine List.filter_congr fun tag hMem => ?_
  have hAmong :=
    isAmong_iff (hSet.scalar tag hMem)
      (hSet.proper tag hMem) hProper
  rw [Bool.eq_iff_iff, Bool.not_eq_true',
    ← Bool.not_eq_true, hAmong, decide_eq_true_eq]

/- What an update of a set by a list does. -/
theorem updated_eq
    (hSet : AreSet current)
    (hProper : ∀ tag ∈ given, tag.IsProper)
    (mode : TagMode) :
    updated mode current (.list given) =
      match refused? mode given with
      | some tag => .error (.notHashable tag.kind)
      | none => .ok (left mode current given) := by
  have hScalar
      (hNone : given.find? Value.isContainer = none) :
      ∀ tag ∈ given, tag.isContainer = false := by
    simpa using hNone
  cases mode with
  | remove => exact removed_eq hSet hProper
  | replace =>
      change members given = _
      unfold members refused?
      rw [mapM_key_eq]
      cases hFound : given.find? Value.isContainer with
      | some tag => rfl
      | none =>
          have hFirsts :=
            gathered_eq (List.forall_mem_nil _)
              (hScalar hFound) hProper
          apply congrArg Except.ok
          rw [Value.distinct_eq_gathered, hFirsts]
          simp [without, left]
  | append =>
      change members (current ++ given) = _
      unfold members refused?
      rw [mapM_key_eq, find?_append_of_scalar hSet.scalar]
      cases hFound : given.find? Value.isContainer with
      | some tag => rfl
      | none =>
          apply congrArg Except.ok
          rw [Value.distinct_append hSet.areApart,
            gathered_eq hSet.proper (hScalar hFound) hProper]
          rfl

end Tags

end EventFlow

------------------------------------------------------------
-- Calls of a Store
------------------------------------------------------------

namespace EventFlow

namespace ContactStore

/- A call of a store, where tags come as a list. -/
inductive Call where
| addLog (contact : Value) (log : ContactLog)
| updateTags
    (contact : Value)
    (given : List Value)
    (mode : Value)

namespace Call

/- Make a call: an update tells the tags that it leaves. -/
def make : Call → Act ContactStore (Option (List Value))
| .addLog contact log =>
    fun s => (.ok none, s.addLog contact log)
| .updateTags contact given mode =>
    fun s =>
      match s.updateTags contact (.list given) mode with
      | .ok (s, tags) => (.ok (some tags), s)
      | .error failure => (.error failure, s)

/- Whether the numbers given are in the form that is kept. -/
def IsProper : Call → Prop
| .addLog _ _ => True
| .updateTags _ given _ => ∀ tag ∈ given, tag.IsProper

/- The log that a call adds to a contact, if it adds one. -/
def logFor? (contact : Value) : Call → Option ContactLog
| .addLog other log =>
    if other.text = contact.text then some log else none
| .updateTags _ _ _ => none

end Call

/- The store after calls, which was empty before them. -/
def after (calls : List Call) : ContactStore :=
  calls.foldl (fun s call => (call.make s).2) {}

/- Whether the tags of every contact form a set. -/
def IsOrderly (s : ContactStore) : Prop :=
  ∀ contact, Tags.AreSet (s.tagsOf contact)

variable {s : ContactStore}
variable {calls : List Call}

theorem after_concat (calls : List Call) (call : Call) :
    after (calls ++ [call]) = (call.make (after calls)).2 :=
  List.foldl_concat _ _ _ _

/- Values of one text name one contact. -/
theorem tagsOf_of_text
    (s : ContactStore)
    {contact other : Value}
    (hSame : other.text = contact.text) :
    s.tagsOf other = s.tagsOf contact := by
  unfold tagsOf
  rw [hSame]

theorem logsOf_of_text
    (s : ContactStore)
    {contact other : Value}
    (hSame : other.text = contact.text) :
    s.logsOf other = s.logsOf contact := by
  unfold logsOf
  rw [hSame]

theorem tagsOf_setTags
    (s : ContactStore)
    (contact other : Value)
    (tags : List Value) :
    (s.setTags contact tags).tagsOf other =
      if other.text = contact.text then
        tags
      else
        s.tagsOf other := by
  unfold tagsOf setTags
  by_cases hSame : other.text = contact.text
  · rw [if_pos hSame, hSame]
    exact congrArg (fun found => found.getD [])
      (Entries.lookup_put_self contact.text tags s.tags)
  · rw [if_neg hSame]
    exact congrArg (fun found => found.getD [])
      (Entries.lookup_put_of_ne hSame tags s.tags)

theorem logsOf_addLog
    (s : ContactStore)
    (contact other : Value)
    (log : ContactLog) :
    (s.addLog contact log).logsOf other =
      if contact.text = other.text then
        s.logsOf other ++ [log]
      else
        s.logsOf other := by
  unfold logsOf addLog
  by_cases hSame : contact.text = other.text
  · rw [if_pos hSame, ← hSame]
    exact congrArg (fun found => found.getD [])
      (Entries.lookup_put_self contact.text _ s.logs)
  · rw [if_neg hSame]
    exact congrArg (fun found => found.getD [])
      (Entries.lookup_put_of_ne (Ne.symm hSame) _ s.logs)

/- What an update of an orderly store does. -/
theorem make_updateTags
    (hOrderly : s.IsOrderly)
    {given : List Value}
    (hProper : ∀ tag ∈ given, tag.IsProper)
    (contact mode : Value) :
    (Call.updateTags contact given mode).make s =
      match TagMode.ofValue? mode with
      | none => (.error (.tagModeUnknown mode), s)
      | some mode =>
          match Tags.refused? mode given with
          | some tag => (.error (.notHashable tag.kind), s)
          | none =>
              (.ok (some
                (Tags.left mode (s.tagsOf contact) given)),
                s.setTags contact
                  (Tags.left mode (s.tagsOf contact)
                    given)) := by
  dsimp only [Call.make, ContactStore.updateTags]
  cases TagMode.ofValue? mode with
  | none => rfl
  | some mode =>
      dsimp only
      rw [Tags.updated_eq (hOrderly contact) hProper]
      cases Tags.refused? mode given <;> rfl

/- An update leaves the tags of all other contacts. -/
theorem Call.tagsOf_make_of_ne
    {contact other : Value}
    (hNe : other.text ≠ contact.text)
    (s : ContactStore)
    (given : List Value)
    (mode : Value) :
    ((Call.updateTags contact given mode).make s).2.tagsOf
      other = s.tagsOf other := by
  dsimp only [Call.make, ContactStore.updateTags]
  cases TagMode.ofValue? mode with
  | none => rfl
  | some mode =>
      dsimp only
      cases Tags.updated mode (s.tagsOf contact)
        (.list given) with
      | error failure => rfl
      | ok tags =>
          dsimp only
          rw [tagsOf_setTags, if_neg hNe]

/-
  An update of an orderly store fails and leaves the store,
  or tells the tags that the contact has afterwards.
-/
theorem tells_updateTags
    (hOrderly : s.IsOrderly)
    {given : List Value}
    (hProper : ∀ tag ∈ given, tag.IsProper)
    (contact mode : Value) :
    let call := Call.updateTags contact given mode
    match TagMode.ofValue? mode with
    | none => call.make s = (.error (.tagModeUnknown mode), s)
    | some mode =>
        match Tags.refused? mode given with
        | some tag =>
            call.make s = (.error (.notHashable tag.kind), s)
        | none =>
            (call.make s).1 =
                .ok (some ((call.make s).2.tagsOf contact)) ∧
              (call.make s).2.tagsOf contact =
                Tags.left mode (s.tagsOf contact) given := by
  intro call
  have hMake : call.make s = _ :=
    make_updateTags hOrderly hProper contact mode
  cases hMode : TagMode.ofValue? mode with
  | none =>
      rw [hMode] at hMake
      exact hMake
  | some m =>
      rw [hMode] at hMake
      dsimp only at hMake ⊢
      cases hRefused : Tags.refused? m given with
      | some tag =>
          rw [hRefused] at hMake
          exact hMake
      | none =>
          rw [hRefused] at hMake
          dsimp only at hMake ⊢
          rw [hMake, tagsOf_setTags, if_pos rfl]
          exact ⟨rfl, rfl⟩

/- Every call keeps the tags of all contacts sets. -/
theorem Call.keeps_orderly
    (hOrderly : s.IsOrderly)
    {call : Call}
    (hProper : call.IsProper) :
    (call.make s).2.IsOrderly := by
  cases call with
  | addLog contact log => exact hOrderly
  | updateTags contact given mode =>
      rw [make_updateTags hOrderly hProper]
      cases TagMode.ofValue? mode with
      | none => exact hOrderly
      | some mode =>
          dsimp only
          cases hRefused : Tags.refused? mode given with
          | some tag => exact hOrderly
          | none =>
              intro other
              dsimp only
              rw [tagsOf_setTags]
              by_cases hSame : other.text = contact.text
              · rw [if_pos hSame]
                exact (hOrderly contact).left hRefused hProper
              · rw [if_neg hSame]
                exact hOrderly other

/- After any calls the tags of all contacts are sets. -/
theorem orderly_after
    (hProper : ∀ call ∈ calls, call.IsProper) :
    (after calls).IsOrderly := by
  induction calls using List.reverseRecOn with
  | nil => exact fun contact => Tags.areSet_nil
  | append_singleton calls call ih =>
      rw [List.forall_mem_append] at hProper
      rw [after_concat]
      apply Call.keeps_orderly (ih hProper.1)
      exact hProper.2 call (List.mem_singleton_self call)

/- A call adds to the logs of a contact what it is for. -/
theorem Call.logsOf_make
    (call : Call)
    (s : ContactStore)
    (contact : Value) :
    (call.make s).2.logsOf contact =
      s.logsOf contact ++ (call.logFor? contact).toList := by
  cases call with
  | addLog other log =>
      change (s.addLog other log).logsOf contact = _
      rw [logsOf_addLog, logFor?]
      split
      · rfl
      · exact (List.append_nil _).symm
  | updateTags other given mode =>
      rw [logFor?, Option.toList_none, List.append_nil]
      dsimp only [Call.make, ContactStore.updateTags]
      cases TagMode.ofValue? mode with
      | none => rfl
      | some mode =>
          dsimp only
          cases Tags.updated mode (s.tagsOf other)
            (.list given) <;> rfl

/- After any calls a contact has the logs added for it. -/
theorem logsOf_after
    (calls : List Call)
    (contact : Value) :
    (after calls).logsOf contact =
      calls.filterMap (Call.logFor? contact) := by
  induction calls using List.reverseRecOn with
  | nil => rfl
  | append_singleton calls call ih =>
      rw [after_concat, Call.logsOf_make, ih,
        List.filterMap_append]
      cases hLog : call.logFor? contact <;> simp [hLog]

/-
  Consider a store that was empty, after any calls, and one
  more update of the tags of a contact by a list.  Before it
  no contact has two tags that are worth the same, each has
  the logs that were added for it, and values of one text
  name one contact.  The update fails if its mode is none,
  or if it is not to remove and a given tag is a list or an
  object, and then it leaves the store.  Otherwise it tells
  the tags that the contact has after it: those that
  `Tags.left` says.  It leaves all logs, and the tags of all
  other contacts.  And to add a log leaves all tags.
-/
theorem after_updateTags
    (hProper : ∀ call ∈ calls, call.IsProper)
    (contact : Value)
    {given : List Value}
    (hGiven : ∀ tag ∈ given, tag.IsProper)
    (mode : Value) :
    let s := after calls
    let call := Call.updateTags contact given mode
    let s' := after (calls ++ [call])
    (∀ other,
      ((s.tagsOf other).map Value.worth).Nodup ∧
        s.logsOf other =
          calls.filterMap (Call.logFor? other)) ∧
    (∀ other,
      other.text = contact.text →
        s.tagsOf other = s.tagsOf contact ∧
          s.logsOf other = s.logsOf contact) ∧
    (match TagMode.ofValue? mode with
      | none =>
          call.make s = (.error (.tagModeUnknown mode), s)
      | some mode =>
          match Tags.refused? mode given with
          | some tag =>
              call.make s =
                (.error (.notHashable tag.kind), s)
          | none =>
              (call.make s).1 =
                  .ok (some (s'.tagsOf contact)) ∧
                s'.tagsOf contact =
                  Tags.left mode (s.tagsOf contact) given) ∧
    (∀ other, s'.logsOf other = s.logsOf other) ∧
    (∀ other,
      other.text ≠ contact.text →
        s'.tagsOf other = s.tagsOf other) ∧
    (∀ log other,
      (after (calls ++ [.addLog contact log])).tagsOf other =
        s.tagsOf other) := by
  intro s call s'
  have hOrderly : s.IsOrderly := orderly_after hProper
  have hAfter : s' = (call.make s).2 := after_concat _ _
  rw [hAfter]
  refine ⟨?_, ?_, ?_, ?_, ?_, ?_⟩
  · intro other
    exact ⟨(hOrderly other).nodup, logsOf_after calls other⟩
  · intro other hSame
    exact ⟨tagsOf_of_text s hSame, logsOf_of_text s hSame⟩
  · exact tells_updateTags hOrderly hGiven contact mode
  · intro other
    rw [Call.logsOf_make]
    exact List.append_nil _
  · intro other hNe
    exact Call.tagsOf_make_of_ne hNe s given mode
  · intro log other
    rw [after_concat]
    rfl

/- Tag the fifth contact with three tags worth the same. -/
def tagFifth : Call :=
  .updateTags (.int 5)
    [.int 1, .float (.finite false (2 ^ 52) (-52)),
      .bool true, .str "new"]
    (.str "replace")

theorem isProper_tagFifth : tagFifth.IsProper := by
  have hOne : Double.IsKept (2 ^ 52) (-52) :=
    ⟨by decide, by decide, by decide, .inl le_rfl⟩
  intro tag hMem
  rcases List.mem_cons.mp hMem with rfl | hMem
  · exact trivial
  · rcases List.mem_cons.mp hMem with rfl | hMem
    · exact hOne
    · simp only [List.mem_cons, List.not_mem_nil, or_false]
        at hMem
      rcases hMem with rfl | rfl <;> exact trivial

/- The contact has one of them, and keeps it in front. -/
theorem after_updateTags_tagFifth :
    (after [tagFifth]).tagsOf (.str "5") =
        [.int 1, .str "new"] ∧
      ((Call.updateTags (.str "5")
        [.str "late", .str "new", .str "late"]
        (.str "append")).make (after [tagFifth])).1 =
          .ok (some [.int 1, .str "new", .str "late"]) := by
  have hProper : ∀ call ∈ [tagFifth], call.IsProper :=
    List.forall_mem_singleton.mpr isProper_tagFifth
  have hGiven :
      ∀ tag ∈ [.str "late", .str "new", .str "late"],
        Value.IsProper tag := by
    simp [Value.IsProper]
  have hUpdate :=
    after_updateTags hProper (.str "5") hGiven
      (.str "append")
  exact ⟨rfl, hUpdate.2.2.1.1⟩

end ContactStore

end EventFlow

------------------------------------------------------------
-- Calls of a Session
------------------------------------------------------------

namespace EventFlow

namespace Session

/-
  A command to update tags makes the call of the store that
  the engine has, if it has one: a session whose command
  fails has changed nothing.
-/
theorem perform_updateTags
    [Surroundings]
    (h : Host Session)
    {s : Session}
    {store : ContactStore}
    (hAccess : s.engine.access = .contacts store)
    (contact : Value)
    (given : List Value)
    (mode : Value) :
    perform h (.updateTags contact (.list given) mode) s =
      match
        (ContactStore.Call.updateTags contact given
          mode).make store with
      | (.ok tags, store) =>
          (.ok (.value (.list (tags.getD []))),
            { s with
              engine :=
                { s.engine with access := .contacts store } })
      | (.error failure, _) => (.error failure, s) := by
  dsimp only [perform, usingAccess, onEngine, Act.on,
    ContactStore.Call.make]
  rw [hAccess, DataAccess.updateTags]
  cases store.updateTags contact (.list given) mode with
  | ok updated => rfl
  | error failure => rfl

end Session

end EventFlow
