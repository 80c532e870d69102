import EventFlow.Proofs.JsonSteps

/-
  Reading is deciding the grammar.

  Whatever the characters are, reading them tells the value
  that they are JSON for, or a fault of the grammar if they
  are JSON for no value.  The exceptions are characters in
  which the reader meets an obstacle: it comes to an integer
  of too many digits, to a bracket within too many others, or
  to half of a surrogate pair alone, before it comes to
  anything else that it cannot read.

  Key definitions include:
    * `Json.Yields`
    * `Json.ReadsWhole`

  Key theorems include:
    * `Json.tells_all`
    * `Json.reads_all`
    * `Json.stops_all`
    * `Json.isJson_unique`
    * `Json.parse_cases`
-/

------------------------------------------------------------
-- What Is Read Is in the Grammar
------------------------------------------------------------

namespace EventFlow

namespace Json

variable {fuel depth : Nat}
variable {cs rest : List Char}

/- A word in front of characters. -/
theorem afterWord?_eq_some_iff
    {word : List Char} :
    afterWord? word cs = some rest ↔ cs = word ++ rest := by
  induction word generalizing cs with
  | nil => simp [afterWord?]
  | cons c word ih =>
      cases cs with
      | nil => simp [afterWord?]
      | cons d cs =>
          rw [afterWord?]
          split
          · rename_i hSame
            simp [hSame, ih]
          · rename_i hOther
            simp [Ne.symm hOther]

/- What is read as a word is one. -/
theorem exists_of_readWord?
    {v : Value}
    (hRead : readWord? cs = some (v, rest)) :
    ∃ word, (word, v) ∈ words ∧ cs = word.toList ++ rest := by
  rcases List.exists_of_findSome?_eq_some hRead with
    ⟨⟨word, w⟩, hMem, hFound⟩
  rcases Option.map_eq_some_iff.mp hFound with
    ⟨more, hMore, hEq⟩
  cases hEq
  exact ⟨word, hMem, afterWord?_eq_some_iff.mp hMore⟩

/- Items in front of a closing bracket, behind others. -/
def StartsItems
    (read : List Value)
    (cs : List Char)
    (vs : List Value)
    (rest : List Char) : Prop :=
  ∃ items behind more,
    cs = items ++ (behind ++ ']' :: rest) ∧
      AreItems items more ∧
        AreGaps behind ∧ vs = read.reverse ++ more

/- Fields in front of a closing bracket, behind others. -/
def StartsFields
    (read : List (String × Value))
    (cs : List Char)
    (fs : List (String × Value))
    (rest : List Char) : Prop :=
  ∃ fields behind more,
    cs = fields ++ (behind ++ '\x7d' :: rest) ∧
      AreFields fields more ∧
        AreGaps behind ∧ fs = read.reverse ++ more

/- What a value tells, if lists and objects tell it. -/
theorem readValue_tells
    (hItems :
      ∀ depth cs,
        Tells (StartsItems [] cs) (ItemsMeet · depth cs)
          (readItems fuel depth [] cs))
    (hFields :
      ∀ depth cs,
        Tells (StartsFields [] cs) (FieldsMeet · depth cs)
          (readFields fuel depth [] cs))
    (depth : Nat)
    (cs : List Char) :
    Tells (StartsValue cs) (Meets · depth cs)
      (readValue (fuel + 1) depth cs) := by
  unfold readValue
  split
  · rename_i more
    refine tells_map (fun cs => Value.str (String.ofList cs))
      ((readText_tells _ more).mono ?_ ?_)
    · rintro found rest ⟨ws, rfl, hText⟩
      exact ⟨'"' :: (ws ++ ['"']), by simp, .text hText⟩
    · rintro o ⟨rfl, hHalved⟩
      exact .text hHalved
  · intro o hStop
    obtain rfl := Option.some_inj.mp hStop
    exact .list _
  · intro o hStop
    obtain rfl := Option.some_inj.mp hStop
    exact .object _
  · rename_i more depth
    rcases skipGap_spec more with ⟨gap, hMore, hGap⟩
    split
    · rename_i rest hClosed
      rw [hClosed] at hMore
      subst hMore
      exact ⟨'[' :: (gap ++ [']']), by simp, .emptyList hGap⟩
    · refine tells_map Value.list
        ((hItems depth _).mono ?_ ?_)
      · rintro vs rest
          ⟨items, behind, found, hBody, hFound, hBehind, rfl⟩
        rw [hBody] at hMore
        subst hMore
        exact ⟨_, by simp, .list hGap hFound hBehind⟩
      · intro o hMeet
        rw [hMore]
        exact .inList hGap hMeet
  · rename_i more depth
    rcases skipGap_spec more with ⟨gap, hMore, hGap⟩
    split
    · rename_i rest hClosed
      rw [hClosed] at hMore
      subst hMore
      exact ⟨_, by simp, .emptyObject hGap⟩
    · refine tells_map (Value.object ∘ Entries.ofPairs)
        ((hFields depth _).mono ?_ ?_)
      · rintro fs rest
          ⟨fields, behind, found, hBody, hFound, hBehind, rfl⟩
        rw [hBody] at hMore
        subst hMore
        exact ⟨_, by simp, .object hGap hFound hBehind⟩
      · intro o hMeet
        rw [hMore]
        exact .inObject hGap hMeet
  · cases hWord : readWord? cs with
    | some found =>
        rcases exists_of_readWord? hWord with
          ⟨word, hMem, rfl⟩
        exact ⟨word.toList, rfl, .word hMem⟩
    | none =>
        refine (readNumber_tells cs).mono ?_ ?_
        · rintro v rest ⟨ws, rfl, hNumber⟩
          exact ⟨ws, rfl, .number hNumber⟩
        · rintro o ⟨rfl, hLong⟩
          exact .integer hLong

/- What items tell, if a value and later items tell it. -/
theorem readItems_tells
    (hValue :
      ∀ depth cs,
        Tells (StartsValue cs) (Meets · depth cs)
          (readValue fuel depth cs))
    (hMore :
      ∀ depth read cs,
        Tells (StartsItems read cs) (ItemsMeet · depth cs)
          (readItems fuel depth read cs))
    (depth : Nat)
    (read : List Value)
    (cs : List Char) :
    Tells (StartsItems read cs) (ItemsMeet · depth cs)
      (readItems (fuel + 1) depth read cs) := by
  rw [readItems_eq]
  refine readMember_tells (hValue depth cs) (fun _ => .here)
    ?_ ?_
  · rintro ws v before rest rfl hIsValue hBefore
    exact ⟨ws, before, [v], rfl, .last hIsValue, hBefore,
      List.reverse_cons⟩
  · rintro ws v before behind rest rfl hIsValue hBefore hBehind
    refine (hMore depth (v :: read) rest).mono ?_ ?_
    · rintro vs more
        ⟨items, last, found, rfl, hFound, hLast, rfl⟩
      refine ⟨_, last, v :: found, by simp,
        .next hIsValue hBefore hBehind hFound, hLast, ?_⟩
      rw [List.reverse_cons, List.append_assoc]
      rfl
    · exact fun _ => .later hIsValue hBefore hBehind

/- Fields start with a key, or there is a fault. -/
theorem readFields_key_or_fault
    (fuel depth : Nat)
    (read : List (String × Value))
    (cs : List Char) :
    (∃ stop,
      readFields (fuel + 1) depth read cs = .error stop ∧
        ∀ o ∈ stop.reason.obstacle?, FieldsMeet o depth cs) ∨
    ∃ ks key more,
      cs = ks ++ more ∧ IsKey ks key ∧
        readFields (fuel + 1) depth read cs =
          readMember '\x7d' fuel depth
            (fun v => (key, v) :: read)
            (readFields fuel depth) more := by
  by_cases hQuote : cs.head? = some '"'
  · cases cs with
    | nil => cases hQuote
    | cons c body =>
        obtain rfl := Option.some_inj.mp hQuote
        have hText :=
          readText_tells ('"' :: body).length body
        cases hRead : readText ('"' :: body).length body with
        | error stop =>
            rw [hRead] at hText
            refine .inl ⟨stop, by rw [readFields, hRead], ?_⟩
            intro o hStop
            obtain ⟨rfl, hHalved⟩ := hText o hStop
            exact .key hHalved
        | ok found =>
            rcases found with ⟨key, after⟩
            rw [hRead] at hText
            rcases hText with ⟨ws, rfl, hIsText⟩
            rcases skipGap_spec after with
              ⟨before, hAfter, hBefore⟩
            by_cases hColon : ∃ rest, skipGap after = ':' :: rest
            · rcases hColon with ⟨rest, hColon⟩
              rcases skipGap_spec rest with
                ⟨behind, hRest, hBehind⟩
              refine .inr ⟨_, String.ofList key, skipGap rest,
                ?_, .mk hIsText hBefore hBehind,
                readFields_colon hRead hColon fuel depth read⟩
              conv => lhs; rw [hAfter, hColon, hRest]
              simp
            · rw [not_exists] at hColon
              refine .inl ⟨_,
                readFields_bare hRead hColon fuel depth read,
                ?_⟩
              rintro o ⟨⟩
  · refine .inl ⟨_,
      readFields_unquoted hQuote fuel depth read, ?_⟩
    rintro o ⟨⟩

/- What fields tell, if a value and later fields tell it. -/
theorem readFields_tells
    (hValue :
      ∀ depth cs,
        Tells (StartsValue cs) (Meets · depth cs)
          (readValue fuel depth cs))
    (hMore :
      ∀ depth read cs,
        Tells (StartsFields read cs) (FieldsMeet · depth cs)
          (readFields fuel depth read cs))
    (depth : Nat)
    (read : List (String × Value))
    (cs : List Char) :
    Tells (StartsFields read cs) (FieldsMeet · depth cs)
      (readFields (fuel + 1) depth read cs) := by
  rcases readFields_key_or_fault fuel depth read cs with
    ⟨stop, hFault, hMeets⟩ | ⟨ks, key, body, rfl, hKey, hRead⟩
  · rw [hFault]
    exact hMeets
  rw [hRead]
  refine readMember_tells (hValue depth body)
    (fun _ => .here hKey) ?_ ?_
  · rintro ws v before rest rfl hIsValue hBefore
    exact ⟨ks ++ ws, before, [(key, v)], by simp,
      .last hKey hIsValue, hBefore, List.reverse_cons⟩
  · rintro ws v before behind rest rfl hIsValue hBefore hBehind
    refine (hMore depth ((key, v) :: read) rest).mono ?_ ?_
    · rintro fs more
        ⟨fields, last, found, rfl, hFound, hLast, rfl⟩
      refine ⟨_, last, (key, v) :: found, by simp,
        .next hKey hIsValue hBefore hBehind hFound, hLast, ?_⟩
      rw [List.reverse_cons, List.append_assoc]
      rfl
    · exact fun _ => .later hKey hIsValue hBefore hBehind

/-
  However many steps the readers may take, they tell what
  is in the grammar in front, or a fault.
-/
theorem tells_all (fuel : Nat) :
    (∀ depth cs,
      Tells (StartsValue cs) (Meets · depth cs)
        (readValue fuel depth cs)) ∧
    (∀ depth read cs,
      Tells (StartsItems read cs) (ItemsMeet · depth cs)
        (readItems fuel depth read cs)) ∧
    (∀ depth read cs,
      Tells (StartsFields read cs) (FieldsMeet · depth cs)
        (readFields fuel depth read cs)) := by
  induction fuel with
  | zero =>
      refine ⟨?_, ?_, ?_⟩
      · exact fun _ _ => tells_fault rfl
      · exact fun _ _ _ => tells_fault rfl
      · exact fun _ _ _ => tells_fault rfl
  | succ fuel ih =>
      rcases ih with ⟨hValue, hItems, hFields⟩
      refine ⟨?_, ?_, ?_⟩
      · exact readValue_tells
          (fun depth => hItems depth [])
          (fun depth => hFields depth [])
      · exact readItems_tells hValue hItems
      · exact readFields_tells hValue hFields

/- A value that is read starts as a value may. -/
theorem isStart_of_readValue
    {v : Value}
    (hRead : readValue fuel depth cs = .ok (v, rest)) :
    IsStart cs := by
  have hTells := (tells_all fuel).1 depth cs
  rw [hRead] at hTells
  rcases hTells with ⟨ws, rfl, hValue⟩
  exact hValue.isStart.append rest

end Json

end EventFlow

------------------------------------------------------------
-- What Is in the Grammar Is Read
------------------------------------------------------------

namespace EventFlow

namespace Json

variable {fuel depth : Nat}
variable {rest : List Char}

/-
  Whether values are read that may take so many steps.
-/
def ReadsValues (fuel : Nat) : Prop :=
  ∀ depth ws v rest,
    IsValue ws v →
      EndsNumber rest →
        2 * ws.length < fuel →
          Yields v rest (readValue fuel depth (ws ++ rest))

/- Whether items are read that may take so many steps. -/
def ReadsItems (fuel : Nat) : Prop :=
  ∀ depth read items vs behind rest,
    AreItems items vs →
      AreGaps behind →
        2 * items.length + 1 < fuel →
          Yields (read.reverse ++ vs) rest
            (readItems fuel depth read
              (items ++ (behind ++ ']' :: rest)))

/- Whether fields are read that may take so many steps. -/
def ReadsFields (fuel : Nat) : Prop :=
  ∀ depth read fields fs behind rest,
    AreFields fields fs →
      AreGaps behind →
        2 * fields.length + 1 < fuel →
          Yields (read.reverse ++ fs) rest
            (readFields fuel depth read
              (fields ++ (behind ++ '\x7d' :: rest)))

/- Values are read if the items and fields in them are. -/
theorem readsValues
    (hItems : ReadsItems fuel)
    (hFields : ReadsFields fuel) :
    ReadsValues (fuel + 1) := by
  intro depth ws v rest hValue hEnds hFuel
  cases hValue with
  | word hWord =>
      exact .inl
        (readValue_of_readWord (readWord_of_mem hWord rest))
  | text hText =>
      left
      rw [List.cons_append, List.append_assoc, readValue,
        List.singleton_append, readText_of_isText hText]
      rfl
  | number hNumber =>
      rcases head_of_isNumber hNumber with
        ⟨isNegative, c, more, hDigit, hEq⟩
      have hSame :
          readValue (fuel + 1) depth (ws ++ rest) =
            readNumber (ws ++ rest) := by
        rw [hEq, List.append_assoc]
        exact readValue_digit hDigit isNegative _
      rw [hSame]
      exact readNumber_of_isNumber hNumber hEnds
  | emptyList hGap =>
      cases depth with
      | zero => exact .inr ⟨_, rfl, rfl⟩
      | succ depth =>
          left
          rw [List.cons_append, List.append_assoc]
          exact readValue_closedList (skipGap_append hGap _)
  | list hBefore hIsItems hBehind =>
      cases depth with
      | zero => exact .inr ⟨_, rfl, rfl⟩
      | succ depth =>
          simp only [List.cons_append, List.append_assoc]
          rw [readValue_items hBefore
            (hIsItems.isStart.append _)]
          refine (hItems _ [] _ _ _ _ hIsItems hBehind ?_).map
            Value.list
          simp only [List.length_cons, List.length_append]
            at hFuel
          omega
  | emptyObject hGap =>
      cases depth with
      | zero => exact .inr ⟨_, rfl, rfl⟩
      | succ depth =>
          left
          rw [List.cons_append, List.append_assoc]
          exact readValue_closedObject (skipGap_append hGap _)
  | object hBefore hIsFields hBehind =>
      cases depth with
      | zero => exact .inr ⟨_, rfl, rfl⟩
      | succ depth =>
          simp only [List.cons_append, List.append_assoc]
          rw [readValue_fields hBefore
            (hIsFields.isStart.append _)]
          refine (hFields _ [] _ _ _ _ hIsFields hBehind ?_).map
            (Value.object ∘ Entries.ofPairs)
          simp only [List.length_cons, List.length_append]
            at hFuel
          omega

/- Items are read if values and later items are. -/
theorem readsItems
    (hValues : ReadsValues fuel)
    (hMore : ReadsItems fuel) :
    ReadsItems (fuel + 1) := by
  intro depth read items vs behind rest hItems hBehind hFuel
  rw [readItems_eq]
  cases hItems with
  | last hValue =>
      rcases hValues depth _ _ (behind ++ ']' :: rest) hValue
          (endsNumber_before hBehind (.inl rfl) rest)
          (by omega) with hRead | hLarge
      · left
        rw [readMember_close hRead hBehind rfl,
          List.reverse_cons]
      · exact .inr (stopsAt_readMember hLarge)
  | @next ws before after items v vs hValue hBefore hAfter
      hItems =>
      simp only [List.length_append, List.length_cons] at hFuel
      simp only [List.append_assoc, List.cons_append]
      rcases hValues depth _ _
          (before ++
            ',' :: (after ++ (items ++ (behind ++ ']' :: rest))))
          hValue (endsNumber_before hBefore (by simp) _)
          (by omega) with hRead | hLarge
      · rw [readMember_comma hRead hBefore hAfter
          (hItems.isStart.append _) (by decide)]
        have hRest := hMore depth (v :: read) items vs behind
          rest hItems hBehind (by omega)
        rwa [List.reverse_cons, List.append_assoc] at hRest
      · exact .inr (stopsAt_readMember hLarge)

/- Fields are read if values and later fields are. -/
theorem readsFields
    (hValues : ReadsValues fuel)
    (hMore : ReadsFields fuel) :
    ReadsFields (fuel + 1) := by
  intro depth read fields fs behind rest hFields hBehind hFuel
  cases hFields with
  | @last ks ws key v hKey hValue =>
      simp only [List.length_append] at hFuel
      rw [List.append_assoc, readFields_of_isKey hKey
        (hValue.isStart.append _)]
      rcases hValues depth _ _ (behind ++ '\x7d' :: rest) hValue
          (endsNumber_before hBehind (by simp) rest)
          (by omega) with hRead | hLarge
      · left
        rw [readMember_close hRead hBehind rfl,
          List.reverse_cons]
      · exact .inr (stopsAt_readMember hLarge)
  | @next ks ws before after fields key v fs hKey hValue
      hBefore hAfter hFields =>
      simp only [List.length_append, List.length_cons] at hFuel
      simp only [List.append_assoc, List.cons_append]
      rw [readFields_of_isKey hKey (hValue.isStart.append _)]
      rcases hValues depth _ _
          (before ++
            ',' ::
              (after ++ (fields ++ (behind ++ '\x7d' :: rest))))
          hValue (endsNumber_before hBefore (by simp) _)
          (by omega) with hRead | hLarge
      · rw [readMember_comma hRead hBefore hAfter
          (hFields.isStart.append _) (by decide)]
        have hRest := hMore depth ((key, v) :: read) fields fs
          behind rest hFields hBehind (by omega)
        rwa [List.reverse_cons, List.append_assoc] at hRest
      · exact .inr (stopsAt_readMember hLarge)

/- What is in the grammar is read, with steps enough. -/
theorem reads_all (fuel : Nat) :
    ReadsValues fuel ∧ ReadsItems fuel ∧ ReadsFields fuel := by
  induction fuel with
  | zero =>
      refine ⟨?_, ?_, ?_⟩
      · exact fun _ _ _ _ _ _ hFuel =>
          absurd hFuel (Nat.not_lt_zero _)
      · exact fun _ _ _ _ _ _ _ _ hFuel =>
          absurd hFuel (Nat.not_lt_zero _)
      · exact fun _ _ _ _ _ _ _ _ hFuel =>
          absurd hFuel (Nat.not_lt_zero _)
  | succ fuel ih =>
      rcases ih with ⟨hValues, hItems, hFields⟩
      exact ⟨readsValues hItems hFields,
        readsItems hValues hItems, readsFields hValues hFields⟩

end Json

end EventFlow

------------------------------------------------------------
-- What Meets an Obstacle Is Not Read
------------------------------------------------------------

namespace EventFlow

namespace Json

variable {fuel depth : Nat}
variable {cs : List Char}

/- An integer starts with a sign or a digit. -/
theorem head_of_startsOverlong
    (hLong : StartsOverlong cs) :
    ∃ isNegative c more,
      isDigit c = true ∧
        cs = signChars isNegative ++ c :: more := by
  rcases hLong with ⟨isNegative, ds, rest, rfl, hLong⟩
  have hWhole := hLong.whole
  cases ds with
  | nil => exact absurd rfl hWhole.filled
  | cons c ds =>
      exact ⟨isNegative, c, ds ++ rest,
        hWhole.digits c List.mem_cons_self, rfl⟩

/- What meets an obstacle starts as a value may. -/
theorem Meets.isStart
    {o : Obstacle}
    (hMeets : Meets o depth cs) :
    IsStart cs := by
  cases hMeets with
  | list => exact ⟨'[', rfl, by decide⟩
  | object => exact ⟨'\x7b', rfl, by decide⟩
  | integer hLong =>
      rcases head_of_startsOverlong hLong with
        ⟨isNegative, c, more, hDigit, rfl⟩
      exact isStart_of_digit hDigit isNegative more
  | text => exact ⟨'"', rfl, by decide⟩
  | inList => exact ⟨'[', rfl, by decide⟩
  | inObject => exact ⟨'\x7b', rfl, by decide⟩

theorem ItemsMeet.isStart
    {o : Obstacle}
    (hMeet : ItemsMeet o depth cs) :
    IsStart cs := by
  cases hMeet with
  | here hValue => exact hValue.isStart
  | later hValue => exact hValue.isStart.append _

theorem FieldsMeet.isStart
    {o : Obstacle}
    (hMeet : FieldsMeet o depth cs) :
    IsStart cs := by
  cases hMeet with
  | key => exact ⟨'"', rfl, by decide⟩
  | here hKey => exact hKey.isStart.append _
  | later hKey => exact hKey.isStart.append _

/-
  Whether a reader stops at an obstacle, or at something too
  large in front of it.
-/
def StopsBefore
    {α : Type}
    (o : Obstacle)
    (r : Reading α) : Prop :=
  ∃ o', (o' = .size ∨ o' = o) ∧ StopsAt o' r

theorem StopsBefore.of_stopsAt
    {α : Type}
    {o : Obstacle}
    {r : Reading α}
    (hStops : StopsAt o r) :
    StopsBefore o r :=
  ⟨o, .inr rfl, hStops⟩

/- Whether no value is read that meets an obstacle. -/
def StopsValues (fuel : Nat) : Prop :=
  ∀ o depth cs,
    Meets o depth cs →
      2 * cs.length < fuel →
        StopsBefore o (readValue fuel depth cs)

/- Whether no items are read that meet an obstacle. -/
def StopsItems (fuel : Nat) : Prop :=
  ∀ o depth read cs,
    ItemsMeet o depth cs →
      2 * cs.length + 1 < fuel →
        StopsBefore o (readItems fuel depth read cs)

/- Whether no fields are read that meet an obstacle. -/
def StopsFields (fuel : Nat) : Prop :=
  ∀ o depth read cs,
    FieldsMeet o depth cs →
      2 * cs.length + 1 < fuel →
        StopsBefore o (readFields fuel depth read cs)

/- What stops the reader in a value stops it there. -/
theorem StopsBefore.map
    {α β : Type}
    {o : Obstacle}
    {r : Reading α}
    (hStops : StopsBefore o r)
    (f : α × List Char → β × List Char) :
    StopsBefore o (r.map f) := by
  rcases hStops with ⟨o', hWhich, hStops⟩
  exact ⟨o', hWhich, hStops.map f⟩

theorem stopsBefore_readMember
    {α : Type}
    {o : Obstacle}
    {closing : Char}
    {found : Value → List α}
    {more : List α → List Char → Reading (List α)}
    (hStops : StopsBefore o (readValue fuel depth cs)) :
    StopsBefore o
      (readMember closing fuel depth found more cs) := by
  rcases hStops with ⟨o', hWhich, hStops⟩
  exact ⟨o', hWhich, stopsAt_readMember hStops⟩

theorem stopsValues
    (hItems : StopsItems fuel)
    (hFields : StopsFields fuel) :
    StopsValues (fuel + 1) := by
  intro o depth cs hMeets hFuel
  cases hMeets with
  | list => exact .of_stopsAt ⟨_, rfl, rfl⟩
  | object => exact .of_stopsAt ⟨_, rfl, rfl⟩
  | integer hLong =>
      rcases head_of_startsOverlong hLong with
        ⟨isNegative, c, more, hDigit, rfl⟩
      rw [readValue_digit hDigit]
      exact .of_stopsAt (stopsAt_readNumber hLong)
  | text hHalved =>
      rcases hHalved with ⟨ws, rest, rfl, hHalved⟩
      refine .of_stopsAt ⟨⟨.unpaired, rest.length⟩, ?_, rfl⟩
      rw [readValue, readText_of_isHalved hHalved]
      rfl
  | inList hGap hMeet =>
      simp only [List.length_cons, List.length_append] at hFuel
      rw [readValue_items hGap hMeet.isStart]
      exact (hItems _ _ _ _ hMeet (by omega)).map _
  | inObject hGap hMeet =>
      simp only [List.length_cons, List.length_append] at hFuel
      rw [readValue_fields hGap hMeet.isStart]
      exact (hFields _ _ _ _ hMeet (by omega)).map _

theorem stopsItems
    (hValues : StopsValues fuel)
    (hMore : StopsItems fuel) :
    StopsItems (fuel + 1) := by
  intro o depth read cs hMeet hFuel
  rw [readItems_eq]
  cases hMeet with
  | here hValue =>
      exact stopsBefore_readMember
        (hValues _ _ _ hValue (by omega))
  | @later _ _ ws before behind cs v hValue hBefore hBehind
      hMeet =>
      simp only [List.length_append, List.length_cons] at hFuel
      rcases (reads_all fuel).1 depth ws v
          (before ++ ',' :: (behind ++ cs)) hValue
          (endsNumber_before hBefore (by simp) _)
          (by omega) with hRead | hLarge
      · rw [readMember_comma hRead hBefore hBehind
          hMeet.isStart (by decide)]
        exact hMore _ _ _ _ hMeet (by omega)
      · exact stopsBefore_readMember ⟨_, .inl rfl, hLarge⟩

theorem stopsFields
    (hValues : StopsValues fuel)
    (hMore : StopsFields fuel) :
    StopsFields (fuel + 1) := by
  intro o depth read cs hMeet hFuel
  cases hMeet with
  | key hHalved =>
      exact .of_stopsAt
        (stopsAt_readFields hHalved fuel depth read)
  | here hKey hValue =>
      simp only [List.length_append] at hFuel
      rw [readFields_of_isKey hKey hValue.isStart]
      exact stopsBefore_readMember
        (hValues _ _ _ hValue (by omega))
  | @later _ _ ks ws before behind cs key v hKey hValue hBefore
      hBehind hMeet =>
      simp only [List.length_append, List.length_cons] at hFuel
      rw [readFields_of_isKey hKey (hValue.isStart.append _)]
      rcases (reads_all fuel).1 depth ws v
          (before ++ ',' :: (behind ++ cs)) hValue
          (endsNumber_before hBefore (by simp) _)
          (by omega) with hRead | hLarge
      · rw [readMember_comma hRead hBefore hBehind
          hMeet.isStart (by decide)]
        exact hMore _ _ _ _ hMeet (by omega)
      · exact stopsBefore_readMember ⟨_, .inl rfl, hLarge⟩

/- What meets an obstacle is not read, with steps enough. -/
theorem stops_all (fuel : Nat) :
    StopsValues fuel ∧ StopsItems fuel ∧ StopsFields fuel := by
  induction fuel with
  | zero =>
      refine ⟨?_, ?_, ?_⟩
      · exact fun _ _ _ _ hFuel =>
          absurd hFuel (Nat.not_lt_zero _)
      · exact fun _ _ _ _ _ hFuel =>
          absurd hFuel (Nat.not_lt_zero _)
      · exact fun _ _ _ _ _ hFuel =>
          absurd hFuel (Nat.not_lt_zero _)
  | succ fuel ih =>
      rcases ih with ⟨hValues, hItems, hFields⟩
      exact ⟨stopsValues hItems hFields,
        stopsItems hValues hItems, stopsFields hValues hFields⟩

end Json

end EventFlow

------------------------------------------------------------
-- Whole Texts
------------------------------------------------------------

namespace EventFlow

namespace Json

variable {fuel depth : Nat}
variable {cs : List Char}
variable {v : Value}

/- The reader stops at an obstacle only if it comes to it. -/
theorem comesTo_of_stopsAt
    {o : Obstacle}
    (hStops : StopsAt o (readValue fuel depth (skipGap cs))) :
    ComesTo o depth cs := by
  rcases hStops with ⟨stop, hStop, hObstacle⟩
  rcases skipGap_spec cs with ⟨gap, hChars, hGap⟩
  have hTells := (tells_all fuel).1 depth (skipGap cs)
  rw [hStop] at hTells
  exact ⟨gap, skipGap cs, hChars, hGap,
    hTells o hObstacle⟩

/- If the reader comes to an obstacle, then it stops. -/
theorem stopsBefore_of_comesTo
    {o : Obstacle}
    (hFuel : 2 * cs.length < fuel)
    (hComes : ComesTo o depth cs) :
    StopsBefore o (readValue fuel depth (skipGap cs)) := by
  rcases hComes with ⟨before, rest, rfl, hBefore, hMeets⟩
  rw [List.length_append] at hFuel
  rw [skipGap_append hBefore, hMeets.isStart.skipGap]
  exact (stops_all fuel).1 _ _ _ hMeets (by omega)

/- What is too large is what the reader stops at as such. -/
theorem isTooLarge_iff
    (hFuel : 2 * cs.length < fuel) :
    IsTooLarge depth cs ↔
      StopsAt .size (readValue fuel depth (skipGap cs)) := by
  refine ⟨fun hLarge => ?_, comesTo_of_stopsAt⟩
  rcases stopsBefore_of_comesTo hFuel hLarge with
    ⟨o, rfl | rfl, hStops⟩
  · exact hStops
  · exact hStops

/- Whether a value is read with nothing behind it. -/
def ReadsWhole
    (fuel depth : Nat)
    (cs : List Char)
    (v : Value) : Prop :=
  ∃ rest,
    readValue fuel depth (skipGap cs) = .ok (v, rest) ∧
      skipGap rest = []

/- What is read with nothing behind it is JSON. -/
theorem isJson_of_readsWhole
    (hReads : ReadsWhole fuel depth cs v) :
    IsJson cs v := by
  rcases hReads with ⟨rest, hRead, hEnd⟩
  rcases skipGap_spec cs with ⟨before, hChars, hBefore⟩
  rcases skipGap_spec rest with ⟨behind, hRest, hBehind⟩
  have hTells := (tells_all fuel).1 depth (skipGap cs)
  rw [hRead] at hTells
  rcases hTells with ⟨ws, hSplit, hValue⟩
  rw [hEnd, List.append_nil] at hRest
  subst hRest
  exact ⟨before, ws, rest, hSplit ▸ hChars, hBefore, hValue,
    hBehind⟩

/- JSON is read with nothing behind it, or is too large. -/
theorem readsWhole_of_isJson
    (hFuel : 2 * cs.length < fuel)
    (hJson : IsJson cs v)
    (hSmall : ¬ IsTooLarge depth cs) :
    ReadsWhole fuel depth cs v := by
  rw [isTooLarge_iff hFuel] at hSmall
  rcases hJson with
    ⟨before, ws, behind, rfl, hBefore, hValue, hBehind⟩
  have hEnds : EndsNumber behind := by
    refine endsNumber_of_head fun c hHead => .inl ?_
    exact hBehind c (List.mem_of_mem_head? hHead)
  have hSkip :
      skipGap (before ++ (ws ++ behind)) = ws ++ behind := by
    rw [skipGap_append hBefore,
      (hValue.isStart.append _).skipGap]
  have hNothing : skipGap behind = [] := by
    have hEnd := skipGap_append hBehind []
    rwa [List.append_nil] at hEnd
  simp only [List.length_append] at hFuel
  rw [hSkip] at hSmall
  rcases (reads_all fuel).1 depth ws v behind hValue hEnds
      (by omega) with hRead | hLarge
  · exact ⟨behind, by rw [hSkip, hRead], hNothing⟩
  · exact absurd hLarge hSmall

/- A value with anything behind it is not the whole. -/
theorem readAll_of_ok
    {rest : List Char}
    (hRead :
      readValue (2 * cs.length + 2) depth (skipGap cs) =
        .ok (v, rest)) :
    readAll depth cs =
      if skipGap rest = [] then
        .ok v
      else
        .error ⟨.extraData, (skipGap rest).length⟩ := by
  rw [readAll, hRead]
  dsimp only [bind, Except.bind]
  cases skipGap rest with
  | nil => exact (if_pos rfl).symm
  | cons c more => exact (if_neg (List.cons_ne_nil c more)).symm

/- A value that is not read is no whole. -/
theorem readAll_of_error
    {stop : Stop}
    (hRead :
      readValue (2 * cs.length + 2) depth (skipGap cs) =
        .error stop) :
    readAll depth cs = .error stop := by
  rw [readAll, hRead]
  rfl

/- A value is read only if the reader comes to no obstacle. -/
theorem not_comesTo_of_ok
    {read : Value × List Char}
    (hFuel : 2 * cs.length < fuel)
    (hRead : readValue fuel depth (skipGap cs) = .ok read)
    (o : Obstacle) :
    ¬ ComesTo o depth cs := by
  intro hComes
  rcases stopsBefore_of_comesTo hFuel hComes with
    ⟨o', -, stop, hStop, -⟩
  rw [hRead] at hStop
  cases hStop

/- The same if the grammar is what it stops at. -/
theorem not_comesTo_of_fault
    {stop : Stop}
    (hFuel : 2 * cs.length < fuel)
    (hRead : readValue fuel depth (skipGap cs) = .error stop)
    (hKind : stop.reason.obstacle? = none)
    (o : Obstacle) :
    ¬ ComesTo o depth cs := by
  intro hComes
  rcases stopsBefore_of_comesTo hFuel hComes with
    ⟨o', -, other, hStop, hOther⟩
  rw [hRead] at hStop
  cases hStop
  rw [hKind] at hOther
  cases hOther

/- The three ways in which all characters are read. -/
theorem readAll_cases
    (depth : Nat)
    (cs : List Char) :
    (∃ v,
      readAll depth cs = .ok v ∧
        IsJson cs v ∧ ∀ o, ¬ ComesTo o depth cs) ∨
    (∃ stop o,
      readAll depth cs = .error stop ∧
        stop.reason.obstacle? = some o ∧
          ComesTo o depth cs ∧
            (IsTooLarge depth cs → o = .size)) ∨
    (∃ stop,
      readAll depth cs = .error stop ∧
        stop.reason.obstacle? = none ∧
          (∀ v, ¬ IsJson cs v) ∧
            ∀ o, ¬ ComesTo o depth cs) := by
  have hFuel : 2 * cs.length < 2 * cs.length + 2 := by omega
  cases hRead :
      readValue (2 * cs.length + 2) depth (skipGap cs) with
  | error stop =>
      have hAll := readAll_of_error hRead
      cases hStop : stop.reason.obstacle? with
      | some o =>
          refine .inr (.inl ⟨stop, o, hAll, hStop,
            comesTo_of_stopsAt ⟨stop, hRead, hStop⟩, ?_⟩)
          intro hLarge
          rcases (isTooLarge_iff hFuel).mp hLarge with
            ⟨other, hEq, hSize⟩
          rw [hRead] at hEq
          cases hEq
          exact Option.some_inj.mp (hStop.symm.trans hSize)
      | none =>
          have hNone := not_comesTo_of_fault hFuel hRead hStop
          refine .inr (.inr
            ⟨stop, hAll, hStop, fun v hJson => ?_, hNone⟩)
          rcases readsWhole_of_isJson hFuel hJson
              (hNone .size) with ⟨rest, hEq, -⟩
          rw [hRead] at hEq
          cases hEq
  | ok found =>
      rcases found with ⟨v, rest⟩
      have hAll := readAll_of_ok hRead
      have hNone := not_comesTo_of_ok hFuel hRead
      by_cases hEnd : skipGap rest = []
      · rw [if_pos hEnd] at hAll
        exact .inl ⟨v, hAll,
          isJson_of_readsWhole ⟨rest, hRead, hEnd⟩, hNone⟩
      · rw [if_neg hEnd] at hAll
        refine .inr (.inr
          ⟨_, hAll, rfl, fun w hJson => ?_, hNone⟩)
        rcases readsWhole_of_isJson hFuel hJson
            (hNone .size) with ⟨more, hEq, hNothing⟩
        rw [hRead] at hEq
        cases hEq
        exact hEnd hNothing

/- JSON that is not too large stands for one value. -/
theorem isJson_unique
    {w : Value}
    (hSmall : ¬ IsTooLarge depth cs)
    (hJson : IsJson cs v)
    (hOther : IsJson cs w) :
    v = w := by
  have hFuel : 2 * cs.length < 2 * cs.length + 2 := by omega
  rcases readsWhole_of_isJson hFuel hJson hSmall with
    ⟨rest, hRead, -⟩
  rcases readsWhole_of_isJson hFuel hOther hSmall with
    ⟨more, hElse, -⟩
  rw [hRead] at hElse
  cases hElse
  rfl

/- A byte order mark is no part of what is read. -/
theorem head_ne_byteOrderMark
    {before rest : List Char}
    (hBefore : AreGaps before)
    (hStart : IsStart rest) :
    (before ++ rest).head? ≠ some Text.byteOrderMark := by
  intro hHead
  cases before with
  | nil =>
      rcases hStart with ⟨c, hFirst, -, -, -, hOther⟩
      rw [List.nil_append, Option.mem_def.mp hFirst] at hHead
      exact hOther (Option.some_inj.mp hHead)
  | cons c before =>
      obtain rfl := Option.some_inj.mp hHead
      cases hBefore _ List.mem_cons_self

/- The three ways in which a text is read. -/
theorem parse_cases
    (depth : Nat)
    (s : String) :
    (∃ v,
      parse depth s = .ok v ∧
        IsJson s.toList v ∧
          ∀ o, ¬ ComesTo o depth s.toList) ∨
    (∃ fault o,
      parse depth s = .error fault ∧
        fault.reason.obstacle? = some o ∧
          ComesTo o depth s.toList ∧
            (IsTooLarge depth s.toList → o = .size)) ∨
    (∃ fault,
      parse depth s = .error fault ∧
        fault.reason.obstacle? = none ∧
          (∀ v, ¬ IsJson s.toList v) ∧
            ∀ o, ¬ ComesTo o depth s.toList) := by
  by_cases hMark : s.toList.head? = some Text.byteOrderMark
  · refine .inr (.inr ⟨_, if_pos hMark, rfl, ?_, ?_⟩)
    · rintro v
        ⟨before, ws, behind, hChars, hBefore, hValue, -⟩
      rw [hChars] at hMark
      exact head_ne_byteOrderMark hBefore
        (hValue.isStart.append behind) hMark
    · rintro o ⟨before, rest, hChars, hBefore, hMeets⟩
      rw [hChars] at hMark
      exact head_ne_byteOrderMark hBefore hMeets.isStart
        hMark
  · have hParse :
        parse depth s = parseWithin depth s.toList :=
      if_neg hMark
    rw [hParse, parseWithin]
    rcases readAll_cases depth s.toList with
      ⟨v, hRead, hWhat⟩ | ⟨stop, o, hRead, hKind, hWhat⟩ |
        ⟨stop, hRead, hKind, hWhat⟩
    · rw [hRead]
      exact .inl ⟨v, rfl, hWhat⟩
    · rw [hRead]
      exact .inr (.inl ⟨_, o, rfl, hKind, hWhat⟩)
    · rw [hRead]
      exact .inr (.inr ⟨_, rfl, hKind, hWhat⟩)

end Json

end EventFlow
