import EventFlow.Proofs.JsonGrammar

/-
  How values are read, step by step.

  What cannot be read for its size or for half of a
  surrogate pair is told apart from the grammar: the reader
  comes to an integer of too many digits, to a bracket within
  too many others, or to half of a surrogate pair alone,
  before it comes to anything else that it cannot read.

  The reader looks at the first character of a value.  Items
  of a list and fields of an object are both read as members
  with something behind them, a comma or the closing bracket,
  so that what holds for members is said once.

  Key definitions include:
    * `Json.Meets`
    * `Json.IsTooLarge` and `Json.IsUnpaired`
    * `Json.readMember`

  Key theorems include:
    * `Json.readItems_eq`
    * `Json.readFields_of_isKey`
    * `Json.readMember_tells`
    * `Json.readValue_scalar`
    * `Json.readValue_items` and `Json.readValue_fields`
-/

------------------------------------------------------------
-- What Cannot Be Read
------------------------------------------------------------

namespace EventFlow

namespace Json

mutual

/-
  Whether a value in front meets an obstacle within a depth:
  it is deeper, or comes to an integer of too many digits, or
  to half of a surrogate pair in a text, behind nothing but
  values.
-/
inductive Meets : Obstacle → Nat → List Char → Prop where
| list
    (rest : List Char) :
    Meets .size 0 ('[' :: rest)
| object
    (rest : List Char) :
    Meets .size 0 ('\x7b' :: rest)
| integer
    {depth : Nat}
    {cs : List Char}
    (hLong : StartsOverlong cs) :
    Meets .size depth cs
| text
    {depth : Nat}
    {cs : List Char}
    (hHalved : StartsHalved cs) :
    Meets .pairing depth ('"' :: cs)
| inList
    {o : Obstacle}
    {depth : Nat}
    {gap cs : List Char}
    (hGap : AreGaps gap)
    (hItems : ItemsMeet o depth cs) :
    Meets o (depth + 1) ('[' :: (gap ++ cs))
| inObject
    {o : Obstacle}
    {depth : Nat}
    {gap cs : List Char}
    (hGap : AreGaps gap)
    (hFields : FieldsMeet o depth cs) :
    Meets o (depth + 1) ('\x7b' :: (gap ++ cs))

/- Whether an item in front, or a later one, meets it. -/
inductive ItemsMeet : Obstacle → Nat → List Char → Prop where
| here
    {o : Obstacle}
    {depth : Nat}
    {cs : List Char}
    (hValue : Meets o depth cs) :
    ItemsMeet o depth cs
| later
    {o : Obstacle}
    {depth : Nat}
    {ws before behind cs : List Char}
    {v : Value}
    (hValue : IsValue ws v)
    (hBefore : AreGaps before)
    (hBehind : AreGaps behind)
    (hMore : ItemsMeet o depth cs) :
    ItemsMeet o depth
      (ws ++ (before ++ ',' :: (behind ++ cs)))

/-
  Whether a field in front, or a later one, meets it, in the
  key or in the value.
-/
inductive FieldsMeet : Obstacle → Nat → List Char → Prop where
| key
    {depth : Nat}
    {cs : List Char}
    (hHalved : StartsHalved cs) :
    FieldsMeet .pairing depth ('"' :: cs)
| here
    {o : Obstacle}
    {depth : Nat}
    {ks cs : List Char}
    {key : String}
    (hKey : IsKey ks key)
    (hValue : Meets o depth cs) :
    FieldsMeet o depth (ks ++ cs)
| later
    {o : Obstacle}
    {depth : Nat}
    {ks ws before behind cs : List Char}
    {key : String}
    {v : Value}
    (hKey : IsKey ks key)
    (hValue : IsValue ws v)
    (hBefore : AreGaps before)
    (hBehind : AreGaps behind)
    (hMore : FieldsMeet o depth cs) :
    FieldsMeet o depth
      (ks ++ (ws ++ (before ++ ',' :: (behind ++ cs))))

end

/- Whether an obstacle is met before anything else. -/
def ComesTo
    (o : Obstacle)
    (depth : Nat)
    (cs : List Char) : Prop :=
  ∃ before rest,
    cs = before ++ rest ∧
      AreGaps before ∧ Meets o depth rest

/- Whether characters are too large to be read as JSON. -/
def IsTooLarge (depth : Nat) (cs : List Char) : Prop :=
  ComesTo .size depth cs

/- Whether characters have half of a surrogate pair alone. -/
def IsUnpaired (depth : Nat) (cs : List Char) : Prop :=
  ComesTo .pairing depth cs

end Json

end EventFlow

------------------------------------------------------------
-- Members
------------------------------------------------------------

namespace EventFlow

namespace Json

variable {α : Type}
variable {closing : Char}
variable {fuel depth : Nat}
variable {found : Value → List α}
variable {more : List α → List Char → Reading (List α)}
variable {cs gap rest : List Char}
variable {v : Value}

/- White space in front is taken. -/
theorem skipGap_spec (cs : List Char) :
    ∃ gap, cs = gap ++ skipGap cs ∧ AreGaps gap := by
  refine ⟨cs.takeWhile isGap, ?_, ?_⟩
  · exact List.takeWhile_append_dropWhile.symm
  · intro c hMem
    exact List.mem_takeWhile_imp hMem

/- A value in front of characters. -/
def StartsValue
    (cs : List Char)
    (v : Value)
    (rest : List Char) : Prop :=
  ∃ ws, cs = ws ++ rest ∧ IsValue ws v

/-
  How a member of a list or of an object is read, and then
  whatever is behind it.  What was found is kept in reverse.
-/
def readMember
    (closing : Char)
    (fuel depth : Nat)
    (found : Value → List α)
    (more : List α → List Char → Reading (List α))
    (cs : List Char) : Reading (List α) :=
  match readValue fuel depth cs with
  | .error stop => .error stop
  | .ok (v, rest) =>
      match skipGap rest with
      | [] => stopAt .comma []
      | c :: rest =>
          if c = closing then
            .ok ((found v).reverse, rest)
          else if c = ',' then
            more (found v) (skipGap rest)
          else
            stopAt .comma (c :: rest)

/- An item is read as a member. -/
theorem readItems_eq
    (fuel depth : Nat)
    (read : List Value)
    (cs : List Char) :
    readItems (fuel + 1) depth read cs =
      readMember ']' fuel depth (· :: read)
        (readItems fuel depth) cs := by
  rw [readItems, readMember]
  cases readValue fuel depth cs with
  | error stop => rfl
  | ok found =>
      rcases found with ⟨v, rest⟩
      dsimp only
      split
      · rename_i hClosed
        rw [hClosed]
        rfl
      · rename_i hComma
        rw [hComma]
        rfl
      · rename_i hClosed hComma
        cases hSkip : skipGap rest with
        | nil => rfl
        | cons c rest =>
            dsimp only
            rw [if_neg, if_neg]
            · rintro rfl
              exact hComma _ hSkip
            · rintro rfl
              exact hClosed _ hSkip

/- A field is read as a member behind its colon. -/
theorem readFields_colon
    {key body after : List Char}
    (hText :
      readText ('"' :: body).length body = .ok (key, after))
    (hColon : skipGap after = ':' :: rest)
    (fuel depth : Nat)
    (read : List (String × Value)) :
    readFields (fuel + 1) depth read ('"' :: body) =
      readMember '\x7d' fuel depth
        (fun v => (String.ofList key, v) :: read)
        (readFields fuel depth) (skipGap rest) := by
  rw [readFields, hText]
  dsimp only
  rw [hColon]
  split
  next hHere =>
      cases hHere
      rw [readMember]
      cases readValue fuel depth (skipGap rest) with
      | error stop => rfl
      | ok found =>
          rcases found with ⟨v, rest⟩
          dsimp only
          split
          · rename_i hClosed
            rw [hClosed]
            rfl
          · rename_i hComma
            rw [hComma]
            rfl
          · rename_i hClosed hComma
            cases hSkip : skipGap rest with
            | nil => rfl
            | cons c rest =>
                dsimp only
                rw [if_neg, if_neg]
                · rintro rfl
                  exact hComma _ hSkip
                · rintro rfl
                  exact hClosed _ hSkip
  next hOther => exact absurd rfl (hOther _)

/- Without a colon behind the key there is no field. -/
theorem readFields_bare
    {key body after : List Char}
    (hText :
      readText ('"' :: body).length body = .ok (key, after))
    (hNone : ∀ rest, skipGap after ≠ ':' :: rest)
    (fuel depth : Nat)
    (read : List (String × Value)) :
    readFields (fuel + 1) depth read ('"' :: body) =
      stopAt .colon (skipGap after) := by
  rw [readFields, hText]
  dsimp only
  split
  · exact absurd ‹_› (hNone _)
  · rfl

/- Without a quote there is no key. -/
theorem readFields_unquoted
    (hNone : cs.head? ≠ some '"')
    (fuel depth : Nat)
    (read : List (String × Value)) :
    readFields (fuel + 1) depth read cs =
      stopAt .name cs := by
  unfold readFields
  split
  · exact absurd rfl hNone
  · rfl

/- An obstacle in a member is one of the members. -/
theorem stopsAt_readMember
    {o : Obstacle}
    (hValue : StopsAt o (readValue fuel depth cs)) :
    StopsAt o
      (readMember closing fuel depth found more cs) := by
  rcases hValue with ⟨stop, hStop, hObstacle⟩
  rw [readMember, hStop]
  exact ⟨stop, rfl, hObstacle⟩

/- A bracket behind a member ends the members. -/
theorem readMember_close
    (hRead :
      readValue fuel depth cs =
        .ok (v, gap ++ closing :: rest))
    (hGap : AreGaps gap)
    (hClosing : isGap closing = false) :
    readMember closing fuel depth found more cs =
      .ok ((found v).reverse, rest) := by
  rw [readMember, hRead]
  dsimp only
  rw [skipGap_append hGap, skipGap_cons hClosing]
  exact if_pos rfl

/- A comma behind a member leads to the next. -/
theorem readMember_comma
    {before behind next : List Char}
    (hRead :
      readValue fuel depth cs =
        .ok (v, before ++ ',' :: (behind ++ next)))
    (hBefore : AreGaps before)
    (hBehind : AreGaps behind)
    (hStart : IsStart next)
    (hClosing : closing ≠ ',') :
    readMember closing fuel depth found more cs =
      more (found v) next := by
  rw [readMember, hRead]
  dsimp only
  rw [skipGap_append hBefore, skipGap_cons rfl]
  dsimp only
  rw [if_neg (Ne.symm hClosing), if_pos rfl,
    skipGap_append hBehind, hStart.skipGap]

/- What a member tells, if what is in it and behind it does. -/
theorem readMember_tells
    {isFound : List α → List Char → Prop}
    {isMet : Obstacle → Prop}
    (hValue :
      Tells (StartsValue cs) (Meets · depth cs)
        (readValue fuel depth cs))
    (hMeets : ∀ o, Meets o depth cs → isMet o)
    (hClosed :
      ∀ ws v before rest,
        cs = ws ++ (before ++ closing :: rest) →
          IsValue ws v →
            AreGaps before →
              isFound (found v).reverse rest)
    (hMore :
      ∀ ws v before behind rest,
        cs = ws ++ (before ++ ',' :: (behind ++ rest)) →
          IsValue ws v →
            AreGaps before →
              AreGaps behind →
                Tells isFound isMet
                  (more (found v) rest)) :
    Tells isFound isMet
      (readMember closing fuel depth found more cs) := by
  rw [readMember]
  cases hRead : readValue fuel depth cs with
  | error stop =>
      rw [hRead] at hValue
      exact fun o hStop => hMeets o (hValue o hStop)
  | ok read =>
      rcases read with ⟨v, after⟩
      rw [hRead] at hValue
      rcases hValue with ⟨ws, rfl, hIsValue⟩
      rcases skipGap_spec after with ⟨before, hAfter, hBefore⟩
      dsimp only
      cases hSkip : skipGap after with
      | nil => exact tells_fault rfl
      | cons c rest =>
          rw [hSkip] at hAfter
          subst hAfter
          dsimp only
          split
          · subst c
            exact hClosed ws v before rest rfl hIsValue hBefore
          split
          · subst c
            rcases skipGap_spec rest with
              ⟨behind, hRest, hBehind⟩
            refine hMore ws v before behind _ ?_ hIsValue
              hBefore hBehind
            rw [← hRest]
          · exact tells_fault rfl

end Json

end EventFlow

------------------------------------------------------------
-- One Step of the Reader
------------------------------------------------------------

namespace EventFlow

namespace Json

variable {α β : Type}
variable {fuel depth : Nat}
variable {cs gap rest : List Char}
variable {r : Reading α}

/-
  Whether a reader yields a result and what is left, unless
  it comes to something too large.
-/
def Yields
    (x : α)
    (rest : List Char)
    (r : Reading α) : Prop :=
  r = .ok (x, rest) ∨ StopsAt .size r

theorem StopsAt.map
    {o : Obstacle}
    (hStops : StopsAt o r)
    (f : α × List Char → β × List Char) :
    StopsAt o (r.map f) := by
  rcases hStops with ⟨stop, rfl, hObstacle⟩
  exact ⟨stop, rfl, hObstacle⟩

theorem Yields.map
    {x : α}
    (hYields : Yields x rest r)
    (f : α → β) :
    Yields (f x) rest
      (r.map fun (x, rest) => (f x, rest)) := by
  rcases hYields with rfl | hStops
  · exact .inl rfl
  · exact .inr (hStops.map _)

/- A number is no word. -/
theorem readWord_of_number
    {c : Char}
    (hDigit : isDigit c = true)
    (isNegative : Bool)
    (more : List Char) :
    readWord? (signChars isNegative ++ c :: more) = none := by
  have hOther (d : Char) (hLetter : isDigit d = false) :
      ¬ d = c := by
    rintro rfl
    rw [hDigit] at hLetter
    cases hLetter
  cases isNegative with
  | true =>
      simp [signChars, readWord?, words, afterWord?,
        hOther 'I' rfl]
  | false =>
      simp [signChars, readWord?, words, afterWord?,
        hOther 'n' rfl, hOther 't' rfl, hOther 'f' rfl,
        hOther 'N' rfl, hOther 'I' rfl, hOther '-' rfl]

/- What is no text, list or object is a word or a number. -/
theorem readValue_scalar
    (hHead :
      ∀ c ∈ cs.head?, c ≠ '"' ∧ c ≠ '[' ∧ c ≠ '\x7b') :
    readValue (fuel + 1) depth cs =
      match readWord? cs with
      | some found => .ok found
      | none => readNumber cs := by
  have hQuote (more : List Char) : ¬ cs = '"' :: more := by
    rintro rfl
    exact (hHead '"' rfl).1 rfl
  have hList (more : List Char) : ¬ cs = '[' :: more := by
    rintro rfl
    exact (hHead '[' rfl).2.1 rfl
  have hObject (more : List Char) :
      ¬ cs = '\x7b' :: more := by
    rintro rfl
    exact (hHead '\x7b' rfl).2.2 rfl
  -- Both sides may share one compiled match or have two.
  rewrite [readValue]
  · rfl
  · exact hQuote
  · exact fun more hEq _ => hList more hEq
  · exact fun more hEq _ => hObject more hEq
  · exact fun more _ hEq _ => hList more hEq
  · exact fun more _ hEq _ => hObject more hEq

/- A word in front is read. -/
theorem readWord_of_mem
    {word : String}
    {v : Value}
    (hWord : (word, v) ∈ words)
    (rest : List Char) :
    readWord? (word.toList ++ rest) = some (v, rest) := by
  simp only [words, List.mem_cons, Prod.mk.injEq,
    List.not_mem_nil, or_false] at hWord
  rcases hWord with ⟨rfl, rfl⟩ | ⟨rfl, rfl⟩ | ⟨rfl, rfl⟩ |
    ⟨rfl, rfl⟩ | ⟨rfl, rfl⟩ | ⟨rfl, rfl⟩
  all_goals rfl

/- What is read as a word is read as a value. -/
theorem readValue_of_readWord
    {found : Value × List Char}
    (hRead : readWord? cs = some found) :
    readValue (fuel + 1) depth cs = .ok found := by
  have hHead :
      ∀ c ∈ cs.head?, c ≠ '"' ∧ c ≠ '[' ∧ c ≠ '\x7b' := by
    intro c hMem
    cases cs with
    | nil => cases hMem
    | cons d cs =>
        obtain rfl := Option.some_inj.mp hMem
        refine ⟨?_, ?_, ?_⟩
        all_goals
          rintro rfl
          cases hRead
  rw [readValue_scalar hHead, hRead]

/- What starts like a number is read as one. -/
theorem readValue_digit
    {c : Char}
    (hDigit : isDigit c = true)
    (isNegative : Bool)
    (more : List Char) :
    readValue (fuel + 1) depth
        (signChars isNegative ++ c :: more) =
      readNumber (signChars isNegative ++ c :: more) := by
  have hHead :
      ∀ d ∈ (signChars isNegative ++ c :: more).head?,
        d ≠ '"' ∧ d ≠ '[' ∧ d ≠ '\x7b' := by
    intro d hMem
    cases isNegative with
    | true =>
        obtain rfl := Option.some_inj.mp hMem
        decide
    | false =>
        obtain rfl := Option.some_inj.mp hMem
        refine ⟨?_, ?_, ?_⟩
        all_goals
          rintro rfl
          cases hDigit
  rw [readValue_scalar hHead, readWord_of_number hDigit]

/- What is read as a number is read as a value. -/
theorem readValue_of_readNumber
    {v : Value}
    (hRead : readNumber cs = .ok (v, rest)) :
    readValue (fuel + 1) depth cs = .ok (v, rest) := by
  have hTells := readNumber_tells cs
  rw [hRead] at hTells
  rcases hTells with ⟨ws, rfl, hNumber⟩
  rcases head_of_isNumber hNumber with
    ⟨isNegative, c, more, hDigit, rfl⟩
  rw [List.append_assoc, List.cons_append] at hRead ⊢
  rw [readValue_digit hDigit, hRead]

/- A list is closed at once, if it has no items. -/
theorem readValue_closedList
    (hClosed : skipGap cs = ']' :: rest) :
    readValue (fuel + 1) (depth + 1) ('[' :: cs) =
      .ok (.list [], rest) := by
  rw [readValue, hClosed]
  rfl

/- Otherwise its items are read. -/
theorem readValue_openList
    (hOpen : ∀ rest, skipGap cs ≠ ']' :: rest) :
    readValue (fuel + 1) (depth + 1) ('[' :: cs) =
      (readItems fuel depth [] (skipGap cs)).map
        fun (vs, rest) => (.list vs, rest) := by
  rw [readValue]
  split
  · exact absurd ‹_› (hOpen _)
  · rfl

/- An object is closed at once, if it has no fields. -/
theorem readValue_closedObject
    (hClosed : skipGap cs = '\x7d' :: rest) :
    readValue (fuel + 1) (depth + 1) ('\x7b' :: cs) =
      .ok (.object [], rest) := by
  rw [readValue, hClosed]
  rfl

/- Otherwise its fields are read. -/
theorem readValue_openObject
    (hOpen : ∀ rest, skipGap cs ≠ '\x7d' :: rest) :
    readValue (fuel + 1) (depth + 1) ('\x7b' :: cs) =
      (readFields fuel depth [] (skipGap cs)).map
        fun (fs, rest) =>
          (.object (Entries.ofPairs fs), rest) := by
  rw [readValue]
  split
  · exact absurd ‹_› (hOpen _)
  · rfl

/- A bracket in front of an item opens a list. -/
theorem readValue_items
    (hGap : AreGaps gap)
    (hStart : IsStart cs) :
    readValue (fuel + 1) (depth + 1) ('[' :: (gap ++ cs)) =
      (readItems fuel depth [] cs).map fun (vs, rest) =>
        (.list vs, rest) := by
  have hSkip : skipGap (gap ++ cs) = cs := by
    rw [skipGap_append hGap, hStart.skipGap]
  rw [readValue_openList, hSkip]
  rintro rest hEq
  rw [hSkip] at hEq
  subst hEq
  rcases hStart with ⟨c, hHead, -, hOpen, -⟩
  exact hOpen (Option.some_inj.mp hHead).symm

/- A bracket in front of a field opens an object. -/
theorem readValue_fields
    (hGap : AreGaps gap)
    (hStart : IsStart cs) :
    readValue (fuel + 1) (depth + 1)
        ('\x7b' :: (gap ++ cs)) =
      (readFields fuel depth [] cs).map fun (fs, rest) =>
        (.object (Entries.ofPairs fs), rest) := by
  have hSkip : skipGap (gap ++ cs) = cs := by
    rw [skipGap_append hGap, hStart.skipGap]
  rw [readValue_openObject, hSkip]
  rintro rest hEq
  rw [hSkip] at hEq
  subst hEq
  rcases hStart with ⟨c, hHead, -, -, hOpen, -⟩
  exact hOpen (Option.some_inj.mp hHead).symm

/- Half of a surrogate pair in a key is an obstacle. -/
theorem stopsAt_readFields
    (hHalved : StartsHalved cs)
    (fuel depth : Nat)
    (read : List (String × Value)) :
    StopsAt .pairing
      (readFields (fuel + 1) depth read ('"' :: cs)) := by
  rcases hHalved with ⟨ws, rest, rfl, hHalved⟩
  refine ⟨⟨.unpaired, rest.length⟩, ?_, rfl⟩
  rw [readFields, readText_of_isHalved hHalved]
  rfl

/- A field is read as a member behind its key. -/
theorem readFields_of_isKey
    {ks : List Char}
    {key : String}
    (hKey : IsKey ks key)
    (hStart : IsStart cs)
    (fuel depth : Nat)
    (read : List (String × Value)) :
    readFields (fuel + 1) depth read (ks ++ cs) =
      readMember '\x7d' fuel depth
        (fun v => (key, v) :: read)
        (readFields fuel depth) cs := by
  cases hKey with
  | @mk ws found before behind hText hBefore hBehind =>
      have hColon :
          skipGap (before ++ ':' :: (behind ++ cs)) =
            ':' :: (behind ++ cs) := by
        rw [skipGap_append hBefore, skipGap_cons rfl]
      simp only [List.cons_append, List.append_assoc]
      rw [readFields_colon (readText_of_isText hText _) hColon,
        skipGap_append hBehind, hStart.skipGap]

end Json

end EventFlow
