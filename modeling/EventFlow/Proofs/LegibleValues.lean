import EventFlow.Proofs.JsonReading
import EventFlow.Proofs.Numerals
import EventFlow.Proofs.Registries

/-
  Values that were read can be written.

  An integer is written in digits of which there may be no
  more than a bound.  The writers do not ask for it: every
  integer that comes with a value of JSON keeps to the
  bound, because the reader stops at any other.  This is
  shown for all three readers together, by induction on the
  steps that they may take.

  Key definitions include:
    * `Value.IsLegible`
    * `Json.ReadsLegibly`

  Key theorems include:
    * `Json.digitsValue_lt`
    * `Json.exists_of_readMember`
    * `Json.isLegible_of_parse`
-/

------------------------------------------------------------
-- Short Integers
------------------------------------------------------------

namespace EventFlow

/-
  Whether every integer in a value is short enough to be
  written in digits again.
-/
inductive Value.IsLegible : Value → Prop where
| null : IsLegible .null
| bool (b : Bool) : IsLegible (.bool b)
| int
    {n : Int}
    (hShort : Json.IsShort n) :
    IsLegible (.int n)
| float (x : Double) : IsLegible (.float x)
| str (s : String) : IsLegible (.str s)
| list
    {vs : List Value}
    (hItems : ∀ v ∈ vs, v.IsLegible) :
    IsLegible (.list vs)
| object
    {fs : List (String × Value)}
    (hFields : ∀ field ∈ fs, field.2.IsLegible) :
    IsLegible (.object fs)

namespace Json

variable {cs rest : List Char}
variable {v : Value}

/- Digits are worth less than a one with as many zeros. -/
theorem digitsValue_lt
    (hDigits : AreDigits cs) :
    digitsValue cs < 10 ^ cs.length := by
  induction cs using List.reverseRecOn with
  | nil => decide
  | append_singleton cs c ih =>
      have hFirst :=
        ih fun d hMem => hDigits d (List.mem_append_left _ hMem)
      have hLast : c.toNat - '0'.toNat < 10 := by
        have hDigit :=
          hDigits c (List.mem_append_right _ List.mem_cons_self)
        rw [isDigit, Bool.and_eq_true, decide_eq_true_eq,
          decide_eq_true_eq] at hDigit
        have hMost : c.toNat ≤ '9'.toNat := hDigit.2
        have hNine : '9'.toNat = '0'.toNat + 9 := rfl
        omega
      have hValue :
          digitsValue (cs ++ [c]) =
            10 * digitsValue cs + (c.toNat - '0'.toNat) := by
        rw [digitsValue, List.foldl_append]
        rfl
      rw [hValue, List.length_append, List.length_singleton,
        Nat.pow_succ]
      omega

/- An integer of few digits is short, whatever its sign. -/
theorem isShort_signed
    {ds : List Char}
    (hWhole : IsWhole ds)
    (hFew : ds.length ≤ maxDigits)
    (isNegative : Bool) :
    IsShort (signed isNegative (digitsValue ds)) := by
  have hAbs :
      (signed isNegative (digitsValue ds)).natAbs =
        digitsValue ds := by
    cases isNegative with
    | false => rfl
    | true => exact Int.natAbs_neg _
  rw [IsShort, hAbs]
  refine Nat.le_trans ?_ hFew
  exact (Nat.length_toDigits_le_iff (by decide)
    (List.length_pos_of_ne_nil hWhole.filled)).mpr
      (digitsValue_lt hWhole.digits)

theorem isLegible_of_readUnsigned
    {start : List Char}
    {isNegative : Bool}
    (hRead :
      readUnsigned start isNegative cs = .ok (v, rest)) :
    v.IsLegible := by
  rw [readUnsigned] at hRead
  cases hWhole : readWhole? cs with
  | none =>
      rw [hWhole] at hRead
      cases hRead
  | some found =>
      rcases found with ⟨ds, behind⟩
      rw [hWhole] at hRead
      dsimp only at hRead
      split at hRead
      · split at hRead
        · cases hRead
        · rename_i hFew
          cases hRead
          exact .int (isShort_signed (readWhole_spec hWhole).2.1
            (Nat.le_of_not_lt hFew) isNegative)
      · cases hRead
        exact .float _

theorem isLegible_of_readNumber
    (hRead : readNumber cs = .ok (v, rest)) :
    v.IsLegible := by
  unfold readNumber at hRead
  split at hRead
  · exact isLegible_of_readUnsigned hRead
  · exact isLegible_of_readUnsigned hRead

theorem isLegible_of_readWord
    (hRead : readWord? cs = some (v, rest)) :
    v.IsLegible := by
  rcases exists_of_readWord? hRead with ⟨word, hWord, -⟩
  simp only [words, List.mem_cons, Prod.mk.injEq,
    List.not_mem_nil, or_false] at hWord
  rcases hWord with ⟨-, rfl⟩ | ⟨-, rfl⟩ | ⟨-, rfl⟩ |
    ⟨-, rfl⟩ | ⟨-, rfl⟩ | ⟨-, rfl⟩
  · exact .null
  · exact .bool true
  · exact .bool false
  all_goals exact .float _

end Json

end EventFlow

------------------------------------------------------------
-- What the Readers Read
------------------------------------------------------------

namespace EventFlow

namespace Json

variable {α : Type}
variable {closing : Char}
variable {fuel depth : Nat}
variable {cs rest : List Char}
variable {v : Value}

/- What is read as a member, and then to the end. -/
theorem exists_of_readMember
    {found : Value → List α}
    {more : List α → List Char → Reading (List α)}
    {xs : List α}
    (hRead :
      readMember closing fuel depth found more cs =
        .ok (xs, rest)) :
    ∃ v after,
      readValue fuel depth cs = .ok (v, after) ∧
        (xs = (found v).reverse ∨
          ∃ next, more (found v) next = .ok (xs, rest)) := by
  rw [readMember] at hRead
  cases hValue : readValue fuel depth cs with
  | error stop =>
      rw [hValue] at hRead
      cases hRead
  | ok member =>
      rcases member with ⟨v, after⟩
      refine ⟨v, after, rfl, ?_⟩
      rw [hValue] at hRead
      dsimp only at hRead
      split at hRead
      · cases hRead
      split at hRead
      · cases hRead
        exact .inl rfl
      split at hRead
      · exact .inr ⟨_, hRead⟩
      · cases hRead

/- What was read before it was made into something else. -/
theorem exists_of_map
    {β : Type}
    {r : Reading α}
    {f : α × List Char → β × List Char}
    {found : β × List Char}
    (hRead : r.map f = .ok found) :
    ∃ first, r = .ok first ∧ f first = found := by
  cases r with
  | error stop => cases hRead
  | ok first =>
      cases hRead
      exact ⟨first, rfl, rfl⟩

/- Whether all that is read in some steps is legible. -/
structure ReadsLegibly (fuel : Nat) : Prop where
  value :
    ∀ {depth cs v rest},
      readValue fuel depth cs = .ok (v, rest) → v.IsLegible
  items :
    ∀ {depth read cs vs rest},
      (∀ v ∈ read, v.IsLegible) →
        readItems fuel depth read cs = .ok (vs, rest) →
          ∀ v ∈ vs, v.IsLegible
  fields :
    ∀ {depth read cs fs rest},
      (∀ field ∈ read, (field : String × Value).2.IsLegible) →
        readFields fuel depth read cs = .ok (fs, rest) →
          ∀ field ∈ fs, field.2.IsLegible

theorem ReadsLegibly.value_succ
    (hReads : ReadsLegibly fuel)
    (hRead : readValue (fuel + 1) depth cs = .ok (v, rest)) :
    v.IsLegible := by
  unfold readValue at hRead
  split at hRead
  · rcases exists_of_map hRead with ⟨found, -, hFound⟩
    cases hFound
    exact .str _
  · cases hRead
  · cases hRead
  · split at hRead
    · cases hRead
      exact .list (List.forall_mem_nil _)
    · rcases exists_of_map hRead with
        ⟨found, hItems, hFound⟩
      cases hFound
      exact .list (hReads.items (List.forall_mem_nil _) hItems)
  · split at hRead
    · cases hRead
      exact .object (List.forall_mem_nil _)
    · rcases exists_of_map hRead with
        ⟨found, hFields, hFound⟩
      cases hFound
      have hAll :=
        hReads.fields (List.forall_mem_nil _) hFields
      exact .object fun field hMem =>
        hAll field (Entries.mem_of_mem_ofPairs hMem)
  · split at hRead
    · cases hRead
      exact isLegible_of_readWord ‹_›
    · exact isLegible_of_readNumber hRead

theorem ReadsLegibly.items_succ
    (hReads : ReadsLegibly fuel)
    {read vs : List Value}
    (hBefore : ∀ v ∈ read, v.IsLegible)
    (hRead :
      readItems (fuel + 1) depth read cs = .ok (vs, rest)) :
    ∀ v ∈ vs, v.IsLegible := by
  rw [readItems_eq] at hRead
  rcases exists_of_readMember hRead with
    ⟨v, after, hValue, hRest⟩
  have hFound : ∀ w ∈ v :: read, w.IsLegible :=
    List.forall_mem_cons.mpr ⟨hReads.value hValue, hBefore⟩
  rcases hRest with rfl | ⟨next, hMore⟩
  · exact fun w hMem => hFound w (List.mem_reverse.mp hMem)
  · exact hReads.items hFound hMore

theorem ReadsLegibly.fields_succ
    (hReads : ReadsLegibly fuel)
    {read fs : List (String × Value)}
    (hBefore : ∀ field ∈ read, field.2.IsLegible)
    (hRead :
      readFields (fuel + 1) depth read cs = .ok (fs, rest)) :
    ∀ field ∈ fs, field.2.IsLegible := by
  rcases readFields_key_or_fault fuel depth read cs with
    ⟨stop, hFault, -⟩ | ⟨ks, key, body, rfl, -, hMember⟩
  · rw [hFault] at hRead
    cases hRead
  rw [hMember] at hRead
  rcases exists_of_readMember hRead with
    ⟨v, after, hValue, hRest⟩
  have hFound :
      ∀ field ∈ (key, v) :: read, field.2.IsLegible :=
    List.forall_mem_cons.mpr ⟨hReads.value hValue, hBefore⟩
  rcases hRest with rfl | ⟨next, hMore⟩
  · exact fun field hMem =>
      hFound field (List.mem_reverse.mp hMem)
  · exact hReads.fields hFound hMore

theorem readsLegibly (fuel : Nat) : ReadsLegibly fuel := by
  induction fuel with
  | zero =>
      refine { value := ?_, items := ?_, fields := ?_ }
      · rintro depth cs v rest ⟨⟩
      · rintro depth read cs vs rest - ⟨⟩
      · rintro depth read cs fs rest - ⟨⟩
  | succ fuel ih =>
      exact
        { value := ih.value_succ
          items := ih.items_succ
          fields := ih.fields_succ }

/-
  No value that is read has an integer which cannot be
  written: those of too many digits are not read.
-/
theorem isLegible_of_parse
    {s : String}
    (hParse : parse depth s = .ok v) :
    v.IsLegible := by
  unfold parse at hParse
  dsimp only at hParse
  split at hParse
  · cases hParse
  rw [parseWithin] at hParse
  cases hRead :
      readValue (2 * s.toList.length + 2) depth
        (skipGap s.toList) with
  | error stop =>
      rw [readAll_of_error hRead] at hParse
      cases hParse
  | ok found =>
      rcases found with ⟨w, rest⟩
      rw [readAll_of_ok hRead] at hParse
      split at hParse
      · cases hParse
        exact (readsLegibly _).value hRead
      · cases hParse

end Json

end EventFlow
