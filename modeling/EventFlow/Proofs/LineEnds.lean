import EventFlow.Proofs.JsonReading
import EventFlow.Text.Line
import Mathlib.Data.Bool.Basic

/-
  JSON does not depend on its line ends.

  Every kind of line end is white space between the parts of
  a value, and none may stand within a part.  So the readers
  go the same way whether the line ends were unified before
  or not, and characters are JSON for a value, or too large,
  if and only if they are so with unified line ends.

  Key definitions include:
    * `Json.Agrees`

  Key theorems include:
    * `Json.skipGap_unifyLines`
    * `Json.agrees_all`
    * `Json.isTooLarge_unifyLines_iff`
    * `Json.isJson_unifyLines_iff`
    * `Json.parse_unifyLines`
-/

------------------------------------------------------------
-- Unified Lines
------------------------------------------------------------

namespace EventFlow

namespace Text

variable {ws cs : List Char}

/- A character that is no return stays in front. -/
theorem unifyLines_cons
    {c : Char}
    (hOther : c ≠ '\r')
    (cs : List Char) :
    unifyLines (c :: cs) = c :: unifyLines cs := by
  rw [unifyLines]
  · intro more hReturn
    exact absurd hReturn hOther
  · exact hOther

/- Characters without a return stay in front. -/
theorem unifyLines_append
    (hNone : '\r' ∉ ws)
    (cs : List Char) :
    unifyLines (ws ++ cs) = ws ++ unifyLines cs := by
  induction ws with
  | nil => rfl
  | cons c ws ih =>
      rw [List.mem_cons, not_or] at hNone
      rw [List.cons_append, unifyLines_cons (Ne.symm hNone.1),
        ih hNone.2]
      rfl

/- What stands in front before and after. -/
theorem unifyLines_cases (cs : List Char) :
    cs = [] ∨
    (∃ more rest,
      cs = '\r' :: more ∧
        unifyLines cs = '\n' :: unifyLines rest) ∨
    ∃ c more, c ≠ '\r' ∧ cs = c :: more := by
  cases cs with
  | nil => exact .inl rfl
  | cons c cs =>
      by_cases hReturn : c = '\r'
      · subst hReturn
        refine .inr (.inl ⟨cs, ?_⟩)
        cases cs with
        | nil => exact ⟨[], rfl, rfl⟩
        | cons d cs =>
            by_cases hFeed : d = '\n'
            · subst hFeed
              exact ⟨cs, rfl, rfl⟩
            · refine ⟨d :: cs, rfl, ?_⟩
              rw [unifyLines]
              intro more hEq
              exact hFeed (List.cons.inj hEq).1
      · exact .inr (.inr ⟨c, cs, hReturn, rfl⟩)

/- What stays in front stood there before. -/
theorem exists_of_unifyLines_append
    {rest : List Char}
    (hNone : '\n' ∉ ws)
    (hEq : unifyLines cs = ws ++ rest) :
    ∃ more, cs = ws ++ more ∧ unifyLines more = rest := by
  induction ws generalizing cs with
  | nil => exact ⟨cs, rfl, hEq⟩
  | cons c ws ih =>
      rw [List.mem_cons, not_or] at hNone
      rcases unifyLines_cases cs with
        rfl | ⟨_, _, -, hFeed⟩ | ⟨d, more, hOther, rfl⟩
      · cases hEq
      · rw [hFeed] at hEq
        exact absurd (List.cons.inj hEq).1 hNone.1
      · rw [unifyLines_cons hOther] at hEq
        rcases List.cons.inj hEq with ⟨rfl, hMore⟩
        rcases ih hNone.2 hMore with ⟨rest', rfl, hRest⟩
        exact ⟨rest', rfl, hRest⟩

/- Nothing is left only of nothing. -/
theorem eq_nil_of_unifyLines
    (hNil : unifyLines cs = []) :
    cs = [] := by
  rcases unifyLines_cases cs with
    rfl | ⟨_, _, -, hFeed⟩ | ⟨c, more, hOther, rfl⟩
  · rfl
  · rw [hFeed] at hNil
    cases hNil
  · rw [unifyLines_cons hOther] at hNil
    cases hNil

/- The first character changes only from a return. -/
theorem mem_head?_unifyLines
    {c : Char}
    (hHead : c ∈ (unifyLines cs).head?) :
    c ∈ cs.head? ∨ c = '\n' := by
  rcases unifyLines_cases cs with
    rfl | ⟨_, _, -, hFeed⟩ | ⟨d, more, hOther, rfl⟩
  · exact .inl hHead
  · rw [hFeed] at hHead
    exact .inr (Option.some_inj.mp hHead).symm
  · rw [unifyLines_cons hOther] at hHead
    exact .inl hHead

end Text

end EventFlow

------------------------------------------------------------
-- White Space and Digits
------------------------------------------------------------

namespace EventFlow

namespace Json

variable {cs rest : List Char}

/- Unified line ends are white space as before. -/
theorem skipGap_unifyLines (cs : List Char) :
    skipGap (Text.unifyLines cs) =
      Text.unifyLines (skipGap cs) := by
  fun_induction Text.unifyLines cs with
  | case1 cs ih => exact ih
  | case2 cs hOther ih => exact ih
  | case3 c cs hFirst hReturn ih =>
      by_cases hGap : isGap c = true
      · rw [skipGap, List.dropWhile_cons_of_pos hGap, skipGap,
          List.dropWhile_cons_of_pos hGap]
        exact ih
      · rw [Bool.not_eq_true] at hGap
        rw [skipGap_cons hGap, skipGap_cons hGap,
          Text.unifyLines_cons hReturn]
  | case4 => rfl

/- Behind white space there is no return. -/
theorem ne_return_of_skipGap
    {c : Char}
    (hSkip : skipGap cs = c :: rest) :
    c ≠ '\r' := by
  rintro rfl
  have hStop := List.head?_dropWhile_not isGap cs
  unfold skipGap at hSkip
  rw [hSkip] at hStop
  cases hStop

/- A line end is no digit. -/
theorem AreDigits.not_mem
    {ds : List Char}
    (hDigits : AreDigits ds)
    {c : Char}
    (hEnd : c = '\r' ∨ c = '\n') :
    c ∉ ds := by
  intro hMem
  have hDigit := hDigits c hMem
  rcases hEnd with rfl | rfl
  all_goals cases hDigit

/- Digits end where they ended. -/
theorem endsDigits_unifyLines
    (hEnd : EndsDigits rest) :
    EndsDigits (Text.unifyLines rest) := by
  intro c hHead
  rcases Text.mem_head?_unifyLines hHead with hSame | rfl
  · exact hEnd c hSame
  · rfl

/- A run of digits is the same as before. -/
theorem spanDigits_unifyLines (cs : List Char) :
    spanDigits (Text.unifyLines cs) =
      ((spanDigits cs).1, Text.unifyLines (spanDigits cs).2) := by
  rcases spanDigits_spec cs with
    ⟨ds, rest, hSpan, rfl, hDigits, hEnd⟩
  rw [hSpan,
    Text.unifyLines_append (hDigits.not_mem (.inl rfl)),
    spanDigits_append hDigits (endsDigits_unifyLines hEnd)]

/- A whole part is the same as before. -/
theorem readWhole_unifyLines (cs : List Char) :
    readWhole? (Text.unifyLines cs) =
      (readWhole? cs).map fun (ds, rest) =>
        (ds, Text.unifyLines rest) := by
  rcases Text.unifyLines_cases cs with
    rfl | ⟨_, _, rfl, hFeed⟩ | ⟨c, more, hOther, rfl⟩
  · rfl
  · rw [hFeed]
    rfl
  · have hSpan := spanDigits_unifyLines (c :: more)
    rw [Text.unifyLines_cons hOther] at hSpan ⊢
    by_cases hZero : c = '0'
    · subst hZero
      rfl
    · rw [readWhole?, readWhole?]
      · split
        · rw [hSpan]
          rfl
        · rfl
      · exact hZero
      · exact hZero

/- A fraction is the same as before. -/
theorem readFraction_unifyLines (cs : List Char) :
    readFraction (Text.unifyLines cs) =
      ((readFraction cs).1,
        Text.unifyLines (readFraction cs).2) := by
  have hOther (ds : List Char) (hNone : ds.head? ≠ some '.') :
      readFraction ds = ([], ds) := by
    unfold readFraction
    split
    · exact absurd rfl hNone
    · rfl
  by_cases hPoint : cs.head? = some '.'
  · cases cs with
    | nil => cases hPoint
    | cons c more =>
        obtain rfl := Option.some_inj.mp hPoint
        rw [Text.unifyLines_cons (by decide), readFraction,
          readFraction, spanDigits_unifyLines]
        rcases spanDigits more with ⟨ds, rest⟩
        cases ds with
        | nil => rfl
        | cons d ds => rfl
  · rw [hOther cs hPoint, hOther]
    intro hHead
    rcases Text.mem_head?_unifyLines hHead with hSame | hFeed
    · exact hPoint hSame
    · cases hFeed

theorem splitSign_unifyLines (cs : List Char) :
    splitSign (Text.unifyLines cs) =
      ((splitSign cs).1,
        Text.unifyLines (splitSign cs).2) := by
  rcases exists_exponentSign cs with
    ⟨sign, isNegative, digits, rfl, hSign, hBare⟩
  have hNone : '\r' ∉ sign := by
    cases hSign
    all_goals decide
  rw [splitSign_append hSign hBare,
    Text.unifyLines_append hNone, splitSign_append hSign]
  intro hNoSign c hHead
  rcases Text.mem_head?_unifyLines hHead with hSame | rfl
  · exact hBare hNoSign c hSame
  · decide

/- An exponent is the same as before. -/
theorem readExponent_unifyLines (cs : List Char) :
    readExponent (Text.unifyLines cs) =
      ((readExponent cs).1,
        Text.unifyLines (readExponent cs).2) := by
  have hOther
      (ds : List Char)
      (hNone : ∀ c ∈ ds.head?, ¬ (c = 'e' ∨ c = 'E')) :
      readExponent ds = (none, ds) := by
    cases ds with
    | nil => rfl
    | cons c ds =>
        have hLetter := hNone c rfl
        unfold readExponent
        dsimp only
        rw [if_neg]
        rwa [Bool.or_eq_true, decide_eq_true_eq,
          decide_eq_true_eq]
  by_cases hLetter : ∃ c ∈ cs.head?, c = 'e' ∨ c = 'E'
  · rcases hLetter with ⟨c, hHead, hLetter⟩
    cases cs with
    | nil => cases hHead
    | cons d more =>
        obtain rfl := Option.some_inj.mp hHead
        have hReturn : d ≠ '\r' := by
          rintro rfl
          simp at hLetter
        rw [Text.unifyLines_cons hReturn,
          readExponent_letter hLetter,
          readExponent_letter hLetter, splitSign_unifyLines,
          spanDigits_unifyLines]
        rcases spanDigits (splitSign more).2 with ⟨ds, rest⟩
        cases ds with
        | nil =>
            dsimp only
            rw [Text.unifyLines_cons hReturn]
        | cons e ds => rfl
  · simp only [not_exists, not_and] at hLetter
    rw [hOther cs hLetter, hOther]
    intro c hHead
    rcases Text.mem_head?_unifyLines hHead with hSame | rfl
    · exact hLetter c hSame
    · decide

end Json

end EventFlow

------------------------------------------------------------
-- Readers That Agree
------------------------------------------------------------

namespace EventFlow

namespace Json

variable {α β : Type}

/-
  Whether two readers come to the same result, what is left
  by the second being unified, or to faults of one kind.
-/
inductive Agrees : Reading α → Reading α → Prop where
| found
    (x : α)
    (rest : List Char) :
    Agrees (.ok (x, rest)) (.ok (x, Text.unifyLines rest))
| fault
    {stop stop' : Stop}
    (hKind :
      stop.reason.obstacle? = stop'.reason.obstacle?) :
    Agrees (.error stop) (.error stop')

variable {r r' : Reading α}

theorem Agrees.map
    (hAgrees : Agrees r r')
    (f : α → β) :
    Agrees (r.map fun (x, rest) => (f x, rest))
      (r'.map fun (x, rest) => (f x, rest)) := by
  cases hAgrees with
  | found x rest => exact .found (f x) rest
  | fault hKind => exact .fault hKind

theorem Agrees.stopsAt_iff
    (hAgrees : Agrees r r')
    (o : Obstacle) :
    StopsAt o r ↔ StopsAt o r' := by
  cases hAgrees with
  | found x rest =>
      constructor
      · rintro ⟨stop, hEq, -⟩
        cases hEq
      · rintro ⟨stop, hEq, -⟩
        cases hEq
  | @fault stop stop' hKind =>
      constructor
      · rintro ⟨_, hEq, hStop⟩
        cases hEq
        exact ⟨stop', rfl, hKind ▸ hStop⟩
      · rintro ⟨_, hEq, hStop⟩
        cases hEq
        exact ⟨stop, rfl, hKind ▸ hStop⟩

/- Numbers agree. -/
theorem agrees_readUnsigned
    (start start' : List Char)
    (isNegative : Bool)
    (cs : List Char) :
    Agrees (readUnsigned start isNegative cs)
      (readUnsigned start' isNegative
        (Text.unifyLines cs)) := by
  rw [readUnsigned, readUnsigned, readWhole_unifyLines]
  cases readWhole? cs with
  | none => exact .fault rfl
  | some found =>
      rcases found with ⟨ds, more⟩
      dsimp only [Option.map_some]
      rw [readFraction_unifyLines]
      dsimp only
      rw [readExponent_unifyLines]
      dsimp only
      split
      · split
        · exact .fault rfl
        · exact .found _ _
      · exact .found _ _

theorem agrees_readNumber (cs : List Char) :
    Agrees (readNumber cs)
      (readNumber (Text.unifyLines cs)) := by
  have hBare (ds : List Char) (hNone : ds.head? ≠ some '-') :
      readNumber ds = readUnsigned ds false ds := by
    unfold readNumber
    split
    · exact absurd rfl hNone
    · rfl
  by_cases hMinus : cs.head? = some '-'
  · cases cs with
    | nil => cases hMinus
    | cons c more =>
        obtain rfl := Option.some_inj.mp hMinus
        rw [Text.unifyLines_cons (by decide)]
        exact agrees_readUnsigned _ _ true more
  · rw [hBare cs hMinus, hBare]
    · exact agrees_readUnsigned _ _ false cs
    · intro hHead
      rcases Text.mem_head?_unifyLines hHead with
        hSame | hFeed
      · exact hMinus hSame
      · cases hFeed

/- A line end is no part of a text. -/
theorem Spells.not_mem
    {ws : List Char}
    {spelled : List (Option Char)}
    (hSpells : Spells ws spelled)
    {c : Char}
    (hEnd : c = '\r' ∨ c = '\n') :
    c ∉ ws := by
  have hNoDigit : Text.hexDigit? c = none := by
    rcases hEnd with rfl | rfl
    all_goals decide
  have hNoEscape : c ≠ '\\' ∧ c ≠ 'u' ∧ escaped? c = none := by
    rcases hEnd with rfl | rfl
    all_goals decide
  have hControl : c.toNat ≤ 0x1f := by
    rcases hEnd with rfl | rfl
    all_goals decide
  have hNone {a b d e : Char} {n : Nat}
      (hWord : hexWord? a b d e = some n) :
      c ≠ a ∧ c ≠ b ∧ c ≠ d ∧ c ≠ e := by
    simpa using not_mem_of_hexWord hNoDigit hWord
  induction hSpells with
  | empty => exact List.not_mem_nil
  | @plain d _ _ _ _ hPrintable _ ih =>
      have hOther : c ≠ d := by
        rintro rfl
        exact hPrintable hControl
      simp [hOther, ih]
  | @short d e _ _ hLetter _ ih =>
      have hOther : c ≠ d := by
        rintro rfl
        rw [hNoEscape.2.2] at hLetter
        cases hLetter
      simp [hNoEscape.1, hOther, ih]
  | numbered hWord _ _ ih =>
      simp [hNoEscape.1, hNoEscape.2.1, hNone hWord, ih]
  | joined hFirst hSecond _ _ _ ih =>
      simp [hNoEscape.1, hNoEscape.2.1, hNone hFirst,
        hNone hSecond, ih]

/- What is spelled agrees. -/
theorem agrees_readSpelled
    (opening opening' : Nat)
    (cs : List Char) :
    Agrees (readSpelled opening cs)
      (readSpelled opening' (Text.unifyLines cs)) := by
  have hTells := readSpelled_tells opening cs
  cases hRead : readSpelled opening cs with
  | ok found =>
      rcases found with ⟨spelled, rest⟩
      rw [hRead] at hTells
      rcases hTells with ⟨ws, rfl, hSpells⟩
      have hNone := hSpells.not_mem (.inl rfl)
      rw [Text.unifyLines_append hNone,
        Text.unifyLines_cons (by decide),
        readSpelled_of_spells hSpells]
      exact .found spelled rest
  | error stop =>
      rw [hRead] at hTells
      have hUnified :=
        readSpelled_tells opening' (Text.unifyLines cs)
      cases hOther :
          readSpelled opening' (Text.unifyLines cs) with
      | ok found =>
          rcases found with ⟨spelled, rest⟩
          rw [hOther] at hUnified
          rcases hUnified with ⟨ws, hEq, hSpells⟩
          have hNone : '\n' ∉ ws ++ ['"'] := by
            simp [hSpells.not_mem (.inr rfl)]
          rw [← List.singleton_append, ← List.append_assoc]
            at hEq
          rcases Text.exists_of_unifyLines_append hNone hEq
            with ⟨more, rfl, -⟩
          rw [List.append_assoc, List.singleton_append,
            readSpelled_of_spells hSpells] at hRead
          cases hRead
      | error other =>
          rw [hOther] at hUnified
          refine .fault ?_
          rw [Option.eq_none_iff_forall_not_mem.mpr hTells,
            Option.eq_none_iff_forall_not_mem.mpr hUnified]

/- Texts agree. -/
theorem agrees_readText
    (opening opening' : Nat)
    (cs : List Char) :
    Agrees (readText opening cs)
      (readText opening' (Text.unifyLines cs)) := by
  have hAgrees := agrees_readSpelled opening opening' cs
  unfold readText
  generalize readSpelled opening cs = r at hAgrees ⊢
  generalize
    readSpelled opening' (Text.unifyLines cs) = r'
    at hAgrees ⊢
  cases hAgrees with
  | fault hKind => exact .fault hKind
  | found spelled rest =>
      dsimp only
      cases spelled.mapM id with
      | some cs => exact .found cs rest
      | none => exact .fault rfl

/- Words are the same as before. -/
theorem readWord_unifyLines (cs : List Char) :
    readWord? (Text.unifyLines cs) =
      (readWord? cs).map fun (v, rest) =>
        (v, Text.unifyLines rest) := by
  have hNoEnds :
      ∀ entry ∈ words,
        '\r' ∉ entry.1.toList ∧ '\n' ∉ entry.1.toList := by
    decide
  cases hRead : readWord? cs with
  | some found =>
      rcases exists_of_readWord? hRead with
        ⟨word, hWord, rfl⟩
      rw [Text.unifyLines_append (hNoEnds _ hWord).1,
        readWord_of_mem hWord]
      rfl
  | none =>
      cases hOther : readWord? (Text.unifyLines cs) with
      | none => rfl
      | some found =>
          rcases exists_of_readWord? hOther with
            ⟨word, hWord, hEq⟩
          rcases Text.exists_of_unifyLines_append
            (hNoEnds _ hWord).2 hEq with ⟨more, rfl, -⟩
          rw [readWord_of_mem hWord] at hRead
          cases hRead

end Json

end EventFlow

------------------------------------------------------------
-- Values That Agree
------------------------------------------------------------

namespace EventFlow

namespace Json

variable {fuel : Nat}
variable {cs : List Char}

/- A mark stands behind white space where it stood before. -/
theorem skipGap_unifyLines_of_eq
    {c : Char}
    {rest : List Char}
    (hSkip : skipGap cs = c :: rest) :
    skipGap (Text.unifyLines cs) =
      c :: Text.unifyLines rest := by
  rw [skipGap_unifyLines, hSkip,
    Text.unifyLines_cons (ne_return_of_skipGap hSkip)]

/- No mark stands there that did not stand there before. -/
theorem skipGap_unifyLines_ne
    {c : Char}
    (hMark : c ≠ '\n')
    (hNone : ∀ rest, skipGap cs ≠ c :: rest)
    (rest : List Char) :
    skipGap (Text.unifyLines cs) ≠ c :: rest := by
  intro hEq
  have hAlone : '\n' ∉ [c] := by
    simp [Ne.symm hMark]
  rw [skipGap_unifyLines] at hEq
  rcases Text.exists_of_unifyLines_append hAlone hEq with
    ⟨more, hSkip, -⟩
  exact hNone more hSkip

/- Whether all items agree that may take so many steps. -/
def ItemsAgree (fuel : Nat) : Prop :=
  ∀ depth read cs,
    Agrees (readItems fuel depth read cs)
      (readItems fuel depth read (Text.unifyLines cs))

/- Whether all fields agree that may take so many steps. -/
def FieldsAgree (fuel : Nat) : Prop :=
  ∀ depth read cs,
    Agrees (readFields fuel depth read cs)
      (readFields fuel depth read (Text.unifyLines cs))

/- Whether all values agree that may take so many steps. -/
def ValuesAgree (fuel : Nat) : Prop :=
  ∀ depth cs,
    Agrees (readValue fuel depth cs)
      (readValue fuel depth (Text.unifyLines cs))

/- Lists agree as their items do. -/
theorem agrees_list
    (hItems : ItemsAgree fuel)
    (depth : Nat)
    (cs : List Char) :
    Agrees (readValue (fuel + 1) depth ('[' :: cs))
      (readValue (fuel + 1) depth
        ('[' :: Text.unifyLines cs)) := by
  cases depth with
  | zero => exact .fault rfl
  | succ depth =>
      by_cases hClosed : ∃ rest, skipGap cs = ']' :: rest
      · rcases hClosed with ⟨rest, hClosed⟩
        rw [readValue_closedList hClosed, readValue_closedList
          (skipGap_unifyLines_of_eq hClosed)]
        exact .found _ rest
      · rw [not_exists] at hClosed
        rw [readValue_openList hClosed, readValue_openList
          (skipGap_unifyLines_ne (by decide) hClosed),
          skipGap_unifyLines]
        exact (hItems depth [] _).map Value.list

/- Objects agree as their fields do. -/
theorem agrees_object
    (hFields : FieldsAgree fuel)
    (depth : Nat)
    (cs : List Char) :
    Agrees (readValue (fuel + 1) depth ('\x7b' :: cs))
      (readValue (fuel + 1) depth
        ('\x7b' :: Text.unifyLines cs)) := by
  cases depth with
  | zero => exact .fault rfl
  | succ depth =>
      by_cases hClosed : ∃ rest, skipGap cs = '\x7d' :: rest
      · rcases hClosed with ⟨rest, hClosed⟩
        rw [readValue_closedObject hClosed,
          readValue_closedObject
            (skipGap_unifyLines_of_eq hClosed)]
        exact .found _ rest
      · rw [not_exists] at hClosed
        rw [readValue_openObject hClosed, readValue_openObject
          (skipGap_unifyLines_ne (by decide) hClosed),
          skipGap_unifyLines]
        exact (hFields depth [] _).map
          (Value.object ∘ Entries.ofPairs)

theorem valuesAgree
    (hItems : ItemsAgree fuel)
    (hFields : FieldsAgree fuel) :
    ValuesAgree (fuel + 1) := by
  intro depth cs
  by_cases hOpens :
      ∀ c ∈ cs.head?, c ≠ '"' ∧ c ≠ '[' ∧ c ≠ '\x7b'
  · have hUnified :
        ∀ c ∈ (Text.unifyLines cs).head?,
          c ≠ '"' ∧ c ≠ '[' ∧ c ≠ '\x7b' := by
      intro c hHead
      rcases Text.mem_head?_unifyLines hHead with hSame | rfl
      · exact hOpens c hSame
      · decide
    rw [readValue_scalar hOpens, readValue_scalar hUnified,
      readWord_unifyLines]
    cases readWord? cs with
    | some found => exact .found _ _
    | none => exact agrees_readNumber cs
  · simp only [not_forall] at hOpens
    rcases hOpens with ⟨c, hHead, hMark⟩
    cases cs with
    | nil => cases hHead
    | cons d more =>
        obtain rfl := Option.some_inj.mp hHead
        have hCases : d = '"' ∨ d = '[' ∨ d = '\x7b' := by
          by_contra hNone
          rw [not_or, not_or] at hNone
          exact hMark hNone
        rcases hCases with rfl | rfl | rfl
        · rw [Text.unifyLines_cons (by decide), readValue,
            readValue]
          exact (agrees_readText _ _ more).map
            fun cs => Value.str (String.ofList cs)
        · rw [Text.unifyLines_cons (by decide)]
          exact agrees_list hItems depth more
        · rw [Text.unifyLines_cons (by decide)]
          exact agrees_object hFields depth more

/- Members agree as values and what is behind them do. -/
theorem agrees_readMember
    {α : Type}
    (closing : Char)
    (found : Value → List α)
    {more : List α → List Char → Reading (List α)}
    (hValues : ValuesAgree fuel)
    (hMore :
      ∀ read cs,
        Agrees (more read cs)
          (more read (Text.unifyLines cs)))
    (depth : Nat)
    (cs : List Char) :
    Agrees (readMember closing fuel depth found more cs)
      (readMember closing fuel depth found more
        (Text.unifyLines cs)) := by
  have hFirst := hValues depth cs
  rw [readMember, readMember]
  generalize readValue fuel depth cs = r at hFirst ⊢
  generalize readValue fuel depth (Text.unifyLines cs) = r'
    at hFirst ⊢
  cases hFirst with
  | fault hKind => exact .fault hKind
  | found v after =>
      dsimp only
      cases hSkip : skipGap after with
      | nil =>
          rw [skipGap_unifyLines, hSkip]
          exact .fault rfl
      | cons c rest =>
          rw [skipGap_unifyLines_of_eq hSkip]
          dsimp only
          split
          · exact .found _ rest
          split
          · rw [skipGap_unifyLines]
            exact hMore (found v) (skipGap rest)
          · exact .fault rfl

/- Items agree as values and later items do. -/
theorem itemsAgree
    (hValues : ValuesAgree fuel)
    (hMore : ItemsAgree fuel) :
    ItemsAgree (fuel + 1) := by
  intro depth read cs
  rw [readItems_eq, readItems_eq]
  exact agrees_readMember ']' (· :: read) hValues
    (hMore depth) depth cs

/- Fields agree as values and later fields do. -/
theorem fieldsAgree
    (hValues : ValuesAgree fuel)
    (hMore : FieldsAgree fuel) :
    FieldsAgree (fuel + 1) := by
  intro depth read cs
  by_cases hQuote : cs.head? = some '"'
  · cases cs with
    | nil => cases hQuote
    | cons c body =>
        obtain rfl := Option.some_inj.mp hQuote
        rw [Text.unifyLines_cons (by decide)]
        have hText := agrees_readText ('"' :: body).length
          ('"' :: Text.unifyLines body).length body
        generalize hRead :
          readText ('"' :: body).length body = r at hText
        generalize hOther :
          readText ('"' :: Text.unifyLines body).length
            (Text.unifyLines body) = r' at hText
        cases hText with
        | fault hKind =>
            rw [readFields, readFields, hRead, hOther]
            exact .fault hKind
        | found key after =>
            by_cases hColon : ∃ rest, skipGap after = ':' :: rest
            · rcases hColon with ⟨rest, hColon⟩
              rw [readFields_colon hRead hColon,
                readFields_colon hOther
                  (skipGap_unifyLines_of_eq hColon),
                skipGap_unifyLines]
              exact agrees_readMember '\x7d' _ hValues
                (hMore depth) depth _
            · rw [not_exists] at hColon
              rw [readFields_bare hRead hColon,
                readFields_bare hOther
                  (skipGap_unifyLines_ne (by decide) hColon)]
              exact .fault rfl
  · rw [readFields_unquoted hQuote, readFields_unquoted]
    · exact .fault rfl
    · intro hHead
      rcases Text.mem_head?_unifyLines hHead with
        hSame | hFeed
      · exact hQuote hSame
      · cases hFeed

/- However many steps they may take, all readers agree. -/
theorem agrees_all (fuel : Nat) :
    ValuesAgree fuel ∧ ItemsAgree fuel ∧ FieldsAgree fuel := by
  induction fuel with
  | zero =>
      refine ⟨?_, ?_, ?_⟩
      · exact fun _ _ => .fault rfl
      · exact fun _ _ _ => .fault rfl
      · exact fun _ _ _ => .fault rfl
  | succ fuel ih =>
      rcases ih with ⟨hValues, hItems, hFields⟩
      exact ⟨valuesAgree hItems hFields,
        itemsAgree hValues hItems, fieldsAgree hValues hFields⟩

end Json

end EventFlow

------------------------------------------------------------
-- Whole Texts
------------------------------------------------------------

namespace EventFlow

namespace Json

variable {depth : Nat}
variable {cs : List Char}

/- A whole value is read the same way. -/
theorem readsWhole_unifyLines_iff
    (fuel : Nat)
    (v : Value) :
    ReadsWhole fuel depth (Text.unifyLines cs) v ↔
      ReadsWhole fuel depth cs v := by
  have hAgrees := (agrees_all fuel).1 depth (skipGap cs)
  unfold ReadsWhole
  rw [skipGap_unifyLines]
  generalize readValue fuel depth (skipGap cs) = r
    at hAgrees ⊢
  generalize
    readValue fuel depth
      (Text.unifyLines (skipGap cs)) = r' at hAgrees ⊢
  cases hAgrees with
  | fault hKind =>
      constructor
      · rintro ⟨rest, hEq, -⟩
        cases hEq
      · rintro ⟨rest, hEq, -⟩
        cases hEq
  | found w rest =>
      constructor
      · rintro ⟨_, hEq, hEnd⟩
        cases hEq
        refine ⟨rest, rfl, ?_⟩
        rw [skipGap_unifyLines] at hEnd
        exact Text.eq_nil_of_unifyLines hEnd
      · rintro ⟨_, hEq, hEnd⟩
        cases hEq
        refine ⟨_, rfl, ?_⟩
        rw [skipGap_unifyLines, hEnd]
        rfl

/- Where the reader stops does not depend on line ends. -/
theorem stopsAt_unifyLines_iff
    (fuel : Nat)
    (o : Obstacle) :
    StopsAt o
        (readValue fuel depth
          (skipGap (Text.unifyLines cs))) ↔
      StopsAt o (readValue fuel depth (skipGap cs)) := by
  rw [skipGap_unifyLines]
  exact (((agrees_all fuel).1 depth (skipGap cs)).stopsAt_iff
    o).symm

/- Steps enough to read characters and their unified lines. -/
def ampleFuel (cs : List Char) : Nat :=
  2 * cs.length + 2 * (Text.unifyLines cs).length + 1

theorem length_lt_ampleFuel (cs : List Char) :
    2 * cs.length < ampleFuel cs ∧
      2 * (Text.unifyLines cs).length < ampleFuel cs := by
  unfold ampleFuel
  omega

/- What is too large does not depend on line ends. -/
theorem isTooLarge_unifyLines_iff :
    IsTooLarge depth (Text.unifyLines cs) ↔
      IsTooLarge depth cs := by
  rcases length_lt_ampleFuel cs with ⟨hBefore, hAfter⟩
  rw [isTooLarge_iff hBefore, isTooLarge_iff hAfter,
    stopsAt_unifyLines_iff]

/- Without an obstacle there is none with unified lines. -/
theorem not_comesTo_unifyLines
    (hNone : ∀ o, ¬ ComesTo o depth cs)
    (o : Obstacle) :
    ¬ ComesTo o depth (Text.unifyLines cs) := by
  intro hComes
  rcases stopsBefore_of_comesTo (length_lt_ampleFuel cs).2
      hComes with ⟨o', -, hStops⟩
  rw [stopsAt_unifyLines_iff] at hStops
  exact hNone o' (comesTo_of_stopsAt hStops)

/- What is JSON does not depend on line ends. -/
theorem isJson_unifyLines_iff
    (hSmall : ¬ IsTooLarge depth cs)
    (v : Value) :
    IsJson (Text.unifyLines cs) v ↔ IsJson cs v := by
  rcases length_lt_ampleFuel cs with ⟨hBefore, hAfter⟩
  have hUnified : ¬ IsTooLarge depth (Text.unifyLines cs) := by
    rwa [isTooLarge_unifyLines_iff]
  constructor
  · intro hJson
    exact isJson_of_readsWhole
      ((readsWhole_unifyLines_iff _ v).mp
        (readsWhole_of_isJson hAfter hJson hUnified))
  · intro hJson
    exact isJson_of_readsWhole
      ((readsWhole_unifyLines_iff _ v).mpr
        (readsWhole_of_isJson hBefore hJson hSmall))

/- What is read is read with unified line ends, too. -/
theorem parse_unifyLines
    {s : String}
    {v : Value}
    (hParse : parse depth s = .ok v) :
    parse depth (String.ofList (Text.unifyLines s.toList)) =
      .ok v := by
  rcases parse_cases depth s with
    ⟨w, hRead, hJson, hNone⟩ | ⟨fault, -, hStop, -⟩ |
      ⟨fault, hStop, -⟩
  · rw [hParse] at hRead
    cases hRead
    have hSame :=
      (isJson_unifyLines_iff (hNone .size) v).mpr hJson
    have hUnified := not_comesTo_unifyLines hNone
    have hCases :=
      parse_cases depth
        (String.ofList (Text.unifyLines s.toList))
    rw [String.toList_ofList] at hCases
    rcases hCases with
      ⟨w, hRead, hOther, -⟩ | ⟨_, o, -, -, hComes, -⟩ |
        ⟨_, -, -, hNothing, -⟩
    · rw [hRead,
        isJson_unique (hUnified .size) hOther hSame]
    · exact absurd hComes (hUnified o)
    · exact absurd hSame (hNothing v)
  · rw [hParse] at hStop
    cases hStop
  · rw [hParse] at hStop
    cases hStop

end Json

end EventFlow
