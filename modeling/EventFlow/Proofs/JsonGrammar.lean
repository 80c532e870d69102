import EventFlow.Proofs.JsonNumbers

/-
  What JSON is.

  The grammar of JSON as relations between characters and
  what they stand for, without a reader: texts with their
  escapes, and values within values, with white space around
  brackets, commas and colons.  The grammar bounds neither
  the depth of a value nor the digits of an integer.

  Half of a surrogate pair alone is in the grammar and yet no
  character, so what is between two quotes may spell more
  than a text of characters.

  The reader of texts is compared with the grammar here.  It
  finds the text that stands in front, comes to half of a
  surrogate pair, or tells a fault of the grammar.

  Key definitions include:
    * `Json.Spells`
    * `Json.IsText` and `Json.IsHalved`
    * `Json.AreGaps`
    * `Json.IsValue`
    * `Json.IsJson`

  Key theorems include:
    * `Json.readText_tells` and `Json.readText_of_isText`
    * `Json.IsValue.isStart`
-/

------------------------------------------------------------
-- Texts
------------------------------------------------------------

namespace EventFlow

namespace Json

/-
  Whether a numbered escape stands in front that makes one
  character of two with a surrogate before it.
-/
def Joins
    (n : Nat)
    (cs : List Char) : Prop :=
  ∃ w x y z m more,
    cs = '\\' :: 'u' :: w :: x :: y :: z :: more ∧
      hexWord? w x y z = some m ∧
        Text.isHighSurrogate n = true ∧
          Text.isLowSurrogate m = true

/-
  What stands between two quotes, and what it spells.  Half
  of a surrogate pair alone spells no character.
-/
inductive Spells : List Char → List (Option Char) → Prop where
| empty : Spells [] []
| plain
    {c : Char}
    {ws : List Char}
    {spelled : List (Option Char)}
    (hQuote : c ≠ '"')
    (hEscape : c ≠ '\\')
    (hControl : ¬ c.toNat ≤ 0x1f)
    (hMore : Spells ws spelled) :
    Spells (c :: ws) (some c :: spelled)
| short
    {c e : Char}
    {ws : List Char}
    {spelled : List (Option Char)}
    (hLetter : escaped? c = some e)
    (hMore : Spells ws spelled) :
    Spells ('\\' :: c :: ws) (some e :: spelled)
| numbered
    {a b c d : Char}
    {n : Nat}
    {ws : List Char}
    {spelled : List (Option Char)}
    (hWord : hexWord? a b c d = some n)
    (hAlone : ¬ Joins n ws)
    (hMore : Spells ws spelled) :
    Spells ('\\' :: 'u' :: a :: b :: c :: d :: ws)
      (Text.charOf? n :: spelled)
| joined
    {a b c d w x y z : Char}
    {n m : Nat}
    {ws : List Char}
    {spelled : List (Option Char)}
    (hFirst : hexWord? a b c d = some n)
    (hSecond : hexWord? w x y z = some m)
    (hHigh : Text.isHighSurrogate n = true)
    (hLow : Text.isLowSurrogate m = true)
    (hMore : Spells ws spelled) :
    Spells
      ('\\' :: 'u' :: a :: b :: c :: d ::
        '\\' :: 'u' :: w :: x :: y :: z :: ws)
      (some (Text.joined n m) :: spelled)

/- What stands between two quotes, and the text that it is. -/
def IsText (ws cs : List Char) : Prop :=
  Spells ws (cs.map some)

/- Whether half of a surrogate pair alone is between quotes. -/
def IsHalved (ws : List Char) : Prop :=
  ∃ spelled, Spells ws spelled ∧ none ∈ spelled

variable {n : Nat}
variable {ws cs rest : List Char}

theorem Joins.append
    (hJoins : Joins n ws)
    (rest : List Char) :
    Joins n (ws ++ rest) := by
  rcases hJoins with ⟨w, x, y, z, m, more, rfl, hFound⟩
  exact ⟨w, x, y, z, m, more ++ rest, rfl, hFound⟩

/- A part in front without a mark stands before the mark. -/
theorem exists_of_append_mark
    {mark : Char}
    {front more : List Char}
    (hNone : mark ∉ front)
    (hEq : ws ++ mark :: rest = front ++ more) :
    ∃ between, ws = front ++ between := by
  rcases List.append_eq_append_iff.mp hEq with
    ⟨between, hFront, hMore⟩ | ⟨between, hBody, -⟩
  · cases between with
    | nil =>
        rw [List.append_nil] at hFront
        exact ⟨[], by rw [hFront, List.append_nil]⟩
    | cons c between =>
        cases (List.cons.inj hMore).1
        exact absurd (by simp [hFront]) hNone
  · exact ⟨between, hBody⟩

/- A numbered escape has hexadecimal digits only. -/
theorem not_mem_of_hexWord
    {a b c d x : Char}
    (hOther : Text.hexDigit? x = none)
    (hWord : hexWord? a b c d = some n) :
    x ∉ [a, b, c, d] := by
  intro hMem
  simp only [List.mem_cons, List.not_mem_nil, or_false]
    at hMem
  rcases hMem with rfl | rfl | rfl | rfl
  all_goals simp [hexWord?, hOther] at hWord

/- A quote is no part of a numbered escape. -/
theorem joins_of_append
    (hJoins : Joins n (ws ++ '"' :: rest)) :
    Joins n ws := by
  rcases hJoins with ⟨w, x, y, z, m, more, hEq, hWord, hPair⟩
  have hNone : '"' ∉ ['\\', 'u', w, x, y, z] := by
    have hDigits := not_mem_of_hexWord (x := '"') rfl hWord
    simpa using hDigits
  rcases exists_of_append_mark hNone hEq with
    ⟨between, hBody⟩
  exact ⟨w, x, y, z, m, between, hBody, hWord, hPair⟩

end Json

end EventFlow

------------------------------------------------------------
-- Reading Texts
------------------------------------------------------------

namespace EventFlow

namespace Json

variable {opening n : Nat}
variable {ws cs rest : List Char}

/- A character that stands for itself. -/
theorem readSpelled_plain
    {c : Char}
    (hQuote : c ≠ '"')
    (hEscape : c ≠ '\\')
    (hControl : ¬ c.toNat ≤ 0x1f)
    (rest : List Char) :
    readSpelled opening (c :: rest) =
      consSpelled (some c) (readSpelled opening rest) := by
  rw [readSpelled, if_neg hControl]
  · exact hQuote
  · intro hEq
    exact absurd hEq hEscape
  · intro _ _ _ _ _ hEq
    exact absurd hEq hEscape
  · intro _ hEq
    exact absurd hEq hEscape
  · intro _ _ hEq
    exact absurd hEq hEscape

/- The character of an escape alone. -/
theorem readSpelled_alone
    {a b c d : Char}
    (hWord : hexWord? a b c d = some n)
    (hAlone : ¬ Joins n cs)
    (hMore : cs ≠ []) :
    readSpelled opening
        ('\\' :: 'u' :: a :: b :: c :: d :: cs) =
      consSpelled (Text.charOf? n)
        (readSpelled opening cs) := by
  rw [readSpelled, hWord]
  dsimp only
  split
  · exact absurd rfl hMore
  · split
    · rename_i hSecond
      rw [if_neg]
      intro hPair
      rw [Bool.and_eq_true] at hPair
      exact hAlone
        ⟨_, _, _, _, _, _, rfl, hSecond, hPair⟩
    · rfl
  · rfl

/- The character of two escapes together. -/
theorem readSpelled_joined
    {a b c d w x y z : Char}
    {m : Nat}
    (hFirst : hexWord? a b c d = some n)
    (hSecond : hexWord? w x y z = some m)
    (hHigh : Text.isHighSurrogate n = true)
    (hLow : Text.isLowSurrogate m = true)
    (hMore : cs ≠ []) :
    readSpelled opening
        ('\\' :: 'u' :: a :: b :: c :: d ::
          '\\' :: 'u' :: w :: x :: y :: z :: cs) =
      consSpelled (some (Text.joined n m))
        (readSpelled opening cs) := by
  cases cs with
  | nil => exact absurd rfl hMore
  | cons next more =>
      rw [readSpelled, hFirst]
      dsimp only
      split
      next hNone => cases hNone
      next hPair =>
          cases hPair
          rw [hSecond]
          dsimp only
          rw [hHigh, hLow, Bool.and_true, if_pos rfl]
      next hOther => exact absurd rfl (hOther _ _ _ _ _ _)

/- The character of a short escape. -/
theorem readSpelled_short
    {c e : Char}
    (hLetter : escaped? c = some e)
    (cs : List Char) :
    readSpelled opening ('\\' :: c :: cs) =
      consSpelled (some e) (readSpelled opening cs) := by
  unfold escaped? at hLetter
  split at hLetter
  all_goals
    cases hLetter
  all_goals rfl

/- What is spelled is read up to the quote behind it. -/
theorem readSpelled_of_spells
    {spelled : List (Option Char)}
    (hSpells : Spells ws spelled)
    (rest : List Char) :
    readSpelled opening (ws ++ '"' :: rest) =
      .ok (spelled, rest) := by
  have hFilled (ws : List Char) : ws ++ '"' :: rest ≠ [] :=
    List.append_ne_nil_of_right_ne_nil _ (List.cons_ne_nil _ _)
  induction hSpells with
  | empty => rfl
  | plain hQuote hEscape hControl hMore ih =>
      rw [List.cons_append,
        readSpelled_plain hQuote hEscape hControl, ih]
      rfl
  | short hLetter hMore ih =>
      rw [List.cons_append, List.cons_append,
        readSpelled_short hLetter, ih]
      rfl
  | numbered hWord hAlone hMore ih =>
      simp only [List.cons_append]
      rw [readSpelled_alone hWord
        (fun hJoins => hAlone (joins_of_append hJoins))
        (hFilled _), ih]
      rfl
  | joined hFirst hSecond hHigh hLow hMore ih =>
      simp only [List.cons_append]
      rw [readSpelled_joined hFirst hSecond hHigh hLow
        (hFilled _), ih]
      rfl

/- What is spelled in front of a quote. -/
def StartsSpelled
    (cs : List Char)
    (spelled : List (Option Char))
    (rest : List Char) : Prop :=
  ∃ ws, cs = ws ++ '"' :: rest ∧ Spells ws spelled

/- What is spelled goes in front of what was read. -/
theorem tells_consSpelled
    (front : List Char)
    {c? : Option Char}
    {r : Reading (List (Option Char))}
    (hMore : Tells (StartsSpelled cs) (fun _ => False) r)
    (hFront :
      ∀ ws spelled rest,
        cs = ws ++ '"' :: rest →
          Spells ws spelled →
            Spells (front ++ ws) (c? :: spelled)) :
    Tells (StartsSpelled (front ++ cs)) (fun _ => False)
      (consSpelled c? r) := by
  refine tells_map (c? :: ·) (hMore.mono ?_ fun _ => id)
  rintro spelled rest ⟨ws, rfl, hSpells⟩
  refine ⟨front ++ ws, (List.append_assoc ..).symm, ?_⟩
  exact hFront _ _ _ rfl hSpells

/- The same for an escape that joins no other. -/
theorem tells_numbered
    {a b c d : Char}
    {r : Reading (List (Option Char))}
    (hWord : hexWord? a b c d = some n)
    (hAlone :
      ∀ ws rest, cs = ws ++ '"' :: rest → ¬ Joins n ws)
    (hMore : Tells (StartsSpelled cs) (fun _ => False) r) :
    Tells
      (StartsSpelled ('\\' :: 'u' :: a :: b :: c :: d :: cs))
      (fun _ => False) (consSpelled (Text.charOf? n) r) :=
  tells_consSpelled ['\\', 'u', a, b, c, d] hMore
    fun _ _ _ hEq => .numbered hWord (hAlone _ _ hEq)

/- What is read between quotes is spelled there. -/
theorem readSpelled_tells
    (opening : Nat)
    (cs : List Char) :
    Tells (StartsSpelled cs) (fun _ => False)
      (readSpelled opening cs) := by
  fun_induction readSpelled opening cs with
  | case1 => exact tells_fault rfl
  | case2 rest => exact ⟨[], rfl, .empty⟩
  | case3 => exact tells_fault rfl
  | case4 => exact tells_fault rfl
  | case5 => exact tells_fault rfl
  | case6 a b c d n hFirst w x y z _ _ m hSecond hPair ih =>
      rw [Bool.and_eq_true] at hPair
      exact tells_consSpelled
        ['\\', 'u', a, b, c, d, '\\', 'u', w, x, y, z] ih
        fun _ _ _ _ => .joined hFirst hSecond hPair.1 hPair.2
  | case7 a b c d n hFirst w x y z _ _ m hSecond hPair ih =>
      refine tells_numbered hFirst ?_ ih
      intro ws rest hEq hJoins
      rcases hEq ▸ hJoins.append _ with
        ⟨_, _, _, _, m', _, hSame, hWord, hBoth⟩
      cases hSame
      rw [hSecond] at hWord
      cases hWord
      rw [Bool.and_eq_true] at hPair
      exact hPair hBoth
  | case8 a b c d n hFirst w x y z _ _ hSecond ih =>
      refine tells_numbered hFirst ?_ ih
      intro ws rest hEq hJoins
      rcases hEq ▸ hJoins.append _ with
        ⟨_, _, _, _, m', _, hSame, hWord, -⟩
      cases hSame
      rw [hSecond] at hWord
      cases hWord
  | case9 a b c d n hFirst cs _ hNone ih =>
      refine tells_numbered hFirst ?_ ih
      rintro ws rest hEq ⟨w, x, y, z, _, more, rfl, -⟩
      cases more with
      | nil => exact hNone _ _ _ _ _ _ hEq
      | cons next more => exact hNone _ _ _ _ _ _ hEq
  | case10 => exact tells_fault rfl
  | case11 c rest _ _ e hLetter ih =>
      exact tells_consSpelled ['\\', c] ih
        fun _ _ _ _ => .short hLetter
  | case12 => exact tells_fault rfl
  | case13 => exact tells_fault rfl
  | case14 c rest hQuote hLast _ _ hEscape hControl ih =>
      have hPlain : c ≠ '\\' := by
        rintro rfl
        cases rest with
        | nil => exact hLast rfl rfl
        | cons d rest => exact hEscape _ _ rfl rfl
      exact tells_consSpelled [c] ih
        fun _ _ _ _ => .plain hQuote hPlain hControl

end Json

end EventFlow

------------------------------------------------------------
-- Texts of Characters
------------------------------------------------------------

namespace EventFlow

namespace Json

variable {opening : Nat}
variable {ws cs : List Char}
variable {spelled : List (Option Char)}

/- What spells characters only is a text of them. -/
theorem mapM_id_eq_some_iff :
    spelled.mapM id = some cs ↔ spelled = cs.map some := by
  induction spelled generalizing cs with
  | nil => cases cs <;> simp
  | cons c? spelled ih =>
      rw [List.mapM_cons]
      cases c? with
      | none => cases cs <;> simp
      | some c =>
          cases cs with
          | nil => simp [Option.bind_eq_some_iff]
          | cons d cs =>
              rw [List.map_cons, List.cons.injEq,
                Option.some_inj, ← ih]
              simp [Option.bind_eq_some_iff, and_comm]

/- What is no text of characters has half a pair in it. -/
theorem none_mem_of_mapM_id
    (hNone : spelled.mapM id = none) :
    none ∈ spelled := by
  induction spelled with
  | nil => simp at hNone
  | cons c? spelled ih =>
      cases c? with
      | none => exact List.mem_cons_self
      | some c =>
          refine List.mem_cons_of_mem _ (ih ?_)
          rw [List.mapM_cons] at hNone
          cases hMore : spelled.mapM id with
          | none => rfl
          | some cs =>
              rw [hMore] at hNone
              cases hNone

/- A text is read up to the quote behind it. -/
theorem readText_of_isText
    (hText : IsText ws cs)
    (rest : List Char) :
    readText opening (ws ++ '"' :: rest) =
      .ok (cs, rest) := by
  rw [readText, readSpelled_of_spells hText]
  dsimp only
  rw [mapM_id_eq_some_iff.mpr rfl]

/- The reader stops behind half of a surrogate pair. -/
theorem readText_of_isHalved
    (hHalved : IsHalved ws)
    (rest : List Char) :
    readText opening (ws ++ '"' :: rest) =
      stopAt .unpaired rest := by
  rcases hHalved with ⟨spelled, hSpells, hNone⟩
  rw [readText, readSpelled_of_spells hSpells]
  dsimp only
  cases hText : spelled.mapM id with
  | none => rfl
  | some cs =>
      rw [mapM_id_eq_some_iff.mp hText] at hNone
      simp at hNone

/- Whether a text stands in front, and a quote behind it. -/
def StartsText
    (cs found rest : List Char) : Prop :=
  ∃ ws, cs = ws ++ '"' :: rest ∧ IsText ws found

/- Whether half of a surrogate pair is in the text in front. -/
def StartsHalved (cs : List Char) : Prop :=
  ∃ ws rest, cs = ws ++ '"' :: rest ∧ IsHalved ws

/- What is read as a text is one, and all faults are told. -/
theorem readText_tells
    (opening : Nat)
    (cs : List Char) :
    Tells (StartsText cs)
      (fun o => o = .pairing ∧ StartsHalved cs)
      (readText opening cs) := by
  have hTells := readSpelled_tells opening cs
  rw [readText]
  cases hRead : readSpelled opening cs with
  | error stop =>
      rw [hRead] at hTells
      exact fun o hStop => (hTells o hStop).elim
  | ok read =>
      rcases read with ⟨spelled, rest⟩
      rw [hRead] at hTells
      rcases hTells with ⟨ws, rfl, hSpells⟩
      dsimp only
      cases hText : spelled.mapM id with
      | some cs =>
          rw [mapM_id_eq_some_iff.mp hText] at hSpells
          exact ⟨ws, rfl, hSpells⟩
      | none =>
          intro o hStop
          exact ⟨(Option.some_inj.mp hStop).symm, ws, rest,
            rfl, spelled, hSpells, none_mem_of_mapM_id hText⟩

end Json

end EventFlow

------------------------------------------------------------
-- White Space
------------------------------------------------------------

namespace EventFlow

namespace Json

/- Whether all characters are white space. -/
def AreGaps (cs : List Char) : Prop :=
  ∀ c ∈ cs, isGap c = true

/- Whether a value may start here. -/
def IsStart (cs : List Char) : Prop :=
  ∃ c ∈ cs.head?,
    isGap c = false ∧
      c ≠ ']' ∧ c ≠ '\x7d' ∧ c ≠ Text.byteOrderMark

variable {cs gap : List Char}

theorem skipGap_append
    (hGap : AreGaps gap)
    (cs : List Char) :
    skipGap (gap ++ cs) = skipGap cs :=
  List.dropWhile_append_of_pos hGap

theorem skipGap_cons
    {c : Char}
    (hStop : isGap c = false)
    (cs : List Char) :
    skipGap (c :: cs) = c :: cs := by
  rw [skipGap, List.dropWhile_cons, if_neg]
  rw [hStop]
  exact Bool.false_ne_true

theorem IsStart.skipGap (hStart : IsStart cs) :
    skipGap cs = cs := by
  rcases hStart with ⟨c, hHead, hStop, -⟩
  cases cs with
  | nil => cases hHead
  | cons d cs =>
      obtain rfl := Option.some_inj.mp hHead
      exact skipGap_cons hStop cs

/- White space, brackets and commas end a number. -/
theorem endsNumber_of_head
    (hHead :
      ∀ c ∈ cs.head?,
        isGap c = true ∨ c = ']' ∨ c = '\x7d' ∨ c = ',') :
    EndsNumber cs := by
  have hEnd :
      ∀ c ∈ cs.head?,
        isDigit c = false ∧ c ≠ '.' ∧ c ≠ 'e' ∧ c ≠ 'E' := by
    intro c hMem
    have hCases := hHead c hMem
    unfold isGap at hCases
    simp only [Bool.or_eq_true, decide_eq_true_eq] at hCases
    rcases hCases with
      (((rfl | rfl) | rfl) | rfl) | rfl | rfl | rfl
    all_goals decide
  exact
    { digit := fun c hMem => (hEnd c hMem).1
      point := fun hMem => (hEnd _ hMem).2.1 rfl
      lower := fun hMem => (hEnd _ hMem).2.2.1 rfl
      upper := fun hMem => (hEnd _ hMem).2.2.2 rfl }

/- A number ends in front of what may stand behind a value. -/
theorem endsNumber_before
    {c : Char}
    (hGap : AreGaps gap)
    (hBehind : c = ']' ∨ c = '\x7d' ∨ c = ',')
    (rest : List Char) :
    EndsNumber (gap ++ c :: rest) := by
  refine endsNumber_of_head fun d hHead => ?_
  cases gap with
  | nil =>
      obtain rfl := Option.some_inj.mp hHead
      exact .inr hBehind
  | cons g gap =>
      obtain rfl := Option.some_inj.mp hHead
      exact .inl (hGap _ List.mem_cons_self)

end Json

end EventFlow

------------------------------------------------------------
-- Values
------------------------------------------------------------

namespace EventFlow

namespace Json

/- A key with the colon behind it, up to the value. -/
inductive IsKey : List Char → String → Prop where
| mk
    {ws cs before behind : List Char}
    (hText : IsText ws cs)
    (hBefore : AreGaps before)
    (hBehind : AreGaps behind) :
    IsKey ('"' :: (ws ++ '"' :: (before ++ ':' :: behind)))
      (String.ofList cs)

mutual

/- A value, and what it is written as. -/
inductive IsValue : List Char → Value → Prop where
| word
    {word : String}
    {v : Value}
    (hWord : (word, v) ∈ words) :
    IsValue word.toList v
| text
    {ws cs : List Char}
    (hText : IsText ws cs) :
    IsValue ('"' :: (ws ++ ['"'])) (.str (String.ofList cs))
| number
    {ws : List Char}
    {v : Value}
    (hNumber : IsNumber ws v) :
    IsValue ws v
| emptyList
    {gap : List Char}
    (hGap : AreGaps gap) :
    IsValue ('[' :: (gap ++ [']'])) (.list [])
| list
    {before items behind : List Char}
    {vs : List Value}
    (hBefore : AreGaps before)
    (hItems : AreItems items vs)
    (hBehind : AreGaps behind) :
    IsValue
      ('[' :: (before ++ (items ++ (behind ++ [']']))))
      (.list vs)
| emptyObject
    {gap : List Char}
    (hGap : AreGaps gap) :
    IsValue ('\x7b' :: (gap ++ ['\x7d'])) (.object [])
| object
    {before fields behind : List Char}
    {fs : List (String × Value)}
    (hBefore : AreGaps before)
    (hFields : AreFields fields fs)
    (hBehind : AreGaps behind) :
    IsValue
      ('\x7b' :: (before ++ (fields ++ (behind ++ ['\x7d']))))
      (.object (Entries.ofPairs fs))

/- Items with commas between them. -/
inductive AreItems : List Char → List Value → Prop where
| last
    {ws : List Char}
    {v : Value}
    (hValue : IsValue ws v) :
    AreItems ws [v]
| next
    {ws before behind items : List Char}
    {v : Value}
    {vs : List Value}
    (hValue : IsValue ws v)
    (hBefore : AreGaps before)
    (hBehind : AreGaps behind)
    (hMore : AreItems items vs) :
    AreItems (ws ++ (before ++ ',' :: (behind ++ items)))
      (v :: vs)

/- Fields with commas between them. -/
inductive AreFields :
    List Char → List (String × Value) → Prop where
| last
    {ks ws : List Char}
    {key : String}
    {v : Value}
    (hKey : IsKey ks key)
    (hValue : IsValue ws v) :
    AreFields (ks ++ ws) [(key, v)]
| next
    {ks ws before behind fields : List Char}
    {key : String}
    {v : Value}
    {fs : List (String × Value)}
    (hKey : IsKey ks key)
    (hValue : IsValue ws v)
    (hBefore : AreGaps before)
    (hBehind : AreGaps behind)
    (hMore : AreFields fields fs) :
    AreFields
      (ks ++ (ws ++ (before ++ ',' :: (behind ++ fields))))
      ((key, v) :: fs)

end

/- Characters that are JSON, and the value they stand for. -/
def IsJson
    (cs : List Char)
    (v : Value) : Prop :=
  ∃ before ws behind,
    cs = before ++ (ws ++ behind) ∧
      AreGaps before ∧ IsValue ws v ∧ AreGaps behind

end Json

end EventFlow

------------------------------------------------------------
-- First Characters
------------------------------------------------------------

namespace EventFlow

namespace Json

variable {ws ks : List Char}
variable {v : Value}

/- A number starts with a sign or a digit. -/
theorem head_of_isNumber
    (hNumber : IsNumber ws v) :
    ∃ isNegative c more,
      isDigit c = true ∧
        ws = signChars isNegative ++ c :: more := by
  have hHead
      {ds : List Char}
      (hWhole : IsWhole ds)
      (rest : List Char) :
      ∃ c more, isDigit c = true ∧ ds ++ rest = c :: more := by
    cases ds with
    | nil => exact absurd rfl hWhole.filled
    | cons c ds =>
        exact ⟨c, ds ++ rest,
          hWhole.digits c List.mem_cons_self, rfl⟩
  cases hNumber with
  | integer isNegative hWhole =>
      rcases hHead hWhole [] with ⟨c, more, hDigit, hEq⟩
      rw [List.append_nil] at hEq
      exact ⟨isNegative, c, more, hDigit, by rw [hEq]⟩
  | decimal isNegative hWhole =>
      rcases hHead hWhole _ with ⟨c, more, hDigit, hEq⟩
      exact ⟨isNegative, c, more, hDigit, by rw [hEq]⟩

/- What starts like a number is a start. -/
theorem isStart_of_digit
    {c : Char}
    (hDigit : isDigit c = true)
    (isNegative : Bool)
    (more : List Char) :
    IsStart (signChars isNegative ++ c :: more) := by
  have hOther (d : Char) (hNone : isDigit d = false) :
      c ≠ d := by
    rintro rfl
    rw [hDigit] at hNone
    cases hNone
  cases isNegative with
  | true => exact ⟨'-', rfl, by decide⟩
  | false =>
      refine ⟨c, rfl, ?_, hOther _ rfl, hOther _ rfl,
        hOther _ rfl⟩
      simp [isGap, hOther ' ' rfl, hOther '\t' rfl,
        hOther '\n' rfl, hOther '\r' rfl]

/- What stands in front of a start is a start. -/
theorem IsStart.append
    (hStart : IsStart ws)
    (rest : List Char) :
    IsStart (ws ++ rest) := by
  rcases hStart with ⟨c, hHead, hRest⟩
  refine ⟨c, ?_, hRest⟩
  cases ws with
  | nil => cases hHead
  | cons d ws => exact hHead

/- A value starts as a value may. -/
theorem IsValue.isStart
    (hValue : IsValue ws v) :
    IsStart ws := by
  cases hValue with
  | word hWord =>
      simp only [words, List.mem_cons, Prod.mk.injEq,
        List.not_mem_nil, or_false] at hWord
      rcases hWord with ⟨rfl, rfl⟩ | ⟨rfl, rfl⟩ |
        ⟨rfl, rfl⟩ | ⟨rfl, rfl⟩ | ⟨rfl, rfl⟩ | ⟨rfl, rfl⟩
      all_goals exact ⟨_, rfl, by decide⟩
  | text => exact ⟨'"', rfl, by decide⟩
  | number hNumber =>
      rcases head_of_isNumber hNumber with
        ⟨isNegative, c, more, hDigit, rfl⟩
      exact isStart_of_digit hDigit isNegative more
  | emptyList => exact ⟨'[', rfl, by decide⟩
  | list => exact ⟨'[', rfl, by decide⟩
  | emptyObject => exact ⟨'\x7b', rfl, by decide⟩
  | object => exact ⟨'\x7b', rfl, by decide⟩

theorem AreItems.isStart
    {vs : List Value}
    (hItems : AreItems ws vs) :
    IsStart ws := by
  cases hItems with
  | last hValue => exact hValue.isStart
  | next hValue => exact hValue.isStart.append _

theorem IsKey.isStart
    {key : String}
    (hKey : IsKey ks key) :
    IsStart ks := by
  cases hKey
  exact ⟨'"', rfl, by decide⟩

theorem AreFields.isStart
    {fs : List (String × Value)}
    (hFields : AreFields ws fs) :
    IsStart ws := by
  cases hFields with
  | last hKey => exact hKey.isStart.append _
  | next hKey => exact hKey.isStart.append _

end Json

end EventFlow
