import EventFlow.Json.Printer
import EventFlow.Proofs.JsonReading
import EventFlow.Proofs.Numerals
import EventFlow.Proofs.Registries

/-
  Written values read back.

  A value is written by a layout of white space and commas.
  A written text is a text of JSON, and a written number is
  a numeral, so the reader undoes both.  A list or an object
  is undone member by member, where the induction is on the
  members behind the first and the value is followed by
  anything that ends a number.  The steps that the reader
  may take are bounded by the length of the text.

  Key definitions include:
    * `Value.IsPortable`
    * `Json.Layout.IsSpaced`
    * `Json.ReadsBack`

  Key theorems include:
    * `Json.isText_quoted`
    * `Json.readItems_render` and `Json.readFields_render`
    * `Json.readsBack`
    * `Json.parse_render`
-/

------------------------------------------------------------
-- Written Texts and Keys
------------------------------------------------------------

namespace EventFlow

namespace Json

/- The number of a control character in four digits. -/
theorem hexWord_hexText :
    ∀ n < 0x20,
      Text.hexText 4 n =
          ['0', '0', (n / 16).digitChar,
            (n % 16).digitChar] ∧
        hexWord? '0' '0' (n / 16).digitChar
            (n % 16).digitChar = some n ∧
        Text.isHighSurrogate n = false := by
  decide

variable {ws cs : List Char}

/- A written character stands for itself. -/
theorem isText_quotedChar
    (c : Char)
    (hMore : IsText ws cs) :
    IsText (quotedChar c ++ ws) (c :: cs) := by
  unfold quotedChar
  split
  · rename_i hEscape
    rw [Bool.or_eq_true, decide_eq_true_eq,
      decide_eq_true_eq] at hEscape
    rcases hEscape with rfl | rfl
    · exact .short rfl hMore
    · exact .short rfl hMore
  split
  · subst c
    exact .short rfl hMore
  split
  · subst c
    exact .short rfl hMore
  split
  · subst c
    exact .short rfl hMore
  split
  · subst c
    exact .short rfl hMore
  split
  · subst c
    exact .short rfl hMore
  split
  · rename_i hControl
    rcases hexWord_hexText c.toNat hControl with
      ⟨hText, hWord, hLow⟩
    have hAlone : ¬ Joins c.toNat ws := by
      rintro ⟨_, _, _, _, _, _, _, _, hHigh, _⟩
      rw [hLow] at hHigh
      cases hHigh
    have hChar : Text.charOf? c.toNat = some c := by
      unfold Text.charOf? Text.isLowSurrogate
      rw [hLow, Bool.false_or, if_neg, Char.ofNat_toNat]
      rw [Bool.and_eq_true, decide_eq_true_eq,
        decide_eq_true_eq]
      omega
    have hNumbered := Spells.numbered hWord hAlone hMore
    rw [hChar] at hNumbered
    rw [hText]
    exact hNumbered
  · rename_i hEscape _ _ _ _ _ hControl
    rw [Bool.or_eq_true, decide_eq_true_eq,
      decide_eq_true_eq, not_or] at hEscape
    exact .plain hEscape.1 hEscape.2 (by omega) hMore

/- A written text stands for itself. -/
theorem isText_quoted (cs : List Char) :
    IsText (cs.flatMap quotedChar) cs := by
  induction cs with
  | nil => exact .empty
  | cons c cs ih =>
      rw [List.flatMap_cons]
      exact isText_quotedChar c ih

/- A written text reads back as a value. -/
theorem readValue_quoted
    (fuel depth : Nat)
    (s : String)
    (rest : List Char) :
    readValue (fuel + 1) depth
        (quotedChars s.toList ++ rest) =
      .ok (.str s, rest) := by
  rw [quotedChars, List.cons_append, List.append_assoc,
    readValue, List.singleton_append,
    readText_of_isText (isText_quoted s.toList)]
  change
    Except.ok (Value.str (String.ofList s.toList), rest) = _
  rw [String.ofList_toList]

/- A key with its colon. -/
def keyChars (key : String) : List Char :=
  quotedChars key.toList ++ [':', ' ']

theorem isKey_keyChars (key : String) :
    IsKey (keyChars key) key := by
  have hKey :=
    IsKey.mk (isText_quoted key.toList)
      (List.forall_mem_nil _)
      (List.forall_mem_singleton.mpr (rfl : isGap ' ' = true))
  rw [String.ofList_toList] at hKey
  rw [keyChars, quotedChars, List.cons_append,
    List.append_assoc]
  exact hKey

end Json

end EventFlow

------------------------------------------------------------
-- Values That Read Back
------------------------------------------------------------

namespace EventFlow

namespace Value

mutual

/-
  Whether a value can be written and read again: its numbers
  are finite and in the form that is kept, its integers are
  not too long, and no object has a key twice.
-/
def IsPortable : Value → Prop
| .int n => Json.IsShort n
| .float x => x.IsCanonical
| .list vs => ArePortable vs
| .object fs =>
    (fs.map Prod.fst).Nodup ∧ FieldsArePortable fs
| _ => True

/- Whether all items of a list are portable. -/
def ArePortable : List Value → Prop
| [] => True
| v :: vs => v.IsPortable ∧ ArePortable vs

/- Whether all fields of an object are portable. -/
def FieldsArePortable : List (String × Value) → Prop
| [] => True
| (_, v) :: fs => v.IsPortable ∧ FieldsArePortable fs

end

end Value

namespace Entries

variable {κ ν : Type}
variable [DecidableEq κ]

/- A new key goes to the end. -/
theorem put_of_fresh
    {key : κ}
    (value : ν)
    {es : List (κ × ν)}
    (hFresh : key ∉ es.map Prod.fst) :
    put key value es = es ++ [(key, value)] := by
  induction es with
  | nil => rfl
  | cons first rest ih =>
      rw [List.map_cons, List.mem_cons, not_or] at hFresh
      rw [put, if_neg (Ne.symm hFresh.1), ih hFresh.2]
      rfl

/- Pairs with different keys are entries as they are. -/
theorem ofPairs_of_nodup
    {pairs : List (κ × ν)}
    (hNodup : (pairs.map Prod.fst).Nodup) :
    ofPairs pairs = pairs := by
  induction pairs using List.reverseRecOn with
  | nil => rfl
  | append_singleton pairs pair ih =>
      rw [List.map_append, List.nodup_append] at hNodup
      rcases hNodup with ⟨hBefore, -, hApart⟩
      have hFresh : pair.1 ∉ pairs.map Prod.fst := by
        intro hMem
        exact hApart _ hMem _ (List.mem_singleton_self _) rfl
      rw [ofPairs_concat, ih hBefore, put_of_fresh _ hFresh]

end Entries

namespace Json

/-
  Whether a layout writes nothing but white space and the
  commas between the parts of a value.
-/
structure Layout.IsSpaced (l : Layout) : Prop where
  comma : ∃ spaces, AreGaps spaces ∧ l.comma = ',' :: spaces
  gap : ∀ depth, AreGaps (l.gap depth)

theorem isSpaced_inLine : inLine.IsSpaced where
  comma := ⟨[' '], List.forall_mem_singleton.mpr rfl, rfl⟩
  gap := fun _ => List.forall_mem_nil _

theorem isSpaced_overLines : overLines.IsSpaced where
  comma := ⟨[], List.forall_mem_nil _, rfl⟩
  gap := by
    intro depth c hMem
    rcases List.mem_cons.mp hMem with rfl | hSpace
    · rfl
    · rw [List.eq_of_mem_replicate hSpace]
      rfl

variable {l : Layout}

/- The comma of a layout and the white space behind it. -/
theorem Layout.IsSpaced.comma_append
    (hSpaced : l.IsSpaced)
    (k : Nat)
    (more : List Char) :
    ∃ gap, AreGaps gap ∧
      l.comma ++ l.gap k ++ more = ',' :: (gap ++ more) := by
  rcases hSpaced.comma with ⟨spaces, hGap, hComma⟩
  refine ⟨spaces ++ l.gap k, ?_, ?_⟩
  · intro c hMem
    rcases List.mem_append.mp hMem with hMem | hMem
    · exact hGap c hMem
    · exact hSpaced.gap k c hMem
  · rw [hComma]
    rfl

/- What stands behind an item ends a number. -/
theorem endsNumber_items
    (hSpaced : l.IsSpaced)
    (vs : List Value)
    (k : Nat)
    {closing : List Char}
    (hEnds : EndsNumber closing) :
    EndsNumber (renderItems l k vs ++ closing) := by
  cases vs with
  | nil => exact hEnds
  | cons v vs =>
      rcases hSpaced.comma with ⟨spaces, -, hComma⟩
      rw [renderItems, hComma]
      refine endsNumber_of_head fun c hHead => ?_
      obtain rfl := Option.some_inj.mp hHead
      exact .inr (.inr (.inr rfl))

/- What stands behind a field ends a number. -/
theorem endsNumber_fields
    (hSpaced : l.IsSpaced)
    (fs : List (String × Value))
    (k : Nat)
    {closing : List Char}
    (hEnds : EndsNumber closing) :
    EndsNumber (renderFields l k fs ++ closing) := by
  cases fs with
  | nil => exact hEnds
  | cons field fs =>
      rcases hSpaced.comma with ⟨spaces, -, hComma⟩
      rw [renderFields, hComma]
      refine endsNumber_of_head fun c hHead => ?_
      obtain rfl := Option.some_inj.mp hHead
      exact .inr (.inr (.inr rfl))

/- An item is longer than its value, by its comma. -/
theorem length_renderItems
    (hSpaced : l.IsSpaced)
    (v : Value)
    (vs : List Value)
    (k : Nat) :
    (renderChars l k v).length +
        (renderItems l k vs).length + 1 ≤
      (renderItems l k (v :: vs)).length := by
  rcases hSpaced.comma with ⟨spaces, -, hComma⟩
  rw [renderItems, hComma]
  simp only [List.length_append, List.length_cons]
  omega

/- A field is longer than its value, too. -/
theorem length_renderFields
    (hSpaced : l.IsSpaced)
    (key : String)
    (v : Value)
    (fs : List (String × Value))
    (k : Nat) :
    (renderChars l k v).length +
        (renderFields l k fs).length + 1 ≤
      (renderFields l k ((key, v) :: fs)).length := by
  rcases hSpaced.comma with ⟨spaces, -, hComma⟩
  rw [renderFields, hComma]
  simp only [List.length_append, List.length_cons]
  omega

/- Whether a value reads back, whatever follows it. -/
def ReadsBack
    (l : Layout)
    (v : Value) : Prop :=
  ∀ k depth fuel rest,
    v.depth ≤ depth →
      (renderChars l k v).length ≤ fuel →
        EndsNumber rest →
          readValue fuel depth (renderChars l k v ++ rest) =
            .ok (v, rest)

/-
  The items behind one that is read are read up to the
  closing bracket.
-/
theorem readItems_render
    (hSpaced : l.IsSpaced)
    {k depth : Nat}
    {gap : List Char}
    (hGap : AreGaps gap)
    (rest : List Char)
    (vs : List Value) :
    (∀ v ∈ vs, ReadsBack l v) →
      Value.depthOfItems vs ≤ depth →
        ∀ fuel v cs read,
          (renderItems l k vs).length ≤ fuel →
            readValue fuel depth cs =
                .ok
                  (v, renderItems l k vs ++
                    (gap ++ ']' :: rest)) →
              readItems (fuel + 1) depth read cs =
                .ok (read.reverse ++ v :: vs, rest) := by
  induction vs with
  | nil =>
      intro _ _ fuel v cs read _ hRead
      rw [readItems_eq, readMember_close hRead hGap rfl,
        List.reverse_cons]
  | cons w ws ih =>
      intro hItems hDepth fuel v cs read hFuel hRead
      have hLength := length_renderItems hSpaced w ws k
      rcases Nat.exists_eq_add_one_of_ne_zero
          (by omega : fuel ≠ 0) with ⟨left, rfl⟩
      rw [Value.depthOfItems, max_le_iff] at hDepth
      rcases hSpaced.comma_append k
          (renderChars l k w ++
            (renderItems l k ws ++ (gap ++ ']' :: rest))) with
        ⟨before, hBefore, hComma⟩
      rw [renderItems, List.append_assoc _ (renderItems l k ws),
        List.append_assoc, hComma] at hRead
      have hEnds :
          EndsNumber
            (renderItems l k ws ++ (gap ++ ']' :: rest)) :=
        endsNumber_items hSpaced ws k
          (endsNumber_before hGap (.inl rfl) rest)
      have hNext :=
        hItems w List.mem_cons_self k depth left _ hDepth.1
          (by omega) hEnds
      rw [readItems_eq,
        readMember_comma hRead (List.forall_mem_nil _) hBefore
          (isStart_of_readValue hNext) (by decide),
        ih (fun v hMem => hItems v (.tail _ hMem)) hDepth.2
          left w _ _ (by omega) hNext,
        List.reverse_cons, List.append_assoc]
      rfl

/- The same for the fields behind one that is read. -/
theorem readFields_render
    (hSpaced : l.IsSpaced)
    {k depth : Nat}
    {gap : List Char}
    (hGap : AreGaps gap)
    (rest : List Char)
    (fs : List (String × Value)) :
    (∀ field ∈ fs, ReadsBack l field.2) →
      Value.depthOfFields fs ≤ depth →
        ∀ fuel key v cs read,
          (renderFields l k fs).length ≤ fuel →
            readValue fuel depth cs =
                .ok
                  (v, renderFields l k fs ++
                    (gap ++ '\x7d' :: rest)) →
              readFields (fuel + 1) depth read
                  (keyChars key ++ cs) =
                .ok (read.reverse ++ (key, v) :: fs, rest) := by
  induction fs with
  | nil =>
      intro _ _ fuel key v cs read _ hRead
      rw [readFields_of_isKey (isKey_keyChars key)
          (isStart_of_readValue hRead),
        readMember_close hRead hGap rfl, List.reverse_cons]
  | cons field fs ih =>
      rcases field with ⟨name, w⟩
      intro hFields hDepth fuel key v cs read hFuel hRead
      have hLength := length_renderFields hSpaced name w fs k
      rcases Nat.exists_eq_add_one_of_ne_zero
          (by omega : fuel ≠ 0) with ⟨left, rfl⟩
      rw [Value.depthOfFields, max_le_iff] at hDepth
      rcases hSpaced.comma_append k
          (keyChars name ++ (renderChars l k w ++
            (renderFields l k fs ++
              (gap ++ '\x7d' :: rest)))) with
        ⟨before, hBefore, hComma⟩
      have hChars :
          renderFields l k ((name, w) :: fs) ++
              (gap ++ '\x7d' :: rest) =
            ',' :: (before ++
              (keyChars name ++ (renderChars l k w ++
                (renderFields l k fs ++
                  (gap ++ '\x7d' :: rest))))) := by
        rw [← hComma, renderFields, keyChars]
        simp only [List.append_assoc]
      rw [hChars] at hRead
      have hEnds :
          EndsNumber
            (renderFields l k fs ++
              (gap ++ '\x7d' :: rest)) :=
        endsNumber_fields hSpaced fs k
          (endsNumber_before hGap (.inr (.inl rfl)) rest)
      have hRest : (renderChars l k w).length ≤ left := by
        omega
      have hNext :=
        hFields (name, w) List.mem_cons_self k depth left _
          hDepth.1 hRest hEnds
      have hStart :
          IsStart
            (keyChars name ++ (renderChars l k w ++
              (renderFields l k fs ++
                (gap ++ '\x7d' :: rest)))) :=
        ⟨'"', rfl, by decide⟩
      rw [readFields_of_isKey (isKey_keyChars key)
          (isStart_of_readValue hRead),
        readMember_comma hRead (List.forall_mem_nil _)
          hBefore hStart (by decide),
        ih (fun field hMem => hFields field (.tail _ hMem))
          hDepth.2 left name w _ _ (by omega) hNext,
        List.reverse_cons, List.append_assoc]
      rfl

/- Numbers read back where they are read as numbers. -/
theorem readsBack_of_readNumber
    {v : Value}
    (hRead :
      ∀ k rest,
        EndsNumber rest →
          readNumber (renderChars l k v ++ rest) =
            .ok (v, rest)) :
    ReadsBack l v := by
  intro k depth fuel rest _ hFuel hEnds
  have hNumber := hRead k rest hEnds
  cases fuel with
  | zero =>
      -- Nothing is written of length zero.
      have hNil : renderChars l k v = [] :=
        List.length_eq_zero_iff.mp (Nat.le_zero.mp hFuel)
      have hBare := hRead k [] endsNumber_nil
      rw [hNil] at hBare
      cases hBare
  | succ fuel => exact readValue_of_readNumber hNumber

/- A list reads back if its items do. -/
theorem readsBack_list
    (hSpaced : l.IsSpaced)
    {vs : List Value}
    (hItems : ∀ v ∈ vs, ReadsBack l v) :
    ReadsBack l (.list vs) := by
  intro k depth fuel rest hDepth hFuel _
  rw [Value.depth] at hDepth
  rcases Nat.exists_eq_add_one_of_ne_zero
      (by omega : depth ≠ 0) with ⟨depth, rfl⟩
  cases vs with
  | nil =>
      rw [renderChars] at hFuel ⊢
      rcases Nat.exists_eq_add_one_of_ne_zero
          (Nat.ne_zero_of_lt hFuel) with ⟨fuel, rfl⟩
      rfl
  | cons v vs =>
      rw [Value.depthOfItems] at hDepth
      rw [renderChars] at hFuel ⊢
      simp only [List.length_append, List.length_cons]
        at hFuel
      obtain ⟨fuel, rfl⟩ : ∃ left, fuel = left + 2 :=
        ⟨fuel - 2, by omega⟩
      have hGap := hSpaced.gap k
      have hRead :=
        hItems v List.mem_cons_self (k + 1) depth fuel
          (renderItems l (k + 1) vs ++
            (l.gap k ++ ']' :: rest))
          (by omega) (by omega)
          (endsNumber_items hSpaced vs _
            (endsNumber_before hGap (.inl rfl) rest))
      have hAll :=
        readItems_render hSpaced hGap rest vs
          (fun w hMem => hItems w (.tail _ hMem)) (by omega)
          fuel v _ [] (by omega) hRead
      simp only [List.cons_append, List.append_assoc,
        List.nil_append]
      rw [readValue_items (hSpaced.gap (k + 1))
        (isStart_of_readValue hRead), hAll]
      rfl

/- An object reads back if its fields do. -/
theorem readsBack_object
    (hSpaced : l.IsSpaced)
    {fs : List (String × Value)}
    (hNodup : (fs.map Prod.fst).Nodup)
    (hFields : ∀ field ∈ fs, ReadsBack l field.2) :
    ReadsBack l (.object fs) := by
  intro k depth fuel rest hDepth hFuel _
  rw [Value.depth] at hDepth
  rcases Nat.exists_eq_add_one_of_ne_zero
      (by omega : depth ≠ 0) with ⟨depth, rfl⟩
  cases fs with
  | nil =>
      rw [renderChars] at hFuel ⊢
      rcases Nat.exists_eq_add_one_of_ne_zero
          (Nat.ne_zero_of_lt hFuel) with ⟨fuel, rfl⟩
      rfl
  | cons field fs =>
      rcases field with ⟨key, v⟩
      rw [Value.depthOfFields] at hDepth
      rw [renderChars] at hFuel ⊢
      simp only [List.length_append, List.length_cons]
        at hFuel
      obtain ⟨fuel, rfl⟩ : ∃ left, fuel = left + 2 :=
        ⟨fuel - 2, by omega⟩
      have hGap := hSpaced.gap k
      have hRoom :
          (renderChars l (k + 1) v).length ≤ fuel := by
        omega
      have hDeep : v.depth ≤ depth := by omega
      have hRead :=
        hFields (key, v) List.mem_cons_self (k + 1) depth fuel
          (renderFields l (k + 1) fs ++
            (l.gap k ++ '\x7d' :: rest))
          hDeep hRoom
          (endsNumber_fields hSpaced fs _
            (endsNumber_before hGap (.inr (.inl rfl)) rest))
      have hAll :=
        readFields_render hSpaced hGap rest fs
          (fun field hMem => hFields field (.tail _ hMem))
          (by omega) fuel key v _ [] (by omega) hRead
      have hStart :
          IsStart
            (keyChars key ++
              (renderChars l (k + 1) v ++
                (renderFields l (k + 1) fs ++
                  (l.gap k ++ '\x7d' :: rest)))) :=
        ⟨'"', rfl, by decide⟩
      have hObject :
          readValue (fuel + 2) (depth + 1)
              ('\x7b' :: (l.gap (k + 1) ++
                (keyChars key ++
                  (renderChars l (k + 1) v ++
                    (renderFields l (k + 1) fs ++
                      (l.gap k ++ '\x7d' :: rest)))))) =
            .ok (.object ((key, v) :: fs), rest) := by
        rw [readValue_fields (hSpaced.gap (k + 1)) hStart,
          hAll]
        dsimp only [Except.map]
        rw [List.reverse_nil, List.nil_append,
          Entries.ofPairs_of_nodup hNodup]
      rw [keyChars] at hObject
      simp only [List.cons_append, List.append_assoc,
        List.nil_append] at hObject ⊢
      exact hObject

mutual

/- A portable value reads back. -/
theorem readsBack
    (hSpaced : l.IsSpaced) :
    (v : Value) → v.IsPortable → ReadsBack l v
| .null, _ => by
    intro k depth fuel rest _ hFuel _
    rcases Nat.exists_eq_add_one_of_ne_zero
        (Nat.ne_zero_of_lt hFuel) with ⟨fuel, rfl⟩
    rfl
| .bool b, _ => by
    intro k depth fuel rest _ hFuel _
    cases b with
    | true =>
        rcases Nat.exists_eq_add_one_of_ne_zero
            (Nat.ne_zero_of_lt hFuel) with ⟨fuel, rfl⟩
        rfl
    | false =>
        rcases Nat.exists_eq_add_one_of_ne_zero
            (Nat.ne_zero_of_lt hFuel) with ⟨fuel, rfl⟩
        rfl
| .int _, hShort =>
    readsBack_of_readNumber fun _ _ =>
      readNumber_int hShort
| .float x, hCanonical => by
    refine readsBack_of_readNumber fun k rest hEnds => ?_
    have hChars : renderChars l k (.float x) = x.chars := by
      cases x with
      | nan => cases hCanonical
      | infinite isNegative => cases hCanonical
      | finite isNegative m e => rfl
    rw [hChars]
    exact readNumber_double hCanonical hEnds
| .str s, _ => by
    intro k depth fuel rest _ hFuel _
    rcases Nat.exists_eq_add_one_of_ne_zero
        (Nat.ne_zero_of_lt hFuel) with ⟨fuel, rfl⟩
    exact readValue_quoted fuel depth s rest
| .list vs, hItems =>
    readsBack_list hSpaced (itemsReadBack hSpaced vs hItems)
| .object fs, ⟨hNodup, hFields⟩ =>
    readsBack_object hSpaced hNodup
      (fieldsReadBack hSpaced fs hFields)

theorem itemsReadBack
    (hSpaced : l.IsSpaced) :
    (vs : List Value) →
      Value.ArePortable vs →
        ∀ v ∈ vs, ReadsBack l v
| [], _ => List.forall_mem_nil _
| v :: vs, ⟨hFirst, hMore⟩ =>
    List.forall_mem_cons.mpr
      ⟨readsBack hSpaced v hFirst,
        itemsReadBack hSpaced vs hMore⟩

theorem fieldsReadBack
    (hSpaced : l.IsSpaced) :
    (fs : List (String × Value)) →
      Value.FieldsArePortable fs →
        ∀ field ∈ fs, ReadsBack l field.2
| [], _ => List.forall_mem_nil _
| (_, v) :: fs, ⟨hFirst, hMore⟩ =>
    List.forall_mem_cons.mpr
      ⟨readsBack hSpaced v hFirst,
        fieldsReadBack hSpaced fs hMore⟩

end

end Json

end EventFlow

------------------------------------------------------------
-- Written Texts
------------------------------------------------------------

namespace EventFlow

namespace Json

variable {l : Layout}
variable {v : Value}

/-
  The text of a portable value is read as the value, in any
  layout and with any white space behind it.
-/
theorem parse_render
    (hSpaced : l.IsSpaced)
    (hPortable : v.IsPortable)
    {depth : Nat}
    (hDepth : v.depth ≤ depth)
    {behind : List Char}
    (hGap : AreGaps behind) :
    parse depth
        (String.ofList (renderChars l 0 v ++ behind)) =
      .ok v := by
  have hEnds : EndsNumber behind := by
    refine endsNumber_of_head fun c hHead => .inl (hGap c ?_)
    exact List.mem_of_mem_head? hHead
  have hSize :
      (renderChars l 0 v).length ≤
        2 * (renderChars l 0 v ++ behind).length + 2 := by
    rw [List.length_append]
    omega
  have hRead :=
    readsBack hSpaced v hPortable 0 depth _ behind hDepth
      hSize hEnds
  have hStart := isStart_of_readValue hRead
  have hBare : skipGap behind = [] := by
    have hSkip := skipGap_append hGap []
    rw [List.append_nil] at hSkip
    exact hSkip
  have hMark :
      (renderChars l 0 v ++ behind).head? ≠
        some Text.byteOrderMark := by
    rcases hStart with ⟨c, hHead, -, -, -, hMark⟩
    rw [hHead]
    exact fun hSame => hMark (Option.some_inj.mp hSame)
  unfold parse
  dsimp only
  rw [String.toList_ofList, if_neg hMark, parseWithin,
    readAll, hStart.skipGap, hRead]
  dsimp only [bind, Except.bind]
  rewrite [hBare]
  rfl

end Json

end EventFlow
