import EventFlow.Proofs.FieldConditions
import EventFlow.Proofs.Registries
import EventFlow.Proofs.Worth

/-
  What the comparison of kinds sees.

  A place in a value is a way through lists and objects.
  Two values are the same, as the library compares them, if
  what stands at each place bears the same mark: numbers of
  all kinds are marked by what they are worth.  They are
  twins if at each place the kinds agree, too.  The operator
  that asks for sameness compares the kinds at the top only,
  so that it takes numbers of different kinds for the same
  as soon as they stand in a list or an object.

  Key definitions include:
    * `Value.Place`
    * `Value.member?`
    * `Value.Resembles`
    * `Value.IsTwin`
    * `Value.IsPlain`

  Key theorems include:
    * `Value.resembles_cons_iff`
    * `Value.resembles_object_iff`
    * `Value.same_iff_resembles`
    * `Value.IsTwin.iff_kinds`
    * `FieldCondition.is_compares_outer_kinds`
-/

------------------------------------------------------------
-- Places and Marks
------------------------------------------------------------

namespace EventFlow

namespace Value

/- A step into a list or an object. -/
inductive Place where
| item (index : Nat)
| field (key : String)
deriving DecidableEq, Repr

/- What stands in a value at the end of a way of places. -/
def member? : Value → List Place → Option Value
| v, [] => some v
| .list vs, .item i :: path =>
    vs[i]?.bind fun v => v.member? path
| .object fs, .field k :: path =>
    (fs.lookup k).bind fun v => v.member? path
| _, _ :: _ => none

/-
  What a value shows of itself, apart from its members: that
  it is a list or an object, or else what it is worth.
-/
inductive Mark where
| items
| fields
| worth (w : Worth)

/- The mark of a value. -/
def mark : Value → Mark
| .list _ => .items
| .object _ => .fields
| v => .worth (v.worth.getD .nothing)

/- Whether two values bear the same marks everywhere. -/
def Resembles (v w : Value) : Prop :=
  ∀ path, (v.member? path).map mark = (w.member? path).map mark

/-
  Whether two values are the same with integers, truth
  values and floating-point numbers told apart everywhere.
-/
def IsTwin (v w : Value) : Prop :=
  ∀ path,
    (v.member? path).map (fun x => (x.kind, x.mark)) =
      (w.member? path).map fun x => (x.kind, x.mark)

/-
  Whether no object in a value has a key twice, and all its
  floating-point numbers are numbers, in the form kept.
-/
structure IsPlain (v : Value) : Prop where
  nodup :
    ∀ path fs,
      v.member? path = some (.object fs) →
        (fs.map Prod.fst).Nodup
  proper :
    ∀ path x,
      v.member? path = some (.float x) →
        x.IsProper ∧ x ≠ .nan

variable {v w : Value}

/- Every value is its own twin. -/
theorem IsTwin.refl (v : Value) : v.IsTwin v :=
  fun _ => rfl

theorem IsTwin.resembles
    (hTwin : v.IsTwin w) :
    v.Resembles w := by
  intro path
  have hBoth := congrArg (Option.map Prod.snd) (hTwin path)
  rw [Option.map_map, Option.map_map] at hBoth
  exact hBoth

/- Twins are values that bear one mark and are of one kind. -/
theorem IsTwin.iff_kinds
    (hResembles : v.Resembles w) :
    v.IsTwin w ↔
      ∀ path x y,
        v.member? path = some x →
          w.member? path = some y → x.kind = y.kind := by
  constructor
  · intro hTwin path x y hLeft hRight
    have hPlace := hTwin path
    rw [hLeft, hRight] at hPlace
    exact congrArg Prod.fst (Option.some.inj hPlace)
  · intro hKinds path
    have hMarks := hResembles path
    cases hLeft : v.member? path with
    | none =>
        cases hRight : w.member? path with
        | none => rfl
        | some y =>
            rw [hLeft, hRight] at hMarks
            cases hMarks
    | some x =>
        cases hRight : w.member? path with
        | none =>
            rw [hLeft, hRight] at hMarks
            cases hMarks
        | some y =>
            rw [hLeft, hRight] at hMarks
            exact congrArg some
              (Prod.ext (hKinds path x y hLeft hRight)
                (Option.some.inj hMarks))

/- The mark of what is no list or object is its worth. -/
theorem exists_worth
    (hScalar : v.isContainer = false) :
    ∃ worth, v.worth = some worth ∧ v.mark = .worth worth := by
  cases v with
  | list vs => cases hScalar
  | object fs => cases hScalar
  | _ => exact ⟨_, rfl, rfl⟩

/- It has no members. -/
theorem member?_of_scalar
    (hScalar : v.isContainer = false)
    (place : Place)
    (path : List Place) :
    v.member? (place :: path) = none := by
  cases v with
  | list vs => cases hScalar
  | object fs => cases hScalar
  | _ => simp [member?]

theorem worth_eq_of_mark
    (hMark : v.mark = w.mark) :
    v.worth = w.worth := by
  cases v <;> cases w <;> simp_all [mark, worth]

/- A floating-point number is worth no text, and something. -/
theorem worth_float_ne (x : Double) :
    (float x).worth ≠ some .nothing ∧
      ∀ s, (float x).worth ≠ some (.text s) := by
  cases x <;> simp [worth, Double.worth]

/- Of the marks, only those of numbers have several kinds. -/
theorem kind_eq_of_mark
    (hMark : v.mark = w.mark)
    (hNumber : ∀ q, v.worth ≠ some (.number q)) :
    v.kind = w.kind := by
  have hWorth := worth_eq_of_mark hMark
  cases v with
  | bool b => exact absurd rfl (hNumber _)
  | int n => exact absurd rfl (hNumber _)
  | list vs => cases w <;> simp_all [mark, kind]
  | object fs => cases w <;> simp_all [mark, kind]
  | null =>
      cases w with
      | float y => exact absurd hWorth.symm (worth_float_ne y).1
      | _ => simp_all [mark, kind, worth]
  | str s =>
      cases w with
      | float y =>
          exact absurd hWorth.symm ((worth_float_ne y).2 s)
      | _ => simp_all [mark, kind, worth]
  | float x =>
      cases x with
      | finite s m e => exact absurd rfl (hNumber _)
      | infinite s =>
          cases w <;> simp_all [kind, worth, Double.worth]
      | nan => cases w <;> simp_all [kind, worth, Double.worth]

/-
  Marks tell kinds apart but for numbers, and these are then
  worth the same.
-/
theorem worth_of_mark
    (hMark : v.mark = w.mark)
    (hKinds : v.kind ≠ w.kind) :
    ∃ q,
      v.worth = some (.number q) ∧
        w.worth = some (.number q) := by
  by_contra hNone
  apply hKinds
  refine kind_eq_of_mark hMark fun q hWorth => hNone ?_
  exact ⟨q, hWorth, (worth_eq_of_mark hMark) ▸ hWorth⟩

end Value

end EventFlow

------------------------------------------------------------
-- Members of Plain Values
------------------------------------------------------------

namespace EventFlow

namespace Value

variable {v w : Value}
variable {vs ws : List Value}
variable {fs gs : List (String × Value)}

/- The items of a plain list are plain. -/
theorem IsPlain.item
    (hPlain : (list vs).IsPlain)
    (hMem : v ∈ vs) :
    v.IsPlain := by
  rcases List.mem_iff_getElem?.mp hMem with ⟨i, hItem⟩
  have hWay (path : List Place) :
      (list vs).member? (.item i :: path) =
        v.member? path := by
    rw [member?, hItem, Option.bind_some]
  constructor
  · intro path fs hObject
    exact hPlain.nodup _ fs ((hWay path).trans hObject)
  · intro path x hFloat
    exact hPlain.proper _ x ((hWay path).trans hFloat)

/- The keys of a plain object are different. -/
theorem IsPlain.keys
    (hPlain : (object fs).IsPlain) :
    (fs.map Prod.fst).Nodup :=
  hPlain.nodup [] fs rfl

theorem IsPlain.lookup_eq_some_iff
    (hPlain : (object fs).IsPlain)
    {key : String} :
    fs.lookup key = some v ↔ (key, v) ∈ fs :=
  Entries.lookup_eq_some_iff_mem
    (Entries.agree_of_nodup hPlain.keys) key v

/- The values of a plain object are plain. -/
theorem IsPlain.field
    (hPlain : (object fs).IsPlain)
    {key : String}
    (hMem : (key, v) ∈ fs) :
    v.IsPlain := by
  have hField := hPlain.lookup_eq_some_iff.mpr hMem
  have hWay (path : List Place) :
      (object fs).member? (.field key :: path) =
        v.member? path := by
    rw [member?, hField, Option.bind_some]
  constructor
  · intro path fs hObject
    exact hPlain.nodup _ fs ((hWay path).trans hObject)
  · intro path x hFloat
    exact hPlain.proper _ x ((hWay path).trans hFloat)

/- A list of plain items is plain. -/
theorem isPlain_list
    (hItems : ∀ v ∈ vs, v.IsPlain) :
    (list vs).IsPlain := by
  have hWithin
      {place : Place}
      {path : List Place}
      {w : Value}
      (hWay : (list vs).member? (place :: path) = some w) :
      ∃ v ∈ vs, v.member? path = some w := by
    cases place with
    | field key => cases hWay
    | item i =>
        rw [member?, Option.bind_eq_some_iff] at hWay
        rcases hWay with ⟨v, hItem, hWay⟩
        exact ⟨v, List.mem_of_getElem? hItem, hWay⟩
  constructor
  · intro path fs hObject
    cases path with
    | nil => cases hObject
    | cons place path =>
        rcases hWithin hObject with ⟨v, hMem, hWay⟩
        exact (hItems v hMem).nodup path fs hWay
  · intro path x hFloat
    cases path with
    | nil => cases hFloat
    | cons place path =>
        rcases hWithin hFloat with ⟨v, hMem, hWay⟩
        exact (hItems v hMem).proper path x hWay

/- What is no list or object is plain if it is a number. -/
theorem isPlain_scalar
    (hScalar : v.isContainer = false)
    (hProper : v.IsProper)
    (hNumber : v ≠ .float .nan) :
    v.IsPlain := by
  constructor
  · intro path fs hObject
    cases path with
    | nil =>
        cases hObject
        cases hScalar
    | cons place path =>
        rw [member?_of_scalar hScalar] at hObject
        cases hObject
  · intro path x hFloat
    cases path with
    | nil =>
        cases hFloat
        refine ⟨hProper, ?_⟩
        rintro rfl
        exact hNumber rfl
    | cons place path =>
        rw [member?_of_scalar hScalar] at hFloat
        cases hFloat

/- A plain value that is a number is proper. -/
theorem IsPlain.isProper
    (hPlain : v.IsPlain) :
    v.IsProper := by
  cases v with
  | float x => exact (hPlain.proper [] x rfl).1
  | _ => exact trivial

end Value

end EventFlow

------------------------------------------------------------
-- Resemblance Part by Part
------------------------------------------------------------

namespace EventFlow

namespace Value

variable {v w : Value}
variable {vs ws : List Value}
variable {fs gs : List (String × Value)}

theorem Resembles.mark
    (hResembles : v.Resembles w) :
    v.mark = w.mark :=
  Option.some.inj (hResembles [])

/- What is no list or object resembles by its worth. -/
theorem resembles_scalar_iff
    (hScalar : v.isContainer = false) :
    v.Resembles w ↔ v.worth = w.worth := by
  rcases exists_worth hScalar with ⟨worth, hWorth, hMark⟩
  constructor
  · intro hResembles
    exact worth_eq_of_mark hResembles.mark
  · intro hSame path
    have hScalar' : w.isContainer = false := by
      rw [hWorth] at hSame
      cases w with
      | list ws => cases hSame
      | object gs => cases hSame
      | _ => rfl
    cases path with
    | nil =>
        rcases exists_worth hScalar' with
          ⟨worth', hWorth', hMark'⟩
        rw [hWorth, hWorth', Option.some_inj] at hSame
        rw [member?, member?, Option.map_some,
          Option.map_some, hMark, hMark', hSame]
    | cons place path =>
        rw [member?_of_scalar hScalar,
          member?_of_scalar hScalar']

/- Nothing in front of nothing. -/
theorem resembles_nil :
    (list []).Resembles (list []) :=
  fun _ => rfl

theorem not_resembles_nil_cons :
    ¬ (list []).Resembles (list (w :: ws)) := by
  intro hResembles
  have hFirst := hResembles [.item 0]
  simp [member?] at hFirst

theorem not_resembles_cons_nil :
    ¬ (list (v :: vs)).Resembles (list []) := by
  intro hResembles
  have hFirst := hResembles [.item 0]
  simp [member?] at hFirst

/- Lists resemble item by item. -/
theorem resembles_cons_iff :
    (list (v :: vs)).Resembles (list (w :: ws)) ↔
      v.Resembles w ∧ (list vs).Resembles (list ws) := by
  constructor
  · intro hResembles
    constructor
    · intro path
      exact hResembles (.item 0 :: path)
    · intro path
      cases path with
      | nil => rfl
      | cons place path =>
          cases place with
          | item i => exact hResembles (.item (i + 1) :: path)
          | field key => rfl
  · rintro ⟨hFirst, hMore⟩ path
    cases path with
    | nil => rfl
    | cons place path =>
        cases place with
        | field key => rfl
        | item i =>
            cases i with
            | zero => exact hFirst path
            | succ i => exact hMore (.item i :: path)

/- Objects resemble key by key. -/
theorem resembles_object_iff :
    (object fs).Resembles (object gs) ↔
      ∀ key,
        Option.Rel Resembles (fs.lookup key)
          (gs.lookup key) := by
  have hField (hs : List (String × Value)) (key : String)
      (path : List Place) :
      (object hs).member? (.field key :: path) =
        (hs.lookup key).bind fun v => v.member? path := by
    rw [member?]
  constructor
  · intro hResembles key
    have hBelow (path : List Place) :=
      hResembles (.field key :: path)
    simp only [hField] at hBelow
    cases hLeft : fs.lookup key with
    | none =>
        cases hRight : gs.lookup key with
        | none => exact .none
        | some y =>
            have hTop := hBelow []
            simp [hLeft, hRight, member?] at hTop
    | some x =>
        cases hRight : gs.lookup key with
        | none =>
            have hTop := hBelow []
            simp [hLeft, hRight, member?] at hTop
        | some y =>
            apply Option.Rel.some
            intro path
            have hPath := hBelow path
            rw [hLeft, hRight] at hPath
            exact hPath
  · intro hKeys path
    cases path with
    | nil => rfl
    | cons place path =>
        cases place with
        | item i => rfl
        | field key =>
            have hBoth := hKeys key
            rw [hField, hField]
            generalize fs.lookup key = left at hBoth ⊢
            generalize gs.lookup key = right at hBoth ⊢
            cases hBoth with
            | none => rfl
            | some hResembles => exact hResembles path

/- No field is found under what is no key. -/
theorem lookup_eq_none_iff
    {key : String} :
    fs.lookup key = none ↔ key ∉ fs.map Prod.fst := by
  rw [List.lookup_eq_none_iff, List.mem_map, not_exists]
  refine forall_congr' fun field => ?_
  rw [not_and, bne_iff_ne, ne_comm]

/- Objects with different keys that resemble share them. -/
theorem perm_keys_of_rel
    (hPlain : (object fs).IsPlain)
    (hPlain' : (object gs).IsPlain)
    (hKeys :
      ∀ key,
        Option.Rel Resembles (fs.lookup key)
          (gs.lookup key)) :
    (fs.map Prod.fst).Perm (gs.map Prod.fst) := by
  rw [List.perm_ext_iff_of_nodup hPlain.keys hPlain'.keys]
  intro key
  have hBoth := hKeys key
  rw [← not_iff_not, ← lookup_eq_none_iff,
    ← lookup_eq_none_iff]
  generalize fs.lookup key = left at hBoth ⊢
  generalize gs.lookup key = right at hBoth ⊢
  cases hBoth <;> simp

/-
  So do those that have as many, if the keys of the one are
  found in the other.
-/
theorem perm_keys_of_subset
    (hPlain : (object fs).IsPlain)
    (hLength : fs.length = gs.length)
    (hFound :
      ∀ field ∈ fs, ∃ y, gs.lookup field.1 = some y) :
    (fs.map Prod.fst).Perm (gs.map Prod.fst) := by
  have hSubset : fs.map Prod.fst ⊆ gs.map Prod.fst := by
    intro k hMem
    rcases List.mem_map.mp hMem with ⟨field, hField, rfl⟩
    rcases hFound field hField with ⟨y, hY⟩
    exact List.mem_map.mpr
      ⟨_, Entries.mem_of_lookup hY, rfl⟩
  apply (hPlain.keys.subperm hSubset).perm_of_length_le
  simp [hLength]

/-
  For objects whose keys are different it is enough that
  they have as many, and that every field of the one is
  found in the other.
-/
theorem resembles_object_iff_fields
    (hPlain : (object fs).IsPlain)
    (hPlain' : (object gs).IsPlain) :
    (object fs).Resembles (object gs) ↔
      fs.length = gs.length ∧
        ∀ field ∈ fs,
          ∃ y,
            gs.lookup field.1 = some y ∧
              field.2.Resembles y := by
  rw [resembles_object_iff]
  constructor
  · intro hKeys
    constructor
    · simpa using
        (perm_keys_of_rel hPlain hPlain' hKeys).length_eq
    · rintro ⟨key, x⟩ hMem
      have hLeft := hPlain.lookup_eq_some_iff.mpr hMem
      have hBoth := hKeys key
      rw [hLeft] at hBoth
      cases hRight : gs.lookup key with
      | none =>
          rw [hRight] at hBoth
          cases hBoth
      | some y =>
          rw [hRight] at hBoth
          cases hBoth with
          | some hResembles => exact ⟨y, rfl, hResembles⟩
  · rintro ⟨hLength, hFields⟩ key
    have hPerm : (fs.map Prod.fst).Perm (gs.map Prod.fst) :=
      perm_keys_of_subset hPlain hLength
        fun field hMem =>
          (hFields field hMem).imp fun y => And.left
    cases hLeft : fs.lookup key with
    | none =>
        have hRight : gs.lookup key = none := by
          rw [lookup_eq_none_iff] at hLeft ⊢
          rw [← hPerm.mem_iff]
          exact hLeft
        rw [hRight]
        exact .none
    | some x =>
        rcases hFields _ (Entries.mem_of_lookup hLeft) with
          ⟨y, hRight, hResembles⟩
        rw [hRight]
        exact .some hResembles

end Value

end EventFlow

------------------------------------------------------------
-- Sameness Is Resemblance
------------------------------------------------------------

namespace EventFlow

namespace Value

variable {v w : Value}

/- A value that is a number is no other's lack of one. -/
theorem same_eq_sameMember
    (hPlain : v.IsPlain)
    (w : Value) :
    v.same w = v.sameMember w := by
  have hNaN : areNaN v w = false := by
    unfold areNaN
    split
    · exact absurd rfl (hPlain.proper [] .nan rfl).2
    · rfl
  rw [sameMember, hNaN, Bool.false_or]

/- For what is no list or object this is known. -/
theorem same_iff_of_scalar
    (hScalar : v.isContainer = false)
    (hPlain : v.IsPlain)
    (hPlain' : w.IsPlain) :
    v.same w = true ↔ v.Resembles w := by
  rw [same_eq_sameMember hPlain,
    sameMember_iff hScalar hPlain.isProper hPlain'.isProper,
    resembles_scalar_iff hScalar]

/- A list is the same as lists only. -/
theorem same_list_iff
    {vs : List Value}
    (hItems :
      ∀ ws,
        (∀ w ∈ ws, w.IsPlain) →
          (sameItems vs ws = true ↔
            (list vs).Resembles (list ws)))
    (hPlain : w.IsPlain) :
    (list vs).same w = true ↔ (list vs).Resembles w := by
  cases w with
  | list ws => exact hItems ws fun _ hMem => hPlain.item hMem
  | _ =>
      refine iff_of_false ?_ ?_
      · simp [same, sameScalar, integer?]
      · intro hResembles
        have hMark := hResembles.mark
        cases hMark

/- An object is the same as objects only. -/
theorem same_object_iff
    {fs : List (String × Value)}
    (hFields :
      ∀ gs,
        (object gs).IsPlain →
          (sameFields fs gs = true ↔
            ∀ field ∈ fs,
              ∃ y,
                gs.lookup field.1 = some y ∧
                  field.2.Resembles y))
    (hPlain : (object fs).IsPlain)
    (hPlain' : w.IsPlain) :
    (object fs).same w = true ↔ (object fs).Resembles w := by
  cases w with
  | object gs =>
      rw [same, Bool.and_eq_true, beq_iff_eq,
        hFields gs hPlain',
        resembles_object_iff_fields hPlain hPlain']
  | _ =>
      refine iff_of_false ?_ ?_
      · simp [same, sameScalar, integer?]
      · intro hResembles
        have hMark := hResembles.mark
        cases hMark

mutual

/- Plain values are the same exactly if they resemble. -/
theorem same_iff_resembles :
    (v : Value) →
      v.IsPlain →
        ∀ w, w.IsPlain → (v.same w = true ↔ v.Resembles w)
| .null, hPlain => fun _ hPlain' =>
    same_iff_of_scalar rfl hPlain hPlain'
| .bool _, hPlain => fun _ hPlain' =>
    same_iff_of_scalar rfl hPlain hPlain'
| .int _, hPlain => fun _ hPlain' =>
    same_iff_of_scalar rfl hPlain hPlain'
| .float _, hPlain => fun _ hPlain' =>
    same_iff_of_scalar rfl hPlain hPlain'
| .str _, hPlain => fun _ hPlain' =>
    same_iff_of_scalar rfl hPlain hPlain'
| .list vs, hPlain => fun _ hPlain' =>
    same_list_iff
      (sameItems_iff vs fun _ hMem => hPlain.item hMem)
      hPlain'
| .object fs, hPlain => fun _ hPlain' =>
    same_object_iff
      (sameFields_iff fs fun _ hMem => hPlain.field hMem)
      hPlain hPlain'

/- Lists are, item by item. -/
theorem sameItems_iff :
    (vs : List Value) →
      (∀ v ∈ vs, v.IsPlain) →
        ∀ ws,
          (∀ w ∈ ws, w.IsPlain) →
            (sameItems vs ws = true ↔
              (list vs).Resembles (list ws))
| [], _ => fun ws _ => by
    cases ws with
    | nil => exact iff_of_true rfl resembles_nil
    | cons w ws =>
        exact iff_of_false Bool.false_ne_true
          not_resembles_nil_cons
| v :: vs, hPlain => fun ws hPlain' => by
    rw [List.forall_mem_cons] at hPlain
    cases ws with
    | nil =>
        exact iff_of_false Bool.false_ne_true
          not_resembles_cons_nil
    | cons w ws =>
        rw [List.forall_mem_cons] at hPlain'
        change
          (v.sameMember w && sameItems vs ws) = true ↔ _
        rw [Bool.and_eq_true, resembles_cons_iff,
          ← same_eq_sameMember hPlain.1,
          same_iff_resembles v hPlain.1 w hPlain'.1,
          sameItems_iff vs hPlain.2 ws hPlain'.2]

/- Fields are, if each is found. -/
theorem sameFields_iff :
    (fs : List (String × Value)) →
      (∀ field ∈ fs, field.2.IsPlain) →
        ∀ gs,
          (object gs).IsPlain →
            (sameFields fs gs = true ↔
              ∀ field ∈ fs,
                ∃ y,
                  gs.lookup field.1 = some y ∧
                    field.2.Resembles y)
| [], _ => fun _ _ =>
    iff_of_true rfl (List.forall_mem_nil _)
| (key, v) :: fs, hPlain => fun gs hPlain' => by
    rw [List.forall_mem_cons] at hPlain
    rw [List.forall_mem_cons, sameFields, Bool.and_eq_true,
      sameFields_iff fs hPlain.2 gs hPlain']
    refine and_congr_left fun _ => ?_
    dsimp only
    cases hFound : gs.lookup key with
    | none =>
        refine iff_of_false Bool.false_ne_true ?_
        rintro ⟨y, hSome, -⟩
        cases hSome
    | some w =>
        have hOther : w.IsPlain :=
          hPlain'.field (Entries.mem_of_lookup hFound)
        change v.sameMember w = true ↔ _
        rw [← same_eq_sameMember hPlain.1,
          same_iff_resembles v hPlain.1 w hOther]
        simp

end

end Value

end EventFlow

------------------------------------------------------------
-- The Operator
------------------------------------------------------------

namespace EventFlow

namespace FieldCondition

open Value

variable {actual expected : Value}

/- The operator compares the kinds, and then the values. -/
theorem evaluate_is (actual expected : Value) :
    evaluate (.str "is") actual expected =
      .ok (actual.sameKind expected) :=
  rfl

theorem sameKind_iff
    (hActual : actual.IsPlain)
    (hExpected : expected.IsPlain) :
    actual.sameKind expected = true ↔
      actual.kind = expected.kind ∧
        actual.Resembles expected := by
  rw [sameKind, Bool.and_eq_true, beq_iff_eq,
    same_iff_resembles actual hActual expected hExpected]

/-
  Consider plain values, that is without a repeated key and
  without a floating-point value that is no number.  The
  operator that asks for sameness can always be evaluated,
  and so can a step with this operator on a payload that has
  the field.  It is met by twins, and so by a value and its
  copy, and it is never met by values of different kinds.
  But it is met by all values of one kind that bear the same
  marks.  So it is met by values that are no twins exactly
  if these are of one kind, bear the same marks, and yet are
  of different kinds at some place within; at each such
  place stand two numbers that are worth the same.
-/
theorem is_compares_outer_kinds
    [Surroundings]
    (hActual : actual.IsPlain)
    (hExpected : expected.IsPlain) :
    ∃ met,
      evaluate (.str "is") actual expected = .ok met ∧
      (∀ (s : Step) field payload access,
        s.Asks field (.str "is") expected →
          HasField payload field actual →
            (s.execute payload access).failure? = none ∧
              (s.execute payload access).step.met =
                .bool met) ∧
      (actual.IsTwin expected → met = true) ∧
      (met = true →
        actual.kind = expected.kind ∧
          ∀ path x y,
            actual.member? path = some x →
              expected.member? path = some y →
                x.kind ≠ y.kind →
                  path ≠ [] ∧
                    ∃ q,
                      x.worth = some (.number q) ∧
                        y.worth = some (.number q)) ∧
      (met = true ∧ ¬ actual.IsTwin expected ↔
        actual.kind = expected.kind ∧
          actual.Resembles expected ∧
            ∃ path x y,
              actual.member? path = some x ∧
                expected.member? path = some y ∧
                  x.kind ≠ y.kind) := by
  have hIff := sameKind_iff hActual hExpected
  refine ⟨_, evaluate_is actual expected, ?_, ?_, ?_, ?_⟩
  · intro s field payload access hAsks hHas
    have hKnown :
        Value.str "is" ∈ operators.map Value.str := by
      simp [operators]
    rcases hAsks.execute_of_operator hHas hKnown
      (evaluate_is actual expected) access with
      ⟨first, second, hEffect⟩
    rw [hEffect]
    exact ⟨rfl, rfl⟩
  · intro hTwin
    rw [hIff]
    refine ⟨?_, hTwin.resembles⟩
    exact (IsTwin.iff_kinds hTwin.resembles).mp hTwin [] _ _
      rfl rfl
  · intro hMet
    rw [hIff] at hMet
    refine ⟨hMet.1, ?_⟩
    intro path x y hLeft hRight hKinds
    constructor
    · rintro rfl
      cases hLeft
      cases hRight
      exact hKinds hMet.1
    · have hMarks := hMet.2 path
      rw [hLeft, hRight] at hMarks
      exact worth_of_mark (Option.some.inj hMarks) hKinds
  · rw [hIff, and_assoc]
    refine and_congr_right fun _ => and_congr_right ?_
    intro hResembles
    rw [IsTwin.iff_kinds hResembles]
    simp only [not_forall, exists_prop, ne_eq]

/- Lists of the number one, as an integer and otherwise. -/
def integerOne : Value :=
  .list [.int 1]

def doubleOne : Value :=
  .list [.float (.finite false (2 ^ 52) (-52))]

theorem isPlain_integerOne : integerOne.IsPlain := by
  apply isPlain_list
  rw [List.forall_mem_singleton]
  exact isPlain_scalar rfl trivial nofun

theorem isPlain_doubleOne : doubleOne.IsPlain := by
  have hKept : Double.IsKept (2 ^ 52) (-52) :=
    ⟨by decide, by decide, by decide, .inl le_rfl⟩
  apply isPlain_list
  rw [List.forall_mem_singleton]
  exact isPlain_scalar rfl hKept nofun

open scoped Bare in
/- They are met, and a place within is what tells them apart. -/
theorem is_compares_outer_kinds_one :
    evaluate (.str "is") integerOne doubleOne = .ok true ∧
      (¬ integerOne.IsTwin doubleOne ↔
        ∃ path x y,
          integerOne.member? path = some x ∧
            doubleOne.member? path = some y ∧
              x.kind ≠ y.kind) := by
  have hMet :
      evaluate (.str "is") integerOne doubleOne = .ok true :=
    rfl
  rcases is_compares_outer_kinds isPlain_integerOne
    isPlain_doubleOne with ⟨met, hSome, -, -, -, hExact⟩
  obtain rfl := Except.ok.inj (hMet.symm.trans hSome)
  refine ⟨hMet, ?_⟩
  constructor
  · intro hOther
    exact (hExact.mp ⟨rfl, hOther⟩).2.2
  · intro hPlace
    have hKind : integerOne.kind = doubleOne.kind := rfl
    have hResembles : integerOne.Resembles doubleOne :=
      ((sameKind_iff isPlain_integerOne
        isPlain_doubleOne).mp rfl).2
    exact (hExact.mpr ⟨hKind, hResembles, hPlace⟩).2

/- A condition that a field is the one, on the other. -/
def askingOne : Step :=
  { type := Builtin.transactionField
    id := .str "ask"
    attributes :=
      Table.ofFields [
        ("field", .str "x"),
        ("operator", .str "is"),
        ("value", doubleOne)
      ]
    nextStep := .null
    nextStepTrue := .str "yes"
    nextStepFalse := .str "no"
    met := .null }

open scoped Bare in
/- A floating-point number passes for an integer in a list. -/
theorem askingOne_met_by_integerOne :
    (askingOne.execute
      (.object [
        ("id", .int 1),
        ("data", .object [("x", integerOne)])
      ]) .none).step.met = .bool true ∧
      ¬ integerOne.IsTwin doubleOne := by
  refine ⟨rfl, fun hTwin => ?_⟩
  have hItem := hTwin [.item 0]
  simp [integerOne, doubleOne, member?, kind] at hItem

end FieldCondition

end EventFlow
