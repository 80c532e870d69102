import EventFlow.Proofs.BoundTriggers
import EventFlow.Proofs.Registries
import EventFlow.Proofs.Sessions
import EventFlow.Sample.Surroundings

/-
  What comes of registering by any identifier.

  A path is divided at its first colon or, without a colon,
  at its last point.  It stands for what the area before has
  under the name behind, if the area can be imported.
  Whatever an identifier is, and whatever was done with an
  engine before, a call that registers a type tells a slug
  or fails with a failure of registration.  The one exception
  is a path whose area begins with a point: it is taken as
  relative to another area, and the import fails by itself.

  What imports yield is not part of the library.  Of them it
  is assumed that what cannot be imported is missing, and
  that a relative import, which is relative to nothing, is
  broken.

  Key definitions include:
    * `Identifier.Divides`
    * `Identifier.Denotes`
    * `Identifier.IsRelative`
    * `Surroundings.ImportsPlainly`
    * `Failure.IsOfRegistration`
    * `Registration.Yields`

  Key theorems include:
    * `Identifier.halves_eq_iff`
    * `Identifier.splits_unique`
    * `Identifier.resolves`
    * `Session.holds_of_reached`
    * `Engine.yields_act`
    * `Session.registration_fails_as_such`
-/

------------------------------------------------------------
-- Divided Paths
------------------------------------------------------------

namespace EventFlow

namespace Identifier

/-
  The division of a path: at its first colon or, without a
  colon, at its last point.
-/
inductive Divides :
    List Char → List Char → List Char → Prop where
| colon
    {area name : List Char}
    (hArea : ':' ∉ area) :
    Divides (area ++ ':' :: name) area name
| point
    {area name : List Char}
    (hArea : ':' ∉ area)
    (hName : ':' ∉ name)
    (hLast : '.' ∉ name) :
    Divides (area ++ '.' :: name) area name

/- What stands before the first of a character. -/
theorem takeWhile_before
    {c : Char}
    {front : List Char}
    (hFront : c ∉ front)
    (back : List Char) :
    (front ++ c :: back).takeWhile (· != c) = front := by
  have hAll : ∀ d ∈ front, (d != c) = true := by
    intro d hMem
    exact bne_iff_ne.mpr (ne_of_mem_of_not_mem hMem hFront)
  rw [List.takeWhile_append_of_pos hAll,
    List.takeWhile_cons_of_neg (by simp), List.append_nil]

/- What stands from the first of a character on. -/
theorem dropWhile_before
    {c : Char}
    {front : List Char}
    (hFront : c ∉ front)
    (back : List Char) :
    (front ++ c :: back).dropWhile (· != c) =
      c :: back := by
  have hAll : ∀ d ∈ front, (d != c) = true := by
    intro d hMem
    exact bne_iff_ne.mpr (ne_of_mem_of_not_mem hMem hFront)
  rw [List.dropWhile_append_of_pos hAll,
    List.dropWhile_cons_of_neg (by simp)]

theorem halves_of_divides
    {cs area name : List Char}
    (hDivides : Divides cs area name) :
    halves cs = (area, name) := by
  cases hDivides with
  | colon hArea =>
      have hColon :
          (area ++ ':' :: name).contains ':' = true := by
        simp
      rw [halves, if_pos hColon, takeWhile_before hArea,
        dropWhile_before hArea]
      rfl
  | point hArea hName hLast =>
      have hColon :
          ¬ (area ++ '.' :: name).contains ':' = true := by
        simp [hArea, hName]
      have hBack :
          (area ++ '.' :: name).reverse =
            name.reverse ++ '.' :: area.reverse := by
        simp
      have hEnd : '.' ∉ name.reverse := by
        rwa [List.mem_reverse]
      rw [halves, if_neg hColon]
      dsimp only
      rw [hBack, takeWhile_before hEnd, dropWhile_before hEnd]
      simp

/- Without a colon and a point nothing stands in front. -/
theorem halves_of_whole
    {cs : List Char}
    (hColon : ':' ∉ cs)
    (hPoint : '.' ∉ cs) :
    halves cs = ([], cs) := by
  have hAll : ∀ d ∈ cs.reverse, (d != '.') = true := by
    intro d hMem
    exact bne_iff_ne.mpr (ne_of_mem_of_not_mem
      (List.mem_reverse.mp hMem) hPoint)
  rw [halves, if_neg (by simp [hColon])]
  dsimp only
  rw [List.takeWhile_eq_self_iff.mpr hAll,
    List.dropWhile_eq_nil_iff.mpr hAll]
  simp

/- A path is divided if there is where to divide it. -/
theorem divides_or_whole (cs : List Char) :
    (∃ area name, Divides cs area name) ∨
      (':' ∉ cs ∧ '.' ∉ cs) := by
  by_cases hColon : ':' ∈ cs
  · rcases List.eq_append_cons_of_mem hColon with
      ⟨area, name, rfl, hArea⟩
    exact .inl ⟨area, name, .colon hArea⟩
  · by_cases hPoint : '.' ∈ cs
    · rcases List.eq_append_cons_of_mem
          (List.mem_reverse.mpr hPoint) with
        ⟨front, back, hBack, hLast⟩
      have hPath :
          cs = back.reverse ++ '.' :: front.reverse := by
        rw [← List.reverse_reverse cs, hBack]
        simp
      subst hPath
      simp only [List.mem_append, List.mem_cons, not_or]
        at hColon
      refine .inl ⟨_, _, .point hColon.1 hColon.2.2 ?_⟩
      rwa [List.mem_reverse]
    · exact .inr ⟨hColon, hPoint⟩

/- The halves of a path are those of its division. -/
theorem halves_eq_iff
    {cs area name : List Char}
    (hArea : area ≠ []) :
    halves cs = (area, name) ↔ Divides cs area name := by
  constructor
  · intro hHalves
    rcases divides_or_whole cs with
      ⟨front, back, hDivides⟩ | ⟨hColon, hPoint⟩
    · rw [halves_of_divides hDivides] at hHalves
      cases hHalves
      exact hDivides
    · rw [halves_of_whole hColon hPoint] at hHalves
      exact absurd (Prod.mk.inj hHalves).1.symm hArea
  · exact halves_of_divides

end Identifier

end EventFlow

------------------------------------------------------------
-- What Identifiers Stand For
------------------------------------------------------------

namespace EventFlow

namespace Identifier

/-
  Whether a path without the blanks around it is an area
  and a name in it.
-/
def Splits (path area name : String) : Prop :=
  Divides (Text.trimChars path.toList) area.toList
      name.toList ∧
    area ≠ "" ∧ name ≠ ""

/- Whether an area is relative to another one. -/
def IsRelativeArea (area : String) : Prop :=
  area.toList.head? = some '.'

instance (area : String) : Decidable (IsRelativeArea area) :=
  inferInstanceAs (Decidable (_ = _))

/- Whether an identifier is a path with a relative area. -/
inductive IsRelative : Identifier → String → Prop where
| path
    {path area name : String}
    (hSplits : Splits path area name)
    (hArea : IsRelativeArea area) :
    IsRelative (.path path) area

/- The division of a path is the only one. -/
theorem splits_unique
    {path area area' name name' : String}
    (hSplits : Splits path area name)
    (hSplits' : Splits path area' name') :
    area = area' ∧ name = name' := by
  have hHalves := halves_of_divides hSplits.1
  rw [halves_of_divides hSplits'.1, Prod.mk.injEq] at hHalves
  exact ⟨String.toList_inj.mp hHalves.1.symm,
    String.toList_inj.mp hHalves.2.symm⟩

variable [Surroundings]

/- Whether an identifier stands for an item. -/
inductive Denotes : Identifier → Item → Prop where
| path
    {path area name : String}
    {find? : String → Option Item}
    {item : Item}
    (hSplits : Splits path area name)
    (hArea : Surroundings.importing area = .area find?)
    (hFound : find? name = some item) :
    Denotes (.path path) item
| item
    (item : Item) :
    Denotes (.item item) item
| value
    {v : Value}
    (hValue : v ≠ .null) :
    Denotes (.value v) (.other v.shown)

end Identifier

/-
  What is assumed of imports: a relative area is relative to
  nothing, which breaks its import, and no other import is
  broken, be it that it yields an area or that the area is
  missing.
-/
structure Surroundings.ImportsPlainly
    [Surroundings] : Prop where
  relative :
    ∀ area,
      Identifier.IsRelativeArea area →
        Surroundings.importing area =
          .broken (.relativePath area)
  absolute :
    ∀ area,
      ¬ Identifier.IsRelativeArea area →
        ∀ failure,
          Surroundings.importing area ≠ .broken failure

namespace Identifier

variable [Surroundings]

theorem ofPath?_of_splits
    {path area name : String}
    (hSplits : Splits path area name) :
    ofPath? path =
      match Surroundings.importing area with
      | .missing => .ok none
      | .area find? => .ok (find? name)
      | .broken failure => .error failure := by
  rcases hSplits with ⟨hDivides, hArea, hName⟩
  have hFront : area.toList ≠ [] := by
    rwa [ne_eq, String.toList_eq_nil_iff]
  have hBack : name.toList ≠ [] := by
    rwa [ne_eq, String.toList_eq_nil_iff]
  rw [ofPath?, halves_of_divides hDivides]
  split
  · rename_i hHalves
    exact absurd (Prod.mk.inj hHalves).1 hFront
  · rename_i hHalves
    exact absurd (Prod.mk.inj hHalves).2 hBack
  · rename_i hHalves
    cases hHalves
    -- Both sides may share one compiled match or have two.
    rewrite [String.ofList_toList, String.ofList_toList]
    rfl

theorem ofPath?_of_not_splits
    {path : String}
    (hNone : ∀ area name, ¬ Splits path area name) :
    ofPath? path = .ok none := by
  rw [ofPath?]
  split
  · rfl
  · rfl
  · rename_i area name hArea hName hHalves
    have hDivides := (halves_eq_iff hArea).mp hHalves
    refine absurd ⟨?_, ?_, ?_⟩
      (hNone (String.ofList area) (String.ofList name))
    · rwa [String.toList_ofList, String.toList_ofList]
    · rwa [ne_eq, String.ofList_eq_empty_iff]
    · rwa [ne_eq, String.ofList_eq_empty_iff]

/- A relative path is not looked up. -/
theorem resolve_of_isRelative
    (hImports : Surroundings.ImportsPlainly)
    {i : Identifier}
    {area : String}
    (hRelative : i.IsRelative area) :
    i.resolve = .error (.relativePath area) := by
  rcases hRelative with ⟨hSplits, hArea⟩
  rw [resolve, ofPath?_of_splits hSplits,
    hImports.relative _ hArea]

/-
  What an identifier is resolved to: a relative path to a
  failure, another identifier to what it stands for, if it
  stands for anything.
-/
inductive Resolves (i : Identifier) :
    Except Failure (Option Item) → Prop where
| relative
    {area : String}
    (hRelative : i.IsRelative area) :
    Resolves i (.error (.relativePath area))
| missing
    (hAbsolute : ∀ area, ¬ i.IsRelative area)
    (hNothing : ∀ item, ¬ i.Denotes item) :
    Resolves i (.ok none)
| found
    {item : Item}
    (hDenotes : i.Denotes item) :
    Resolves i (.ok (some item))

/- A path that is divided stands for nothing else. -/
theorem resolves_of_splits
    (hImports : Surroundings.ImportsPlainly)
    {path area name : String}
    (hSplits : Splits path area name) :
    Resolves (.path path) (ofPath? path) := by
  rw [ofPath?_of_splits hSplits]
  by_cases hRelative : IsRelativeArea area
  · rw [hImports.relative _ hRelative]
    exact .relative (.path hSplits hRelative)
  have hAbsolute :
      ∀ other, ¬ (Identifier.path path).IsRelative other := by
    rintro other ⟨hOther, hElse⟩
    rcases splits_unique hSplits hOther with ⟨rfl, rfl⟩
    exact hRelative hElse
  cases hArea : Surroundings.importing area with
  | broken failure =>
      exact absurd hArea (hImports.absolute _ hRelative _)
  | missing =>
      refine .missing hAbsolute ?_
      rintro item ⟨hOther, hElse, -⟩
      rcases splits_unique hSplits hOther with ⟨rfl, rfl⟩
      rw [hArea] at hElse
      cases hElse
  | area find? =>
      dsimp only
      cases hFound : find? name with
      | some item => exact .found (.path hSplits hArea hFound)
      | none =>
          refine .missing hAbsolute ?_
          rintro item ⟨hOther, hElse, hThere⟩
          rcases splits_unique hSplits hOther with ⟨rfl, rfl⟩
          rw [hArea] at hElse
          cases hElse
          rw [hFound] at hThere
          cases hThere

theorem resolves_path
    (hImports : Surroundings.ImportsPlainly)
    (path : String) :
    Resolves (.path path) (ofPath? path) := by
  by_cases hSome : ∃ area name, Splits path area name
  · rcases hSome with ⟨area, name, hSplits⟩
    exact resolves_of_splits hImports hSplits
  · simp only [not_exists] at hSome
    rw [ofPath?_of_not_splits hSome]
    refine .missing ?_ ?_
    · rintro area ⟨hSplits, -⟩
      exact hSome _ _ hSplits
    · rintro item ⟨hSplits, -, -⟩
      exact hSome _ _ hSplits

/- Every identifier is resolved to what it stands for. -/
theorem resolves
    (hImports : Surroundings.ImportsPlainly)
    (i : Identifier) :
    i.Resolves i.resolve := by
  cases i with
  | path path => exact resolves_path hImports path
  | item item => exact .found (.item item)
  | value v =>
      by_cases hNull : v = .null
      · subst hNull
        refine .missing ?_ ?_
        · rintro area ⟨⟩
        · rintro item ⟨⟩
          contradiction
      · have hResolved :
            (value v).resolve = .ok (some (.other v.shown)) := by
          cases v <;> first | rfl | contradiction
        rw [hResolved]
        exact .found (.value hNull)

end Identifier

end EventFlow

------------------------------------------------------------
-- What Calls Yield
------------------------------------------------------------

namespace EventFlow

/- The slug of an item that can play a role, as written. -/
def Item.slug? : Role → Item → Option String
| .trigger, .trigger type => some type.slug
| .step, .step type => some type.slug
| _, _ => none

/- Whether a failure is one of registration in a role. -/
inductive Failure.IsOfRegistration
    (role : Role) : Failure → Prop where
| missing
    (identifier : String) :
    IsOfRegistration role (.typeMissing role identifier)
| unfit
    (identifier : String) :
    IsOfRegistration role (.typeUnfit role identifier)
| blank :
    IsOfRegistration role (.slugBlank role)
| taken
    (slug : String) :
    IsOfRegistration role (.slugTaken role slug)

namespace Registration

/- The role that a type is registered for. -/
def role : Registration → Role
| .trigger _ => .trigger
| .step _ => .step

/- The identifier that a call is given. -/
def identifier : Registration → Identifier
| .trigger i => i
| .step i => i

variable [Surroundings]

/- The slug of the type that a call identifies, as written. -/
def slug : Registration → Except Failure String
| .trigger i => i.trigger.map TriggerType.slug
| .step i => i.step.map StepType.slug

/-
  What a call can yield, by what its identifier stands for
  and by the slug of what that is.
-/
inductive Yields
    (call : Registration) : Except Failure String → Prop where
| relative
    {area : String}
    (hRelative : call.identifier.IsRelative area) :
    Yields call (.error (.relativePath area))
| missing
    (hAbsolute : ∀ area, ¬ call.identifier.IsRelative area)
    (hNothing : ∀ item, ¬ call.identifier.Denotes item) :
    Yields call
      (.error (.typeMissing call.role call.identifier.name))
| unfit
    {item : Item}
    (hDenotes : call.identifier.Denotes item)
    (hUnfit : item.slug? call.role = none) :
    Yields call
      (.error (.typeUnfit call.role call.identifier.name))
| blank
    {item : Item}
    {written : String}
    (hDenotes : call.identifier.Denotes item)
    (hSlug : item.slug? call.role = some written)
    (hBlank : Text.trim written = "") :
    Yields call (.error (.slugBlank call.role))
| taken
    {item : Item}
    {written : String}
    (hDenotes : call.identifier.Denotes item)
    (hSlug : item.slug? call.role = some written)
    (hFull : Text.trim written ≠ "") :
    Yields call
      (.error (.slugTaken call.role (Text.trim written)))
| registered
    {item : Item}
    {written : String}
    (hDenotes : call.identifier.Denotes item)
    (hSlug : item.slug? call.role = some written)
    (hFull : Text.trim written ≠ "") :
    Yields call (.ok (Text.trim written))

variable {call : Registration}

theorem slug_of_resolve_error
    {failure : Failure}
    (hResolve : call.identifier.resolve = .error failure) :
    call.slug = .error failure := by
  cases call with
  | trigger i =>
      rw [identifier] at hResolve
      rw [slug, Identifier.trigger, hResolve]
      rfl
  | step i =>
      rw [identifier] at hResolve
      rw [slug, Identifier.step, hResolve]
      rfl

theorem slug_of_resolve_none
    (hResolve : call.identifier.resolve = .ok none) :
    call.slug =
      .error (.typeMissing call.role call.identifier.name) := by
  cases call with
  | trigger i =>
      rw [identifier] at hResolve
      rw [slug, Identifier.trigger, hResolve]
      rfl
  | step i =>
      rw [identifier] at hResolve
      rw [slug, Identifier.step, hResolve]
      rfl

theorem slug_of_resolve_some
    {item : Item}
    (hResolve : call.identifier.resolve = .ok (some item)) :
    call.slug =
      match item.slug? call.role with
      | none =>
          .error (.typeUnfit call.role call.identifier.name)
      | some written => .ok written := by
  cases call with
  | trigger i =>
      rw [identifier] at hResolve
      rw [slug, Identifier.trigger, hResolve]
      cases item <;> rfl
  | step i =>
      rw [identifier] at hResolve
      rw [slug, Identifier.step, hResolve]
      cases item <;> rfl

end Registration

namespace Engine

variable {e : Engine}
variable {call : Registration}

variable [Surroundings]

/- A call without a type to register fails at once. -/
theorem act_of_slug_error
    {failure : Failure}
    (hSlug : call.slug = .error failure) :
    call.act e = (.error failure, e) := by
  cases call with
  | trigger i =>
      cases hType : i.trigger with
      | ok type =>
          rw [Registration.slug, hType] at hSlug
          cases hSlug
      | error other =>
          rw [Registration.slug, hType] at hSlug
          cases hSlug
          exact Act.ofExcept_bind_of_error hType ..
  | step i =>
      cases hType : i.step with
      | ok type =>
          rw [Registration.slug, hType] at hSlug
          cases hSlug
      | error other =>
          rw [Registration.slug, hType] at hSlug
          cases hSlug
          exact Act.ofExcept_bind_of_error hType ..

/- A blank slug is refused. -/
theorem act_of_blank
    {written : String}
    (hSlug : call.slug = .ok written)
    (hBlank : Text.trim written = "") :
    call.act e = (.error (.slugBlank call.role), e) := by
  have hRefused (role : Role) :
      slugOf role written = .error (.slugBlank role) := by
    rw [slugOf, hBlank]
    rfl
  cases call with
  | trigger i =>
      rcases Outcome.map_eq_ok hSlug with ⟨type, hType, rfl⟩
      rw [Registration.act, registerTrigger,
        Act.ofExcept_bind_of_ok hType]
      exact Act.ofExcept_bind_of_error (hRefused .trigger) ..
  | step i =>
      rcases Outcome.map_eq_ok hSlug with ⟨type, hType, rfl⟩
      rw [Registration.act, registerStep,
        Act.ofExcept_bind_of_ok hType]
      exact Act.ofExcept_bind_of_error (hRefused .step) ..

/- Any other slug is taken, or told. -/
theorem act_of_slug
    (hHolds : e.Holds StepType.IsAny)
    {written : String}
    (hSlug : call.slug = .ok written)
    (hFull : Text.trim written ≠ "") :
    (call.act e).1 =
        .error (.slugTaken call.role (Text.trim written)) ∨
      (call.act e).1 = .ok (Text.trim written) := by
  cases call with
  | trigger i =>
      rcases Outcome.map_eq_ok hSlug with ⟨type, hType, rfl⟩
      have hTaken := registerTrigger_taken_iff (e := e) hType
        hFull
      cases hHeld :
          e.triggerTypes.lookup (Text.trim type.slug) with
      | none => exact .inr (hTaken.2.mpr hHeld)
      | some other =>
          exact .inl (hTaken.1.mpr (hHeld ▸ rfl))
  | step i =>
      rcases Outcome.map_eq_ok hSlug with ⟨type, hType, rfl⟩
      have hTypes (slug : String) :
          e.stepTypes.lookup slug ≠ some .stale := by
        intro hStale
        rcases hHolds _ _ hStale with ⟨type, hEntry, -⟩
        cases hEntry
      have hTaken := registerStep_taken_iff hTypes hType hFull
      by_cases hOther :
          e.isStrict = true ∧
            ∃ other,
              e.stepTypes.lookup (Text.trim type.slug) =
                  some (.type other) ∧
                other ≠ type
      · exact .inl (hTaken.1.mpr hOther)
      · exact .inr (hTaken.2.mpr hOther)

/-
  What a call yields is told by what its identifier stands
  for, as long as only types are registered.
-/
theorem yields_act
    (hImports : Surroundings.ImportsPlainly)
    (hHolds : e.Holds StepType.IsAny)
    (call : Registration) :
    call.Yields (call.act e).1 := by
  have hResolves := call.identifier.resolves hImports
  generalize hResolve : call.identifier.resolve = resolved
    at hResolves
  cases hResolves with
  | relative hRelative =>
      rw [act_of_slug_error
        (Registration.slug_of_resolve_error hResolve)]
      exact .relative hRelative
  | missing hAbsolute hNothing =>
      rw [act_of_slug_error
        (Registration.slug_of_resolve_none hResolve)]
      exact .missing hAbsolute hNothing
  | @found item hDenotes =>
      have hSlug := Registration.slug_of_resolve_some hResolve
      cases hPlays : item.slug? call.role with
      | none =>
          rw [hPlays] at hSlug
          rw [act_of_slug_error hSlug]
          exact .unfit hDenotes hPlays
      | some written =>
          rw [hPlays] at hSlug
          by_cases hBlank : Text.trim written = ""
          · rw [act_of_blank hSlug hBlank]
            exact .blank hDenotes hPlays hBlank
          · rcases act_of_slug hHolds hSlug hBlank with
              hTaken | hTold
            · rw [hTaken]
              exact .taken hDenotes hPlays hBlank
            · rw [hTold]
              exact .registered hDenotes hPlays hBlank

end Engine

namespace Registration

variable {call : Registration}
variable {outcome : Except Failure String}

/- Only relative paths fail with another failure. -/
theorem Yields.isOfRegistration
    [Surroundings]
    (hYields : call.Yields outcome)
    (hAbsolute : ∀ area, ¬ call.identifier.IsRelative area)
    {failure : Failure}
    (hFailed : outcome = .error failure) :
    failure.IsOfRegistration call.role := by
  cases hYields with
  | relative hRelative =>
      exact absurd hRelative (hAbsolute _)
  | missing => cases hFailed; exact .missing _
  | unfit => cases hFailed; exact .unfit _
  | blank => cases hFailed; exact .blank
  | taken => cases hFailed; exact .taken _
  | registered => cases hFailed

/- A type is missing for what names nothing, and only then. -/
theorem Yields.missing_iff
    [Surroundings]
    (hYields : call.Yields outcome) :
    outcome =
        .error
          (.typeMissing call.role call.identifier.name) ↔
      (∀ area, ¬ call.identifier.IsRelative area) ∧
        ∀ item, ¬ call.identifier.Denotes item := by
  constructor
  · intro hMissing
    cases hYields with
    | missing hAbsolute hNothing =>
        exact ⟨hAbsolute, hNothing⟩
    | _ => cases hMissing
  · rintro ⟨hAbsolute, hNothing⟩
    cases hYields with
    | relative hRelative =>
        exact absurd hRelative (hAbsolute _)
    | missing => rfl
    | unfit hDenotes => exact absurd hDenotes (hNothing _)
    | blank hDenotes => exact absurd hDenotes (hNothing _)
    | taken hDenotes => exact absurd hDenotes (hNothing _)
    | registered hDenotes =>
        exact absurd hDenotes (hNothing _)

end Registration

end EventFlow

------------------------------------------------------------
-- Calls in Sessions
------------------------------------------------------------

namespace EventFlow

namespace Session

/- An engine in use registers nothing but types of steps. -/
theorem holds_of_reached
    [Surroundings]
    {r : EngineRequest}
    {env : List (String × String)}
    {files : Files}
    {level? : Option Value}
    {opened s : Session}
    (hOpened : start r env files level? = .ok opened)
    (hReached : Reached StepType.IsAny opened s) :
    s.engine.Holds StepType.IsAny := by
  rcases start_evolves (fun _ _ => trivial) hOpened with
    ⟨hProper, e₀, hEmpty, hOpening⟩
  have hLater := (leads_of_reached hReached hProper).1
  exact Engine.holds_of_evolves (hOpening.trans hLater)
    (Engine.holds_of_empty hEmpty)

/-
  Suppose that imports are plain.  Whatever was done with an
  engine since it was opened, a call that registers a type
  tells a slug, or it fails with a failure of registration
  in its role and changes nothing, unless its identifier is
  a path with a relative area.  For such a path, and for no
  other identifier, it fails with a failure that is none of
  registration.  A type is missing exactly if the identifier
  is no such path and stands for nothing.
-/
theorem registration_fails_as_such
    [Surroundings]
    {r : EngineRequest}
    {env : List (String × String)}
    {files : Files}
    {level? : Option Value}
    {opened s : Session}
    (hImports : Surroundings.ImportsPlainly)
    (hOpened : start r env files level? = .ok opened)
    (hReached : Reached StepType.IsAny opened s)
    (call : Registration) :
    ((∀ area, ¬ call.identifier.IsRelative area) →
      (∃ slug, (call.act s.engine).1 = .ok slug) ∨
        ∃ failure,
          failure.IsOfRegistration call.role ∧
            call.act s.engine = (.error failure, s.engine)) ∧
    (∀ area,
      call.identifier.IsRelative area →
        call.act s.engine =
          (.error (.relativePath area), s.engine)) ∧
    ((call.act s.engine).1 =
        .error
          (.typeMissing call.role call.identifier.name) ↔
      (∀ area, ¬ call.identifier.IsRelative area) ∧
        ∀ item, ¬ call.identifier.Denotes item) := by
  have hYields :=
    Engine.yields_act hImports
      (holds_of_reached hOpened hReached) call
  refine ⟨?_, ?_, hYields.missing_iff⟩
  · intro hAbsolute
    rcases hResult : call.act s.engine with ⟨outcome, e'⟩
    rw [hResult] at hYields
    cases outcome with
    | ok slug => exact .inl ⟨slug, rfl⟩
    | error failure =>
        refine .inr ⟨failure, ?_, ?_⟩
        · exact hYields.isOfRegistration hAbsolute rfl
        · rw [Engine.act_of_error hResult]
  · intro area hRelative
    exact Engine.act_of_slug_error
      (Registration.slug_of_resolve_error
        (Identifier.resolve_of_isRelative hImports hRelative))

/- A path whose area begins with a point. -/
def relativeCall : Registration :=
  .trigger (.path " .relative:X\n")

/- A path without a name behind its colon. -/
def namelessCall : Registration :=
  .step (.path "crm_automation.automation.commons.actions:")

/- A path to something that is no type. -/
def unfitCall : Registration :=
  .step (.path "crm_automation.cli:sys")

section

local instance sampleImports : Surroundings :=
  Sample.surroundings Sample.areas

/- Sample imports are plain. -/
theorem importsPlainly_sample :
    Surroundings.ImportsPlainly where
  relative := by
    intro area hRelative
    exact if_pos hRelative
  absolute := by
    intro area hAbsolute failure hBroken
    unfold Identifier.IsRelativeArea at hAbsolute
    change Sample.importing Sample.areas area = _ at hBroken
    rw [Sample.importing, if_neg hAbsolute] at hBroken
    split at hBroken <;> cases hBroken

/-
  In a new session a path without a name stands for nothing,
  one that leads to no type is unfit, and the point at the
  front of another one decides what is told.
-/
theorem registration_fails_as_such_pointed :
    start {} [] [] none = .ok furnished ∧
      (∀ item, ¬ namelessCall.identifier.Denotes item) ∧
      (unfitCall.act furnished.engine).1 =
        .error (.typeUnfit .step "crm_automation.cli:sys") ∧
      (∃ item, unfitCall.identifier.Denotes item) ∧
      relativeCall.identifier.IsRelative ".relative" ∧
      relativeCall.act furnished.engine =
        (.error (.relativePath ".relative"),
          furnished.engine) := by
  have hOpened : start {} [] [] none = .ok furnished := rfl
  have hImports := importsPlainly_sample
  have hNameless :=
    registration_fails_as_such hImports hOpened .here
      namelessCall
  have hUnfit :=
    registration_fails_as_such hImports hOpened .here
      unfitCall
  have hRelative :=
    registration_fails_as_such hImports hOpened .here
      relativeCall
  have hMissing :
      (namelessCall.act furnished.engine).1 =
        .error
          (.typeMissing .step
            "crm_automation.automation.commons.actions:") :=
    rfl
  have hTold :
      (unfitCall.act furnished.engine).1 =
        .error (.typeUnfit .step "crm_automation.cli:sys") :=
    rfl
  have hDivides :
      Identifier.Divides
        (Text.trimChars " .relative:X\n".toList)
        ".relative".toList "X".toList := by
    have hColon : ':' ∉ ".relative".toList := by decide
    exact .colon hColon
  have hPointed :
      relativeCall.identifier.IsRelative ".relative" :=
    .path ⟨hDivides, by decide, by decide⟩ rfl
  have hAbsolute (area : String) :
      ¬ unfitCall.identifier.IsRelative area := by
    intro hOther
    rw [hUnfit.2.1 area hOther] at hTold
    cases hTold
  have hSome : ∃ item, unfitCall.identifier.Denotes item := by
    by_contra hNone
    rw [hUnfit.2.2.mpr ⟨hAbsolute, not_exists.mp hNone⟩]
      at hTold
    cases hTold
  exact ⟨hOpened, (hNameless.2.2.mp hMissing).2, hTold, hSome,
    hPointed, hRelative.2.1 _ hPointed⟩

/-
  A relative path stands for nothing, but the type is not
  told to be missing: a failure that is none of registration
  comes out of both calls.
-/
theorem relative_path_escapes :
    start {} [] [] none = .ok furnished ∧
      (∀ item,
        ¬ (Identifier.path ".relative:X").Denotes item) ∧
      (Engine.registerTrigger (.path ".relative:X")
          furnished.engine).1 =
        .error (.relativePath ".relative") ∧
      (Engine.registerStep (.path ".relative:X")
          furnished.engine).1 =
        .error (.relativePath ".relative") ∧
      ∀ role,
        ¬ Failure.IsOfRegistration role
          (.relativePath ".relative") := by
  have hResolve :
      (Identifier.path ".relative:X").resolve =
        .error (.relativePath ".relative") := rfl
  refine ⟨rfl, ?_, rfl, rfl, ?_⟩
  · rintro item ⟨hSplits, hArea, -⟩
    rw [Identifier.resolve,
      Identifier.ofPath?_of_splits hSplits, hArea] at hResolve
    cases hResolve
  · rintro role ⟨⟩

end

end Session

end EventFlow
