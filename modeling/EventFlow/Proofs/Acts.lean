import EventFlow.Act
import Mathlib.Order.Defs.Unbundled

/-
  The algebra of acts.

  An act is applied to a state by applying its parts in
  order, and an act of several parts keeps a relation
  between the states before and after when each part does.

  Key definitions include:
    * `Outcome.failure?`
    * `Act.Keeps`
    * `Act.Leaves`
    * `Act.Ensures`

  Key theorems include:
    * `Outcome.map_eq_ok` and `Outcome.map_eq_error`
    * `Act.bind_of_ok` and `Act.bind_of_error`
    * `Act.bind_eq_ok`
    * `Act.bind_pure_apply`
    * `Act.attempt_bind`
    * `Act.Keeps.bind`
-/

------------------------------------------------------------
-- Outcomes
------------------------------------------------------------

namespace EventFlow

namespace Outcome

variable {α β : Type}
variable {x : Except Failure α}
variable {f : α → β}

/- The failure of an outcome that is one. -/
def failure? (x : Except Failure α) : Option Failure :=
  match x with
  | .ok _ => none
  | .error failure => some failure

theorem map_eq_ok
    {y : β}
    (hMap : x.map f = .ok y) :
    ∃ a, x = .ok a ∧ f a = y := by
  cases x with
  | error failure => cases hMap
  | ok a =>
      cases hMap
      exact ⟨a, rfl, rfl⟩

theorem map_eq_error
    {failure : Failure}
    (hMap : x.map f = .error failure) :
    x = .error failure := by
  cases x with
  | error failure =>
      cases hMap
      rfl
  | ok a => cases hMap

@[simp] theorem failure?_map :
    failure? (x.map f) = failure? x := by
  cases x with
  | ok a => rfl
  | error failure => rfl

theorem bind_eq_ok
    {g : α → Except Failure β}
    {y : β}
    (hBind : (x >>= g) = .ok y) :
    ∃ a, x = .ok a ∧ g a = .ok y := by
  cases x with
  | error failure => cases hBind
  | ok a => exact ⟨a, rfl, hBind⟩

/- An outcome is a result or a failure. -/
theorem length_results_add_length_failures
    (xs : List (Except Failure α)) :
    (xs.filterMap Except.toOption).length +
      (xs.filterMap failure?).length = xs.length := by
  induction xs with
  | nil => rfl
  | cons x xs ih =>
      cases x with
      | ok a =>
          simp only [List.filterMap_cons, failure?,
            Except.toOption, List.length_cons]
          omega
      | error failure =>
          simp only [List.filterMap_cons, failure?,
            Except.toOption, List.length_cons]
          omega

end Outcome

end EventFlow

------------------------------------------------------------
-- Applying Acts
------------------------------------------------------------

namespace EventFlow

namespace Act

variable {σ α β : Type}

@[simp] theorem pure_apply
    (x : α)
    (s : σ) :
    (Pure.pure x : Act σ α) s = (.ok x, s) := rfl

/- A look hands on what is seen, in the same state. -/
@[simp] theorem look_bind
    (f : σ → α)
    (g : α → Act σ β)
    (s : σ) :
    (look f >>= g) s = g (f s) s := rfl

@[simp] theorem change_bind
    (f : σ → σ)
    (g : Unit → Act σ β)
    (s : σ) :
    (change f >>= g) s = g () (f s) := rfl

/- What comes behind an act that succeeds. -/
theorem bind_of_ok
    {a : Act σ α}
    {f : α → Act σ β}
    {s t : σ}
    {x : α}
    (hRan : a s = (.ok x, t)) :
    (a >>= f) s = f x t := by
  change Act.andThen a f s = f x t
  rw [Act.andThen, hRan]

/- Nothing comes behind an act that fails. -/
theorem bind_of_error
    {a : Act σ α}
    {f : α → Act σ β}
    {s t : σ}
    {failure : Failure}
    (hRan : a s = (.error failure, t)) :
    (a >>= f) s = (.error failure, t) := by
  change Act.andThen a f s = (.error failure, t)
  rw [Act.andThen, hRan]

/- Acts in order succeed only when each of them does. -/
theorem bind_eq_ok
    {a : Act σ α}
    {f : α → Act σ β}
    {s u : σ}
    {y : β}
    (hRan : (a >>= f) s = (.ok y, u)) :
    ∃ x t, a s = (.ok x, t) ∧ f x t = (.ok y, u) := by
  cases hFirst : a s with
  | mk outcome t =>
      cases outcome with
      | ok x =>
          rw [bind_of_ok hFirst] at hRan
          exact ⟨x, t, rfl, hRan⟩
      | error failure =>
          rw [bind_of_error hFirst] at hRan
          cases hRan

/- What comes behind an outcome that is a result. -/
theorem ofExcept_bind_of_ok
    {outcome : Except Failure α}
    {x : α}
    (hOutcome : outcome = .ok x)
    (f : α → Act σ β)
    (s : σ) :
    (ofExcept outcome >>= f) s = f x s :=
  bind_of_ok (congrArg (·, s) hOutcome)

/- Nothing comes behind an outcome that is a failure. -/
theorem ofExcept_bind_of_error
    {outcome : Except Failure α}
    {failure : Failure}
    (hOutcome : outcome = .error failure)
    (f : α → Act σ β)
    (s : σ) :
    (ofExcept outcome >>= f) s = (.error failure, s) :=
  bind_of_error (congrArg (·, s) hOutcome)

/- What an act yields can be made into something else. -/
theorem bind_pure_apply
    (a : Act σ α)
    (f : α → β)
    (s : σ) :
    (a >>= fun x => Pure.pure (f x)) s =
      ((a s).1.map f, (a s).2) := by
  cases hRan : a s with
  | mk outcome t =>
      cases outcome with
      | ok x => exact bind_of_ok hRan
      | error failure => exact bind_of_error hRan

/- What comes behind an act that is tried, either way. -/
theorem attempt_bind
    {a : Act σ α}
    (f : Except Failure α → Act σ β)
    {s t : σ}
    {outcome : Except Failure α}
    (hRan : a s = (outcome, t)) :
    (attempt a >>= f) s = f outcome t := by
  refine bind_of_ok ?_
  unfold attempt
  rw [hRan]

end Act

end EventFlow

------------------------------------------------------------
-- Kept Relations
------------------------------------------------------------

namespace EventFlow

namespace Act

variable {σ α β : Type}

/-
  Whether the state behind an act, also behind one that
  fails, stands in a relation to the state before it.
-/
def Keeps
    (R : σ → σ → Prop)
    (a : Act σ α) : Prop :=
  ∀ s, R s (a s).2

/-
  Whether whatever an act yields stands in a relation to the
  state behind it.
-/
def Leaves
    (P : σ → α → Prop)
    (a : Act σ α) : Prop :=
  ∀ {s x t}, a s = (.ok x, t) → P t x

/- Whether whatever an act yields has a property. -/
def Ensures
    (P : α → Prop)
    (a : Act σ α) : Prop :=
  ∀ {s x t}, a s = (.ok x, t) → P x

namespace Keeps

variable {R : σ → σ → Prop} [IsPreorder σ R]

/- An act that changes nothing keeps every preorder. -/
theorem of_same
    {a : Act σ α}
    (hSame : ∀ s, (a s).2 = s) :
    a.Keeps R := by
  intro s
  rw [hSame s]
  exact Std.Refl.refl s

theorem pure (x : α) : (Pure.pure x : Act σ α).Keeps R :=
  of_same fun _ => rfl

theorem fail (failure : Failure) :
    (fail failure : Act σ α).Keeps R :=
  of_same fun _ => rfl

theorem ofExcept (outcome : Except Failure α) :
    (ofExcept outcome : Act σ α).Keeps R :=
  of_same fun _ => rfl

theorem look (f : σ → α) : (look f).Keeps R :=
  of_same fun _ => rfl

/- What comes behind a look may rely on what is seen. -/
omit [IsPreorder σ R] in
theorem look_then
    {f : σ → α}
    {g : α → Act σ β}
    (hThen : ∀ s, R s (g (f s) s).2) :
    (Act.look f >>= g).Keeps R :=
  hThen

/-
  What comes behind an act from some state may rely on what
  the act does from there.
-/
theorem bind_from
    {a : Act σ α}
    {f : α → Act σ β}
    {s : σ}
    (hFirst : R s (a s).2)
    (hThen : ∀ x t, a s = (.ok x, t) → R t (f x t).2) :
    R s ((a >>= f) s).2 := by
  cases hRan : a s with
  | mk outcome t =>
      rw [hRan] at hFirst
      cases outcome with
      | ok x =>
          rw [bind_of_ok hRan]
          exact IsTrans.trans _ _ _ hFirst (hThen x t hRan)
      | error failure =>
          rw [bind_of_error hRan]
          exact hFirst

/- What comes behind an act may rely on what it leaves. -/
theorem bind_left
    {P : σ → α → Prop}
    {a : Act σ α}
    {f : α → Act σ β}
    (hLeaves : a.Leaves P)
    (hFirst : a.Keeps R)
    (hThen : ∀ t x, P t x → R t (f x t).2) :
    (a >>= f).Keeps R :=
  fun s => bind_from (hFirst s) fun x t hRan =>
    hThen t x (hLeaves hRan)

/- What comes behind an act may rely on what it ensures. -/
theorem bind_ensured
    {P : α → Prop}
    {a : Act σ α}
    {f : α → Act σ β}
    (hEnsures : a.Ensures P)
    (hFirst : a.Keeps R)
    (hThen : ∀ x, P x → (f x).Keeps R) :
    (a >>= f).Keeps R :=
  bind_left (P := fun _ => P) hEnsures hFirst
    fun t x hYields => hThen x hYields t

/- Acts in order keep what each of them keeps. -/
theorem bind
    {a : Act σ α}
    {f : α → Act σ β}
    (hFirst : a.Keeps R)
    (hThen : ∀ x, (f x).Keeps R) :
    (a >>= f).Keeps R :=
  bind_ensured (P := fun _ => True) (fun _ => trivial) hFirst
    fun x _ => hThen x

/- To try an act keeps what the act keeps. -/
omit [IsPreorder σ R] in
theorem attempt
    {a : Act σ α}
    (hTried : a.Keeps R) :
    (attempt a).Keeps R :=
  hTried

end Keeps

end Act

end EventFlow
