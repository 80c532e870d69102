import EventFlow.Engine.Dispatch
import EventFlow.Engine.Loading
import EventFlow.Engine.Registration
import EventFlow.Proofs.Acts

/-
  What was told does not matter.

  Two acts agree when, from states in a relation, they yield
  outcomes that look the same and leave states in the
  relation.  Engines echo one another when they differ only
  in what they have told, and no act of an engine depends on
  that.

  Key definitions include:
    * `Act.Agree`
    * `Engine.Echoes`
    * `Act.IsDeaf`

  Key theorems include:
    * `Act.Agree.bind`
    * `Host.agree_dispatch`
    * `Act.IsDeaf.of_silenced`
    * `Engine.isDeaf_init`
    * `Engine.isDeaf_loadFile`
    * `Engine.isDeaf_fire`
-/

------------------------------------------------------------
-- Agreement
------------------------------------------------------------

namespace EventFlow

namespace Act

variable {σ α β γ : Type}

/-
  Whether two acts agree from states in a relation: what is
  looked at of their outcomes is the same, and so are their
  failures, and the states behind them are in the relation.
-/
def Agree
    (R : σ → σ → Prop)
    (look : α → β)
    (a b : Act σ α) : Prop :=
  ∀ s t,
    R s t →
      (a s).1.map look = (b t).1.map look ∧
        R (a s).2 (b t).2

namespace Agree

variable {R : σ → σ → Prop}
variable {look : α → β}
variable {a b : Act σ α}

theorem pure
    {x y : α}
    (hSame : look x = look y) :
    Agree R look (Pure.pure x) (Pure.pure y) :=
  fun _ _ hStates => ⟨congrArg Except.ok hSame, hStates⟩

theorem fail (failure : Failure) :
    Agree R look (fail failure) (fail failure) :=
  fun _ _ hStates => ⟨rfl, hStates⟩

/- Acts that leave the state agree where their outcomes do. -/
theorem answer
    {f g : σ → Except Failure α}
    (hSame :
      ∀ s t, R s t → (f s).map look = (g t).map look) :
    Agree R look (fun s => (f s, s)) (fun t => (g t, t)) :=
  fun s t hStates => ⟨hSame s t hStates, hStates⟩

theorem change
    {f g : σ → σ}
    (hChange : ∀ s t, R s t → R (f s) (g t)) :
    Agree R id (change f) (change g) :=
  fun s t hStates => ⟨rfl, hChange s t hStates⟩

/- Acts with the same outcomes agree on what is looked at. -/
theorem seen
    (hAgree : Agree R id a b)
    (look : α → β) :
    Agree R look a b := by
  intro s t hStates
  rcases hAgree s t hStates with ⟨hSame, hAfter⟩
  rw [Except.map_id, id, id] at hSame
  rw [hSame]
  exact ⟨rfl, hAfter⟩

/- Acts agree in order when the later ones agree as well. -/
theorem bind
    {δ : Type}
    {look' : γ → δ}
    {f g : α → Act σ γ}
    (hFirst : Agree R look a b)
    (hThen :
      ∀ x y, look x = look y → Agree R look' (f x) (g y)) :
    Agree R look' (a >>= f) (b >>= g) := by
  intro s t hStates
  rcases hFirst s t hStates with ⟨hOutcome, hBetween⟩
  rcases hRan : a s with ⟨outcome, s'⟩
  rcases hRan' : b t with ⟨outcome', t'⟩
  rw [hRan, hRan'] at hOutcome hBetween
  cases outcome with
  | ok x =>
      cases outcome' with
      | ok y =>
          rw [bind_of_ok hRan, bind_of_ok hRan']
          exact hThen x y (Except.ok.inj hOutcome) s' t'
            hBetween
      | error failure => cases hOutcome
  | error failure =>
      cases outcome' with
      | ok y => cases hOutcome
      | error failure' =>
          cases hOutcome
          rw [bind_of_error hRan, bind_of_error hRan']
          exact ⟨rfl, hBetween⟩

/- Behind the same outcome the same comes. -/
theorem then_same
    {look' : β → γ}
    {f g : α → Act σ β}
    (hFirst : Agree R id a b)
    (hThen : ∀ x, Agree R look' (f x) (g x)) :
    Agree R look' (a >>= f) (b >>= g) := by
  refine hFirst.bind fun x y hSame => ?_
  cases hSame
  exact hThen x

/- What comes behind looks may rely on what is seen. -/
theorem look_bind
    {look' : β → γ}
    {f g : σ → α}
    {k l : α → Act σ β}
    (hThen :
      ∀ s t,
        R s t →
          (k (f s) s).1.map look' =
              (l (g t) t).1.map look' ∧
            R (k (f s) s).2 (l (g t) t).2) :
    Agree R look' (Act.look f >>= k) (Act.look g >>= l) :=
  hThen

/- Acts that agree do so when they are tried. -/
theorem attempt
    (hTried : Agree R look a b) :
    Agree R (Except.map look) (attempt a) (attempt b) := by
  intro s t hStates
  rcases hTried s t hStates with ⟨hOutcome, hAfter⟩
  exact ⟨congrArg Except.ok hOutcome, hAfter⟩

theorem attempt_same
    (hTried : Agree R id a b) :
    Agree R id (Act.attempt a) (Act.attempt b) := by
  have hAttempt := hTried.attempt
  rw [Except.map_id] at hAttempt
  exact hAttempt

end Agree

end Act

end EventFlow

------------------------------------------------------------
-- Deliveries That Agree
------------------------------------------------------------

namespace EventFlow

namespace Host

open Act

variable {σ : Type}
variable {R : σ → σ → Prop}
variable {h h' : Host σ}

/- Hosts that serve and tell alike deliver alike. -/
theorem agree_deliver
    (hServe :
      ∀ listener payload correlationId,
        Agree R id (h.serve listener payload correlationId)
          (h'.serve listener payload correlationId))
    (hTell :
      ∀ notice, Agree R id (h.tell notice) (h'.tell notice))
    (event : String)
    (payload correlationId : Value)
    (subscriptions : List Subscription) :
    Agree R id
      (h.deliver event payload correlationId subscriptions)
      (h'.deliver event payload correlationId
        subscriptions) := by
  induction subscriptions with
  | nil => exact .pure rfl
  | cons sub rest ih =>
      refine (Agree.attempt_same (hServe _ _ _)).then_same
        fun outcome => ?_
      cases outcome with
      | ok result => exact ih.then_same fun _ => .pure rfl
      | error failure =>
          change Agree R id (if _ then _ else _)
            (if _ then _ else _)
          split
          · exact .fail _
          · exact (hTell _).then_same fun _ =>
              ih.then_same fun _ => .pure rfl

/- If their buses agree as well, they dispatch alike. -/
theorem agree_dispatch
    (hServe :
      ∀ listener payload correlationId,
        Agree R id (h.serve listener payload correlationId)
          (h'.serve listener payload correlationId))
    (hTell :
      ∀ notice, Agree R id (h.tell notice) (h'.tell notice))
    (hBus :
      ∀ s t, R s t → (h.engine s).bus = (h'.engine t).bus)
    (event : String)
    (payload correlationId : Value) :
    Agree R id (h.dispatch event payload correlationId)
      (h'.dispatch event payload correlationId) := by
  refine .look_bind fun s t hStates => ?_
  rw [hBus s t hStates]
  refine Agree.then_same
    (agree_deliver hServe hTell event payload correlationId
      _) (fun _ => ?_) s t hStates
  exact (hTell _).then_same fun _ => .pure rfl

end Host

end EventFlow

------------------------------------------------------------
-- Deaf Acts
------------------------------------------------------------

namespace EventFlow

/- Whether engines differ at most in what they have told. -/
def Engine.Echoes (e e' : Engine) : Prop :=
  e.silenced = e'.silenced

/- What is made of untold parts is the same in echoes. -/
theorem Engine.Echoes.same
    {α : Type}
    {e e' : Engine}
    (hEchoes : e.Echoes e')
    {f : Engine → α}
    (hUntold : ∀ e, f e.silenced = f e) :
    f e = f e' := by
  rw [← hUntold e, hEchoes, hUntold e']

namespace Act

variable {α β : Type}

/-
  Whether an act comes to the same in engines that differ
  only in what they have told.
-/
def IsDeaf (a : Act Engine α) : Prop :=
  ∀ e e',
    Engine.Echoes e e' →
      (a e).1 = (a e').1 ∧
        Engine.Echoes (a e).2 (a e').2

/- A deaf act agrees with itself. -/
theorem isDeaf_iff_agree {a : Act Engine α} :
    a.IsDeaf ↔ Agree Engine.Echoes id a a := by
  simp only [IsDeaf, Agree, Except.map_id, id]

namespace IsDeaf

theorem pure (x : α) :
    (Pure.pure x : Act Engine α).IsDeaf :=
  fun _ _ hEchoes => ⟨rfl, hEchoes⟩

theorem fail (failure : Failure) :
    (fail failure : Act Engine α).IsDeaf :=
  fun _ _ hEchoes => ⟨rfl, hEchoes⟩

theorem ofExcept (outcome : Except Failure α) :
    (ofExcept outcome : Act Engine α).IsDeaf :=
  fun _ _ hEchoes => ⟨rfl, hEchoes⟩

/- An act is deaf if it is the same where nothing was told. -/
theorem of_silenced
    {a : Act Engine α}
    (hSilenced :
      ∀ e,
        (a e).1 = (a e.silenced).1 ∧
          Engine.Echoes (a e).2 (a e.silenced).2) :
    a.IsDeaf := by
  intro e e' hEchoes
  have hLeft := hSilenced e
  have hRight := hSilenced e'
  rw [show e.silenced = e'.silenced from hEchoes] at hLeft
  exact ⟨hLeft.1.trans hRight.1.symm,
    hLeft.2.trans hRight.2.symm⟩

/- What comes behind a look at something that is not told. -/
theorem look_bind
    {f : Engine → α}
    {g : α → Act Engine β}
    (hLook : ∀ e, f e.silenced = f e)
    (hThen : ∀ x, (g x).IsDeaf) :
    (look f >>= g).IsDeaf := by
  intro e e' hEchoes
  rw [Act.look_bind, Act.look_bind, hEchoes.same hLook]
  exact hThen (f e') e e' hEchoes

theorem bind
    {a : Act Engine α}
    {f : α → Act Engine β}
    (hFirst : a.IsDeaf)
    (hThen : ∀ x, (f x).IsDeaf) :
    (a >>= f).IsDeaf := by
  rw [isDeaf_iff_agree] at hFirst ⊢
  exact hFirst.then_same fun x =>
    isDeaf_iff_agree.mp (hThen x)

end IsDeaf

end Act

end EventFlow

------------------------------------------------------------
-- Registering and Building
------------------------------------------------------------

namespace EventFlow

namespace Engine

open Act

theorem isDeaf_tell (notice : Notice) :
    (tell notice).IsDeaf :=
  fun _ _ hEchoes => ⟨rfl, hEchoes⟩

theorem isDeaf_hear (notices : List Notice) :
    (Act.change (hear notices)).IsDeaf :=
  fun _ _ hEchoes => ⟨rfl, hEchoes⟩

/- A change of what is not told is deaf. -/
theorem isDeaf_change
    {f : Engine → Engine}
    (hChange : ∀ e, (f e).Echoes (f e.silenced)) :
    (Act.change f).IsDeaf :=
  .of_silenced fun e => ⟨rfl, hChange e⟩

theorem isDeaf_registerTrigger
    [Surroundings]
    (i : Identifier) :
    (registerTrigger i).IsDeaf := by
  refine .bind (.ofExcept _) fun type => ?_
  refine .bind (.ofExcept _) fun slug => ?_
  refine .look_bind (fun _ => rfl) fun types => ?_
  change IsDeaf (if _ then _ else _)
  split
  · exact .fail _
  · refine .bind (isDeaf_change fun _ => rfl) fun _ => ?_
    exact .bind (isDeaf_tell _) fun _ => .pure slug

theorem isDeaf_registerStep
    [Surroundings]
    (i : Identifier) :
    (registerStep i).IsDeaf := by
  refine .bind (.ofExcept _) fun type => ?_
  refine .bind (.ofExcept _) fun slug => ?_
  refine .look_bind (fun _ => rfl) fun existing => ?_
  refine .look_bind (fun _ => rfl) fun isStrict => ?_
  refine .bind (.ofExcept _) fun notices => ?_
  refine .bind (isDeaf_hear _) fun _ => ?_
  refine .bind (isDeaf_change fun _ => rfl) fun _ => ?_
  exact .bind (isDeaf_tell _) fun _ => .pure slug

/- The problems of a definition are in the types alone. -/
theorem problems_silenced
    (e : Engine)
    (d : WorkflowDefinition) :
    e.silenced.problems d = e.problems d := by
  have hSteps (steps : List (String × StepDefinition)) :
      e.silenced.problemsOfSteps d steps =
        e.problemsOfSteps d steps := by
    induction steps with
    | nil => rfl
    | cons entry steps ih =>
        rw [problemsOfSteps, problemsOfSteps, ih]
        rfl
  rw [problems, problems, hSteps]
  rfl

theorem isDeaf_accept (d : WorkflowDefinition) :
    (accept d).IsDeaf := by
  refine .bind (.of_silenced fun e => ?_) fun problems => ?_
  · exact ⟨(problems_silenced e d).symm, rfl⟩
  change IsDeaf (if _ then _ else _)
  split
  · exact .pure ()
  · exact .bind (isDeaf_tell _) fun _ => .fail _

/- The triggers that are made do not depend on what was told. -/
theorem makeTriggers_silenced
    (e : Engine)
    (slugs : List String) :
    e.silenced.makeTriggers slugs = e.makeTriggers slugs := by
  induction slugs with
  | nil => rfl
  | cons slug slugs ih =>
      rw [makeTriggers, makeTriggers, ih]
      rfl

theorem isDeaf_build (d : WorkflowDefinition) :
    (build d).IsDeaf := by
  refine .bind (isDeaf_accept d) fun _ => ?_
  refine .bind (.of_silenced fun e => ?_) fun _ => .pure _
  exact ⟨(makeTriggers_silenced e d.triggers).symm, rfl⟩

theorem isDeaf_buildValue (v : Value) :
    (buildValue v).IsDeaf :=
  .bind (.ofExcept _) fun d => isDeaf_build d

theorem isDeaf_place (w : Workflow) :
    (place w).IsDeaf :=
  .of_silenced fun _ => ⟨rfl, rfl⟩

end Engine

end EventFlow

------------------------------------------------------------
-- Binding
------------------------------------------------------------

namespace EventFlow

namespace Engine

open Act

theorem isDeaf_subscribe
    (event : String)
    (listener : Listener) :
    (subscribe event listener).IsDeaf := by
  refine .look_bind (fun _ => rfl) fun bus => ?_
  refine .bind (.ofExcept _) fun began => ?_
  refine .bind (isDeaf_change fun _ => rfl) fun _ => ?_
  exact .bind (isDeaf_tell _) fun _ => .pure _

theorem isDeaf_unsubscribe (s : Subscription) :
    (unsubscribe s).IsDeaf :=
  .of_silenced fun _ => ⟨rfl, rfl⟩

theorem isDeaf_changeTrigger
    (place index : Nat)
    (f : Trigger → Trigger) :
    (changeTrigger place index f).IsDeaf :=
  isDeaf_change fun _ => rfl

theorem isDeaf_listen
    (place index : Nat)
    (events : List String) :
    (listen place index events).IsDeaf := by
  induction events with
  | nil => exact .pure ()
  | cons event events ih =>
      refine .bind (isDeaf_subscribe _ _) fun s => ?_
      exact .bind (isDeaf_changeTrigger _ _ _) fun _ => ih

/- What is told of a bound trigger was never told before. -/
theorem isDeaf_tellBound (place index : Nat) :
    (tellBound place index).IsDeaf := by
  refine .of_silenced fun e => ?_
  have hTrigger :
      e.silenced.triggerAt? place index =
        e.triggerAt? place index := rfl
  have hWorkflow :
      e.silenced.workflowAt? place =
        e.workflowAt? place := rfl
  unfold tellBound
  rw [hTrigger, hWorkflow]
  cases e.workflowAt? place with
  | none => exact ⟨rfl, rfl⟩
  | some w =>
      cases e.triggerAt? place index with
      | none => exact ⟨rfl, rfl⟩
      | some t => exact ⟨rfl, rfl⟩

theorem isDeaf_bindTrigger
    (place index : Nat)
    (type : TriggerType) :
    (bindTrigger place index type).IsDeaf := by
  refine .bind (isDeaf_changeTrigger _ _ _) fun _ => ?_
  refine .bind (isDeaf_listen _ _ _) fun _ => ?_
  refine .bind (isDeaf_changeTrigger _ _ _) fun _ => ?_
  exact isDeaf_tellBound place index

theorem isDeaf_bindTriggers
    (place index : Nat)
    (types : List TriggerType) :
    (bindTriggers place index types).IsDeaf := by
  induction types generalizing index with
  | nil => exact .pure ()
  | cons type types ih =>
      exact .bind (isDeaf_bindTrigger _ _ _) fun _ =>
        ih (index + 1)

theorem isDeaf_init (place : Nat) :
    (init place).IsDeaf := by
  refine .look_bind (fun _ => rfl) fun w? => ?_
  cases w? with
  | none => exact .pure ()
  | some w =>
      change IsDeaf (if _ then _ else _)
      split
      · exact isDeaf_bindTriggers _ _ _
      · exact isDeaf_tell _

theorem isDeaf_initAll (places : List Nat) :
    (initAll places).IsDeaf := by
  induction places with
  | nil => exact .pure ()
  | cons place places ih =>
      exact .bind (isDeaf_init place) fun _ => ih

theorem isDeaf_initAdded : initAdded.IsDeaf :=
  .look_bind (fun _ => rfl) fun places =>
    isDeaf_initAll places

end Engine

end EventFlow

------------------------------------------------------------
-- Adding and Loading
------------------------------------------------------------

namespace EventFlow

namespace Engine

open Act

theorem isDeaf_add
    (place : Nat)
    (shouldInit : Bool) :
    (add place shouldInit).IsDeaf := by
  refine .bind (isDeaf_change fun _ => rfl) fun _ => ?_
  refine .look_bind (fun _ => rfl) fun w? => ?_
  cases w? with
  | none => exact .pure ()
  | some w =>
      refine .bind (isDeaf_tell _) fun _ => ?_
      cases shouldInit with
      | false => exact .pure ()
      | true => exact isDeaf_init place

theorem isDeaf_buildAndAdd
    (v : Value)
    (shouldInit : Bool) :
    (buildAndAdd v shouldInit).IsDeaf := by
  refine .bind (isDeaf_buildValue v) fun w => ?_
  refine .bind (isDeaf_place w) fun place => ?_
  exact .bind (isDeaf_add _ _) fun _ => .pure place

theorem isDeaf_buildAll (ds : List WorkflowDefinition) :
    (buildAll ds).IsDeaf := by
  induction ds with
  | nil => exact .pure []
  | cons d ds ih =>
      refine .bind (isDeaf_build d) fun w => ?_
      exact .bind ih fun ws => .pure (w :: ws)

theorem isDeaf_addAll (ws : List Workflow) :
    (addAll ws).IsDeaf := by
  induction ws with
  | nil => exact .pure []
  | cons w ws ih =>
      refine .bind (isDeaf_place w) fun place => ?_
      refine .bind (isDeaf_add _ _) fun _ => ?_
      exact .bind ih fun places => .pure (place :: places)

theorem isDeaf_load
    (entries : List Value)
    (path : Path)
    (shouldInit : Bool) :
    (load entries path shouldInit).IsDeaf := by
  refine .bind (.ofExcept _) fun ds => ?_
  refine .bind (isDeaf_buildAll ds) fun ws => ?_
  refine .bind (isDeaf_addAll ws) fun places => ?_
  cases shouldInit with
  | false =>
      exact .bind (isDeaf_tell _) fun _ => .pure ws.length
  | true =>
      refine .bind (isDeaf_initAll places) fun _ => ?_
      exact .bind (isDeaf_tell _) fun _ => .pure ws.length

theorem isDeaf_loadFile
    [Surroundings]
    (files : Files)
    (path : Path)
    (shouldInit : Bool) :
    (loadFile files path shouldInit).IsDeaf := by
  refine .bind ?_ fun entries => isDeaf_load _ _ _
  refine .bind (.ofExcept _) fun listing => ?_
  exact .bind (isDeaf_hear _) fun _ => .pure _

end Engine

end EventFlow

------------------------------------------------------------
-- Running
------------------------------------------------------------

namespace EventFlow

namespace Engine

open Act

variable [Surroundings]

/- A walk does not depend on what was told before it. -/
theorem isDeaf_execute
    (d : WorkflowDefinition)
    (trigger : TriggerType)
    (payload correlationId : Value) :
    (execute d trigger payload correlationId).IsDeaf := by
  refine .look_bind (fun _ => rfl) fun walk => ?_
  exact .of_silenced fun _ => ⟨rfl, rfl⟩

theorem isDeaf_fireTrigger
    (t : Trigger)
    (payload correlationId : Value) :
    (fireTrigger t payload correlationId).IsDeaf := by
  refine .look_bind (fun _ => rfl) fun owner? => ?_
  split
  · exact isDeaf_execute _ _ _ _
  · exact .fail _

theorem isDeaf_fire
    (place index : Nat)
    (payload correlationId : Value) :
    (fire place index payload correlationId).IsDeaf := by
  refine .look_bind (fun _ => rfl) fun trigger? => ?_
  cases trigger? with
  | none => exact .fail _
  | some t => exact isDeaf_fireTrigger t _ _

end Engine

end EventFlow
