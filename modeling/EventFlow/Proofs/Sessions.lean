import EventFlow.Proofs.Chronicle
import EventFlow.Proofs.Delivery
import EventFlow.Proofs.StepData
import EventFlow.Session.Opening

/-
  What can become of a session.

  A command is proper when neither it nor a command of a
  handler that it brings along registers a type of steps
  that is not allowed, or puts something else in its place.
  More generally, it is permitted when it uses an engine as
  a policy permits.  Through permitted commands, carried out
  by any host, the engine of a session is used under the
  policy; through proper ones it lives on and evolves.

  Key definitions include:
    * `Command.IsProper`
    * `Command.IsPermitted`
    * `Session.IsProper`
    * `Session.Proceeds`
    * `Session.Continues`
    * `Session.Leads`
    * `Session.Reached`

  Key theorems include:
    * `Command.isPermitted_only_iff`
    * `Session.proceeds_perform`
    * `Session.proceeds_carryOut_host`
    * `Session.proceeds_serve_host`
    * `Session.proceeds_of_reached`
    * `Session.continues_of_reached`
    * `Session.leads_of_reached`
    * `Session.start_used`
    * `Session.start_lives`
    * `Session.start_evolves`
-/

------------------------------------------------------------
-- Proper Commands
------------------------------------------------------------

namespace EventFlow

mutual

variable [Surroundings]

/- Whether a handler brings along proper commands only. -/
def Handler.IsProper
    (allowed : StepType → Prop) : Handler → Prop
| .mk _ commands _ _ _ => Command.AreProper allowed commands

/-
  Whether a command changes the types of steps only by
  registering allowed ones.
-/
def Command.IsProper
    (allowed : StepType → Prop) : Command → Prop
| .registerStep i => i.IsAllowed allowed
| .makeStale _ => False
| .subscribe _ _ handler => handler.IsProper allowed
| _ => True

/- Whether all commands are proper. -/
def Command.AreProper
    (allowed : StepType → Prop) : List Command → Prop
| [] => True
| c :: cs =>
    c.IsProper allowed ∧ Command.AreProper allowed cs

end

end EventFlow

------------------------------------------------------------
-- Permitted Commands
------------------------------------------------------------

namespace EventFlow

mutual

variable [Surroundings]

/- Whether a handler brings along permitted commands only. -/
def Handler.IsPermitted
    (p : Engine.Policy) : Handler → Prop
| .mk _ commands _ _ _ => Command.ArePermitted p commands

/- Whether a command uses an engine as a policy permits. -/
def Command.IsPermitted
    (p : Engine.Policy) : Command → Prop
| .registerTrigger i => p.PermitsCall (.trigger i)
| .registerStep i => p.PermitsCall (.step i)
| .makeStale _ => False
| .subscribe _ _ handler => handler.IsPermitted p
| .setAccess kind => p.opens kind.open
| .setLimit _ => p.limits
| _ => True

/- Whether all commands are permitted. -/
def Command.ArePermitted
    (p : Engine.Policy) : List Command → Prop
| [] => True
| c :: cs => c.IsPermitted p ∧ Command.ArePermitted p cs

end

mutual

theorem Handler.isPermitted_only_iff
    [Surroundings]
    {allowed : StepType → Prop} :
    (handler : Handler) →
      (handler.IsPermitted (.only allowed) ↔
        handler.IsProper allowed)
| .mk _ commands _ _ _ =>
    Command.arePermitted_only_iff commands

/- Where only some steps are permitted, commands are proper. -/
theorem Command.isPermitted_only_iff
    [Surroundings]
    {allowed : StepType → Prop}
    (c : Command) :
    c.IsPermitted (.only allowed) ↔ c.IsProper allowed := by
  cases c with
  | registerTrigger i =>
      exact iff_of_true (fun _ _ => trivial) trivial
  | subscribe event name? handler =>
      exact Handler.isPermitted_only_iff handler
  | _ => exact Iff.rfl

theorem Command.arePermitted_only_iff
    [Surroundings]
    {allowed : StepType → Prop} :
    (cs : List Command) →
      (Command.ArePermitted (.only allowed) cs ↔
        Command.AreProper allowed cs)
| [] => Iff.rfl
| c :: cs =>
    and_congr (Command.isPermitted_only_iff c)
      (Command.arePermitted_only_iff cs)

end

namespace Session

variable [Surroundings]

/- Whether all handlers of a session are proper. -/
def IsProper
    (allowed : StepType → Prop)
    (s : Session) : Prop :=
  ∀ handler ∈ s.handlers, handler.IsProper allowed

/- Whether all handlers of a session are permitted. -/
def IsPermitted
    (p : Engine.Policy)
    (s : Session) : Prop :=
  ∀ handler ∈ s.handlers, handler.IsPermitted p

/- Where only some steps are permitted, sessions are proper. -/
theorem isPermitted_only_iff
    {allowed : StepType → Prop}
    {s : Session} :
    s.IsPermitted (.only allowed) ↔ s.IsProper allowed :=
  forall₂_congr fun handler _ =>
    Handler.isPermitted_only_iff handler

end Session

end EventFlow

------------------------------------------------------------
-- How Sessions Proceed
------------------------------------------------------------

namespace EventFlow

namespace Session

variable [Surroundings]

/-
  Whether a session that is permitted proceeds to another:
  its engine is used as is permitted, and so is the session
  that it comes to.
-/
def Proceeds
    (p : Engine.Policy)
    (s t : Session) : Prop :=
  s.IsPermitted p →
    Engine.Used p s.engine t.engine ∧ t.IsPermitted p

/-
  Whether a proper session continues as another: its engine
  lives on, and the session stays proper.
-/
def Continues
    (allowed : StepType → Prop)
    (s t : Session) : Prop :=
  s.IsProper allowed →
    Engine.Lives allowed s.engine t.engine ∧
      t.IsProper allowed

/-
  Whether a proper session leads to another: its engine
  evolves, and the session stays proper.
-/
def Leads
    (allowed : StepType → Prop)
    (s t : Session) : Prop :=
  s.IsProper allowed →
    Engine.Evolves allowed s.engine t.engine ∧
      t.IsProper allowed

instance (p : Engine.Policy) :
    IsPreorder Session (Proceeds p) where
  refl := fun _ hPermitted => ⟨.refl, hPermitted⟩
  trans := fun _ _ _ hFirst hThen hPermitted =>
    have hBetween := hFirst hPermitted
    have hAfter := hThen hBetween.2
    ⟨hBetween.1.trans hAfter.1, hAfter.2⟩

variable {p : Engine.Policy}
variable {α : Type}

/- The engine is used, and the handlers stay. -/
theorem proceeds_of_used
    {s t : Session}
    (hEngine : Engine.Used p s.engine t.engine)
    (hHandlers : t.handlers = s.handlers) :
    Proceeds p s t := by
  intro hPermitted
  refine ⟨hEngine, ?_⟩
  intro handler hHandler
  rw [hHandlers] at hHandler
  exact hPermitted handler hHandler

/- Neither the engine nor the handlers change. -/
theorem proceeds_of_same
    {s t : Session}
    (hEngine : t.engine = s.engine)
    (hHandlers : t.handlers = s.handlers) :
    Proceeds p s t := by
  refine proceeds_of_used ?_ hHandlers
  rw [hEngine]
  exact .refl

/- What an act makes of the engine, it makes of the session. -/
theorem proceeds_onEngine
    {a : Act Engine α}
    (hKeeps : a.Keeps (Engine.Used p)) :
    (onEngine a).Keeps (Proceeds p) :=
  fun s => proceeds_of_used (hKeeps s.engine) rfl

theorem proceeds_settle (s : Session) :
    Proceeds p s s.settle :=
  proceeds_of_used Engine.Use.silenced.used rfl

theorem proceeds_answering
    (f : Session → Except Failure Reply) :
    (answering f).Keeps (Proceeds p) :=
  .of_same fun _ => rfl

end Session

end EventFlow

------------------------------------------------------------
-- Commands About Types and Workflows
------------------------------------------------------------

namespace EventFlow

namespace Session

variable {p : Engine.Policy}
variable {α : Type}

variable [Surroundings]

theorem proceeds_createTrigger
    (slug : String)
    (payload? : Option Value) :
    (createTrigger slug payload?).Keeps (Proceeds p) := by
  refine .bind ?_ fun trigger => ?_
  · exact proceeds_onEngine (.of_same fun _ => rfl)
  cases payload? with
  | none => exact .pure _
  | some payload =>
      refine .bind ?_ fun outcome => .pure _
      exact .attempt (proceeds_onEngine
        (Engine.used_fireTrigger _ _ _))

omit [Surroundings] in
/- Where a single step comes from, an engine may execute it. -/
theorem gives_of_makeStep
    {s : Session}
    {source : StepSource}
    {data : Value}
    {step : Step}
    (hMade : s.makeStep source data = .ok step) :
    s.engine.Gives step := by
  cases source with
  | slug slug =>
      exact .inr ⟨slug, (Engine.lookup_of_makeStep hMade).1⟩
  | type item =>
      cases item with
      | step type =>
          rcases Outcome.map_eq_ok hMade with ⟨made, -, rfl⟩
          exact .inl rfl
      | _ => cases hMade

/- The step afterwards may be executed once more. -/
theorem gives_of_executeStep
    {s t : Session}
    {step step' : Step}
    {payload : Value}
    {reply : Reply}
    (hGives : s.engine.Gives step)
    (hExecuted :
      executeStep step payload s = (.ok (step', reply), t)) :
    t.engine.Gives step' := by
  cases hExecuted
  rcases hGives with hDetached | ⟨slug, hType⟩
  · refine .inl ?_
    rw [Step.isDetached_execute]
    exact hDetached
  · refine .inr ⟨slug, ?_⟩
    rw [Step.type_execute]
    exact hType

theorem proceeds_executeStep
    {s : Session}
    {step : Step}
    (hGives : s.engine.Gives step)
    (payload : Value) :
    Proceeds p s (executeStep step payload s).2 := by
  have hExecuted :
      Engine.Use p s.engine
        { s.engine with
          access :=
            (step.execute payload s.engine.access).access } :=
    .executed step payload hGives
  have hTold :=
    hExecuted.used.trans (Engine.used_hear _
      ((step.execute payload s.engine.access).traces.map
        (.traced (step.execute payload
          s.engine.access).step.traceTarget)))
  refine proceeds_of_used ?_ rfl
  exact hTold.trans Engine.Use.silenced.used

/- By induction on the payloads, each on the step so far. -/
theorem proceeds_executeSteps
    {s : Session}
    {step : Step}
    (hGives : s.engine.Gives step)
    (payloads : List Value) :
    Proceeds p s (executeSteps step payloads s).2 := by
  induction payloads generalizing s step with
  | nil => exact Std.Refl.refl s
  | cons payload payloads ih =>
      refine Act.Keeps.bind_from
        (proceeds_executeStep hGives payload) ?_
      rintro ⟨step', reply⟩ t hExecuted
      refine Act.Keeps.bind_from
        (ih (gives_of_executeStep hGives hExecuted)) ?_
      exact fun replies u _ => Act.Keeps.pure _ u

theorem proceeds_runStep
    (source : StepSource)
    (data : Value)
    (preset? : Option Value)
    (payloads : List Value) :
    (runStep source data preset? payloads).Keeps
      (Proceeds p) := by
  intro s
  refine Act.Keeps.bind_from (Std.Refl.refl s) ?_
  intro step t hMade
  rcases Prod.mk.inj hMade with ⟨hStep, rfl⟩
  have hGives : s.engine.Gives step :=
    gives_of_makeStep hStep
  let ready : Step :=
    { step with met := preset?.getD step.met }
  have hReady : s.engine.Gives ready := hGives
  refine Act.Keeps.bind_from
    (proceeds_executeSteps hReady _) ?_
  exact fun replies u _ => Act.Keeps.pure _ u

theorem proceeds_nameWorkflow
    (name? : Option String)
    (place : Nat) :
    (nameWorkflow name? place).Keeps (Proceeds p) := by
  intro s
  cases name? with
  | none => exact proceeds_of_same rfl rfl
  | some name => exact proceeds_of_same rfl rfl

theorem proceeds_showWorkflow (place : Nat) :
    (showWorkflow place).Keeps (Proceeds p) :=
  proceeds_answering _

theorem proceeds_build
    (definition : Value)
    (name? : Option String) :
    (build definition name?).Keeps (Proceeds p) := by
  refine .bind (proceeds_onEngine
    (Engine.used_buildAndPlace _)) fun place => ?_
  exact .bind (proceeds_nameWorkflow _ _) fun _ =>
    proceeds_showWorkflow _

theorem proceeds_add
    (definition : Value)
    (shouldInit : Bool)
    (name? : Option String) :
    (add definition shouldInit name?).Keeps
      (Proceeds p) := by
  refine .bind (proceeds_onEngine
    (Engine.used_buildAndAdd _ _)) fun place => ?_
  exact .bind (proceeds_nameWorkflow _ _) fun _ =>
    proceeds_showWorkflow _

theorem proceeds_addBuilt
    (name : String)
    (shouldInit : Bool) :
    (addBuilt name shouldInit).Keeps (Proceeds p) := by
  refine .bind (.look _) fun place? => ?_
  cases place? with
  | none => exact .fail _
  | some place =>
      exact .bind (proceeds_onEngine (Engine.used_add _ _))
        fun _ => proceeds_showWorkflow _

theorem proceeds_load
    (path : String)
    (shouldInit : Bool) :
    (load path shouldInit).Keeps (Proceeds p) := by
  refine .bind (.look _) fun files => ?_
  exact .bind (proceeds_onEngine
    (Engine.used_loadFile _ _ _)) fun _ => .pure _

theorem proceeds_init (ref : WorkflowRef) :
    (init ref).Keeps (Proceeds p) := by
  refine .bind (.of_same fun _ => rfl) fun place => ?_
  exact .bind (proceeds_onEngine (Engine.used_init _))
    fun _ => .pure _

theorem proceeds_showNamed (id : String) :
    (showNamed id).Keeps (Proceeds p) := by
  refine .bind (.look _) fun place? => ?_
  cases place? with
  | none => exact .pure _
  | some place => exact proceeds_showWorkflow _

theorem proceeds_fire
    (ref : WorkflowRef)
    (index : Int)
    (payload correlationId : Value) :
    (fire ref index payload correlationId).Keeps
      (Proceeds p) := by
  refine .bind (.of_same fun _ => rfl) fun found => ?_
  exact .bind (proceeds_onEngine (Engine.used_fire _ _ _ _))
    fun _ => .pure _

end Session

end EventFlow

------------------------------------------------------------
-- Commands About Events and Contacts
------------------------------------------------------------

namespace EventFlow

namespace Session

variable {p : Engine.Policy}

variable [Surroundings]

theorem proceeds_subscribe
    (event : String)
    (name? : Option String)
    {handler : Handler}
    (hPermitted : handler.IsPermitted p) :
    (subscribe event name? handler).Keeps
      (Proceeds p) := by
  refine .bind (.look _) fun number => ?_
  refine .bind (proceeds_onEngine (Engine.used_subscribe _ _))
    fun subscription => ?_
  refine .bind ?_ fun _ => .pure _
  intro s hSession
  refine ⟨.refl, ?_⟩
  intro other hOther
  rcases List.mem_append.mp hOther with hOld | hNew
  · exact hSession other hOld
  · rw [List.mem_singleton.mp hNew]
    exact hPermitted

theorem proceeds_unsubscribe (name : String) :
    (unsubscribe name).Keeps (Proceeds p) := by
  refine .bind (.look _) fun subscription? => ?_
  cases subscription? with
  | none => exact .fail _
  | some subscription =>
      exact .bind (proceeds_onEngine
        (Engine.used_unsubscribe _)) fun _ => .pure _

theorem proceeds_unsubscribeTrigger (ref : TriggerRef) :
    (unsubscribeTrigger ref).Keeps (Proceeds p) := by
  refine .bind (.of_same fun _ => rfl) fun found => ?_
  refine .bind (.look _) fun subscriptions => ?_
  dsimp only
  split
  · exact .bind (proceeds_onEngine
      (Engine.used_unsubscribe _)) fun _ => .pure _
  · exact .pure _

/- A use of the data access that is one of the engine. -/
theorem proceeds_usingAccess
    {use : DataAccess → Except Failure (DataAccess × Value)}
    (hUse :
      ∀ (e : Engine) used,
        use e.access = .ok used →
          Engine.Use p e { e with access := used.1 }) :
    (usingAccess use).Keeps (Proceeds p) := by
  refine proceeds_onEngine fun e => ?_
  cases hUsed : use e.access with
  | ok used => simpa only [hUsed] using (hUse e used hUsed).used
  | error failure => simpa only [hUsed] using .refl

theorem proceeds_addLog
    (contact : Value)
    (log : List (String × Value)) :
    (addLog contact log).Keeps (Proceeds p) := by
  refine proceeds_usingAccess fun e used hUsed => ?_
  rcases Outcome.bind_eq_ok hUsed with ⟨entry, -, hAdds⟩
  rcases Outcome.bind_eq_ok hAdds with
    ⟨access, hLogged, hPure⟩
  cases hPure
  exact .logged contact entry access hLogged

theorem proceeds_updateTags (contact tags mode : Value) :
    (usingAccess fun access =>
      access.updateTags contact tags mode).Keeps
        (Proceeds p) :=
  proceeds_usingAccess fun _ used hUsed =>
    .tagged contact tags mode used.1 used.2 hUsed

end Session

end EventFlow

------------------------------------------------------------
-- Hosts
------------------------------------------------------------

namespace EventFlow

namespace Session

variable {p : Engine.Policy}

variable [Surroundings]

/- Whether sessions proceed through a way to serve. -/
def ServesProceeding
    (p : Engine.Policy)
    (serve :
      Listener → Value → Value → Act Session Delivery) :
    Prop :=
  ∀ listener payload correlationId,
    (serve listener payload correlationId).Keeps
      (Proceeds p)

variable
  {serving : Listener → Value → Value → Act Session Delivery}

theorem proceeds_tell (notice : Notice) :
    ((hostWith serving).tell notice).Keeps
      (Proceeds p) :=
  proceeds_onEngine (Engine.used_tell notice)

theorem proceeds_dispatch
    (hServes : ServesProceeding p serving)
    (event : String)
    (payload correlationId : Value) :
    ((hostWith serving).dispatch event payload
      correlationId).Keeps (Proceeds p) :=
  Host.keeps_dispatch (h := hostWith serving) hServes
    proceeds_tell event payload correlationId

/- A session proceeds through a permitted command. -/
theorem proceeds_perform
    (hServes : ServesProceeding p serving)
    {c : Command}
    (hPermitted : c.IsPermitted p) :
    (perform (hostWith serving) c).Keeps (Proceeds p) := by
  cases c with
  | registerTrigger i =>
      exact .bind (proceeds_onEngine
        (Engine.used_registerTrigger hPermitted))
          fun _ => .pure _
  | registerStep i =>
      exact .bind (proceeds_onEngine
        (Engine.used_registerStep hPermitted))
          fun _ => .pure _
  | makeStale slug => exact False.elim hPermitted
  | types => exact proceeds_answering _
  | describeTrigger slug => exact proceeds_answering _
  | describeStep slug => exact proceeds_answering _
  | allows slug trigger => exact proceeds_answering _
  | createTrigger slug payload? =>
      exact proceeds_createTrigger _ _
  | runStep source data preset? payloads =>
      exact proceeds_runStep _ _ _ _
  | build definition name? => exact proceeds_build _ _
  | add definition shouldInit name? =>
      exact proceeds_add _ _ _
  | addBuilt name shouldInit => exact proceeds_addBuilt _ _
  | load path shouldInit => exact proceeds_load _ _
  | initAll =>
      exact .bind (proceeds_onEngine Engine.used_initAdded)
        fun _ => .pure _
  | init ref => exact proceeds_init _
  | workflows => exact proceeds_answering _
  | workflow id => exact proceeds_showNamed _
  | getStep ref stepId => exact proceeds_answering _
  | stepData ref stepId => exact proceeds_answering _
  | fire ref index payload correlationId =>
      exact proceeds_fire _ _ _ _
  | dispatch event payload correlationId shouldRaise =>
      exact .bind (proceeds_dispatch hServes _ _ _)
        fun _ => .pure _
  | subscribe event name? handler =>
      exact proceeds_subscribe _ _ hPermitted
  | unsubscribe name => exact proceeds_unsubscribe _
  | unsubscribeTrigger ref =>
      exact proceeds_unsubscribeTrigger _
  | subscribers event => exact proceeds_answering _
  | addLog contact log => exact proceeds_addLog _ _
  | updateTags contact tags mode =>
      exact proceeds_updateTags _ _ _
  | contact contact => exact proceeds_answering _
  | setAccess kind =>
      exact fun s => proceeds_of_used
        (Engine.Use.opened _ hPermitted).used rfl
  | setTrail isKept => exact fun s => proceeds_of_same rfl rfl
  | resetTrail => exact fun s => proceeds_of_same rfl rfl
  | defaultTrail => exact proceeds_answering _
  | setLimit limit =>
      exact fun s => proceeds_of_used
        (Engine.Use.limited limit hPermitted).used rfl

end Session

end EventFlow

------------------------------------------------------------
-- Handlers
------------------------------------------------------------

namespace EventFlow

namespace Session

variable {p : Engine.Policy}
variable
  {serving : Listener → Value → Value → Act Session Delivery}

variable [Surroundings]

theorem proceeds_carryOut
    (hServes : ServesProceeding p serving)
    {c : Command}
    (hPermitted : c.IsPermitted p) :
    (carryOut (hostWith serving) c).Keeps
      (Proceeds p) := by
  intro s
  exact IsTrans.trans _ _ _ (proceeds_settle s)
    (proceeds_perform hServes hPermitted s.settle)

theorem proceeds_note (call : Call) :
    (note call).Keeps (Proceeds p) :=
  fun _ => proceeds_of_same rfl rfl

theorem proceeds_carryOutAll
    (hServes : ServesProceeding p serving)
    (label : Value)
    {commands : List Command}
    (hPermitted : Command.ArePermitted p commands) :
    (carryOutAll (hostWith serving) label commands).Keeps
      (Proceeds p) := by
  induction commands with
  | nil => exact .pure ()
  | cons c cs ih =>
      refine .bind (.attempt
        (proceeds_carryOut hServes hPermitted.1)) fun outcome => ?_
      exact .bind (proceeds_note _) fun _ => ih hPermitted.2

/- A session proceeds through a permitted handler. -/
theorem proceeds_callHandler
    (hServes : ServesProceeding p serving)
    {handler : Handler}
    (hPermitted : handler.IsPermitted p)
    (payload correlationId : Value) :
    (callHandler (hostWith serving) handler payload
      correlationId).Keeps (Proceeds p) := by
  cases handler with
  | mk label commands raises echoes returns =>
      refine .bind (proceeds_note _) fun _ => ?_
      refine .bind (proceeds_carryOutAll hServes _ hPermitted)
        fun _ => ?_
      cases raises with
      | none => exact .pure _
      | some raised => exact .fail _

/- A way to serve proceeding is one for the next depth. -/
theorem proceeds_serve
    (hServes : ServesProceeding p serving) :
    ServesProceeding p (serve (hostWith serving)) := by
  intro listener payload correlationId
  cases listener with
  | trigger place index =>
      exact .bind (proceeds_onEngine
        (Engine.used_fire _ _ _ _)) fun _ => .pure _
  | handler number =>
      refine .look_then fun s hSession => ?_
      cases hHandler : s.handlers[number]? with
      | none => exact ⟨.refl, hSession⟩
      | some handler =>
          have hPermitted :=
            hSession handler (List.mem_of_getElem? hHandler)
          exact proceeds_callHandler hServes hPermitted payload
            correlationId s hSession

/- Sessions proceed through hosts of every depth. -/
theorem exists_proceeding_host
    (p : Engine.Policy)
    (depth : Nat) :
    ∃ serving,
      host depth = hostWith serving ∧
        ServesProceeding p serving := by
  induction depth with
  | zero =>
      refine ⟨_, rfl, ?_⟩
      intro listener payload correlationId
      exact .fail _
  | succ depth ih =>
      rcases ih with ⟨serving, hHost, hServes⟩
      refine ⟨_, rfl, ?_⟩
      rw [hHost]
      exact proceeds_serve hServes

theorem proceeds_carryOut_host
    (depth : Nat)
    {c : Command}
    (hPermitted : c.IsPermitted p) :
    (carryOut (host depth) c).Keeps (Proceeds p) := by
  rcases exists_proceeding_host p depth with
    ⟨serving, hHost, hServes⟩
  rw [hHost]
  exact proceeds_carryOut hServes hPermitted

theorem proceeds_serve_host
    (depth : Nat)
    (listener : Listener)
    (payload correlationId : Value) :
    (serve (host depth) listener payload
      correlationId).Keeps (Proceeds p) := by
  rcases exists_proceeding_host p depth with
    ⟨serving, hHost, hServes⟩
  rw [hHost]
  exact proceeds_serve hServes _ _ _

theorem proceeds_tell_host
    (depth : Nat)
    (notice : Notice) :
    ((host depth).tell notice).Keeps (Proceeds p) := by
  rcases exists_proceeding_host p depth with
    ⟨serving, hHost, -⟩
  rw [hHost]
  exact proceeds_tell notice

end Session

end EventFlow

------------------------------------------------------------
-- Histories
------------------------------------------------------------

namespace EventFlow

namespace Session

variable [Surroundings]

/-
  What a session can come to: commands are carried out, by
  hosts of any depth, and listeners are served, notices told
  and calls noted, in any order.  The states between two
  subscribers of one event, and between two commands of one
  handler, are among those that are reached.
-/
inductive Reached
    (allowed : StepType → Prop)
    (s : Session) : Session → Prop where
| here : Reached allowed s s
| settled
    {t : Session}
    (hBefore : Reached allowed s t) :
    Reached allowed s t.settle
| carriedOut
    {t : Session}
    (hBefore : Reached allowed s t)
    (depth : Nat)
    (c : Command)
    (hProper : c.IsProper allowed) :
    Reached allowed s (carryOut (host depth) c t).2
| served
    {t : Session}
    (hBefore : Reached allowed s t)
    (depth : Nat)
    (listener : Listener)
    (payload correlationId : Value) :
    Reached allowed s
      (serve (host depth) listener payload
        correlationId t).2
| told
    {t : Session}
    (hBefore : Reached allowed s t)
    (depth : Nat)
    (notice : Notice) :
    Reached allowed s ((host depth).tell notice t).2
| noted
    {t : Session}
    (hBefore : Reached allowed s t)
    (call : Call) :
    Reached allowed s (note call t).2

variable {allowed : StepType → Prop}
variable {s t : Session}

/- What commands that are carried out in order leave. -/
def after
    (s : Session)
    (depth : Nat) : List Command → Session
| [] => s
| c :: cs => after (carryOut (host depth) c s).2 depth cs

/- Commands that are carried out in order lead on. -/
theorem Reached.after
    (hBefore : Reached allowed s t)
    (depth : Nat)
    {commands : List Command}
    (hProper : Command.AreProper allowed commands) :
    Reached allowed s (t.after depth commands) := by
  induction commands generalizing t with
  | nil => exact hBefore
  | cons c cs ih =>
      exact ih (hBefore.carriedOut depth c hProper.1)
        hProper.2

/- Listeners that are served by a host lead on. -/
theorem Reached.hosted
    (hBefore : Reached allowed s t)
    (depth : Nat)
    (listener : Listener)
    (payload correlationId : Value) :
    Reached allowed s
      ((host depth).serve listener payload
        correlationId t).2 := by
  cases depth with
  | zero => exact hBefore
  | succ depth =>
      exact hBefore.served depth listener payload
        correlationId

/- A session proceeds to whatever is reached from it. -/
theorem proceeds_of_reached
    (hReached : Reached allowed s t) :
    Proceeds (.only allowed) s t := by
  induction hReached with
  | here => exact Std.Refl.refl s
  | settled hBefore ih =>
      exact IsTrans.trans _ _ _ ih (proceeds_settle _)
  | carriedOut hBefore depth c hProper ih =>
      exact IsTrans.trans _ _ _ ih (proceeds_carryOut_host
        depth (c.isPermitted_only_iff.mpr hProper) _)
  | served hBefore depth listener payload correlationId ih =>
      exact IsTrans.trans _ _ _ ih
        (proceeds_serve_host depth _ _ _ _)
  | told hBefore depth notice ih =>
      exact IsTrans.trans _ _ _ ih
        (proceeds_tell_host depth notice _)
  | noted hBefore call ih =>
      exact IsTrans.trans _ _ _ ih (proceeds_note call _)

/- A session continues as whatever it proceeds to. -/
theorem continues_of_reached
    (hReached : Reached allowed s t) :
    Continues allowed s t := by
  intro hProper
  rcases proceeds_of_reached hReached
      (isPermitted_only_iff.mpr hProper) with
    ⟨hUsed, hThen⟩
  exact ⟨Engine.lives_of_used hUsed,
    isPermitted_only_iff.mp hThen⟩

/- A session leads to whatever it continues as. -/
theorem leads_of_reached
    (hReached : Reached allowed s t) :
    Leads allowed s t := by
  intro hProper
  rcases continues_of_reached hReached hProper with
    ⟨hLives, hThen⟩
  exact ⟨Engine.evolves_of_lives hLives, hThen⟩

end Session

end EventFlow

------------------------------------------------------------
-- Openings
------------------------------------------------------------

namespace EventFlow

namespace Engine

/- Whether an engine was just made. -/
def IsMade (e : Engine) : Prop :=
  ∃ limit isStrict access,
    make limit isStrict access = .ok e

/- An engine that was just made holds nothing yet. -/
theorem IsMade.eq
    {e : Engine}
    (hMade : e.IsMade) :
    e =
      { limit := e.limit
        isStrict := e.isStrict
        access := e.access } := by
  rcases hMade with ⟨limit, isStrict, access, hMade⟩
  unfold make at hMade
  split at hMade
  · cases hMade
  · cases hMade
    rfl

/- Its bus is new. -/
theorem IsMade.bus_eq
    {e : Engine}
    (hMade : e.IsMade) :
    e.bus = {} := by
  rw [hMade.eq]

/- It has not built any workflow. -/
theorem IsMade.built_eq
    {e : Engine}
    (hMade : e.IsMade) :
    e.built = [] := by
  rw [hMade.eq]

end Engine

namespace Session

variable {p : Engine.Policy}
variable {allowed : StepType → Prop}

variable [Surroundings]

/- An engine that is made is used to get what is asked for. -/
theorem makeEngine_used
    (hBuiltins : p.PermitsBuiltins)
    {r : EngineRequest}
    {env : List (String × String)}
    {files : Files}
    {e : Engine}
    (hMade : r.makeEngine env files = .ok e) :
    ∃ e₀ : Engine,
      e₀.IsMade ∧ Engine.Used p e₀ e := by
  unfold EngineRequest.makeEngine at hMade
  split at hMade
  · cases hSettings : Settings.load env files with
    | error failure =>
        rw [hSettings] at hMade
        cases hMade
    | ok settings =>
        rw [hSettings] at hMade
        unfold Engine.ofSettings at hMade
        dsimp only at hMade
        cases hNew :
            Engine.make settings.limit settings.isStrict
              (Engine.accessOrStore r.access.open) with
        | error failure =>
            rw [hNew] at hMade
            cases hMade
        | ok e₀ =>
            rw [hNew] at hMade
            rcases Outcome.map_eq_ok hMade with ⟨-, -, hEq⟩
            refine ⟨e₀, ⟨_, _, _, hNew⟩, ?_⟩
            rw [← hEq]
            exact Engine.used_furnish hBuiltins _ e₀
  · unfold EngineRequest.engine at hMade
    cases hNew :
        Engine.make r.limit r.isStrict r.access.open with
    | error failure =>
        rw [hNew] at hMade
        cases hMade
    | ok e₀ =>
        rw [hNew] at hMade
        refine ⟨e₀, ⟨_, _, _, hNew⟩, ?_⟩
        dsimp only at hMade
        split at hMade
        · rcases Outcome.map_eq_ok hMade with ⟨-, -, hEq⟩
          rw [← hEq]
          exact Engine.used_registerBuiltins hBuiltins e₀
        · cases hMade
          exact .refl

/-
  A session that was opened is permitted, and its engine
  is what uses left of one that was just made.
-/
theorem start_used
    (hBuiltins : p.PermitsBuiltins)
    {r : EngineRequest}
    {env : List (String × String)}
    {files : Files}
    {level? : Option Value}
    {s : Session}
    (hOpened : start r env files level? = .ok s) :
    s.IsPermitted p ∧
      ∃ e₀ : Engine,
        e₀.IsMade ∧ Engine.Used p e₀ s.engine := by
  unfold start at hOpened
  dsimp only at hOpened
  split at hOpened
  · cases hOpened
  · rcases Outcome.map_eq_ok hOpened with ⟨e, hMade, hEq⟩
    rcases makeEngine_used hBuiltins hMade with
      ⟨e₀, hNew, hUsed⟩
    subst hEq
    refine ⟨?_, e₀, hNew,
      hUsed.trans Engine.Use.silenced.used⟩
    intro handler hHandler
    cases hHandler

/-
  A session that was opened is proper, and its engine lives
  on from one that was just made.
-/
theorem start_lives
    (hBuiltins : ∀ type ∈ Builtin.steps, allowed type)
    {r : EngineRequest}
    {env : List (String × String)}
    {files : Files}
    {level? : Option Value}
    {s : Session}
    (hOpened : start r env files level? = .ok s) :
    s.IsProper allowed ∧
      ∃ e₀ : Engine,
        e₀.IsMade ∧ Engine.Lives allowed e₀ s.engine := by
  rcases start_used
      (Engine.Policy.permitsBuiltins_only hBuiltins)
      hOpened with
    ⟨hPermitted, e₀, hNew, hUsed⟩
  exact ⟨isPermitted_only_iff.mp hPermitted, e₀, hNew,
    Engine.lives_of_used hUsed⟩

/-
  A session that was opened is proper, and its engine has
  evolved from one without any type.
-/
theorem start_evolves
    (hBuiltins : ∀ type ∈ Builtin.steps, allowed type)
    {r : EngineRequest}
    {env : List (String × String)}
    {files : Files}
    {level? : Option Value}
    {s : Session}
    (hOpened : start r env files level? = .ok s) :
    s.IsProper allowed ∧
      ∃ e₀ : Engine,
        e₀.stepTypes = [] ∧
          Engine.Evolves allowed e₀ s.engine := by
  rcases start_lives hBuiltins hOpened with
    ⟨hProper, e₀, hNew, hLives⟩
  refine ⟨hProper, e₀, ?_, Engine.evolves_of_lives hLives⟩
  rw [hNew.eq]

end Session

end EventFlow
