import EventFlow.Log.Draft
import EventFlow.Proofs.Deafness
import EventFlow.Proofs.Sessions

/-
  Nothing depends on traces and records.

  Two sessions are alike when they differ only in their
  traces and in the records that are kept.  From sessions
  that are alike, commands that differ only in what they do
  with the trace answer alike and leave sessions that are
  alike, also where they are carried out by handlers.

  Key definitions include:
    * `Command.isOfTrace`
    * `Command.untracedAll`
    * `Reply.untraced`
    * `Session.Alike`
    * `Session.answers`

  Key theorems include:
    * `Session.agree_perform`
    * `Session.agree_carryOutAll`
    * `Session.exists_alike_host`
    * `Session.answers_alike`
    * `Session.start_alike`
    * `Notice.render_toDraft`
    * `Session.logging_changes_nothing`
-/

------------------------------------------------------------
-- Without the Trace
------------------------------------------------------------

namespace EventFlow

namespace Command

/- Whether all that a command does is about the trace. -/
def isOfTrace : Command → Bool
| .setTrail _ => true
| .resetTrail => true
| .defaultTrail => true
| _ => false

/- The words for the commands that are about the trace. -/
def traceWords : List String :=
  ["set_logger", "reset_log", "default_trace"]

end Command

mutual

/- A handler without its commands about the trace. -/
def Handler.untraced : Handler → Handler
| .mk label commands raises echoes returns =>
    .mk label (Command.untracedAll commands) raises echoes
      returns

/- A command whose handler has no commands about the trace. -/
def Command.untraced : Command → Command
| .subscribe event name? handler =>
    .subscribe event name? handler.untraced
| c => c

/- Commands without those about the trace. -/
def Command.untracedAll : List Command → List Command
| [] => []
| c :: cs =>
    if c.isOfTrace then
      Command.untracedAll cs
    else
      c.untraced :: Command.untracedAll cs

end

namespace Reply

mutual

/- A reply without the fields that show the trace. -/
def untraced : Reply → Reply
| .value v => .value v
| .table t => .table t
| .list items => .list (untracedAll items)
| .record fields => .record (untracedFields fields)
| .done reply beside =>
    .done reply.untraced (untracedFields beside)
| .failed failure beside =>
    .failed failure (untracedFields beside)

/- Replies without the fields that show the trace. -/
def untracedAll : List Reply → List Reply
| [] => []
| reply :: replies =>
    reply.untraced :: untracedAll replies

/- Fields without those that show the trace. -/
def untracedFields :
    List (String × Reply) → List (String × Reply)
| [] => []
| (name, reply) :: fields =>
    if name = "trace" then
      untracedFields fields
    else
      (name, reply.untraced) :: untracedFields fields

end

end Reply

namespace Call

/- Whether a call is that of a command about the trace. -/
def isOfTrace : Call → Bool
| .called _ _ _ => false
| .carriedOut _ word _ => Command.traceWords.contains word

/- A call without what it shows of the trace. -/
def untraced : Call → Call
| .called label payload correlationId =>
    .called label payload correlationId
| .carriedOut label word outcome =>
    .carriedOut label word (outcome.map Reply.untraced)

/- Calls without the trace. -/
def untracedAll (calls : List Call) : List Call :=
  (calls.filter fun call => !call.isOfTrace).map untraced

end Call

end EventFlow

------------------------------------------------------------
-- Sessions That Are Alike
------------------------------------------------------------

namespace EventFlow

theorem Engine.Echoes.withAccess
    {e e' : Engine}
    (hEchoes : e.Echoes e')
    (access : DataAccess) :
    Echoes { e with access := access }
      { e' with access := access } := by
  have hSilenced : e.silenced = e'.silenced := hEchoes
  have hAccessed :
      ({ e.silenced with access := access } : Engine) =
        { e'.silenced with access := access } := by
    rw [hSilenced]
  exact hAccessed

namespace Session

/-
  Whether sessions are alike: their engines differ only in
  what they have told, their handlers only in commands about
  the trace, and their calls only in what shows it.  Traces
  and records may be any.
-/
structure Alike (s t : Session) : Prop where
  engine : s.engine.Echoes t.engine
  names : s.names = t.names
  subscriptions : s.subscriptions = t.subscriptions
  handlers :
    s.handlers.map Handler.untraced =
      t.handlers.map Handler.untraced
  files : s.files = t.files
  calls : Call.untracedAll s.calls = Call.untracedAll t.calls

/- What commands answer from. -/
def core (s : Session) : Session :=
  { engine := s.engine.silenced
    names := s.names
    subscriptions := s.subscriptions
    files := s.files }

variable {s t u : Session}

namespace Alike

theorem refl (s : Session) : Alike s s :=
  ⟨rfl, rfl, rfl, rfl, rfl, rfl⟩

theorem symm (hAlike : Alike s t) : Alike t s where
  engine := Eq.symm hAlike.engine
  names := hAlike.names.symm
  subscriptions := hAlike.subscriptions.symm
  handlers := hAlike.handlers.symm
  files := hAlike.files.symm
  calls := hAlike.calls.symm

theorem trans
    (hFirst : Alike s t)
    (hThen : Alike t u) :
    Alike s u where
  engine := Eq.trans hFirst.engine hThen.engine
  names := hFirst.names.trans hThen.names
  subscriptions :=
    hFirst.subscriptions.trans hThen.subscriptions
  handlers := hFirst.handlers.trans hThen.handlers
  files := hFirst.files.trans hThen.files
  calls := hFirst.calls.trans hThen.calls

theorem core_eq (hAlike : Alike s t) : s.core = t.core := by
  have hEngine : s.engine.silenced = t.engine.silenced :=
    hAlike.engine
  rw [core, core, hEngine, hAlike.names,
    hAlike.subscriptions, hAlike.files]

/- What is made of the core is the same. -/
theorem same
    {α : Type}
    (hAlike : Alike s t)
    {f : Session → α}
    (hCore : ∀ s, f s.core = f s) :
    f s = f t := by
  rw [← hCore s, hAlike.core_eq, hCore t]

theorem withEngine
    (hAlike : Alike s t)
    {e e' : Engine}
    (hEngine : e.Echoes e') :
    Alike { s with engine := e } { t with engine := e' } :=
  { hAlike with engine := hEngine }

/- To make traces and records changes nothing else. -/
theorem settle (s : Session) : Alike s.settle s :=
  ⟨rfl, rfl, rfl, rfl, rfl, rfl⟩

theorem settled
    (hAlike : Alike s t) :
    Alike s.settle t.settle :=
  ((settle s).trans hAlike).trans (settle t).symm

end Alike

end Session

end EventFlow

------------------------------------------------------------
-- Acts of Sessions
------------------------------------------------------------

namespace EventFlow

namespace Session

open Act

variable {α β : Type}

/- A deaf act of the engine agrees in sessions alike. -/
theorem agree_onEngine
    {a : Act Engine α}
    (hDeaf : a.IsDeaf) :
    Agree Alike id (onEngine a) (onEngine a) := by
  intro s t hAlike
  rcases hDeaf s.engine t.engine hAlike.engine with
    ⟨hOutcome, hAfter⟩
  exact ⟨congrArg (Except.map id) hOutcome,
    hAlike.withEngine hAfter⟩

/- So do answers that are made of the core. -/
theorem agree_answer
    {f : Session → Except Failure α}
    (hCore : ∀ s, f s.core = f s) :
    Agree Alike id (fun s => (f s, s))
      (fun s => (f s, s)) :=
  .answer fun _ _ hAlike =>
    congrArg (Except.map id) (hAlike.same hCore)

theorem agree_look
    {f : Session → α}
    (hCore : ∀ s, f s.core = f s) :
    Agree Alike id (Act.look f) (Act.look f) :=
  agree_answer fun s => congrArg Except.ok (hCore s)

/- And a change of the engine that is not of what it told. -/
theorem agree_changing
    {f : Engine → Engine}
    (hUntold : ∀ e, (f e).Echoes (f e.silenced)) :
    Agree Alike id
      (changing fun s => { s with engine := f s.engine })
      (changing fun s => { s with engine := f s.engine }) := by
  intro s t hAlike
  refine ⟨rfl, hAlike.withEngine ?_⟩
  exact (Engine.isDeaf_change hUntold s.engine t.engine
    hAlike.engine).2

end Session

end EventFlow

------------------------------------------------------------
-- Types and Steps
------------------------------------------------------------

namespace EventFlow

namespace Session

open Act

variable [Surroundings]

theorem agree_createTrigger
    (slug : String)
    (payload? : Option Value) :
    Agree Alike id (createTrigger slug payload?)
      (createTrigger slug payload?) := by
  have hMade :
      Act.IsDeaf fun e => (e.makeTrigger slug, e) :=
    .of_silenced fun _ => ⟨rfl, rfl⟩
  refine (agree_onEngine hMade).then_same fun trigger => ?_
  cases payload? with
  | none => exact .pure rfl
  | some payload =>
      have hFire :=
        Engine.isDeaf_fireTrigger trigger payload .null
      exact (agree_onEngine hFire).attempt_same.then_same
        fun _ => .pure rfl

/- A step and what its execution shows besides the trace. -/
def shownStep (found : Step × Reply) : Step × Reply :=
  (found.1, found.2.untraced)

/- What a step shows of the trace is all that can differ. -/
theorem agree_executeStep
    (step : Step)
    (payload : Value) :
    Agree Alike shownStep (executeStep step payload)
      (executeStep step payload) := by
  intro s t hAlike
  have hAccess : s.engine.access = t.engine.access :=
    hAlike.engine.same fun _ => rfl
  unfold executeStep
  rw [hAccess]
  constructor
  · simp only [Except.map, shownStep]
    cases (step.execute payload t.engine.access).failure? with
    | none =>
        simp [Reply.ofOutcome, Reply.untraced,
          Reply.untracedFields]
    | some failure =>
        simp [Reply.ofOutcome, Reply.untraced,
          Reply.untracedFields]
  · exact { hAlike with
      engine := hAlike.engine.withAccess _ }

theorem agree_executeSteps
    (step : Step)
    (payloads : List Value) :
    Agree Alike Reply.untracedAll
      (executeSteps step payloads)
      (executeSteps step payloads) := by
  induction payloads generalizing step with
  | nil => exact .pure rfl
  | cons payload payloads ih =>
      refine (agree_executeStep step payload).bind ?_
      rintro ⟨step, reply⟩ ⟨step', reply'⟩ hShown
      rcases Prod.mk.inj hShown with ⟨hStep, hReply⟩
      cases hStep
      refine (ih step).bind fun replies replies' hReplies => ?_
      refine .pure ?_
      rw [Reply.untracedAll, Reply.untracedAll, hReplies]
      exact congrArg (· :: _) hReply

theorem agree_runStep
    (source : StepSource)
    (data : Value)
    (preset? : Option Value)
    (payloads : List Value) :
    Agree Alike Reply.untraced
      (runStep source data preset? payloads)
      (runStep source data preset? payloads) := by
  have hMade :
      Agree Alike id
        (fun s => (s.makeStep source data, s))
        (fun s => (s.makeStep source data, s)) :=
    agree_answer fun _ => rfl
  refine hMade.then_same fun step => ?_
  refine (agree_executeSteps _ payloads).bind
    fun replies replies' hReplies => ?_
  refine .pure ?_
  simp only [Reply.untraced, Reply.stepFields,
    List.cons_append, List.nil_append,
    Reply.untracedFields, hReplies]

end Session

end EventFlow

------------------------------------------------------------
-- Workflows
------------------------------------------------------------

namespace EventFlow

namespace Session

open Act

theorem agree_showWorkflow (place : Nat) :
    Agree Alike id (showWorkflow place)
      (showWorkflow place) :=
  agree_answer fun _ => rfl

theorem agree_nameWorkflow
    (name? : Option String)
    (place : Nat) :
    Agree Alike id (nameWorkflow name? place)
      (nameWorkflow name? place) := by
  refine .change fun s t hAlike => ?_
  cases name? with
  | none => exact hAlike
  | some name =>
      exact { hAlike with
        names := congrArg (Entries.put name place)
          hAlike.names }

theorem agree_build
    (definition : Value)
    (name? : Option String) :
    Agree Alike id (build definition name?)
      (build definition name?) := by
  have hBuilt :
      (Engine.buildValue definition >>=
        fun w => Engine.place w).IsDeaf :=
    .bind (Engine.isDeaf_buildValue definition)
      Engine.isDeaf_place
  refine (agree_onEngine hBuilt).then_same fun place => ?_
  exact (agree_nameWorkflow name? place).then_same
    fun _ => agree_showWorkflow place

theorem agree_add
    (definition : Value)
    (shouldInit : Bool)
    (name? : Option String) :
    Agree Alike id (add definition shouldInit name?)
      (add definition shouldInit name?) := by
  refine (agree_onEngine
    (Engine.isDeaf_buildAndAdd definition
      shouldInit)).then_same fun place => ?_
  exact (agree_nameWorkflow name? place).then_same
    fun _ => agree_showWorkflow place

theorem agree_addBuilt
    (name : String)
    (shouldInit : Bool) :
    Agree Alike id (addBuilt name shouldInit)
      (addBuilt name shouldInit) := by
  refine (agree_look fun _ => rfl).then_same
    fun place? => ?_
  cases place? with
  | none => exact .fail _
  | some place =>
      exact (agree_onEngine
        (Engine.isDeaf_add place shouldInit)).then_same
          fun _ => agree_showWorkflow place

theorem agree_load
    [Surroundings]
    (path : String)
    (shouldInit : Bool) :
    Agree Alike id (load path shouldInit)
      (load path shouldInit) := by
  refine (agree_look fun _ => rfl).then_same fun files => ?_
  exact (agree_onEngine
    (Engine.isDeaf_loadFile files _ shouldInit)).then_same
      fun _ => .pure rfl

theorem agree_init (ref : WorkflowRef) :
    Agree Alike id (init ref) (init ref) := by
  refine (agree_answer fun _ => rfl).then_same
    fun place => ?_
  exact (agree_onEngine
    (Engine.isDeaf_init place)).then_same fun _ => .pure rfl

theorem agree_showNamed (name : String) :
    Agree Alike id (showNamed name) (showNamed name) := by
  refine (agree_look fun _ => rfl).then_same
    fun place? => ?_
  cases place? with
  | none => exact .pure rfl
  | some place => exact agree_showWorkflow place

theorem agree_fire
    [Surroundings]
    (ref : WorkflowRef)
    (index : Int)
    (payload correlationId : Value) :
    Agree Alike id (fire ref index payload correlationId)
      (fire ref index payload correlationId) := by
  refine (agree_answer fun _ => rfl).then_same
    fun found => ?_
  exact (agree_onEngine
    (Engine.isDeaf_fire _ _ _ _)).then_same
      fun _ => .pure rfl

end Session

end EventFlow

------------------------------------------------------------
-- Subscriptions and Contacts
------------------------------------------------------------

namespace EventFlow

namespace Session

open Act

/- Handlers that differ in their trace count alike. -/
theorem agree_subscribe
    (event : String)
    (name? : Option String)
    {handler handler' : Handler}
    (hHandler : handler.untraced = handler'.untraced) :
    Agree Alike id (subscribe event name? handler)
      (subscribe event name? handler') := by
  refine .look_bind fun s t hAlike => ?_
  have hNumber : s.handlers.length = t.handlers.length := by
    have hLength := congrArg List.length hAlike.handlers
    rw [List.length_map, List.length_map] at hLength
    exact hLength
  rw [hNumber]
  refine Agree.then_same (agree_onEngine
    (Engine.isDeaf_subscribe event _))
      (fun subscription => ?_) s t hAlike
  refine Agree.then_same (Agree.change ?_)
    fun _ => .pure rfl
  intro s t hAlike
  refine { hAlike with subscriptions := ?_, handlers := ?_ }
  · dsimp only
    rw [hAlike.subscriptions]
  · rw [List.map_append, List.map_append, hAlike.handlers]
    exact congrArg (_ ++ [·]) hHandler

theorem agree_unsubscribe (name : String) :
    Agree Alike id (unsubscribe name) (unsubscribe name) := by
  refine (agree_look fun _ => rfl).then_same
    fun subscription? => ?_
  cases subscription? with
  | none => exact .fail _
  | some subscription =>
      exact (agree_onEngine
        (Engine.isDeaf_unsubscribe subscription)).then_same
          fun _ => .pure rfl

theorem agree_unsubscribeTrigger (ref : TriggerRef) :
    Agree Alike id (unsubscribeTrigger ref)
      (unsubscribeTrigger ref) := by
  refine (agree_answer fun _ => rfl).then_same
    fun found => ?_
  rcases found with ⟨place, index⟩
  refine (agree_look fun _ => rfl).then_same
    fun subscriptions => ?_
  dsimp only
  split
  · exact (agree_onEngine
      (Engine.isDeaf_unsubscribe _)).then_same
        fun _ => .pure rfl
  · exact .pure rfl

theorem agree_usingAccess
    (use :
      DataAccess → Except Failure (DataAccess × Value)) :
    Agree Alike id (usingAccess use) (usingAccess use) := by
  refine agree_onEngine (.of_silenced fun e => ?_)
  have hAccess : e.silenced.access = e.access := rfl
  rw [hAccess]
  cases use e.access with
  | error failure => exact ⟨rfl, rfl⟩
  | ok used => exact ⟨rfl, rfl⟩

end Session

end EventFlow

------------------------------------------------------------
-- Commands
------------------------------------------------------------

namespace EventFlow

namespace Command

theorem contains_traceWords (c : Command) :
    traceWords.contains c.word = c.isOfTrace := by
  cases c <;> rfl

/-
  Commands that are the same without the trace are the same,
  or subscribe handlers that are.
-/
theorem same_or_subscribe
    {c c' : Command}
    (hSame : c.untraced = c'.untraced) :
    c = c' ∨
      ∃ event name? handler handler',
        c = .subscribe event name? handler ∧
          c' = .subscribe event name? handler' ∧
            handler.untraced = handler'.untraced := by
  cases c with
  | subscribe event name? handler =>
      cases c' with
      | subscribe event' name?' handler' =>
          simp only [untraced, Command.subscribe.injEq]
            at hSame
          rcases hSame with ⟨rfl, rfl, hHandler⟩
          exact .inr ⟨_, _, _, _, rfl, rfl, hHandler⟩
      | _ => simp [untraced] at hSame
  | _ =>
      cases c' with
      | subscribe event' name?' handler' =>
          simp [untraced] at hSame
      | _ => exact .inl hSame

theorem word_eq_of_untraced
    {c c' : Command}
    (hSame : c.untraced = c'.untraced) :
    c.word = c'.word := by
  rcases same_or_subscribe hSame with
    rfl | ⟨_, _, _, _, rfl, rfl, -⟩
  · rfl
  · rfl

end Command

namespace Session

open Act

variable
  {serving : Listener → Value → Value → Act Session Delivery}

/- Whether listeners are served alike in sessions alike. -/
def ServesAlike
    (serving :
      Listener → Value → Value → Act Session Delivery) :
    Prop :=
  ∀ listener payload correlationId,
    Agree Alike id (serving listener payload correlationId)
      (serving listener payload correlationId)

theorem agree_dispatch
    (hServes : ServesAlike serving)
    (event : String)
    (payload correlationId : Value) :
    Agree Alike id
      ((hostWith serving).dispatch event payload
        correlationId)
      ((hostWith serving).dispatch event payload
        correlationId) := by
  refine Host.agree_dispatch ?_ ?_ ?_ event payload
    correlationId
  · exact hServes
  · intro notice
    exact agree_onEngine (Engine.isDeaf_tell notice)
  · intro s t hAlike
    exact hAlike.engine.same fun _ => rfl

variable [Surroundings]

/-
  A command that is not about the trace is performed alike
  where listeners are served alike.
-/
theorem agree_perform_self
    (hServes : ServesAlike serving)
    {c : Command}
    (hUntraced : c.isOfTrace = false) :
    Agree Alike Reply.untraced
      (perform (hostWith serving) c)
      (perform (hostWith serving) c) := by
  cases c with
  | registerTrigger i =>
      exact (agree_onEngine
        (Engine.isDeaf_registerTrigger i)).then_same
          fun _ => .pure rfl
  | registerStep i =>
      exact (agree_onEngine
        (Engine.isDeaf_registerStep i)).then_same
          fun _ => .pure rfl
  | makeStale slug =>
      refine (agree_onEngine ?_).seen _
      exact .bind (Engine.isDeaf_change fun _ => rfl)
        fun _ => .pure _
  | types => exact (agree_answer fun _ => rfl).seen _
  | describeTrigger slug =>
      exact (agree_answer fun _ => rfl).seen _
  | describeStep slug =>
      exact (agree_answer fun _ => rfl).seen _
  | allows slug trigger =>
      exact (agree_answer fun _ => rfl).seen _
  | createTrigger slug payload? =>
      exact (agree_createTrigger slug payload?).seen _
  | runStep source data preset? payloads =>
      exact agree_runStep source data preset? payloads
  | build definition name? =>
      exact (agree_build definition name?).seen _
  | add definition shouldInit name? =>
      exact (agree_add definition shouldInit name?).seen _
  | addBuilt name shouldInit =>
      exact (agree_addBuilt name shouldInit).seen _
  | load path shouldInit =>
      exact (agree_load path shouldInit).seen _
  | initAll =>
      exact (agree_onEngine
        Engine.isDeaf_initAdded).then_same fun _ => .pure rfl
  | init ref => exact (agree_init ref).seen _
  | workflows => exact (agree_answer fun _ => rfl).seen _
  | workflow name => exact (agree_showNamed name).seen _
  | getStep ref stepId =>
      exact (agree_answer fun _ => rfl).seen _
  | stepData ref stepId =>
      exact (agree_answer fun _ => rfl).seen _
  | fire ref index payload correlationId =>
      exact (agree_fire ref index payload
        correlationId).seen _
  | dispatch event payload correlationId shouldRaise =>
      exact (agree_dispatch hServes event payload
        correlationId).then_same fun _ => .pure rfl
  | subscribe event name? handler =>
      exact (agree_subscribe event name? rfl).seen _
  | unsubscribe name => exact (agree_unsubscribe name).seen _
  | unsubscribeTrigger ref =>
      exact (agree_unsubscribeTrigger ref).seen _
  | subscribers event =>
      exact (agree_answer fun _ => rfl).seen _
  | addLog contact log => exact (agree_usingAccess _).seen _
  | updateTags contact tags mode =>
      exact (agree_usingAccess _).seen _
  | contact contact =>
      exact (agree_answer fun _ => rfl).seen _
  | setAccess kind =>
      exact (agree_changing
        (f := fun e => { e with access := kind.open })
        fun _ => rfl).seen _
  | setTrail isKept => cases hUntraced
  | resetTrail => cases hUntraced
  | defaultTrail => cases hUntraced
  | setLimit limit =>
      exact (agree_changing
        (f := fun e => { e with limit := limit })
        fun _ => rfl).seen _

/- So are commands that differ in handlers' trace only. -/
theorem agree_perform
    (hServes : ServesAlike serving)
    {c c' : Command}
    (hUntraced : c.isOfTrace = false)
    (hSame : c.untraced = c'.untraced) :
    Agree Alike Reply.untraced
      (perform (hostWith serving) c)
      (perform (hostWith serving) c') := by
  rcases Command.same_or_subscribe hSame with
    rfl | ⟨event, name?, handler, handler', rfl, rfl,
      hHandler⟩
  · exact agree_perform_self hServes hUntraced
  · exact (agree_subscribe event name? hHandler).seen _

theorem agree_carryOut
    (hServes : ServesAlike serving)
    {c c' : Command}
    (hUntraced : c.isOfTrace = false)
    (hSame : c.untraced = c'.untraced) :
    Agree Alike Reply.untraced
      (carryOut (hostWith serving) c)
      (carryOut (hostWith serving) c') :=
  fun _ _ hAlike =>
    agree_perform hServes hUntraced hSame _ _ hAlike.settled

/- A command about the trace leaves all else as it is. -/
theorem alike_carryOut_of_isOfTrace
    (h : Host Session)
    {c : Command}
    (hOfTrace : c.isOfTrace = true)
    (s : Session) :
    Alike (carryOut h c s).2 s := by
  cases c with
  | setTrail isKept => exact ⟨rfl, rfl, rfl, rfl, rfl, rfl⟩
  | resetTrail => exact ⟨rfl, rfl, rfl, rfl, rfl, rfl⟩
  | defaultTrail => exact .settle s
  | _ => cases hOfTrace

end Session

end EventFlow

------------------------------------------------------------
-- Scripts
------------------------------------------------------------

namespace EventFlow

namespace Command

/-
  Scripts that are similar: on either side there may be
  commands about the trace, and otherwise the commands are
  the same without it.
-/
inductive Similar : List Command → List Command → Prop where
| done : Similar [] []
| left
    {c : Command}
    {cs cs' : List Command}
    (hOfTrace : c.isOfTrace = true)
    (hRest : Similar cs cs') :
    Similar (c :: cs) cs'
| right
    {c' : Command}
    {cs cs' : List Command}
    (hOfTrace : c'.isOfTrace = true)
    (hRest : Similar cs cs') :
    Similar cs (c' :: cs')
| both
    {c c' : Command}
    {cs cs' : List Command}
    (hUntraced : c.isOfTrace = false)
    (hUntraced' : c'.isOfTrace = false)
    (hSame : c.untraced = c'.untraced)
    (hRest : Similar cs cs') :
    Similar (c :: cs) (c' :: cs')

variable {c : Command}

theorem untracedAll_cons_of_isOfTrace
    (hOfTrace : c.isOfTrace = true)
    (cs : List Command) :
    untracedAll (c :: cs) = untracedAll cs := by
  rw [untracedAll, if_pos hOfTrace]

theorem untracedAll_cons_of_untraced
    (hUntraced : c.isOfTrace = false)
    (cs : List Command) :
    untracedAll (c :: cs) = c.untraced :: untracedAll cs := by
  rw [untracedAll, hUntraced]
  rfl

/- Scripts that are the same without the trace are similar. -/
theorem similar_of_untracedAll
    {cs cs' : List Command}
    (hSame : untracedAll cs = untracedAll cs') :
    Similar cs cs' := by
  induction cs generalizing cs' with
  | nil =>
      induction cs' with
      | nil => exact .done
      | cons c' cs' ih =>
          cases hTrace : c'.isOfTrace with
          | true =>
              rw [untracedAll_cons_of_isOfTrace hTrace]
                at hSame
              exact .right hTrace (ih hSame)
          | false =>
              rw [untracedAll_cons_of_untraced hTrace]
                at hSame
              cases hSame
  | cons c cs ih =>
      cases hTrace : c.isOfTrace with
      | true =>
          rw [untracedAll_cons_of_isOfTrace hTrace] at hSame
          exact .left hTrace (ih hSame)
      | false =>
          rw [untracedAll_cons_of_untraced hTrace] at hSame
          induction cs' with
          | nil => cases hSame
          | cons c' cs' ih' =>
              cases hTrace' : c'.isOfTrace with
              | true =>
                  rw [untracedAll_cons_of_isOfTrace hTrace']
                    at hSame
                  exact .right hTrace' (ih' hSame)
              | false =>
                  rw [untracedAll_cons_of_untraced hTrace']
                    at hSame
                  rcases List.cons.inj hSame with
                    ⟨hFirst, hRest⟩
                  exact .both hTrace hTrace' hFirst
                    (ih hRest)

end Command

end EventFlow

------------------------------------------------------------
-- Handlers and Hosts
------------------------------------------------------------

namespace EventFlow

namespace Call

theorem untracedAll_append (calls more : List Call) :
    untracedAll (calls ++ more) =
      untracedAll calls ++ untracedAll more := by
  simp [untracedAll]

/- The calls of commands about the trace do not show. -/
theorem untracedAll_of_isOfTrace
    {c : Command}
    (hOfTrace : c.isOfTrace = true)
    (label : Value)
    (outcome : Except Failure Reply) :
    untracedAll [.carriedOut label c.word outcome] = [] := by
  have hCall :
      (Call.carriedOut label c.word outcome).isOfTrace =
        true := by
    rw [isOfTrace, Command.contains_traceWords, hOfTrace]
  simp [untracedAll, hCall]

/- The calls of other commands show what these answered. -/
theorem untracedAll_of_untraced
    {c : Command}
    (hUntraced : c.isOfTrace = false)
    (label : Value)
    (outcome : Except Failure Reply) :
    untracedAll [.carriedOut label c.word outcome] =
      [ .carriedOut label c.word
          (outcome.map Reply.untraced) ] := by
  have hCall :
      (Call.carriedOut label c.word outcome).isOfTrace =
        false := by
    rw [isOfTrace, Command.contains_traceWords, hUntraced]
  simp [untracedAll, hCall, untraced]

end Call

namespace Session

open Act

variable {s t : Session}
variable
  {serving : Listener → Value → Value → Act Session Delivery}

/- Calls that show the same are noted alike. -/
theorem alike_note
    (hAlike : Alike s t)
    {call call' : Call}
    (hCall :
      Call.untracedAll [call] = Call.untracedAll [call']) :
    Alike (note call s).2 (note call' t).2 := by
  refine { hAlike with calls := ?_ }
  change Call.untracedAll (s.calls ++ [call]) =
    Call.untracedAll (t.calls ++ [call'])
  rw [Call.untracedAll_append, Call.untracedAll_append,
    hAlike.calls, hCall]

variable [Surroundings]

/- Behind a command the rest is carried out, whatever came. -/
theorem carryOutAll_cons
    (h : Host Session)
    (label : Value)
    (c : Command)
    (cs : List Command)
    (s : Session) :
    carryOutAll h label (c :: cs) s =
      carryOutAll h label cs
        (note (.carriedOut label c.word (carryOut h c s).1)
          (carryOut h c s).2).2 := by
  have hRan :
      carryOut h c s =
        ((carryOut h c s).1, (carryOut h c s).2) := rfl
  exact attempt_bind _ hRan

/- A command about the trace and its call do not matter. -/
theorem alike_noted_of_isOfTrace
    (h : Host Session)
    (label : Value)
    {c : Command}
    (hOfTrace : c.isOfTrace = true)
    (s : Session) :
    Alike
      (note (.carriedOut label c.word (carryOut h c s).1)
        (carryOut h c s).2).2 s := by
  refine Alike.trans ?_
    (alike_carryOut_of_isOfTrace h hOfTrace s)
  refine { Alike.refl (carryOut h c s).2 with calls := ?_ }
  change Call.untracedAll ((carryOut h c s).2.calls ++ _) = _
  rw [Call.untracedAll_append,
    Call.untracedAll_of_isOfTrace hOfTrace,
    List.append_nil]

/- Similar scripts are carried out alike by handlers. -/
theorem agree_carryOutAll
    (hServes : ServesAlike serving)
    (label : Value)
    {cs cs' : List Command}
    (hSimilar : Command.Similar cs cs') :
    Agree Alike id
      (carryOutAll (hostWith serving) label cs)
      (carryOutAll (hostWith serving) label cs') := by
  induction hSimilar with
  | done => exact .pure rfl
  | left hOfTrace hRest ih =>
      intro s t hAlike
      rw [carryOutAll_cons]
      exact ih _ _
        ((alike_noted_of_isOfTrace _ label hOfTrace s).trans
          hAlike)
  | right hOfTrace hRest ih =>
      intro s t hAlike
      rw [carryOutAll_cons]
      exact ih _ _
        (hAlike.trans
          (alike_noted_of_isOfTrace _ label hOfTrace t).symm)
  | both hUntraced hUntraced' hSame hRest ih =>
      intro s t hAlike
      rcases agree_carryOut hServes hUntraced hSame s t
        hAlike with ⟨hOutcome, hAfter⟩
      rw [carryOutAll_cons, carryOutAll_cons]
      refine ih _ _ (alike_note hAfter ?_)
      rw [Call.untracedAll_of_untraced hUntraced,
        Call.untracedAll_of_untraced hUntraced', hOutcome,
        Command.word_eq_of_untraced hSame]

/- Handlers that differ in the trace are called alike. -/
theorem agree_callHandler
    (hServes : ServesAlike serving)
    {handler handler' : Handler}
    (hHandler : handler.untraced = handler'.untraced)
    (payload correlationId : Value) :
    Agree Alike id
      (callHandler (hostWith serving) handler payload
        correlationId)
      (callHandler (hostWith serving) handler' payload
        correlationId) := by
  rcases handler with
    ⟨label, commands, raises, echoes, returns⟩
  rcases handler' with
    ⟨label', commands', raises', echoes', returns'⟩
  simp only [Handler.untraced, Handler.mk.injEq] at hHandler
  rcases hHandler with ⟨rfl, hCommands, rfl, rfl, rfl⟩
  refine Agree.then_same (Agree.change ?_) fun _ => ?_
  · intro s t hAlike
    exact alike_note hAlike rfl
  refine (agree_carryOutAll hServes label
    (Command.similar_of_untracedAll hCommands)).then_same
      fun _ => ?_
  cases raises with
  | none => exact .pure rfl
  | some raised => exact .fail _

theorem servesAlike_serve
    (hServes : ServesAlike serving) :
    ServesAlike (serve (hostWith serving)) := by
  intro listener payload correlationId
  cases listener with
  | trigger place index =>
      exact (agree_onEngine
        (Engine.isDeaf_fire _ _ _ _)).then_same
          fun _ => .pure rfl
  | handler number =>
      refine .look_bind fun s t hAlike => ?_
      have hFound :=
        congrArg (fun handlers => handlers[number]?)
          hAlike.handlers
      simp only [List.getElem?_map] at hFound
      cases hFirst : s.handlers[number]? with
      | none =>
          rw [hFirst] at hFound
          rw [Option.map_eq_none_iff.mp hFound.symm]
          exact ⟨rfl, hAlike⟩
      | some handler =>
          rw [hFirst] at hFound
          rcases Option.map_eq_some_iff.mp hFound.symm with
            ⟨handler', hSecond, hHandler⟩
          rw [hSecond]
          exact agree_callHandler hServes hHandler.symm
            payload correlationId s t hAlike

/- By induction on how deep handlers may call handlers. -/
theorem exists_alike_host (depth : Nat) :
    ∃ serving,
      host depth = hostWith serving ∧
        ServesAlike serving := by
  induction depth with
  | zero =>
      refine ⟨_, rfl, ?_⟩
      intro listener payload correlationId
      exact .fail _
  | succ depth ih =>
      rcases ih with ⟨serving, hHost, hServes⟩
      refine ⟨serve (host depth), rfl, ?_⟩
      rw [hHost]
      exact servesAlike_serve hServes

end Session

end EventFlow

------------------------------------------------------------
-- Answers
------------------------------------------------------------

namespace EventFlow

namespace Session

variable {s t : Session}

variable [Surroundings]

/-
  What a session answers to commands in order, besides the
  trace: commands about the trace are not answered, and other
  answers do not show it.
-/
def answers :
    List Command → Session → List (Except Failure Reply)
| [], _ => []
| c :: cs, s =>
    if c.isOfTrace then
      answers cs (run c s).2
    else
      (run c s).1.map Reply.untraced ::
        answers cs (run c s).2

/- The session that is left by commands in order. -/
def through : List Command → Session → Session
| [], s => s
| c :: cs, s => through cs (run c s).2

/- A command about the trace leaves a session alike. -/
theorem alike_run_of_isOfTrace
    {c : Command}
    (hOfTrace : c.isOfTrace = true)
    (s : Session) :
    Alike (run c s).2 s :=
  (Alike.settle _).trans
    (alike_carryOut_of_isOfTrace _ hOfTrace s)

/- Other commands are run alike in sessions alike. -/
theorem agree_run
    {c c' : Command}
    (hUntraced : c.isOfTrace = false)
    (hSame : c.untraced = c'.untraced) :
    Act.Agree Alike Reply.untraced (run c) (run c') := by
  rcases exists_alike_host Surroundings.calls with
    ⟨serving, hHost, hServes⟩
  intro s t hAlike
  rcases agree_carryOut hServes hUntraced hSame s t
    hAlike with ⟨hOutcome, hAfter⟩
  rw [← hHost] at hOutcome hAfter
  exact ⟨hOutcome, hAfter.settled⟩

/- So similar scripts are answered alike. -/
theorem answers_alike
    {cs cs' : List Command}
    (hSimilar : Command.Similar cs cs')
    (hAlike : Alike s t) :
    answers cs s = answers cs' t ∧
      Alike (through cs s) (through cs' t) := by
  induction hSimilar generalizing s t with
  | done => exact ⟨rfl, hAlike⟩
  | left hOfTrace hRest ih =>
      rw [answers, if_pos hOfTrace, through]
      exact ih ((alike_run_of_isOfTrace hOfTrace s).trans
        hAlike)
  | right hOfTrace hRest ih =>
      rw [answers, if_pos hOfTrace, through]
      exact ih (hAlike.trans
        (alike_run_of_isOfTrace hOfTrace t).symm)
  | both hUntraced hUntraced' hSame hRest ih =>
      rcases agree_run hUntraced hSame s t hAlike with
        ⟨hOutcome, hAfter⟩
      rcases ih hAfter with ⟨hAnswers, hThrough⟩
      refine ⟨?_, hThrough⟩
      simp only [answers, hUntraced, hUntraced', hOutcome,
        hAnswers]

end Session

end EventFlow

------------------------------------------------------------
-- Records
------------------------------------------------------------

namespace EventFlow

namespace Notice

/- The draft of a notice's record at a time. -/
def toDraft
    (n : Notice)
    (time : Value) : Log.Draft :=
  { channel := .str n.channel.name
    level := .int n.level
    template := .str n.message
    fields := n.fields
    time := time }

variable {n : Notice}
variable {time : Value}

/- No field of a notice has a name that is locked. -/
theorem checkFields_toDraft :
    (n.toDraft time).checkFields = .ok () := by
  have hFree :
      ∀ field ∈ n.fields,
        Log.lockedNames.contains field.1 = false := by
    cases n with
    | traced target entry =>
        cases hContext : entry.shownContext with
        | none => simp [fields, hContext]
        | some context =>
            simp [fields, hContext, Log.lockedNames,
              Log.ownNames]
    | _ =>
        simp [fields, Run.fields, Log.lockedNames,
          Log.ownNames]
  have hNone :
      (n.fields.find? fun field =>
        Log.lockedNames.contains field.1) = none := by
    rw [List.find?_eq_none]
    intro field hMem
    rw [hFree field hMem]
    exact Bool.false_ne_true
  rw [Log.Draft.checkFields, toDraft]
  dsimp only
  rw [hNone]

theorem channelName_toDraft :
    (n.toDraft time).channelName = .ok n.channel.name := by
  cases n <;> rfl

theorem levelName_toDraft :
    ∃ name, (n.toDraft time).levelName = .ok name := by
  simp only [Log.Draft.levelName, toDraft]
  split
  · exact ⟨_, rfl⟩
  · exact ⟨_, rfl⟩

/- At a time that can be written, every notice can be. -/
theorem render_toDraft
    {written : String}
    (hTime : Timestamp.ofValue time = .ok written) :
    ∃ text, (n.toDraft time).render = .ok text := by
  have hLevel :
      ∃ name, (n.toDraft time).levelName = .ok name :=
    levelName_toDraft
  rcases hLevel with ⟨name, hName⟩
  have hWritten :
      Timestamp.ofValue (n.toDraft time).time =
        .ok written := hTime
  have hFilled :
      Template.fill (n.toDraft time).template.text
          (n.toDraft time).arguments =
        .ok (n.toDraft time).template.text := rfl
  rw [Log.Draft.render, channelName_toDraft, hName,
    checkFields_toDraft, hWritten, hFilled]
  exact ⟨_, rfl⟩

end Notice

end EventFlow

------------------------------------------------------------
-- Whole Sessions
------------------------------------------------------------

namespace EventFlow

namespace Session

/- Whether a level, if one is given, can be read. -/
def IsReadable (level? : Option Value) : Prop :=
  ∀ level ∈ level?, ∃ v, Verbosity.ofValue level = .ok v

variable [Surroundings]

/- How a session with a readable level is started. -/
theorem start_of_isReadable
    {level? : Option Value}
    (hReadable : IsReadable level?)
    (r : EngineRequest)
    (env : List (String × String))
    (files : Files) :
    ∃ verbosity,
      start r env files level? =
        (r.makeEngine env files).map fun engine =>
          settle
            { engine := engine
              trails := r.trail.open
              verbosity := verbosity
              files := files } := by
  cases level? with
  | none => exact ⟨{}, rfl⟩
  | some level =>
      rcases hReadable level rfl with ⟨verbosity, hRead⟩
      refine ⟨verbosity, ?_⟩
      simp only [start, hRead]

/-
  Sessions that are started with trails of any kind and at
  any levels fail alike, or are alike.
-/
theorem start_alike
    (r : EngineRequest)
    (kind : TrailKind)
    (env : List (String × String))
    (files : Files)
    {level? level?' : Option Value}
    (hReadable : IsReadable level?)
    (hReadable' : IsReadable level?') :
    (∃ failure,
      start r env files level? = .error failure ∧
        start { r with trail := kind } env files level?' =
          .error failure) ∨
    ∃ s t,
      start r env files level? = .ok s ∧
        start { r with trail := kind } env files level?' =
          .ok t ∧
        Alike s t := by
  rcases start_of_isReadable hReadable r env files with
    ⟨verbosity, hFirst⟩
  rcases start_of_isReadable hReadable'
    { r with trail := kind } env files with
    ⟨verbosity', hSecond⟩
  have hSame :
      EngineRequest.makeEngine { r with trail := kind } env
        files = r.makeEngine env files := rfl
  rw [hFirst, hSecond, hSame]
  cases r.makeEngine env files with
  | error failure => exact .inl ⟨failure, rfl, rfl⟩
  | ok e =>
      exact .inr ⟨_, _, rfl, rfl, rfl, rfl, rfl, rfl, rfl,
        rfl⟩

/-
  Consider two sessions that are opened alike but for the
  kind of their trail and the level of their records, if any
  is set.  Either both cannot be opened, for the same
  failure, or both are.  Commands that are the same but for
  what is done with the trace, by themselves or by the
  handlers that they subscribe, are then answered in the same
  way, but for the trace, and leave sessions that are alike:
  their engines differ in nothing but what they have told.
  And whatever is told, at every time that can be written a
  record of it can be.
-/
theorem logging_changes_nothing
    (r : EngineRequest)
    (kind : TrailKind)
    (env : List (String × String))
    (files : Files)
    {level? level?' : Option Value}
    (hReadable : IsReadable level?)
    (hReadable' : IsReadable level?') :
    ((∃ failure,
      start r env files level? = .error failure ∧
        start { r with trail := kind } env files level?' =
          .error failure) ∨
    ∃ s t,
      start r env files level? = .ok s ∧
        start { r with trail := kind } env files level?' =
          .ok t ∧
        ∀ cs cs',
          Command.untracedAll cs = Command.untracedAll cs' →
            answers cs s = answers cs' t ∧
              Alike (through cs s) (through cs' t)) ∧
    ∀ (n : Notice) time written,
      Timestamp.ofValue time = .ok written →
        ∃ text, (n.toDraft time).render = .ok text := by
  refine ⟨?_, fun n time written => Notice.render_toDraft⟩
  rcases start_alike r kind env files hReadable
    hReadable' with
    hFailed | ⟨s, t, hFirst, hSecond, hAlike⟩
  · exact .inl hFailed
  · refine .inr ⟨s, t, hFirst, hSecond, ?_⟩
    intro cs cs' hSame
    exact answers_alike
      (Command.similar_of_untracedAll hSame) hAlike

end Session

end EventFlow

------------------------------------------------------------
-- Talking With and Without a Trail
------------------------------------------------------------

namespace EventFlow

namespace Session

/-
  A handler that executes a step, and if it is to, replaces
  and resets the trail around it.
-/
def talker (isTracing : Bool) : Handler :=
  .mk (.str "talker")
    ((if isTracing then [.setTrail true] else []) ++
      [ .runStep (.slug "crm/add_contact_log")
          (.object [
            ("id", .str "log"),
            ("attributes", .object [("type", .str "note")])
          ]) none [.object [("id", .int 7)]] ] ++
      (if isTracing then [.resetTrail] else []))
    none true .null

/- A handler is subscribed to an event, which comes about. -/
def talk (isTracing : Bool) : List Command :=
  (if isTracing then [.defaultTrail] else []) ++
    [ .subscribe "ping" none (talker isTracing),
      .dispatch "ping" (.str "hello") .null true,
      .contact (.int 7) ]

open scoped Bare in
/-
  The talk with a trail of its own, and the talk about a
  silent trail under a level of debugging, come to the same.
-/
theorem logging_changes_nothing_talk :
    ∃ s t,
      start {} [] [] none = .ok s ∧
      start { trail := .silent } [] []
          (some (.str "debug")) = .ok t ∧
      answers (talk false) s = answers (talk true) t ∧
      Alike (through (talk false) s)
        (through (talk true) t) := by
  have hReadable : IsReadable none := by
    intro level hLevel
    cases hLevel
  have hReadable' : IsReadable (some (.str "debug")) := by
    rintro level ⟨⟩
    exact ⟨Verbosity.ofLevel Level.debug, rfl⟩
  have hSame :
      Command.untracedAll (talk false) =
        Command.untracedAll (talk true) := by
    simp [talk, talker, Command.untracedAll,
      Command.isOfTrace, Command.untraced, Handler.untraced]
  rcases (logging_changes_nothing {} .silent [] [] hReadable
    hReadable').1 with
    ⟨failure, hFailed, -⟩ | ⟨s, t, hFirst, hSecond, hTalks⟩
  · cases hFailed
  · exact ⟨s, t, hFirst, hSecond, hTalks _ _ hSame⟩

end Session

end EventFlow
