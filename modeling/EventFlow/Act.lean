import EventFlow.Failure

/-
  Acts: changes of a state that can fail.

  An act takes a state and yields an outcome and the state
  afterwards.  An act that fails keeps what it had changed
  before it failed; `Act.attempt` turns the failure of an
  act into a result.

  Key definitions include:
    * `Act`
    * `Act.ofExcept`
    * `Act.ofFaults`
    * `Act.attempt`
    * `Act.on`
-/

------------------------------------------------------------
-- Acts
------------------------------------------------------------

namespace EventFlow

/- A change of a state that can fail. -/
def Act (σ α : Type) : Type :=
  σ → Except Failure α × σ

namespace Act

variable {σ τ α β : Type}

/- Change nothing. -/
def pure (x : α) : Act σ α :=
  fun s => (.ok x, s)

/- One act after another, if the first does not fail. -/
def andThen
    (a : Act σ α)
    (f : α → Act σ β) : Act σ β :=
  fun s =>
    match a s with
    | (.ok x, s) => f x s
    | (.error failure, s) => (.error failure, s)

instance : Monad (Act σ) where
  pure := Act.pure
  bind := Act.andThen

/- Fail, and change nothing. -/
def fail (failure : Failure) : Act σ α :=
  fun s => (.error failure, s)

/- An outcome as an act that changes nothing. -/
def ofExcept (outcome : Except Failure α) : Act σ α :=
  fun s => (outcome, s)

/- A change that can fail with a fault of a kind of its own. -/
def ofFaults
    {ε : Type}
    (failure : ε → Failure)
    (a : σ → Except ε α × σ) : Act σ α :=
  fun s =>
    match a s with
    | (outcome, s) => (outcome.mapError failure, s)

/- Look at the state. -/
def look (f : σ → α) : Act σ α :=
  fun s => (.ok (f s), s)

/- Change the state. -/
def change (f : σ → σ) : Act σ Unit :=
  fun s => (.ok (), f s)

/- Try an act: its failure is a result. -/
def attempt (a : Act σ α) : Act σ (Except Failure α) :=
  fun s =>
    match a s with
    | (outcome, s) => (.ok outcome, s)

/- An act on a part of a state as an act on the whole. -/
def on
    (get : σ → τ)
    (set : τ → σ → σ)
    (a : Act τ α) : Act σ α :=
  fun s =>
    match a (get s) with
    | (outcome, t) => (outcome, set t s)

end Act

end EventFlow
