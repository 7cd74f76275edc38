/-!
# Routines

A routine is an operation that takes several atomic steps on a shared state and sometimes waits
until the state has changed. Between its steps others may act. Run on its own, a routine takes its
steps one after the other, and something else makes progress while it waits.
-/

namespace FrameGraph

/-- An operation on states `σ` that ends with an `α`. -/
inductive Routine (σ α : Type) : Type
  | done (a : α)
  /-- One atomic step; what follows depends on the state before it. -/
  | act (step : σ → σ) (next : σ → Routine σ α)
  /-- Wait until the state is ready. -/
  | await (ready : σ → Bool) (next : Routine σ α)

namespace Routine

variable {σ τ α β : Type}

def bind : Routine σ α → (α → Routine σ β) → Routine σ β
  | done a, k => k a
  | act step next, k => act step fun s => (next s).bind k
  | await ready next, k => await ready (next.bind k)

instance : Monad (Routine σ) where
  pure := done
  bind := bind

def modifyGet (f : σ → α × σ) : Routine σ α := act (fun s => (f s).2) fun s => done (f s).1

def modify (f : σ → σ) : Routine σ Unit := act f fun _ => done ()

def get (f : σ → α) : Routine σ α := act id fun s => done (f s)

def waitFor (ready : σ → Bool) : Routine σ Unit := await ready (done ())

/-- Do something for each item of a list. -/
def each (f : α → Routine σ Unit) : List α → Routine σ Unit
  | [] => done ()
  | a :: rest => (f a).bind fun _ => each f rest

/-- Do something for each item of a list up to the first failure. -/
def eachUntil {ε : Type} (f : α → Routine σ (Except ε Unit)) : List α → Routine σ (Except ε Unit)
  | [] => done (.ok ())
  | a :: rest => (f a).bind fun
    | .ok () => eachUntil f rest
    | .error e => done (.error e)

def on (part : τ → σ) (put : τ → σ → τ) : Routine σ α → Routine τ α
  | done a => done a
  | act step next => act (fun t => put t (step (part t))) fun t => (next (part t)).on part put
  | await ready next => await (fun t => ready (part t)) (next.on part put)

/-- Take all steps; `progress` says what others do until the state is ready. -/
def run (progress : (σ → Bool) → σ → σ) : Routine σ α → σ → α × σ
  | done a, s => (a, s)
  | act step next, s => (next s).run progress (step s)
  | await ready next, s => next.run progress (progress ready s)

end Routine

end FrameGraph
