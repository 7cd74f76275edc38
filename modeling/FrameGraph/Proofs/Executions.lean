import FrameGraph.Proofs.Interference
import Mathlib.Logic.Relation

/-!
# Executions of routines

A specification says what holds along all executions of a routine; an execution is one of them, with
its own steps, its result, and whatever others did before, between and after the steps. Executions
of composed routines are taken apart into those of the parts, so that it can be said which parts
were executed, and in which order.
-/

namespace FrameGraph

namespace Routine

variable {σ α β : Type}

/-- An execution of a routine from one state to another, with its own steps and its result. Each
step comes with the state before and after it; in between, others act. -/
inductive Execution (R : σ → σ → Prop) : Routine σ α → σ → List (σ × σ) → α → σ → Prop
  | done {a s t} (hst : R s t) : Execution R (.done a) s [] a t
  | act {step next s t steps a u} (hst : R s t) (h : Execution R (next t) (step t) steps a u) :
    Execution R (.act step next) s ((t, step t) :: steps) a u
  | await {ready next s t steps a u} (hst : R s t) (hready : ready t = true)
    (h : Execution R next t steps a u) : Execution R (.await ready next) s steps a u

/-- Something is done for each item of a list, one after the other. -/
inductive InTurn (R : σ → σ → Prop) (E : α → σ → List (σ × σ) → σ → Prop) :
    List α → σ → List (σ × σ) → σ → Prop
  | nil {s t} (hst : R s t) : InTurn R E [] s [] t
  | cons {a l s first t rest u} (h : E a s first t) (hrest : InTurn R E l t rest u) :
    InTurn R E (a :: l) s (first ++ rest) u

variable {R G : σ → σ → Prop} {Q : α → σ → Prop} {s t u : σ} {steps : List (σ × σ)} {a : α}

/-! ### Parts of executions -/

lemma execution_pure_iff {b : α} :
    Execution R (pure b) s steps a t ↔ steps = [] ∧ a = b ∧ R s t := by
  constructor
  · intro h
    cases h with
    | done hst => exact ⟨rfl, rfl, hst⟩
  · rintro ⟨rfl, rfl, hst⟩
    exact .done hst

lemma execution_modifyGet_iff {f : σ → β × σ} {k : β → Routine σ α} :
    Execution R (modifyGet f >>= k) s steps a u ↔ ∃ t rest, R s t ∧
      steps = (t, (f t).2) :: rest ∧ Execution R (k (f t).1) (f t).2 rest a u := by
  constructor
  · intro h
    cases h with
    | act hst h => exact ⟨_, _, hst, rfl, h⟩
  · rintro ⟨t, rest, hst, rfl, h⟩
    exact .act hst h

lemma execution_modify_iff {f : σ → σ} {k : Unit → Routine σ α} :
    Execution R (modify f >>= k) s steps a u ↔ ∃ t rest, R s t ∧
      steps = (t, f t) :: rest ∧ Execution R (k ()) (f t) rest a u :=
  execution_modifyGet_iff (f := fun s => ((), f s))

lemma execution_get_iff {f : σ → β} {k : β → Routine σ α} :
    Execution R (get f >>= k) s steps a u ↔ ∃ t rest, R s t ∧
      steps = (t, t) :: rest ∧ Execution R (k (f t)) t rest a u :=
  execution_modifyGet_iff (f := fun s => (f s, s))

/-- What others do before an execution may be counted to it. -/
lemma Execution.earlier (hR : Interference R) {op : Routine σ α}
    (h : Execution R op t steps a u) (hst : R s t) : Execution R op s steps a u := by
  cases h with
  | done htu => exact .done (hR.trans hst htu)
  | act htv h => exact .act (hR.trans hst htv) h
  | await htv hready h => exact .await (hR.trans hst htv) hready h

/-- So may what they do after it. -/
lemma Execution.later (hR : Interference R) {op : Routine σ α}
    (h : Execution R op s steps a t) (htu : R t u) : Execution R op s steps a u := by
  induction h with
  | done hst => exact .done (hR.trans hst htu)
  | act hst _ ih => exact .act hst (ih htu)
  | await hst hready _ ih => exact .await hst hready (ih htu)

lemma execution_bind_iff (hR : Interference R) {op : Routine σ β} {k : β → Routine σ α} :
    Execution R (op >>= k) s steps a u ↔ ∃ first b t rest, Execution R op s first b t ∧
      steps = first ++ rest ∧ Execution R (k b) t rest a u := by
  constructor
  · intro h
    -- on the first part, whose steps are the first ones of the execution
    induction op generalizing s steps with
    | done b => exact ⟨[], b, s, steps, .done (hR.refl s), rfl, h⟩
    | act step next ih =>
      cases h with
      | act hst h =>
        obtain ⟨first, b, v, rest, hfirst, rfl, hrest⟩ := ih _ h
        exact ⟨_, b, v, rest, .act hst hfirst, rfl, hrest⟩
    | await ready next ih =>
      cases h with
      | await hst hready h =>
        obtain ⟨first, b, v, rest, hfirst, rfl, hrest⟩ := ih h
        exact ⟨first, b, v, rest, .await hst hready hfirst, rfl, hrest⟩
  · rintro ⟨first, b, t, rest, hfirst, rfl, hrest⟩
    induction hfirst with
    | done hst => exact hrest.earlier hR hst
    | act hst _ ih => exact .act hst (ih hrest)
    | await hst hready _ ih => exact .await hst hready (ih hrest)

/-- An operation on a part of a larger state is composed like the operation itself. -/
lemma on_bind {τ : Type} {part : τ → σ} {put : τ → σ → τ} (op : Routine σ β)
    (k : β → Routine σ α) :
    (op >>= k).on part put = op.on part put >>= fun b => (k b).on part put := by
  induction op with
  | done b => rfl
  | act step next ih => exact congrArg (act _) (funext fun t => ih (part t))
  | await ready next ih => exact congrArg (await _) ih

/-- What a routine meets holds of each of its executions. -/
theorem Meets.execution {op : Routine σ α} (h : op.Meets R G Q s)
    (hop : Execution R op s steps a t) : Q a t ∧ ∀ x ∈ steps, G x.1 x.2 := by
  induction hop with
  | done hst => exact ⟨h _ hst, by simp⟩
  | act hst _ ih =>
    obtain ⟨hstep, hnext⟩ := h _ hst
    obtain ⟨hresult, hsteps⟩ := ih hnext
    exact ⟨hresult, List.forall_mem_cons.2 ⟨hstep, hsteps⟩⟩
  | await hst hready _ ih => exact ih (h _ hst hready)

/-! ### One after the other -/

section InTurn

variable {E E' : α → σ → List (σ × σ) → σ → Prop} {l : List α}

/-- In an execution of a loop the items have their turns. -/
lemma Execution.inTurn (hR : Interference R) {f : α → Routine σ Unit}
    (h : Execution R (each f l) s steps () t) :
    InTurn R (fun a s steps t => Execution R (f a) s steps () t) l s steps t := by
  induction l generalizing s steps with
  | nil =>
    obtain ⟨rfl, -, hst⟩ := execution_pure_iff.1 h
    exact .nil hst
  | cons a l ih =>
    obtain ⟨first, _, u, rest, hfirst, rfl, hrest⟩ := (execution_bind_iff hR).1 h
    exact .cons hfirst (ih hrest)

/-- `P` says what holds when some items are still to come. It may be used to say more of what is
done for each of them. -/
lemma InTurn.refine {P : List α → σ → Prop} (h : InTurn R E l s steps t)
    (hP : ∀ s t, R s t → P [] s → P [] t)
    (hE : ∀ a l s steps t, P (a :: l) s → E a s steps t → E' a s steps t ∧ P l t) (hs : P l s) :
    InTurn R E' l s steps t ∧ P [] t := by
  induction h with
  | nil hst => exact ⟨.nil hst, hP _ _ hst hs⟩
  | cons hfirst _ ih =>
    obtain ⟨hfirst', hlater⟩ := hE _ _ _ _ _ hs hfirst
    obtain ⟨hrest', hend⟩ := ih hlater
    exact ⟨.cons hfirst' hrest', hend⟩

end InTurn

end Routine

/-! ### Executions and scenes -/

/-- A call is carried out in steps of a scene. -/
theorem Routine.Execution.scene {σ : Type} {env : σ → σ → Prop} {calls : Routine σ Unit → Prop}
    {op : Routine σ Unit} {s t : σ} {steps : List (σ × σ)}
    (h : Execution (Relation.ReflTransGen env) op s steps () t) :
    Relation.ReflTransGen (Scene.Step env calls) ⟨s, some op⟩ ⟨t, none⟩ := by
  have hothers {call : Option (Routine σ Unit)} {s t : σ} (hst : Relation.ReflTransGen env s t) :
      Relation.ReflTransGen (Scene.Step env calls) ⟨s, call⟩ ⟨t, call⟩ := by
    induction hst with
    | refl => exact .refl
    | tail _ h ih => exact ih.tail (.other h)
  generalize ha : () = a at h
  induction h with
  | done hst => exact .head .ret (hothers hst)
  | act hst _ ih => exact (hothers hst).trans (.head .act (ih ha))
  | await hst hready _ ih => exact (hothers hst).trans (.head (.await hready) (ih ha))

end FrameGraph
