import FrameGraph.Routine
import Mathlib.Tactic.Common

/-!
# Routines under interference

Between two steps of a routine others may act. What they may do is a preorder `R` on states. A
routine *meets* a guarantee `G` and a result `Q` under `R` if each of its steps is one that `G`
allows, and if `Q` holds when it ends and from then on, whatever others did in between.

A scene is a state with the call that is under way on it. Calls are made one after the other; others
act at any time. What is shown of each call by itself then holds along every run of scenes.
-/

namespace FrameGraph

namespace Routine

variable {σ τ α β ε : Type} {R R' G G' : σ → σ → Prop} {Q Q' : α → σ → Prop} {s t : σ}

/-- What others may do to a state: nothing, or one thing after the other. -/
structure Interference (R : σ → σ → Prop) : Prop where
  refl : ∀ s, R s s
  trans : ∀ {s t u}, R s t → R t u → R s u

/-- Under the interference `R`, each step of a routine is allowed by `G`, and its result satisfies
`Q`. -/
def Meets (R G : σ → σ → Prop) (Q : α → σ → Prop) : Routine σ α → σ → Prop
  | done a, s => ∀ t, R s t → Q a t
  | act step next, s => ∀ t, R s t → G t (step t) ∧ (next t).Meets R G Q (step t)
  | await ready next, s => ∀ t, R s t → ready t = true → next.Meets R G Q t

/-! ### Single steps -/

lemma meets_modifyGet {f : σ → β × σ} {k : β → Routine σ α} :
    (modifyGet f >>= k).Meets R G Q s ↔
      ∀ t, R s t → G t (f t).2 ∧ (k (f t).1).Meets R G Q (f t).2 := Iff.rfl

lemma meets_modify {f : σ → σ} {k : Unit → Routine σ α} :
    (modify f >>= k).Meets R G Q s ↔ ∀ t, R s t → G t (f t) ∧ (k ()).Meets R G Q (f t) := Iff.rfl

lemma meets_get {f : σ → β} {k : β → Routine σ α} :
    (get f >>= k).Meets R G Q s ↔ ∀ t, R s t → G t t ∧ (k (f t)).Meets R G Q t := Iff.rfl

/-! ### Rules -/

/-- Less interference, a weaker guarantee, a weaker result. -/
lemma Meets.mono {op : Routine σ α} (h : op.Meets R G Q s) (hR : ∀ s t, R' s t → R s t)
    (hG : ∀ s t, G s t → G' s t) (hQ : ∀ a t, Q a t → Q' a t) : op.Meets R' G' Q' s := by
  induction op generalizing s with
  | done a => exact fun t ht => hQ a t (h t (hR s t ht))
  | act step next ih =>
    intro t ht
    obtain ⟨hstep, hnext⟩ := h t (hR s t ht)
    exact ⟨hG _ _ hstep, ih t hnext⟩
  | await ready next ih => exact fun t ht hready => ih (h t (hR s t ht) hready)

lemma Meets.weaken {op : Routine σ α} (h : op.Meets R G Q s) (hQ : ∀ a t, Q a t → Q' a t) :
    op.Meets R G Q' s :=
  h.mono (fun _ _ => id) (fun _ _ => id) hQ

/-- Every routine meets a specification that asks for nothing. -/
lemma meets_true (op : Routine σ α) (s : σ) :
    op.Meets R (fun _ _ => True) (fun _ _ => True) s := by
  induction op generalizing s with
  | done a => exact fun _ _ => trivial
  | act step next ih => exact fun t _ => ⟨trivial, ih t (step t)⟩
  | await ready next ih => exact fun t _ _ => ih t

/-- What is shown of a routine in two ways holds together. -/
lemma Meets.and {op : Routine σ α} (h : op.Meets R G Q s) (h' : op.Meets R G' Q' s) :
    op.Meets R (fun s t => G s t ∧ G' s t) (fun a t => Q a t ∧ Q' a t) s := by
  induction op generalizing s with
  | done a => exact fun t ht => ⟨h t ht, h' t ht⟩
  | act step next ih =>
    intro t ht
    obtain ⟨hstep, hnext⟩ := h t ht
    obtain ⟨hstep', hnext'⟩ := h' t ht
    exact ⟨⟨hstep, hstep'⟩, ih t hnext hnext'⟩
  | await ready next ih => exact fun t ht hready => ih (h t ht hready) (h' t ht hready)

/-- What holds when a routine ends holds from then on. -/
lemma Meets.lasting (hR : Interference R) {op : Routine σ α} (h : op.Meets R G Q s) :
    op.Meets R G (fun a t => ∀ u, R t u → Q a u) s := by
  induction op generalizing s with
  | done a => exact fun t ht u hu => h u (hR.trans ht hu)
  | act step next ih =>
    intro t ht
    obtain ⟨hstep, hnext⟩ := h t ht
    exact ⟨hstep, ih t hnext⟩
  | await ready next ih => exact fun t ht hready => ih (h t ht hready)

/-- A routine that has not begun may begin later. -/
lemma Meets.later (hR : Interference R) {op : Routine σ α} (h : op.Meets R G Q s) (hst : R s t) :
    op.Meets R G Q t := by
  cases op with
  | done a => exact fun u hu => h u (hR.trans hst hu)
  | act step next => exact fun u hu => h u (hR.trans hst hu)
  | await ready next => exact fun u hu => h u (hR.trans hst hu)

lemma Meets.bind (hR : Interference R) {op : Routine σ β} {k : β → Routine σ α}
    (h : op.Meets R G (fun b t => (k b).Meets R G Q t) s) : (op >>= k).Meets R G Q s := by
  induction op generalizing s with
  | done b => exact h s (hR.refl s)
  | act step next ih =>
    intro t ht
    obtain ⟨hstep, hnext⟩ := h t ht
    exact ⟨hstep, ih t hnext⟩
  | await ready next ih => exact fun t ht hready => ih (h t ht hready)

/-- The answer of a routine may be ignored. -/
lemma Meets.ignore {P : σ → Prop} (hR : Interference R) (hP : ∀ s t, R s t → P s → P t)
    {op : Routine σ β} (h : op.Meets R G (fun _ => P) s) :
    (op >>= fun _ => pure ()).Meets R G (fun _ => P) s :=
  .bind hR (h.weaken fun _ t ht u hu => hP t u hu ht)

/-- What neither the others nor the steps of a routine change stays as it is. -/
lemma Meets.keep {P : σ → Prop} {op : Routine σ α} (h : op.Meets R G Q s)
    (hR : ∀ s t, R s t → P s → P t) (hG : ∀ s t, G s t → P s → P t) (hs : P s) :
    op.Meets R (fun s t => G s t ∧ P s ∧ P t) (fun a t => Q a t ∧ P t) s := by
  induction op generalizing s with
  | done a => exact fun t ht => ⟨h t ht, hR s t ht hs⟩
  | act step next ih =>
    intro t ht
    obtain ⟨hstep, hnext⟩ := h t ht
    have hP : P t := hR s t ht hs
    have hP' : P (step t) := hG _ _ hstep hP
    exact ⟨⟨hstep, hP, hP'⟩, ih t hnext hP'⟩
  | await ready next ih => exact fun t ht hready => ih (h t ht hready) (hR s t ht hs)

/-- An operation on a part of a larger state leaves the rest alone. -/
lemma Meets.on {part : τ → σ} {put : τ → σ → τ} {R' : τ → τ → Prop} {op : Routine σ α} {x : τ}
    (h : op.Meets R G Q (part x)) (hpart : ∀ x s, part (put x s) = s)
    (hR : ∀ x y, R' x y → R (part x) (part y)) :
    (op.on part put).Meets R' (fun x y => G (part x) (part y) ∧ y = put x (part y))
      (fun a y => Q a (part y)) x := by
  induction op generalizing x with
  | done a => exact fun y hy => h _ (hR x y hy)
  | act step next ih =>
    intro y hy
    obtain ⟨hstep, hnext⟩ := h _ (hR x y hy)
    simp only [hpart]
    refine ⟨⟨hstep, trivial⟩, ih (part y) ?_⟩
    rwa [hpart]
  | await ready next ih => exact fun y hy hready => ih (h _ (hR x y hy) hready)

/-! ### Loops -/

/-- A loop over a list: `P` says what holds when some items are still to come. -/
lemma meets_each {f : α → Routine σ Unit} {P : List α → σ → Prop} (hR : Interference R)
    (hP : ∀ l s t, R s t → P l s → P l t)
    (hf : ∀ a l s, P (a :: l) s → (f a).Meets R G (fun _ t => P l t) s) (l : List α)
    (hs : P l s) : (each f l).Meets R G (fun _ t => P [] t) s := by
  induction l generalizing s with
  | nil => exact fun t ht => hP [] s t ht hs
  | cons a l ih => exact Meets.bind hR ((hf a l s hs).weaken fun _ t ht => ih ht)

lemma meets_eachUntil {f : α → Routine σ (Except ε Unit)} {J : σ → Prop}
    (hR : Interference R) (hJ : ∀ s t, R s t → J s → J t)
    (hf : ∀ a s, J s → (f a).Meets R G (fun _ => J) s) (l : List α) (hs : J s) :
    (eachUntil f l).Meets R G (fun _ => J) s := by
  induction l generalizing s with
  | nil => exact fun t ht => hJ s t ht hs
  | cons a l ih =>
    refine Meets.bind hR ((hf a s hs).weaken ?_)
    intro r t ht
    cases r with
    | ok u => exact ih ht
    | error e => exact fun u hu => hJ t u hu ht

/-- A loop that ends at the first failure: `P` says what holds once some items are done, and `E` why
the next one can fail then. -/
lemma meets_eachUntil_prefix {f : α → Routine σ (Except ε Unit)} {P : List α → σ → Prop}
    {E : List α → α → List α → ε → Prop} (hR : Interference R)
    (hP : ∀ l s t, R s t → P l s → P l t) {l : List α}
    (hf : ∀ done a rest s, l = done ++ a :: rest → P done s →
      (f a).Meets R G (fun r t => match r with
        | .ok () => P (done ++ [a]) t
        | .error e => E done a rest e) s) (hs : P [] s) :
    (eachUntil f l).Meets R G (fun r t => match r with
      | .ok () => P l t
      | .error e => ∃ done a rest, l = done ++ a :: rest ∧ E done a rest e) s := by
  suffices hsuffix : ∀ rest done s, l = done ++ rest → P done s →
      (eachUntil f rest).Meets R G (fun r t => match r with
        | .ok () => P l t
        | .error e => ∃ done a rest, l = done ++ a :: rest ∧ E done a rest e) s
    from hsuffix l [] s rfl hs
  intro rest
  induction rest with
  | nil =>
    intro done s hl hs t ht
    rw [List.append_nil] at hl
    exact hl ▸ hP done s t ht hs
  | cons a rest ih =>
    intro done s hl hs
    refine Meets.bind hR ((hf done a rest s hl hs).weaken fun r t ht => ?_)
    cases r with
    | ok _ => exact ih (done ++ [a]) t (by simp [hl]) ht
    | error e => exact fun _ _ => ⟨done, a, rest, hl, ht⟩

/-! ### What is kept -/

/-- From a state with a property a routine leads to a state with it. -/
def Keeps (R G : σ → σ → Prop) (P : σ → Prop) (op : Routine σ α) : Prop :=
  ∀ s, P s → op.Meets R G (fun _ => P) s

section Keeps

variable {P : σ → Prop}

lemma keeps_pure (hP : ∀ s t, R s t → P s → P t) (a : α) : (pure a : Routine σ α).Keeps R G P :=
  fun s hs t ht => hP s t ht hs

lemma keeps_modifyGet (hP : ∀ s t, R s t → P s → P t) {f : σ → α × σ}
    (h : ∀ s, P s → G s (f s).2 ∧ P (f s).2) : (modifyGet f).Keeps R G P := by
  intro s hs t ht
  obtain ⟨hstep, hkeeps⟩ := h t (hP s t ht hs)
  exact ⟨hstep, fun u hu => hP _ u hu hkeeps⟩

lemma keeps_modify (hP : ∀ s t, R s t → P s → P t) {f : σ → σ}
    (h : ∀ s, P s → G s (f s) ∧ P (f s)) : (modify f).Keeps R G P :=
  keeps_modifyGet hP (f := fun s => ((), f s)) h

lemma keeps_waitFor (hP : ∀ s t, R s t → P s → P t) (ready : σ → Bool) :
    (waitFor ready).Keeps R G P :=
  fun s hs t ht _ u hu => hP t u hu (hP s t ht hs)

/-- What follows may depend on the state that was looked at. -/
lemma keeps_get (hP : ∀ s t, R s t → P s → P t) (hG : ∀ s, G s s) {f : σ → β}
    {k : β → Routine σ α} (h : ∀ s, P s → (k (f s)).Meets R G (fun _ => P) s) :
    (get f >>= k).Keeps R G P :=
  fun s hs t ht => ⟨hG t, h t (hP s t ht hs)⟩

lemma Keeps.bind (hR : Interference R) {op : Routine σ β} {k : β → Routine σ α}
    (h : op.Keeps R G P) (hk : ∀ b, (k b).Keeps R G P) : (op >>= k).Keeps R G P :=
  fun s hs => .bind hR ((h s hs).weaken fun b t ht => hk b t ht)

lemma Keeps.each (hR : Interference R) (hP : ∀ s t, R s t → P s → P t) {f : α → Routine σ Unit}
    (h : ∀ a, (f a).Keeps R G P) (l : List α) : (each f l).Keeps R G P :=
  fun _ hs => meets_each hR (P := fun _ => P) (fun _ => hP) (fun a _ t ht => h a t ht) l hs

lemma Keeps.eachUntil (hR : Interference R) (hP : ∀ s t, R s t → P s → P t)
    {f : α → Routine σ (Except ε Unit)} (h : ∀ a, (f a).Keeps R G P) (l : List α) :
    (eachUntil f l).Keeps R G P :=
  fun _ hs => meets_eachUntil hR hP h l hs

end Keeps

/-- Whatever state a routine finds, each of its steps is one that `G` allows. -/
abbrev Always (G : σ → σ → Prop) (op : Routine σ α) : Prop :=
  op.Keeps (fun _ _ => True) G fun _ => True

section Always

lemma always_pure (a : α) : (pure a : Routine σ α).Always G := keeps_pure (fun _ _ _ => id) a

lemma always_modifyGet {f : σ → α × σ} (h : ∀ s, G s (f s).2) : (modifyGet f).Always G :=
  keeps_modifyGet (fun _ _ _ => id) fun s _ => ⟨h s, trivial⟩

lemma always_modify {f : σ → σ} (h : ∀ s, G s (f s)) : (modify f).Always G :=
  always_modifyGet (f := fun s => ((), f s)) h

lemma always_waitFor (ready : σ → Bool) : (waitFor ready).Always G :=
  keeps_waitFor (fun _ _ _ => id) ready

lemma always_get (hG : ∀ s, G s s) {f : σ → β} {k : β → Routine σ α} (h : ∀ b, (k b).Always G) :
    (get f >>= k).Always G :=
  keeps_get (fun _ _ _ => id) hG fun s _ => h _ s trivial

lemma Always.bind {op : Routine σ β} {k : β → Routine σ α} (h : op.Always G)
    (hk : ∀ b, (k b).Always G) : (op >>= k).Always G :=
  Keeps.bind ⟨fun _ => trivial, fun _ _ => trivial⟩ h hk

lemma Always.mono {op : Routine σ α} (h : op.Always G) (hG : ∀ s t, G s t → G' s t) :
    op.Always G' :=
  fun s hs => (h s hs).mono (fun _ _ => id) hG fun _ _ => id

lemma Always.each {f : α → Routine σ Unit} (h : ∀ a, (f a).Always G) (l : List α) :
    (each f l).Always G :=
  Keeps.each ⟨fun _ => trivial, fun _ _ => trivial⟩ (fun _ _ _ => id) h l

lemma Always.eachUntil {f : α → Routine σ (Except ε Unit)} (h : ∀ a, (f a).Always G)
    (l : List α) : (eachUntil f l).Always G :=
  Keeps.eachUntil ⟨fun _ => trivial, fun _ _ => trivial⟩ (fun _ _ _ => id) h l

/-- What others and every such step keep is kept by the routine. -/
lemma Always.keeps {op : Routine σ α} {P : σ → Prop} (h : op.Always G)
    (hR : ∀ s t, R s t → P s → P t) (hG : ∀ s t, G s t → P s → P t) :
    op.Keeps R (fun _ _ => True) P :=
  fun s hs => (((h s trivial).mono (fun _ _ _ => trivial) (fun _ _ => id) fun _ _ => id).keep hR hG
    hs).mono (fun _ _ => id) (fun _ _ _ => trivial) fun _ _ h => h.2

end Always

/-! ### Running alone -/

section Run

variable {progress : (σ → Bool) → σ → σ}

@[simp] lemma run_bind (op : Routine σ β) (k : β → Routine σ α) (s : σ) :
    (op >>= k).run progress s =
      (k (op.run progress s).1).run progress (op.run progress s).2 := by
  induction op generalizing s with
  | done b => rfl
  | act step next ih => exact ih s (step s)
  | await ready next ih => exact ih (progress ready s)

@[simp] lemma run_modifyGet (f : σ → α × σ) (s : σ) : (modifyGet f).run progress s = f s := rfl

@[simp] lemma run_modify (f : σ → σ) (s : σ) : (modify f).run progress s = ((), f s) := rfl

@[simp] lemma run_get (f : σ → α) (s : σ) : (get f).run progress s = (f s, s) := rfl

@[simp] lemma run_waitFor (ready : σ → Bool) (s : σ) :
    (waitFor ready).run progress s = ((), progress ready s) := rfl

end Run

end Routine

/-! ### Scenes -/

/-- A state, and the rest of the call that is under way on it. -/
structure Scene (σ : Type) where
  state : σ
  call : Option (Routine σ Unit) := none

namespace Scene

variable {σ : Type}

/-- One step: of others, or of the call. A call is made only when no other is under way. -/
inductive Step (env : σ → σ → Prop) (calls : Routine σ Unit → Prop) : Scene σ → Scene σ → Prop
  | other {s t call} (h : env s t) : Step env calls ⟨s, call⟩ ⟨t, call⟩
  | call {s op} (h : calls op) : Step env calls ⟨s, none⟩ ⟨s, some op⟩
  | act {s step next} : Step env calls ⟨s, some (.act step next)⟩ ⟨step s, some (next s)⟩
  | await {s ready next} (h : ready s = true) :
    Step env calls ⟨s, some (.await ready next)⟩ ⟨s, some next⟩
  | ret {s} : Step env calls ⟨s, some (.done ())⟩ ⟨s, none⟩

/-- What is known of the state that others find may be added to what they do. -/
lemma Step.mono {env env' : σ → σ → Prop} {calls calls' : Routine σ Unit → Prop} {x y : Scene σ}
    (h : Step env calls x y) (henv : env x.state y.state → env' x.state y.state)
    (hcalls : ∀ op, calls op → calls' op) : Step env' calls' x y := by
  cases h with
  | other h => exact .other (henv h)
  | call h => exact .call (hcalls _ h)
  | act => exact .act
  | await h => exact .await h
  | ret => exact .ret

/-- Between calls `J` holds, and the call under way does what `G` allows and leads back to `J`. -/
def Sound (R G : σ → σ → Prop) (J : σ → Prop) (x : Scene σ) : Prop :=
  match x.call with
  | none => J x.state
  | some op => op.Meets R G (fun _ => J) x.state

variable {R G env : σ → σ → Prop} {J : σ → Prop} {calls : Routine σ Unit → Prop} {x y : Scene σ}

/-- If each call by itself leads from `J` to `J`, then every step keeps a scene sound, and is a step
of others, or one that `G` allows, or leaves the state alone. -/
theorem Step.sound (h : Step env calls x y) (hR : Routine.Interference R)
    (henv : ∀ s t, env s t → R s t) (hJ : ∀ s t, R s t → J s → J t)
    (hcalls : ∀ op, calls op → ∀ s, J s → op.Meets R G (fun _ => J) s) (hx : x.Sound R G J) :
    y.Sound R G J ∧ (env x.state y.state ∨ G x.state y.state ∨ y.state = x.state) := by
  cases h with
  | @other s t call h =>
    refine ⟨?_, .inl h⟩
    cases call with
    | none => exact hJ s t (henv s t h) hx
    | some op => exact Routine.Meets.later hR hx (henv s t h)
  | call h => exact ⟨hcalls _ h _ hx, .inr (.inr rfl)⟩
  | @act s step next =>
    obtain ⟨hstep, hnext⟩ := hx s (hR.refl s)
    exact ⟨hnext, .inr (.inl hstep)⟩
  | @await s ready next h => exact ⟨hx s (hR.refl s) h, .inr (.inr rfl)⟩
  | @ret s => exact ⟨hx s (hR.refl s), .inr (.inr rfl)⟩

end Scene

end FrameGraph
