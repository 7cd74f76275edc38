import FrameGraph.Proofs.Network.Confinement
import FrameGraph.Proofs.Network.Retention
import FrameGraph.Proofs.Pipeline.Runs
import Mathlib.Logic.Relation

/-!
# Forgetting a graph

A block that does not belong to the graph of a pipeline, or does so no more, is tied to nothing: it
hands its frames to nobody, and nobody listens to its failures. This holds along each run, and so a
shutdown, which forgets the whole graph, leaves no block tied.
-/

namespace FrameGraph

namespace Block

variable {γ π : Type} {b b' b'' : Block γ π}

/-- A block that is tied to nothing. -/
structure Severed (b : Block γ π) : Prop where
  listener : b.core.listener = none
  consumer : b.consumer = none

lemma Loosens.trans (h : b.Loosens b') (h' : b'.Loosens b'') : b.Loosens b'' :=
  ⟨h'.listener ∘ h.listener, h'.consumer ∘ h.consumer⟩

lemma Loosens.severed (h : b.Loosens b') (hb : b.Severed) : b'.Severed :=
  ⟨h.listener hb.listener, h.consumer hb.consumer⟩

lemma Retains.loosens (h : b.Retains b') : b.Loosens b' := by
  cases h with
  | source h => exact ⟨fun hb => h.listener.trans hb, h.consumer⟩
  | sink h => exact ⟨fun hb => h.listener.trans hb, id⟩
  | stage h => exact ⟨fun hb => h.trans hb, id⟩

/-- Connecting the blocks of a graph ties only sources that have routes. -/
lemma Joins.loosens {routed : List Nat → Prop} (h : b.Joins routed b')
    (hrouted : ∀ targets, ¬routed targets) : b.Loosens b' := by
  cases h with
  | same => exact .refl b
  | sink => exact ⟨id, id⟩
  | source h => exact absurd h (hrouted _)

end Block

namespace Pipeline

variable {ω γ π α : Type} {p q r : Pipeline ω γ π} {m : List Nat} {i : Nat}
  {F F' : Nat → Block γ π → Prop}

/-! ### Ties are lost, not made -/

/-- The blocks of a pipeline may lose ties, and nothing but the network changes. -/
structure Slackens (p q : Pipeline ω γ π) : Prop where
  rest : q = { p with network := q.network }
  blocks : p.network.Each (fun _ => Block.Loosens) q.network

lemma Slackens.refl (p : Pipeline ω γ π) : p.Slackens p :=
  ⟨rfl, .refl (fun _ => .refl) _⟩

lemma Slackens.trans (h : p.Slackens q) (h' : q.Slackens r) : p.Slackens r :=
  ⟨by rw [h'.rest, h.rest], h.blocks.trans h'.blocks fun _ _ _ _ => .trans⟩

lemma interference_slackens : Routine.Interference (Slackens (ω := ω) (γ := γ) (π := π)) :=
  ⟨.refl, .trans⟩

lemma Slackens.entries (h : p.Slackens q) : q.entries = p.entries := by rw [h.rest]

lemma Slackens.members (h : p.Slackens q) : q.members = p.members := by
  rw [Pipeline.members, Pipeline.members, h.entries]

lemma Occurs.slackens [Generator γ] [Processor ω π] (h : p.Occurs q) : p.Slackens q := by
  cases h with
  | happens h => exact ⟨rfl, h.retains.mono fun _ _ _ => Block.Retains.loosens⟩
  | elsewhere h => exact ⟨rfl, Network.each_of_blocks_eq h fun _ => .refl⟩

lemma slackens_of_stepAt (h : Network.StepAt Block.Loosens i p.network q.network)
    (hrest : q = { p with network := q.network }) : p.Slackens q := by
  refine ⟨hrest, ?_⟩
  rcases h with h | ⟨b, b', hb, hloosens, h⟩
  · exact Network.each_of_blocks_eq h fun _ => .refl
  · exact Network.each_of_set h hb hloosens fun _ => .refl

/-- An operation on one block of the network. -/
lemma lift_slackens {op : Network.Operation ω γ π α} (hop : Network.Confined i op)
    (p : Pipeline ω γ π) : (lift op).Meets Slackens (fun _ _ => True) (fun _ => p.Slackens) p :=
  (lift_keeps (hop p.network trivial) (fun _ _ hqr => ⟨trivial, fun hq => hq.trans hqr⟩)
    (fun _ _ hstep hq => hq.trans (slackens_of_stepAt hstep rfl)) (.refl p)).weaken
    fun _ _ h => h.2

/-! ### Taking down -/

/-- What is known of the block at a position, if there is one. -/
def Finds (F : Block γ π → Prop) (i : Nat) (p : Pipeline ω γ π) : Prop :=
  ∀ b, p.network.block? i = some b → F b

/-- The blocks that are at none of these positions are tied to nothing. -/
def SeveredOutside (m : List Nat) (p : Pipeline ω γ π) : Prop :=
  ∀ i ∉ m, p.Finds Block.Severed i

lemma Slackens.finds {F : Block γ π → Prop} (h : p.Slackens q)
    (hF : ∀ b b', Block.Loosens b b' → F b → F b') (hp : p.Finds F i) : q.Finds F i := by
  intro b' hb'
  obtain ⟨b, hb, hloosens⟩ := h.blocks.source hb'
  exact hF b b' hloosens (hp b hb)

lemma SeveredOutside.later (h : p.SeveredOutside m) (hpq : p.Slackens q) : q.SeveredOutside m :=
  fun i hi => hpq.finds (fun _ _ => Block.Loosens.severed) (h i hi)

/-- A step on one block, after which it has lost a tie. -/
lemma lift_unties {F : Block γ π → Prop} {f : Network ω γ π → Network ω γ π}
    (hf : ∀ s, Network.StepAt Block.Loosens i s (f s))
    (hi : ∀ s b, (f s).block? i = some b → F b) (hF : ∀ b b', Block.Loosens b b' → F b → F b')
    (p : Pipeline ω γ π) :
    (lift (.modify f)).Meets Slackens (fun _ _ => True)
      (fun _ q => p.Slackens q ∧ q.Finds F i) p := by
  intro q hpq
  refine ⟨trivial, fun r hqr => ?_⟩
  have hstep : q.Slackens { q with network := f q.network } := slackens_of_stepAt (hf _) rfl
  have hfinds : Finds F i { q with network := f q.network } := hi q.network
  exact ⟨(hpq.trans hstep).trans hqr, hqr.finds hF hfinds⟩

lemma unhears (s : Network ω γ π) (b : Block γ π)
    (hb : (s.mapCore i fun c => { c with listener := none }).block? i = some b) :
    b.core.listener = none := by
  cases hi : s.block? i with
  | none => simp [Network.mapCore, hi] at hb
  | some c =>
    rw [Network.block?_of_set_self (Network.blocks_mapCore hi _) hi] at hb
    cases hb
    cases c <;> rfl

lemma unconsumes (s : Network ω γ π) (b : Block γ π)
    (hb : (s.mapSource i fun x => { x with engine := { x.engine with consumer := none } }).block? i
      = some b) : b.consumer = none := by
  cases hi : s.block? i with
  | none => simp [Network.mapSource, Network.source?, hi] at hb
  | some c =>
    rw [Network.block?_of_set_self (Network.blocks_mapSource hi _) hi] at hb
    cases hb
    cases c <;> rfl

/-- A block that is taken down is tied to nothing afterwards. -/
lemma teardownBlock_severs (i : Nat) (p : Pipeline ω γ π) :
    (teardownBlock i).Meets Slackens (fun _ _ => True)
      (fun _ q => p.Slackens q ∧ q.Finds Block.Severed i) p := by
  have hR := interference_slackens (ω := ω) (γ := γ) (π := π)
  have hlistener (b b' : Block γ π) (h : b.Loosens b') (hb : b.core.listener = none) :
      b'.core.listener = none := h.listener hb
  have hunheard (s : Network ω γ π) := Network.stepAt_mapCore (i := i)
    (f := fun c => { c with listener := none }) (Block.loosens_mapCore fun _ _ => rfl) s
  refine .bind hR ((lift_unties hunheard unhears hlistener p).weaken fun _ q hq => ?_)
  refine .bind hR ((lift_slackens Network.confined_shutdown q).weaken fun _ r hr => ?_)
  refine (lift_unties (F := fun b => b.consumer = none) ?_ unconsumes
    (fun _ _ h => h.consumer) r).weaken fun _ t ht => ?_
  · exact Network.stepAt_mapSource fun _ => ⟨id, fun _ => rfl⟩
  · have hqt := hr.trans ht.1
    exact ⟨hq.1.trans hqt, fun b hb => ⟨hqt.finds hlistener hq.2 b hb, ht.2 b hb⟩⟩

/-- Once a graph is taken down, no block is tied to anything. -/
lemma teardown_severs (hp : p.SeveredOutside p.members) :
    (teardown : Operation ω γ π Unit).Meets Slackens (fun _ _ => True)
      (fun _ q => q = { p with entries := [], network := q.network } ∧ q.SeveredOutside []) p := by
  have hR := interference_slackens (ω := ω) (γ := γ) (π := π)
  refine Routine.meets_get.2 fun q hpq => ⟨trivial, .bind hR ?_⟩
  have hq : q.SeveredOutside (q.entries.map (·.2)) := by
    have h := hp.later hpq
    rwa [← hpq.members] at h
  refine (Routine.meets_each
    (P := fun (l : List (String × Nat)) r => p.Slackens r ∧ r.SeveredOutside (l.map Prod.snd)) hR
    (fun l r s hrs hr => ⟨hr.1.trans hrs, hr.2.later hrs⟩) ?_ q.entries ⟨hpq, hq⟩).weaken ?_
  · intro e l r hr
    refine (teardownBlock_severs e.2 r).weaken fun _ s hs => ⟨hr.1.trans hs.1, fun i hi => ?_⟩
    by_cases hie : i = e.2
    · exact hie ▸ hs.2
    · exact hr.2.later hs.1 i (by simp_all)
  · intro _ r hr s hrs
    refine ⟨trivial, fun t hst => ?_⟩
    have hps := hr.1.trans hrs
    refine ⟨by rw [hst.rest, hps.rest], ?_⟩
    have hs : s.SeveredOutside [] := hr.2.later hrs
    have hs' : SeveredOutside [] { s with entries := [] } := hs
    exact hs'.later hst

/-! ### Calls -/

/-- No block outside the graph is tied to anything. -/
def Untied (p : Pipeline ω γ π) : Prop := p.SeveredOutside p.members

lemma Untied.later (h : p.Untied) (hpq : p.Slackens q) : q.Untied := by
  rw [Untied, hpq.members]
  exact SeveredOutside.later h hpq

/-- From an untied pipeline an operation leads to an untied one. -/
abbrev KeepsUntied (op : Operation ω γ π α) : Prop := op.Keeps Slackens (fun _ _ => True) Untied

section Untied

variable {β : Type}

lemma untied_later (p q : Pipeline ω γ π) (hpq : p.Slackens q) (hp : p.Untied) : q.Untied :=
  hp.later hpq

lemma keepsUntied_pure (a : α) : KeepsUntied (pure a : Operation ω γ π α) :=
  Routine.keeps_pure untied_later a

lemma keepsUntied_modifyGet {f : Pipeline ω γ π → α × Pipeline ω γ π}
    (h : ∀ p, p.Untied → (f p).2.Untied) : KeepsUntied (.modifyGet f) :=
  Routine.keeps_modifyGet untied_later fun p hp => ⟨trivial, h p hp⟩

lemma keepsUntied_get {f : Pipeline ω γ π → β} {k : β → Operation ω γ π α}
    (h : ∀ b, KeepsUntied (k b)) : KeepsUntied (Routine.get f >>= k) :=
  Routine.keeps_get untied_later (fun _ => trivial) fun p hp => h _ p hp

lemma KeepsUntied.bind {op : Operation ω γ π β} {k : β → Operation ω γ π α} (h : KeepsUntied op)
    (hk : ∀ b, KeepsUntied (k b)) : KeepsUntied (op >>= k) :=
  Routine.Keeps.bind interference_slackens h hk

lemma keepsUntied_lift {op : Network.Operation ω γ π α} (hop : Network.Confined i op) :
    KeepsUntied (lift op) :=
  fun p hp => (lift_slackens hop p).weaken fun _ _ hpq => hp.later hpq

lemma keepsUntied_failWith (e : Error) : KeepsUntied (failWith e : Operation ω γ π (Result α)) :=
  KeepsUntied.bind (keepsUntied_modifyGet (f := fun p => ((), { p with lastError := e.message }))
    fun _ => id) fun _ => keepsUntied_pure _

lemma keepsUntied_teardown : KeepsUntied (teardown : Operation ω γ π Unit) := by
  refine fun p hp => (teardown_severs hp).weaken fun _ q hq => ?_
  rw [Untied, hq.1]
  exact hq.2

/-- Halting blocks only loosens what they are tied to. -/
lemma halts_slackens (l : List Nat) (p : Pipeline ω γ π) :
    (Routine.each (fun i => lift (Network.halt i)) l).Meets Slackens (fun _ _ => True)
      (fun _ => p.Slackens) p :=
  Routine.meets_each (P := fun _ => p.Slackens) interference_slackens
    (fun _ _ _ hqr hq => hq.trans hqr)
    (fun _ _ q hq => (lift_slackens Network.confined_halt q).weaken fun _ _ hqr => hq.trans hqr)
    l (.refl p)

lemma keepsUntied_halts (l : List Nat) :
    KeepsUntied (Routine.each (fun i => lift (Network.halt i)) l : Operation ω γ π Unit) :=
  fun p hp => (halts_slackens l p).weaken fun _ _ hpq => hp.later hpq

/-- A pipeline that is stopped does not run, and keeps its graph. -/
lemma stop_slackens (p : Pipeline ω γ π) :
    (stop : Operation ω γ π Unit).Meets Slackens (fun _ _ => True)
      (fun _ => Slackens { p with running := false }) p := by
  have hR := interference_slackens (ω := ω) (γ := γ) (π := π)
  refine .bind hR fun q hpq => ⟨trivial, fun r hqr => ?_⟩
  have hpq' : Slackens { p with running := false } { q with running := false } :=
    ⟨by rw [hpq.rest], hpq.blocks⟩
  have hpr := hpq'.trans hqr
  dsimp only
  cases q.running with
  | false => exact fun t hrt => hpr.trans hrt
  | true =>
    refine Routine.meets_get.2 fun t hrt => ⟨trivial, ?_⟩
    exact (halts_slackens _ t).weaken fun _ u htu => (hpr.trans hrt).trans htu

lemma keepsUntied_stop : KeepsUntied (stop : Operation ω γ π Unit) := by
  refine fun p hp => (stop_slackens p).weaken fun _ q hpq => ?_
  have hp' : Untied { p with running := false } := hp
  exact hp'.later hpq

lemma keepsUntied_startAll [Generator γ] (started waiting : List Nat) :
    KeepsUntied (startAll started waiting : Operation ω γ π _) := by
  induction waiting generalizing started with
  | nil => exact keepsUntied_pure _
  | cons i waiting ih =>
    refine (keepsUntied_lift Network.confined_start).bind fun r => ?_
    cases r with
    | ok _ => exact ih _
    | error e =>
      exact keepsUntied_get fun _ => (keepsUntied_halts _).bind fun _ => keepsUntied_pure _

lemma keepsUntied_start [Generator γ] : KeepsUntied (start : Operation ω γ π (Result Unit)) := by
  refine keepsUntied_get fun entries => ?_
  split
  · exact keepsUntied_failWith _
  refine keepsUntied_get fun running => ?_
  split
  · exact keepsUntied_pure _
  refine keepsUntied_get fun order => (keepsUntied_startAll _ _).bind fun r => ?_
  cases r with
  | error e => exact keepsUntied_failWith e
  | ok _ =>
    exact KeepsUntied.bind (keepsUntied_modifyGet (f := fun p => ((), { p with running := true }))
      fun _ => id) fun _ => keepsUntied_pure _

/-! ### Building -/

/-- A block that is made belongs to the graph. -/
lemma untied_makeNew (d : BlockDef) (hp : p.Untied) : (makeNew d p).2.Untied := by
  unfold makeNew
  split
  · exact hp
  unfold make
  split
  · exact hp
  · rename_i b world _
    intro i hi c hc
    have hi' : i ∉ p.members ∧ i ≠ p.network.blocks.length := by
      simpa [Pipeline.members, Network.add] using hi
    rw [Network.block?_of_append (s := p.network) rfl, if_neg hi'.2] at hc
    exact hp i hi'.1 c hc

lemma keepsUntied_createBlocks (defs : List BlockDef) :
    KeepsUntied (createBlocks defs : Operation ω γ π (Result Unit)) :=
  Routine.Keeps.eachUntil interference_slackens untied_later
    (fun d => keepsUntied_modifyGet fun _ => untied_makeNew d) defs

/-- Connecting the blocks of a graph ties no others. -/
lemma Untied.rewired (hp : p.Untied) (hpq : Rewires (fun i _ => i ∈ p.members) p q) : q.Untied := by
  have hmembers : q.members = p.members := by
    rw [hpq.rest]
    rfl
  intro i hi b' hb'
  obtain ⟨b, hb, hjoins⟩ := hpq.joins.source hb'
  rw [hmembers] at hi
  exact (hjoins.loosens fun _ => hi).severed (hp i hi b hb)

section Connecting

variable [Processor ω π]

/-- All routes start at blocks of the graph. -/
lemma connectAll_members {cs : List Connection} {routes routes' : Routes}
    (h : connectAll cs routes p = (.ok routes', q))
    (hroutes : ∀ route ∈ routes, route.1 ∈ p.members) :
    ∀ route ∈ routes', route.1 ∈ p.members := by
  induction cs generalizing routes p with
  | nil =>
    obtain ⟨rfl, -⟩ : routes = routes' ∧ p = q := by simpa [connectAll] using h
    exact hroutes
  | cons c cs ih =>
    simp only [connectAll] at h
    split at h
    · rename_i routes₁ r hone
      obtain ⟨i, k, hbetween, rfl, hinforms⟩ := connectOne_ok hone
      have hmembers : r.members = p.members := by
        rw [hinforms.rest]
        rfl
      rw [← hmembers]
      refine ih h fun route hroute => ?_
      rw [hmembers]
      rcases fst_of_mem_addRoute hroute with heq | ⟨other, hother, heq⟩
      · rw [heq]
        exact mem_members_of_find? hbetween.source
      · rw [← heq]
        exact hroutes other hother
    · cases h

lemma keepsUntied_connectBlocks (cs : List Connection) :
    KeepsUntied (connectBlocks cs : Operation ω γ π (Result Unit)) := by
  refine keepsUntied_modifyGet fun p hp => ?_
  have hinforms := (connectAll_spec cs [] p).1
  split
  · rename_i routes q hall
    rw [hall] at hinforms
    refine hp.rewired ((hinforms.mono fun _ _ h => h.elim).trans ?_)
    refine (rewires_installAll q).mono fun i targets hroute => ?_
    exact connectAll_members hall (by simp) _ hroute
  · rename_i f q hall
    rw [hall] at hinforms
    exact hp.rewired (hinforms.mono fun _ _ h => h.elim)

variable [Generator γ]

lemma keepsUntied_configureBlock (d : BlockDef) :
    KeepsUntied (configureBlock d : Operation ω γ π (Result Unit)) := by
  refine keepsUntied_get fun found => ?_
  cases found with
  | none => exact keepsUntied_pure _
  | some i =>
    refine KeepsUntied.bind (keepsUntied_lift (Network.confined_mapCore fun _ h => h)) fun _ => ?_
    refine (keepsUntied_lift Network.confined_configure).bind fun r => ?_
    split
    · exact keepsUntied_pure _
    · exact keepsUntied_pure _

lemma keepsUntied_build (config : GraphConfig) :
    KeepsUntied (build config : Operation ω γ π (Result Unit)) := by
  refine (keepsUntied_createBlocks config.blocks).bind fun r => ?_
  cases r with
  | error f => exact keepsUntied_pure _
  | ok _ =>
    refine KeepsUntied.bind (Routine.Keeps.eachUntil interference_slackens untied_later
      keepsUntied_configureBlock config.blocks) fun r => ?_
    cases r with
    | error f => exact keepsUntied_pure _
    | ok _ => exact keepsUntied_connectBlocks _

lemma keepsUntied_load (config : GraphConfig) :
    KeepsUntied (load config : Operation ω γ π (Result Unit)) := by
  refine keepsUntied_get fun running => ?_
  split
  · exact keepsUntied_failWith _
  refine keepsUntied_teardown.bind fun _ => ?_
  refine KeepsUntied.bind (keepsUntied_modifyGet (f := fun p => ((), { p with config }))
    fun _ => id) fun _ => ?_
  refine (keepsUntied_build config).bind fun r => ?_
  split
  · exact keepsUntied_teardown.bind fun _ => keepsUntied_failWith _
  · exact keepsUntied_pure _

lemma keepsUntied_loadResult (described : Result GraphConfig) :
    KeepsUntied (loadResult described : Operation ω γ π (Result Unit)) := by
  match described with
  | .ok config => exact keepsUntied_load config
  | .error (.error e) => exact keepsUntied_failWith e
  | .error (.panic p) => exact keepsUntied_pure _

end Connecting

/-! ### Shutting down -/

/-- Shut down, a pipeline does not run and has no graph, and no block is tied to anything. The
description of the graph is forgotten with its blocks; if there were none, it stays. -/
lemma shutdown_severs (hp : p.Untied) :
    (shutdown : Operation ω γ π Unit).Meets Slackens (fun _ _ => True)
      (fun _ q => q = { p with
        running := false
        entries := []
        config := if p.entries = [] then p.config else {}
        network := q.network } ∧ q.SeveredOutside []) p := by
  have hR := interference_slackens (ω := ω) (γ := γ) (π := π)
  refine .bind hR ((stop_slackens p).weaken fun _ q hpq => ?_)
  refine Routine.meets_get.2 fun r hqr => ⟨trivial, ?_⟩
  have hpr := hpq.trans hqr
  have hp' : Untied { p with running := false } := hp
  have hr : r.Untied := hp'.later hpr
  have hentries : r.entries = p.entries := hpr.entries
  cases hgraph : p.entries with
  | nil =>
    rw [hentries, hgraph]
    intro t hrt
    have hpt := hpr.trans hrt
    have ht : t.Untied := hr.later hrt
    rw [Untied, Pipeline.members, hpt.entries, hgraph] at ht
    refine ⟨?_, ht⟩
    rw [hpt.rest, if_pos rfl, ← hgraph]
  | cons e rest =>
    rw [hentries, hgraph]
    refine .bind hR ((teardown_severs hr).weaken fun _ t ht u htu => ⟨trivial, fun v huv => ?_⟩)
    have hu : u.SeveredOutside [] := ht.2.later htu
    have hu' : SeveredOutside [] { u with config := {} } := hu
    refine ⟨?_, hu'.later huv⟩
    rw [huv.rest, htu.rest, ht.1, hpr.rest, if_neg (List.cons_ne_nil e rest)]

lemma keepsUntied_shutdown : KeepsUntied (shutdown : Operation ω γ π Unit) := by
  refine fun p hp => (shutdown_severs hp).weaken fun _ q hq => ?_
  rw [Untied, hq.1]
  exact hq.2

/-- A pipeline without a graph that does not run is not changed by a shutdown. -/
lemma shutdown_idles (hrunning : p.running = false) (hentries : p.entries = []) :
    (shutdown : Operation ω γ π Unit).Meets Slackens (fun p q => q = p) (fun _ _ => True) p := by
  have hR := interference_slackens (ω := ω) (γ := γ) (π := π)
  refine .bind hR (.bind hR fun q hpq => ?_)
  have hq : { q with running := false } = q := by rw [hpq.rest, ← hrunning]
  simp only [hq, true_and]
  intro r hqr
  have hrunning' : q.running = false := by rw [hpq.rest, hrunning]
  rw [hrunning']
  refine fun t hrt => Routine.meets_get.2 fun u htu => ⟨rfl, ?_⟩
  rw [(((hpq.trans hqr).trans hrt).trans htu).entries, hentries]
  exact fun _ _ => trivial

/-- The report on a pipeline that does not run and has no graph. -/
lemma status_of_empty (hrunning : p.running = false) (hentries : p.entries = []) :
    p.status = "Pipeline: " ++ p.config.name ++ "\nState: STOPPED\nBlocks: 0\n" := by
  have htail : "\nState: " ++ ("STOPPED" ++ ("\nBlocks: " ++ ("0" ++ "\n")))
      = "\nState: STOPPED\nBlocks: 0\n" := by decide
  have hzero : Nat.repr 0 = "0" := rfl
  rw [← htail]
  simp [status, blocks, hrunning, hentries, hzero, String.append_assoc, toString]

lemma keepsUntied_resetAll : KeepsUntied (resetAll : Operation ω γ π Unit) := by
  refine keepsUntied_get fun entries => ?_
  refine Routine.Keeps.each interference_slackens untied_later (fun e => ?_) entries
  refine keepsUntied_modifyGet (f := fun p => ((), p.mapNetwork fun s =>
    s.mapCore e.2 BlockCore.resetStats)) fun p hp => ?_
  refine hp.later (slackens_of_stepAt (i := e.2) ?_ rfl)
  exact Network.stepAt_mapCore (f := BlockCore.resetStats) (Block.loosens_mapCore fun _ h => h) _

/-! ### Runs -/

variable [Generator γ] [Processor ω π]

lemma Call.keepsUntied {op : Operation ω γ π Unit} (h : Call op) : KeepsUntied op := by
  cases h with
  | manager h =>
    cases h with
    | build config => exact (keepsUntied_load config).bind fun _ => keepsUntied_pure _
    | loadResult described =>
      exact (keepsUntied_loadResult described).bind fun _ => keepsUntied_pure _
    | start => exact keepsUntied_start.bind fun _ => keepsUntied_pure _
    | stop => exact keepsUntied_stop
    | shutdown => exact keepsUntied_shutdown
  | resetAll => exact keepsUntied_resetAll

variable {registry : Registry ω (Block γ π)} {x : Scene (Pipeline ω γ π)}

/-- Along each run, the call that is under way will leave the pipeline untied. -/
lemma Run.untied (h : Run registry x) : x.Sound Slackens (fun _ _ => True) Untied := by
  induction h with
  | new world => exact fun i _ b hb => by simp [Pipeline.new, Network.block?] at hb
  | step h hstep ih =>
    exact (hstep.sound interference_slackens (fun _ _ h => h.slackens) untied_later
      (fun _ hop p hp => hop.keepsUntied p hp) ih).1

/-- What others do to a pipeline, one thing after the other. -/
abbrev Meanwhile : Pipeline ω γ π → Pipeline ω γ π → Prop := Relation.ReflTransGen Occurs

lemma drift_of_meanwhile (h : Meanwhile p q) : p.Drift q := by
  induction h with
  | refl => exact .refl p
  | tail _ h ih => exact ih.trans h.drift

lemma slackens_of_meanwhile (h : Meanwhile p q) : p.Slackens q := by
  induction h with
  | refl => exact .refl p
  | tail _ h ih => exact ih.trans h.slackens

/-- Shut down, a pipeline does not run and has no graph. None of its blocks is active, has a thread
or is tied to anything, and a second shutdown changes nothing. The description of the graph is
forgotten too, unless the graph had no blocks. -/
theorem shutdown_forgets (hregistry : registry.Makes fun b => b.Threaded ∧ b.Idle)
    (h : Run registry ⟨p, none⟩) :
    (shutdown : Operation ω γ π Unit).Meets Meanwhile (fun _ _ => True) (fun _ q =>
      q.running = false ∧ q.entries = [] ∧ (∀ b ∈ q.network.blocks, b.Idle ∧ b.Severed) ∧
      q.config = (if p.entries = [] then p.config else {}) ∧
      q.status = "Pipeline: " ++ q.config.name ++ "\nState: STOPPED\nBlocks: 0\n" ∧
      (shutdown : Operation ω γ π Unit).Meets Meanwhile (fun q r => r = q) (fun _ _ => True) q ∧
      ∀ progress, shutdown.run progress q = ((), q)) p := by
  have hsteady : p.Steady := h.sound hregistry
  have huntied : p.Untied := h.untied
  have hquiet := (shutdown_meets hsteady).mono
    (fun _ _ (h : Meanwhile _ _) => drift_of_meanwhile h) (fun _ _ => id) fun _ _ => id
  have hsevers := (shutdown_severs huntied).mono
    (fun _ _ (h : Meanwhile _ _) => slackens_of_meanwhile h) (fun _ _ => id) fun _ _ => id
  refine (hquiet.and hsevers).mono (fun _ _ => id) (fun _ _ _ => trivial) fun _ q hq => ?_
  obtain ⟨⟨m, hknown⟩, hrest, hsevered⟩ := hq
  have hrunning : q.running = false := by rw [hrest]
  have hentries : q.entries = [] := by rw [hrest]
  refine ⟨hrunning, hentries, fun b hb => ?_, by rw [hrest], status_of_empty hrunning hentries, ?_,
    fun progress => ?_⟩
  · obtain ⟨i, hi⟩ := List.mem_iff_getElem?.1 hb
    exact ⟨hknown.blocks i b hi, hsevered i (by simp) b hi⟩
  · exact (shutdown_idles hrunning hentries).mono (fun _ _ => slackens_of_meanwhile)
      (fun _ _ => id) fun _ _ => id
  · have hstopped : { q with running := false } = q := by rw [← hrunning]
    have hstop : stop.run progress q = ((), q) := by
      simp only [stop, Routine.run_bind, Routine.run_modifyGet, hrunning, hstopped]
      rfl
    simp only [shutdown, Routine.run_bind, hstop, Routine.run_get, hentries]
    rfl

/-- The pipeline is built and started, and shut down while it runs. -/
theorem shutdown_forgets_lone : ∃ p : Pipeline FileTree TestPattern Output,
    Run discarding ⟨p, none⟩ ∧ p.running = true ∧ p.config = lone ∧
      shutdown.Meets Meanwhile (fun _ _ => True)
        (fun _ q => q.running = false ∧ q.entries = [] ∧ q.config = {}) p := by
  have hnew : Run discarding ⟨.new discarding { home := [] }, none⟩ := .new _
  -- one step for each of: looking, taking down, describing, making, configuring, connecting
  have hbuild := (((hnew.step (.call (.manager (.build lone)))).step .act).step .act).step .act
  have hmade := ((hbuild.step .act).step .act).step .act
  have hbuilt := ((((hmade.step .act).step .act).step .act).step .act).step .ret
  have hlook := (((hbuilt.step (.call (.manager .start))).step .act).step .act).step .act
  have hstart := ((((hlook.step .act).step .act).step .act).step .act).step .act
  have hstarted := (hstart.step .act).step .ret
  refine ⟨_, hstarted, rfl, rfl, (shutdown_forgets makes_discarding hstarted).weaken ?_⟩
  exact fun _ q hq => ⟨hq.1, hq.2.1, hq.2.2.2.1⟩

/-- A graph without blocks. -/
def hollow : GraphConfig := { pipeline := { name := "hollow" } }

/-- The description of a graph without blocks outlasts a shutdown. -/
theorem not_forgotten_hollow : ∃ p : Pipeline FileTree TestPattern Output,
    Run discarding ⟨p, none⟩ ∧ ∀ progress,
      (shutdown.run progress p).2.config = hollow ∧ hollow ≠ {} ∧
      (shutdown.run progress p).2.status = "Pipeline: hollow\nState: STOPPED\nBlocks: 0\n" := by
  have hnew : Run discarding ⟨.new discarding { home := [] }, none⟩ := .new _
  have hbuild := (((hnew.step (.call (.manager (.build hollow)))).step .act).step .act).step .act
  have hbuilt := (hbuild.step .act).step .act
  have hdone := hbuilt.step .ret
  exact ⟨_, hdone, fun _ => ⟨rfl, by decide, status_of_empty rfl rfl⟩⟩

end Untied

end Pipeline

end FrameGraph
