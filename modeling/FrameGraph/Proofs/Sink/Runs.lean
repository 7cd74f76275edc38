import FrameGraph.Output.Outputs
import FrameGraph.Pattern.Generator
import FrameGraph.Proofs.Network.Lifecycle
import FrameGraph.Proofs.Sink.Ledger

/-!
# Runs of a sink

A sink that was not used yet is started, stopped and shut down any number of times, one call after
the other. Meanwhile threads and producers go on in any order, callers come with frames, settings
change, blocks fail, and whatever else goes on around the sink. Along all such runs the ledger of
the sink fits: no frame is lost, none is counted twice, and the queue keeps its order and its bound.
-/

namespace FrameGraph

/-! ### Keeping the ledger -/

/-- The offer with which a move comes to the queue, and the queue without it. -/
def SinkEngine.pick? (e : SinkEngine) (i : Nat) : Move → Option (Offer × SinkEngine)
  | .arrive j k =>
    if j = i then
      e.approaching[k]?.map fun o => (o, { e with approaching := e.approaching.eraseIdx k })
    else none
  | .retry j k =>
    if j = i then e.woken[k]?.map fun o => (o, { e with woken := e.woken.eraseIdx k })
    else none
  | _ => none

/-- A sink that was not used yet. -/
structure SinkEngine.Unused (e : SinkEngine) : Prop where
  queue : e.queue = []
  worker : e.worker = .absent
  stats : e.core.stats = {}
  depth : 1 ≤ e.maxDepth ∧ e.maxDepth ≤ SinkEngine.depthLimit

/-- Nothing was seen of a sink that was not used yet. -/
lemma SinkEngine.Unused.fits {e : SinkEngine} (h : e.Unused) : Ledger.Fits {} e where
  order := h.queue.symm
  count := by simp [h.stats, h.worker]
  processed := by simp [h.stats]
  bytes _ := by simp [h.stats, Ledger.bytes]
  seen := by simp [h.worker]
  gauge := by simp [h.stats, h.queue]
  depth := h.depth
  length := by simp [h.queue]
  pushes := by simp
  justified := by simp

namespace Ledger

variable {ω γ π : Type} [Processor ω π]

/-- The worker of a sink went on. -/
def worked (L : Ledger) (y : SinkBlock π) (world : ω) : Ledger :=
  match y.engine.worker with
  | .seeking => L.sought y.engine
  | .processing f => L.finished f (Processor.process y.processor f.buffer world).1
  | _ => L

/-- A move was made. -/
def afterMove (L : Ledger) (s : Network ω γ π) (i : Nat) (m : Move) : Ledger :=
  match s.sink? i with
  | none => L
  | some y =>
    match y.engine.pick? i m with
    | some (o, e) => L.looked e o
    | none => if m = .worker i ∨ m = .letThrough i then L.worked y s.world else L

/-- A step of a call was made. -/
def afterStep (L : Ledger) (i : Nat) (s t : Network ω γ π) : Ledger :=
  match s.sink? i, t.sink? i with
  | some y, some y' => L.shortened y.engine y'.engine
  | _, _ => L

end Ledger

namespace Network

variable {ω γ π : Type}

/-! ### Looks at the queue -/

section Steps

variable {s t : Network ω γ π} {i j : Nat} {m : Move} {y : SinkBlock π} {L : Ledger}

lemma pick?_eq_some {e e' : SinkEngine} {o : Offer} (h : e.Picks i m o e') :
    e.pick? i m = some (o, e') := by
  cases h with
  | arrives k h => simp [SinkEngine.pick?, h]
  | returns k h => simp [SinkEngine.pick?, h]

lemma pick?_of_ne {e e' e'' : SinkEngine} {o : Offer} (h : e.Picks j m o e') (hij : j ≠ i) :
    e''.pick? i m = none := by
  cases h with
  | arrives k h => simp [SinkEngine.pick?, hij]
  | returns k h => simp [SinkEngine.pick?, hij]

lemma block?_answer (hy : s.block? i = some (.sink y)) (p : Producer) (r : Except Error Unit) :
    (s.answer p r).block? i = some (.sink y) := by
  cases p with
  | caller k => exact hy
  | source j =>
    simp only [answer]
    cases hx : s.source? j with
    | none => exact hy
    | some x =>
      have hij : j ≠ i := ne_of_source_of_sink (source?_eq_some.1 hx) hy
      dsimp only
      split
      · exact (block?_of_set_ne (blocks_setSource _) hij).trans hy
      · exact hy

/-- An offer that is refused at once leaves all blocks alone. -/
lemma offer_of_error {buffer : FrameBuffer} {e : Error} (h : (s.offer i buffer).1 = .error e) :
    (s.offer i buffer).2.blocks = s.blocks := by
  simp only [offer] at h ⊢
  split
  · rfl
  · rename_i y hy
    simp only [hy] at h
    split
    · rfl
    · rename_i hcheck
      simp [hcheck] at h

/-! ### Interventions -/

/-- A sink with its ledger after a block was replaced. -/
lemma fits_of_set {j : Nat} {b b' : Block γ π} (hy : s.block? i = some (.sink y))
    (hL : L.Fits y.engine) (hb : s.block? j = some b) (ht : t.blocks = s.blocks.set j b')
    (h : b = .sink y → ∃ y', b' = .sink y' ∧ L.Fits y'.engine) :
    ∃ y', t.block? i = some (.sink y') ∧ L.Fits y'.engine := by
  by_cases hij : j = i
  · subst hij
    obtain ⟨y', rfl, hL'⟩ := h (by simpa [hy] using hb.symm)
    exact ⟨y', block?_of_set_self ht hb, hL'⟩
  · exact ⟨y, (block?_of_set_ne ht hij).trans hy, hL⟩

/-- A sink with its ledger after the engine of a sink was replaced. -/
lemma fits_of_setSink {j : Nat} {z : SinkBlock π} {e : SinkEngine}
    (hy : s.block? i = some (.sink y)) (hL : L.Fits y.engine) (hz : s.sink? j = some z)
    (ht : t.blocks = s.blocks.set j (.sink { z with engine := e }))
    (h : L.Fits z.engine → L.Fits e) :
    ∃ y', t.block? i = some (.sink y') ∧ L.Fits y'.engine := by
  refine fits_of_set hy hL (sink?_eq_some.1 hz) ht fun heq => ⟨_, rfl, ?_⟩
  cases heq
  exact h hL

theorem Intervention.fits (h : s.Intervention t) (hy : s.block? i = some (.sink y))
    (hL : L.Fits y.engine) : ∃ y', t.block? i = some (.sink y') ∧ L.Fits y'.engine := by
  have hsame : ∃ y', s.block? i = some (.sink y') ∧ L.Fits y'.engine := ⟨y, hy, hL⟩
  cases h with
  | offer j b =>
    simp only [Network.offer]
    split
    · exact hsame
    · rename_i z hz
      split
      · exact hsame
      · exact fits_of_setSink hy hL hz rfl fun h => h.congr rfl rfl rfl h.depth
  | offerFrame j f =>
    simp only [Network.offerFrame]
    split
    · exact hsame
    · rename_i z hz
      split
      · exact hsame
      · exact fits_of_setSink hy hL hz rfl fun h => h.congr rfl rfl rfl h.depth
  | setMaxDepth j depth =>
    simp only [Network.setMaxDepth]
    split
    · exact hsame
    · rename_i z hz
      apply fits_of_setSink hy hL hz rfl
      intro h
      simp only [SinkEngine.setMaxDepth]
      split
      · rename_i hdepth
        exact h.congr rfl rfl rfl hdepth
      · exact h
  | setPolicy j policy =>
    simp only [Network.setPolicy]
    split
    · exact hsame
    · rename_i z hz
      exact fits_of_setSink hy hL hz rfl fun h => h.congr rfl rfl rfl h.depth
  | fail j message =>
    cases hb : s.block? j with
    | none => simpa [Network.fail, hb] using hsame
    | some b =>
      apply fits_of_set hy hL hb (blocks_fail hb message)
      intro heq
      subst heq
      exact ⟨_, rfl, hL.congr rfl rfl rfl hL.depth⟩

/-! ### Calls -/

lemma StepAt.fits (h : StepAt Block.Control i s t) (hy : s.block? i = some (.sink y))
    (hL : L.Fits y.engine) :
    ∃ y', t.block? i = some (.sink y') ∧ (L.afterStep i s t).Fits y'.engine := by
  have hafter : ∀ y', t.block? i = some (.sink y') →
      L.afterStep i s t = L.shortened y.engine y'.engine := by
    intro y' hy'
    simp only [Ledger.afterStep, sink?_eq_some.2 hy, sink?_eq_some.2 hy']
  rcases h with ht | ⟨b, b', hb, hcontrol, ht⟩
  · have hy' := (block?_of_blocks_eq ht i).trans hy
    rw [hafter y hy']
    exact ⟨y, hy', hL.unshortened rfl rfl rfl rfl⟩
  · obtain rfl : b = .sink y := by simpa [hy] using hb.symm
    have hb' := block?_of_set_self ht hy
    rcases hcontrol with hopens | hcloses
    · cases hopens with
      | sink hopens =>
        rw [hafter _ hb']
        exact ⟨_, hb', hL.opened hopens⟩
    · cases hcloses with
      | sink hcloses =>
        rw [hafter _ hb']
        exact ⟨_, hb', hL.closed hcloses⟩
      | unheard =>
        rw [hafter _ hb']
        exact ⟨_, hb', hL.unshortened rfl rfl rfl rfl⟩

/-- A call that starts or stops a block. -/
inductive LifecycleCall [Generator γ] (i : Nat) : Operation ω γ π Unit → Prop
  | start : LifecycleCall i (start i >>= fun _ => pure ())
  | stop : LifecycleCall i (stop i >>= fun _ => pure ())
  | shutdown : LifecycleCall i (shutdown i)

/-- Called on a block that can be started only without a thread, each call keeps it so. -/
theorem LifecycleCall.meets [Generator γ] {op : Operation ω γ π Unit} (h : LifecycleCall i op)
    (hs : At i (fun b => b.Threaded ∧ b.Ready) s) :
    op.Meets (DriftAt i) (StepAt Block.Control i)
      (fun _ => At i fun b => b.Threaded ∧ b.Ready) s := by
  obtain ⟨b, hb, hthreaded, hready⟩ := hs
  have hat : At i Block.Threaded s := ⟨b, hb, hthreaded⟩
  have hend := Block.stable_threaded.and (Block.stable_ready (γ := γ) (π := π))
  have hkeep {α : Type} {op : Operation ω γ π α} {Q : α → Network ω γ π → Prop}
      {G : Block γ π → Block γ π → Prop} (hG : ∀ b b', G b b' → b.Control b')
      (hop : op.Meets (DriftAt i) (StepAt G i) Q s) (hQ : ∀ a t, Q a t → At i Block.Ready t) :
      op.Meets (DriftAt i) (StepAt Block.Control i)
        (fun _ => At i fun b => b.Threaded ∧ b.Ready) s := by
    refine (hop.keep (P := At i Block.Threaded) (fun _ _ h ht => ht.later Block.stable_threaded h)
      (fun _ _ h ht => h.keep (fun b b' hstep => (hG b b' hstep).threaded) ht) hat).mono
        (fun _ _ => id) (fun _ _ h => h.1.mono hG) ?_
    rintro a t ⟨ha, ht⟩
    obtain ⟨b, hb, hthreaded⟩ := ht
    obtain ⟨b', hb', hready⟩ := hQ a t ha
    obtain rfl : b = b' := by simpa [hb] using hb'
    exact ⟨b, hb, hthreaded, hready⟩
  cases h with
  | start =>
    refine .bind (interference_driftAt i) ((hkeep (fun _ _ => .inl)
      (start_meets hb hthreaded hready) ?_).weaken fun _ t ht u hu => ht.later hend hu)
    intro r t ht
    cases r with
    | ok _ => exact ht.mono fun b hup => hup.ready
    | error e =>
      exact ht.mono fun b' hb' => hb'.elim (·.ready) fun h => Block.stable_ready b b' h hready
  | stop =>
    refine .bind (interference_driftAt i) ((hkeep (fun _ _ => .inr) (stop_meets hb hthreaded)
      ?_).weaken fun _ t ht u hu => ht.later hend hu)
    intro r t ht
    cases r with
    | ok _ => exact ht.mono fun b hidle => hidle.ready
    | error e => exact ht.mono fun b' h => Block.stable_ready b b' h hready
  | shutdown =>
    exact hkeep (fun _ _ => .inr) (shutdown_meets hat)
      fun _ t ht => ht.mono fun b hidle => hidle.ready

/-! ### Moves -/

variable [Processor ω π]

/-- Nothing is entered for a move that neither the worker nor a producer of the sink makes. -/
lemma afterMove_of_other (hpick : ∀ y, s.sink? i = some y → y.engine.pick? i m = none)
    (hm : ¬(m = .worker i ∨ m = .letThrough i)) : L.afterMove s i m = L := by
  simp only [Ledger.afterMove]
  cases hy : s.sink? i with
  | none => rfl
  | some y => simp only [hpick y hy, if_neg hm]

lemma afterMove_of_worker (hy : s.block? i = some (.sink y))
    (hm : m = .worker i ∨ m = .letThrough i) : L.afterMove s i m = L.worked y s.world := by
  have hpick : y.engine.pick? i m = none := by rcases hm with rfl | rfl <;> rfl
  simp only [Ledger.afterMove, sink?_eq_some.2 hy, hpick, if_pos hm]

/-- A sink with its ledger after something that did not concern it. -/
lemma fits_of_other (hy : s.block? i = some (.sink y)) (hL : L.Fits y.engine)
    (ht : t.block? i = s.block? i) (hafter : L.afterMove s i m = L) :
    ∃ y', t.block? i = some (.sink y') ∧ (L.afterMove s i m).Fits y'.engine := by
  rw [hafter]
  exact ⟨y, ht.trans hy, hL⟩

/-- A sink with its ledger after a step of its worker. -/
lemma fits_of_worker {j : Nat} {z z' : SinkBlock π} (hy : s.block? i = some (.sink y))
    (hL : L.Fits y.engine) (hm : m = .worker j ∨ m = .letThrough j)
    (hz : s.block? j = some (.sink z)) (ht : t.blocks = s.blocks.set j (.sink z'))
    (hfits : ∀ L : Ledger, L.Fits z.engine → (L.worked z s.world).Fits z'.engine) :
    ∃ y', t.block? i = some (.sink y') ∧ (L.afterMove s i m).Fits y'.engine := by
  by_cases hij : j = i
  · subst hij
    obtain rfl : y = z := by simpa [hy] using hz
    rw [afterMove_of_worker hy hm]
    exact ⟨z', block?_of_set_self ht hz, hfits L hL⟩
  · refine fits_of_other hy hL (block?_of_set_ne ht hij) (afterMove_of_other (fun y _ => ?_) ?_)
    · rcases hm with rfl | rfl <;> rfl
    · rcases hm with rfl | rfl <;> simp [hij]

/-- A sink with its ledger after a look at a queue. -/
lemma fits_of_look {j : Nat} {z : SinkBlock π} {o : Offer} {e : SinkEngine}
    (hy : s.block? i = some (.sink y)) (hL : L.Fits y.engine) (hpick : z.engine.Picks j m o e)
    (hz : s.block? j = some (.sink z))
    (hself : t.block? j = some (.sink { z with engine := (e.consider o).2 }))
    (hother : j ≠ i → t.block? i = s.block? i) :
    ∃ y', t.block? i = some (.sink y') ∧ (L.afterMove s i m).Fits y'.engine := by
  by_cases hij : j = i
  · subst hij
    obtain rfl : y = z := by simpa [hy] using hz
    have hafter : L.afterMove s j m = L.looked e o := by
      simp only [Ledger.afterMove, sink?_eq_some.2 hy, pick?_eq_some hpick]
    have hL' : L.Fits e := by cases hpick <;> exact hL.congr rfl rfl rfl hL.depth
    rw [hafter]
    exact ⟨_, hself, hL'.looked o⟩
  · refine fits_of_other hy hL (hother hij)
      (afterMove_of_other (fun y _ => pick?_of_ne hpick hij) ?_)
    cases hpick <;> simp

theorem Effect.fits [Generator γ] (h : s.Effect m t) (hy : s.block? i = some (.sink y))
    (hL : L.Fits y.engine) :
    ∃ y', t.block? i = some (.sink y') ∧ (L.afterMove s i m).Fits y'.engine := by
  cases h with
  | tick _ ht =>
    exact fits_of_other hy hL (block?_of_blocks_eq ht i)
      (afterMove_of_other (fun _ _ => rfl) (by simp))
  | deny _ ht =>
    exact fits_of_other hy hL (block?_of_blocks_eq ht i)
      (afterMove_of_other (fun _ _ => rfl) (by simp))
  | source hx _ ht =>
    exact fits_of_other hy hL (block?_of_set_ne ht (ne_of_source_of_sink hx hy))
      (afterMove_of_other (fun _ _ => rfl) (by simp))
  | skips hx _ _ ht =>
    exact fits_of_other hy hL (block?_of_set_ne ht (ne_of_source_of_sink hx hy))
      (afterMove_of_other (fun _ _ => rfl) (by simp))
  | @hands _ j x f k rest z hx _ hz _ ht =>
    have hji : j ≠ i := ne_of_source_of_sink hx hy
    have hafter : L.afterMove s i (.source j) = L :=
      afterMove_of_other (fun _ _ => rfl) (by simp)
    have hset : t.block? i = (s.setSink k { z with
        engine := z.engine.approach ⟨.source j, f⟩ }).block? i := by
      exact block?_of_set_ne ht hji
    by_cases hki : k = i
    · subst hki
      obtain rfl : y = z := by simpa [hy] using hz
      rw [hafter]
      refine ⟨_, hset.trans (block?_of_set_self (blocks_setSink _) hy), ?_⟩
      exact hL.congr rfl rfl rfl hL.depth
    · exact fits_of_other hy hL (hset.trans (block?_of_set_ne (blocks_setSink _) hki)) hafter
  | seeks hz hworker ht =>
    apply fits_of_worker hy hL (.inl rfl) hz ht
    intro L hL
    rw [Ledger.worked, hworker]
    exact hL.sought hworker
  | begins hz hworker ht =>
    apply fits_of_worker hy hL (.inl rfl) hz ht
    intro L hL
    rw [Ledger.worked, hworker]
    exact hL.begun hworker
  | finishes hm hz hworker ht =>
    apply fits_of_worker hy hL hm hz ht
    intro L hL
    rw [Ledger.worked, hworker]
    exact hL.finished hworker _ _
  | waits hz hpick _ ht =>
    exact fits_of_look hy hL hpick hz (block?_of_set_self ht hz) fun hij => block?_of_set_ne ht hij
  | answers r hz hpick _ ht =>
    refine fits_of_look hy hL hpick hz ?_ ?_
    · rw [block?_of_blocks_eq ht]
      exact block?_answer (block?_of_set_self (blocks_setSink _) hz) _ _
    · intro hij
      rw [block?_of_blocks_eq ht, hy]
      exact block?_answer ((block?_of_set_ne (blocks_setSink _) hij).trans hy) _ _

/-- What becomes of the queue at which a producer looks. -/
lemma engine_of_picks [Generator γ] {o : Offer} {e : SinkEngine} (hy : s.sink? i = some y)
    (hpick : y.engine.Picks i m o e) (hm : s.perform m = some t) :
    ∃ y', t.sink? i = some y' ∧ y'.engine = (e.consider o).2 := by
  rw [sink?_eq_some] at hy
  have hlook {j : Nat} {z : SinkBlock π} {o' : Offer} {e' : SinkEngine}
      (hz : s.block? j = some (.sink z)) (hpick' : z.engine.Picks j m o' e') :
      j = i ∧ z = y ∧ o' = o ∧ e' = e := by
    have hij : j = i := by cases hpick <;> cases hpick' <;> rfl
    subst hij
    obtain rfl : z = y := by simpa [hy] using hz.symm
    have heq := (pick?_eq_some hpick').symm.trans (pick?_eq_some hpick)
    simp only [Option.some.injEq, Prod.mk.injEq] at heq
    exact ⟨rfl, rfl, heq.1, heq.2⟩
  cases perform_effect hm with
  | @waits _ _ j z o' e' hz hpick' _ ht =>
    obtain ⟨rfl, -, rfl, rfl⟩ := hlook hz hpick'
    exact ⟨_, sink?_eq_some.2 (block?_of_set_self ht hz), rfl⟩
  | @answers _ _ j z o' e' r hz hpick' _ ht =>
    obtain ⟨rfl, -, rfl, rfl⟩ := hlook hz hpick'
    have hset : t.block? j = some (.sink { z with engine := (e'.consider o').2 }) := by
      rw [block?_of_blocks_eq ht]
      exact block?_answer (block?_of_set_self (blocks_setSink _) hz) _ _
    exact ⟨_, sink?_eq_some.2 hset, rfl⟩
  | finishes hm _ _ _ => rcases hm with rfl | rfl <;> cases hpick
  | _ => cases hpick

end Steps

/-! ### Runs -/

variable [Generator γ] [Processor ω π]

/-- The runs of a sink, with the ledger that is kept of it. -/
inductive SinkRun (i : Nat) : Scene (Network ω γ π) → Ledger → Prop
  | unused {s y} (hy : s.sink? i = some y) (hunused : y.engine.Unused) : SinkRun i ⟨s, none⟩ {}
  | move {s t call L} (h : SinkRun i ⟨s, call⟩ L) (m : Move) (hm : s.perform m = some t) :
    SinkRun i ⟨t, call⟩ (L.afterMove s i m)
  | intervention {s t call L} (h : SinkRun i ⟨s, call⟩ L) (ht : s.Intervention t) :
    SinkRun i ⟨t, call⟩ L
  /-- Whatever happens elsewhere. -/
  | elsewhere {s t call L} (h : SinkRun i ⟨s, call⟩ L) (ht : t.block? i = s.block? i) :
    SinkRun i ⟨t, call⟩ L
  | call {s op L} (h : SinkRun i ⟨s, none⟩ L) (hop : LifecycleCall i op) :
    SinkRun i ⟨s, some op⟩ L
  | act {s step next L} (h : SinkRun i ⟨s, some (.act step next)⟩ L) :
    SinkRun i ⟨step s, some (next s)⟩ (L.afterStep i s (step s))
  | await {s ready next L} (h : SinkRun i ⟨s, some (.await ready next)⟩ L)
    (hready : ready s = true) : SinkRun i ⟨s, some next⟩ L
  | ret {s L} (h : SinkRun i ⟨s, some (.done ())⟩ L) : SinkRun i ⟨s, none⟩ L

variable {i : Nat} {x : Scene (Network ω γ π)} {L : Ledger}

/-- What is found along each run of a sink: the call that is under way will come to its end as it
should, and the ledger fits. -/
theorem SinkRun.sound (h : SinkRun i x L) :
    x.Sound (DriftAt i) (StepAt Block.Control i) (At i fun b => b.Threaded ∧ b.Ready) ∧
      ∃ y, x.state.block? i = some (.sink y) ∧ L.Fits y.engine := by
  have hR := interference_driftAt (ω := ω) (γ := γ) (π := π) i
  have hJ (s t : Network ω γ π) (hst : DriftAt i s t)
      (hs : At i (fun b => b.Threaded ∧ b.Ready) s) : At i (fun b => b.Threaded ∧ b.Ready) t :=
    hs.later (Block.stable_threaded.and Block.stable_ready) hst
  have hstep {x y : Scene (Network ω γ π)} (h : Scene.Step (DriftAt i) (LifecycleCall i) x y)
      (hx : x.Sound (DriftAt i) (StepAt Block.Control i) (At i fun b => b.Threaded ∧ b.Ready)) :=
    (h.sound hR (fun _ _ => id) hJ (fun op hop s hs => hop.meets hs) hx).1
  induction h with
  | unused hy hunused =>
    rw [sink?_eq_some] at hy
    refine ⟨⟨_, hy, trivial, ?_⟩, _, hy, hunused.fits⟩
    intro _
    simp [Block.hasThread, hunused.worker]
  | move h m hm ih =>
    obtain ⟨hsound, y, hy, hL⟩ := ih
    have heffect := perform_effect hm
    exact ⟨hstep (.other (heffect.drift.block i)) hsound, heffect.fits hy hL⟩
  | intervention h ht ih =>
    obtain ⟨hsound, y, hy, hL⟩ := ih
    exact ⟨hstep (.other (ht.drift.block i)) hsound, ht.fits hy hL⟩
  | elsewhere h ht ih =>
    obtain ⟨hsound, y, hy, hL⟩ := ih
    exact ⟨hstep (.other (driftAt_of_eq ht)) hsound, y, ht.trans hy, hL⟩
  | call h hop ih =>
    obtain ⟨hsound, hfits⟩ := ih
    exact ⟨hstep (.call hop) hsound, hfits⟩
  | act h ih =>
    obtain ⟨hsound, y, hy, hL⟩ := ih
    have hcontrol : StepAt Block.Control i _ _ := (hsound _ (hR.refl _)).1
    exact ⟨hstep .act hsound, hcontrol.fits hy hL⟩
  | await h hready ih =>
    obtain ⟨hsound, hfits⟩ := ih
    exact ⟨hstep (.await hready) hsound, hfits⟩
  | ret h ih =>
    obtain ⟨hsound, hfits⟩ := ih
    exact ⟨hstep .ret hsound, hfits⟩

/-- The accounts of a sink. The frames ever pushed were processed, or dropped, or wait in the
queue, or are in the hands of the worker, who has one at most; the bytes counted are those of the
processed frames, as long as their sum is a word. An offer that is refused, at once or at a look at
the queue, changes neither the queue nor any counter. -/
theorem sink_accounts (h : SinkRun i x L) :
    ∃ y, x.state.sink? i = some y ∧
      L.pushes.length = y.core.stats.processed + y.core.stats.dropped + y.engine.queue.length
        + y.engine.worker.held.length ∧
      y.engine.worker.held.length ≤ 1 ∧
      L.processed.length = y.core.stats.processed ∧
      (Ledger.bytes L.processed < Checked.word64 →
        y.core.stats.bytes = Ledger.bytes L.processed) ∧
      (∀ b e, (x.state.offer i b).1 = .error e →
        (x.state.offer i b).2.blocks = x.state.blocks) ∧
      ∀ m o e t, y.engine.Picks i m o e → x.state.perform m = some t →
        (∀ evicted, (e.consider o).1 ≠ .accepted evicted) →
        ∃ y', t.sink? i = some y' ∧ y'.engine.queue = y.engine.queue ∧
          y'.core.stats = y.core.stats := by
  obtain ⟨-, y, hy, hL⟩ := h.sound
  have hcount := hL.accounts
  rw [Ledger.accepted, List.length_map] at hcount
  refine ⟨y, sink?_eq_some.2 hy, hcount, y.engine.worker.held_length_le, hL.processed, hL.bytes,
    fun b e hoffer => ?_, fun m o e t hpick hm hrefused => ?_⟩
  · rw [offer_of_error hoffer]
  · obtain ⟨y', hy', hengine⟩ := engine_of_picks (sink?_eq_some.2 hy) hpick hm
    obtain ⟨hqueue, hcore⟩ := SinkEngine.consider_of_not_accepted hrefused
    refine ⟨y', hy', ?_, ?_⟩
    · rw [hengine, hqueue]
      cases hpick <;> rfl
    · rw [SinkBlock.core, hengine, hcore]
      cases hpick <;> rfl

/-- A sink with room for one frame that evicts the oldest. -/
def lone : Network FileTree TestPattern Output where
  world := {}
  blocks := [.sink {
    engine := {
      core := { typeName := "NullSink", state := .initialized }
      maxDepth := 1
      policy := .dropOldest }
    processor := .discard {} }]

def speck (byte : UInt8) : FrameBuffer := { region := ⟨[byte]⟩, size := 1 }

/-- Of three frames, the first is processed, the second evicted, and the third left behind. -/
lemma lone_run : ∃ (x : Scene (Network FileTree TestPattern Output)) (L : Ledger), SinkRun 0 x L ∧
    L.pushes.length = 3 ∧ L.processed.length = 1 ∧
      L.departures.map (·.2) = [.taken, .evicted 1 1 .dropOldest, .discarded true] := by
  have hnew : SinkRun 0 ⟨lone, none⟩ {} := .unused rfl ⟨rfl, rfl, rfl, by decide⟩
  have hstarted := (hnew.call .start).act.act.act.act.act.ret
  have hoffered := ((hstarted.intervention (.offer 0 (speck 1))).intervention
    (.offer 0 (speck 2))).intervention (.offer 0 (speck 3))
  have htaken := (hoffered.move (.arrive 0 0) rfl).move (.worker 0) rfl
  have hevicted := (htaken.move (.arrive 0 0) rfl).move (.arrive 0 0) rfl
  have hprocessed := (hevicted.move (.worker 0) rfl).move (.worker 0) rfl
  have hhalted := ((hprocessed.call .stop).act.act.act.move (.worker 0) rfl).await rfl
  have hstopped := hhalted.act.act.act.ret
  exact ⟨_, _, hstopped, rfl, rfl, rfl⟩

theorem sink_accounts_lone : ∃ (x : Scene (Network FileTree TestPattern Output)) (L : Ledger)
    (y : _),
    SinkRun 0 x L ∧ L.processed.length = 1 ∧ x.state.sink? 0 = some y ∧
      3 = y.core.stats.processed + y.core.stats.dropped + y.engine.queue.length
        + y.engine.worker.held.length := by
  obtain ⟨x, L, h, hpushes, hprocessed, -⟩ := lone_run
  obtain ⟨y, hy, hcount, -⟩ := sink_accounts h
  rw [hpushes] at hcount
  exact ⟨x, L, y, h, hprocessed, hy, hcount⟩

/-- The order of a sink. What was pushed is what left the queue, in this order, and then what is
still there; each frame left it once, because the worker took it, because a producer found the queue
full and evicted it, or because it was dropped while the stop flag was set. The processor sees
frames in the order in which they were pushed, and none twice. No push exceeds the depth in force,
the queue never holds more than 1000 frames, and the gauge shows its length. -/
theorem sink_order (h : SinkRun i x L) :
    ∃ y, x.state.sink? i = some y ∧
      L.accepted = L.departed ++ y.engine.queue ∧
      (∀ d ∈ L.departures, d.2.Justified) ∧
      (L.seen ++ y.engine.worker.held).Sublist L.taken ∧
      L.seen.Sublist L.accepted ∧
      (∀ p ∈ L.pushes, p.length ≤ p.limit) ∧
      y.engine.queue.length ≤ 1000 ∧
      y.core.stats.queueDepth = y.engine.queue.length := by
  obtain ⟨-, y, hy, hL⟩ := h.sound
  exact ⟨y, sink?_eq_some.2 hy, hL.order, hL.justified, hL.seen, hL.seen_sublist, hL.pushes,
    hL.length, hL.gauge⟩

theorem sink_order_lone : ∃ (x : Scene (Network FileTree TestPattern Output)) (L : Ledger) (y : _),
    SinkRun 0 x L ∧
      L.departures.map (·.2) = [.taken, .evicted 1 1 .dropOldest, .discarded true] ∧
      x.state.sink? 0 = some y ∧ L.accepted = L.departed ++ y.engine.queue := by
  obtain ⟨x, L, h, -, -, hdepartures⟩ := lone_run
  obtain ⟨y, hy, horder, -⟩ := sink_order h
  exact ⟨x, L, y, h, hdepartures, hy, horder⟩

end Network

end FrameGraph
