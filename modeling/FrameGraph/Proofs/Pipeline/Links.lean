import FrameGraph.Proofs.Pipeline.Upkeep

/-!
# The links of a pipeline

A source of the graph hands frames to sinks of the graph only, and an offer of a source that waits
at a sink means that the source waits for this answer. This holds whatever fails, whoever else comes
with frames, and whether or not statistics are forgotten.
-/

namespace FrameGraph

/-! ### What relays nothing -/

/-- The source has no consumer, or one that hands frames to such targets. -/
def SourceBlock.Wired {γ : Type} (served : List Nat → Prop) (x : SourceBlock γ) : Prop :=
  x.engine.consumer = none ∨ ∃ targets, x.engine.consumer = some (.fanOut targets) ∧ served targets

namespace Block

variable {γ π : Type} {b b' : Block γ π} {served routed : List Nat → Prop}

/-- The links of a block stay good: a source waits or does not wait as before and hands frames to
good targets only, and a sink has as many offers of each source as before. -/
inductive Relays (served : List Nat → Prop) : Block γ π → Block γ π → Prop
  | source {x x' : SourceBlock γ} (targets : served x.thread.targets → served x'.thread.targets)
    (submitting : x'.thread.isSubmitting = x.thread.isSubmitting)
    (wired : x.Wired served → x'.Wired served) : Relays served (.source x) (.source x')
  | sink {y y' : SinkBlock π}
    (offers : ∀ i, offersOf i (.sink y' : Block γ π) = offersOf i (.sink y : Block γ π)) :
    Relays served (.sink y) (.sink y')
  | stage {z z' : StageBlock} : Relays served (.stage z) (.stage z')

lemma Relays.refl (b : Block γ π) : b.Relays served b := by
  cases b with
  | source x => exact .source id rfl id
  | sink y => exact .sink fun _ => rfl
  | stage z => exact .stage

lemma Tallies.relays (h : b.Tallies routed b')
    (hrouted : ∀ targets, routed targets → served targets) :
    b.Relays served b' := by
  cases h with
  | source h =>
    refine .source (fun hserved => ?_) h.submitting fun hwired => ?_
    · rw [h.targets]
      exact hserved
    · rcases h.consumer with heq | hnone | ⟨targets, hconsumer, htargets⟩
      · rw [SourceBlock.Wired, heq]
        exact hwired
      · exact .inl hnone
      · exact .inr ⟨targets, hconsumer, hrouted targets htargets⟩
  | sink h => exact .sink fun i => h.pending.countP_eq _
  | stage => exact .stage

/-- Offers may move about while they wait. -/
lemma relays_of_pending {y y' : SinkBlock π} (h : y'.engine.pending.Perm y.engine.pending) :
    (.sink y : Block γ π).Relays served (.sink y') :=
  .sink fun _ => h.countP_eq _

/-- What happens to the core of a block does not concern its links. -/
lemma relays_mapCore (f : BlockCore → BlockCore) : b.Relays served (b.mapCore f) := by
  cases b with
  | source x => exact .source id rfl id
  | sink y => exact .sink fun _ => rfl
  | stage z => exact .stage

end Block

namespace Pipeline

variable {ω γ π : Type} {p q : Pipeline ω γ π} {i k : Nat} {b b' : Block γ π}

/-! ### Links -/

/-- All targets are sinks of the graph. -/
def Serves (p : Pipeline ω γ π) (targets : List Nat) : Prop :=
  ∀ k ∈ targets, k ∈ p.members ∧ (p.network.sink? k).isSome

/-- What is known of a block. -/
def LinksAt (p : Pipeline ω γ π) (i : Nat) : Block γ π → Prop
  | .source x => p.Serves x.thread.targets ∧ (i ∈ p.members → x.Wired p.Serves)
  | .sink y => ∀ j, Block.offersOf j (.sink y : Block γ π) ≠ 0 → i ∈ p.members
  | .stage _ => True

/-- Offers of sources wait at sinks of the graph, and each source waits for its own offer only. -/
structure Linked (p : Pipeline ω γ π) : Prop where
  offers : ∀ i, p.network.total (Block.offersOf i) = p.network.submittingAt i
  links : p.network.All p.LinksAt

lemma Linked.source (hp : p.Linked) {x : SourceBlock γ}
    (hx : p.network.block? i = some (.source x)) :
    p.Serves x.thread.targets ∧ (i ∈ p.members → x.Wired p.Serves) := hp.links i _ hx

lemma serves_nil : p.Serves [] := by
  intro k hk
  cases hk

lemma serves_congr (hentries : q.entries = p.entries)
    (hsinks : ∀ k, (q.network.sink? k).isSome = (p.network.sink? k).isSome) :
    q.Serves = p.Serves := by
  funext targets
  simp only [Serves, Pipeline.members, hentries, hsinks]

lemma LinksAt.relays (hserves : q.Serves = p.Serves) (hmembers : q.members = p.members)
    (hb : p.LinksAt i b) (h : b.Relays p.Serves b') : q.LinksAt i b' := by
  cases h with
  | source targets submitting wired =>
    rw [LinksAt, hserves, hmembers]
    exact ⟨targets hb.1, fun hi => wired (hb.2 hi)⟩
  | sink offers =>
    intro j hj
    rw [offers] at hj
    rw [hmembers]
    exact hb j hj
  | stage => trivial

/-- The graph stays, and so do all links. -/
theorem Linked.relays (hp : p.Linked) (hentries : q.entries = p.entries)
    (h : p.network.Each (fun _ => Block.Relays p.Serves) q.network) : q.Linked := by
  have hsinks (k : Nat) : (q.network.sink? k).isSome = (p.network.sink? k).isSome := by
    cases hk : p.network.block? k with
    | none => simp [Network.sink?, hk, h.none hk]
    | some b =>
      obtain ⟨b', hb', hrelays⟩ := h.block k b hk
      cases hrelays <;> simp [Network.sink?, hk, hb']
  have hmembers : q.members = p.members := by rw [Pipeline.members, hentries, Pipeline.members]
  constructor
  · intro i
    have htotal : q.network.total (Block.offersOf i) = p.network.total (Block.offersOf i) := by
      refine h.total fun j b b' hrelays => ?_
      cases hrelays with
      | source => rfl
      | sink offers => exact offers i
      | stage => rfl
    have hsubmitting : q.network.submittingAt i = p.network.submittingAt i := by
      cases hi : p.network.block? i with
      | none => simp [Network.submittingAt, Network.source?, hi, h.none hi]
      | some b =>
        obtain ⟨b', hb', hrelays⟩ := h.block i b hi
        cases hrelays with
        | source targets submitting wired =>
          simp [Network.submittingAt, Network.source?, hi, hb', submitting]
        | sink offers => simp [Network.submittingAt, Network.source?, hi, hb']
        | stage => simp [Network.submittingAt, Network.source?, hi, hb']
    rw [htotal, hsubmitting]
    exact hp.offers i
  · intro i b' hb'
    obtain ⟨b, hb, hrelays⟩ := h.source hb'
    exact (hp.links i b hb).relays (serves_congr hentries hsinks) hmembers hrelays

/-- One block is replaced by another one with good links. -/
lemma Linked.set (hp : p.Linked) {s : Network ω γ π} (hb : p.network.block? i = some b)
    (h : b.Relays p.Serves b') (hs : s.blocks = p.network.blocks.set i b') :
    Linked { p with network := s } :=
  hp.relays rfl (Network.each_of_set hs hb h fun _ => .refl)

lemma Linked.blocks_eq (hp : p.Linked) (hentries : q.entries = p.entries)
    (hblocks : q.network.blocks = p.network.blocks) : q.Linked :=
  hp.relays hentries (Network.each_of_blocks_eq hblocks fun _ => .refl)

/-- An offer of a source waits at a sink of the graph, and the source waits for the answer. -/
lemma Linked.submitting (hp : p.Linked) {y : SinkBlock π}
    (hy : p.network.block? k = some (.sink y)) {o : Offer} (ho : o ∈ y.engine.pending)
    (hproducer : o.producer = .source i) :
    k ∈ p.members ∧ ∃ x f rest, p.network.block? i = some (.source x) ∧
      x.thread = .submitting f rest := by
  have hlinks : ∀ j, Block.offersOf j (.sink y : Block γ π) ≠ 0 → k ∈ p.members := hp.links k _ hy
  have hpos : 0 < y.engine.pending.countP (·.producer = .source i) :=
    List.countP_pos_iff.2 ⟨o, ho, by simp [hproducer]⟩
  exact ⟨hlinks i (Nat.ne_of_gt hpos), Network.submitting_of_offer (hp.offers i) hy ho hproducer⟩

/-! ### Moves -/

section Moves

variable {s : Network ω γ π} {x x' : SourceBlock γ} {y y' : SinkBlock π}

/-- Something passes between a source and a sink of the graph. -/
lemma Linked.exchange (hp : p.Linked) (h : Exchange p s i k x x' y y') (hk : k ∈ p.members) :
    Linked { p with network := s } := by
  have hserves : Serves { p with network := s } = p.Serves := serves_congr rfl h.same.sinks
  refine ⟨fun j => h.offers (hp.offers j), fun j b hb => ?_⟩
  by_cases hji : j = i
  · subst hji
    obtain rfl : b = .source x' := by simpa [h.source'] using hb.symm
    obtain ⟨htargets, hwired⟩ := hp.source h.source
    refine ⟨?_, fun hj => ?_⟩
    · rw [hserves]
      exact fun l hl => htargets l (h.passes.targets hl)
    · rw [hserves, SourceBlock.Wired, h.passes.consumer]
      exact hwired hj
  · by_cases hjk : j = k
    · subst hjk
      obtain rfl : b = .sink y' := by simpa [h.sink'] using hb.symm
      exact fun _ _ => hk
    · exact (hp.links j b ((h.other hji hjk).symm.trans hb)).relays hserves rfl (.refl b)

/-- A thread that has nothing in its hands before and after. -/
lemma relays_of_frame? (hx : x.thread.isSubmitting = false)
    (hx' : x'.thread.isLooping = true ∨ x'.thread = .ended)
    (hwired : x.Wired p.Serves → x'.Wired p.Serves) :
    (.source x : Block γ π).Relays p.Serves (.source x') := by
  obtain ⟨-, htargets, hsubmitting⟩ := SourceThread.frame?_of_isLooping hx'
  refine .source (fun _ => ?_) (hsubmitting.trans hx.symm) hwired
  rw [htargets]
  exact serves_nil

lemma Linked.turn [Generator γ] (hp : p.Linked) (horderly : p.Orderly)
    (hx : p.network.block? i = some (.source x)) (hturn : x.Turn x')
    (hs : s.blocks = p.network.blocks.set i (.source x')) : Linked { p with network := s } := by
  have hends (h : x'.thread = .checking ∨ x'.thread = .ended) :
      x'.thread.isLooping = true ∨ x'.thread = .ended :=
    h.imp_left fun h => by rw [h]; rfl
  have hkeeps (h : x'.engine.consumer = x.engine.consumer) (hwired : x.Wired p.Serves) :
      x'.Wired p.Serves := by
    rwa [SourceBlock.Wired, h]
  cases hturn with
  | loops hb hthread _ _ hconsumer _ =>
    have hframe := SourceThread.frame?_of_isLooping (.inl hb)
    exact hp.set hx (relays_of_frame? hframe.2.2 hthread (hkeeps hconsumer)) hs
  | @begins _ _ targets _ hb hconsumer _ hthread _ hconsumer' =>
    -- a source with a thread belongs to the graph, so its consumer is a good one
    obtain ⟨hmem, -⟩ := horderly i x hx (by simp [hb])
    have hserved : p.Serves targets := by
      rcases (hp.source hx).2 hmem with hnone | ⟨targets', heq, hserved⟩
      · simp [hconsumer] at hnone
      · obtain rfl : targets = targets' := by simpa [hconsumer] using heq
        exact hserved
    refine hp.set hx (.source (fun _ => ?_) ?_ (hkeeps hconsumer')) hs
    · rw [hthread]
      exact hserved
    · rw [hthread, hb]
      rfl
  | taps hb hconsumer hthread _ _ =>
    refine hp.set hx (relays_of_frame? (by rw [hb]; rfl) (hends hthread) ?_) hs
    rintro (hnone | ⟨targets, hfanOut, -⟩)
    · simp [hconsumer] at hnone
    · simp [hconsumer] at hfanOut
  | counts hb hthread _ hconsumer _ =>
    exact hp.set hx (relays_of_frame? (by rw [hb]; rfl) (hends hthread) (hkeeps hconsumer)) hs

/-- A sink answers a source, or somebody from outside. -/
lemma Linked.answers (hp : p.Linked) (horderly : p.Orderly)
    (hy : p.network.block? k = some (.sink y)) {o : Offer} {e : SinkEngine} {m : Move}
    (hpick : y.engine.Picks k m o e) (hanswer : (e.consider o).1 ≠ .waits) (r : Except Error Unit)
    (hs : s.blocks = ((p.network.setSink k { y with engine := (e.consider o).2 }).answer
      o.producer r).blocks) : Linked { p with network := s } := by
  have ho : o ∈ y.engine.pending := hpick.pending.mem_iff.2 List.mem_cons_self
  cases hproducer : o.producer with
  | caller c =>
    rw [hproducer] at hs
    refine hp.set hy (.sink fun i => ?_) hs
    simp only [Block.offersOf, SinkEngine.pending_of_answer hanswer]
    rw [hpick.pending.countP_eq, List.countP_cons]
    simp [hproducer]
  | source i =>
    obtain ⟨hk, x, f, rest, hx, hthread⟩ := hp.submitting hy ho hproducer
    obtain ⟨-, hup⟩ := horderly i x hx (by simp [hthread])
    have hsinkUp : (Block.sink y : Block γ π).Up := hup k hk y hy
    have hstop : y.engine.stopping = false := hsinkUp.isOpen.1
    have hs' : s.blocks = (p.network.blocks.set k
        (.sink { y with engine := (e.consider o).2 })).set i
          (.source { x with thread := .delivering f rest }) := by
      rw [hs, hproducer, Network.blocks_answer_source hx hy hthread]
    exact hp.exchange ⟨hx, hy, hs', passes_of_answer hthread hpick hproducer hstop hanswer⟩ hk

theorem Linked.move [Generator γ] [Processor ω π] {m : Move} (hp : p.Linked)
    (horderly : p.Orderly) (h : p.network.Effect m s) : Linked { p with network := s } := by
  cases h with
  | tick _ hs => exact hp.blocks_eq rfl hs
  | deny _ hs => exact hp.blocks_eq rfl hs
  | source hx hturn hs => exact hp.turn horderly hx hturn hs
  | @skips _ _ x f k rest hx hthread _ hs =>
    have hrelays : (.source x : Block γ π).Relays p.Serves
        (.source { x with thread := .delivering f rest }) := by
      refine .source (fun hserved l hl => hserved l ?_) (by rw [hthread]; rfl) id
      rw [hthread]
      exact List.mem_cons_of_mem k hl
    exact hp.set hx hrelays hs
  | @hands _ _ x f k rest y hx hthread hy _ hs =>
    have hk := ((hp.source hx).1 k (by simp [hthread])).1
    exact hp.exchange ⟨hx, hy, hs, passes_of_hands y.engine hthread⟩ hk
  | seeks hy hworker hs =>
    exact hp.set hy (Block.relays_of_pending (SinkEngine.seek_tallies hworker).pending) hs
  | begins hy hworker hs =>
    exact hp.set hy (Block.relays_of_pending (SinkEngine.begin_tallies hworker).pending) hs
  | finishes _ hy hworker hs =>
    exact hp.set hy (Block.relays_of_pending (SinkEngine.finish_tallies hworker _ _).pending) hs
  | waits hy hpick hwaits hs =>
    exact hp.set hy (Block.relays_of_pending (hpick.waits_tallies hwaits).pending) hs
  | answers r hy hpick hanswer hs => exact hp.answers horderly hy hpick hanswer r hs

end Moves

/-! ### Interventions -/

/-- A caller from outside comes with a frame. -/
lemma relays_approach {y : SinkBlock π} (c : Nat) (f : Frame) :
    (.sink y : Block γ π).Relays p.Serves
      (.sink { y with engine := y.engine.approach ⟨.caller c, f⟩ }) := by
  refine .sink fun i => ?_
  simp only [Block.offersOf, (y.engine.pending_approach _).countP_eq, List.countP_cons]
  simp

/-- Others may come with frames of their own, change settings and make blocks fail. -/
theorem Linked.intervention (hp : p.Linked) {s : Network ω γ π} (h : p.network.Intervention s) :
    Linked { p with network := s } := by
  cases h with
  | offer i b =>
    unfold Network.offer
    split
    · exact hp.blocks_eq rfl rfl
    · rename_i y hy
      rw [Network.sink?_eq_some] at hy
      dsimp only
      split
      · exact hp.blocks_eq rfl rfl
      · exact hp.set hy (relays_approach _ _) rfl
  | offerFrame i f =>
    unfold Network.offerFrame
    split
    · exact hp.blocks_eq rfl rfl
    · rename_i y hy
      rw [Network.sink?_eq_some] at hy
      split
      · exact hp.blocks_eq rfl rfl
      · exact hp.set hy (relays_approach _ _) rfl
  | setMaxDepth i depth =>
    unfold Network.setMaxDepth
    split
    · exact hp.blocks_eq rfl rfl
    · rename_i y hy
      refine hp.set (Network.sink?_eq_some.1 hy) (Block.relays_of_pending (.of_eq ?_)) rfl
      exact y.engine.pending_setMaxDepth depth
  | setPolicy i policy =>
    unfold Network.setPolicy
    split
    · exact hp.blocks_eq rfl rfl
    · rename_i y hy
      refine hp.set (Network.sink?_eq_some.1 hy) (Block.relays_of_pending (.of_eq ?_)) rfl
      exact y.engine.pending_setPolicy policy
  | fail i message =>
    cases hb : p.network.block? i with
    | none => exact hp.blocks_eq rfl (by simp [Network.fail, hb])
    | some b => exact hp.set hb (Block.relays_mapCore _) (Network.blocks_fail hb message)

/-! ### Deeds -/

/-- When there is no graph, no source has a frame in its hands. -/
lemma Linked.cleared (hp : p.Linked) (hq : Orderly { p with entries := [] }) :
    Linked { p with entries := [] } := by
  have habsent {i : Nat} {x : SourceBlock γ} (hx : p.network.block? i = some (.source x)) :
      x.thread = .absent := by
    by_contra hthread
    obtain ⟨hmem, -⟩ := hq i x hx hthread
    cases hmem
  refine ⟨hp.offers, fun i b hb => ?_⟩
  cases b with
  | source x =>
    refine ⟨?_, nofun⟩
    rw [habsent hb]
    exact serves_nil
  | sink y =>
    intro j hj
    obtain ⟨o, ho, hproducer⟩ := List.countP_pos_iff.1 (Nat.pos_of_ne_zero hj)
    obtain ⟨-, x, f, rest, hx, hthread⟩ := hp.submitting hb ho (by simpa using hproducer)
    simp [habsent hx] at hthread
  | stage z => trivial

/-- A block that is made has no links. -/
lemma Linked.makes (hp : p.Linked) {name : String} (hb : b.Fresh)
    (hblocks : q.network.blocks = p.network.blocks ++ [b])
    (hentries : q.entries = p.entries ++ [(name, p.network.blocks.length)]) : q.Linked := by
  have hmembers := members_append hentries
  have hserves {targets : List Nat} (h : p.Serves targets) : q.Serves targets :=
    fun k hk => sink_append hblocks hentries (h k hk)
  constructor
  · intro i
    rw [total_append hblocks, hb.offersOf, submittingAt_append hblocks hb]
    exact hp.offers i
  · intro i c hc
    rw [Network.block?_of_append hblocks] at hc
    split_ifs at hc with hnew
    · obtain rfl : b = c := by simpa using hc
      cases b with
      | source x =>
        refine ⟨?_, fun _ => .inl hb.consumer⟩
        rw [hb.thread]
        exact serves_nil
      | sink y => exact fun j hj => absurd (Block.Fresh.offersOf (γ := γ) (b := .sink y) hb j) hj
      | stage z => trivial
    · have hold := hp.links i c hc
      cases c with
      | source x =>
        refine ⟨hserves hold.1, fun hi => ?_⟩
        rw [hmembers, List.mem_append, List.mem_singleton] at hi
        exact (hold.2 (hi.resolve_right hnew)).imp_right fun ⟨targets, hconsumer, hserved⟩ =>
          ⟨targets, hconsumer, hserves hserved⟩
      | sink y =>
        intro j hj
        rw [hmembers]
        exact List.mem_append_left _ (hold j hj)
      | stage z => trivial

/-- Each step of a call keeps all links good. -/
theorem Linked.deed (hp : p.Linked) (hregistry : p.registry.Makes Block.Fresh) (h : p.Deed q)
    (hq : q.Orderly) : q.Linked := by
  have hstep {i : Nat} {s : Network ω γ π} {G : Block γ π → Block γ π → Prop}
      (h : Network.StepAt G i p.network s)
      (hG : ∀ b b', G b b' → b.Tallies (fun _ => False) b') : Linked { p with network := s } := by
    have htallies : p.network.Tallies (fun _ _ => False) s := h.tallies hG
    exact hp.relays rfl (htallies.each.mono fun _ _ _ h => h.relays fun _ => False.elim)
  cases h with
  | notes hblocks hentries _ _ => exact hp.blocks_eq hentries hblocks
  | describes config hentries => exact hp.blocks_eq rfl rfl
  | forgets => exact hp.cleared hq
  | controls i h => exact hstep h fun _ _ => Block.Control.tallies
  | configures i h => exact hstep h fun _ _ => Block.Configures.tallies
  | makes hc hb _ hblocks hentries _ _ =>
    refine hp.makes (Block.Fresh.mapCore ?_ ?_) hblocks hentries
    · exact hregistry _ _ _ _ _ hc hb
    · exact fun _ => rfl
  | connects h =>
    exact hp.relays rfl (h.tallies.each.mono fun _ _ _ h => h.relays fun _ hrouted => hrouted.sinks)

/-- Forgetting statistics does not concern links. -/
lemma Linked.resets (hp : p.Linked) (i : Nat) :
    Linked (p.mapNetwork fun s => s.mapCore i BlockCore.resetStats) := by
  cases hb : p.network.block? i with
  | none => exact hp.blocks_eq rfl (by simp [mapNetwork, Network.mapCore, hb])
  | some b => exact hp.set hb (Block.relays_mapCore _) (Network.blocks_mapCore hb _)

end Pipeline

end FrameGraph
