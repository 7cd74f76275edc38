import FrameGraph.Proofs.Network.Tally
import FrameGraph.Proofs.Pipeline.Deeds

/-!
# The balance of a pipeline

Each frame with which a source has begun goes once over each connection that starts at the source.
It was taken in by the sink at the other end, or it waits there for an answer, or the source still
has to hand it over. Threads and calls keep this balance, unless a sink fails or a source emits a
frame without a payload.
-/

namespace FrameGraph

/-- The buffer has a payload, which fits its region. -/
def FrameBuffer.Loaded (b : FrameBuffer) : Prop := b.isValid = true ∧ b.size ≠ 0

namespace Pipeline

variable {ω γ π : Type} {p q : Pipeline ω γ π} {i k : Nat}

/-! ### What connections carry -/

/-- A quantity of the source of each connection that ends at a position, added up. -/
def inflow (p : Pipeline ω γ π) (quantity : Nat → Nat) (k : Nat) : Nat :=
  (p.config.connections.map fun c =>
    if p.find? c.sink = some k then (p.find? c.source).elim 0 quantity else 0).sum

/-- One more at the source of connections is one more for each of them. -/
lemma inflow_succ {f g : Nat → Nat} (hi : g i = f i + 1) (hne : ∀ j, j ≠ i → g j = f j) :
    p.inflow g k = p.inflow f k + p.links i k := by
  simp only [inflow, links, linksOf]
  induction p.config.connections with
  | nil => rfl
  | cons c cs ih =>
    rw [List.map_cons, List.map_cons, List.sum_cons, List.sum_cons, ih, List.countP_cons]
    by_cases hsink : p.find? c.sink = some k
    · cases hsource : p.find? c.source with
      | none => simp [hsink]
      | some j =>
        by_cases hj : j = i
        · subst hj
          simp [hsink, hi]
          omega
        · simp [hsink, hj, hne j hj]
          omega
    · simp [hsink]

/-! ### The balance -/

/-- What is known of a source. -/
structure SourceFair (p : Pipeline ω γ π) (i : Nat) (x : SourceBlock γ) : Prop where
  frame : ∀ f, x.thread.frame? = some f → f.buffer.Loaded
  offered : ∀ buffer, x.thread = .offering buffer → buffer.isValid = true
  targets : ∀ k ∈ x.thread.targets, k ∈ p.members ∧ (p.network.sink? k).isSome
  consumer : i ∈ p.members → x.engine.consumer = none ∨
    ∃ targets, x.engine.consumer = some (.fanOut targets) ∧ p.Routed i targets

/-- What is known of a sink. -/
structure SinkFair (p : Pipeline ω γ π) (k : Nat) (e : SinkEngine) : Prop where
  pending : ∀ o ∈ e.pending, k ∈ p.members ∧ ∃ i, o.producer = .source i
  rested : e.Rested

/-- What is known of a block. -/
def Fair (p : Pipeline ω γ π) (i : Nat) : Block γ π → Prop
  | .source x => p.SourceFair i x
  | .sink y => p.SinkFair i y.engine
  | .stage _ => True

/-- What the connections to a sink carried is what it took in, what waits there, and what is still
to be handed to it. -/
def Accounted (p : Pipeline ω γ π) (k : Nat) (e : SinkEngine) : Prop :=
  p.inflow p.network.begunAt k = e.intake + e.pending.length + p.network.total (Block.owed k)

/-- No frame is lost between sources and sinks. -/
structure Balanced (p : Pipeline ω γ π) : Prop where
  placed : ∀ i ∈ p.members, i < p.network.blocks.length
  accounts : ∀ k ∈ p.members, ∀ y, p.network.block? k = some (.sink y) → p.Accounted k y.engine
  offers : ∀ i, p.network.total (Block.offersOf i) = p.network.submittingAt i
  resolved : ∀ i ∈ p.members, p.network.begunAt i ≠ 0 → p.Resolved
  fair : p.network.All p.Fair

/-! ### Pipelines with the same graph -/

/-- The graph is the same, and sinks are where they were. -/
structure Same (p q : Pipeline ω γ π) : Prop where
  entries : q.entries = p.entries
  config : q.config = p.config
  length : q.network.blocks.length = p.network.blocks.length
  sinks : ∀ k, (q.network.sink? k).isSome = (p.network.sink? k).isSome

namespace Same

variable {targets : List Nat}

lemma members (h : p.Same q) : q.members = p.members := by
  rw [Pipeline.members, h.entries, Pipeline.members]

lemma find? (h : p.Same q) : q.find? = p.find? := by
  funext name
  rw [Pipeline.find?, h.entries, Pipeline.find?]

lemma inflow (h : p.Same q) : q.inflow = p.inflow := by
  funext f k
  simp only [Pipeline.inflow, h.config, h.find?]

lemma resolved (h : p.Same q) (hp : p.Resolved) : q.Resolved := by
  intro c hc
  rw [h.find?]
  exact hp c (h.config ▸ hc)

lemma routed (h : p.Same q) (hp : p.Routed i targets) : q.Routed i targets where
  resolved := h.resolved hp.resolved
  links k := by
    rw [hp.links, links, links, linksOf, linksOf, h.config, h.find?]
  sinks k hk := by
    rw [h.members, h.sinks]
    exact hp.sinks k hk

lemma fair {b : Block γ π} (h : p.Same q) (hb : p.Fair i b) : q.Fair i b := by
  cases b with
  | source x =>
    refine ⟨hb.frame, hb.offered, ?_, ?_⟩
    · intro k hk
      rw [h.members, h.sinks]
      exact hb.targets k hk
    · intro hi
      rw [h.members] at hi
      apply (hb.consumer hi).imp_right
      rintro ⟨targets, hconsumer, hrouted⟩
      exact ⟨targets, hconsumer, h.routed hrouted⟩
  | sink y =>
    refine ⟨?_, hb.rested⟩
    intro o ho
    rw [h.members]
    exact hb.pending o ho
  | stage z => trivial

end Same

lemma same_of_tallies (hentries : q.entries = p.entries) (hconfig : q.config = p.config)
    (h : p.network.Tallies p.Routed q.network) : p.Same q :=
  ⟨hentries, hconfig, h.length, h.isSome_sink?⟩

lemma Fair.tallies {b b' : Block γ π} (hb : p.Fair i b) (h : b.Tallies (p.Routed i) b') :
    p.Fair i b' := by
  cases h with
  | source h =>
    refine ⟨fun f hf => hb.frame f (h.frame f hf), ?_, ?_, ?_⟩
    · intro buffer hbuffer
      exact (h.offered buffer hbuffer).elim (hb.offered buffer) id
    · rw [h.targets]
      exact hb.targets
    · intro hi
      rcases h.consumer with hconsumer | hconsumer | hrouted
      · rw [hconsumer]
        exact hb.consumer hi
      · exact .inl hconsumer
      · exact .inr hrouted
  | sink h => exact ⟨fun o ho => hb.pending o (h.pending.mem_iff.1 ho), h.rested hb.rested⟩
  | stage => trivial

/-- Nothing is taken in, begun with or handed over, and the graph stays. -/
theorem Balanced.tallies (hp : p.Balanced) (hentries : q.entries = p.entries)
    (hconfig : q.config = p.config) (h : p.network.Tallies p.Routed q.network) : q.Balanced := by
  have hsame := same_of_tallies hentries hconfig h
  have hbegun : q.network.begunAt = p.network.begunAt := funext h.begunAt
  constructor
  · intro i hi
    rw [h.length]
    exact hp.placed i (hsame.members ▸ hi)
  · intro k hk y' hy'
    obtain ⟨b, hb, htallies⟩ := h.source hy'
    cases htallies with
    | sink htallies =>
      have haccounts := hp.accounts k (hsame.members ▸ hk) _ hb
      rw [Accounted, hsame.inflow, hbegun, htallies.intake, htallies.pending.length_eq,
        h.total fun i b b' hb => hb.owed k]
      exact haccounts
  · intro i
    rw [h.total fun j b b' hb => hb.offersOf i, h.submittingAt]
    exact hp.offers i
  · intro i hi hne
    rw [hbegun] at hne
    exact hsame.resolved (hp.resolved i (hsame.members ▸ hi) hne)
  · intro i b' hb'
    obtain ⟨b, hb, htallies⟩ := h.source hb'
    exact hsame.fair ((hp.fair i b hb).tallies htallies)

end Pipeline

end FrameGraph
