import FrameGraph.Proofs.Pipeline.Transfers

/-!
# Calls keep the balance

A call takes in nothing and hands nothing over. A block that is made has no part in anything yet,
and when a graph is forgotten no source has a frame in its hands.
-/

namespace FrameGraph

/-! ### Fresh blocks -/

/-- A source that has emitted nothing. -/
structure SourceBlock.Fresh {γ : Type} (x : SourceBlock γ) : Prop where
  thread : x.thread = .absent
  consumer : x.engine.consumer = none
  processed : x.core.stats.processed = 0

/-- A sink to which nothing was offered. -/
structure SinkEngine.Fresh (e : SinkEngine) : Prop where
  worker : e.worker = .absent
  queue : e.queue = []
  pending : e.pending = []
  processed : e.core.stats.processed = 0
  dropped : e.core.stats.dropped = 0

namespace Block

variable {γ π : Type} {b b' : Block γ π}

/-- A source or a sink that had no part in anything. -/
def Fresh : Block γ π → Prop
  | .source x => x.Fresh
  | .sink y => y.engine.Fresh
  | .stage _ => False

lemma Fresh.mapCore (h : b.Fresh) {f : BlockCore → BlockCore} (hf : ∀ c, (f c).stats = c.stats) :
    (b.mapCore f).Fresh := by
  cases b with
  | source x =>
    refine ⟨h.thread, h.consumer, ?_⟩
    have hstats : (x.mapCore f).core.stats = x.core.stats := hf _
    rw [hstats]
    exact h.processed
  | sink y =>
    have hstats : (y.mapCore f).engine.core.stats = y.engine.core.stats := hf _
    refine ⟨h.worker, h.queue, h.pending, ?_, ?_⟩
    · rw [hstats]
      exact h.processed
    · rw [hstats]
      exact h.dropped
  | stage z => exact h

lemma Fresh.threaded (h : b.Fresh) : b.Threaded := by
  cases b with
  | source x => trivial
  | sink y => trivial
  | stage z => exact h.elim

lemma Fresh.begun (h : b.Fresh) : b.begun = 0 := by
  cases b with
  | source x => simp [Block.begun, SourceBlock.begun, h.processed, h.thread, SourceThread.frame?]
  | sink y => rfl
  | stage z => rfl

lemma Fresh.owed (h : b.Fresh) (k : Nat) : b.owed k = 0 := by
  cases b with
  | source x => simp [Block.owed, h.thread, SourceThread.targets]
  | sink y => rfl
  | stage z => rfl

lemma Fresh.offersOf (h : b.Fresh) (i : Nat) : b.offersOf i = 0 := by
  cases b with
  | source x => rfl
  | sink y => simp [Block.offersOf, h.pending]
  | stage z => rfl

lemma Joins.tallies {routed : List Nat → Prop} (h : b.Joins routed b') : b.Tallies routed b' := by
  cases h with
  | same => exact .refl b
  | sink => exact .sink ⟨rfl, .refl _, id⟩
  | @source x targets h => exact .source (.of_thread rfl rfl (.inr (.inr ⟨targets, rfl, h⟩)))

end Block

namespace Network

variable {ω γ π : Type} {s t : Network ω γ π}

lemma Joins.tallies {routed : Nat → List Nat → Prop} (h : s.Joins routed t) :
    s.Tallies routed t := by
  refine ⟨h.length, ?_⟩
  intro i b hb
  obtain ⟨b', hb', hjoins⟩ := h.block i b hb
  exact ⟨b', hb', hjoins.tallies⟩

end Network

namespace Pipeline

variable {ω γ π : Type} {p q : Pipeline ω γ π} {i k : Nat}

/-! ### A graph is forgotten -/

/-- When there is no graph, no source has a frame in its hands. -/
lemma Balanced.cleared (hp : p.Balanced) (hblocks : q.network.blocks = p.network.blocks)
    (hentries : q.entries = []) (hq : q.Orderly) : q.Balanced := by
  have hmembers : q.members = [] := by simp [Pipeline.members, hentries]
  have hblock := Network.block?_of_blocks_eq hblocks
  have habsent {i : Nat} {x : SourceBlock γ} (hx : p.network.block? i = some (.source x)) :
      x.thread = .absent := by
    by_contra hthread
    obtain ⟨hmem, -⟩ := hq i x ((hblock i).trans hx) hthread
    simp [hmembers] at hmem
  have htallies : p.network.Tallies p.Routed q.network := Network.tallies_of_blocks_eq hblocks
  refine ⟨by simp [hmembers], by simp [hmembers], fun i => ?_, by simp [hmembers], fun i b hb => ?_⟩
  · rw [htallies.total fun j b b' hb => hb.offersOf i, htallies.submittingAt]
    exact hp.offers i
  · rw [hblock i] at hb
    cases b with
    | source x =>
      have hthread := habsent hb
      exact ⟨by simp [hthread, SourceThread.frame?], by simp [hthread],
        by simp [hthread, SourceThread.targets], by simp [hmembers]⟩
    | sink y =>
      have hfair : p.SinkFair i y.engine := hp.fair i _ hb
      refine ⟨?_, hfair.rested⟩
      intro o ho
      obtain ⟨-, j, x, f, rest, -, hx, hthread⟩ := submitting_of_pending hp hb ho
      simp [habsent hx] at hthread
    | stage z => trivial

/-! ### A block is made -/

section Makes

variable {name : String} {b : Block γ π}

lemma find?_of_append (hentries : q.entries = p.entries ++ [(name, i)]) {other : String} {j : Nat}
    (h : p.find? other = some j) : q.find? other = some j := by
  rw [Pipeline.find?, hentries, List.lookup_append]
  rw [Pipeline.find?] at h
  simp [h]

lemma find?_append (hentries : q.entries = p.entries ++ [(name, i)]) {other : String} {j : Nat}
    (h : q.find? other = some j) : p.find? other = some j ∨ j = i := by
  rw [Pipeline.find?, hentries, List.lookup_append] at h
  cases hp : p.entries.lookup other with
  | some l =>
    rw [hp] at h
    exact .inl (hp.trans (by simpa using h))
  | none =>
    rw [hp] at h
    by_cases hname : other = name
    · exact .inr (by simpa [hname] using h.symm)
    · have hne : (other == name) = false := by simpa using hname
      simp [List.lookup_cons, hne] at h

lemma find?_of_resolved (hentries : q.entries = p.entries ++ [(name, i)]) (h : p.Resolved)
    {c : Connection} (hc : c ∈ p.config.connections) :
    q.find? c.source = p.find? c.source ∧ q.find? c.sink = p.find? c.sink := by
  obtain ⟨hsource, hsink⟩ := h c hc
  obtain ⟨i, hi⟩ := Option.isSome_iff_exists.1 hsource
  obtain ⟨k, hk⟩ := Option.isSome_iff_exists.1 hsink
  rw [hi, hk]
  exact ⟨find?_of_append hentries hi, find?_of_append hentries hk⟩

lemma members_append (hentries : q.entries = p.entries ++ [(name, i)]) :
    q.members = p.members ++ [i] := by
  simp [Pipeline.members, hentries]

lemma total_append (hblocks : q.network.blocks = p.network.blocks ++ [b]) (f : Block γ π → Nat) :
    q.network.total f = p.network.total f + f b := by
  simp [Network.total, hblocks]

lemma begunAt_append (hblocks : q.network.blocks = p.network.blocks ++ [b]) (hb : b.Fresh) :
    q.network.begunAt = p.network.begunAt := by
  funext i
  rw [Network.begunAt, Network.begunAt, Network.block?_of_append hblocks]
  split_ifs with hi
  · simp [hi, Network.block?, hb.begun]
  · rfl

lemma submittingAt_append (hblocks : q.network.blocks = p.network.blocks ++ [b]) (hb : b.Fresh) :
    q.network.submittingAt i = p.network.submittingAt i := by
  rw [Network.submittingAt, Network.submittingAt, Network.source?, Network.source?,
    Network.block?_of_append hblocks]
  split_ifs with hi
  · cases b with
    | source x => simp [hi, Network.block?, hb.thread, SourceThread.isSubmitting]
    | sink y => simp [hi, Network.block?]
    | stage z => simp [hi, Network.block?]
  · rfl

/-- A new block has no part in what connections carried: if one of them was not made yet, nothing
was begun with. -/
lemma Balanced.inflow_append (hp : p.Balanced)
    (hentries : q.entries = p.entries ++ [(name, p.network.blocks.length)])
    (hconfig : q.config = p.config) (k : Nat) :
    q.inflow p.network.begunAt k = p.inflow p.network.begunAt k := by
  simp only [inflow, hconfig]
  refine congrArg List.sum (List.map_congr_left ?_)
  intro c hc
  by_cases hresolved : p.Resolved
  · obtain ⟨hsource, hsink⟩ := find?_of_resolved hentries hresolved hc
    rw [hsource, hsink]
  · have hmembers {i : Nat} (hi : i ∈ p.members) : p.network.begunAt i = 0 := by
      by_contra hne
      exact hresolved (hp.resolved i hi hne)
    have hzero : (p.find? c.source).elim 0 p.network.begunAt = 0 := by
      cases hi : p.find? c.source with
      | none => rfl
      | some i => exact hmembers (mem_members_of_find? hi)
    have hzero' : (q.find? c.source).elim 0 p.network.begunAt = 0 := by
      cases hi : q.find? c.source with
      | none => rfl
      | some i =>
        rcases find?_append hentries hi with hi | rfl
        · exact hmembers (mem_members_of_find? hi)
        · simp [Network.begunAt, Network.block?]
    simp [hzero, hzero']

/-- No connection that was made leads to a new block. -/
lemma Balanced.inflow_new (hp : p.Balanced) (f : Nat → Nat) :
    p.inflow f p.network.blocks.length = 0 := by
  apply List.sum_eq_zero
  intro l hl
  obtain ⟨c, -, rfl⟩ := List.mem_map.1 hl
  apply if_neg
  intro hsink
  have hlt := hp.placed _ (mem_members_of_find? hsink)
  omega

/-- No frame has yet to be handed to a new block. -/
lemma Balanced.owed_new (hp : p.Balanced) :
    p.network.total (Block.owed p.network.blocks.length) = 0 := by
  apply List.sum_eq_zero
  intro l hl
  obtain ⟨b, hb, rfl⟩ := List.mem_map.1 hl
  obtain ⟨i, hi⟩ := List.mem_iff_getElem?.1 hb
  cases b with
  | source x =>
    have hfair : p.SourceFair i x := hp.fair i _ hi
    apply List.count_eq_zero.2
    intro hmem
    have hlt := hp.placed _ (hfair.targets _ hmem).1
    omega
  | sink y => rfl
  | stage z => rfl

lemma sink_append (hblocks : q.network.blocks = p.network.blocks ++ [b])
    (hentries : q.entries = p.entries ++ [(name, p.network.blocks.length)])
    (hk : k ∈ p.members ∧ (p.network.sink? k).isSome) :
    k ∈ q.members ∧ (q.network.sink? k).isSome := by
  obtain ⟨y, hy⟩ := Option.isSome_iff_exists.1 hk.2
  rw [Network.sink?_eq_some] at hy
  have hne : k ≠ p.network.blocks.length := (List.getElem?_eq_some_iff.1 hy).1.ne
  have hq : q.network.sink? k = some y := by
    rw [Network.sink?_eq_some, Network.block?_of_append hblocks, if_neg hne, hy]
  rw [members_append hentries, hq]
  exact ⟨List.mem_append_left _ hk.1, rfl⟩

lemma routed_append (hblocks : q.network.blocks = p.network.blocks ++ [b])
    (hentries : q.entries = p.entries ++ [(name, p.network.blocks.length)])
    (hconfig : q.config = p.config) {targets : List Nat} (h : p.Routed i targets) :
    q.Routed i targets := by
  constructor
  · intro c hc
    rw [hconfig] at hc
    obtain ⟨hsource, hsink⟩ := find?_of_resolved hentries h.resolved hc
    rw [hsource, hsink]
    exact h.resolved c hc
  · intro k
    rw [h.links, links, links, linksOf, linksOf, hconfig]
    apply List.countP_congr
    intro c hc
    obtain ⟨hsource, hsink⟩ := find?_of_resolved hentries h.resolved hc
    rw [hsource, hsink]
  · intro k hk
    exact sink_append hblocks hentries (h.sinks k hk)

lemma Fair.append (hblocks : q.network.blocks = p.network.blocks ++ [b])
    (hentries : q.entries = p.entries ++ [(name, p.network.blocks.length)])
    (hconfig : q.config = p.config) {c : Block γ π} (hi : i ≠ p.network.blocks.length)
    (h : p.Fair i c) : q.Fair i c := by
  have hmembers := members_append hentries
  cases c with
  | source x =>
    refine ⟨h.frame, h.offered, fun k hk => sink_append hblocks hentries (h.targets k hk),
      ?_⟩
    intro hmem
    rw [hmembers, List.mem_append, List.mem_singleton] at hmem
    apply (h.consumer (hmem.resolve_right hi)).imp_right
    rintro ⟨targets, hconsumer, hrouted⟩
    exact ⟨targets, hconsumer, routed_append hblocks hentries hconfig hrouted⟩
  | sink y =>
    refine ⟨?_, h.rested⟩
    intro o ho
    rw [hmembers]
    exact (h.pending o ho).imp_left (List.mem_append_left _)
  | stage z => trivial

lemma Fair.of_fresh (h : b.Fresh) : q.Fair i b := by
  cases b with
  | source x =>
    refine ⟨fun f hf => ?_, by simp [h.thread], fun k hk => ?_, fun _ => .inl h.consumer⟩
    · simp [h.thread, SourceThread.frame?] at hf
    · simp [h.thread, SourceThread.targets] at hk
  | sink y =>
    refine ⟨?_, fun _ => h.queue⟩
    intro o ho
    simp [h.pending] at ho
  | stage z => trivial

/-- A block that is made has no part in the balance. -/
lemma Balanced.makes (hp : p.Balanced) (hb : b.Fresh)
    (hblocks : q.network.blocks = p.network.blocks ++ [b])
    (hentries : q.entries = p.entries ++ [(name, p.network.blocks.length)])
    (hconfig : q.config = p.config) : q.Balanced := by
  have hmembers := members_append hentries
  have hbegun := begunAt_append hblocks hb
  have hlookup := Network.block?_of_append hblocks
  constructor
  · intro i hi
    rw [hmembers, List.mem_append, List.mem_singleton] at hi
    rw [hblocks, List.length_append, List.length_singleton]
    rcases hi with hi | rfl
    · exact Nat.lt_succ_of_lt (hp.placed i hi)
    · exact Nat.lt_succ_self _
  · intro k hk y hy
    rw [Accounted, hbegun, hp.inflow_append hentries hconfig, total_append hblocks, hb.owed,
      Nat.add_zero]
    rw [hlookup] at hy
    split_ifs at hy with hnew
    · obtain rfl : b = .sink y := by simpa using hy
      have hintake : y.engine.intake = 0 := by
        simp [SinkEngine.intake, hb.processed, hb.dropped, hb.queue, hb.worker]
      rw [hnew, hp.inflow_new, hp.owed_new, hintake, hb.pending]
      rfl
    · rw [hmembers, List.mem_append, List.mem_singleton] at hk
      exact hp.accounts k (hk.resolve_right hnew) y hy
  · intro i
    rw [total_append hblocks, hb.offersOf, submittingAt_append hblocks hb]
    exact hp.offers i
  · intro i hi hne
    rw [hbegun] at hne
    rw [hmembers, List.mem_append, List.mem_singleton] at hi
    rcases hi with hi | rfl
    · intro c hc
      rw [hconfig] at hc
      have hresolved := hp.resolved i hi hne
      obtain ⟨hsource, hsink⟩ := find?_of_resolved hentries hresolved hc
      rw [hsource, hsink]
      exact hresolved c hc
    · simp [Network.begunAt, Network.block?] at hne
  · intro i c hc
    rw [hlookup] at hc
    split_ifs at hc with hnew
    · obtain rfl : b = c := by simpa using hc
      exact .of_fresh hb
    · exact (hp.fair i c hc).append hblocks hentries hconfig hnew

end Makes

/-! ### All deeds -/

/-- Each step of a call keeps the balance. -/
theorem Balanced.deed (hp : p.Balanced) (hregistry : p.registry.Makes Block.Fresh) (h : p.Deed q)
    (hq : q.Orderly) : q.Balanced := by
  cases h with
  | notes hblocks hentries hconfig _ =>
    exact hp.tallies hentries hconfig (Network.tallies_of_blocks_eq hblocks)
  | describes config hentries => exact hp.cleared rfl hentries hq
  | forgets => exact hp.cleared rfl rfl hq
  | controls i h => exact hp.tallies rfl rfl (h.tallies fun _ _ => Block.Control.tallies)
  | configures i h => exact hp.tallies rfl rfl (h.tallies fun _ _ => Block.Configures.tallies)
  | makes hc hb _ hblocks hentries hconfig _ =>
    refine hp.makes (Block.Fresh.mapCore ?_ ?_) hblocks hentries hconfig
    · exact hregistry _ _ _ _ _ hc hb
    · exact fun _ => rfl
  | connects h => exact hp.tallies rfl rfl h.tallies

end Pipeline

end FrameGraph
