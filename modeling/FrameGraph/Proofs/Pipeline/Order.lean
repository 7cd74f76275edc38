import FrameGraph.Proofs.Pipeline.Acts

/-!
# The order of starting

Along each run the positions of a graph are those of different blocks, which bear the names of the
description, in its order. A graph is started in the order of what its blocks declare: sinks first,
then blocks that declare nothing, then mere sources, and blocks that declare the same in the order
of the description.
-/

namespace FrameGraph

/-- The group in the order of starting to which a block with these capabilities belongs. -/
def Capabilities.rank (c : Capabilities) : Nat := if c.sink then 0 else if c.source then 2 else 1

lemma Capabilities.rank_lt (c : Capabilities) : c.rank < 3 := by
  unfold rank
  split_ifs <;> decide

namespace Pipeline

variable {ω γ π α : Type} {p q r : Pipeline ω γ π} {i : Nat}

/-! ### Where blocks are -/

/-- The positions of the graph are those of different blocks, and each block bears its name. -/
structure Laid (p : Pipeline ω γ π) : Prop where
  distinct : p.members.Nodup
  named : ∀ e ∈ p.entries, Network.At e.2 (fun b => b.name = e.1) p.network

/-- As long as the graph is the same, blocks that keep their names stay where they are. -/
lemma Laid.later (hp : p.Laid) (hentries : q.entries = p.entries)
    (hblocks : p.network.Each (fun _ => Block.Namesake) q.network) : q.Laid where
  distinct := by
    rw [members, hentries]
    exact hp.distinct
  named e he := by
    obtain ⟨b, hb, hname⟩ := hp.named e (hentries ▸ he)
    obtain ⟨b', hb', hnamesake⟩ := hblocks.block e.2 b hb
    exact ⟨b', hb', hnamesake.name.trans hname⟩

lemma Laid.placed (hp : p.Laid) (hi : i ∈ p.members) : Network.Placed i p.network := by
  obtain ⟨e, he, rfl⟩ := List.mem_map.1 hi
  exact (hp.named e he).mono fun _ _ => trivial

/-- The name of a block is the one under which the graph knows it. -/
lemma Laid.nameOf_mem (hp : p.Laid) (hi : i ∈ p.members) :
    (p.network.nameOf i, i) ∈ p.entries := by
  obtain ⟨e, he, rfl⟩ := List.mem_map.1 hi
  obtain ⟨b, hb, hname⟩ := hp.named e he
  simpa only [Network.nameOf, hb, hname] using he

lemma Laid.lt_length (hp : p.Laid) (hi : i ∈ p.members) : i < p.network.blocks.length := by
  obtain ⟨b, hb, -⟩ := hp.placed hi
  exact (List.getElem?_eq_some_iff.1 hb).1

lemma Laid.step (hp : p.Laid) {s : Network ω γ π}
    (h : Network.StepAt Block.Namesake i p.network s) : Laid { p with network := s } :=
  hp.later rfl h.namesakes

/-- A block that is made gets the next position. -/
lemma Laid.makeNew (hp : p.Laid) (d : BlockDef) : (makeNew d p).2.Laid := by
  unfold Pipeline.makeNew
  split
  · exact hp
  unfold make
  split
  · exact hp.later rfl (Network.each_of_blocks_eq rfl fun _ => .refl)
  rename_i b world _
  -- all members have blocks, so that the next position is none of theirs
  have hnew : p.network.blocks.length ∉ p.members := fun h => Nat.lt_irrefl _ (hp.lt_length h)
  refine ⟨?_, fun e he => ?_⟩
  · simp only [members, Network.add, List.map_append, List.map_cons, List.map_nil]
    exact List.nodup_append.2 ⟨hp.distinct, by simp, by
      rintro j hj k hk rfl
      exact hnew (List.mem_singleton.1 hk ▸ hj)⟩
  · simp only [Network.add] at he ⊢
    rcases List.mem_append.1 he with he | he
    · obtain ⟨c, hc, hname⟩ := hp.named e he
      refine ⟨c, ?_, hname⟩
      have hlt : e.2 < p.network.blocks.length := (List.getElem?_eq_some_iff.1 hc).1
      rw [Network.block?_of_append (s := p.network) rfl, if_neg (Nat.ne_of_lt hlt), hc]
    · obtain rfl := List.mem_singleton.1 he
      refine ⟨b.mapCore fun c => { c with name := d.name, listener := some "" }, ?_, ?_⟩
      · rw [Network.block?_of_append (s := p.network) rfl, if_pos rfl]
      · exact congrArg BlockCore.name (Block.core_mapCore _ b)

section Laid

variable [Generator γ] [Processor ω π]

lemma Tends.laid (h : Tends p q) (hp : p.Laid) : q.Laid := by
  cases h with
  | looks => exact hp
  | notes => exact hp.later rfl (.refl (fun _ => .refl) _)
  | tunes i hf => exact hp.step (Network.stepAt_mapCore (Block.namesake_mapCore hf) p.network)
  | closes i h => exact hp.step h.namesake
  | starts i h => exact hp.step h.namesake
  | configures i h => exact hp.step h.namesake
  | connects h =>
    have hentries : q.entries = p.entries := by rw [h.rest]
    refine hp.later hentries ⟨h.joins.length, fun i b hb => ?_⟩
    obtain ⟨b', hb', hjoins⟩ := h.joins.block i b hb
    exact ⟨b', hb', hjoins.namesake⟩

lemma Acts.laid (h : Acts p q) (hp : p.Laid) : q.Laid := by
  cases h with
  | tends h => exact h.laid hp
  | describes => exact hp.later rfl (.refl (fun _ => .refl) _)
  | forgets => exact ⟨List.nodup_nil, by simp⟩
  | makes d => exact hp.makeNew d

/-- Between the calls of a run the blocks of the graph are where they should be. -/
theorem Run.laid {registry : Registry ω (Block γ π)} (h : Run registry ⟨p, none⟩) : p.Laid := by
  have hlater (p q : Pipeline ω γ π) (hpq : p.Sways q) (hp : p.Laid) : q.Laid :=
    hp.later hpq.entries hpq.namesakes
  exact h.keeps (fun _ => ⟨List.nodup_nil, by simp [Pipeline.new]⟩) hlater
    fun _ hop => hop.acting.keeps hlater fun _ _ => Acts.laid

end Laid

/-! ### Descriptions -/

/-- The blocks of the graph are those of the description, in the order in which it names them. -/
def Described (config : GraphConfig) (p : Pipeline ω γ π) : Prop :=
  p.config = config ∧ p.blockNames = config.blocks.map (·.name)

/-- There is no graph, or it is as it was described. -/
def Faithful (p : Pipeline ω γ π) : Prop := p.entries = [] ∨ p.Described p.config

/-- What depends on the graph and its description alone. -/
def OfGraph (J : Pipeline ω γ π → Prop) : Prop :=
  ∀ p q, q.entries = p.entries → q.config = p.config → J p → J q

lemma OfGraph.sways {J : Pipeline ω γ π → Prop} (hJ : OfGraph J) (p q : Pipeline ω γ π)
    (h : p.Sways q) : J p → J q := hJ p q h.entries (by rw [h.rest])

lemma ofGraph_config (config : GraphConfig) (P : List (String × Nat) → Prop) :
    OfGraph fun p : Pipeline ω γ π => p.config = config ∧ P p.entries := by
  intro p q hentries hconfig hp
  rwa [hentries, hconfig]

lemma ofGraph_faithful : OfGraph (Faithful (ω := ω) (γ := γ) (π := π)) := by
  intro p q hentries hconfig hp
  rwa [Faithful, Described, blockNames, hentries, hconfig]

/-- A block that is made is the last one of the graph. -/
lemma makeNew_names (d : BlockDef) (p : Pipeline ω γ π) :
    (makeNew d p).2.config = p.config ∧ match (makeNew d p).1 with
      | .ok () => (makeNew d p).2.blockNames = p.blockNames ++ [d.name]
      | .error f => ∃ e, f = .error e := by
  unfold makeNew
  split
  · exact ⟨rfl, _, rfl⟩
  unfold make
  split
  · exact ⟨rfl, _, rfl⟩
  · exact ⟨rfl, by simp [blockNames]⟩

lemma teardown_empties (p : Pipeline ω γ π) : (teardown : Operation ω γ π Unit).Meets Sways
    (fun _ _ => True) (fun _ q => q.entries = []) p := by
  refine Routine.meets_get.2 fun q _ => ⟨trivial, ?_⟩
  refine .bind interference_sways ((Routine.meets_true _ q).mono (fun _ _ => id)
    (fun _ _ => id) fun _ r _ => ?_)
  exact fun s _ => ⟨trivial, fun t hst => hst.entries⟩

lemma createBlocks_names {config : GraphConfig} (hentries : p.entries = [])
    (hconfig : p.config = config) (defs : List BlockDef) :
    (createBlocks defs).Meets Sways (fun _ _ => True) (fun r q => match r with
      | .ok () => q.config = config ∧ q.blockNames = defs.map (·.name)
      | .error f => ∃ e, f = .error e) p := by
  have hlater (done : List BlockDef) := (ofGraph_config (ω := ω) (γ := γ) (π := π) config
    fun entries => entries.map (·.1) = done.map (·.name)).sways
  refine (Routine.meets_eachUntil_prefix (E := fun _ _ _ f => ∃ e, f = .error e)
    interference_sways hlater ?_ ⟨hconfig, by simp [hentries]⟩).weaken ?_
  · rintro done d rest q - hq r hqr
    obtain ⟨hconfig, hnames⟩ := hlater done q r hqr hq
    obtain ⟨hsame, hresult⟩ := makeNew_names d r
    refine ⟨trivial, fun s hrs => ?_⟩
    cases hmade : (makeNew d r).1 with
    | error f => simpa [hmade] using hresult
    | ok _ =>
      simp only [hmade] at hresult
      refine hlater _ _ s hrs ⟨hsame.trans hconfig, ?_⟩
      rw [List.map_append, ← hnames]
      exact hresult
  · intro r q hq
    cases r with
    | ok _ => exact hq
    | error f =>
      obtain ⟨_, _, _, -, hf⟩ := hq
      exact hf

section Described

variable [Generator γ] [Processor ω π]

lemma Tends.graph (h : Tends p q) : q.entries = p.entries ∧ q.config = p.config := by
  cases h with
  | connects h => constructor <;> rw [h.rest]
  | _ => exact ⟨rfl, rfl⟩

/-- Steps that leave the graph as it was described keep what depends on it alone. -/
lemma Tending.keeps_graph {op : Operation ω γ π α} {J : Pipeline ω γ π → Prop} (h : Tending op)
    (hJ : OfGraph J) : op.Keeps Sways (fun _ _ => True) J :=
  Routine.Always.keeps h hJ.sways fun p q h => hJ p q h.graph.1 h.graph.2

variable {config : GraphConfig}

/-- A graph of which all blocks were made is as it was described. -/
lemma build_describes (hentries : p.entries = []) (hconfig : p.config = config) :
    (build config).Meets Sways (fun _ _ => True)
      (fun r q => (∃ e, r = .error (.error e)) ∨ q.Described config) p := by
  have hdescribed := (ofGraph_config (ω := ω) (γ := γ) (π := π) config
    fun entries => entries.map (·.1) = config.blocks.map (·.name))
  refine .bind interference_sways ((createBlocks_names hentries hconfig _).weaken fun r q hq => ?_)
  cases r with
  | error f =>
    obtain ⟨e, rfl⟩ := hq
    exact fun _ _ => .inl ⟨e, rfl⟩
  | ok _ =>
    refine .bind interference_sways
      (((tending_configureBlocks _).keeps_graph hdescribed q hq).weaken fun r s hs => ?_)
    cases r with
    | error f => exact fun t hst => .inr (hdescribed.sways s t hst hs)
    | ok _ => exact ((tending_connectBlocks _).keeps_graph hdescribed s hs).weaken fun _ _ => .inr

lemma load_keeps_faithful (config : GraphConfig) :
    (load config : Operation ω γ π (Result Unit)).Keeps Sways (fun _ _ => True) Faithful := by
  intro p hp
  refine Routine.meets_get.2 fun q hpq => ⟨trivial, ?_⟩
  split
  · exact (tending_failWith _).keeps_graph ofGraph_faithful q (ofGraph_faithful.sways p q hpq hp)
  refine .bind interference_sways ((teardown_empties q).weaken fun _ r hr => ?_)
  refine Routine.meets_modify.2 fun s hrs => ⟨trivial, ?_⟩
  have hs : entries { s with config } = [] := hrs.entries.trans hr
  have hbuild := build_describes (p := { s with config }) hs rfl
  refine .bind interference_sways (hbuild.weaken fun outcome t ht => ?_)
  -- after an error the graph is taken down; after an abort it stays, whole but not connected
  split
  · refine .bind interference_sways ((teardown_empties t).weaken fun _ u hu => ?_)
    exact (tending_failWith _).keeps_graph ofGraph_faithful u (.inl hu)
  · rename_i hno
    refine fun u htu => ofGraph_faithful.sways t u htu (.inr ?_)
    rcases ht with ⟨e, rfl⟩ | ht
    · exact absurd rfl (hno e)
    · exact ⟨rfl, ht.1 ▸ ht.2⟩

lemma loadResult_keeps_faithful (described : Result GraphConfig) :
    (loadResult described : Operation ω γ π (Result Unit)).Keeps Sways (fun _ _ => True)
      Faithful := by
  match described with
  | .ok config => exact load_keeps_faithful config
  | .error (.error e) => exact (tending_failWith e).keeps_graph ofGraph_faithful
  | .error (.panic _) => exact Routine.keeps_pure ofGraph_faithful.sways _

lemma shutdown_keeps_faithful : (shutdown : Operation ω γ π Unit).Keeps Sways (fun _ _ => True)
    Faithful := by
  have hlater := (ofGraph_faithful (ω := ω) (γ := γ) (π := π)).sways
  refine Routine.Keeps.bind interference_sways (tending_stop.keeps_graph ofGraph_faithful)
    fun _ => ?_
  intro p hp
  refine Routine.meets_get.2 fun q hpq => ⟨trivial, ?_⟩
  split
  · exact fun r hqr => hlater q r hqr (hlater p q hpq hp)
  · refine .bind interference_sways ((teardown_empties q).weaken fun _ r hr s hrs => ⟨trivial, ?_⟩)
    exact fun t hst => hlater _ t hst (.inl (hrs.entries.trans hr))

lemma Call.keeps_faithful {op : Operation ω γ π Unit} (h : Call op) :
    op.Keeps Sways (fun _ _ => True) Faithful := by
  have hlater := (ofGraph_faithful (ω := ω) (γ := γ) (π := π)).sways
  have hignore {op : Operation ω γ π (Result Unit)}
      (hop : op.Keeps Sways (fun _ _ => True) Faithful) :
      (op >>= fun _ => pure ()).Keeps Sways (fun _ _ => True) Faithful :=
    hop.bind interference_sways fun _ => Routine.keeps_pure hlater _
  cases h with
  | manager h =>
    cases h with
    | build config => exact hignore (load_keeps_faithful config)
    | loadResult described => exact hignore (loadResult_keeps_faithful described)
    | start => exact hignore (tending_start.keeps_graph ofGraph_faithful)
    | stop => exact tending_stop.keeps_graph ofGraph_faithful
    | shutdown => exact shutdown_keeps_faithful
  | resetAll => exact tending_resetAll.keeps_graph ofGraph_faithful

/-- Between the calls of a run a graph is as it was described. -/
theorem Run.faithful {registry : Registry ω (Block γ π)} (h : Run registry ⟨p, none⟩) :
    p.Faithful :=
  h.keeps (fun _ => .inl rfl) ofGraph_faithful.sways fun _ => Call.keeps_faithful

end Described

/-! ### Groups -/

/-- The block at `i` belongs to an earlier group than the one at `k`, or to the same one and is
described before. -/
def Precedes (p : Pipeline ω γ π) (i k : Nat) : Prop :=
  ∃ b c, p.network.block? i = some b ∧ p.network.block? k = some c ∧
    (b.capabilities.rank < c.capabilities.rank ∨
      b.capabilities.rank = c.capabilities.rank ∧ [i, k].Sublist p.members)

/-- The group to which the block at a position belongs. -/
def rankAt (p : Pipeline ω γ π) (i : Nat) : Nat :=
  match p.network.block? i with
  | some b => b.capabilities.rank
  | none => 0

lemma rankAt_lt (p : Pipeline ω γ π) (i : Nat) : p.rankAt i < 3 := by
  unfold rankAt
  split
  · exact Capabilities.rank_lt _
  · decide

/-- The blocks of a group, in the order of the description. -/
abbrev group (p : Pipeline ω γ π) (n : Nat) : List Nat := p.members.filter fun i => p.rankAt i == n

lemma Laid.positions_eq (hp : p.Laid) {wanted : Capabilities → Bool} {n : Nat}
    (hwanted : ∀ c : Capabilities, wanted c = (c.rank == n)) : p.positions wanted = p.group n := by
  refine List.filter_congr fun i hi => ?_
  obtain ⟨b, hb, -⟩ := hp.placed hi
  simp only [hb, rankAt, hwanted]

lemma Laid.startOrder_eq (hp : p.Laid) :
    p.startOrder = p.group 0 ++ p.group 1 ++ p.group 2 := by
  have hrank (c : Capabilities) : c.sink = (c.rank == 0) ∧
      (!c.sink && !c.source) = (c.rank == 1) ∧ (!c.sink && c.source) = (c.rank == 2) := by
    obtain ⟨source, sink⟩ := c
    cases source <;> cases sink <;> decide
  rw [startOrder, hp.positions_eq fun c => (hrank c).1, hp.positions_eq fun c => (hrank c).2.1,
    hp.positions_eq fun c => (hrank c).2.2]

/-- The groups together are the whole list. -/
lemma perm_filter_ranks {f : Nat → Nat} (hf : ∀ i, f i < 3) (l : List Nat) :
    (l.filter (f · == 0) ++ l.filter (f · == 1) ++ l.filter (f · == 2)).Perm l := by
  induction l with
  | nil => exact .nil
  | cons i l ih =>
    have hcases : f i = 0 ∨ f i = 1 ∨ f i = 2 := by
      have hi := hf i
      omega
    simp only [List.filter_cons]
    rcases hcases with hi | hi | hi
    · simpa [hi] using ih.cons i
    · simpa [hi] using List.perm_middle.trans (by simpa using ih.cons i)
    · simpa [hi] using List.perm_middle.trans (ih.cons i)

/-- All blocks of the graph are started, each of them once. -/
lemma Laid.startOrder_perm (hp : p.Laid) : p.startOrder.Perm p.members := by
  rw [hp.startOrder_eq]
  exact perm_filter_ranks p.rankAt_lt p.members

lemma Laid.startOrder_nodup (hp : p.Laid) : p.startOrder.Nodup :=
  hp.startOrder_perm.nodup_iff.2 hp.distinct

lemma Laid.precedes (hp : p.Laid) {k : Nat} (hi : i ∈ p.members) (hk : k ∈ p.members)
    (h : p.rankAt i < p.rankAt k ∨ p.rankAt i = p.rankAt k ∧ [i, k].Sublist p.members) :
    p.Precedes i k := by
  obtain ⟨b, hb, -⟩ := hp.placed hi
  obtain ⟨c, hc, -⟩ := hp.placed hk
  simp only [rankAt, hb, hc] at h
  exact ⟨b, c, hb, hc, h⟩

/-- Within a group the order is that of the description. -/
lemma Laid.pairwise_group (hp : p.Laid) (n : Nat) : (p.group n).Pairwise p.Precedes := by
  rw [List.pairwise_iff_forall_sublist]
  intro i k h
  have hrank (j : Nat) (hj : j ∈ [i, k]) : j ∈ p.members ∧ p.rankAt j = n := by
    simpa using List.mem_filter.1 (h.subset hj)
  obtain ⟨hi, hin⟩ := hrank i (by simp)
  obtain ⟨hk, hkn⟩ := hrank k (by simp)
  exact hp.precedes hi hk (.inr ⟨hin.trans hkn.symm, h.trans List.filter_sublist⟩)

/-- The order of starting is that of the groups, and within a group that of the description. -/
lemma Laid.startOrder_pairwise (hp : p.Laid) : p.startOrder.Pairwise p.Precedes := by
  have hgroups {m n : Nat} (hmn : m < n) (i : Nat) (hi : i ∈ p.group m) (k : Nat)
      (hk : k ∈ p.group n) : p.Precedes i k := by
    obtain ⟨hi, him⟩ := List.mem_filter.1 hi
    obtain ⟨hk, hkn⟩ := List.mem_filter.1 hk
    refine hp.precedes hi hk (.inl ?_)
    rwa [eq_of_beq him, eq_of_beq hkn]
  rw [hp.startOrder_eq, List.pairwise_append, List.pairwise_append]
  refine ⟨⟨hp.pairwise_group 0, hp.pairwise_group 1, hgroups (by decide)⟩, hp.pairwise_group 2, ?_⟩
  intro i hi k hk
  rcases List.mem_append.1 hi with hi | hi
  · exact hgroups (by decide) i hi k hk
  · exact hgroups (by decide) i hi k hk

/-- The order of starting stays as it is as long as the graph is the same and its blocks declare
what they declared. -/
lemma Laid.startOrder_later (hp : p.Laid) (hentries : q.entries = p.entries)
    (hblocks : p.network.Each (fun _ => Block.Namesake) q.network) :
    q.startOrder = p.startOrder := by
  have hmembers : q.members = p.members := by rw [members, members, hentries]
  have hgroup (n : Nat) : q.group n = p.group n := by
    rw [group, group, hmembers]
    refine List.filter_congr fun i hi => ?_
    obtain ⟨b, hb, -⟩ := hp.placed hi
    obtain ⟨b', hb', hnamesake⟩ := hblocks.block i b hb
    simp only [rankAt, hb, hb', hnamesake.capabilities]
  rw [(hp.later hentries hblocks).startOrder_eq, hp.startOrder_eq, hgroup, hgroup, hgroup]

end Pipeline

end FrameGraph
