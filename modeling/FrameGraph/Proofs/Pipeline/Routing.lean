import FrameGraph.Proofs.Pipeline.Accounts
import FrameGraph.Proofs.Pipeline.Connections

/-!
# Routing as described

Once a graph is loaded, each of its sources hands every frame to the sinks of its connections, in
the order in which they were described and as often, and each sink has the last format that a
connection brought to it and that it supports.
-/

namespace FrameGraph

/-! ### What configuring leaves alone -/

/-- A configuration does not change the format of a sink. -/
lemma SinkBlock.format_configure {ω π : Type} [Processor ω π] (y : SinkBlock π) (world : ω) :
    (y.configure world).2.1.format = y.format := by
  have hparameters : (y.applyParameters world).2.1.format = y.format := by
    simp only [applyParameters]
    split
    · rfl
    split
    · rfl
    · simp only [apply]
      split <;> rfl
  simp only [configure]
  split
  · rfl
  split
  all_goals
    rename_i heq
    rw [heq] at hparameters
    exact hparameters

lemma SourceBlock.thread_configure {γ : Type} [Generator γ] (x : SourceBlock γ)
    (storage : Storage) : (x.configure storage).2.1.thread = x.thread := by
  have h : (Block.source x : Block γ Unit).Configures _ := x.configures_configure storage
  cases h with
  | source hthread => exact hthread

namespace Block

variable {ω γ π : Type} {b c : Block γ π}

/-- Where a source hands its frames, and what its thread is at. -/
def outlet : Block γ π → Option (Option Consumer × SourceThread)
  | .source x => some (x.engine.consumer, x.thread)
  | _ => none

/-- The format that a sink expects. -/
def inlet : Block γ π → Option FrameInfo
  | .sink y => some y.format
  | _ => none

/-- A source has neither a consumer nor a thread. -/
def Unwired (b : Block γ π) : Prop := ∀ o ∈ b.outlet, o = (none, .absent)

lemma outlet_mapCore (f : BlockCore → BlockCore) : (b.mapCore f).outlet = b.outlet := by
  cases b <;> rfl

lemma inlet_mapCore (f : BlockCore → BlockCore) : (b.mapCore f).inlet = b.inlet := by
  cases b <;> rfl

variable [Generator γ] [Processor ω π] {w : ω}

lemma Configured.outlet (h : b.Configured w c) : c.outlet = b.outlet := by
  cases h with
  | @source x storage h =>
    simp only [Block.outlet, x.consumer_configure storage, x.thread_configure storage]
  | sink h => rfl
  | stage => rfl

lemma Configured.inlet (h : b.Configured w c) : c.inlet = b.inlet := by
  cases h with
  | source _ h => rfl
  | @sink y h => simp only [Block.inlet, y.format_configure w]
  | stage => rfl

end Block

section Outfits

variable {ω γ π : Type} [Generator γ] [Processor ω π] {r : Registry ω (Block γ π)}
  {defs : List BlockDef} {bs cs : List (Block γ π)} {w u v : ω} {j : Nat} {c : Block γ π}

/-- A block of a graph is one that was made for its definition, with its parameters taken over. -/
lemma Outfits.made (hmade : r.makeAll defs w = some (bs, v)) (h : Outfits v (equipAll defs bs) cs u)
    (hc : cs[j]? = some c) : ∃ d made w₁ w₂, defs[j]? = some d ∧
      r.create d.type w₁ = (.ok made, w₂) ∧ c.outlet = made.outlet ∧ c.inlet = made.inlet := by
  have hlength := Registry.length_makeAll hmade
  have hj : j < cs.length := (List.getElem?_eq_some_iff.1 hc).1
  rw [h.length, equipAll, List.length_zipWith, hlength, Nat.min_self] at hj
  have hdj : defs[j]? = some defs[j] := List.getElem?_eq_getElem hj
  obtain ⟨b, hbj⟩ : ∃ b, bs[j]? = some b := ⟨_, List.getElem?_eq_getElem (hlength ▸ hj)⟩
  have hmem : (defs[j], b) ∈ defs.zip bs := by
    refine List.mem_of_getElem? (i := j) ?_
    rw [List.getElem?_zip_eq_some]
    exact ⟨hdj, hbj⟩
  obtain ⟨w₁, made, w₂, hcreate, hnamed⟩ := Registry.create_of_makeAll hmade hmem
  have hequipped : (equipAll defs bs)[j]? = some (defs[j].equipped (defs[j].named made)) := by
    rw [← hnamed, equipAll, List.getElem?_zipWith, hdj, hbj]
  -- neither its name nor its parameters show at its ends
  have hshared {α : Type} {f : Block γ π → α} (hf : ∀ (v : ω) b c, b.Configured v c → f c = f b)
      (hcore : ∀ (g : BlockCore → BlockCore) b, f (b.mapCore g) = f b) : f c = f made := by
    have hmap := congrArg (·[j]?) (h.map_eq hf)
    simp only [List.getElem?_map, hc, hequipped, Option.map_some, Option.some.injEq] at hmap
    rw [hmap, BlockDef.equipped, BlockDef.named, hcore, hcore]
  exact ⟨_, made, w₁, w₂, hdj, hcreate,
    hshared (fun _ _ _ => Block.Configured.outlet) fun g _ => Block.outlet_mapCore g,
    hshared (fun _ _ _ => Block.Configured.inlet) fun g _ => Block.inlet_mapCore g⟩

end Outfits

namespace Pipeline

variable {ω γ π : Type} {p q r s t : Pipeline ω γ π} {n i k : Nat} {config : GraphConfig}

/-! ### Graphs as described -/

/-- Nothing is left out if there is a value for each item. -/
lemma map_eq_map_some {α β : Type} {f : α → Option β} {l : List α}
    (h : ∀ a ∈ l, (f a).isSome) : l.map f = (l.filterMap f).map some := by
  induction l with
  | nil => rfl
  | cons a l ih =>
    obtain ⟨ha, hl⟩ := List.forall_mem_cons.1 h
    obtain ⟨b, hb⟩ := Option.isSome_iff_exists.1 ha
    simp [hb, ih hl]

/-- The connections that start at the block of a name lead to these positions, in their order. -/
def Leads (p : Pipeline ω γ π) (cs : List Connection) (name : String) (targets : List Nat) : Prop :=
  (cs.filter (·.source = name)).map (fun c => p.find? c.sink) = targets.map some

/-- The connections that end at the block of a name bring these formats, in their order. -/
def Brings (p : Pipeline ω γ π) (cs : List Connection) (name : String) (infos : List FrameInfo) :
    Prop :=
  (cs.filter (·.sink = name)).map (fun c => p.formatOf? c.source) = infos.map some

section Wired

variable [Generator γ] [Processor ω π]

/-- The graph of a pipeline is wired as a description says. -/
structure Wired (registry : Registry ω (Block γ π)) (config : GraphConfig)
    (p : Pipeline ω γ π) : Prop where
  names : p.blockNames = config.blocks.map (·.name)
  spanned : ∀ c ∈ config.connections, p.Spanned c
  /-- A source has a consumer if and only if a connection starts at it, and then it supplies the
  sinks of its connections, one after the other. -/
  sources : ∀ name i x, (name, i) ∈ p.entries → p.network.block? i = some (.source x) →
    (x.engine.consumer ≠ none ↔ ∃ c ∈ config.connections, c.source = name) ∧
    ∃ targets, p.Leads config.connections name targets ∧
      x.engine.consumer = (if targets = [] then none else some (.fanOut targets)) ∧
      (targets ≠ [] → p.Supplies i targets)
  /-- A sink has the last format that a connection brought and that it supports, or the one with
  which it was made. -/
  sinks : ∀ name k y, (name, k) ∈ p.entries → p.network.block? k = some (.sink y) →
    ∃ infos d made w w', p.Brings config.connections name infos ∧ d ∈ config.blocks ∧
      d.name = name ∧ registry.create d.type w = (.ok (.sink made), w') ∧
      y.format = (infos.filter fun info => y.supports info.format).getLast?.getD made.format

end Wired

/-! ### Positions of names -/

section Positions

variable {names : List String} {name other : String}

/-- Different names are found at different positions. -/
lemma find?_eq_some_iff (hentries : p.entries = names.zipIdx n) (hdistinct : names.Nodup)
    (hmem : (name, i) ∈ p.entries) : p.find? other = some i ↔ other = name := by
  rw [hentries, List.mk_mem_zipIdx_iff_le_and_getElem?_sub] at hmem
  obtain ⟨hn, hname⟩ := hmem
  have hfound {l : String} {j : Nat} (h : p.find? l = some j) :
      n ≤ j ∧ names[j - n]? = some l := by
    rw [Pipeline.find?, hentries, List.lookup_eq_some_iff] at h
    obtain ⟨before, after, heq, -⟩ := h
    exact List.mk_mem_zipIdx_iff_le_and_getElem?_sub.1 (by rw [heq]; simp)
  constructor
  · intro h
    exact Option.some.inj ((hfound h).2.symm.trans hname)
  · rintro rfl
    have hsome : (p.find? other).isSome = true := by
      rw [Pipeline.find?, hentries, isSome_lookup_zipIdx]
      exact List.mem_of_getElem? hname
    obtain ⟨j, hj⟩ := Option.isSome_iff_exists.1 hsome
    obtain ⟨hnj, hother⟩ := hfound hj
    have hlt : i - n < names.length := (List.getElem?_eq_some_iff.1 hname).1
    have heq : i - n = j - n := (List.getElem?_inj hlt hdistinct).1 (hname.trans hother.symm)
    rw [hj, show i = j by omega]

/-- What is found is from the first position on. -/
lemma le_of_find? (hentries : p.entries = names.zipIdx n) (h : p.find? name = some i) : n ≤ i := by
  have hmem := mem_members_of_find? h
  rw [members, hentries, List.zipIdx_map_snd, List.mem_range'_1] at hmem
  exact hmem.1

end Positions

/-! ### Building -/

section Building

variable [Generator γ] [Processor ω π] {cs : List (Block γ π)}

/-- Blocks are the graph of a pipeline, connected as a description says. -/
structure Wires (n : Nat) (config : GraphConfig) (cs : List (Block γ π)) (p : Pipeline ω γ π) :
    Prop where
  entries : p.entries = (config.blocks.map (·.name)).zipIdx n
  spanned : ∀ c ∈ config.connections, p.Spanned c
  block : ∀ j, p.network.block? (n + j) = cs[j]?.map fun b =>
    (b.told (p.formatsTo config.connections (n + j))).routed
      (p.sinksFrom config.connections (n + j))

omit [Generator γ] in
/-- Others leave these blocks alone. -/
lemma Wires.later (h : Wires n config cs p) (hpq : Apart n p q) : Wires n config cs q := by
  have hfind : q.find? = p.find? := by
    rw [hpq.rest]
    rfl
  have hblock {name : String} {i : Nat} (hi : p.find? name = some i) :
      q.network.block? i = p.network.block? i :=
    hpq.network.block? (le_of_find? h.entries hi)
  have hformat (name : String) : q.formatOf? name = p.formatOf? name := by
    simp only [formatOf?, hfind]
    cases hi : p.find? name with
    | none => rfl
    | some i => simp only [Option.bind_some, Network.source?, hblock hi]
  have hsinksFrom : q.sinksFrom = p.sinksFrom := by
    funext cs i
    simp only [sinksFrom, hfind]
  have hformatsTo : q.formatsTo = p.formatsTo := by
    funext cs k
    simp only [formatsTo, hfind, hformat]
  refine ⟨by rw [hpq.rest, ← h.entries], fun c hc => ?_, fun j => ?_⟩
  · obtain ⟨⟨i, hi, hx⟩, k, hk, hy⟩ := h.spanned c hc
    constructor
    · refine ⟨i, by rw [hfind, hi], ?_⟩
      rwa [Network.source?, hblock hi]
    · refine ⟨k, by rw [hfind, hk], ?_⟩
      rwa [Network.sink?, hblock hk]
  · rw [hpq.network.block? (Nat.le_add_right n j), h.block, hsinksFrom, hformatsTo]

variable {bs : List (Block γ π)} {u v : ω}

lemma connectBlocks_wires (h : Fitted n config.blocks config.blocks bs v p t cs bs [] u) :
    (connectBlocks config.connections).Meets (Apart n) (fun _ _ => True)
      (fun outcome s => outcome = .ok () → Wires n config cs s) t := by
  intro t' htt'
  replace h := h.later htt'
  have hholds := h.holds
  rw [List.append_nil] at hholds
  have hunhurried : t'.Unhurried := by
    intro k hk y hy
    rw [members, hholds.entries, List.zipIdx_map_snd, List.mem_range'_1] at hk
    rw [← Nat.add_sub_cancel' hk.1, hholds.block?] at hy
    have hstate := h.outfits.state (List.mem_of_getElem? hy)
    simp only [Block.state, Block.core] at hstate
    simp [BlockCore.isRunning, SinkBlock.core, hstate]
  refine ⟨trivial, fun s hs hok => ?_⟩
  dsimp only at hs hok
  split at hok
  · rename_i routes r hall
    simp only [hall] at hs
    have hjoined := joined_of_ok hunhurried hall
    refine Wires.later ⟨?_, hjoined.spanned, fun j => ?_⟩ hs
    · rw [hjoined.rest]
      exact hholds.entries
    · rw [hjoined.block, hholds.block?, hjoined.formatsTo, hjoined.sinksFrom]
  · cases hok

/-- What was built is wired. -/
def Rigs (n : Nat) (config : GraphConfig) (registry : Registry ω (Block γ π))
    (p : Pipeline ω γ π) : Prop :=
  (config.blocks.map (·.name)).Nodup ∧ ∃ w bs v cs u,
    registry.makeAll config.blocks w = some (bs, v) ∧ Outfits v (equipAll config.blocks bs) cs u ∧
    Wires n config cs p

lemma build_wires (hp : p.Holds n [] [] p.network.world) :
    (build config).Meets (Apart n) (fun _ _ => True)
      (fun outcome q => outcome = .ok () → Rigs n config p.registry q) p := by
  have hR := interference_apart (ω := ω) (γ := γ) (π := π) n
  refine .bind hR ((createBlocks_meets_plan hp).weaken fun outcome q hq => ?_)
  cases outcome with
  | error f => exact fun _ _ hok => nomatch hok
  | ok _ =>
    obtain ⟨bs, v, hmade⟩ := hq
    refine .bind hR ((configureBlocks_meets_plan hmade).weaken fun outcome t ht => ?_)
    cases outcome with
    | error f => exact fun _ _ hok => nomatch hok
    | ok _ =>
      obtain ⟨cs, u, hfitted⟩ := ht
      exact (connectBlocks_wires hfitted).weaken fun outcome s hs hok =>
        ⟨hmade.distinct, _, bs, v, cs, u, hmade.made, hfitted.outfits, hs hok⟩

lemma load_wires (p : Pipeline ω γ π) (config : GraphConfig) :
    (load config).Meets (Apart p.network.blocks.length) (fun _ _ => True)
      (fun outcome q => outcome = .ok () →
        Rigs p.network.blocks.length config p.registry q) p := by
  generalize hn : p.network.blocks.length = n
  have hR := interference_apart (ω := ω) (γ := γ) (π := π) n
  have hempties (q : Pipeline ω γ π) := (teardown_resembles q).mono
    (fun _ _ (h : Apart n _ _) => h.resembles) (fun _ _ => id) fun _ _ => id
  have hfailWith (q : Pipeline ω γ π) (e : Error) : (failWith e).Meets (Apart n) (fun _ _ => True)
      (fun (outcome : Result Unit) r => outcome = .ok () → Rigs n config p.registry r) q :=
    fun _ _ => ⟨trivial, fun _ _ hok => nomatch hok⟩
  refine Routine.meets_get.2 fun q hpq => ⟨trivial, ?_⟩
  split
  · exact hfailWith q _
  refine .bind hR ((hempties q).weaken fun _ s hs => Routine.meets_modify.2 fun t hst =>
    ⟨trivial, ?_⟩)
  have ht : ({ t with config } : Pipeline ω γ π) =
      { p with config, entries := [], network := t.network } := by
    rw [hst.rest, hs.rest, hpq.rest]
  have hlength := hst.network.length.trans (hs.length.trans (hpq.network.length.trans hn))
  have hregistry : ({ t with config } : Pipeline ω γ π).registry = p.registry := by rw [ht]
  have hholds : ({ t with config } : Pipeline ω γ π).Holds n [] [] t.network.world :=
    ⟨by rw [ht]; rfl, hlength, by simp [← hlength], rfl⟩
  have hbuild : (build config).Meets (Apart n) (fun _ _ => True)
      (fun outcome r => outcome = .ok () → Rigs n config p.registry r)
      ({ t with config } : Pipeline ω γ π) :=
    (build_wires (p := { t with config }) hholds).weaken fun _ _ hrigs hok => by
      rw [← hregistry]
      exact hrigs hok
  refine .bind hR ((hbuild.lasting hR).weaken fun outcome r hr => ?_)
  match outcome with
  | .ok () => exact fun u hru _ => hr u hru rfl
  | .error (.panic a) => exact fun _ _ hok => nomatch hok
  | .error (.error e) => exact .bind hR ((hempties r).weaken fun _ u _ => hfailWith u e)

/-! ### Loading -/

variable {registry : Registry ω (Block γ π)} {name : String}

/-- What is known of the block of a name. -/
lemma Rigs.found (h : Rigs n config registry p) (hmem : (name, i) ∈ p.entries) {b : Block γ π}
    (hb : p.network.block? i = some b) :
    ∃ (d : BlockDef) (made : Block γ π) (w w' : ω) (c : Block γ π),
      d ∈ config.blocks ∧ d.name = name ∧ registry.create d.type w = (.ok made, w') ∧
      c.outlet = made.outlet ∧ c.inlet = made.inlet ∧
      b = (c.told (p.formatsTo config.connections i)).routed
        (p.sinksFrom config.connections i) := by
  obtain ⟨-, w, bs, v, cs, u, hmade, houtfits, hwires⟩ := h
  rw [hwires.entries, List.mk_mem_zipIdx_iff_le_and_getElem?_sub, List.getElem?_map] at hmem
  obtain ⟨hn, hname⟩ := hmem
  obtain ⟨d, hd, rfl⟩ := Option.map_eq_some_iff.1 hname
  rw [← Nat.add_sub_cancel' hn, hwires.block] at hb
  obtain ⟨c, hc, rfl⟩ := Option.map_eq_some_iff.1 hb
  obtain ⟨d', made, w₁, w₂, hd', hcreate, houtlet, hinlet⟩ := houtfits.made hmade hc
  obtain rfl : d = d' := Option.some.inj (hd.symm.trans hd')
  refine ⟨d, made, w₁, w₂, c, List.mem_of_getElem? hd, rfl, hcreate, houtlet, hinlet, ?_⟩
  rw [Nat.add_sub_cancel' hn]

omit [Generator γ] [Processor ω π] in
/-- The route of a source names a sink for each of its connections. -/
lemma leads_sinksFrom (hspanned : ∀ c ∈ config.connections, p.Spanned c)
    (hname : ∀ other, p.find? other = some i ↔ other = name) :
    p.Leads config.connections name (p.sinksFrom config.connections i) := by
  simp only [Leads, sinksFrom, hname]
  refine map_eq_map_some fun c hc => ?_
  obtain ⟨k, hk, -⟩ := (hspanned c (List.mem_filter.1 hc).1).sink
  simp [hk]

omit [Generator γ] [Processor ω π] in
/-- Each connection brings a format. -/
lemma brings_formatsTo (hspanned : ∀ c ∈ config.connections, p.Spanned c)
    (hname : ∀ other, p.find? other = some k ↔ other = name) :
    p.Brings config.connections name (p.formatsTo config.connections k) := by
  simp only [Brings, formatsTo, hname]
  refine map_eq_map_some fun c hc => ?_
  obtain ⟨i, hi, hx⟩ := (hspanned c (List.mem_filter.1 hc).1).source
  simpa [formatOf?, hi] using hx

omit [Generator γ] [Processor ω π] in
lemma isSome_sink?_of_mem_sinksFrom {cs : List Connection} (hspanned : ∀ c ∈ cs, p.Spanned c)
    (hk : k ∈ p.sinksFrom cs i) : (p.network.sink? k).isSome := by
  obtain ⟨c, hc, hfound⟩ := List.mem_filterMap.1 hk
  obtain ⟨k', hk', hsink⟩ := (hspanned c (List.mem_filter.1 hc).1).sink
  obtain rfl : k' = k := Option.some.inj (hk'.symm.trans hfound)
  exact hsink

/-- A source of the graph has the route that its connections describe. -/
lemma Rigs.source (hmakes : registry.Makes Block.Unwired) (h : Rigs n config registry p)
    {x : SourceBlock γ} (hmem : (name, i) ∈ p.entries)
    (hx : p.network.block? i = some (.source x)) :
    x.thread = .absent ∧ x.engine.consumer = (if p.sinksFrom config.connections i = [] then none
      else some (.fanOut (p.sinksFrom config.connections i))) := by
  obtain ⟨d, made, w, w', c, -, -, hcreate, houtlet, -, heq⟩ := h.found hmem hx
  obtain ⟨f, hf, hmade⟩ := Registry.create_ok hcreate
  cases c with
  | source x₀ =>
    have hunwired : (x₀.engine.consumer, x₀.thread) = (none, .absent) :=
      hmakes _ _ _ _ _ hf hmade _ houtlet.symm
    obtain ⟨hconsumer, hthread⟩ := Prod.mk.inj hunwired
    obtain rfl := Block.source.inj heq
    split
    · exact ⟨hthread, hconsumer⟩
    · exact ⟨hthread, rfl⟩
  | sink y => cases heq
  | stage z => cases heq

theorem Rigs.wired (hmakes : registry.Makes Block.Unwired) (h : Rigs n config registry p) :
    Wired registry config p := by
  obtain ⟨hdistinct, w, bs, v, cs, u, hmade, houtfits, hwires⟩ := id h
  have hname {name : String} {i : Nat} (hmem : (name, i) ∈ p.entries) (other : String) :
      p.find? other = some i ↔ other = name :=
    find?_eq_some_iff hwires.entries hdistinct hmem
  refine ⟨?_, hwires.spanned, fun name i x hmem hx => ?_, fun name k y hmem hy => ?_⟩
  · rw [Pipeline.blockNames, hwires.entries]
    exact List.zipIdx_map_fst n _
  · obtain ⟨hthread, hconsumer⟩ := h.source hmakes hmem hx
    have hleads := leads_sinksFrom hwires.spanned (hname hmem)
    refine ⟨?_, _, hleads, hconsumer, fun hne => ?_⟩
    · -- as many sinks as there are connections
      have hnil : p.sinksFrom config.connections i = [] ↔
          ∀ c ∈ config.connections, c.source ≠ name := by
        have hlength := congrArg List.length hleads
        rw [List.length_map, List.length_map] at hlength
        rw [← List.length_eq_zero_iff, ← hlength, List.length_eq_zero_iff, List.filter_eq_nil_iff]
        simp
      rw [hconsumer]
      by_cases hsinks : p.sinksFrom config.connections i = []
      · simpa [hsinks] using hnil.1 hsinks
      · simpa [hsinks] using mt hnil.2 hsinks
    · rw [if_neg hne] at hconsumer
      refine supplies hx (by rw [hthread]; rfl) hconsumer fun k hk => ?_
      exact isSome_sink?_of_mem_sinksFrom hwires.spanned hk
  · obtain ⟨d, made, w, w', c, hd, hdname, hcreate, -, hinlet, heq⟩ := h.found hmem hy
    cases c with
    | sink y₀ =>
      cases made with
      | sink made =>
        have hformat : y₀.format = made.format := Option.some.inj hinlet
        obtain rfl : y = y₀.told _ := Block.sink.inj heq
        refine ⟨_, d, made, w, w', brings_formatsTo hwires.spanned (hname hmem), hd, hdname,
          hcreate, ?_⟩
        rw [← hformat]
        rfl
      | source x => cases hinlet
      | stage z => cases hinlet
    | source x => cases heq
    | stage z => cases heq

/-- A graph that is loaded follows the connections of its description: each source supplies the
sinks of its connections, once for each connection and in their order, and each sink has the last
format brought to it that it supports. -/
theorem load_follows_connections (p : Pipeline ω γ π) (hmakes : p.registry.Makes Block.Unwired)
    (config : GraphConfig) :
    (load config).Meets (Apart p.network.blocks.length) (fun _ _ => True)
      (fun outcome q => outcome = .ok () → Wired p.registry config q) p :=
  (load_wires p config).weaken fun _ _ h hok => (h hok).wired hmakes

end Building

/-! ### The blocks at hand -/

/-- The sources at hand are made without a consumer. -/
lemma makes_unwired_builtins : Registry.builtins.Makes Block.Unwired := by
  apply makes_of_builtins
  intro b hb
  simp only [Block.builtins, List.map_cons, List.map_nil, List.mem_cons, List.not_mem_nil,
    or_false] at hb
  rcases hb with rfl | rfl | rfl | rfl
  · intro o ho
    exact (Option.some.inj ho).symm
  all_goals
    intro o ho
    cases ho

lemma buildable_pair : Buildable .builtins pair ({ home := [] } : FileTree) := by
  have hbuilds : ∃ made ∈ Registry.builtins.makeAll pair.blocks ({ home := [] } : FileTree),
      (Block.acceptAll (equipAll pair.blocks made.1) made.2).isSome = true ∧
      ∀ c ∈ pair.connections, (linkError (graphOf pair.blocks made.1) c).isNone = true := by
    decide +kernel
  obtain ⟨⟨bs, v⟩, hmade, haccepted, hlinked⟩ := hbuilds
  exact ⟨by decide, bs, v, hmade, haccepted, fun c hc => Option.isNone_iff_eq_none.1 (hlinked c hc)⟩

/-- The source that is connected twice with a sink gets the sink twice, and the sink its format. -/
theorem load_follows_connections_pair :
    (load pair).Meets (Apart 0) (fun _ _ => True)
      (fun outcome q => outcome = .ok () ∧ ∃ x y, q.network.block? 0 = some (.source x) ∧
        x.engine.consumer = some (.fanOut [1, 1]) ∧ q.Supplies 0 [1, 1] ∧
        q.network.block? 1 = some (.sink y) ∧
        (y.supports x.format.format = true → y.format = x.format))
      (.new .builtins { home := [] } : Pipeline FileTree TestPattern Output) := by
  let p : Pipeline FileTree TestPattern Output := .new .builtins { home := [] }
  refine ((load_follows_connections p makes_unwired_builtins pair).and (load_idle rfl pair)).mono
    (fun _ _ => id) (fun _ _ _ => trivial) fun outcome q hq => ?_
  obtain ⟨hwired, hiff, hloads⟩ := hq
  obtain rfl : outcome = .ok () := hiff.2 buildable_pair
  replace hwired := hwired rfl
  have hentries : q.entries = [("camera", 0), ("screen", 1)] := by
    obtain ⟨_, _, _, _, -, -, hentries, -⟩ := hloads.blocks
    exact hentries
  have hcamera : q.find? "camera" = some 0 := by rw [find?, hentries]; rfl
  have hscreen : q.find? "screen" = some 1 := by rw [find?, hentries]; rfl
  obtain ⟨⟨i, hi, hx⟩, k, hk, hy⟩ :=
    hwired.spanned (.between "camera" "screen") List.mem_cons_self
  obtain rfl : 0 = i := Option.some.inj (hcamera.symm.trans hi)
  obtain rfl : 1 = k := Option.some.inj (hscreen.symm.trans hk)
  obtain ⟨x, hx⟩ := Option.isSome_iff_exists.1 hx
  obtain ⟨y, hy⟩ := Option.isSome_iff_exists.1 hy
  have hformat : q.formatOf? "camera" = some x.format := by simp [formatOf?, hcamera, hx]
  rw [Network.source?_eq_some] at hx
  rw [Network.sink?_eq_some] at hy
  obtain ⟨-, targets, hleads, hconsumer, hsupplies⟩ :=
    hwired.sources "camera" 0 x (by simp [hentries]) hx
  obtain ⟨infos, d, made, w, w', hbrings, -, -, -, hheard⟩ :=
    hwired.sinks "screen" 1 y (by simp [hentries]) hy
  have htargets : [1, 1].map some = targets.map some := by
    rw [List.map_cons, List.map_cons, List.map_nil, ← hscreen]
    exact hleads
  have hinfos : [x.format, x.format].map some = infos.map some := by
    rw [List.map_cons, List.map_cons, List.map_nil, ← hformat]
    exact hbrings
  obtain rfl : [1, 1] = targets := List.map_injective_iff.2 (fun _ _ => Option.some.inj) htargets
  obtain rfl : [x.format, x.format] = infos :=
    List.map_injective_iff.2 (fun _ _ => Option.some.inj) hinfos
  refine ⟨rfl, x, y, hx, hconsumer, hsupplies (by simp), hy, fun hsupports => ?_⟩
  simpa [hsupports] using hheard

end Pipeline

end FrameGraph
