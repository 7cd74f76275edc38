import FrameGraph.Proofs.Network.Confinement
import FrameGraph.Proofs.Pipeline.Blueprint
import FrameGraph.Proofs.Pipeline.Wiring

/-!
# Loading a description

A graph is loaded as a whole or not at all. If the description can be built, the graph has its
blocks in order, all of them configured; if not, the first failure is reported, and there is no
graph. A pipeline that runs refuses to load anything.
-/

namespace FrameGraph.Pipeline

variable {ω γ π α : Type} {p q r : Pipeline ω γ π} {n i : Nat}

/-! ### While others keep away -/

/-- What others may do meanwhile: they leave the world and the blocks from a position on alone. -/
structure Apart (n : Nat) (p q : Pipeline ω γ π) : Prop where
  rest : q = { p with network := q.network }
  network : p.network.Apart n q.network

lemma interference_apart (n : Nat) :
    Routine.Interference (Apart (ω := ω) (γ := γ) (π := π) n) where
  refl p := ⟨rfl, (Network.interference_apart n).refl _⟩
  trans h h' := ⟨by rw [h'.rest, h.rest], (Network.interference_apart n).trans h.network h'.network⟩

/-- An operation on the network leaves the rest of the pipeline alone. -/
lemma lift_apart {op : Network.Operation ω γ π α} {Q : α → Network ω γ π → Prop}
    (h : op.Meets (Network.Apart n) (fun _ _ => True) Q p.network) :
    (lift op).Meets (Apart n) (fun _ _ => True)
      (fun a q => Q a q.network ∧ q = { p with network := q.network }) p := by
  refine lift_keeps h (fun q r hqr => ⟨hqr.network, fun hq => ?_⟩) (fun q s _ hq => ?_) rfl
  · rw [hqr.rest, hq]
  · rw [hq]

/-! ### Taking down -/

/-- Blocks may change, but neither their number nor the world nor the rest of the pipeline. -/
structure Resembles (p q : Pipeline ω γ π) : Prop where
  rest : q = { p with network := q.network }
  world : q.network.world = p.network.world
  length : q.network.blocks.length = p.network.blocks.length

lemma Resembles.refl (p : Pipeline ω γ π) : p.Resembles p := ⟨rfl, rfl, rfl⟩

lemma Resembles.trans (h : p.Resembles q) (h' : q.Resembles r) : p.Resembles r :=
  ⟨by rw [h'.rest, h.rest], h'.world.trans h.world, h'.length.trans h.length⟩

lemma interference_resembles : Routine.Interference (Resembles (ω := ω) (γ := γ) (π := π)) :=
  ⟨.refl, .trans⟩

lemma Apart.resembles (h : Apart n p q) : p.Resembles q :=
  ⟨h.rest, h.network.world, h.network.length⟩

lemma lift_resembles {op : Network.Operation ω γ π α} (hop : Network.Confined i op)
    (hworld : Network.Unworldly op) (p : Pipeline ω γ π) :
    (lift op).Meets Resembles (fun _ _ => True) (fun _ => p.Resembles) p := by
  have hboth := (hop p.network trivial).and (hworld p.network trivial)
  exact (lift_keeps hboth (fun _ _ hqr => ⟨trivial, fun hq => hq.trans hqr⟩)
    (fun q s hstep hq => hq.trans ⟨rfl, hstep.2, hstep.1.length⟩) (.refl p)).weaken
    fun _ _ h => h.2

lemma teardownBlock_resembles (i : Nat) (p : Pipeline ω γ π) :
    (teardownBlock i).Meets Resembles (fun _ _ => True) (fun _ => p.Resembles) p := by
  have hR := interference_resembles (ω := ω) (γ := γ) (π := π)
  refine .bind hR ((lift_resembles (Network.confined_mapCore fun _ _ => rfl)
    (Network.unworldly_mapCore i _) p).weaken fun _ q hpq => ?_)
  refine .bind hR ((lift_resembles Network.confined_shutdown Network.closing_shutdown.unworldly
    q).weaken fun _ r hqr => ?_)
  exact (lift_resembles Network.confined_clearConsumer Network.closing_clearConsumer.unworldly
    r).weaken fun _ t hrt => (hpq.trans hqr).trans hrt

/-- Taken down, a pipeline has no graph, and the rest is as it was. -/
lemma teardown_resembles (p : Pipeline ω γ π) :
    (teardown : Operation ω γ π Unit).Meets Resembles (fun _ _ => True)
      (fun _ => Resembles { p with entries := [] }) p := by
  have hR := interference_resembles (ω := ω) (γ := γ) (π := π)
  refine Routine.meets_get.2 fun q hpq => ⟨trivial, .bind hR ?_⟩
  refine (Routine.meets_each (P := fun _ => p.Resembles) hR (fun _ _ _ hrs hr => hr.trans hrs)
    (fun e _ r hr => (teardownBlock_resembles e.2 r).weaken fun _ _ hrs => hr.trans hrs)
    q.entries hpq).weaken ?_
  intro _ r hr s hrs
  refine ⟨trivial, fun t hst => ?_⟩
  have hs := hr.trans hrs
  have hs' : Resembles { p with entries := [] } { s with entries := [] } :=
    ⟨by rw [hs.rest], hs.world, hs.length⟩
  exact hs'.trans hst

/-! ### The new blocks -/

section Positions

variable {names before after : List String} {name : String}

lemma isSome_lookup_zipIdx : ((names.zipIdx n).lookup name).isSome = true ↔ name ∈ names := by
  induction names generalizing n with
  | nil => simp
  | cons first names ih =>
    by_cases hname : name = first
    · simp [hname]
    · have hne : (name == first) = false := by simpa using hname
      simp [List.lookup_cons, hne, hname, ih]

lemma lookup_zipIdx (hname : name ∉ before) :
    ((before ++ name :: after).zipIdx n).lookup name = some (n + before.length) := by
  induction before generalizing n with
  | nil => simp
  | cons first before ih =>
    rw [List.mem_cons, not_or] at hname
    have hne : (name == first) = false := by simpa using hname.1
    simp [List.lookup_cons, hne, ih hname.2]
    omega

end Positions

/-- From a position on, the network of a pipeline holds these blocks, and under these names they are
its graph. -/
structure Holds (n : Nat) (names : List String) (bs : List (Block γ π)) (w : ω)
    (p : Pipeline ω γ π) : Prop where
  entries : p.entries = names.zipIdx n
  length : p.network.blocks.length = n + bs.length
  blocks : p.network.blocks.drop n = bs
  world : p.network.world = w

/-- Only the graph and the network of a pipeline change. -/
def Grows (p q : Pipeline ω γ π) : Prop :=
  q = { p with entries := q.entries, network := q.network }

section Holding

variable {names : List String} {bs : List (Block γ π)} {b : Block γ π} {w : ω}

lemma Holds.later (h : p.Holds n names bs w) (hpq : Apart n p q) : q.Holds n names bs w where
  entries := by
    rw [hpq.rest]
    exact h.entries
  length := hpq.network.length.trans h.length
  blocks := hpq.network.blocks.trans h.blocks
  world := hpq.network.world.trans h.world

lemma Holds.block? (h : p.Holds n names bs w) (j : Nat) : p.network.block? (n + j) = bs[j]? := by
  rw [← h.blocks, Network.block?, List.getElem?_drop]

lemma Grows.later (h : p.Grows q) (hqr : Apart n q r) : p.Grows r := by
  rw [Grows, hqr.rest, h]

/-- A block is replaced by another one. -/
lemma Holds.replaced {before after : List (Block γ π)} {c : Block γ π} {v : ω}
    (h : p.Holds n names (before ++ b :: after) w) (hrest : q = { p with network := q.network })
    (hreplaces : p.network.Replaces n (n + before.length) c q.network)
    (hworld : q.network.world = v) : q.Holds n names (before ++ c :: after) v where
  entries := by
    rw [hrest]
    exact h.entries
  length := by simpa using hreplaces.length.trans h.length
  blocks := by
    rw [hreplaces.blocks, h.blocks]
    simp
  world := hworld

end Holding

/-! ### Making blocks -/

section Making

variable {config : GraphConfig} {done rest : List BlockDef} {d : BlockDef} {bs : List (Block γ π)}
  {w v : ω}

/-- The blocks of these definitions were made, and are the graph. -/
structure Made (n : Nat) (defs : List BlockDef) (w : ω) (p : Pipeline ω γ π)
    (bs : List (Block γ π)) (v : ω) (q : Pipeline ω γ π) : Prop where
  made : p.registry.makeAll defs w = some (bs, v)
  distinct : (defs.map (·.name)).Nodup
  holds : q.Holds n (defs.map (·.name)) bs v
  grows : p.Grows q

lemma Made.later (h : Made n done w p bs v q) (hqr : Apart n q r) : Made n done w p bs v r :=
  { h with holds := h.holds.later hqr, grows := h.grows.later hqr }

lemma Made.isSome_find? (h : Made n done w p bs v q) :
    (q.find? d.name).isSome = true ↔ d.name ∈ done.map (·.name) := by
  rw [find?, h.holds.entries]
  exact isSome_lookup_zipIdx

/-- One more block is made. -/
lemma Made.next {b : Block γ π} {u : ω} (h : Made n done w p bs v q)
    (hname : d.name ∉ done.map (·.name)) (hcreate : p.registry.create d.type v = (.ok b, u)) :
    (makeNew d q).1 = .ok () ∧ Made n (done ++ [d]) w p (bs ++ [d.named b]) u (makeNew d q).2 := by
  have hregistry : q.registry = p.registry := by rw [h.grows]
  have hlength : q.network.blocks.length = n + done.length := by
    rw [h.holds.length, Registry.length_makeAll h.made]
  have hmake : makeNew d q = (.ok (), { q with
      network := { q.network with world := u, blocks := q.network.blocks ++ [d.named b] }
      entries := q.entries ++ [(d.name, q.network.blocks.length)] }) := by
    rw [makeNew, if_neg (mt h.isSome_find?.1 hname), make, hregistry, h.holds.world, hcreate]
    rfl
  rw [hmake]
  refine ⟨rfl, ⟨?_, ?_, ?_, ?_⟩⟩
  · simp [Registry.makeAll_concat h.made, Registry.makeNext, hcreate]
  · rw [List.map_append, List.nodup_append]
    refine ⟨h.distinct, by simp, fun name hdone name' hd => ?_⟩
    rintro rfl
    obtain rfl : name = d.name := by simpa using hd
    exact hname hdone
  · refine ⟨?_, ?_, ?_, rfl⟩
    · simp [h.holds.entries, hlength, List.zipIdx_append]
    · simp [h.holds.length, Nat.add_assoc]
    · rw [List.drop_append_of_le_length (by omega), h.holds.blocks]
  · rw [Grows, h.grows]

variable [Generator γ] [Processor ω π]

/-- A block is made, or the description fails with it. -/
lemma Made.step (h : Made n done w p bs v q) (hdefs : config.blocks = done ++ d :: rest) :
    match (makeNew d q).1 with
    | .ok () => ∃ bs v, Made n (done ++ [d]) w p bs v (makeNew d q).2
    | .error f => FirstFailure p.registry config w f := by
  by_cases hname : d.name ∈ done.map (·.name)
  · rw [makeNew, if_pos (h.isSome_find?.2 hname)]
    exact .duplicate hdefs h.distinct (by simp [h.made]) hname
  obtain ⟨⟨r, u⟩, hcreate⟩ : ∃ made, p.registry.create d.type v = made := ⟨_, rfl⟩
  cases r with
  | ok b =>
    obtain ⟨hok, hmade⟩ := h.next hname hcreate
    rw [hok]
    exact ⟨_, _, hmade⟩
  | error e =>
    have hregistry : q.registry = p.registry := by rw [h.grows]
    rw [makeNew, if_neg (mt h.isSome_find?.1 hname), make, hregistry, h.holds.world, hcreate]
    exact .unmade hdefs h.distinct h.made hname (congrArg Prod.fst hcreate)

lemma createBlocks_meets_plan (hp : p.Holds n [] [] w) :
    (createBlocks config.blocks).Meets (Apart n) (fun _ _ => True) (fun r q => match r with
      | .ok () => ∃ bs v, Made n config.blocks w p bs v q
      | .error f => FirstFailure p.registry config w f) p := by
  have hR := interference_apart (ω := ω) (γ := γ) (π := π) n
  refine (Routine.meets_eachUntil_prefix (P := fun done q => ∃ bs v, Made n done w p bs v q)
    (E := fun _ _ _ f => FirstFailure p.registry config w f) hR
    (fun _ _ _ hqr ⟨bs, v, hq⟩ => ⟨bs, v, hq.later hqr⟩) ?_ ⟨[], w, rfl, .nil, hp, rfl⟩).weaken ?_
  · intro done d rest q hdefs hq t hqt
    obtain ⟨bs, v, hmade⟩ := hq
    have hstep := (hmade.later hqt).step hdefs
    refine ⟨trivial, fun u htu => ?_⟩
    revert hstep
    cases (makeNew d t).1 with
    | ok _ => exact fun ⟨bs, v, hnext⟩ => ⟨bs, v, hnext.later htu⟩
    | error f => exact id
  · intro r q hq
    cases r with
    | ok _ => exact hq
    | error f =>
      obtain ⟨_, _, _, _, hfails⟩ := hq
      exact hfails

end Making

/-! ### Configuring blocks -/

section Configuring

variable [Generator γ] [Processor ω π] {config : GraphConfig} {done rest : List BlockDef}
  {d : BlockDef} {bs : List (Block γ π)} {w v : ω}

/-- The first blocks of a graph took their parameters over; the others are as they were made. -/
structure Fitted (n : Nat) (defs done : List BlockDef) (bs : List (Block γ π)) (v : ω)
    (p q : Pipeline ω γ π) (cs bs₁ bs₂ : List (Block γ π)) (u : ω) : Prop where
  split : bs = bs₁ ++ bs₂
  length : done.length = bs₁.length
  outfits : Outfits v (equipAll done bs₁) cs u
  holds : q.Holds n (defs.map (·.name)) (cs ++ bs₂) u
  grows : p.Grows q

variable {defs : List BlockDef} {cs bs₁ bs₂ : List (Block γ π)} {u : ω}

lemma Fitted.later (h : Fitted n defs done bs v p q cs bs₁ bs₂ u) (hqr : Apart n q r) :
    Fitted n defs done bs v p r cs bs₁ bs₂ u :=
  { h with holds := h.holds.later hqr, grows := h.grows.later hqr }

lemma Fitted.length_outfitted (h : Fitted n defs done bs v p q cs bs₁ bs₂ u) :
    cs.length = done.length := by
  rw [h.outfits.length, equipAll, List.length_zipWith, ← h.length, Nat.min_self]

lemma Fitted.find? (h : Fitted n defs done bs v p q cs bs₁ bs₂ u)
    (hdefs : defs = done ++ d :: rest) (hdistinct : (defs.map (·.name)).Nodup) :
    q.find? d.name = some (n + cs.length) := by
  rw [hdefs, List.map_append, List.map_cons] at hdistinct
  have hname : d.name ∉ done.map (·.name) := fun hmem =>
    (List.nodup_append.1 hdistinct).2.2 _ hmem _ List.mem_cons_self rfl
  rw [Pipeline.find?, h.holds.entries, hdefs, List.map_append, List.map_cons, lookup_zipIdx hname,
    List.length_map, h.length_outfitted]

/-- One more block took its parameters over. -/
lemma Fitted.next {b c : Block γ π} (h : Fitted n defs done bs v p q cs bs₁ (b :: bs₂) u)
    (hok : ((d.equipped b).trial u).1 = .ok ()) (hc : (d.equipped b).Configured u c)
    (hholds : r.Holds n (defs.map (·.name)) (cs ++ c :: bs₂) ((d.equipped b).trial u).2)
    (hgrows : p.Grows r) :
    Fitted n defs (done ++ [d]) bs v p r (cs ++ [c]) (bs₁ ++ [b]) bs₂
      ((d.equipped b).trial u).2 where
  split := by simp [h.split]
  length := by simp [h.length]
  outfits := by
    rw [equipAll_append h.length]
    exact .concat h.outfits hok hc
  holds := by simpa using hholds
  grows := hgrows

/-- The next block is tried. -/
lemma configureBlock_fits {b : Block γ π} (h : Fitted n defs done bs v p q cs bs₁ (b :: bs₂) u)
    (hdefs : defs = done ++ d :: rest) (hdistinct : (defs.map (·.name)).Nodup) :
    (configureBlock d).Meets (Apart n) (fun _ _ => True) (fun r t => match r with
      | .ok () => ∃ c u', Fitted n defs (done ++ [d]) bs v p t (cs ++ [c]) (bs₁ ++ [b]) bs₂ u'
      | .error f => ∃ f', ((d.equipped b).trial u).1 = .error f' ∧ f = d.misfit f') q := by
  have hR := interference_apart (ω := ω) (γ := γ) (π := π) n
  refine Routine.meets_get.2 fun r hqr => ⟨trivial, ?_⟩
  replace h := h.later hqr
  have hi : n ≤ n + cs.length := Nat.le_add_right n _
  have hb : r.network.block? (n + cs.length) = some b := by
    rw [h.holds.block?]
    simp
  rw [h.find? hdefs hdistinct]
  refine .bind hR ((lift_apart (Network.mapCore_replaces hb hi _)).weaken fun _ s hs => ?_)
  have hs' : s.Holds n (defs.map (·.name)) (cs ++ d.equipped b :: bs₂) u :=
    h.holds.replaced hs.2 hs.1.1 (hs.1.2.trans h.holds.world)
  have hb' : s.network.block? (n + cs.length) = some (d.equipped b) := by
    rw [hs'.block?]
    simp
  refine .bind hR ((lift_apart (Network.configure_tried hb' hi)).weaken fun outcome t ht => ?_)
  obtain ⟨htried, hrest⟩ := ht
  have hresult := htried.result
  rw [hs'.world] at hresult
  match outcome with
  | .error (.error e) => exact fun _ _ => ⟨_, hresult.symm, rfl⟩
  | .error (.panic a) => exact fun _ _ => ⟨_, hresult.symm, rfl⟩
  | .ok () =>
    intro t' htt'
    obtain ⟨c, hc, hreplaces⟩ := htried.block rfl
    have hworld := htried.world rfl
    rw [hs'.world] at hc hworld
    have hgrows : p.Grows t := by rw [Grows, hrest, hs.2, h.grows]
    have hnext := h.next hresult.symm hc (hs'.replaced hrest hreplaces hworld) hgrows
    exact ⟨c, _, hnext.later htt'⟩

lemma configureBlocks_meets_plan (h : Made n config.blocks w p bs v q) :
    (configureBlocks config.blocks).Meets (Apart n) (fun _ _ => True) (fun r t => match r with
      | .ok () => ∃ cs u, Fitted n config.blocks config.blocks bs v p t cs bs [] u
      | .error f => FirstFailure p.registry config w f) q := by
  have hR := interference_apart (ω := ω) (γ := γ) (π := π) n
  have hlength := Registry.length_makeAll h.made
  have hnone : Fitted n config.blocks [] bs v p q [] [] bs v := ⟨rfl, rfl, .nil, h.holds, h.grows⟩
  refine (Routine.meets_eachUntil_prefix
    (P := fun done t => ∃ bs₁ bs₂ cs u, Fitted n config.blocks done bs v p t cs bs₁ bs₂ u)
    (E := fun _ _ _ f => FirstFailure p.registry config w f) hR
    (fun _ _ _ hqr ⟨bs₁, bs₂, cs, u, hq⟩ => ⟨bs₁, bs₂, cs, u, hq.later hqr⟩) ?_
    ⟨[], bs, [], v, hnone⟩).weaken ?_
  · intro done d rest r hdefs hr
    obtain ⟨bs₁, bs₂, cs, u, hfitted⟩ := hr
    rw [hfitted.split, List.length_append, hdefs, List.length_append, hfitted.length] at hlength
    -- as many blocks were made as there are definitions, so one is left for `d`
    match bs₂ with
    | [] => simp at hlength
    | b :: bs₂ =>
      refine (configureBlock_fits hfitted hdefs h.distinct).weaken fun outcome t ht => ?_
      cases outcome with
      | ok _ =>
        obtain ⟨c, u', hnext⟩ := ht
        exact ⟨_, _, _, _, hnext⟩
      | error f =>
        obtain ⟨f', hfails, rfl⟩ := ht
        exact .unfit h.distinct h.made hdefs hfitted.split hfitted.length
          hfitted.outfits.acceptAll hfails
  · intro outcome t ht
    cases outcome with
    | ok _ =>
      obtain ⟨bs₁, bs₂, cs, u, hfitted⟩ := ht
      have hall := hfitted.split
      rw [hall, List.length_append, hfitted.length] at hlength
      obtain rfl : bs₂ = [] := by
        rw [← List.length_eq_zero_iff]
        omega
      obtain rfl : bs = bs₁ := by simpa using hall
      exact ⟨cs, u, hfitted⟩
    | error f =>
      obtain ⟨_, _, _, _, hfails⟩ := ht
      exact hfails

end Configuring

/-! ### Connecting blocks -/

section Connecting

variable {names : List String} {bs : List (Block γ π)} {w : ω}

lemma lookup_zip {as : List α} {f : Nat → Option α} (hlength : names.length = as.length)
    (hf : ∀ j, f (n + j) = as[j]?) (name : String) :
    (names.zip as).lookup name = ((names.zipIdx n).lookup name).bind f := by
  induction names generalizing n as with
  | nil => simp
  | cons first names ih =>
    match as with
    | [] => simp at hlength
    | a :: as =>
      simp only [List.zip_cons_cons, List.zipIdx_cons, List.lookup_cons]
      split
      · simpa using (hf 0).symm
      · refine ih (by simpa using hlength) fun j => ?_
        rw [Nat.add_assoc, Nat.add_comm 1, hf]
        rfl

lemma Holds.lookup (h : p.Holds n names bs w) (hlength : names.length = bs.length)
    (name : String) : (names.zip bs).lookup name = (p.find? name).bind p.network.block? := by
  rw [find?, h.entries]
  exact lookup_zip hlength h.block? name

/-- What is found under a name is a block. -/
lemma Holds.found (h : p.Holds n names bs w) (hlength : names.length = bs.length) {name : String}
    (hi : p.find? name = some i) : ∃ b, p.network.block? i = some b := by
  have hmem := mem_members_of_find? hi
  rw [members, h.entries, List.zipIdx_map_snd, List.mem_range'_1, hlength] at hmem
  have hlt : i < p.network.blocks.length := by
    rw [h.length]
    exact hmem.2
  exact ⟨_, List.getElem?_eq_getElem hlt⟩

/-- Connecting leaves the faces of blocks alone. -/
lemma Holds.rewired {routed : Nat → List Nat → Prop} (h : p.Holds n names bs w)
    (hpq : Rewires routed p q) : ∃ cs, q.Holds n names cs q.network.world ∧
      cs.map Block.face = bs.map Block.face ∧
      ∀ (j : Nat) (b : Block γ π), bs[j]? = some b →
        ∃ c, cs[j]? = some c ∧ b.Joins (routed (n + j)) c := by
  have hcount : (q.network.blocks.drop n).length = bs.length := by
    rw [List.length_drop, hpq.joins.length, h.length, Nat.add_sub_cancel_left]
  have hjoins (j : Nat) (b : Block γ π) (hb : bs[j]? = some b) :
      ∃ c, (q.network.blocks.drop n)[j]? = some c ∧ b.Joins (routed (n + j)) c := by
    rw [← h.block? j] at hb
    rw [List.getElem?_drop]
    exact hpq.joins.block _ b hb
  refine ⟨q.network.blocks.drop n, ⟨?_, ?_, rfl, rfl⟩, List.ext_getElem? fun j => ?_, hjoins⟩
  · rw [hpq.rest]
    exact h.entries
  · rw [hcount, hpq.joins.length, h.length]
  · rw [List.getElem?_map, List.getElem?_map]
    cases hb : bs[j]? with
    | none =>
      rw [List.getElem?_eq_none_iff] at hb
      rw [List.getElem?_eq_none_iff.2 (hcount ▸ hb)]
    | some b =>
      obtain ⟨c, hc, hbc⟩ := hjoins j b hb
      rw [hc, Option.map_some, Option.map_some, hbc.face]

variable [Processor ω π]

/-- A connection is made if nothing stands against it. -/
lemma connectOne_verdict (c : Connection) (routes : Routes) (h : p.Holds n names bs w)
    (hlength : names.length = bs.length) :
    match linkError (names.zip bs) c with
    | some e => connectOne c routes p = refuse e
    | none => ∃ made, connectOne c routes p = .ok made := by
  simp only [linkError, h.lookup hlength, connectOne, positionOf]
  cases hi : p.find? c.source with
  | none => simp [refuse, bind, Except.bind]
  | some i =>
    obtain ⟨x, hx⟩ := h.found hlength hi
    cases hk : p.find? c.sink with
    | none => simp [hx, refuse, bind, Except.bind]
    | some k =>
      obtain ⟨y, hy⟩ := h.found hlength hk
      cases x <;> cases y <;>
        simp [hx, hy, sourceAt, sinkAt, Network.source?, Network.sink?, Network.nameOf, refuse,
          bind, Except.bind, Block.isSource, Block.isSink, pure, Except.pure]

/-- All connections are made, or the first one that cannot be made decides. -/
lemma connectAll_verdict (connections : List Connection) (routes : Routes)
    (h : p.Holds n names bs w) (hlength : names.length = bs.length) :
    match connections.findSome? (linkError (names.zip bs)) with
    | some e => ∃ q, connectAll connections routes p = (refuse e, q)
    | none => ∃ routes' q, connectAll connections routes p = (.ok routes', q) := by
  induction connections generalizing p routes bs w with
  | nil => exact ⟨routes, p, rfl⟩
  | cons c rest ih =>
    have hverdict := connectOne_verdict c routes h hlength
    rw [List.findSome?_cons, connectAll]
    cases hc : linkError (names.zip bs) c with
    | some e =>
      simp only [hc] at hverdict
      exact ⟨p, by simp only [hverdict]; rfl⟩
    | none =>
      simp only [hc] at hverdict
      obtain ⟨⟨routes', q⟩, hmade⟩ := hverdict
      simp only [hmade]
      obtain ⟨i, k, _, _, hinforms⟩ := connectOne_ok hmade
      obtain ⟨cs, hcs, hfaces, _⟩ := h.rewired hinforms
      have hlength' : names.length = cs.length := by
        rw [hlength, ← List.length_map Block.face, ← hfaces, List.length_map]
      have hrest := ih routes' hcs hlength'
      rwa [funext (linkError_congr hfaces)] at hrest

end Connecting

end FrameGraph.Pipeline
