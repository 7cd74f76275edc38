import FrameGraph.Proofs.Pipeline.Deeds

/-!
# Connecting the blocks of a graph

Each connection adds its sink to the route of its source. Once all were made, the route of a source
leads to each sink as many times as there are connections between the two, and this is the consumer
that the source gets.
-/

namespace FrameGraph.Pipeline

variable {ω γ π : Type}

/-! ### Routes -/

section Routes

variable {routes : Routes} {i j k : Nat} {targets : List Nat}

/-- The route of a source. -/
def targetsOf (i : Nat) : Routes → List Nat
  | [] => []
  | route :: rest => if route.1 = i then route.2 else targetsOf i rest

/-- No source has two routes. -/
def Single (routes : Routes) : Prop := routes.Pairwise fun a b => a.1 ≠ b.1

lemma targetsOf_addRoute :
    targetsOf j (addRoute i k routes) =
      if j = i then targetsOf j routes ++ [k] else targetsOf j routes := by
  induction routes with
  | nil => by_cases hji : j = i <;> simp [addRoute, targetsOf, hji, Ne.symm]
  | cons route rest ih =>
    by_cases hroute : route.1 = i
    · by_cases hji : j = i
      · simp [addRoute, targetsOf, hroute, hji]
      · have hij : i ≠ j := Ne.symm hji
        simp [addRoute, targetsOf, hroute, hji, hij]
    · by_cases hrj : route.1 = j
      · have hji : j ≠ i := hrj ▸ hroute
        simp [addRoute, targetsOf, hrj, hji]
      · simp [addRoute, targetsOf, hroute, hrj, ih]

lemma fst_of_mem_addRoute {route : Nat × List Nat} (h : route ∈ addRoute i k routes) :
    route.1 = i ∨ ∃ other ∈ routes, other.1 = route.1 := by
  induction routes with
  | nil => simp_all [addRoute]
  | cons first rest ih =>
    simp only [addRoute] at h
    split at h
    · rename_i hfirst
      rcases List.mem_cons.1 h with rfl | h
      · exact .inl hfirst
      · exact .inr ⟨route, List.mem_cons_of_mem _ h, rfl⟩
    · rcases List.mem_cons.1 h with heq | h
      · exact .inr ⟨first, List.mem_cons_self, by rw [heq]⟩
      · apply (ih h).imp_right
        rintro ⟨other, hother, heq⟩
        exact ⟨other, List.mem_cons_of_mem _ hother, heq⟩

lemma single_addRoute (h : Single routes) : Single (addRoute i k routes) := by
  induction routes with
  | nil => exact List.pairwise_singleton _ _
  | cons first rest ih =>
    obtain ⟨hfirst, hrest⟩ := List.pairwise_cons.1 h
    simp only [addRoute]
    split
    · exact List.pairwise_cons.2 ⟨hfirst, hrest⟩
    · rename_i hne
      refine List.pairwise_cons.2 ⟨?_, ih hrest⟩
      intro route hroute
      rcases fst_of_mem_addRoute hroute with heq | ⟨other, hother, heq⟩
      · rwa [heq]
      · rw [← heq]
        exact hfirst other hother

lemma targetsOf_of_mem (h : Single routes) (hmem : (i, targets) ∈ routes) :
    targetsOf i routes = targets := by
  induction routes with
  | nil => cases hmem
  | cons first rest ih =>
    obtain ⟨hfirst, hrest⟩ := List.pairwise_cons.1 h
    rcases List.mem_cons.1 hmem with rfl | hmem
    · simp [targetsOf]
    · simp only [targetsOf, if_neg (hfirst _ hmem)]
      exact ih hrest hmem

end Routes

/-! ### Connections -/

section Connections

variable {p q r : Pipeline ω γ π} {routes routes' : Routes} {c : Connection}
  {cs : List Connection} {i k : Nat}

/-- Sources get these consumers, and sinks may learn formats. -/
structure Rewires (routed : Nat → List Nat → Prop) (p q : Pipeline ω γ π) : Prop where
  rest : q = { p with network := q.network }
  joins : p.network.Joins routed q.network
  network : q.network = { p.network with blocks := q.network.blocks }

section Rewires

variable {routed routed' : Nat → List Nat → Prop}

lemma Rewires.refl (p : Pipeline ω γ π) : Rewires routed p p := ⟨rfl, .refl _, rfl⟩

lemma Rewires.trans (h : Rewires routed p q) (h' : Rewires routed q r) : Rewires routed p r :=
  ⟨by rw [h'.rest, h.rest], h.joins.trans h'.joins, by rw [h'.network, h.network]⟩

lemma Rewires.mono (h : Rewires routed p q)
    (hrouted : ∀ i targets, routed i targets → routed' i targets) : Rewires routed' p q :=
  ⟨h.rest, h.joins.mono hrouted, h.network⟩

lemma Rewires.storage (h : Rewires routed p q) : q.network.storage = p.network.storage := by
  rw [h.network]

lemma rewires_install (p : Pipeline ω γ π) (route : Nat × List Nat) :
    Rewires (fun i targets => (i, targets) = route) p (p.install route) := by
  cases hb : p.network.block? route.1 with
  | none =>
    have h : (p.install route).network = p.network := by
      simp [install, mapNetwork, Network.mapSource, Network.source?, hb]
    refine ⟨rfl, ?_, by rw [h]⟩
    rw [h]
    exact .refl _
  | some b =>
    refine ⟨rfl, Network.joins_of_set hb ?_ (Network.blocks_mapSource hb _), ?_⟩
    · cases b with
      | source x => exact .source rfl
      | sink y => exact .same
      | stage z => exact .same
    · simp only [install, mapNetwork, Network.mapSource]
      split <;> rfl

/-- All sources with a route get their consumers. -/
lemma rewires_installAll (p : Pipeline ω γ π) :
    Rewires (fun i targets => (i, targets) ∈ routes) p (routes.foldl install p) := by
  induction routes generalizing p with
  | nil => exact .refl p
  | cons route rest ih =>
    refine ((rewires_install p route).mono ?_).trans
      ((ih (p.install route)).mono ?_)
    · intro i targets h
      exact List.mem_cons.2 (.inl h)
    · intro i targets h
      exact List.mem_cons_of_mem _ h

end Rewires

/-- No source gets a consumer. -/
abbrev Informs : Pipeline ω γ π → Pipeline ω γ π → Prop := Rewires fun _ _ => False

lemma Informs.find? (h : Informs p q) : q.find? = p.find? := by
  rw [h.rest]
  rfl

lemma Informs.isSome_sink? (h : Informs p q) (hk : (q.network.sink? k).isSome) :
    (p.network.sink? k).isSome := by
  obtain ⟨y, hy⟩ := Option.isSome_iff_exists.1 hk
  obtain ⟨b, hb, hjoins⟩ := h.joins.source (Network.sink?_eq_some.1 hy)
  cases hjoins <;> simp [Network.sink?_eq_some.2 hb]

/-- The ends of a connection are at these positions. -/
structure Between (p : Pipeline ω γ π) (c : Connection) (i k : Nat) : Prop where
  source : p.find? c.source = some i
  sink : p.find? c.sink = some k
  isSink : (p.network.sink? k).isSome

lemma Between.of_informs (h : Informs p q) (hc : q.Between c i k) : p.Between c i k where
  source := by
    rw [← h.find?]
    exact hc.source
  sink := by
    rw [← h.find?]
    exact hc.sink
  isSink := h.isSome_sink? hc.isSink

variable [Processor ω π]

/-- A sink that is told a format changes in nothing else. -/
lemma informs_setFormat {y : SinkBlock π} (hy : p.network.sink? k = some y) (info : FrameInfo) :
    Informs p (p.mapNetwork fun s => s.setSink k (y.setFormat info).2) := by
  refine ⟨rfl, Network.joins_of_set (Network.sink?_eq_some.1 hy) ?_ rfl, rfl⟩
  simp only [SinkBlock.setFormat]
  split
  · exact .same
  split
  · exact .same
  · exact .sink

lemma connectOne_ok (h : connectOne c routes p = .ok (routes', q)) :
    ∃ i k, p.Between c i k ∧ routes' = addRoute i k routes ∧ Informs p q := by
  simp only [connectOne, positionOf] at h
  cases hi : p.find? c.source with
  | none => simp [hi, refuse, bind, Except.bind] at h
  | some i =>
    cases hk : p.find? c.sink with
    | none => simp [hi, hk, refuse, bind, Except.bind] at h
    | some k =>
      cases hx : p.network.source? i with
      | none => simp [hi, hk, sourceAt, hx, refuse, bind, Except.bind] at h
      | some x =>
        cases hy : p.network.sink? k with
        | none => simp [hi, hk, sourceAt, hx, sinkAt, hy, refuse, bind, Except.bind] at h
        | some y =>
          simp only [hi, hk, sourceAt, hx, sinkAt, hy, bind, Except.bind, pure, Except.pure,
            Except.ok.injEq, Prod.mk.injEq] at h
          obtain ⟨hroutes, hq⟩ := h
          refine ⟨i, k, ⟨hi, hk, by simp [hy]⟩, hroutes.symm, ?_⟩
          rw [← hq]
          split
          · exact informs_setFormat hy _
          · exact .refl p

/-- The connections are made one after the other. -/
lemma connectAll_spec (cs : List Connection) (routes : Routes) (p : Pipeline ω γ π) :
    Informs p (connectAll cs routes p).2 ∧
    ∀ routes', (connectAll cs routes p).1 = .ok routes' →
      (Single routes → Single routes') ∧ (∀ c ∈ cs, ∃ i k, p.Between c i k) ∧
      ∀ i k, (targetsOf i routes').count k = (targetsOf i routes).count k + p.linksOf cs i k := by
  induction cs generalizing routes p with
  | nil =>
    refine ⟨.refl p, ?_⟩
    intro routes' h
    obtain rfl : routes = routes' := by simpa [connectAll] using h
    exact ⟨id, by simp, by simp [linksOf]⟩
  | cons c cs ih =>
    simp only [connectAll]
    split
    · rename_i routes₁ q h
      obtain ⟨i, k, hc, rfl, hinforms⟩ := connectOne_ok h
      obtain ⟨hrest, hspec⟩ := ih (addRoute i k routes) q
      refine ⟨hinforms.trans hrest, ?_⟩
      intro routes' hroutes
      obtain ⟨hsingle, hbetween, hcount⟩ := hspec routes' hroutes
      refine ⟨fun h => hsingle (single_addRoute h), ?_, ?_⟩
      · intro d hd
        rcases List.mem_cons.1 hd with rfl | hd
        · exact ⟨i, k, hc⟩
        · obtain ⟨j, l, hd⟩ := hbetween d hd
          exact ⟨j, l, hd.of_informs hinforms⟩
      · intro j l
        have hlinks : q.linksOf cs j l = p.linksOf cs j l := by simp only [linksOf, hinforms.find?]
        rw [hcount, targetsOf_addRoute, hlinks, linksOf, linksOf, List.countP_cons, hc.source,
          hc.sink]
        by_cases hji : j = i
        · by_cases hlk : l = k
          · simp [hji, hlk]
            omega
          · simp [hji, Ne.symm hlk]
        · simp [hji, Ne.symm hji]
    · exact ⟨.refl p, by simp⟩

/-- Once all connections were made, each source gets the route that they describe. -/
lemma rewires_of_ok (h : connectAll p.config.connections [] p = (.ok routes, q)) :
    Rewires p.Routed p (routes.foldl install q) := by
  obtain ⟨hinforms, hspec⟩ := connectAll_spec p.config.connections [] p
  rw [h] at hinforms hspec
  obtain ⟨hsingle, hbetween, hcount⟩ := hspec routes rfl
  apply (hinforms.mono fun _ _ h => h.elim).trans
  apply (rewires_installAll q).mono
  intro i targets hmem
  have hlinks (k : Nat) : targets.count k = p.links i k := by
    rw [← targetsOf_of_mem (hsingle .nil) hmem, hcount]
    simp [targetsOf, links]
  refine ⟨?_, hlinks, ?_⟩
  · intro c hc
    obtain ⟨j, k, hbetween⟩ := hbetween c hc
    simp [hbetween.source, hbetween.sink]
  · intro k hk
    have hpos : 0 < p.links i k := hlinks k ▸ List.count_pos_iff.2 hk
    obtain ⟨c, hc, hlink⟩ := List.countP_pos_iff.1 hpos
    obtain ⟨j, l, hbetween⟩ := hbetween c hc
    have hsink : p.find? c.sink = some k := (of_decide_eq_true hlink).2
    obtain rfl : l = k := by simpa [hsink] using hbetween.sink.symm
    exact ⟨mem_members_of_find? hsink, hbetween.isSink⟩

/-- When a connection cannot be made, no source gets a consumer. -/
lemma rewires_of_error {f : Fault} (h : connectAll cs [] p = (.error f, q)) :
    Rewires p.Routed p q := by
  have hinforms := (connectAll_spec cs [] p).1
  rw [h] at hinforms
  exact hinforms.mono fun _ _ h => h.elim

end Connections

end FrameGraph.Pipeline
