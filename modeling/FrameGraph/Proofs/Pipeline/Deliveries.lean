import FrameGraph.Proofs.Network.Deliveries
import FrameGraph.Proofs.Pipeline.Building
import FrameGraph.Proofs.Pipeline.Upkeep

/-!
# Supplying sinks

In a pipeline threads and producers go on, callers come with frames of their own, and calls are
made. As long as a source gets no other consumer, it submits each frame that it gives to its route
to the sinks of the route, in their order, and nothing else.
-/

namespace FrameGraph

/-- A loop that is run on its own. -/
lemma Routine.run_each {σ α : Type} {progress : (σ → Bool) → σ → σ} (f : α → Routine σ Unit)
    (l : List α) (s : σ) :
    (each f l).run progress s = ((), l.foldl (fun t a => ((f a).run progress t).2) s) := by
  induction l generalizing s with
  | nil => rfl
  | cons a l ih => exact (run_bind (f a) (fun _ => each f l) s).trans (ih _)

namespace Pipeline

variable {ω γ π : Type} {p q r : Pipeline ω γ π} {i : Nat}

/-- The source at a position gets no other consumer than the one that it has. -/
def Unrouted (i : Nat) (p q : Pipeline ω γ π) : Prop :=
  ∀ x x', p.network.block? i = some (.source x) → q.network.block? i = some (.source x') →
    x'.engine.consumer = x.engine.consumer ∨ x'.engine.consumer = none

/-- No step of a call interferes with the frames that are being handed over. -/
theorem Deed.bypasses (h : p.Deed q) (hroute : Unrouted i p q) :
    p.network.Bypasses i q.network := by
  have htallies {s : Network ω γ π} (h : p.network.Tallies (fun _ _ => False) s) :
      p.network.Bypasses i s :=
    Network.Each.bypasses (h.each.mono fun _ _ _ hb => hb.bypasses)
  cases h with
  | notes hblocks => exact Network.bypasses_of_blocks_eq hblocks
  | describes => exact Network.bypasses_of_blocks_eq rfl
  | forgets => exact Network.bypasses_of_blocks_eq rfl
  | controls j h => exact htallies (h.tallies fun _ _ => Block.Control.tallies)
  | configures j h => exact htallies (h.tallies fun _ _ => Block.Configures.tallies)
  | makes _ _ _ hblocks => exact Network.bypasses_append hblocks
  | @connects s h =>
    constructor
    · intro x hx
      obtain ⟨b, hb, htallies⟩ := h.tallies.block i _ hx
      cases htallies with
      | source htallies => exact ⟨_, hb, htallies.outstanding, hroute x _ hx hb⟩
    · intro k hk
      rwa [h.tallies.isSome_sink?]

lemma Does.bypasses (h : p.Does q) (hroute : Unrouted i p q) : p.network.Bypasses i q.network := by
  obtain ⟨hdeed | ⟨j, rfl⟩, -⟩ := h
  · exact hdeed.bypasses hroute
  · cases hb : p.network.block? j with
    | none => exact Network.bypasses_of_blocks_eq (by simp [mapNetwork, Network.mapCore, hb])
    | some b =>
      exact Network.bypasses_of_set hb (Block.bypasses_mapCore _) (Network.blocks_mapCore hb _)

/-! ### Runs -/

section Runs

variable [Generator γ] [Processor ω π]

/-- Something goes on besides the thread of a source: another thread or a producer, someone from
outside, or a call that gives the source no other consumer. -/
inductive Beside (i : Nat) (p : Pipeline ω γ π) : Pipeline ω γ π → Prop
  | moves {m s} (hm : m ≠ .source i) (h : p.network.perform m = some s) :
    Beside i p { p with network := s }
  | intervenes {s} (h : p.network.Intervention s) : Beside i p { p with network := s }
  /-- Whatever does not concern the blocks. -/
  | elsewhere {s} (h : s.blocks = p.network.blocks) : Beside i p { p with network := s }
  /-- A caller begins to emit a frame through a source. -/
  | emits {j buffer} (hroute : Unrouted i p (p.mapNetwork fun s => (s.beginOutside j buffer).2)) :
    Beside i p (p.mapNetwork fun s => (s.beginOutside j buffer).2)
  | counts {j f} : Beside i p (p.mapNetwork (Network.countOutside j f))
  | does {q : Pipeline ω γ π} (h : p.Does q) (hroute : Unrouted i p q) : Beside i p q

/-- The runs of a pipeline in which a source gets no other consumer: the frames that the source
gave to its route, and the submits that it made. -/
inductive Feeds (i : Nat) (p : Pipeline ω γ π) :
    List Frame → List (Nat × Frame) → Pipeline ω γ π → Prop
  | refl : Feeds i p [] [] p
  | turn {given log s} {q : Pipeline ω γ π} (h : Feeds i p given log q)
    (hs : q.network.perform (.source i) = some s) :
    Feeds i p (given ++ q.network.given i) (log ++ q.network.submitted i) { q with network := s }
  | beside {given log} {q r : Pipeline ω γ π} (h : Feeds i p given log q) (hr : q.Beside i r) :
    Feeds i p given log r

variable {route : List Nat} {given : List Frame} {log : List (Nat × Frame)}

lemma Beside.bypasses (h : p.Beside i q) : p.network.Bypasses i q.network := by
  cases h with
  | moves hm h => exact (Network.perform_effect h).bypasses hm
  | intervenes h => exact h.bypasses
  | elsewhere h => exact Network.bypasses_of_blocks_eq h
  | @emits j buffer hroute =>
    rcases Network.blocks_beginOutside j buffer p.network with h | ⟨x, engine, hx, h⟩
    · exact Network.bypasses_of_blocks_eq h
    · refine Network.bypasses_of_set hx (.source ?_) h
      rintro rfl
      exact ⟨rfl, hroute x _ hx (Network.block?_of_set_self h hx)⟩
  | counts => exact Network.countOutside_bypasses _ _
  | does h hroute => exact h.bypasses hroute

/-- What a source has submitted and what it has in hand is what it gave to its route, once for each
sink that the route names. -/
structure Fed (i : Nat) (route : List Nat) (given : List Frame) (log : List (Nat × Frame))
    (x : SourceBlock γ) (p : Pipeline ω γ π) : Prop where
  source : p.network.block? i = some (.source x)
  consumer : x.engine.consumer = some (.fanOut route) ∨ x.engine.consumer = none
  sinks : ∀ k ∈ route, (p.network.sink? k).isSome
  balance : log ++ x.thread.outstanding = given.flatMap fun f => route.map (·, f)

omit [Generator γ] [Processor ω π] in
/-- What is in hand is for sinks. -/
lemma Fed.outstanding_sinks {x : SourceBlock γ} (h : p.Fed i route given log x) :
    ∀ e ∈ x.thread.outstanding, (p.network.sink? e.1).isSome := by
  intro e he
  have hmem : e ∈ given.flatMap fun f => route.map (·, f) := by
    rw [← h.balance]
    exact List.mem_append_right log he
  obtain ⟨f, -, hroute⟩ := List.mem_flatMap.1 hmem
  obtain ⟨k, hk, rfl⟩ := List.mem_map.1 hroute
  exact h.sinks k hk

lemma Fed.turn {x : SourceBlock γ} {s : Network ω γ π} (h : p.Fed i route given log x)
    (hs : p.network.perform (.source i) = some s) :
    ∃ x', Fed i route (given ++ p.network.given i) (log ++ p.network.submitted i) x'
      { p with network := s } := by
  obtain ⟨x', hx', hconsumer, hbalance⟩ :=
    Network.moveSource_feeds h.source h.consumer h.outstanding_sinks hs
  have hdrift := (Network.perform_effect hs).drift
  refine ⟨x', hx', ?_, fun k hk => ?_, ?_⟩
  · rw [hconsumer]
    exact h.consumer
  · obtain ⟨y, hy⟩ := Option.isSome_iff_exists.1 (h.sinks k hk)
    obtain ⟨b, hb, hdrifts⟩ := hdrift.block k _ (Network.sink?_eq_some.1 hy)
    cases hdrifts with
    | sink => simp [Network.sink?_eq_some.2 hb]
  · rw [List.append_assoc, hbalance, ← List.append_assoc, h.balance, List.flatMap_append]

lemma Fed.beside {x : SourceBlock γ} (h : p.Fed i route given log x) (hq : p.Beside i q) :
    ∃ x', q.Fed i route given log x' := by
  have hbypasses := hq.bypasses
  obtain ⟨x', hx', hbypassed⟩ := hbypasses.source x h.source
  refine ⟨x', hx', ?_, fun k hk => hbypasses.sinks k (h.sinks k hk), ?_⟩
  · rcases hbypassed.consumer with heq | hnone
    · rw [heq]
      exact h.consumer
    · exact .inr hnone
  · rw [hbypassed.outstanding]
    exact h.balance

/-- Along each run a source submits what it gives to its route, in order, and nothing else. -/
theorem Feeds.fed {x : SourceBlock γ} (hx : p.network.block? i = some (.source x))
    (hidle : x.thread.outstanding = []) (hconsumer : x.engine.consumer = some (.fanOut route))
    (hsinks : ∀ k ∈ route, (p.network.sink? k).isSome) (h : p.Feeds i given log q) :
    ∃ x', q.Fed i route given log x' := by
  induction h with
  | refl => exact ⟨x, hx, .inl hconsumer, hsinks, by simp [hidle]⟩
  | turn h hs ih =>
    obtain ⟨x', hfed⟩ := ih
    exact hfed.turn hs
  | beside h hr ih =>
    obtain ⟨x', hfed⟩ := ih
    exact hfed.beside hr

omit [Generator γ] [Processor ω π] in
/-- A frame that a caller emits to a route is submitted to each sink of the route in turn, whatever
the sinks answer and whatever others do in the meantime. -/
lemma run_emitOutside {s : Network ω γ π} {x : SourceBlock γ} {buffer stamped : FrameBuffer}
    {engine : SourceEngine} (hx : s.block? i = some (.source x))
    (hbegin : x.engine.begin buffer s.clock = (.admitted (.fanOut route) stamped, engine))
    (progress : (Network ω γ π → Bool) → Network ω γ π → Network ω γ π) :
    (Network.emitOutside i buffer).run progress s =
      let f := (s.storage.share stamped).1
      let begun := { s with storage := (s.storage.share stamped).2 }.setSource i { x with engine }
      (true, (route.foldl (fun t k => ((Network.submitFrame f k).run progress t).2)
        begun).countOutside i f) := by
  simp only [Network.emitOutside, Routine.run_bind, Routine.run_modifyGet, Network.beginOutside,
    Network.source?_eq_some.2 hx, hbegin, Routine.run_each, Routine.run_modify]
  rfl

/-- A source supplies the sinks of a route. -/
structure Supplies (p : Pipeline ω γ π) (i : Nat) (route : List Nat) : Prop where
  /-- What the source has submitted, and what it has still to submit, is each frame that it gave to
  its route, once for each time that the route names a sink, and in this order. -/
  balance : ∀ given log q, p.Feeds i given log q → ∃ x, q.network.block? i = some (.source x) ∧
    log ++ x.thread.outstanding = given.flatMap fun f => route.map (·, f)
  /-- A submit is one to the sink: it refuses the frame at once or gets an offer of it. -/
  submits : ∀ (q : Pipeline ω γ π) s k f, q.network.perform (.source i) = some s →
    (k, f) ∈ q.network.submitted i → ∃ rest, Network.Submits i k f rest q.network s
  /-- The source goes on as long as there is something to submit, unless it waits for an answer, and
  it goes on after any answer. -/
  goesOn : ∀ (q : Pipeline ω γ π) x, q.network.block? i = some (.source x) →
    x.thread.outstanding ≠ [] → (q.network.perform (.source i)).isSome ∨
      ∃ f rest, x.thread = .submitting f rest ∧ ∀ r, (q.network.answer (.source i) r).block? i =
        some (.source { x with thread := .delivering f rest })
  /-- A frame that a caller emits through the source is submitted in the same way. -/
  outside : ∀ given log q x buffer c stamped engine, p.Feeds i given log q →
    q.network.block? i = some (.source x) →
      x.engine.begin buffer q.network.clock = (.admitted c stamped, engine) →
        ∀ progress, (Network.emitOutside i buffer).run progress q.network =
          let f := (q.network.storage.share stamped).1
          let begun := { q.network with storage := (q.network.storage.share stamped).2 }.setSource i
            { x with engine }
          (true, (route.foldl (fun t k => ((Network.submitFrame f k).run progress t).2)
            begun).countOutside i f)

/-- A source that has a route to sinks and nothing in hand supplies them. -/
theorem supplies {x : SourceBlock γ} (hx : p.network.block? i = some (.source x))
    (hidle : x.thread.outstanding = []) (hconsumer : x.engine.consumer = some (.fanOut route))
    (hsinks : ∀ k ∈ route, (p.network.sink? k).isSome) : p.Supplies i route where
  balance given log q h := by
    obtain ⟨x', hfed⟩ := h.fed hx hidle hconsumer hsinks
    exact ⟨x', hfed.source, hfed.balance⟩
  submits q s k f hs hmem := Network.submits_of_mem hs hmem
  goesOn q x' hx' hne := by
    by_cases hwaits : ∃ f rest, x'.thread = .submitting f rest
    · obtain ⟨f, rest, hthread⟩ := hwaits
      exact .inr ⟨f, rest, hthread, Network.block?_answer_source hx' hthread⟩
    · exact .inl (Network.isSome_perform_of_outstanding hx' hne
        fun f rest hthread => hwaits ⟨f, rest, hthread⟩)
  outside given log q x' buffer c stamped engine h hx' hbegin := by
    obtain ⟨x'', hfed⟩ := h.fed hx hidle hconsumer hsinks
    obtain rfl : x' = x'' := by simpa [hx'] using hfed.source
    have hc := SourceEngine.consumer_of_admitted hbegin
    rcases hfed.consumer with hroute | hnone
    · obtain rfl : c = .fanOut route := by simpa [hc] using hroute
      exact run_emitOutside hx' hbegin
    · simp [hc] at hnone

end Runs

end Pipeline

end FrameGraph
