import FrameGraph.Proofs.Pipeline.Balance

/-!
# Threads keep the balance

A source begins with a frame, hands it to one sink after the other, and gets an answer from each.
These are the moves that change what was begun with, handed over or taken in.
-/

namespace FrameGraph

/-- What the thread of a source does by itself and not with a frame in its hands. -/
lemma SourceBlock.tallies_of_loops {γ : Type} {x x' : SourceBlock γ} {routed : List Nat → Prop}
    (hx : x.thread.isLooping = true)
    (hx' : x'.thread.isLooping = true ∨ x'.thread = .ended)
    (hoffered : ∀ buffer, x'.thread = .offering buffer → buffer.isValid = true)
    (hconsumer : x'.engine.consumer = x.engine.consumer)
    (hstats : x'.core.stats.processed = x.core.stats.processed) : x.Tallies routed x' :=
  .of_frame (SourceThread.frame?_of_isLooping (.inl hx)) (SourceThread.frame?_of_isLooping hx')
    hoffered hstats (.inl hconsumer)

/-- A frame that all sinks were offered is counted. -/
lemma SourceBlock.tallies_of_counts {γ : Type} {x x' : SourceBlock γ}
    {routed : List Nat → Prop} {f : Frame} (hx : x.thread = .delivering f [])
    (hx' : x'.thread = .checking ∨ x'.thread = .ended)
    (hconsumer : x'.engine.consumer = x.engine.consumer)
    (hstats : x'.core.stats.processed = x.core.stats.processed + 1) : x.Tallies routed x' := by
  have hframe : x'.thread.frame? = none ∧ x'.thread.targets = [] ∧
      x'.thread.isSubmitting = false := by
    rcases hx' with h | h <;>
    · rw [h]
      exact ⟨rfl, rfl, rfl⟩
  refine ⟨?_, ?_, ?_, ?_, ?_, .inl hconsumer⟩
  · simp [SourceBlock.begun, hframe.1, hstats, hx]
  · simp [hframe.2.1, hx]
  · simp [hframe.2.2, hx]
  · intro f hf
    simp [hframe.1] at hf
  · intro buffer hbuffer
    simp [hbuffer] at hx'

namespace Network

variable {ω γ π : Type} {s t : Network ω γ π} {i : Nat}

/-- A source that is replaced by a source leaves sinks where they were. -/
lemma isSome_sink?_of_setSource {x x' : SourceBlock γ} (hx : s.block? i = some (.source x))
    (ht : t.blocks = s.blocks.set i (.source x')) (k : Nat) :
    (t.sink? k).isSome = (s.sink? k).isSome := by
  by_cases hik : i = k
  · subst hik
    simp [sink?, hx, block?_of_set_self ht hx]
  · simp [sink?, block?_of_set_ne ht hik]

/-- A sink that is replaced by a sink leaves sinks where they were. -/
lemma isSome_sink?_of_setSink {y y' : SinkBlock π} (hy : s.block? i = some (.sink y))
    (ht : t.blocks = s.blocks.set i (.sink y')) (k : Nat) :
    (t.sink? k).isSome = (s.sink? k).isSome := by
  by_cases hik : i = k
  · subst hik
    simp [sink?, hy, block?_of_set_self ht hy]
  · simp [sink?, block?_of_set_ne ht hik]

/-- A sink answers a source that waits for it. -/
lemma blocks_answer_source {k : Nat} {x : SourceBlock γ} {y y' : SinkBlock π} {f : Frame}
    {rest : List Nat} (hx : s.block? i = some (.source x)) (hy : s.block? k = some (.sink y))
    (hthread : x.thread = .submitting f rest) (r : Except Error Unit) :
    ((s.setSink k y').answer (.source i) r).blocks =
      (s.blocks.set k (.sink y')).set i (.source { x with thread := .delivering f rest }) := by
  have hx' : (s.setSink k y').source? i = some x := by
    rw [source?_eq_some]
    exact (block?_of_set_ne rfl (ne_of_source_of_sink hx hy).symm).trans hx
  simp only [answer, hx', hthread]
  rfl

end Network

namespace Pipeline

variable {ω γ π : Type} {p : Pipeline ω γ π} {s : Network ω γ π} {i k : Nat}
  {x x' : SourceBlock γ} {y y' : SinkBlock π}

/-! ### A frame is begun with -/

/-- A source begins to hand a frame over each of its connections. -/
structure Begins (p : Pipeline ω γ π) (s : Network ω γ π) (i : Nat) (x x' : SourceBlock γ)
    (f : Frame) (targets : List Nat) : Prop where
  source : p.network.block? i = some (.source x)
  blocks : s.blocks = p.network.blocks.set i (.source x')
  member : i ∈ p.members
  offering : ∃ buffer, x.thread = .offering buffer
  thread : x'.thread = .delivering f targets
  core : x'.core = x.core
  consumer : x.engine.consumer = some (.fanOut targets)
  keeps : x'.engine.consumer = x.engine.consumer
  loaded : f.buffer.Loaded

namespace Begins

variable {f : Frame} {targets : List Nat} {j : Nat}

lemma same (h : Begins p s i x x' f targets) : p.Same { p with network := s } :=
  ⟨rfl, rfl, by rw [h.blocks, List.length_set], Network.isSome_sink?_of_setSource h.source h.blocks⟩

lemma source' (h : Begins p s i x x' f targets) : s.block? i = some (.source x') :=
  Network.block?_of_set_self h.blocks h.source

lemma other (h : Begins p s i x x' f targets) (hj : j ≠ i) : s.block? j = p.network.block? j :=
  Network.block?_of_set_ne h.blocks (Ne.symm hj)

lemma routed (h : Begins p s i x x' f targets) (hp : p.Balanced) : p.Routed i targets := by
  have hfair : p.SourceFair i x := hp.fair i _ h.source
  rcases hfair.consumer h.member with hnone | ⟨targets', heq, hrouted⟩
  · simp [h.consumer] at hnone
  · obtain rfl : targets = targets' := by simpa [h.consumer] using heq
    exact hrouted

lemma frame?_eq (h : Begins p s i x x' f targets) : x.thread.frame? = none ∧
    x.thread.targets = [] ∧ x.thread.isSubmitting = false := by
  obtain ⟨buffer, hbuffer⟩ := h.offering
  apply SourceThread.frame?_of_isLooping
  rw [hbuffer]
  exact .inl rfl

lemma begunAt (h : Begins p s i x x' f targets) : s.begunAt i = p.network.begunAt i + 1 := by
  simp [Network.begunAt, h.source, h.source', Block.begun, SourceBlock.begun, h.frame?_eq.1,
    h.thread, h.core]

lemma begunAt_of_ne (h : Begins p s i x x' f targets) (hj : j ≠ i) :
    s.begunAt j = p.network.begunAt j := by
  simp only [Network.begunAt, h.other hj]

lemma submittingAt (h : Begins p s i x x' f targets) (j : Nat) :
    s.submittingAt j = p.network.submittingAt j := by
  by_cases hj : j = i
  · subst hj
    simp [Network.submittingAt, Network.source?, h.source, h.source', h.frame?_eq.2.2, h.thread]
  · simp [Network.submittingAt, Network.source?, h.other hj]

/-- What each connection carries from now on is owed to the sink at its end. -/
lemma accounted (h : Begins p s i x x' f targets) (hp : p.Balanced) {e : SinkEngine}
    (haccounts : p.Accounted k e) : Accounted { p with network := s } k e := by
  have hlinks := (h.routed hp).links k
  have howed := Network.total_set h.source h.blocks (Block.owed k)
  rw [Block.owed, Block.owed, h.frame?_eq.2.1, h.thread] at howed
  simp only [SourceThread.targets_delivering, List.count_nil] at howed
  rw [Accounted, h.same.inflow, inflow_succ h.begunAt fun j hj => h.begunAt_of_ne hj]
  rw [Accounted] at haccounts
  simp only
  omega

lemma fair (h : Begins p s i x x' f targets) (hp : p.Balanced) : p.SourceFair i x' := by
  have hfair : p.SourceFair i x := hp.fair i _ h.source
  constructor
  · intro g hg
    obtain rfl : f = g := by simpa [h.thread] using hg
    exact h.loaded
  · simp [h.thread]
  · rw [h.thread]
    exact (h.routed hp).sinks
  · rw [h.keeps]
    exact hfair.consumer

end Begins

lemma Balanced.begins (hp : p.Balanced) {f : Frame} {targets : List Nat}
    (h : Begins p s i x x' f targets) : Balanced { p with network := s } := by
  constructor
  · intro j hj
    exact h.same.length ▸ hp.placed j hj
  · intro k hk y hy
    have hki : k ≠ i := by
      rintro rfl
      simp [h.source'] at hy
    exact h.accounted hp (hp.accounts k hk y ((h.other hki).symm.trans hy))
  · intro j
    have htotal := Network.total_set h.source h.blocks (Block.offersOf j)
    have hoffers := hp.offers j
    simp only [Block.offersOf] at htotal
    simp only [h.submittingAt]
    omega
  · intro j hj hne
    by_cases hji : j = i
    · exact h.same.resolved (h.routed hp).resolved
    · apply h.same.resolved
      exact hp.resolved j hj (h.begunAt_of_ne hji ▸ hne)
  · intro j b hb
    by_cases hji : j = i
    · subst hji
      obtain rfl : b = .source x' := by simpa [h.source'] using hb.symm
      exact h.same.fair (b := .source x') (h.fair hp)
    · exact h.same.fair (hp.fair j b ((h.other hji).symm.trans hb))

/-! ### A frame is handed over or taken in -/

/-- What passes between the source `i` and the sink `k`: what the source still has to hand over and
what waits at the sink for an answer become what the sink took in. -/
structure Passes (i k : Nat) (x x' : SourceBlock γ) (e e' : SinkEngine) : Prop where
  begun : x'.begun = x.begun
  frame : x'.thread.frame? = x.thread.frame?
  offered : ∀ buffer, x'.thread ≠ .offering buffer
  targets : x'.thread.targets ⊆ x.thread.targets
  consumer : x'.engine.consumer = x.engine.consumer
  others : ∀ l, l ≠ k → x'.thread.targets.count l = x.thread.targets.count l
  total : e'.intake + e'.pending.length + x'.thread.targets.count k =
    e.intake + e.pending.length + x.thread.targets.count k
  /-- The offers of the source at the sink are its own, and only while it waits. -/
  offers : e'.pending.countP (·.producer = .source i) + x.thread.isSubmitting.toNat =
    e.pending.countP (·.producer = .source i) + x'.thread.isSubmitting.toNat
  strangers : ∀ j, j ≠ i → e'.pending.countP (·.producer = .source j) =
    e.pending.countP (·.producer = .source j)

/-- A source and a sink are replaced, and something passes between them. -/
structure Exchange (p : Pipeline ω γ π) (s : Network ω γ π) (i k : Nat) (x x' : SourceBlock γ)
    (y y' : SinkBlock π) : Prop where
  source : p.network.block? i = some (.source x)
  sink : p.network.block? k = some (.sink y)
  blocks : s.blocks = (p.network.blocks.set k (.sink y')).set i (.source x')
  passes : Passes i k x x' y.engine y'.engine

namespace Exchange

variable {j : Nat}

-- the sink is replaced first, and then the source
lemma source_setSink (h : Exchange p s i k x x' y y') :
    (p.network.setSink k y').block? i = some (.source x) :=
  (Network.block?_of_set_ne rfl (Network.ne_of_source_of_sink h.source h.sink).symm).trans h.source

lemma source' (h : Exchange p s i k x x' y y') : s.block? i = some (.source x') :=
  Network.block?_of_set_self (s := p.network.setSink k y') h.blocks h.source_setSink

lemma sink' (h : Exchange p s i k x x' y y') : s.block? k = some (.sink y') := by
  have hset : (p.network.setSink k y').block? k = some (.sink y') :=
    Network.block?_of_set_self rfl h.sink
  rw [← hset]
  exact Network.block?_of_set_ne h.blocks (Network.ne_of_source_of_sink h.source h.sink)

lemma other (h : Exchange p s i k x x' y y') (hji : j ≠ i) (hjk : j ≠ k) :
    s.block? j = p.network.block? j := by
  have hset : (p.network.setSink k y').block? j = p.network.block? j :=
    Network.block?_of_set_ne rfl (Ne.symm hjk)
  rw [← hset]
  exact Network.block?_of_set_ne h.blocks (Ne.symm hji)

lemma total (h : Exchange p s i k x x' y y') (f : Block γ π → Nat) :
    s.total f + f (.source x) + f (.sink y) =
      p.network.total f + f (.source x') + f (.sink y') := by
  have hsink := Network.total_set h.sink (t := p.network.setSink k y') rfl f
  have hsource := Network.total_set h.source_setSink h.blocks f
  omega

lemma same (h : Exchange p s i k x x' y y') : p.Same { p with network := s } := by
  refine ⟨rfl, rfl, by rw [h.blocks, List.length_set, List.length_set], ?_⟩
  intro l
  rw [Network.isSome_sink?_of_setSource h.source_setSink h.blocks l]
  exact Network.isSome_sink?_of_setSink h.sink rfl l

lemma begunAt (h : Exchange p s i k x x' y y') : s.begunAt = p.network.begunAt := by
  funext j
  by_cases hji : j = i
  · simp [Network.begunAt, hji, h.source, h.source', Block.begun, h.passes.begun]
  · by_cases hjk : j = k
    · simp [Network.begunAt, hjk, h.sink, h.sink', Block.begun]
    · simp only [Network.begunAt, h.other hji hjk]

lemma submittingAt (h : Exchange p s i k x x' y y') (hji : j ≠ i) :
    s.submittingAt j = p.network.submittingAt j := by
  by_cases hjk : j = k
  · simp [Network.submittingAt, Network.source?, hjk, h.sink, h.sink']
  · simp only [Network.submittingAt, Network.source?, h.other hji hjk]

lemma accounted (h : Exchange p s i k x x' y y') (hp : p.Balanced) {l : Nat} (hl : l ∈ p.members)
    {z : SinkBlock π} (hz : s.block? l = some (.sink z)) :
    Accounted { p with network := s } l z.engine := by
  have howed := h.total (Block.owed l)
  simp only [Block.owed] at howed
  rw [Accounted, h.same.inflow]
  simp only [h.begunAt]
  by_cases hlk : l = k
  · subst hlk
    obtain rfl : z = y' := by simpa [h.sink'] using hz.symm
    have haccounts := hp.accounts l hl y h.sink
    have hsum := h.passes.total
    rw [Accounted] at haccounts
    omega
  · have hli : l ≠ i := by
      rintro rfl
      simp [h.source'] at hz
    have haccounts := hp.accounts l hl z ((h.other hli hlk).symm.trans hz)
    have hcount := h.passes.others l hlk
    rw [Accounted] at haccounts
    omega

lemma offers (h : Exchange p s i k x x' y y') {j : Nat}
    (hoffers : p.network.total (Block.offersOf j) = p.network.submittingAt j) :
    s.total (Block.offersOf j) = s.submittingAt j := by
  have htotal := h.total (Block.offersOf j)
  simp only [Block.offersOf] at htotal
  by_cases hji : j = i
  · subst hji
    have hpassed := h.passes.offers
    have hsubmitting : s.submittingAt j = x'.thread.isSubmitting.toNat := by
      simp [Network.submittingAt, Network.source?, h.source']
    have hsubmitted : p.network.submittingAt j = x.thread.isSubmitting.toNat := by
      simp [Network.submittingAt, Network.source?, h.source]
    omega
  · have hpassed := h.passes.strangers j hji
    have hsubmitting := h.submittingAt hji
    omega

lemma fair (h : Exchange p s i k x x' y y') (hp : p.Balanced) : p.SourceFair i x' := by
  have hfair : p.SourceFair i x := hp.fair i _ h.source
  constructor
  · intro f hf
    exact hfair.frame f (h.passes.frame ▸ hf)
  · intro buffer hbuffer
    exact absurd hbuffer (h.passes.offered buffer)
  · intro l hl
    exact hfair.targets l (h.passes.targets hl)
  · intro hi
    rw [h.passes.consumer]
    exact hfair.consumer hi

end Exchange

/-- Something passes between a source and a sink. -/
lemma Balanced.exchange (hp : p.Balanced) (h : Exchange p s i k x x' y y')
    (hsink : p.SinkFair k y'.engine) : Balanced { p with network := s } := by
  constructor
  · intro j hj
    exact h.same.length ▸ hp.placed j hj
  · intro l hl z hz
    exact h.accounted hp hl hz
  · exact fun j => h.offers (hp.offers j)
  · intro j hj hne
    simp only [h.begunAt] at hne
    exact h.same.resolved (hp.resolved j hj hne)
  · intro j b hb
    by_cases hji : j = i
    · subst hji
      obtain rfl : b = .source x' := by simpa [h.source'] using hb.symm
      exact h.same.fair (b := .source x') (h.fair hp)
    · by_cases hjk : j = k
      · subst hjk
        obtain rfl : b = .sink y' := by simpa [h.sink'] using hb.symm
        exact h.same.fair (b := .sink y') hsink
      · exact h.same.fair (hp.fair j b ((h.other hji hjk).symm.trans hb))

lemma passes_of_hands {f : Frame} {rest : List Nat} (e : SinkEngine)
    (hthread : x.thread = .delivering f (k :: rest)) :
    Passes i k x { x with thread := .submitting f rest } e (e.approach ⟨.source i, f⟩) where
  begun := by simp [SourceBlock.begun, SourceBlock.core, hthread]
  frame := by simp [hthread]
  offered := by simp
  targets := by simp [hthread]
  consumer := rfl
  others l hl := by simp [hthread, Ne.symm hl]
  total := by
    have hlength := (e.pending_approach ⟨.source i, f⟩).length_eq
    have hintake : (e.approach ⟨.source i, f⟩).intake = e.intake := rfl
    simp only [hthread, SourceThread.targets_submitting, SourceThread.targets_delivering,
      List.count_cons_self, hlength, hintake, List.length_cons]
    omega
  offers := by
    have hcount := (e.pending_approach ⟨.source i, f⟩).countP_eq (·.producer = .source i)
    simp [hthread, hcount]
  strangers j hj := by
    have hcount := (e.pending_approach ⟨.source i, f⟩).countP_eq (·.producer = .source j)
    simp [hcount, Ne.symm hj]

lemma passes_of_answer {f : Frame} {rest : List Nat} {e e' : SinkEngine} {o : Offer} {m : Move}
    (hthread : x.thread = .submitting f rest) (hpick : e.Picks k m o e')
    (hproducer : o.producer = .source i) (hstop : e.stopping = false)
    (hanswer : (e'.consider o).1 ≠ .waits) :
    Passes i k x { x with thread := .delivering f rest } e (e'.consider o).2 := by
  have hstop' : e'.stopping = false := by cases hpick <;> exact hstop
  obtain ⟨hintake, hpending, -⟩ := SinkEngine.consider_of_answer hstop' hanswer
  refine ⟨?_, ?_, by simp, ?_, rfl, ?_, ?_, ?_, ?_⟩
  · simp [SourceBlock.begun, SourceBlock.core, hthread]
  · simp [hthread]
  · simp [hthread]
  · simp [hthread]
  · have hlength := hpick.pending.length_eq
    have hpicked := hpick.intake
    simp only [List.length_cons] at hlength
    simp only [hthread, SourceThread.targets_submitting, SourceThread.targets_delivering, hpending]
    omega
  · have hcount := hpick.pending.countP_eq (·.producer = .source i)
    simp [hthread, hpending, hcount, hproducer]
  · intro j hj
    have hcount := hpick.pending.countP_eq (·.producer = .source j)
    simp [hpending, hcount, hproducer, Ne.symm hj]

/-! ### Moves -/

/-- No sink of the graph has failed, and no source is about to emit a frame without a payload. -/
structure Wholesome (p : Pipeline ω γ π) : Prop where
  sinks : ∀ k ∈ p.members, ∀ y, p.network.block? k = some (.sink y) → y.core.state ≠ .error
  frames : ∀ i x, p.network.block? i = some (.source x) → ∀ buffer,
    x.thread = .offering buffer → buffer.size ≠ 0

/-- A sink to which a frame has yet to be handed takes it. -/
lemma precheck_of_target (hp : p.Balanced) (horderly : p.Orderly) (hwhole : p.Wholesome)
    (hx : p.network.block? i = some (.source x)) {f : Frame} {rest : List Nat}
    (hthread : x.thread = .delivering f (k :: rest)) :
    ∃ y, p.network.block? k = some (.sink y) ∧ y.engine.precheck f = .ok () := by
  have hfair : p.SourceFair i x := hp.fair i _ hx
  obtain ⟨hk, hsome⟩ := hfair.targets k (by simp [hthread])
  obtain ⟨y, hy⟩ := Option.isSome_iff_exists.1 hsome
  rw [Network.sink?_eq_some] at hy
  obtain ⟨-, hup⟩ := horderly i x hx (by simp [hthread])
  have hstate : y.engine.core.state = .running := by
    rcases List.mem_pair.1 (hup k hk y hy).state with h | h
    · exact h
    · exact absurd h (hwhole.sinks k hk y hy)
  obtain ⟨hvalid, hsize⟩ := hfair.frame f (by simp [hthread])
  exact ⟨y, hy, by simp [SinkEngine.precheck, hvalid, hsize, hstate]⟩

/-- Whoever waits for an answer is a source of the graph that submits a frame. -/
lemma submitting_of_pending (hp : p.Balanced) (hy : p.network.block? k = some (.sink y)) {o : Offer}
    (ho : o ∈ y.engine.pending) :
    k ∈ p.members ∧ ∃ i x f rest, o.producer = .source i ∧
      p.network.block? i = some (.source x) ∧ x.thread = .submitting f rest := by
  have hfair : p.SinkFair k y.engine := hp.fair k _ hy
  obtain ⟨hk, i, hproducer⟩ := hfair.pending o ho
  obtain ⟨x, f, rest, hx, hthread⟩ := Network.submitting_of_offer (hp.offers i) hy ho hproducer
  exact ⟨hk, i, x, f, rest, hproducer, hx, hthread⟩

/-- A block is replaced by one that has taken part in nothing since. -/
lemma Balanced.set (hp : p.Balanced) {b b' : Block γ π} (hb : p.network.block? i = some b)
    (h : b.Tallies (p.Routed i) b') (hs : s.blocks = p.network.blocks.set i b') :
    Balanced { p with network := s } :=
  hp.tallies rfl rfl (Network.tallies_of_set hb h hs)

/-- A source of the graph hands a frame to a sink. -/
lemma Balanced.hands (hp : p.Balanced) (hx : p.network.block? i = some (.source x)) {f : Frame}
    {rest : List Nat} (hthread : x.thread = .delivering f (k :: rest))
    (hy : p.network.block? k = some (.sink y))
    (hs : s.blocks = (p.network.blocks.set k
      (.sink { y with engine := y.engine.approach ⟨.source i, f⟩ })).set i
        (.source { x with thread := .submitting f rest })) :
    Balanced { p with network := s } := by
  have hsource : p.SourceFair i x := hp.fair i _ hx
  have hsink : p.SinkFair k y.engine := hp.fair k _ hy
  apply hp.exchange ⟨hx, hy, hs, passes_of_hands y.engine hthread⟩
  constructor
  · intro o ho
    rcases List.mem_cons.1 ((y.engine.pending_approach _).mem_iff.1 ho) with rfl | ho
    · exact ⟨(hsource.targets k (by simp [hthread])).1, i, rfl⟩
    · exact hsink.pending o ho
  · exact hsink.rested

lemma SinkFair.answer {e e' : SinkEngine} {o : Offer} {m : Move} (h : p.SinkFair k e)
    (hstop : e.stopping = false) (hstate : e.core.state ∈ [.running, .error])
    (hpick : e.Picks k m o e') (hanswer : (e'.consider o).1 ≠ .waits) :
    p.SinkFair k (e'.consider o).2 := by
  have hstop' : e'.stopping = false := by cases hpick <;> exact hstop
  have hcore : e'.core.state = e.core.state := by cases hpick <;> rfl
  obtain ⟨-, hpending, hkeeps⟩ := SinkEngine.consider_of_answer hstop' hanswer
  constructor
  · intro o' ho'
    rw [hpending] at ho'
    exact h.pending o' (hpick.pending.mem_iff.2 (List.mem_cons_of_mem o ho'))
  · intro hrests
    -- a sink that is up is in none of the states of a sink at rest
    rw [hkeeps, hcore] at hrests
    rcases List.mem_pair.1 hstate with h | h <;> simp [h] at hrests

/-- A sink answers. The offer came from a source of the graph, so the sink is up. -/
lemma Balanced.answers (hp : p.Balanced) (horderly : p.Orderly)
    (hy : p.network.block? k = some (.sink y)) {o : Offer} {e : SinkEngine} {m : Move}
    (hpick : y.engine.Picks k m o e) (hanswer : (e.consider o).1 ≠ .waits) (r : Except Error Unit)
    (hs : s.blocks = ((p.network.setSink k { y with engine := (e.consider o).2 }).answer
      o.producer r).blocks) : Balanced { p with network := s } := by
  have ho : o ∈ y.engine.pending := hpick.pending.mem_iff.2 List.mem_cons_self
  obtain ⟨hk, i, x, f, rest, hproducer, hx, hthread⟩ := submitting_of_pending hp hy ho
  obtain ⟨-, hup⟩ := horderly i x hx (by simp [hthread])
  have hsinkUp : (Block.sink y : Block γ π).Up := hup k hk y hy
  have hstop : y.engine.stopping = false := hsinkUp.isOpen.1
  have hsink : p.SinkFair k y.engine := hp.fair k _ hy
  have hs' : s.blocks = (p.network.blocks.set k
      (.sink { y with engine := (e.consider o).2 })).set i
        (.source { x with thread := .delivering f rest }) := by
    rw [hs, hproducer, Network.blocks_answer_source hx hy hthread]
  apply hp.exchange ⟨hx, hy, hs', passes_of_answer hthread hpick hproducer hstop hanswer⟩
  exact hsink.answer hstop hsinkUp.state hpick hanswer

lemma Balanced.turn [Generator γ]
    (hmakes : ∀ buffer, Generator.Makes γ buffer → buffer.isValid = true)
    (hp : p.Balanced) (horderly : p.Orderly) (hwhole : p.Wholesome)
    (hx : p.network.block? i = some (.source x)) (hturn : x.Turn x')
    (hs : s.blocks = p.network.blocks.set i (.source x')) : Balanced { p with network := s } := by
  have hfair : p.SourceFair i x := hp.fair i _ hx
  cases hturn with
  | loops hb hthread hmade _ hconsumer hstats =>
    have hoffered (buffer) (hbuffer : x'.thread = .offering buffer) : buffer.isValid = true :=
      hmakes buffer (hmade buffer hbuffer)
    exact hp.set hx (.source (SourceBlock.tallies_of_loops hb hthread hoffered hconsumer hstats)) hs
  | begins now hb hconsumer hf hthread hcore hconsumer' =>
    obtain ⟨hmem, -⟩ := horderly i x hx (by simp [hb])
    have hvalid := hfair.offered _ hb
    have hsize := hwhole.frames i x hx _ hb
    apply hp.begins ⟨hx, hs, hmem, ⟨_, hb⟩, hthread, hcore, hconsumer, hconsumer', ?_⟩
    rw [hf]
    exact ⟨hvalid, hsize⟩
  | taps hb hconsumer _ _ _ =>
    -- a source of the graph has no tap
    obtain ⟨hmem, -⟩ := horderly i x hx (by simp [hb])
    rcases hfair.consumer hmem with h | ⟨targets, h, -⟩ <;> simp [hconsumer] at h
  | counts hb hthread _ hconsumer hstats =>
    exact hp.set hx (.source (SourceBlock.tallies_of_counts hb hthread hconsumer hstats)) hs

/-- Each move keeps the balance, if generators make buffers that fit their regions. -/
theorem Balanced.move [Generator γ] [Processor ω π] {m : Move}
    (hmakes : ∀ buffer, Generator.Makes γ buffer → buffer.isValid = true) (hp : p.Balanced)
    (horderly : p.Orderly) (hwhole : p.Wholesome) (h : p.network.Effect m s) :
    Balanced { p with network := s } := by
  cases h with
  | tick _ hs => exact hp.tallies rfl rfl (Network.tallies_of_blocks_eq hs)
  | deny _ hs => exact hp.tallies rfl rfl (Network.tallies_of_blocks_eq hs)
  | source hx hturn hs => exact hp.turn hmakes horderly hwhole hx hturn hs
  | skips hx hthread hrefuses hs =>
    -- no sink of the graph refuses a frame
    obtain ⟨y, hy, hcheck⟩ := precheck_of_target hp horderly hwhole hx hthread
    obtain ⟨e, hrefused⟩ := hrefuses y hy
    rw [hcheck] at hrefused
    cases hrefused
  | hands hx hthread hy _ hs => exact hp.hands hx hthread hy hs
  | seeks hy hworker hs => exact hp.set hy (.sink (SinkEngine.seek_tallies hworker)) hs
  | begins hy hworker hs => exact hp.set hy (.sink (SinkEngine.begin_tallies hworker)) hs
  | finishes _ hy hworker hs => exact hp.set hy (.sink (SinkEngine.finish_tallies hworker _ _)) hs
  | waits hy hpick hwaits hs => exact hp.set hy (.sink (hpick.waits_tallies hwaits)) hs
  | answers r hy hpick hanswer hs => exact hp.answers horderly hy hpick hanswer r hs

end Pipeline

end FrameGraph
