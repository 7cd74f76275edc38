import FrameGraph.Network.Emission
import FrameGraph.Proofs.Network.Steps
import FrameGraph.Proofs.Network.Tally

/-!
# Deliveries

A source whose consumer is a route gives a frame to all sinks of the route, one after the other, and
to each as often as the route names it. A sink that refuses a frame does not keep it from the
others, and nothing that others do meanwhile changes what the source has in hand.
-/

namespace FrameGraph

/-! ### What is still to be handed over -/

namespace SourceThread

/-- The frame in the hands of a thread, once for each sink to which it has yet to be handed. -/
def outstanding (thread : SourceThread) : List (Nat × Frame) :=
  thread.frame?.elim [] fun f => thread.targets.map (·, f)

variable {thread : SourceThread} (f : Frame) (targets : List Nat)

@[simp] lemma outstanding_delivering :
    (delivering f targets).outstanding = targets.map (·, f) := rfl

@[simp] lemma outstanding_submitting :
    (submitting f targets).outstanding = targets.map (·, f) := rfl

lemma outstanding_of_frame? (h : thread.frame? = none) : thread.outstanding = [] := by
  rw [outstanding, h, Option.elim_none]

lemma outstanding_of_isLooping (h : thread.isLooping = true ∨ thread = .ended) :
    thread.outstanding = [] :=
  outstanding_of_frame? (frame?_of_isLooping h).1

end SourceThread

/-- A source that neither begins with a frame nor hands one over has the same in its hands. -/
lemma SourceBlock.Tallies.outstanding {γ : Type} {x x' : SourceBlock γ}
    {routed : List Nat → Prop} (h : x.Tallies routed x') :
    x'.thread.outstanding = x.thread.outstanding := by
  rw [SourceThread.outstanding, SourceThread.outstanding, h.targets]
  cases hf' : x'.thread.frame? with
  | some f => rw [h.frame f hf']
  | none =>
    -- without a frame there are no targets
    have htargets : x.thread.targets = [] := by
      rw [← h.targets]
      revert hf'
      cases x'.thread <;> simp [SourceThread.frame?, SourceThread.targets]
    cases x.thread.frame? <;> simp [htargets]

/-- A frame is admitted for the consumer that the source has. -/
lemma SourceEngine.consumer_of_admitted {e engine : SourceEngine} {b stamped : FrameBuffer}
    {c : Consumer} {now : Nat} (h : e.begin b now = (.admitted c stamped, engine)) :
    e.consumer = some c := by
  unfold begin at h
  split at h
  · cases h
  · rename_i c' hc
    split at h
    · cases h
      exact hc
    · cases h

namespace Network

variable {ω γ π : Type} {s t u : Network ω γ π} {i j k : Nat} {b b' : Block γ π}

/-- The frame that a source gives to its route with its next step, if it does. -/
def given (s : Network ω γ π) (i : Nat) : List Frame :=
  match s.source? i with
  | none => []
  | some x =>
    match x.thread with
    | .offering buffer =>
      match (x.engine.begin buffer s.clock).1 with
      | .admitted (.fanOut _) stamped => [(s.storage.share stamped).1]
      | _ => []
    | _ => []

/-- The submit that the thread of a source makes with its next step, if it does: to which sink, and
of which frame. -/
def submitted (s : Network ω γ π) (i : Nat) : List (Nat × Frame) :=
  match s.source? i with
  | none => []
  | some x =>
    match x.thread with
    | .delivering f (k :: _) => if (s.sink? k).isSome then [(k, f)] else []
    | _ => []

section Turns

variable {x : SourceBlock γ}

lemma given_of_thread (hx : s.block? i = some (.source x))
    (hthread : ∀ buffer, x.thread ≠ .offering buffer) : s.given i = [] := by
  simp only [given, source?_eq_some.2 hx]

lemma submitted_of_thread (hx : s.block? i = some (.source x))
    (hthread : ∀ f k rest, x.thread ≠ .delivering f (k :: rest)) : s.submitted i = [] := by
  simp only [submitted, source?_eq_some.2 hx]

lemma submitted_of_delivering {f : Frame} {rest : List Nat} (hx : s.block? i = some (.source x))
    (hthread : x.thread = .delivering f (k :: rest)) (hk : (s.sink? k).isSome) :
    s.submitted i = [(k, f)] := by
  simp only [submitted, source?_eq_some.2 hx, hthread, if_pos hk]

/-! ### The thread goes on -/

variable [Generator γ] [Processor ω π] {route : List Nat}

omit [Generator γ] [Processor ω π] in
/-- A frame that is emitted to a route is given to it, and is then in the hands of the thread. -/
lemma blocks_emitTo_fanOut (x : SourceBlock γ) (buffer : FrameBuffer) :
    (s.emitTo i x (.fanOut route) buffer).blocks = s.blocks.set i
      (.source { x with thread := .delivering (s.storage.share buffer).1 route }) := by
  cases route <;> rfl

omit [Generator γ] [Processor ω π] in
/-- What becomes of the frame at hand: it is given to the route, or nobody takes it. -/
lemma emit_feeds {buffer : FrameBuffer} (hx : s.block? i = some (.source x))
    (hthread : x.thread = .offering buffer)
    (hroute : x.engine.consumer = some (.fanOut route) ∨ x.engine.consumer = none) :
    ∃ x', (s.emit i x buffer).blocks = s.blocks.set i (.source x') ∧
      x'.engine.consumer = x.engine.consumer ∧
      x'.thread.outstanding = (s.given i).flatMap fun f => route.map (·, f) := by
  have hpauses (engine : SourceEngine) : SourceThread.outstanding
      (if engine.core.state = .error then .ended else .sleeping (s.clock + engine.interval)) =
        [] := by
    split <;> rfl
  unfold emit
  simp only [given, source?_eq_some.2 hx, hthread]
  rcases hroute with hroute | hroute
  · by_cases hadmits : x.engine.admits s.clock = true
    · rw [SourceEngine.begin_of_admits hroute hadmits]
      exact ⟨_, blocks_emitTo_fanOut _ _, rfl, by simp⟩
    · rw [SourceEngine.begin_of_early hroute hadmits]
      exact ⟨_, rfl, rfl, hpauses _⟩
  · rw [SourceEngine.begin_of_unheard hroute]
    exact ⟨_, rfl, rfl, hpauses _⟩

/-- A sink refuses a frame at once, or gets an offer of it. -/
inductive Submits (i k : Nat) (f : Frame) (rest : List Nat) (s t : Network ω γ π) : Prop
  | refused {x y e} (hx : s.block? i = some (.source x)) (hy : s.block? k = some (.sink y))
    (hcheck : y.engine.precheck f = .error e)
    (ht : t.blocks = s.blocks.set i (.source { x with thread := .delivering f rest }))
  | offered {x y} (hx : s.block? i = some (.source x)) (hy : s.block? k = some (.sink y))
    (hcheck : y.engine.precheck f = .ok ())
    (ht : t.blocks =
      (s.blocks.set k (.sink { y with engine := y.engine.approach ⟨.source i, f⟩ })).set i
        (.source { x with thread := .submitting f rest }))

lemma deliver_submits {f : Frame} {rest : List Nat} (hx : s.block? i = some (.source x))
    (hthread : x.thread = .delivering f (k :: rest)) (hk : (s.sink? k).isSome) :
    Submits i k f rest s (s.deliver i x f k rest) := by
  obtain ⟨y, hy⟩ := Option.isSome_iff_exists.1 hk
  rw [sink?_eq_some] at hy
  have heffect := deliver_effect hx hthread
  generalize s.deliver i x f k rest = t at heffect ⊢
  cases heffect with
  | source hx' hturn _ =>
    obtain rfl : x = _ := by simpa [hx] using hx'
    cases hturn with
    | loops hb => simp [hthread, SourceThread.isLooping] at hb
    | begins _ hb => simp [hthread] at hb
    | taps hb => simp [hthread] at hb
    | counts hb => simp [hthread] at hb
  | skips hx' hthread' hrefuses ht =>
    obtain rfl : x = _ := by simpa [hx] using hx'
    obtain ⟨⟨rfl⟩, rfl, rfl⟩ : f = _ ∧ k = _ ∧ rest = _ := by simpa [hthread] using hthread'
    obtain ⟨e, hcheck⟩ := hrefuses y hy
    exact .refused hx hy hcheck ht
  | hands hx' hthread' hy' hcheck ht =>
    obtain rfl : x = _ := by simpa [hx] using hx'
    obtain ⟨⟨rfl⟩, rfl, rfl⟩ : f = _ ∧ k = _ ∧ rest = _ := by simpa [hthread] using hthread'
    exact .offered hx hy' hcheck ht
  | finishes hm => simp at hm
  | waits _ hpick => cases hpick
  | answers _ _ hpick => cases hpick

omit [Generator γ] [Processor ω π] in
/-- Either way the source goes on to the sinks that are left. -/
lemma Submits.source {f : Frame} {rest : List Nat} (h : Submits i k f rest s t)
    (hx : s.block? i = some (.source x)) :
    ∃ x', t.block? i = some (.source x') ∧ x'.engine.consumer = x.engine.consumer ∧
      x'.thread.outstanding = rest.map (·, f) := by
  cases h with
  | refused hx' _ _ ht =>
    obtain rfl : x = _ := by simpa [hx] using hx'
    exact ⟨_, block?_of_set_self ht hx, rfl, rfl⟩
  | @offered _ y hx' hy _ ht =>
    obtain rfl : x = _ := by simpa [hx] using hx'
    let r := s.setSink k { y with engine := y.engine.approach ⟨.source i, f⟩ }
    have hr : r.block? i = some (.source x) :=
      (block?_of_set_ne rfl (ne_of_source_of_sink hx hy).symm).trans hx
    exact ⟨_, block?_of_set_self (s := r) ht hr, rfl, rfl⟩

omit [Generator γ] [Processor ω π] in
lemma mem_submitted {f : Frame} (h : (k, f) ∈ s.submitted i) : ∃ x rest,
    s.block? i = some (.source x) ∧ x.thread = .delivering f (k :: rest) ∧
      (s.sink? k).isSome := by
  unfold submitted at h
  split at h
  · cases h
  rename_i x hx
  split at h
  · rename_i f' k' rest hthread
    split_ifs at h with hk
    · obtain ⟨rfl, rfl⟩ : k = k' ∧ f = f' := by simpa using h
      exact ⟨x, rest, source?_eq_some.1 hx, hthread, hk⟩
    · cases h
  · cases h

/-- What is noted as a submit is one. -/
lemma submits_of_mem {f : Frame} (h : s.perform (.source i) = some t)
    (hmem : (k, f) ∈ s.submitted i) : ∃ rest, Submits i k f rest s t := by
  obtain ⟨x, rest, hx, hthread, hk⟩ := mem_submitted hmem
  simp only [perform, moveSource, source?_eq_some.2 hx, hthread] at h
  cases h
  exact ⟨rest, deliver_submits hx hthread hk⟩

/-- What the thread has in hand afterwards is what it had before and what it gave to its route,
without what it submitted. -/
lemma moveSource_feeds (hx : s.block? i = some (.source x))
    (hroute : x.engine.consumer = some (.fanOut route) ∨ x.engine.consumer = none)
    (hsinks : ∀ e ∈ x.thread.outstanding, (s.sink? e.1).isSome)
    (h : s.perform (.source i) = some t) :
    ∃ x', t.block? i = some (.source x') ∧ x'.engine.consumer = x.engine.consumer ∧
      s.submitted i ++ x'.thread.outstanding =
        x.thread.outstanding ++ (s.given i).flatMap fun f => route.map (·, f) := by
  simp only [perform, moveSource, source?_eq_some.2 hx] at h
  split at h
  case h_1 | h_2 | h_3 => cases h
  case h_4 hthread =>
    cases h
    obtain ⟨x', hturn, ht⟩ := check_turn hx hthread
    refine ⟨x', block?_of_set_self ht hx, ?_⟩
    rw [submitted_of_thread hx (by simp [hthread]), given_of_thread hx (by simp [hthread])]
    cases hturn with
    | loops hb hthread' _ _ hconsumer =>
      refine ⟨hconsumer, ?_⟩
      rw [SourceThread.outstanding_of_isLooping hthread',
        SourceThread.outstanding_of_isLooping (.inl hb)]
      rfl
    | begins _ hb => simp [hthread] at hb
    | taps hb => simp [hthread] at hb
    | counts hb => simp [hthread] at hb
  case h_5 wake hthread =>
    split at h
    · cases h
      refine ⟨_, block?_of_set_self (blocks_setSource _) hx, rfl, ?_⟩
      rw [submitted_of_thread hx (by simp [hthread]), given_of_thread hx (by simp [hthread]),
        hthread]
      rfl
    · cases h
  case h_6 buffer hthread =>
    cases h
    obtain ⟨x', ht, hconsumer, houtstanding⟩ := emit_feeds hx hthread hroute
    refine ⟨x', block?_of_set_self ht hx, hconsumer, ?_⟩
    rw [submitted_of_thread hx (by simp [hthread]), houtstanding, hthread]
    rfl
  case h_7 f hthread =>
    cases h
    obtain ⟨x', ht, hthread', -, hconsumer, -⟩ := blocks_countDelivered x f.buffer.size
    refine ⟨x', block?_of_set_self ht hx, hconsumer, ?_⟩
    rw [submitted_of_thread hx (by simp [hthread]), given_of_thread hx (by simp [hthread]), hthread]
    rcases hthread' with hthread' | hthread' <;>
    · rw [hthread']
      rfl
  case h_8 f k rest hthread =>
    cases h
    have hk : (s.sink? k).isSome := hsinks (k, f) (by simp [hthread])
    obtain ⟨x', ht, hconsumer, houtstanding⟩ := (deliver_submits hx hthread hk).source hx
    refine ⟨x', ht, hconsumer, ?_⟩
    rw [submitted_of_delivering hx hthread hk, given_of_thread hx (by simp [hthread]), houtstanding,
      hthread]
    simp

/-- As long as there are sinks left, the source waits for an answer or can go on. -/
lemma isSome_perform_of_outstanding (hx : s.block? i = some (.source x))
    (h : x.thread.outstanding ≠ []) (hwaits : ∀ f rest, x.thread ≠ .submitting f rest) :
    (s.perform (.source i)).isSome := by
  simp only [perform, moveSource, source?_eq_some.2 hx]
  cases hthread : x.thread with
  | delivering f targets => cases targets <;> rfl
  | submitting f targets => exact absurd hthread (hwaits f targets)
  | _ => exact absurd (by rw [hthread]; rfl) h

omit [Generator γ] [Processor ω π] in
/-- Whatever the answer is, the source goes on to the sinks that are left. -/
lemma block?_answer_source {f : Frame} {rest : List Nat} (hx : s.block? i = some (.source x))
    (hthread : x.thread = .submitting f rest) (r : Except Error Unit) :
    (s.answer (.source i) r).block? i =
      some (.source { x with thread := .delivering f rest }) := by
  simp only [answer, source?_eq_some.2 hx, hthread]
  exact block?_of_set_self (blocks_setSource _) hx

end Turns

end Network

/-! ### Others go on -/

/-- A source goes on with what it has in hand, and keeps its consumer or loses it. -/
structure SourceBlock.Bypassed {γ : Type} (x x' : SourceBlock γ) : Prop where
  outstanding : x'.thread.outstanding = x.thread.outstanding
  consumer : x'.engine.consumer = x.engine.consumer ∨ x'.engine.consumer = none

/-- What others do to the blocks around a source, or to the source itself. -/
inductive Block.Bypasses {γ π : Type} (own : Prop) : Block γ π → Block γ π → Prop
  | source {x x'} (h : own → SourceBlock.Bypassed x x') : Bypasses own (.source x) (.source x')
  | sink {y y'} : Bypasses own (.sink y) (.sink y')
  | stage {z z'} : Bypasses own (.stage z) (.stage z')

lemma SourceBlock.Bypassed.refl {γ : Type} (x : SourceBlock γ) : x.Bypassed x := ⟨rfl, .inl rfl⟩

namespace Block

variable {γ π : Type} {b b' b'' : Block γ π} {own : Prop}

lemma Bypasses.refl (b : Block γ π) : b.Bypasses own b := by
  cases b with
  | source x => exact .source fun _ => .refl x
  | sink y => exact .sink
  | stage z => exact .stage

lemma bypasses_mapCore (f : BlockCore → BlockCore) : b.Bypasses own (b.mapCore f) := by
  cases b with
  | source x => exact .source fun _ => ⟨rfl, .inl rfl⟩
  | sink y => exact .sink
  | stage z => exact .stage

lemma Tallies.bypasses (h : b.Tallies (fun _ => False) b') : b.Bypasses own b' := by
  cases h with
  | source h =>
    refine .source fun _ => ⟨h.outstanding, ?_⟩
    rcases h.consumer with heq | hnone | ⟨_, _, hfalse⟩
    · exact .inl heq
    · exact .inr hnone
    · exact hfalse.elim
  | sink h => exact .sink
  | stage => exact .stage

end Block

namespace Network

variable {ω γ π : Type} {s t : Network ω γ π} {i j : Nat} {b b' : Block γ π}

/-- The source at a position goes on with what it has in hand and gets no other consumer, and sinks
stay where they are. -/
structure Bypasses (i : Nat) (s t : Network ω γ π) : Prop where
  source : ∀ x, s.block? i = some (.source x) →
    ∃ x', t.block? i = some (.source x') ∧ x.Bypassed x'
  sinks : ∀ k, (s.sink? k).isSome → (t.sink? k).isSome

lemma Each.bypasses (h : s.Each (fun j => Block.Bypasses (j = i)) t) : s.Bypasses i t where
  source x hx := by
    obtain ⟨b, hb, hbypasses⟩ := h.block i _ hx
    cases hbypasses with
    | source hbypassed => exact ⟨_, hb, hbypassed rfl⟩
  sinks k hk := by
    obtain ⟨y, hy⟩ := Option.isSome_iff_exists.1 hk
    obtain ⟨b, hb, hbypasses⟩ := h.block k _ (sink?_eq_some.1 hy)
    cases hbypasses with
    | sink => simp [sink?_eq_some.2 hb]

lemma bypasses_of_blocks_eq (h : t.blocks = s.blocks) : s.Bypasses i t :=
  (each_of_blocks_eq h fun _ => .refl).bypasses

lemma bypasses_of_set (hb : s.block? j = some b) (h : b.Bypasses (j = i) b')
    (ht : t.blocks = s.blocks.set j b') : s.Bypasses i t :=
  (each_of_set (R := fun j => Block.Bypasses (j = i)) ht hb h fun _ => .refl).bypasses

lemma StepAt.bypasses (h : StepAt (Block.Bypasses (j = i)) j s t) : s.Bypasses i t := by
  rcases h with h | ⟨b, b', hb, hbypasses, h⟩
  · exact bypasses_of_blocks_eq h
  · exact bypasses_of_set hb hbypasses h

lemma Bypasses.trans {u : Network ω γ π} (h : s.Bypasses i t) (h' : t.Bypasses i u) :
    s.Bypasses i u where
  source x hx := by
    obtain ⟨x', hx', hbypassed⟩ := h.source x hx
    obtain ⟨x'', hx'', hbypassed'⟩ := h'.source x' hx'
    refine ⟨x'', hx'', hbypassed'.outstanding.trans hbypassed.outstanding, ?_⟩
    rcases hbypassed'.consumer with heq | hnone
    · rw [heq]
      exact hbypassed.consumer
    · exact .inr hnone
  sinks k hk := h'.sinks k (h.sinks k hk)

lemma bypasses_append (ht : t.blocks = s.blocks ++ [b]) : s.Bypasses i t where
  source x hx := by
    refine ⟨x, ?_, .refl x⟩
    rw [block?_of_append ht, if_neg (List.getElem?_eq_some_iff.1 hx).1.ne, hx]
  sinks k hk := by
    obtain ⟨y, hy⟩ := Option.isSome_iff_exists.1 hk
    rw [sink?_eq_some] at hy
    have hy' : t.sink? k = some y := by
      rw [sink?_eq_some, block?_of_append ht, if_neg (List.getElem?_eq_some_iff.1 hy).1.ne, hy]
    simp [hy']

lemma answer_bypasses (p : Producer) (r : Except Error Unit) : s.Bypasses i (s.answer p r) := by
  unfold answer
  split
  · exact bypasses_of_blocks_eq rfl
  split
  · rename_i x hx
    rw [source?_eq_some] at hx
    split
    · rename_i f targets hthread
      have hbypassed : x.Bypassed { x with thread := .delivering f targets } :=
        ⟨by rw [hthread]; rfl, .inl rfl⟩
      exact bypasses_of_set hx (.source fun _ => hbypassed) rfl
    · exact bypasses_of_blocks_eq rfl
  · exact bypasses_of_blocks_eq rfl

/-- Another thread or a producer goes on. -/
theorem Effect.bypasses [Generator γ] [Processor ω π] {m : Move} (h : s.Effect m t)
    (hm : m ≠ .source i) : s.Bypasses i t := by
  have hother {j : Nat} (hj : Move.source j ≠ .source i) {x x' : SourceBlock γ} :
      (Block.source x : Block γ π).Bypasses (j = i) (.source x') :=
    .source fun heq => absurd (congrArg Move.source heq) hj
  cases h with
  | tick _ ht => exact bypasses_of_blocks_eq ht
  | deny _ ht => exact bypasses_of_blocks_eq ht
  | source hx _ ht => exact bypasses_of_set hx (hother hm) ht
  | skips hx _ _ ht => exact bypasses_of_set hx (hother hm) ht
  | @hands _ j x f k rest y hx _ hy _ ht =>
    let r := s.setSink k { y with engine := y.engine.approach ⟨.source j, f⟩ }
    have hr : s.Bypasses i r := bypasses_of_set hy .sink rfl
    have hx' : r.block? j = some (.source x) :=
      (block?_of_set_ne rfl (ne_of_source_of_sink hx hy).symm).trans hx
    exact hr.trans (bypasses_of_set hx' (hother hm) ht)
  | seeks hy _ ht => exact bypasses_of_set hy .sink ht
  | begins hy _ ht => exact bypasses_of_set hy .sink ht
  | finishes _ hy _ ht => exact bypasses_of_set hy .sink ht
  | waits hy _ _ ht => exact bypasses_of_set hy .sink ht
  | @answers _ _ j y o e r hy _ _ ht =>
    let u := s.setSink j { y with engine := (e.consider o).2 }
    have hu : s.Bypasses i u := bypasses_of_set hy .sink rfl
    exact hu.trans ((answer_bypasses o.producer r).trans (bypasses_of_blocks_eq ht))

/-- A caller that emits a frame through a source does not concern the thread of the source. -/
lemma blocks_beginOutside (j : Nat) (buffer : FrameBuffer) (s : Network ω γ π) :
    (s.beginOutside j buffer).2.blocks = s.blocks ∨ ∃ x engine, s.block? j = some (.source x) ∧
      (s.beginOutside j buffer).2.blocks = s.blocks.set j (.source { x with engine }) := by
  unfold beginOutside
  split
  · exact .inl rfl
  · rename_i x hx
    refine .inr ⟨x, ?_⟩
    rw [source?_eq_some] at hx
    split
    · exact ⟨_, hx, rfl⟩
    · exact ⟨_, hx, rfl⟩
    · dsimp only
      split
      · exact ⟨_, hx, rfl⟩
      · split
        · exact ⟨_, hx, by rw [blocks_setSource, blocks_tapFrame]⟩
        · exact ⟨_, hx, by rw [blocks_hear, blocks_setSource, blocks_tapFrame]⟩

lemma countOutside_bypasses (j : Nat) (f : Frame) : s.Bypasses i (s.countOutside j f) := by
  have hstep : StepAt (Block.Bypasses (j = i)) j (s.release f) (s.countOutside j f) :=
    stepAt_mapSource (fun _ => .source fun _ => ⟨rfl, .inl rfl⟩) _
  exact (bypasses_of_blocks_eq (blocks_release f)).trans hstep.bypasses

/-- Someone intervenes from outside. -/
theorem Intervention.bypasses (h : s.Intervention t) : s.Bypasses i t := by
  cases h with
  | offer j b =>
    unfold Network.offer
    split
    · exact bypasses_of_blocks_eq rfl
    · rename_i y hy
      dsimp only
      split
      · exact bypasses_of_blocks_eq rfl
      · exact bypasses_of_set (sink?_eq_some.1 hy) .sink rfl
  | offerFrame j f =>
    unfold Network.offerFrame
    split
    · exact bypasses_of_blocks_eq rfl
    · rename_i y hy
      split
      · exact bypasses_of_blocks_eq rfl
      · exact bypasses_of_set (sink?_eq_some.1 hy) .sink rfl
  | setMaxDepth j depth =>
    unfold Network.setMaxDepth
    split
    · exact bypasses_of_blocks_eq rfl
    · rename_i y hy
      exact bypasses_of_set (sink?_eq_some.1 hy) .sink rfl
  | setPolicy j policy =>
    unfold Network.setPolicy
    split
    · exact bypasses_of_blocks_eq rfl
    · rename_i y hy
      exact bypasses_of_set (sink?_eq_some.1 hy) .sink rfl
  | fail j message =>
    cases hb : s.block? j with
    | none => exact bypasses_of_blocks_eq (by simp [Network.fail, hb])
    | some b => exact bypasses_of_set hb (Block.bypasses_mapCore _) (blocks_fail hb message)

end Network

end FrameGraph
