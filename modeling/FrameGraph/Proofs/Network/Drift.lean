import FrameGraph.Network.Emission
import FrameGraph.Proofs.Interference
import FrameGraph.Proofs.Network.Effects
import FrameGraph.Proofs.Sink.Queue

/-!
# What a block undergoes

Whoever starts and stops a block has to reckon with all that happens to it in the meantime: its
thread goes on, producers come and go, settings change, and it may fail. None of this starts a
thread, revives one that has ended, or changes the state of the block otherwise than by a failure.
-/

namespace FrameGraph

/-! ### Drift of a block -/

/-- What happens to the queue of a sink that nobody starts or stops. -/
structure SinkEngine.Drift (e e' : SinkEngine) : Prop where
  state : e'.core.state = e.core.state ∨ e'.core.state = .error
  stopping : e'.stopping = e.stopping
  absent : e'.worker = .absent ↔ e.worker = .absent
  ended : e.worker = .ended → e'.worker = .ended
  drained : e.stopping = true → e.queue = [] → e'.queue = []

/-- What happens to a source that nobody starts or stops. -/
structure SourceBlock.Drift {γ : Type} (b b' : SourceBlock γ) : Prop where
  state : b'.core.state = b.core.state ∨ b'.core.state = .error
  absent : b.thread = .absent → b'.thread = .absent
  ended : b.thread = .ended → b'.thread = .ended

/-- What happens to a block that nobody starts or stops. -/
inductive Block.Drift {γ π : Type} : Block γ π → Block γ π → Prop
  | source {x x'} (h : SourceBlock.Drift x x') : Drift (.source x) (.source x')
  | sink {y y'} (h : SinkEngine.Drift y.engine y'.engine) : Drift (.sink y) (.sink y')
  | stage {z z'} (h : z'.core.state = z.core.state ∨ z'.core.state = .error) :
    Drift (.stage z) (.stage z')

namespace SinkEngine

variable {e e' e'' : SinkEngine} {o : Offer}

lemma Drift.refl (e : SinkEngine) : e.Drift e := ⟨.inl rfl, rfl, .rfl, id, fun _ => id⟩

lemma Drift.trans (h : e.Drift e') (h' : e'.Drift e'') : e.Drift e'' where
  state := by
    rcases h'.state with hstate | hstate
    · rw [hstate]
      exact h.state
    · exact .inr hstate
  stopping := h'.stopping.trans h.stopping
  absent := h'.absent.trans h.absent
  ended := h'.ended ∘ h.ended
  drained hstop hq := h'.drained (h.stopping.trans hstop) (h.drained hstop hq)

/-- What holds of the state and of a failure holds afterwards. -/
lemma Drift.keeps {S : BlockState → Prop} (h : e.Drift e') (hS : S .error) (he : S e.core.state) :
    S e'.core.state := by
  rcases h.state with hstate | hstate <;> rwa [hstate]

/-! ### Steps of producers -/

lemma drift_approach : e.Drift (e.approach o) := ⟨.inl rfl, rfl, .rfl, id, fun _ => id⟩

/-- A frame is pushed as long as the queue is not to be emptied. -/
lemma drift_push (f : Frame) (h : e.stopping = false) : e.Drift (e.push f) where
  state := .inl (by simp [push])
  stopping := by simp [push]
  absent := absent_wakeWorker _
  ended hw := by simp [push, wakeWorker, hw]
  drained hstop := by simp [h] at hstop

lemma drift_consider : e.Drift (e.consider o).2 := by
  by_cases hstop : e.stopping = true
  · rw [consider_of_stopping hstop]
    exact .refl e
  rw [Bool.not_eq_true] at hstop
  by_cases hroom : e.queue.length < e.maxDepth
  · rw [consider_of_room hstop hroom]
    exact drift_push _ hstop
  cases hpolicy : e.policy with
  | block =>
    rw [consider_of_block hstop hroom hpolicy]
    exact ⟨.inl rfl, rfl, .rfl, id, fun _ => id⟩
  | dropOldest =>
    rw [consider_of_dropOldest hstop hroom hpolicy]
    have hdrops : e.Drift { e with
        queue := (makeRoom e.maxDepth e.queue).2
        core := e.core.recordDrops (makeRoom e.maxDepth e.queue).1.length } :=
      ⟨.inl rfl, rfl, .rfl, id, by simp [hstop]⟩
    exact hdrops.trans (drift_push _ hstop)

lemma Picks.drift {i : Nat} {m : Move} (h : e.Picks i m o e') : e.Drift e' := by
  cases h <;> exact ⟨.inl rfl, rfl, .rfl, id, fun _ => id⟩

/-! ### Steps of the worker -/

lemma drift_notifyProducer : e.Drift e.notifyProducer :=
  ⟨.inl (by simp), by simp, by simp, by simp, by simp⟩

lemma drift_seek (h : e.worker = .seeking) : e.Drift e.seek := by
  by_cases hstop : e.stopping = true
  · rw [seek_of_stopping hstop]
    exact ⟨.inl rfl, rfl, by simp [h], by simp [h], fun _ => id⟩
  rw [Bool.not_eq_true] at hstop
  cases hqueue : e.queue with
  | nil =>
    rw [seek_of_empty hstop hqueue]
    exact ⟨.inl rfl, rfl, by simp [h], by simp [h], fun _ => id⟩
  | cons f rest =>
    rw [seek_of_cons hstop hqueue]
    have htakes : e.Drift { e with
        queue := rest, core := e.core.setQueueDepth rest.length, worker := .holding f } :=
      ⟨.inl rfl, rfl, by simp [h], by simp [h], by simp [hstop]⟩
    exact htakes.trans drift_notifyProducer

lemma drift_begin {f : Frame} (h : e.worker = .holding f) : e.Drift (e.begin f).2 := by
  unfold begin
  split <;> exact ⟨.inl rfl, rfl, by simp [h], by simp [h], fun _ => id⟩

lemma drift_finish {f : Frame} (h : e.worker = .processing f) (outcome : Result Unit) (now : Nat) :
    e.Drift (e.finish f outcome now).2 := by
  match outcome with
  | .ok () =>
    simp only [finish]
    split
    · rename_i core hcore
      obtain rfl := congrArg Prod.snd hcore
      exact ⟨.inl rfl, rfl, by simp [h], by simp [h], fun _ => id⟩
    · rename_i core hcore
      obtain rfl := congrArg Prod.snd hcore
      exact ⟨.inl rfl, rfl, by simp [h], by simp [h], fun _ => id⟩
  | .error (.error _) => exact ⟨.inl rfl, rfl, by simp [finish, h], by simp [h], fun _ => id⟩
  | .error (.panic _) => exact ⟨.inr rfl, rfl, by simp [finish, h], by simp [h], fun _ => id⟩

/-! ### Settings -/

lemma drift_setMaxDepth (depth : Nat) : e.Drift (e.setMaxDepth depth).2 := by
  unfold setMaxDepth
  split
  · exact ⟨.inl rfl, rfl, .rfl, id, fun _ => id⟩
  · exact .refl e

lemma drift_setPolicy (policy : Backpressure) : e.Drift (e.setPolicy policy) :=
  ⟨.inl rfl, rfl, .rfl, id, fun _ => id⟩

end SinkEngine

namespace SourceBlock

variable {γ : Type} {b b' b'' : SourceBlock γ}

lemma Drift.refl (b : SourceBlock γ) : b.Drift b := ⟨.inl rfl, id, id⟩

lemma Drift.trans (h : b.Drift b') (h' : b'.Drift b'') : b.Drift b'' where
  state := by
    rcases h'.state with hstate | hstate
    · rw [hstate]
      exact h.state
    · exact .inr hstate
  absent := h'.absent ∘ h.absent
  ended := h'.ended ∘ h.ended

lemma Drift.keeps {S : BlockState → Prop} (h : b.Drift b') (hS : S .error) (hb : S b.core.state) :
    S b'.core.state := by
  rcases h.state with hstate | hstate <;> rwa [hstate]

/-- A thread that is under way may be anywhere afterwards. -/
lemma Drift.of_thread (hstate : b'.core.state = b.core.state ∨ b'.core.state = .error)
    (habsent : b.thread ≠ .absent) (hended : b.thread ≠ .ended) : b.Drift b' :=
  ⟨hstate, fun h => absurd h habsent, fun h => absurd h hended⟩

lemma ne_of_isLooping {thread : SourceThread} (h : thread.isLooping = true) :
    thread ≠ .absent ∧ thread ≠ .ended := by
  constructor <;> rintro rfl <;> cases h

lemma Turn.drift [Generator γ] (h : b.Turn b') : b.Drift b' := by
  cases h with
  | loops hb _ _ hstate =>
    obtain ⟨habsent, hended⟩ := ne_of_isLooping hb
    exact .of_thread hstate habsent hended
  | begins _ hb _ _ _ hcore =>
    exact .of_thread (.inl (by rw [hcore])) (by simp [hb]) (by simp [hb])
  | taps hb _ _ hstate => exact .of_thread hstate (by simp [hb]) (by simp [hb])
  | counts hb _ hstate => exact .of_thread (.inl hstate) (by simp [hb]) (by simp [hb])

end SourceBlock

namespace Block

variable {γ π : Type} {b b' b'' : Block γ π}

lemma Drift.refl (b : Block γ π) : b.Drift b := by
  cases b with
  | source x => exact .source (.refl x)
  | sink y => exact .sink (.refl y.engine)
  | stage z => exact .stage (.inl rfl)

lemma Drift.state (h : b.Drift b') : b'.state = b.state ∨ b'.state = .error := by
  cases h with
  | source h => exact h.state
  | sink h => exact h.state
  | stage h => exact h

lemma Drift.keeps {S : BlockState → Prop} (h : b.Drift b') (hS : S .error) (hb : S b.state) :
    S b'.state := by
  rcases h.state with hstate | hstate <;> rwa [hstate]

lemma Drift.trans (h : b.Drift b') (h' : b'.Drift b'') : b.Drift b'' := by
  cases h with
  | source h =>
    cases h' with
    | source h' => exact .source (h.trans h')
  | sink h =>
    cases h' with
    | sink h' => exact .sink (h.trans h')
  | stage h =>
    cases h' with
    | stage h' =>
      refine .stage ?_
      rcases h' with h' | h'
      · rw [h']
        exact h
      · exact .inr h'

end Block

namespace Network

variable {ω γ π : Type} {s t u : Network ω γ π} {i j : Nat} {b b' : Block γ π}

/-! ### Drift of a network -/

/-- What happens to one block of a network. -/
def DriftAt (i : Nat) (s t : Network ω γ π) : Prop :=
  ∀ b, s.block? i = some b → ∃ b', t.block? i = some b' ∧ b.Drift b'

/-- What happens to a network in which nobody starts or stops a block. -/
structure Drift (s t : Network ω γ π) : Prop where
  length : t.blocks.length = s.blocks.length
  block : ∀ i, DriftAt i s t

lemma DriftAt.trans (h : DriftAt i s t) (h' : DriftAt i t u) : DriftAt i s u := by
  intro b hb
  obtain ⟨b', hb', hdrift⟩ := h b hb
  obtain ⟨b'', hb'', hdrift'⟩ := h' b' hb'
  exact ⟨b'', hb'', hdrift.trans hdrift'⟩

lemma driftAt_of_eq (h : t.block? i = s.block? i) : DriftAt i s t :=
  fun b hb => ⟨b, h.trans hb, .refl b⟩

lemma interference_driftAt (i : Nat) :
    Routine.Interference (DriftAt (ω := ω) (γ := γ) (π := π) i) :=
  ⟨fun _ => driftAt_of_eq rfl, .trans⟩

lemma drift_of_blocks_eq (h : t.blocks = s.blocks) : s.Drift t :=
  ⟨by rw [h], fun i => driftAt_of_eq (block?_of_blocks_eq h i)⟩

lemma Drift.refl (s : Network ω γ π) : s.Drift s := drift_of_blocks_eq rfl

lemma Drift.trans (h : s.Drift t) (h' : t.Drift u) : s.Drift u :=
  ⟨h'.length.trans h.length, fun i => (h.block i).trans (h'.block i)⟩

lemma Drift.source (h : s.Drift t) (hb : t.block? i = some b') :
    ∃ b, s.block? i = some b ∧ b.Drift b' := by
  obtain ⟨b, hs⟩ := exists_block?_of_length h.length hb
  obtain ⟨b'', hb'', hdrift⟩ := h.block i b hs
  obtain rfl : b' = b'' := by simpa [hb] using hb''
  exact ⟨b, hs, hdrift⟩

lemma drift_of_set (hb : s.block? i = some b) (h : b.Drift b')
    (ht : t.blocks = s.blocks.set i b') : s.Drift t := by
  constructor
  · rw [ht, List.length_set]
  · intro j c hc
    exact exists_block?_of_set (R := fun _ => Block.Drift) ht hb h (fun _ => .refl) hc

lemma answer_drift (p : Producer) (r : Except Error Unit) : s.Drift (s.answer p r) := by
  unfold answer
  split
  · exact drift_of_blocks_eq rfl
  split
  · rename_i x hx
    rw [source?_eq_some] at hx
    split
    · rename_i f targets hthread
      have hdrift : x.Drift { x with thread := .delivering f targets } :=
        .of_thread (.inl rfl) (by simp [hthread]) (by simp [hthread])
      exact drift_of_set hx (.source hdrift) rfl
    · exact .refl s
  · exact .refl s

/-! ### What others do -/

/-- Someone from outside does something to a block without starting or stopping it. -/
inductive Intervention (s : Network ω γ π) : Network ω γ π → Prop
  /-- A caller comes with a frame. -/
  | offer (i : Nat) (b : FrameBuffer) : Intervention s (s.offer i b).2
  /-- A caller comes with another reference to a frame. -/
  | offerFrame (i : Nat) (f : Frame) : Intervention s (s.offerFrame f i).2
  | setMaxDepth (i depth : Nat) : Intervention s (s.setMaxDepth i depth).2
  | setPolicy (i : Nat) (policy : Backpressure) : Intervention s (s.setPolicy i policy)
  | fail (i : Nat) (message : String) : Intervention s (s.fail i message)

/-- Something happens without anybody starting or stopping a block: a thread or a producer goes on,
time passes, or someone intervenes. -/
def Happens [Generator γ] [Processor ω π] (s t : Network ω γ π) : Prop :=
  (∃ m, s.perform m = some t) ∨ s.Intervention t

lemma Effect.drift [Generator γ] [Processor ω π] {m : Move} (h : s.Effect m t) : s.Drift t := by
  cases h with
  | tick _ ht => exact drift_of_blocks_eq ht
  | deny _ ht => exact drift_of_blocks_eq ht
  | source hx hturn ht => exact drift_of_set hx (.source hturn.drift) ht
  | skips hx hthread _ ht =>
    refine drift_of_set hx (.source ?_) ht
    exact .of_thread (.inl rfl) (by simp [hthread]) (by simp [hthread])
  | @hands _ i x f k rest y hx hthread hy _ ht =>
    let r := s.setSink k { y with engine := y.engine.approach ⟨.source i, f⟩ }
    have hr : s.Drift r := drift_of_set hy (.sink SinkEngine.drift_approach) rfl
    have hx' : r.block? i = some (.source x) :=
      (block?_of_set_ne rfl (ne_of_source_of_sink hx hy).symm).trans hx
    refine hr.trans (drift_of_set hx' (.source ?_) ht)
    exact .of_thread (.inl rfl) (by simp [hthread]) (by simp [hthread])
  | seeks hy hworker ht => exact drift_of_set hy (.sink (SinkEngine.drift_seek hworker)) ht
  | begins hy hworker ht => exact drift_of_set hy (.sink (SinkEngine.drift_begin hworker)) ht
  | finishes _ hy hworker ht =>
    exact drift_of_set hy (.sink (SinkEngine.drift_finish hworker _ _)) ht
  | waits hy hpick _ ht =>
    exact drift_of_set hy (.sink (hpick.drift.trans SinkEngine.drift_consider)) ht
  | answers r hy hpick _ ht =>
    refine .trans (t := Network.setSink s _ _) ?_
      ((answer_drift _ r).trans (drift_of_blocks_eq ht))
    exact drift_of_set hy (.sink (hpick.drift.trans SinkEngine.drift_consider)) rfl

lemma offer_drift (i : Nat) (buffer : FrameBuffer) : s.Drift (s.offer i buffer).2 := by
  unfold offer
  split
  · exact drift_of_blocks_eq rfl
  · rename_i y hy
    rw [sink?_eq_some] at hy
    dsimp only
    split
    · exact drift_of_blocks_eq rfl
    · exact drift_of_set hy (.sink SinkEngine.drift_approach) rfl

lemma offerFrame_drift (f : Frame) (i : Nat) : s.Drift (s.offerFrame f i).2 := by
  unfold offerFrame
  split
  · exact .refl s
  · rename_i y hy
    rw [sink?_eq_some] at hy
    split
    · exact .refl s
    · exact drift_of_set hy (.sink SinkEngine.drift_approach) rfl

lemma setMaxDepth_drift (i depth : Nat) : s.Drift (s.setMaxDepth i depth).2 := by
  unfold setMaxDepth
  split
  · exact .refl s
  · rename_i y hy
    exact drift_of_set (sink?_eq_some.1 hy) (.sink (SinkEngine.drift_setMaxDepth depth)) rfl

lemma setPolicy_drift (i : Nat) (policy : Backpressure) : s.Drift (s.setPolicy i policy) := by
  unfold setPolicy
  split
  · exact .refl s
  · rename_i y hy
    exact drift_of_set (sink?_eq_some.1 hy) (.sink (SinkEngine.drift_setPolicy policy)) rfl

lemma fail_drift (i : Nat) (message : String) : s.Drift (s.fail i message) := by
  cases hb : s.block? i with
  | none => simpa [fail, hb] using Drift.refl s
  | some b =>
    refine drift_of_set hb ?_ (blocks_fail hb message)
    cases b with
    | source x => exact .source ⟨.inr rfl, id, id⟩
    | sink y => exact .sink ⟨.inr rfl, rfl, .rfl, id, fun _ => id⟩
    | stage z => exact .stage (.inr rfl)

lemma Intervention.drift (h : s.Intervention t) : s.Drift t := by
  cases h with
  | offer i b => exact offer_drift i b
  | offerFrame i f => exact offerFrame_drift f i
  | setMaxDepth i depth => exact setMaxDepth_drift i depth
  | setPolicy i policy => exact setPolicy_drift i policy
  | fail i message => exact fail_drift i message

/-- Whatever happens to a network, each of its blocks drifts. -/
theorem Happens.drift [Generator γ] [Processor ω π] (h : s.Happens t) : s.Drift t := by
  rcases h with ⟨m, hm⟩ | h
  · exact (perform_effect hm).drift
  · exact h.drift

end Network

end FrameGraph
