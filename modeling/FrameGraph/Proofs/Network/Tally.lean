import FrameGraph.Proofs.Sink.Tally
import Mathlib.Algebra.GroupWithZero.Nat
import Mathlib.Algebra.Order.BigOperators.Group.List
import Mathlib.Algebra.Order.Group.Nat

/-!
# The tally of a network

A source that hands a frame to sinks has begun with it, and has targets to which it still has to
hand it. Most of what happens to a network changes neither what sources have begun with nor what
sinks have taken in.
-/

namespace FrameGraph

/-! ### Sources -/

namespace SourceThread

/-- The frame that is being handed to sinks. -/
def frame? : SourceThread → Option Frame
  | .delivering f _ | .submitting f _ => some f
  | _ => none

/-- The sinks to which the frame has yet to be handed. -/
def targets : SourceThread → List Nat
  | .delivering _ targets | .submitting _ targets => targets
  | _ => []

/-- Whether the thread waits for the answer of a sink. -/
def isSubmitting : SourceThread → Bool
  | .submitting _ _ => true
  | _ => false

variable {thread : SourceThread} (f : Frame) (targets : List Nat)

@[simp] lemma frame?_delivering : (delivering f targets).frame? = some f := rfl

@[simp] lemma frame?_submitting : (submitting f targets).frame? = some f := rfl

@[simp] lemma targets_delivering : (delivering f targets).targets = targets := rfl

@[simp] lemma targets_submitting : (submitting f targets).targets = targets := rfl

@[simp] lemma isSubmitting_delivering : (delivering f targets).isSubmitting = false := rfl

@[simp] lemma isSubmitting_submitting : (submitting f targets).isSubmitting = true := rfl

/-- A thread that is in its loop, or has left it, has nothing in its hands. -/
lemma frame?_of_isLooping (h : thread.isLooping = true ∨ thread = .ended) :
    thread.frame? = none ∧ thread.targets = [] ∧ thread.isSubmitting = false := by
  rcases h with h | rfl
  · cases thread <;> first | exact ⟨rfl, rfl, rfl⟩ | cases h
  · exact ⟨rfl, rfl, rfl⟩

end SourceThread

namespace SourceBlock

variable {γ : Type} {x x' : SourceBlock γ} {routed : List Nat → Prop}

/-- The number of frames with which the source has begun. -/
def begun (x : SourceBlock γ) : Nat := x.core.stats.processed + x.thread.frame?.toList.length

/-- The source began with no frame and handed none over. It may have lost its consumer, or have got
a route. -/
structure Tallies (routed : List Nat → Prop) (x x' : SourceBlock γ) : Prop where
  begun : x'.begun = x.begun
  targets : x'.thread.targets = x.thread.targets
  submitting : x'.thread.isSubmitting = x.thread.isSubmitting
  frame : ∀ f, x'.thread.frame? = some f → x.thread.frame? = some f
  /-- A buffer that it is about to emit fits its region. -/
  offered : ∀ buffer, x'.thread = .offering buffer →
    x.thread = .offering buffer ∨ buffer.isValid = true
  consumer : x'.engine.consumer = x.engine.consumer ∨ x'.engine.consumer = none ∨
    ∃ targets, x'.engine.consumer = some (.fanOut targets) ∧ routed targets

lemma Tallies.refl (x : SourceBlock γ) : Tallies routed x x :=
  ⟨rfl, rfl, rfl, fun _ => id, fun _ => .inl, .inl rfl⟩

lemma Tallies.of_thread (hthread : x'.thread = x.thread)
    (hstats : x'.core.stats.processed = x.core.stats.processed)
    (hconsumer : x'.engine.consumer = x.engine.consumer ∨ x'.engine.consumer = none ∨
      ∃ targets, x'.engine.consumer = some (.fanOut targets) ∧ routed targets) :
    Tallies routed x x' where
  begun := by rw [SourceBlock.begun, SourceBlock.begun, hthread, hstats]
  targets := by rw [hthread]
  submitting := by rw [hthread]
  frame f := by
    rw [hthread]
    exact id
  offered buffer := by
    rw [hthread]
    exact .inl
  consumer := hconsumer

/-- A thread that comes from its loop, or was not there, has nothing to hand over. -/
lemma Tallies.of_frame (hframe : x.thread.frame? = none ∧ x.thread.targets = [] ∧
      x.thread.isSubmitting = false)
    (hframe' : x'.thread.frame? = none ∧ x'.thread.targets = [] ∧ x'.thread.isSubmitting = false)
    (hoffered : ∀ buffer, x'.thread = .offering buffer → buffer.isValid = true)
    (hstats : x'.core.stats.processed = x.core.stats.processed)
    (hconsumer : x'.engine.consumer = x.engine.consumer ∨ x'.engine.consumer = none ∨
      ∃ targets, x'.engine.consumer = some (.fanOut targets) ∧ routed targets) :
    Tallies routed x x' where
  begun := by rw [SourceBlock.begun, SourceBlock.begun, hframe.1, hframe'.1, hstats]
  targets := by rw [hframe.2.1, hframe'.2.1]
  submitting := by rw [hframe.2.2, hframe'.2.2]
  frame f hf := by simp [hframe'.1] at hf
  offered buffer hbuffer := .inr (hoffered buffer hbuffer)
  consumer := hconsumer

lemma Opens.tallies (h : x.Opens x') : Tallies routed x x' := by
  cases h with
  | spawns generator lending hthread =>
    refine .of_frame ?_ ⟨rfl, rfl, rfl⟩ (by simp) rfl (.inl rfl)
    rw [hthread]
    exact ⟨rfl, rfl, rfl⟩
  | _ => exact .of_thread rfl rfl (.inl rfl)

lemma Closes.tallies (h : x.Closes x') : Tallies routed x x' := by
  cases h with
  | forgets hthread =>
    refine .of_frame ?_ ⟨rfl, rfl, rfl⟩ (by simp) rfl (.inl rfl)
    rcases hthread with h | h <;>
    · rw [h]
      exact ⟨rfl, rfl, rfl⟩
  | clears => exact .of_thread rfl rfl (.inr (.inl rfl))
  | _ => exact .of_thread rfl rfl (.inl rfl)

end SourceBlock

/-! ### Blocks -/

namespace Block

variable {γ π : Type} {b b' : Block γ π} {routed : List Nat → Prop}

/-- Nothing was taken in, begun with or handed over. -/
inductive Tallies (routed : List Nat → Prop) : Block γ π → Block γ π → Prop
  | source {x x' : SourceBlock γ} (h : x.Tallies routed x') :
    Tallies routed (.source x) (.source x')
  | sink {y y' : SinkBlock π} (h : y.engine.Tallies y'.engine) :
    Tallies routed (.sink y) (.sink y')
  | stage {z z' : StageBlock} : Tallies routed (.stage z) (.stage z')

/-- How many times a frame has yet to be handed to the sink at a position. -/
def owed (k : Nat) : Block γ π → Nat
  | .source x => x.thread.targets.count k
  | _ => 0

/-- How many offers of the source at a position wait for the answer of the block. -/
def offersOf (i : Nat) : Block γ π → Nat
  | .sink y => y.engine.pending.countP (·.producer = .source i)
  | _ => 0

/-- The number of frames with which the block has begun. -/
def begun : Block γ π → Nat
  | .source x => x.begun
  | _ => 0

lemma Tallies.refl (b : Block γ π) : b.Tallies routed b := by
  cases b with
  | source x => exact .source (.refl x)
  | sink y => exact .sink (.refl y.engine)
  | stage z => exact .stage

lemma Tallies.owed (h : b.Tallies routed b') (k : Nat) : b'.owed k = b.owed k := by
  cases h with
  | source h => rw [Block.owed, Block.owed, h.targets]
  | sink h => rfl
  | stage => rfl

lemma Tallies.offersOf (h : b.Tallies routed b') (i : Nat) : b'.offersOf i = b.offersOf i := by
  cases h with
  | source h => rfl
  | sink h => exact h.pending.countP_eq _
  | stage => rfl

lemma Tallies.begun (h : b.Tallies routed b') : b'.begun = b.begun := by
  cases h with
  | source h => exact h.begun
  | sink h => rfl
  | stage => rfl

lemma Control.tallies (h : b.Control b') : b.Tallies routed b' := by
  rcases h with h | h
  · cases h with
    | source h => exact .source h.tallies
    | sink h => exact .sink h.tallies
  · cases h with
    | source h => exact .source h.tallies
    | sink h => exact .sink h.tallies
    | unheard =>
      cases b with
      | source x => exact .source (.of_thread rfl rfl (.inl rfl))
      | sink y => exact .sink ⟨rfl, .refl _, id⟩
      | stage z => exact .stage

lemma Configures.tallies (h : b.Configures b') : b.Tallies routed b' := by
  cases h with
  | source hthread hconsumer hstats hstate =>
    exact .source (.of_thread hthread (by rw [hstats]) (.inl hconsumer))
  | @sink y y' hqueue hworker hstop hstats happroaching hwaiting hstate =>
    refine .sink ⟨?_, ?_, ?_⟩
    · rw [SinkBlock.core, SinkBlock.core] at hstats
      simp only [SinkEngine.intake, hqueue, hworker, hstats]
    · rw [SinkEngine.pending, SinkEngine.pending, happroaching, hwaiting]
    · intro hrested hstate'
      rw [hqueue]
      apply hrested
      rcases hstate with heq | ⟨hearly, -⟩
      · exact heq ▸ hstate'
      · rcases List.mem_pair.1 hearly with h | h <;> simp_all [SinkBlock.core]

end Block

/-! ### Networks -/

namespace Network

variable {ω γ π : Type} {s t : Network ω γ π} {i : Nat} {b b' : Block γ π} {f : Block γ π → Nat}
  {routed : Nat → List Nat → Prop}

/-- The sum of a quantity over all blocks. -/
def total (f : Block γ π → Nat) (s : Network ω γ π) : Nat := (s.blocks.map f).sum

/-- The number of frames with which the source at a position has begun. -/
def begunAt (s : Network ω γ π) (i : Nat) : Nat := (s.block? i).elim 0 Block.begun

/-- One if the source at a position waits for the answer of a sink, else nothing. -/
def submittingAt (s : Network ω γ π) (i : Nat) : Nat :=
  (s.source? i).elim 0 fun x => x.thread.isSubmitting.toNat

/-- Nothing was taken in, begun with or handed over. -/
structure Tallies (routed : Nat → List Nat → Prop) (s t : Network ω γ π) : Prop where
  length : t.blocks.length = s.blocks.length
  block : ∀ i b, s.block? i = some b → ∃ b', t.block? i = some b' ∧ b.Tallies (routed i) b'

lemma tallies_of_set (hb : s.block? i = some b) (h : b.Tallies (routed i) b')
    (ht : t.blocks = s.blocks.set i b') : s.Tallies routed t := by
  constructor
  · rw [ht, List.length_set]
  · intro j c hc
    exact exists_block?_of_set (R := fun j => Block.Tallies (routed j)) ht hb h (fun _ => .refl) hc

lemma tallies_of_blocks_eq (h : t.blocks = s.blocks) : s.Tallies routed t :=
  ⟨by rw [h], fun i b hb => ⟨b, (block?_of_blocks_eq h i).trans hb, .refl b⟩⟩

lemma StepAt.tallies {G : Block γ π → Block γ π → Prop} (h : StepAt G i s t)
    (hG : ∀ b b', G b b' → b.Tallies (routed i) b') : s.Tallies routed t := by
  rcases h with h | ⟨b, b', hb, hstep, h⟩
  · exact tallies_of_blocks_eq h
  · exact tallies_of_set hb (hG b b' hstep) h

lemma Tallies.each (h : s.Tallies routed t) : s.Each (fun i => Block.Tallies (routed i)) t :=
  ⟨h.length, h.block⟩

lemma Tallies.source (h : s.Tallies routed t) (hb : t.block? i = some b') :
    ∃ b, s.block? i = some b ∧ b.Tallies (routed i) b' :=
  h.each.source hb

lemma Tallies.none (h : s.Tallies routed t) (hi : s.block? i = none) : t.block? i = none :=
  h.each.none hi

lemma Each.total {R : Nat → Block γ π → Block γ π → Prop} (h : s.Each R t)
    (hf : ∀ i (b b' : Block γ π), R i b b' → f b' = f b) : t.total f = s.total f := by
  rw [Network.total, Network.total, h.map_eq hf]

lemma Tallies.total (h : s.Tallies routed t)
    (hf : ∀ i (b b' : Block γ π), b.Tallies (routed i) b' → f b' = f b) :
    t.total f = s.total f :=
  h.each.total hf

lemma Tallies.begunAt (h : s.Tallies routed t) (i : Nat) : t.begunAt i = s.begunAt i := by
  cases hi : s.block? i with
  | none => simp [Network.begunAt, hi, h.none hi]
  | some b =>
    obtain ⟨b', hb', htallies⟩ := h.block i b hi
    simp [Network.begunAt, hi, hb', htallies.begun]

lemma Tallies.submittingAt (h : s.Tallies routed t) (i : Nat) :
    t.submittingAt i = s.submittingAt i := by
  cases hi : s.block? i with
  | none => simp [Network.submittingAt, source?, hi, h.none hi]
  | some b =>
    obtain ⟨b', hb', htallies⟩ := h.block i b hi
    cases htallies with
    | source htallies => simp [Network.submittingAt, source?, hi, hb', htallies.submitting]
    | sink _ => simp [Network.submittingAt, source?, hi, hb']
    | stage => simp [Network.submittingAt, source?, hi, hb']

lemma Tallies.isSome_sink? (h : s.Tallies routed t) (k : Nat) :
    (t.sink? k).isSome = (s.sink? k).isSome := by
  cases hk : s.block? k with
  | none => simp [sink?, hk, h.none hk]
  | some b =>
    obtain ⟨b', hb', htallies⟩ := h.block k b hk
    cases htallies <;> simp [sink?, hk, hb']

/-- When one block is replaced, a sum changes by the difference of the two. -/
lemma total_set (hb : s.block? i = some b) (ht : t.blocks = s.blocks.set i b')
    (f : Block γ π → Nat) : t.total f + f b = s.total f + f b' := by
  have hsum (l : List (Block γ π)) (i : Nat) (hi : l[i]? = some b) :
      ((l.set i b').map f).sum + f b = (l.map f).sum + f b' := by
    induction l generalizing i with
    | nil => simp at hi
    | cons c l ih =>
      cases i with
      | zero =>
        simp only [List.getElem?_cons_zero, Option.some.injEq] at hi
        simp only [List.set_cons_zero, List.map_cons, List.sum_cons, hi]
        omega
      | succ i =>
        have hrest := ih i (by simpa using hi)
        simp only [List.set_cons_succ, List.map_cons, List.sum_cons]
        omega
  rw [total, total, ht]
  exact hsum s.blocks i hb

lemma le_total (hb : s.block? i = some b) (f : Block γ π → Nat) : f b ≤ s.total f :=
  List.le_sum_of_mem (List.mem_map.2 ⟨b, List.mem_of_getElem? hb, rfl⟩)

/-- If a source has as many offers as it waits for answers, an offer of it means that it waits. -/
lemma submitting_of_offer {k : Nat} {y : SinkBlock π} {o : Offer}
    (hoffers : s.total (Block.offersOf i) = s.submittingAt i) (hy : s.block? k = some (.sink y))
    (ho : o ∈ y.engine.pending) (hproducer : o.producer = .source i) :
    ∃ x f rest, s.block? i = some (.source x) ∧ x.thread = .submitting f rest := by
  have hpos : 0 < y.engine.pending.countP (·.producer = .source i) :=
    List.countP_pos_iff.2 ⟨o, ho, by simp [hproducer]⟩
  have hle := le_total hy (Block.offersOf i)
  simp only [Block.offersOf] at hle
  cases hx : s.source? i with
  | none =>
    simp only [submittingAt, hx, Option.elim_none] at hoffers
    omega
  | some x =>
    simp only [submittingAt, hx, Option.elim_some] at hoffers
    rw [source?_eq_some] at hx
    cases hthread : x.thread with
    | submitting f rest => exact ⟨x, f, rest, hx, hthread⟩
    | _ =>
      simp only [hthread, SourceThread.isSubmitting, Bool.toNat_false] at hoffers
      omega

end Network

end FrameGraph
