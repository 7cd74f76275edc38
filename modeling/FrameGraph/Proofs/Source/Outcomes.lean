import FrameGraph.Proofs.Network.Effects
import Mathlib.Algebra.GroupWithZero.Nat

/-!
# What a generator comes to

Each time it is asked, a generator comes to an outcome: a frame, nothing, a lack of memory, another
error, or an abort; and the consumer that is called with a frame takes it or is aborted. Which
outcomes break the thread, and what is counted of them, is told here from the list of the outcomes
alone.
-/

namespace FrameGraph

/-! ### Single outcomes -/

/-- What a generator comes to when it is asked: perhaps a frame, or a fault. -/
abbrev Attempt := Result (Option FrameBuffer)

namespace Attempt

/-- The frame that was made. -/
def frame? : Attempt → Option FrameBuffer
  | .ok made => made
  | .error _ => none

/-- Whether the outcome costs one frame: it is an error, and not for want of memory. -/
def losesFrame : Attempt → Bool
  | .error (.error (.allocation _)) => false
  | .error (.error _) => true
  | _ => false

/-- Whether the thread breaks upon the outcome: memory is lacking, the generator is aborted, or the
consumer is aborted when it is called with the frame. -/
def breaks (aborted : Bool) : Attempt → Bool
  | .error (.error (.allocation _)) => true
  | .error (.error _) => false
  | .error (.panic _) => true
  | .ok none => false
  | .ok (some _) => aborted

variable {aborted : Bool} {o : Attempt} {e : Error}

lemma breaks_error : breaks aborted (.error (.error e)) = e.isResource := by
  cases e <;> rfl

lemma losesFrame_error : losesFrame (.error (.error e)) = !e.isResource := by
  cases e <;> rfl

end Attempt

/-! ### Consumers -/

namespace Consumer

/-- Whether the call with this number is aborted. The next call has the number zero. -/
def aborts : Consumer → Nat → Bool
  | .tap (.aborts calls), k => calls.getD k false
  | _, _ => false

/-- The consumer after so many calls. -/
def after : Consumer → Nat → Consumer
  | .tap (.aborts calls), k => .tap (.aborts (calls.drop k))
  | c, _ => c

variable (c : Consumer) (n k : Nat)

@[simp] lemma after_zero : c.after 0 = c := by
  unfold after
  split <;> simp

lemma after_after : (c.after n).after k = c.after (n + k) := by
  rcases c with targets | (_ | _ | calls) <;> simp [after]

lemma aborts_after : (c.after n).aborts k = c.aborts (n + k) := by
  rcases c with targets | (_ | _ | calls) <;> simp [after, aborts]

end Consumer

/-- A tap is called with a frame. -/
lemma Network.tapFrame_fst {ω γ π : Type} (s : Network ω γ π) (t : Tap) (f : Frame) :
    (s.tapFrame t f).1.1 = !(Consumer.tap t).aborts 0 ∧
      Consumer.tap (s.tapFrame t f).1.2 = (Consumer.tap t).after 1 := by
  rcases t with _ | _ | (_ | ⟨_ | _, calls⟩) <;> simp [tapFrame, Consumer.aborts, Consumer.after]

/-! ### All outcomes -/

namespace Attempt

/-- The frames that were made. -/
def frames (outcomes : List Attempt) : List FrameBuffer := outcomes.filterMap frame?

/-- The frames with which a consumer is called: all that are made. -/
def called (c : Option Consumer) (outcomes : List Attempt) : List FrameBuffer :=
  c.elim [] fun _ => frames outcomes

/-- The frames that a consumer takes: those of the calls in which it is not aborted. -/
def taken (c : Option Consumer) (outcomes : List Attempt) : List FrameBuffer :=
  c.elim [] fun c => ((frames outcomes).zipIdx.filter fun p => !c.aborts p.2).map Prod.fst

/-- After these outcomes the thread breaks upon the next one. -/
def Breaks (c : Option Consumer) (before : List Attempt) (o : Attempt) : Prop :=
  o.breaks (c.any (·.aborts (frames before).length)) = true

/-- The thread breaks upon none of these outcomes. -/
def Sound (c : Option Consumer) (outcomes : List Attempt) : Prop :=
  ∀ before o after, outcomes = before ++ o :: after → ¬Breaks c before o

variable {c : Option Consumer} {consumer : Consumer} {outcomes : List Attempt} {o : Attempt}
  {buffer : FrameBuffer}

@[simp] lemma frames_concat : frames (outcomes ++ [o]) = frames outcomes ++ o.frame?.toList := by
  unfold frames
  rw [List.filterMap_append]
  cases h : o.frame? <;> simp [h]

lemma countP_losesFrame_concat : (outcomes ++ [o]).countP losesFrame =
    outcomes.countP losesFrame + if o.losesFrame then 1 else 0 := by
  simp [List.countP_append, List.countP_cons]

lemma called_concat : called c (outcomes ++ [o]) =
    called c outcomes ++ called c [o] := by
  cases c with
  | none => rfl
  | some consumer => simp [called, frames, List.filterMap_append]

lemma taken_concat_of_frame? (h : o.frame? = none) :
    taken c (outcomes ++ [o]) = taken c outcomes := by
  simp [taken, h]

lemma called_concat_of_frame? (h : o.frame? = none) :
    called c (outcomes ++ [o]) = called c outcomes := by
  simp [called, h]

lemma taken_concat_ok : taken (some consumer) (outcomes ++ [.ok (some buffer)]) =
    taken (some consumer) outcomes ++
      if consumer.aborts (frames outcomes).length then [] else [buffer] := by
  have hframe : frame? (.ok (some buffer)) = some buffer := rfl
  simp only [taken, Option.elim_some, frames_concat, hframe, Option.toList_some, List.zipIdx_append,
    List.filter_append, List.map_append]
  congr 1
  by_cases h : consumer.aborts (frames outcomes).length = true
  · simp [h]
  · simp [h]

lemma sound_nil : Sound c [] := fun before o after h => by simp at h

lemma Sound.concat (h : Sound c outcomes) (ho : ¬Breaks c outcomes o) :
    Sound c (outcomes ++ [o]) := by
  intro before o' after heq
  rcases List.eq_nil_or_concat after with rfl | ⟨rest, last, rfl⟩
  · obtain ⟨rfl, hlast⟩ := List.append_inj' heq rfl
    obtain rfl : o = o' := by simpa using hlast
    exact ho
  · rw [List.concat_eq_append, ← List.cons_append, ← List.append_assoc] at heq
    exact h before o' rest (List.append_inj' heq rfl).1

/-- The outcome upon which the thread breaks is the last. -/
lemma Sound.eq_nil_of_breaks (h : Sound c outcomes) {before after : List Attempt} {o' : Attempt}
    (heq : outcomes ++ [o] = before ++ o' :: after) (hbreaks : Breaks c before o') :
    after = [] := by
  rcases List.eq_nil_or_concat after with rfl | ⟨rest, last, rfl⟩
  · rfl
  · rw [List.concat_eq_append, ← List.cons_append, ← List.append_assoc] at heq
    exact absurd hbreaks (h before o' rest (List.append_inj' heq rfl).1)

end Attempt

/-! ### The books of a source -/

/-- A frame without what is written on it when it is emitted. -/
def FrameBuffer.unstamped (b : FrameBuffer) : FrameBuffer := b.stamp 0 0

namespace SourceEngine

/-- What an engine has come to: these outcomes are settled, so many calls of the consumer were
begun, and these frames were delivered. -/
structure Accounts (e₀ : SourceEngine) (outcomes : List Attempt) (calls : Nat)
    (delivered : List FrameBuffer) (e : SourceEngine) : Prop where
  consumer : e.consumer = e₀.consumer.map (·.after calls)
  sequence : e.sequence = e₀.sequence + calls
  processed : e.core.stats.processed = e₀.core.stats.processed + delivered.length
  dropped : e.core.stats.dropped = e₀.core.stats.dropped + outcomes.countP Attempt.losesFrame
  bytes : e₀.core.stats.bytes + (delivered.map (·.size)).sum < Checked.word64 →
    e.core.stats.bytes = e₀.core.stats.bytes + (delivered.map (·.size)).sum
  numbers : delivered.map (·.info.sequence) = List.range' (e₀.sequence + 1) delivered.length
  frames : delivered.map (·.unstamped) =
    (Attempt.taken e₀.consumer outcomes).map (·.unstamped)

variable {e₀ e e' : SourceEngine} {outcomes : List Attempt} {o : Attempt} {calls : Nat}
  {delivered : List FrameBuffer} {buffer f : FrameBuffer} {c : Consumer}

/-- The counter of bytes leaves its word. -/
lemma lt_of_delivered_error {p : Panic} {n : Nat} (h : (e.delivered n).1 = .error p) :
    Checked.word64 ≤ e.core.stats.bytes + n := by
  rw [← Nat.not_lt]
  intro hlt
  have hadd := Checked.add_eq_ok_iff.2 ⟨hlt, rfl⟩
  simp [SourceEngine.delivered, BlockCore.recordProcessed, Statistics.recordProcessed, hadd] at h

namespace Accounts

lemma new (e : SourceEngine) : Accounts e [] 0 [] e where
  consumer := by simp
  sequence := rfl
  processed := rfl
  dropped := rfl
  bytes _ := rfl
  numbers := rfl
  frames := by cases hc : e.consumer <;> simp [Attempt.taken, Attempt.frames]

/-- An outcome without a frame. -/
lemma settles (h : Accounts e₀ outcomes calls delivered e) (hframe : o.frame? = none)
    (hconsumer : e'.consumer = e.consumer) (hsequence : e'.sequence = e.sequence)
    (hprocessed : e'.core.stats.processed = e.core.stats.processed)
    (hbytes : e'.core.stats.bytes = e.core.stats.bytes)
    (hdropped : e'.core.stats.dropped = e.core.stats.dropped + if o.losesFrame then 1 else 0) :
    Accounts e₀ (outcomes ++ [o]) calls delivered e' where
  consumer := hconsumer.trans h.consumer
  sequence := hsequence.trans h.sequence
  processed := hprocessed.trans h.processed
  dropped := by rw [hdropped, h.dropped, Attempt.countP_losesFrame_concat, Nat.add_assoc]
  bytes hword := hbytes.trans (h.bytes hword)
  numbers := h.numbers
  frames := by rw [Attempt.taken_concat_of_frame? hframe, h.frames]

/-- A frame that nobody wants. -/
lemma unheard (h : Accounts e₀ outcomes calls delivered e) (hc : e₀.consumer = none) :
    Accounts e₀ (outcomes ++ [.ok (some buffer)]) calls delivered e where
  consumer := h.consumer
  sequence := h.sequence
  processed := h.processed
  dropped := by
    rw [h.dropped, Attempt.countP_losesFrame_concat]
    rfl
  bytes := h.bytes
  numbers := h.numbers
  frames := by
    rw [h.frames, hc]
    rfl

/-- A call of the consumer begins. -/
lemma begins (h : Accounts e₀ outcomes calls delivered e)
    (hconsumer : e'.consumer = e.consumer.map (·.after 1))
    (hsequence : e'.sequence = e.sequence + 1) (hcore : e'.core = e.core) :
    Accounts e₀ outcomes (calls + 1) delivered e' where
  consumer := by
    rw [hconsumer, h.consumer, Option.map_map]
    congr 1
    funext c
    exact c.after_after calls 1
  sequence := by rw [hsequence, h.sequence, Nat.add_assoc]
  processed := by rw [hcore, h.processed]
  dropped := by rw [hcore, h.dropped]
  bytes hword := by rw [hcore, h.bytes hword]
  numbers := h.numbers
  frames := h.frames

/-- A call of the consumer comes to its end, and the frame is delivered. -/
lemma delivers (h : Accounts e₀ outcomes (delivered.length + 1) delivered e)
    (hc : e₀.consumer = some c) (htakes : c.aborts (Attempt.frames outcomes).length = false)
    (hf : f.unstamped = buffer.unstamped) (hsequence : f.info.sequence = e.sequence) :
    Accounts e₀ (outcomes ++ [.ok (some buffer)]) (delivered.length + 1) (delivered ++ [f])
      (e.delivered f.size).2 where
  consumer := h.consumer
  sequence := h.sequence
  processed := by
    rw [List.length_append, ← Nat.add_assoc, ← h.processed]
    exact BlockCore.processed_recordProcessed ..
  dropped := by
    rw [Attempt.countP_losesFrame_concat, ← Nat.add_assoc, ← h.dropped]
    exact BlockCore.dropped_recordProcessed ..
  bytes hword := by
    simp only [List.map_append, List.sum_append, List.map_cons, List.map_nil, List.sum_cons,
      List.sum_nil, Nat.add_zero] at hword ⊢
    have hbefore := h.bytes (by omega)
    rw [← Nat.add_assoc, ← hbefore] at hword ⊢
    exact BlockCore.bytes_recordProcessed _ _ _ hword
  numbers := by
    rw [List.map_append, h.numbers, List.length_append, List.length_singleton,
      List.range'_concat, List.map_singleton, hsequence, h.sequence]
    congr 2
    omega
  frames := by
    rw [hc, Attempt.taken_concat_ok, htakes, List.map_append, h.frames, hc]
    simp [hf]

/-- A call of the consumer is aborted. -/
lemma refused (h : Accounts e₀ outcomes calls delivered e) (hc : e₀.consumer = some c)
    (haborts : c.aborts (Attempt.frames outcomes).length = true) (p : Panic) :
    Accounts e₀ (outcomes ++ [.ok (some buffer)]) calls delivered (e.undelivered p).2 where
  consumer := h.consumer
  sequence := h.sequence
  processed := h.processed
  dropped := by
    rw [Attempt.countP_losesFrame_concat]
    exact h.dropped
  bytes := h.bytes
  numbers := h.numbers
  frames := by
    rw [hc, Attempt.taken_concat_ok, haborts, if_pos rfl, List.append_nil, h.frames, hc]

/-- The counter of bytes leaves its word. -/
lemma overflows (h : Accounts e₀ outcomes calls delivered e) {p : Panic}
    (hp : (e.delivered f.size).1 = .error p) :
    Checked.word64 ≤ e₀.core.stats.bytes + ((delivered ++ [f]).map (·.size)).sum := by
  have hbytes := lt_of_delivered_error hp
  simp only [List.map_append, List.sum_append, List.map_cons, List.map_nil, List.sum_cons,
    List.sum_nil, Nat.add_zero]
  by_cases hword : e₀.core.stats.bytes + (delivered.map (·.size)).sum < Checked.word64
  · rw [h.bytes hword] at hbytes
    omega
  · omega

end Accounts

end SourceEngine

end FrameGraph
