import FrameGraph.Block.Core
import Mathlib.Tactic.Common

/-!
# What counting changes

Counting a frame changes the statistics of a block and nothing else, and each way of counting
changes its own counters.
-/

namespace FrameGraph.BlockCore

variable (c : BlockCore) (bytes nanos n : Nat)

/-! ### States -/

@[simp] lemma state_recordDropped : c.recordDropped.state = c.state := rfl

@[simp] lemma state_recordDrops : (c.recordDrops n).state = c.state := rfl

@[simp] lemma state_setQueueDepth : (c.setQueueDepth n).state = c.state := rfl

@[simp] lemma state_recordProcessed : (c.recordProcessed bytes nanos).2.state = c.state := rfl

/-! ### Frames dropped -/

@[simp] lemma processed_recordDropped :
    c.recordDropped.stats.processed = c.stats.processed := rfl

@[simp] lemma dropped_recordDropped :
    c.recordDropped.stats.dropped = c.stats.dropped + 1 := rfl

@[simp] lemma bytes_recordDropped : c.recordDropped.stats.bytes = c.stats.bytes := rfl

@[simp] lemma queueDepth_recordDropped :
    c.recordDropped.stats.queueDepth = c.stats.queueDepth := rfl

@[simp] lemma processed_recordDrops :
    (c.recordDrops n).stats.processed = c.stats.processed := rfl

@[simp] lemma dropped_recordDrops :
    (c.recordDrops n).stats.dropped = c.stats.dropped + n := rfl

@[simp] lemma bytes_recordDrops : (c.recordDrops n).stats.bytes = c.stats.bytes := rfl

@[simp] lemma queueDepth_recordDrops :
    (c.recordDrops n).stats.queueDepth = c.stats.queueDepth := rfl

/-! ### Frames waiting -/

@[simp] lemma processed_setQueueDepth :
    (c.setQueueDepth n).stats.processed = c.stats.processed := rfl

@[simp] lemma dropped_setQueueDepth :
    (c.setQueueDepth n).stats.dropped = c.stats.dropped := rfl

@[simp] lemma bytes_setQueueDepth : (c.setQueueDepth n).stats.bytes = c.stats.bytes := rfl

@[simp] lemma queueDepth_setQueueDepth :
    (c.setQueueDepth n).stats.queueDepth = min n Statistics.maxQueueDepth := rfl

/-! ### Frames processed -/

@[simp] lemma processed_recordProcessed :
    (c.recordProcessed bytes nanos).2.stats.processed = c.stats.processed + 1 := by
  simp only [recordProcessed, Statistics.recordProcessed]
  split <;> rfl

@[simp] lemma dropped_recordProcessed :
    (c.recordProcessed bytes nanos).2.stats.dropped = c.stats.dropped := by
  simp only [recordProcessed, Statistics.recordProcessed]
  split <;> rfl

@[simp] lemma queueDepth_recordProcessed :
    (c.recordProcessed bytes nanos).2.stats.queueDepth = c.stats.queueDepth := by
  simp only [recordProcessed, Statistics.recordProcessed]
  split <;> rfl

/-- The bytes of a frame are counted as long as their sum is a word. -/
lemma bytes_recordProcessed (h : c.stats.bytes + bytes < Checked.word64) :
    (c.recordProcessed bytes nanos).2.stats.bytes = c.stats.bytes + bytes := by
  have hadd := Checked.add_eq_ok_iff.2 ⟨h, rfl⟩
  simp [recordProcessed, Statistics.recordProcessed, hadd]

end FrameGraph.BlockCore
