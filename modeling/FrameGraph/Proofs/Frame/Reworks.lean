import FrameGraph.Frame.Buffer
import Mathlib.Tactic.Common

/-!
# What the holder of a buffer may do with it

A holder may bind a buffer anew, reset it, stamp it, write to it and have something copied into it.
None of this changes the storage behind the buffer: the region keeps its capacity, its handle and
its lender.
-/

namespace FrameGraph

namespace FrameBuffer

variable {b c source target : FrameBuffer} {info : FrameInfo}

/-- Both buffers stand for the same storage. -/
structure SameStorage (b c : FrameBuffer) : Prop where
  disposal : c.disposal = b.disposal
  handle : c.handle = b.handle
  capacity : c.capacity = b.capacity

lemma SameStorage.refl (b : FrameBuffer) : b.SameStorage b := ⟨rfl, rfl, rfl⟩

lemma SameStorage.trans {d : FrameBuffer} (h : b.SameStorage c) (h' : c.SameStorage d) :
    b.SameStorage d :=
  ⟨h'.disposal.trans h.disposal, h'.handle.trans h.handle, h'.capacity.trans h.capacity⟩

/-- One thing that a holder does with a buffer. -/
inductive Reworks (b : FrameBuffer) : FrameBuffer → Prop
  | binds {c : FrameBuffer} (info : FrameInfo) (h : b.bind info = .ok c) : Reworks b c
  | resets : Reworks b b.reset
  | stamps (timestamp sequence : Nat) : Reworks b (b.stamp timestamp sequence)
  | writes (new : List UInt8) : Reworks b (b.writeData new)
  | writesPlane (l : PlaneLayout) (new : List UInt8) : Reworks b (b.writePlane l new)
  | copies (source : FrameBuffer) : Reworks b (source.copyInto b).2

lemma sameStorage_of_bind (h : b.bind info = .ok c) : b.SameStorage c := by
  unfold bind at h
  cases hneeded : info.frameSize with
  | error p => simp [hneeded, Checked.lift, Bind.bind, Except.bind] at h
  | ok needed =>
    rw [hneeded] at h
    dsimp only [Checked.lift, Bind.bind, Except.bind] at h
    split at h
    · cases h
    · cases h
      exact ⟨rfl, rfl, rfl⟩

lemma sameStorage_writePlane (l : PlaneLayout) (new : List UInt8) :
    b.SameStorage (b.writePlane l new) :=
  ⟨rfl, rfl, Region.capacity_write ..⟩

lemma sameStorage_copyPlanes (count i : Nat) :
    target.SameStorage (source.copyPlanes count i target).2 := by
  induction count generalizing i target with
  | zero => exact .refl target
  | succ count ih =>
    rw [copyPlanes]
    split
    · exact (sameStorage_writePlane ..).trans (ih (i + 1))
    · exact ih (i + 1)
    · exact .refl target
    · exact .refl target

lemma sameStorage_copyInto : target.SameStorage (source.copyInto target).2 := by
  unfold copyInto
  split
  · exact .refl target
  · split
    · exact .refl target
    · rename_i hbind
      exact (sameStorage_of_bind hbind).trans (sameStorage_copyPlanes ..)

lemma Reworks.sameStorage (h : b.Reworks c) : b.SameStorage c := by
  cases h with
  | binds info h => exact sameStorage_of_bind h
  | resets => exact ⟨rfl, rfl, rfl⟩
  | stamps => exact ⟨rfl, rfl, rfl⟩
  | writes => exact ⟨rfl, rfl, Region.capacity_write ..⟩
  | writesPlane => exact sameStorage_writePlane ..
  | copies => exact sameStorage_copyInto

end FrameBuffer

end FrameGraph
