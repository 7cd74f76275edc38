import FrameGraph.Pattern.Generator
import FrameGraph.Proofs.Network.Effects
import FrameGraph.Proofs.Pool.Dealings

/-!
# The buffers of test pictures

A buffer is bound to a geometry only if the payload fits its region, and drawing changes neither the
size of the payload nor the storage behind it. So each test picture fits its region, with or without
a pool, and a region of the pool is handed over with a picture or goes back to the pool.
-/

namespace FrameGraph

/-- A computation in two parts has a value if both parts have one. -/
lemma bind_eq_ok {ε α β : Type} {x : Except ε α} {f : α → Except ε β} {b : β} :
    (x >>= f) = .ok b ↔ ∃ a, x = .ok a ∧ f a = .ok b := by
  cases x with
  | error e => simp [bind, Except.bind]
  | ok a => simp [bind, Except.bind]

/-! ### Binding and writing -/

namespace FrameBuffer

variable {b b' : FrameBuffer} {info : FrameInfo}

lemma isValid_of_bind (h : b.bind info = .ok b') : b'.isValid = true := by
  obtain ⟨needed, -, h⟩ := bind_eq_ok.1 h
  by_cases hfits : b.capacity < needed
  · simp [hfits, refuse] at h
  · rw [if_neg hfits] at h
    cases h
    exact decide_eq_true (Nat.le_of_not_lt hfits)

lemma isValid_of_forInfo (h : forInfo info = .ok b) : b.isValid = true := by
  obtain ⟨size, -, h⟩ := bind_eq_ok.1 h
  split at h
  · obtain ⟨text, -, h⟩ := bind_eq_ok.1 h
    cases h
  · split at h
    · cases h
    · exact isValid_of_bind h

/-- What was drawn into a buffer left its geometry and its storage alone. -/
structure Drawn (b b' : FrameBuffer) : Prop extends b.SameStorage b' where
  size : b'.size = b.size
  info : b'.info = b.info

lemma Drawn.refl (b : FrameBuffer) : b.Drawn b := ⟨.refl b, rfl, rfl⟩

lemma Drawn.trans {b'' : FrameBuffer} (h : b.Drawn b') (h' : b'.Drawn b'') : b.Drawn b'' :=
  ⟨h.toSameStorage.trans h'.toSameStorage, h'.size.trans h.size, h'.info.trans h.info⟩

lemma Drawn.isValid (h : b.Drawn b') : b'.isValid = b.isValid := by
  rw [FrameBuffer.isValid, FrameBuffer.isValid, h.capacity, h.size]

lemma Drawn.layout (h : b.Drawn b') (i : Nat) : b'.layout i = b.layout i := by
  rw [FrameBuffer.layout, FrameBuffer.layout, h.info, h.size]

lemma drawn_writePlane (l : PlaneLayout) (new : List UInt8) : b.Drawn (b.writePlane l new) :=
  ⟨sameStorage_writePlane l new, rfl, rfl⟩

end FrameBuffer

/-! ### Pools -/

namespace BufferPool

variable {p : BufferPool} {info : FrameInfo} {b : FrameBuffer}

/-- A frame that a pool hands out fits its region, whether this was free or is new. -/
lemma isValid_of_acquire (h : (p.acquire info).1 = .ok b) : b.isValid = true := by
  obtain ⟨-, -, handle, region, hbind⟩ := acquire_ok h
  exact FrameBuffer.isValid_of_bind hbind

end BufferPool

/-! ### Drawing -/

namespace Picture

variable {p : Picture} {b b' : FrameBuffer}

lemma drawn_of_drawFirstPlane {bytes : Nat} (h : p.drawFirstPlane bytes b = .ok b') :
    b.Drawn b' := by
  obtain ⟨layout, -, h⟩ := bind_eq_ok.1 h
  cases layout with
  | none =>
    cases h
    exact .refl b
  | some l =>
    dsimp only at h
    split at h
    · cases h
    · obtain ⟨drawn, -, h⟩ := bind_eq_ok.1 h
      cases h
      exact FrameBuffer.drawn_writePlane l drawn

lemma drawn_of_fillPlane {plane : Nat} {v : UInt8} (h : fillPlane plane v b = .ok b') :
    b.Drawn b' := by
  obtain ⟨layout, -, h⟩ := bind_eq_ok.1 h
  cases layout with
  | none =>
    cases h
    exact .refl b
  | some l =>
    cases h
    exact FrameBuffer.drawn_writePlane l _

lemma drawn_of_draw (h : p.draw b = .ok b') : b.Drawn b' := by
  unfold draw at h
  split at h
  case h_6 =>
    obtain ⟨first, hfirst, h⟩ := bind_eq_ok.1 h
    obtain ⟨second, hsecond, h⟩ := bind_eq_ok.1 h
    exact (drawn_of_drawFirstPlane hfirst).trans
      ((drawn_of_fillPlane hsecond).trans (drawn_of_fillPlane h))
  case h_7 =>
    cases h
    exact .refl b
  all_goals exact drawn_of_drawFirstPlane h

end Picture

/-! ### Generators -/

namespace TestPattern

variable {g g' : TestPattern} {b b' : FrameBuffer} {info : FrameInfo} {pool : BufferPool}

lemma drawn_of_render (h : g.render b = (.ok b', g')) : b.Drawn b' := by
  unfold render at h
  split at h
  · cases h
    exact ⟨(FrameBuffer.Reworks.writes _).sameStorage, rfl, rfl⟩
  · exact Picture.drawn_of_draw (congrArg Prod.fst h)

lemma drawn_of_finish {last : TestPattern} (h : g.finish b = (.ok (b', g'), last)) :
    b.Drawn b' := by
  unfold finish at h
  split at h
  · cases h
  · rename_i drawn counted hrender
    cases hadvance : counted.advance with
    | error e => simp [hadvance, Except.map] at h
    | ok advanced =>
      simp only [hadvance, Except.map, Prod.mk.injEq, Except.ok.injEq] at h
      rw [← h.1.1]
      exact drawn_of_render hrender

lemma isValid_of_obtain (h : (g.obtain info pool).1 = .ok b) : b.isValid = true := by
  unfold obtain at h
  split at h
  · exact BufferPool.isValid_of_acquire h
  · exact FrameBuffer.isValid_of_forInfo h

/-- Test pictures fit their regions. -/
theorem isValid_of_makes (h : Generator.Makes TestPattern b) : b.isValid = true := by
  obtain ⟨g, info, pool, h⟩ := h
  simp only [Generator.generate, generate] at h
  split at h
  · cases h
  · rename_i bound pool hobtain
    split at h
    · rename_i drawn last hfinish
      cases h
      rw [(drawn_of_finish hfinish).isValid]
      exact isValid_of_obtain (congrArg Prod.fst hobtain)
    · cases h

/-! ### The pool -/

/-- A buffer of its own goes back to nobody. -/
lemma free_of_forInfo (h : FrameBuffer.forInfo info = .ok b) : b.disposal = .free := by
  obtain ⟨size, -, h⟩ := bind_eq_ok.1 h
  split at h
  · obtain ⟨text, -, h⟩ := bind_eq_ok.1 h
    cases h
  · split at h
    · cases h
    · rename_i fresh hnew
      rw [(FrameBuffer.sameStorage_of_bind h).disposal]
      unfold FrameBuffer.new at hnew
      cases hallocate : Region.allocate size with
      | error e => simp [hallocate, Except.map] at hnew
      | ok region =>
        simp only [hallocate, Except.map, Except.ok.injEq] at hnew
        rw [← hnew]

/-- Where a buffer comes from, and where it would go. -/
lemma deals_of_obtain (h : (g.obtain info pool).1 = .ok b) :
    pool.Deals (g.obtain info pool).2 [b] ∧
      b.isFrom (g.obtain info pool).2.number = g.usePool := by
  unfold obtain at h ⊢
  split at h
  · rename_i hpool
    obtain ⟨hnumber, -, handle, region, hbind⟩ := BufferPool.acquire_ok h
    rw [if_pos hpool, hnumber, hpool]
    refine ⟨.acquires info .begins h, FrameBuffer.isFrom_iff.2 ?_⟩
    exact (FrameBuffer.sameStorage_of_bind hbind).disposal
  · rename_i hpool
    have hfree := free_of_forInfo h
    rw [if_neg hpool]
    refine ⟨.finds .begins fun n hn => by simp [hfree] at hn, ?_⟩
    simp [FrameBuffer.isFrom, hfree, hpool]

lemma deals_of_refused {f : Fault} (h : (g.obtain info pool).1 = .error f) :
    pool.Deals (g.obtain info pool).2 [] := by
  unfold obtain at h ⊢
  split at h
  · rename_i hpool
    rw [if_pos hpool]
    exact .refused info .begins h
  · rename_i hpool
    rw [if_neg hpool]
    exact .begins

@[simp] lemma usePool_finish : (g.finish b).2.usePool = g.usePool := by
  have hrender : (g.render b).2.usePool = g.usePool := by
    unfold render
    split <;> rfl
  unfold finish
  split <;> simp_all

/-- Test pictures are drawn in regions of the pool or in storage of their own, and none of them is
held back. -/
theorem borrows : Generator.Borrows TestPattern := by
  intro g info pool
  simp only [Generator.generate, generate]
  split
  · rename_i f lent hobtain
    have hdeals := deals_of_refused (congrArg Prod.fst hobtain)
    rw [hobtain] at hdeals
    exact hdeals
  · rename_i b lent hobtain
    obtain ⟨hdeals, hfrom⟩ := deals_of_obtain (congrArg Prod.fst hobtain)
    rw [hobtain] at hdeals hfrom
    split
    · rename_i drawn last hfinish
      exact hdeals.reworks (drawn_of_finish hfinish).toSameStorage
    · rename_i p aborted hfinish
      have hpool : (g.finish b).2.usePool = g.usePool := usePool_finish
      rw [hfinish] at hpool
      have hdrops := hdeals.drops
      rw [BufferPool.takeBack, hfrom, ← hpool] at hdrops
      exact hdrops

end TestPattern

end FrameGraph
