import FrameGraph.Frame.Pool
import Mathlib.Tactic.Common

/-!
# The steps of acquisitions and returns

An acquisition takes one atomic step after the other: it takes a free region, or reserves a place
and allocates a new one, counts it, draws a handle for it; when the allocation fails it gives the
place up again. A return pushes the region and counts that. Between two such steps any other thread
may act. A task says which step comes next and what the thread has in its hands.

An acquisition that nobody interrupts does what `BufferPool.acquire` does in one go.
-/

namespace FrameGraph

namespace BufferPool

/-- The next atomic step of a thread, with what the thread holds. -/
inductive Task
  /-- Take a free region. -/
  | takes (info : FrameInfo) (needed : Nat)
  /-- A free region was taken; replace it if it is too small. -/
  | fits (handle : Nat) (region : Region) (info : FrameInfo) (needed : Nat)
  /-- Nothing was free; reserve a place. -/
  | reserves (info : FrameInfo) (needed : Nat)
  /-- There was no place; count that. -/
  | denied
  /-- A place is reserved; allocate a region for it. -/
  | allocates (info : FrameInfo) (needed : Nat)
  /-- The region is there; count it. -/
  | counts (region : Region) (info : FrameInfo)
  /-- Draw a handle for the region. -/
  | numbers (region : Region) (info : FrameInfo)
  /-- Make a frame of the region. -/
  | lends (handle : Nat) (region : Region) (info : FrameInfo)
  /-- The allocation failed; give the place up. -/
  | surrenders (e : Error)
  /-- Push a region that came back. -/
  | pushes (region : Region) (handle : Option Nat)
  /-- There was no room for it; give its place up. -/
  | overflows
  /-- It was pushed; count that. -/
  | recycles

/-- What an atomic step leads to. -/
inductive Progress
  | goesOn (t : Task)
  | lent (b : FrameBuffer)
  | ended (failure : Option Fault)

namespace Task

variable {p : BufferPool} {info : FrameInfo} {needed : Nat}

/-- One atomic step on the pool. Whether an allocation succeeds is up to `allocate`. -/
def step (allocate : Nat → Except Error Region) (p : BufferPool) : Task → Progress × BufferPool
  | takes info needed =>
    match p.takeFree with
    | (some (handle, region), p) => (.goesOn (.fits handle region info needed), p)
    | (none, p) => (.goesOn (.reserves info needed), p)
  | fits handle region info needed =>
    if needed ≤ region.capacity then (.goesOn (.lends handle region info), p)
    else match allocate needed with
      | .ok region => (.goesOn (.lends handle region info), p)
      | .error e => (.goesOn (.surrenders e), p)
  | reserves info needed =>
    if p.live < p.limit then (.goesOn (.allocates info needed), { p with live := p.live + 1 })
    else (.goesOn .denied, p)
  | denied =>
    (.ended (some (.error (.bufferUnavailable p.limit))), { p with exhausted := p.exhausted + 1 })
  | allocates info needed =>
    match allocate needed with
    | .ok region => (.goesOn (.counts region info), p)
    | .error e => (.goesOn (.surrenders e), p)
  | counts region info =>
    (.goesOn (.numbers region info), { p with allocated := p.allocated + 1 })
  | numbers region info =>
    (.goesOn (.lends p.nextHandle region info), { p with nextHandle := p.nextHandle + 1 })
  | lends handle region info =>
    match ((FrameBuffer.lent region (.pool p.number)).markHardware handle).bind info with
    | .ok b => (.lent b, p)
    | .error _ => (.goesOn (.pushes region (some handle)), p)
  | surrenders e => (.ended (some (.error e)), p.surrender)
  | pushes region handle =>
    if p.free.length < p.limit then
      (.goesOn .recycles, { p with free := p.free ++ [(handle.getD 0, region)] })
    else (.goesOn .overflows, p)
  | overflows => (.ended none, p.surrender)
  | recycles => (.ended none, { p with recycled := p.recycled + 1 })

/-- Take at most `n` steps without interruption. -/
def alone (allocate : Nat → Except Error Region) : Nat → Task → BufferPool → Progress × BufferPool
  | 0, t, p => (.goesOn t, p)
  | n + 1, t, p =>
    match t.step allocate p with
    | (.goesOn t, p) => alone allocate n t p
    | (.lent b, p) => (.lent b, p)
    | (.ended failure, p) => (.ended failure, p)

/-! ### Without interruption -/

lemma alone_of_goesOn {allocate : Nat → Except Error Region} {n : Nat} {t u : Task}
    {p q : BufferPool} (h : t.step allocate p = (.goesOn u, q)) :
    t.alone allocate (n + 1) p = u.alone allocate n q := by
  rw [alone, h]

lemma alone_of_ended {allocate : Nat → Except Error Region} {n : Nat} {t : Task}
    {p q : BufferPool} {failure : Option Fault} (h : t.step allocate p = (.ended failure, q)) :
    t.alone allocate (n + 1) p = (.ended failure, q) := by
  rw [alone, h]

/-- A region that is large enough is lent: binding it cannot fail. -/
lemma alone_lends {allocate : Nat → Except Error Region} {n handle : Nat} {region : Region}
    (hneeded : info.frameSize = .ok needed) (hfits : needed ≤ region.capacity) :
    (lends handle region info).alone allocate (n + 1) p =
      match p.lend handle region info with
      | (.ok b, q) => (.lent b, q)
      | (.error f, q) => (.ended (some f), q) := by
  have hcapacity : ((FrameBuffer.lent region (.pool p.number)).markHardware handle).capacity =
      region.capacity := rfl
  have hbind : ∃ b,
      ((FrameBuffer.lent region (.pool p.number)).markHardware handle).bind info = .ok b := by
    simp [FrameBuffer.bind, hneeded, Checked.lift, hcapacity, Nat.not_lt.2 hfits, bind,
      Except.bind, pure, Except.pure]
  obtain ⟨b, hb⟩ := hbind
  rw [alone, step, lend, hb]

/-- What becomes of an acquisition that finds nothing free. -/
lemma alone_takes_of_nil {allocate : Nat → Except Error Region} {n : Nat} (hfree : p.free = []) :
    (takes info needed).alone allocate (n + 5) p =
      if p.live < p.limit then
        match allocate needed with
        | .ok region => (lends p.nextHandle region info).alone allocate n
            { p with
              live := p.live + 1, allocated := p.allocated + 1, nextHandle := p.nextHandle + 1 }
        | .error e => (.ended (some (.error e)), p)
      else (.ended (some (.error (.bufferUnavailable p.limit))),
        { p with exhausted := p.exhausted + 1 }) := by
  have htakes : (takes info needed).step allocate p = (.goesOn (.reserves info needed), p) := by
    simp only [step, takeFree, hfree]
  rw [alone_of_goesOn htakes]
  split
  · rename_i hroom
    have hreserves : (reserves info needed).step allocate p =
        (.goesOn (.allocates info needed), { p with live := p.live + 1 }) := by
      rw [step, if_pos hroom]
    have hallocates (q : BufferPool) : (allocates info needed).step allocate q =
        match allocate needed with
        | .ok region => (.goesOn (.counts region info), q)
        | .error e => (.goesOn (.surrenders e), q) := rfl
    rw [alone_of_goesOn hreserves]
    cases h : allocate needed with
    | ok region =>
      rw [alone_of_goesOn (by rw [hallocates, h]), alone_of_goesOn rfl, alone_of_goesOn rfl]
    | error e =>
      rw [alone_of_goesOn (by rw [hallocates, h]), alone_of_ended rfl]
      rfl
  · rename_i hfull
    have hreserves : (reserves info needed).step allocate p = (.goesOn .denied, p) := by
      rw [step, if_neg hfull]
    rw [alone_of_goesOn hreserves, alone_of_ended rfl]

/-- What becomes of an acquisition that takes a free region. -/
lemma alone_takes_of_cons {allocate : Nat → Except Error Region} {n handle : Nat}
    {region : Region} {rest : List (Nat × Region)} (hfree : p.free = (handle, region) :: rest) :
    (takes info needed).alone allocate (n + 3) p =
      if needed ≤ region.capacity then
        (lends handle region info).alone allocate (n + 1) { p with free := rest }
      else match allocate needed with
        | .ok larger => (lends handle larger info).alone allocate (n + 1) { p with free := rest }
        | .error e => (.ended (some (.error e)), { p with free := rest, live := p.live - 1 }) := by
  have htakes : (takes info needed).step allocate p =
      (.goesOn (.fits handle region info needed), { p with free := rest }) := by
    simp only [step, takeFree, hfree]
  rw [alone_of_goesOn htakes]
  split
  · rename_i hfits
    have hstep : (fits handle region info needed).step allocate { p with free := rest } =
        (.goesOn (.lends handle region info), { p with free := rest }) := by
      rw [step, if_pos hfits]
    rw [alone_of_goesOn hstep]
  · rename_i hsmall
    have hstep : (fits handle region info needed).step allocate { p with free := rest } =
        match allocate needed with
        | .ok larger => (.goesOn (.lends handle larger info), { p with free := rest })
        | .error e => (.goesOn (.surrenders e), { p with free := rest }) := by
      rw [step, if_neg hsmall]
    cases h : allocate needed with
    | ok larger => rw [alone_of_goesOn (by rw [hstep, h])]
    | error e =>
      rw [alone_of_goesOn (by rw [hstep, h]), alone_of_ended rfl]
      rfl

lemma capacity_of_allocate {region : Region} (h : Region.allocate needed = .ok region) :
    needed ≤ region.capacity := by
  unfold Region.allocate at h
  split at h
  · cases h
    exact Nat.le_of_eq List.length_replicate.symm
  · cases h

/-- The steps of an acquisition, one right after the other, are the acquisition. -/
theorem alone_takes (hneeded : info.frameSize = .ok needed) :
    (takes info needed).alone Region.allocate 6 p =
      match p.acquire info with
      | (.ok b, q) => (.lent b, q)
      | (.error f, q) => (.ended (some f), q) := by
  rw [acquire, hneeded]
  rcases hfree : p.free with _ | ⟨⟨handle, region⟩, rest⟩
  · rw [alone_takes_of_nil hfree]
    simp only [takeFree, hfree, reserve]
    split
    · cases h : Region.allocate needed with
      | ok region => exact alone_lends hneeded (capacity_of_allocate h)
      | error e => simp only [refuse, surrender, Nat.add_sub_cancel, ← hfree]
    · simp only [refuse]
  · rw [alone_takes_of_cons hfree]
    simp only [takeFree, hfree]
    split
    · rename_i hfits
      exact alone_lends hneeded hfits
    · cases h : Region.allocate needed with
      | ok larger => exact alone_lends hneeded (capacity_of_allocate h)
      | error e => rfl

/-- The steps of a return, one right after the other, are the return. -/
theorem alone_pushes {allocate : Nat → Except Error Region} (region : Region)
    (handle : Option Nat) :
    (pushes region handle).alone allocate 2 p = (.ended none, p.recycle region handle) := by
  rw [recycle]
  split
  · rename_i hroom
    have hpushes : (pushes region handle).step allocate p =
        (.goesOn .recycles, { p with free := p.free ++ [(handle.getD 0, region)] }) := by
      rw [step, if_pos hroom]
    rw [alone_of_goesOn hpushes, alone_of_ended rfl]
  · rename_i hfull
    have hpushes : (pushes region handle).step allocate p = (.goesOn .overflows, p) := by
      rw [step, if_neg hfull]
    rw [alone_of_goesOn hpushes, alone_of_ended rfl]

end Task

end BufferPool

end FrameGraph
