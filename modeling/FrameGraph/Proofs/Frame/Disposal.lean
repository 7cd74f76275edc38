import FrameGraph.Proofs.Frame.References
import FrameGraph.Proofs.Frame.Reworks

/-!
# What becomes of a lent region

A region that was lent goes back to its lender exactly once: when the last reference to its frame is
dropped, or the buffer that nobody shares. Before that the buffer may be reworked, shared, referred
to again, taken back out of its only reference and shared anew, in any order, while others go on
with buffers and frames of their own.
-/

namespace FrameGraph

/-! ### Following one buffer -/

/-- How a buffer is held. -/
inductive Hold
  /-- It is not shared. -/
  | owned (b : FrameBuffer)
  /-- There are so many references to it. -/
  | shared (f : Frame) (references : Nat)
  | gone

/-- A storage in which one lent buffer is followed. -/
structure Lease where
  storage : Storage
  hold : Hold
  /-- The handle with which the buffer was marked. -/
  mark : Option Nat := none

namespace Lease

/-- One thing that is done with the buffer or with one of the references to it. -/
inductive Uses : Lease → Lease → Prop
  | reworks {s b c mark} (h : b.Reworks c) : Uses ⟨s, .owned b, mark⟩ ⟨s, .owned c, mark⟩
  | marks {s b mark} (handle : Nat) :
    Uses ⟨s, .owned b, mark⟩ ⟨s, .owned (b.markHardware handle), some handle⟩
  | shares {s b mark} :
    Uses ⟨s, .owned b, mark⟩ ⟨(s.share b).2, .shared (s.share b).1 1, mark⟩
  | drops {s b mark} : Uses ⟨s, .owned b, mark⟩ ⟨s.dispose b, .gone, mark⟩
  | retains {s f n mark} : Uses ⟨s, .shared f n, mark⟩ ⟨s.retain f, .shared f (n + 1), mark⟩
  | unwraps {s t f b n mark} (h : s.unwrap? f = some (b, t)) :
    Uses ⟨s, .shared f n, mark⟩ ⟨t, .owned b, mark⟩
  /-- The buffer cannot be taken out, and the reference stays. -/
  | keeps {s f n mark} (h : s.unwrap? f = none) :
    Uses ⟨s, .shared f n, mark⟩ ⟨s, .shared f n, mark⟩
  | releases {s f n mark} :
    Uses ⟨s, .shared f (n + 2), mark⟩ ⟨s.release f, .shared f (n + 1), mark⟩
  | releasesLast {s f mark} : Uses ⟨s, .shared f 1, mark⟩ ⟨s.release f, .gone, mark⟩

/-- The frame that stands for the buffer is another one. -/
def Apart (hold : Hold) (g : Frame) : Prop := ∀ f n, hold = .shared f n → f.id ≠ g.id

/-- What others do with the storage. -/
inductive Elsewhere (hold : Hold) (s : Storage) : Storage → Prop
  | opens {t} (h : s.Opens t) : Elsewhere hold s t
  /-- Somebody deals with a pool. -/
  | deals (p : BufferPool) : Elsewhere hold s (s.setPool p)
  | shares (c : FrameBuffer) : Elsewhere hold s (s.share c).2
  | drops (c : FrameBuffer) : Elsewhere hold s (s.dispose c)
  | retains {g} (hg : Apart hold g) : Elsewhere hold s (s.retain g)
  | releases {g} (hg : Apart hold g) : Elsewhere hold s (s.release g)
  | unwraps {g c t} (hg : Apart hold g) (h : s.unwrap? g = some (c, t)) : Elsewhere hold s t

/-- The runs of a buffer whose region was lent, with the storages before and after each thing that
was done with it. -/
inductive Run (region : Region) (lender : Lender) : Lease → List (Storage × Storage) → Prop
  | lent (s : Storage) : Run region lender ⟨s, .owned (.lent region lender), none⟩ []
  | uses {x y log} (h : Run region lender x log) (hxy : Uses x y) :
    Run region lender y (log ++ [(x.storage, y.storage)])
  | elsewhere {x t log} (h : Run region lender x log) (ht : Elsewhere x.hold x.storage t) :
    Run region lender { x with storage := t } log

end Lease

namespace Storage

variable {s t : Storage} {f g : Frame} {b c : FrameBuffer}

/-! ### Lenders -/

/-- No lender was given anything. -/
def Quiet (s t : Storage) : Prop := t.pools = s.pools ∧ t.kept = s.kept

lemma Quiet.refl (s : Storage) : Quiet s s := ⟨rfl, rfl⟩

/-- A lender was given a region, once, and all others nothing. The keeper has laid the region down
with its handle behind what it had before, and a pool has recycled it. -/
def Returns (lender : Lender) (region : Region) (handle : Option Nat) (s t : Storage) : Prop :=
  match lender with
  | .keeper => t.kept = s.kept ++ [(region, handle)] ∧ t.pools = s.pools
  | .pool n => t.kept = s.kept ∧
    match s.pool? n with
    | none => t.pools = s.pools
    | some p => t.pools = s.pools.set p.number (p.recycle region handle)

/-- To give a region back is to return it to its lender. -/
lemma returns_giveBack (s : Storage) (lender : Lender) (region : Region) (handle : Option Nat) :
    Returns lender region handle s (s.giveBack lender region handle) := by
  cases lender with
  | keeper => exact ⟨rfl, rfl⟩
  | pool n =>
    cases hp : s.pool? n with
    | none => simp only [Returns, giveBack, hp, and_self]
    | some p =>
      have hnumber : (p.recycle region handle).number = p.number := BufferPool.number_recycle
      simp only [Returns, giveBack, hp, setPool, hnumber, and_self]

/-- The last reference is released: the buffer is disposed of. -/
lemma release_of_one (h : s.refCount f = 1) : s.release f = (s.forget f).dispose f.buffer := by
  simp [release, h]

lemma release_of_more {n : Nat} (h : s.refCount f = n + 2) :
    s.release f = s.setCount f.id (n + 1) := by
  simp [release, h]

/-- What is taken out of the only reference to a frame is its buffer. -/
lemma eq_of_unwrap? (h : s.unwrap? f = some (b, t)) : b = f.buffer ∧ t = s.forget f := by
  simp only [unwrap?] at h
  split at h
  · cases h
    exact ⟨rfl, rfl⟩
  · cases h

/-- The buffer can be taken out exactly if there is no other reference to it. -/
lemma isSome_unwrap? : (s.unwrap? f).isSome = true ↔ s.refCount f = 1 := by
  simp only [unwrap?]
  split <;> simp_all

end Storage

/-! ### Each step -/

/-- A buffer stands for a region that was lent, under the handle with which it was marked. -/
structure FrameBuffer.StandsFor (b : FrameBuffer) (region : Region) (lender : Lender)
    (mark : Option Nat) : Prop where
  disposal : b.disposal = .giveBack lender
  handle : b.handle = mark
  capacity : b.capacity = region.capacity

namespace Lease

open Storage

variable {region : Region} {lender : Lender} {x y : Lease} {s t : Storage} {f : Frame}
  {b : FrameBuffer} {mark : Option Nat} {log : List (Storage × Storage)}

/-- What is held stands for the region, and a frame has as many references as are counted. -/
def Sound (region : Region) (lender : Lender) (x : Lease) : Prop :=
  match x.hold with
  | .owned b => b.StandsFor region lender x.mark
  | .shared f n => f.buffer.StandsFor region lender x.mark ∧ 0 < n ∧
      x.storage.refCount f = n ∧ f.id < x.storage.next
  | .gone => True

lemma dispose_of_standsFor (h : b.StandsFor region lender mark) (s : Storage) :
    s.dispose b = s.giveBack lender b.region mark := by
  simp [dispose, h.disposal, h.handle]

/-- What others do leaves the references to the frame alone. -/
lemma Elsewhere.refCount {n : Nat} (h : Elsewhere (.shared f n) s t) (hf : f.id < s.next) :
    t.refCount f = s.refCount f ∧ f.id < t.next := by
  cases h with
  | opens h => exact ⟨refCount_congr h.counts.1 f, h.counts.2 ▸ hf⟩
  | deals p => exact ⟨rfl, hf⟩
  | shares c =>
    have hne : (f.id == s.next) = false := by simpa using Nat.ne_of_lt hf
    exact ⟨by simp [Storage.refCount, share, List.lookup_cons, hne], Nat.lt_succ_of_lt hf⟩
  | drops c =>
    obtain ⟨hcounts, hnext⟩ := counts_dispose s c
    exact ⟨refCount_congr hcounts f, hnext ▸ hf⟩
  | retains hg => exact ⟨refCount_setCount_of_ne (hg f n rfl), hf⟩
  | @releases g hg =>
    have hne : f.id ≠ g.id := hg f n rfl
    simp only [Storage.release]
    split
    · exact ⟨rfl, hf⟩
    · obtain ⟨hcounts, hnext⟩ := counts_dispose (s.forget g) g.buffer
      exact ⟨(refCount_congr hcounts f).trans (refCount_forget hne), hnext ▸ hf⟩
    · exact ⟨refCount_setCount_of_ne hne, hf⟩
  | @unwraps g c t hg h =>
    obtain ⟨-, rfl⟩ := eq_of_unwrap? h
    exact ⟨refCount_forget (hg f n rfl), hf⟩

lemma Sound.elsewhere (h : x.Sound region lender) (ht : Elsewhere x.hold x.storage t) :
    Sound region lender { x with storage := t } := by
  obtain ⟨s, hold, mark⟩ := x
  cases hold with
  | owned b => exact h
  | shared f n =>
    obtain ⟨hstands, hn, hcount, hknown⟩ := h
    obtain ⟨hsame, hknown⟩ := Elsewhere.refCount ht hknown
    exact ⟨hstands, hn, hsame.trans hcount, hknown⟩
  | gone => trivial

/-- While the buffer or a reference to it is left, its lender is given nothing. The last one that is
dropped gives the region back, once. -/
theorem Sound.uses (h : x.Sound region lender) (hxy : Uses x y) :
    y.Sound region lender ∧ (y.hold ≠ .gone → Quiet x.storage y.storage) ∧
      (y.hold = .gone → ∃ r : Region, r.capacity = region.capacity ∧
        Returns lender r y.mark x.storage y.storage) := by
  cases hxy with
  | @reworks s b c mark hreworks =>
    have hsame := hreworks.sameStorage
    have hstands : c.StandsFor region lender mark :=
      ⟨hsame.disposal.trans h.disposal, hsame.handle.trans h.handle,
        hsame.capacity.trans h.capacity⟩
    exact ⟨hstands, fun _ => .refl s, by simp⟩
  | @marks s b mark handle => exact ⟨⟨h.disposal, rfl, h.capacity⟩, fun _ => .refl s, by simp⟩
  | @shares s b mark =>
    refine ⟨⟨h, Nat.one_pos, ?_, Nat.lt_succ_self s.next⟩, fun _ => ⟨rfl, rfl⟩, by simp⟩
    simp [Storage.refCount, share]
  | @drops s b mark =>
    refine ⟨trivial, by simp, fun _ => ⟨b.region, h.capacity, ?_⟩⟩
    rw [dispose_of_standsFor h]
    exact returns_giveBack ..
  | @retains s f n mark =>
    obtain ⟨hstands, hn, hcount, hknown⟩ := h
    have hcount : s.refCount f = n := hcount
    have hretained : (s.retain f).refCount f = n + 1 := by
      rw [retain, hcount]
      exact refCount_setCount_self (by omega)
    exact ⟨⟨hstands, Nat.succ_pos n, hretained, hknown⟩, fun _ => ⟨rfl, rfl⟩, by simp⟩
  | @unwraps s t f b n mark hunwraps =>
    obtain ⟨rfl, rfl⟩ := eq_of_unwrap? hunwraps
    exact ⟨h.1, fun _ => ⟨rfl, rfl⟩, by simp⟩
  | @keeps s f n mark _ => exact ⟨h, fun _ => .refl s, by simp⟩
  | @releases s f n mark =>
    obtain ⟨hstands, -, hcount, hknown⟩ := h
    have hcount : s.refCount f = n + 2 := hcount
    have hreleased : (s.setCount f.id (n + 1)).refCount f = n + 1 :=
      refCount_setCount_self (by omega)
    rw [release_of_more hcount]
    exact ⟨⟨hstands, Nat.succ_pos n, hreleased, hknown⟩, fun _ => ⟨rfl, rfl⟩, by simp⟩
  | @releasesLast s f mark =>
    obtain ⟨hstands, -, hcount, -⟩ := h
    refine ⟨trivial, by simp, fun _ => ⟨f.buffer.region, hstands.capacity, ?_⟩⟩
    -- to forget the frame gives nobody anything, so only the disposal counts
    have hforgotten : Returns lender f.buffer.region mark (s.forget f) _ := returns_giveBack ..
    rw [release_of_one hcount, dispose_of_standsFor hstands]
    exact hforgotten

/-! ### Each run -/

/-- Along the log the lenders were given nothing. -/
def Unreturned (log : List (Storage × Storage)) : Prop := ∀ p ∈ log, Quiet p.1 p.2

/-- The last thing in the log gave a region of the same capacity back, under this handle; before it,
the lenders were given nothing. -/
def ReturnedOnce (region : Region) (lender : Lender) (mark : Option Nat)
    (log : List (Storage × Storage)) : Prop :=
  ∃ before s t r, log = before ++ [(s, t)] ∧ Unreturned before ∧
    r.capacity = region.capacity ∧ Returns lender r mark s t

lemma Unreturned.concat (h : Unreturned log) (hst : Quiet s t) : Unreturned (log ++ [(s, t)]) := by
  intro p hp
  rcases List.mem_append.1 hp with hp | hp
  · exact h p hp
  · obtain rfl := List.mem_singleton.1 hp
    exact hst

/-- What is gone is not used any more. -/
lemma Uses.ne_gone (h : Uses x y) : x.hold ≠ .gone := by
  cases h <;> simp

lemma Run.sound (h : Run region lender x log) :
    x.Sound region lender ∧ (x.hold ≠ .gone → Unreturned log) ∧
      (x.hold = .gone → ReturnedOnce region lender x.mark log) := by
  induction h with
  | lent s => exact ⟨⟨rfl, rfl, rfl⟩, fun _ => by simp [Unreturned], by simp⟩
  | @uses x y log h hxy ih =>
    obtain ⟨hsound, hbefore, -⟩ := ih
    obtain ⟨hy, hquiet, hreturns⟩ := hsound.uses hxy
    have hunreturned : Unreturned log := hbefore hxy.ne_gone
    refine ⟨hy, fun hhold => hunreturned.concat (hquiet hhold), fun hgone => ?_⟩
    obtain ⟨r, hcapacity, hr⟩ := hreturns hgone
    exact ⟨log, _, _, r, rfl, hunreturned, hcapacity, hr⟩
  | elsewhere h ht ih =>
    obtain ⟨hsound, hbefore, hafter⟩ := ih
    exact ⟨hsound.elsewhere ht, hbefore, hafter⟩

/-- A region that was lent goes back exactly once. As long as its buffer or a reference to it is
left, nothing that was done with them has given anything to a lender. When the last one was dropped,
this has given the lender a region of the same capacity under the handle with which the buffer was
marked, once, and nothing can be done with it any more. The buffer can be taken out of a reference
exactly if this is the only one, and this gives nothing to a lender either. -/
theorem disposed_once (h : Run region lender x log) :
    (x.hold ≠ .gone → Unreturned log) ∧
    (x.hold = .gone → ReturnedOnce region lender x.mark log ∧ ∀ y, ¬Uses x y) ∧
    ∀ f n, x.hold = .shared f n →
      ((x.storage.unwrap? f).isSome = true ↔ n = 1) ∧
        ∀ b t, x.storage.unwrap? f = some (b, t) → b = f.buffer ∧ Quiet x.storage t := by
  obtain ⟨hsound, hbefore, hafter⟩ := h.sound
  refine ⟨hbefore, fun hgone => ⟨hafter hgone, fun y hxy => hxy.ne_gone hgone⟩, ?_⟩
  intro f n hhold
  obtain ⟨s, hold, mark⟩ := x
  subst hhold
  obtain ⟨-, -, hcount, -⟩ := hsound
  refine ⟨by rw [isSome_unwrap?, hcount], fun b t hunwraps => ?_⟩
  obtain ⟨rfl, rfl⟩ := eq_of_unwrap? hunwraps
  exact ⟨rfl, rfl, rfl⟩

/-- A buffer that is marked, shared, referred to twice, kept from being taken out, taken out at
last, reset, shared again and dropped. The keeper has its region, and nothing else. -/
theorem disposed_once_marked : ∃ (x : Lease) (log : List (Storage × Storage)),
    Run ⟨[1, 2, 3]⟩ .keeper x log ∧ x.hold = .gone ∧
      ReturnedOnce ⟨[1, 2, 3]⟩ .keeper (some 7) log ∧
      x.storage.kept = [(⟨[1, 2, 3]⟩, some 7)] ∧ ∀ y, ¬Uses x y := by
  have hlent : Run ⟨[1, 2, 3]⟩ .keeper _ [] := .lent {}
  have hshared := (hlent.uses (.marks 7)).uses .shares
  have htwice := (hshared.uses .retains).uses (.keeps rfl)
  have hunwrapped := (htwice.uses .releases).uses (.unwraps rfl)
  have hreset := hunwrapped.uses (.reworks .resets)
  have hdropped := (hreset.uses .shares).uses .releasesLast
  obtain ⟨-, hgone, -⟩ := disposed_once hdropped
  obtain ⟨hreturned, hend⟩ := hgone rfl
  exact ⟨_, _, hdropped, rfl, hreturned, rfl, hend⟩

/-- The buffers that a pool lends have begun such a run. -/
theorem run_of_acquire {p : BufferPool} {info : FrameInfo} (h : (p.acquire info).1 = .ok b)
    (s : Storage) :
    ∃ region handle log, Run region (.pool p.number) ⟨s, .owned b, some handle⟩ log := by
  obtain ⟨-, -, handle, region, hbind⟩ := BufferPool.acquire_ok h
  have hlent : Run region (.pool p.number) _ [] := .lent s
  exact ⟨region, handle, _, (hlent.uses (.marks handle)).uses (.reworks (.binds info hbind))⟩

end Lease

end FrameGraph
