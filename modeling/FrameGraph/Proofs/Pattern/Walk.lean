import FrameGraph.Proofs.Pattern.Pictures
import Mathlib.Data.Set.Function
import Mathlib.Order.Interval.Finset.Nat

/-!
# The walk of the moving box

The corner of the moving box keeps to two edges, and the sum of its coordinates says how far it has
come: it is the number of the picture, counted anew in each round. No two points of the edges have
the same sum. So the corner takes one step from a picture to the next, a round ends at the far end
of the way and the next one begins at its start, and in a round the corner is at every point once.
-/

namespace FrameGraph

namespace Picture

open Checked (word32 add_eq_ok_iff)

variable {width height n : Nat} {o o' : Nat × Nat}

/-! ### The way -/

/-- The points of the way: the upper edge and the right edge of the room that the frame leaves to
the corner of the box. -/
def OnWay (width height : Nat) (o : Nat × Nat) : Prop :=
  o.1 ≤ width - boxSize ∧ o.2 = 0 ∨ o.1 = width - boxSize ∧ o.2 ≤ height - boxSize

/-- The number of pictures in a round. -/
def boxPeriod (width height : Nat) : Nat := width - boxSize + (height - boxSize) + 1

lemma boxPeriod_pos : 0 < boxPeriod width height := Nat.succ_pos _

lemma OnWay.add_lt (h : OnWay width height o) : o.1 + o.2 < boxPeriod width height := by
  unfold OnWay at h
  unfold boxPeriod
  omega

/-- The points of the way are told apart by how far they are from its start. -/
lemma OnWay.eq_of_add_eq (h : OnWay width height o) (h' : OnWay width height o')
    (hsum : o.1 + o.2 = o'.1 + o'.2) : o = o' := by
  unfold OnWay at h h'
  have hx : o.1 = o'.1 := by omega
  have hy : o.2 = o'.2 := by omega
  exact Prod.ext hx hy

/-- A point that is one farther is to the right or below. -/
lemma OnWay.step (h : OnWay width height o) (h' : OnWay width height o')
    (hsum : o'.1 + o'.2 = o.1 + o.2 + 1) : o' = (o.1 + 1, o.2) ∨ o' = (o.1, o.2 + 1) := by
  unfold OnWay at h h'
  rcases Nat.lt_or_ge o.1 o'.1 with hright | hbelow
  · exact .inl (Prod.ext (by omega) (by omega))
  · exact .inr (Prod.ext (by omega) (by omega))

/-- With its corner on the way, the box lies within the frame, in each dimension it fits in. -/
lemma OnWay.inside {x y : Nat} (h : OnWay width height o) (hbox : inBox o.1 o.2 x y = true) :
    (boxSize ≤ width → x < width) ∧ (boxSize ≤ height → y < height) := by
  unfold OnWay at h
  simp only [inBox, Bool.and_eq_true, decide_eq_true_eq] at hbox
  omega

lemma onWay_start : OnWay width height (0, 0) := .inl ⟨Nat.zero_le _, rfl⟩

lemma onWay_end : OnWay width height (width - boxSize, height - boxSize) :=
  .inr ⟨rfl, Nat.le_refl _⟩

/-! ### Where the corner is -/

/-- The corner lies on the way, as far from its start as the number of the picture says. -/
lemma onWay_of_boxOrigin (h : boxOrigin n width height = .ok o) :
    OnWay width height o ∧ o.1 + o.2 = n % boxPeriod width height := by
  obtain ⟨reach, hreach, h⟩ := bind_eq_ok.1 h
  obtain ⟨period, hperiod, h⟩ := bind_eq_ok.1 h
  obtain ⟨-, rfl⟩ := add_eq_ok_iff.1 hreach
  obtain ⟨-, rfl⟩ := add_eq_ok_iff.1 hperiod
  have hpos : n % boxPeriod width height < boxPeriod width height := Nat.mod_lt n boxPeriod_pos
  unfold boxPeriod at *
  cases h
  split
  case isTrue hupper => exact ⟨.inl ⟨hupper, rfl⟩, Nat.add_zero _⟩
  case isFalse hright => exact ⟨.inr ⟨rfl, by omega⟩, by omega⟩

/-- A picture of a moving box shows the box at its corner, and black around it. -/
lemma colorAt_of_boxOrigin {p : Picture} {x y : Nat} (hkind : p.kind = .movingBox)
    (h : boxOrigin p.counter width height = .ok o) :
    p.colorAt width height x y = .ok (if inBox o.1 o.2 x y then p.color else .gray 0) := by
  rw [colorAt, hkind]
  simp only [h]
  rfl

/-! ### Rounds -/

lemma succ_mod_of_not_dvd {m : Nat} (hm : 0 < m) (h : ¬ m ∣ n + 1) : (n + 1) % m = n % m + 1 := by
  have hne : (n + 1) % m ≠ 0 := fun hzero => h (Nat.dvd_of_mod_eq_zero hzero)
  have hlt : n % m < m := Nat.mod_lt n hm
  rw [← Nat.mod_add_mod] at hne ⊢
  refine Nat.mod_eq_of_lt (Nat.lt_of_le_of_ne hlt fun hlast => hne ?_)
  rw [hlast, Nat.mod_self]

lemma boxOrigin_step (h : boxOrigin n width height = .ok o)
    (h' : boxOrigin (n + 1) width height = .ok o') (hround : ¬ boxPeriod width height ∣ n + 1) :
    o' = (o.1 + 1, o.2) ∨ o' = (o.1, o.2 + 1) := by
  obtain ⟨hway, hsum⟩ := onWay_of_boxOrigin h
  obtain ⟨hway', hsum'⟩ := onWay_of_boxOrigin h'
  refine hway.step hway' ?_
  rw [hsum, hsum', succ_mod_of_not_dvd boxPeriod_pos hround]

lemma boxOrigin_first (h : boxOrigin n width height = .ok o)
    (hround : boxPeriod width height ∣ n) : o = (0, 0) := by
  obtain ⟨hway, hsum⟩ := onWay_of_boxOrigin h
  exact hway.eq_of_add_eq onWay_start (hsum.trans (Nat.mod_eq_zero_of_dvd hround))

lemma boxOrigin_last (h : boxOrigin n width height = .ok o)
    (hround : boxPeriod width height ∣ n + 1) : o = (width - boxSize, height - boxSize) := by
  obtain ⟨hway, hsum⟩ := onWay_of_boxOrigin h
  have hlast : n % boxPeriod width height = width - boxSize + (height - boxSize) :=
    Nat.succ_mod_succ_eq_zero_iff.1 (Nat.mod_eq_zero_of_dvd hround)
  exact hway.eq_of_add_eq onWay_end (hsum.trans hlast)

/-- In as many pictures as a round has, the corner is at every point of the way once. -/
theorem bijOn_boxOrigin {corner : Nat → Nat × Nat}
    (hcorner : ∀ n, boxOrigin n width height = .ok (corner n)) (n : Nat) :
    Set.BijOn corner (Set.Ico n (n + boxPeriod width height)) {o | OnWay width height o} := by
  have hway (n : Nat) : OnWay width height (corner n) := (onWay_of_boxOrigin (hcorner n)).1
  have hsum (n : Nat) : (corner n).1 + (corner n).2 = n % boxPeriod width height :=
    (onWay_of_boxOrigin (hcorner n)).2
  refine ⟨fun m _ => hway m, fun m hm m' hm' hsame => ?_, fun o ho => ?_⟩
  · have hmod : m % boxPeriod width height = m' % boxPeriod width height := by
      rw [← hsum, ← hsum, hsame]
    exact Nat.mod_injOn_Ico n _ (Finset.coe_Ico n _ ▸ hm) (Finset.coe_Ico n _ ▸ hm') hmod
  · have hplace : o.1 + o.2 ∈ (Finset.Ico n (n + boxPeriod width height)).image
        (· % boxPeriod width height) := by
      rw [Nat.image_Ico_mod, Finset.mem_range]
      exact OnWay.add_lt ho
    obtain ⟨m, hm, hmod⟩ := Finset.mem_image.1 hplace
    exact ⟨m, Finset.mem_Ico.1 hm, (hway m).eq_of_add_eq ho ((hsum m).trans hmod)⟩

/-- As long as a round fits a word, every picture has its box. The corner lies on the upper edge or
on the right one, and the box within the frame, in each dimension it fits in. From one picture to
the next the corner goes one step to the right or one down, unless a round is over: then it goes
from the far end of the way back to its start. In a round, whichever picture it is counted from, the
corner is at every point of the way once. -/
theorem box_walks_edges (hperiod : boxPeriod width height < word32) :
    ∃ corner : Nat → Nat × Nat,
      (∀ n, boxOrigin n width height = .ok (corner n)) ∧
      (∀ p : Picture, p.kind = .movingBox → ∀ x y, p.colorAt width height x y =
        .ok (if inBox (corner p.counter).1 (corner p.counter).2 x y then p.color else .gray 0)) ∧
      (∀ n, OnWay width height (corner n) ∧
        ∀ x y, inBox (corner n).1 (corner n).2 x y = true →
          (boxSize ≤ width → x < width) ∧ (boxSize ≤ height → y < height)) ∧
      (∀ n, ¬ boxPeriod width height ∣ n + 1 →
        corner (n + 1) = ((corner n).1 + 1, (corner n).2) ∨
          corner (n + 1) = ((corner n).1, (corner n).2 + 1)) ∧
      (∀ n, boxPeriod width height ∣ n + 1 →
        corner n = (width - boxSize, height - boxSize) ∧ corner (n + 1) = (0, 0)) ∧
      ∀ n, Set.BijOn corner (Set.Ico n (n + boxPeriod width height))
        {o | OnWay width height o} := by
  have hfound (n : Nat) : ∃ o, boxOrigin n width height = .ok o := exists_boxOrigin_iff.2 hperiod
  choose corner hcorner using hfound
  refine ⟨corner, hcorner, fun p hkind x y => ?_, fun n => ?_, fun n => ?_, fun n hround => ?_,
    bijOn_boxOrigin hcorner⟩
  · exact colorAt_of_boxOrigin hkind (hcorner p.counter)
  · have hway := (onWay_of_boxOrigin (hcorner n)).1
    exact ⟨hway, fun x y => hway.inside⟩
  · exact boxOrigin_step (hcorner n) (hcorner (n + 1))
  · exact ⟨boxOrigin_last (hcorner n) hround, boxOrigin_first (hcorner (n + 1)) hround⟩

/-- In a frame with two columns and one row more than the box, a round has four pictures. -/
theorem box_walks_edges_fourPlaces :
    4 < word32 ∧ ∃ corner : Nat → Nat × Nat, (∀ n, boxOrigin n 66 65 = .ok (corner n)) ∧
      corner 3 = (2, 1) ∧ corner 4 = (0, 0) ∧ OnWay 66 65 (corner 6) ∧
      Set.BijOn corner (Set.Ico 1 5) {o | OnWay 66 65 o} := by
  obtain ⟨corner, hcorner, -, hway, -, hround, hall⟩ := @box_walks_edges 66 65 (by decide)
  obtain ⟨hlast, hfirst⟩ := hround 3 (by decide)
  exact ⟨by decide, corner, hcorner, hlast, hfirst, (hway 6).1, hall 1⟩

example : (List.range 5).map (boxOrigin · 66 65) =
    [(0, 0), (1, 0), (2, 0), (2, 1), (0, 0)].map .ok := rfl

end Picture

end FrameGraph
