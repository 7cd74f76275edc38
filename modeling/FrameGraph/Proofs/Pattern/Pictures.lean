import FrameGraph.Proofs.Pattern.Buffers
import Mathlib.Data.List.Basic

/-!
# The bytes of a picture

The points of a picture are drawn row by row, and each takes the same number of bytes. So the bytes
of a picture are known as soon as every point has a colour, and those of one point are found by
counting the points before it. Whether every point has a colour is a question of the dimensions: the
last point of a gradient is the one whose numbers are largest, and the moving box needs a word for
the length of its way.
-/

namespace FrameGraph

/-! ### Pieces of bytes -/

section Pieces

variable {α β : Type} {l : List α} {f : α → List β} {n i : Nat}

lemma length_flatMap_of_const (h : ∀ a, (f a).length = n) :
    (l.flatMap f).length = l.length * n := by
  induction l with
  | nil => simp
  | cons a l ih =>
    rw [List.flatMap_cons, List.length_append, h, ih, List.length_cons, Nat.succ_mul, Nat.add_comm]

/-- Of pieces of equal length, one lies behind as many pieces as come before it. -/
lemma take_drop_flatMap (h : ∀ a, (f a).length = n) (hi : i < l.length) :
    ((l.flatMap f).drop (i * n)).take n = f l[i] := by
  induction l generalizing i with
  | nil => cases hi
  | cons a l ih =>
    cases i with
    | zero => rw [Nat.zero_mul, List.drop_zero, List.flatMap_cons, List.take_left' (h a)]; rfl
    | succ i =>
      have hskip : (i + 1) * n = (f a).length + i * n := by rw [h, Nat.succ_mul, Nat.add_comm]
      rw [List.flatMap_cons, hskip, List.drop_append, List.drop_eq_nil_of_le (Nat.le_add_right ..),
        Nat.add_sub_cancel_left, List.nil_append, ih (Nat.lt_of_succ_lt_succ hi)]
      rfl

/-- Bytes that are computed piece by piece are known if and only if every piece is. -/
lemma pieces_eq_ok_iff (piece : Nat → Checked (List UInt8))
    {all : Nat → Nat → Checked (List UInt8)} (hnone : ∀ i, all 0 i = .ok [])
    (hmore : ∀ n i, all (n + 1) i = do return (← piece i) ++ (← all n (i + 1)))
    {n i : Nat} {bytes : List UInt8} :
    all n i = .ok bytes ↔ (∀ j ∈ List.range' i n, ∃ a, piece j = .ok a) ∧
      bytes = (List.range' i n).flatMap fun j => (piece j).toOption.getD [] := by
  induction n generalizing i bytes with
  | zero => simp [hnone, eq_comm]
  | succ n ih =>
    rw [hmore, List.range'_succ, List.forall_mem_cons, List.flatMap_cons]
    cases hpiece : piece i with
    | error p => simp [bind, Except.bind]
    | ok a =>
      rw [bind_eq_ok]
      constructor
      · rintro ⟨_, ⟨⟩, h⟩
        obtain ⟨rest, hrest, ⟨⟩⟩ := bind_eq_ok.1 h
        obtain ⟨hpieces, rfl⟩ := ih.1 hrest
        exact ⟨⟨⟨a, rfl⟩, hpieces⟩, rfl⟩
      · rintro ⟨⟨-, hpieces⟩, rfl⟩
        exact ⟨a, rfl, bind_eq_ok.2 ⟨_, ih.2 ⟨hpieces, rfl⟩, rfl⟩⟩

end Pieces

namespace Picture

open Checked (word32 add_eq_ok_iff mul_eq_ok_iff)

variable {p : Picture} {f : PixelFormat} {width height x y n : Nat} {c : Color}

/-! ### The colours of all points -/

/-- No number on the way to the colour of a point leaves its word. -/
def Steady (p : Picture) (width height : Nat) : Prop :=
  match p.kind with
  | .gradient => (width - 1 + (height - 1)) * 255 < word32
  | .movingBox => width - boxSize + (height - boxSize) + 1 < word32
  | _ => True

lemma exists_ramp_iff {extent : Nat} : (∃ v, ramp x extent = .ok v) ↔ x * 255 < word32 := by
  rw [ramp, Checked.mul]
  split <;> rename_i h <;> simp [Except.map, h]

lemma exists_gradientColor_iff : (∃ c, gradientColor width height x y = .ok c) ↔
    (x * 255 < word32 ∧ y * 255 < word32) ∧ (x + y) * 255 < word32 ∧ width + height < word32 := by
  constructor
  · rintro ⟨c, h⟩
    obtain ⟨red, hred, h⟩ := bind_eq_ok.1 h
    obtain ⟨green, hgreen, h⟩ := bind_eq_ok.1 h
    obtain ⟨sum, hsum, h⟩ := bind_eq_ok.1 h
    obtain ⟨reach, hreach, h⟩ := bind_eq_ok.1 h
    obtain ⟨extent, hextent, -⟩ := bind_eq_ok.1 h
    obtain ⟨-, rfl⟩ := add_eq_ok_iff.1 hsum
    exact ⟨⟨exists_ramp_iff.1 ⟨red, hred⟩, exists_ramp_iff.1 ⟨green, hgreen⟩⟩,
      (mul_eq_ok_iff.1 hreach).1, (add_eq_ok_iff.1 hextent).1⟩
  · rintro ⟨⟨hx, hy⟩, hreach, hextent⟩
    obtain ⟨red, hred⟩ : ∃ v, ramp x width = .ok v := exists_ramp_iff.2 hx
    obtain ⟨green, hgreen⟩ : ∃ v, ramp y height = .ok v := exists_ramp_iff.2 hy
    exact ⟨_, bind_eq_ok.2 ⟨red, hred, bind_eq_ok.2 ⟨green, hgreen,
      bind_eq_ok.2 ⟨_, add_eq_ok_iff.2 ⟨by omega, rfl⟩,
        bind_eq_ok.2 ⟨_, mul_eq_ok_iff.2 ⟨hreach, rfl⟩,
          bind_eq_ok.2 ⟨_, add_eq_ok_iff.2 ⟨hextent, rfl⟩, rfl⟩⟩⟩⟩⟩⟩

lemma exists_boxOrigin_iff {counter : Nat} : (∃ o, boxOrigin counter width height = .ok o) ↔
    width - boxSize + (height - boxSize) + 1 < word32 := by
  constructor
  · rintro ⟨o, h⟩
    obtain ⟨sum, hsum, h⟩ := bind_eq_ok.1 h
    obtain ⟨period, hperiod, -⟩ := bind_eq_ok.1 h
    obtain ⟨-, rfl⟩ := add_eq_ok_iff.1 hsum
    exact (add_eq_ok_iff.1 hperiod).1
  · intro h
    exact ⟨_, bind_eq_ok.2 ⟨_, add_eq_ok_iff.2 ⟨by omega, rfl⟩,
      bind_eq_ok.2 ⟨_, add_eq_ok_iff.2 ⟨h, rfl⟩, rfl⟩⟩⟩

/-- The dimensions decide whether every point of a picture has a colour. -/
theorem forall_colorAt_iff (hwidth : 0 < width) (hheight : 0 < height) :
    (∀ y < height, ∀ x < width, ∃ c, p.colorAt width height x y = .ok c) ↔
      p.Steady width height := by
  unfold Steady colorAt
  cases p.kind with
  | solid | bars | checkerboard | noise => simp
  | gradient =>
    simp only [exists_gradientColor_iff]
    constructor
    · intro h
      have hlast := h (height - 1) (by omega) (width - 1) (by omega)
      exact hlast.2.1
    · intro h y hy x hx
      simp only [word32] at *
      omega
  | movingBox =>
    have hpoint (y x : Nat) : (∃ c, ((boxOrigin p.counter width height).map fun o =>
        if inBox o.1 o.2 x y then p.color else .gray 0) = .ok c) ↔
          width - boxSize + (height - boxSize) + 1 < word32 := by
      have horigin : (∃ o, boxOrigin p.counter width height = .ok o) ↔ _ := exists_boxOrigin_iff
      rw [← horigin]
      cases boxOrigin p.counter width height <;> simp [Except.map]
    constructor
    · intro h
      exact (hpoint 0 0).1 (h 0 hheight 0 hwidth)
    · intro h y _ x _
      exact (hpoint y x).2 h

/-- The colour of a point, black if it has none. -/
def shown (p : Picture) (width height x y : Nat) : Color :=
  (p.colorAt width height x y).toOption.getD (.gray 0)

lemma shown_of_colorAt (h : p.colorAt width height x y = .ok c) : p.shown width height x y = c := by
  rw [shown, h]
  rfl

/-! ### Rows -/

/-- The bytes of one row. -/
def row (p : Picture) (f : PixelFormat) (width height y : Nat) : List UInt8 :=
  (List.range width).flatMap fun x => pixelBytes f (p.shown width height x y)

/-- The bytes of all rows. -/
def image (p : Picture) (f : PixelFormat) (width height : Nat) : List UInt8 :=
  (List.range height).flatMap fun y => p.row f width height y

lemma rowBytes_succ : p.rowBytes f width height y (n + 1) x = do
    return (← (p.colorAt width height x y).map (pixelBytes f)) ++
      (← p.rowBytes f width height y n (x + 1)) := by
  rw [rowBytes, List.range'_succ, List.mapM_cons]
  cases p.colorAt width height x y with
  | error e => rfl
  | ok c =>
    rw [rowBytes]
    cases (List.range' (x + 1) n).mapM fun x => p.colorAt width height x y <;> rfl

lemma rowBytes_eq_ok_iff {bytes : List UInt8} :
    p.rowBytes f width height y width 0 = .ok bytes ↔
      (∀ x < width, ∃ c, p.colorAt width height x y = .ok c) ∧ bytes = p.row f width height y := by
  have hpiece (x : Nat) : (∃ a, (p.colorAt width height x y).map (pixelBytes f) = .ok a) ↔
      ∃ c, p.colorAt width height x y = .ok c := by
    cases p.colorAt width height x y <;> simp [Except.map]
  rw [pieces_eq_ok_iff (fun x => (p.colorAt width height x y).map (pixelBytes f))
    (fun _ => rfl) fun _ _ => rowBytes_succ]
  simp only [hpiece, ← List.range_eq_range', List.mem_range]
  refine and_congr_right fun h => ?_
  have hrow : ((List.range width).flatMap fun x =>
      ((p.colorAt width height x y).map (pixelBytes f)).toOption.getD []) =
        p.row f width height y := by
    refine List.flatMap_congr fun x hx => ?_
    obtain ⟨c, hc⟩ := h x (List.mem_range.1 hx)
    rw [shown_of_colorAt hc, hc]
    rfl
  rw [hrow]

/-- The rows of a picture are known if and only if every point has a colour. -/
theorem planeBytes_eq_ok_iff {bytes : List UInt8} (hwidth : 0 < width) (hheight : 0 < height) :
    p.planeBytes f width height width height 0 = .ok bytes ↔
      p.Steady width height ∧ bytes = p.image f width height := by
  have hpiece (y : Nat) : (∃ a, p.rowBytes f width height y width 0 = .ok a) ↔
      ∀ x < width, ∃ c, p.colorAt width height x y = .ok c := by
    simp only [rowBytes_eq_ok_iff, exists_and_left, exists_eq, and_true]
  rw [pieces_eq_ok_iff (fun y => p.rowBytes f width height y width 0) (fun _ => rfl)
    fun _ _ => rfl]
  simp only [hpiece, ← List.range_eq_range', List.mem_range, forall_colorAt_iff hwidth hheight]
  refine and_congr_right fun h => ?_
  have himage : ((List.range height).flatMap fun y =>
      (p.rowBytes f width height y width 0).toOption.getD []) = p.image f width height := by
    refine List.flatMap_congr fun y hy => ?_
    have hrow := (forall_colorAt_iff hwidth hheight).2 h y (List.mem_range.1 hy)
    rw [rowBytes_eq_ok_iff.2 ⟨hrow, rfl⟩]
    rfl
  rw [himage]

/-! ### Points -/

/-- How many bytes a point takes in the plane that it is drawn in. -/
def pixelLength (f : PixelFormat) : Nat := (pixelBytes f (.gray 0)).length

@[simp] lemma length_pixelBytes (f : PixelFormat) (c : Color) :
    (pixelBytes f c).length = pixelLength f := by
  cases f <;> rfl

lemma length_row : (p.row f width height y).length = width * pixelLength f := by
  rw [row, length_flatMap_of_const fun x => length_pixelBytes f _, List.length_range]

lemma length_image : (p.image f width height).length = height * (width * pixelLength f) := by
  rw [image, length_flatMap_of_const fun y => length_row, List.length_range]

lemma point_lt (hx : x < width) (hy : y < height) : y * width + x < height * width :=
  calc y * width + x < y * width + width := Nat.add_lt_add_left hx _
    _ = (y + 1) * width := (Nat.succ_mul ..).symm
    _ ≤ height * width := Nat.mul_le_mul_right width hy

lemma point_fits (hx : x < width) (hy : y < height) :
    (y * width + x) * n + n ≤ height * (width * n) := by
  rw [← Nat.succ_mul, ← Nat.mul_assoc]
  exact Nat.mul_le_mul_right n (point_lt hx hy)

/-- A point lies behind the rows above it and the points to its left. -/
theorem image_at (hx : x < width) (hy : y < height) :
    ((p.image f width height).drop ((y * width + x) * pixelLength f)).take (pixelLength f) =
      pixelBytes f (p.shown width height x y) := by
  have hrow : ((p.image f width height).drop (y * (width * pixelLength f))).take
      (width * pixelLength f) = p.row f width height y := by
    rw [image, take_drop_flatMap (fun y => length_row) (by rwa [List.length_range]),
      List.getElem_range]
  have hpoint : ((p.row f width height y).drop (x * pixelLength f)).take (pixelLength f) =
      pixelBytes f (p.shown width height x y) := by
    rw [row, take_drop_flatMap (fun x => length_pixelBytes f _) (by rwa [List.length_range]),
      List.getElem_range]
  have hfits : x * pixelLength f + pixelLength f ≤ width * pixelLength f := by
    rw [← Nat.succ_mul]
    exact Nat.mul_le_mul_right _ hx
  have hskip : (y * width + x) * pixelLength f =
      y * (width * pixelLength f) + x * pixelLength f := by
    rw [Nat.add_mul, Nat.mul_assoc]
  rw [hskip, ← List.drop_drop, ← hpoint, ← hrow, List.drop_take, List.take_take,
    Nat.min_eq_left (Nat.le_sub_of_add_le' hfits)]

end Picture

end FrameGraph
