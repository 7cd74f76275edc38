import FrameGraph.Proofs.Frame.Copies

/-!
# Sizes of payloads

The size of a payload is a product of its dimensions, computed in 64-bit words; the length of a row
is one in 32-bit words. As long as these products are in range, every operation on a buffer has
exactly the outcome that the natural numbers ask for. Dimensions can be such that they are not, and
then the operation is aborted: a size that cannot be counted aborts a binding that would only be
refused, and a row that cannot be counted aborts even the message that an empty payload is refused
with.
-/

namespace FrameGraph

/-! ### Payloads -/

namespace PixelFormat

open Checked (word32 word64 mul mul32)

variable {f : PixelFormat} {width height : UInt32} {size : Nat}

/-- The number of bytes of a picture, in the natural numbers. -/
def payload (f : PixelFormat) (width height : UInt32) : Nat :=
  match f with
  | .unknown => 0
  | .rgb24 | .bgr24 => width.toNat * height.toNat * 3
  | .rgba32 | .bgra32 => width.toNat * height.toNat * 4
  | .yuyv | .uyvy => width.toNat * height.toNat * 2
  | .yuv420p | .nv12 | .nv21 => 3 * width.toNat * height.toNat / 2

/-- What the number of pixels is multiplied by on the way to the size of the payload. -/
def factor : PixelFormat → Nat
  | .unknown => 0
  | .rgb24 | .bgr24 | .yuv420p | .nv12 | .nv21 => 3
  | .rgba32 | .bgra32 => 4
  | .yuyv | .uyvy => 2

/-- The product that the size of the payload is computed from fits a 64-bit word. -/
def Countable (f : PixelFormat) (width height : UInt32) : Prop :=
  width.toNat * height.toNat * f.factor < word64

instance : Decidable (f.Countable width height) :=
  inferInstanceAs (Decidable (width.toNat * height.toNat * f.factor < word64))

lemma payloadSize_eq (f : PixelFormat) (width height : UInt32) : f.payloadSize width height =
    if f.Countable width height then .ok (f.payload width height) else .error .mulOverflow := by
  have hplanar : 3 * width.toNat * height.toNat = pixels width height * 3 := by
    rw [pixels, Nat.mul_assoc, Nat.mul_comm]
  cases f
  case unknown => simp [payloadSize, Countable, factor, payload]
  case yuv420p | nv12 | nv21 =>
    simp only [payloadSize, Countable, factor, payload, hplanar, mul, pixels]
    split <;> rename_i hcount <;> simp only [hcount, Except.map, if_true, if_false]
  all_goals rfl

lemma payloadSize_eq_ok_iff : f.payloadSize width height = .ok size ↔
    f.Countable width height ∧ size = f.payload width height := by
  rw [payloadSize_eq]
  split
  · rename_i h
    simp [h, eq_comm]
  · rename_i h
    simp [h]

/-- A payload that cannot be counted is larger than half of what can be counted. -/
lemma lt_payload_of_not_countable (h : ¬ f.Countable width height) :
    Region.addressSpace < f.payload width height := by
  have hplanar : 3 * width.toNat * height.toNat = width.toNat * height.toNat * 3 := by
    rw [Nat.mul_assoc, Nat.mul_comm]
  have hspace : Region.addressSpace < word64 / 2 := by decide
  rw [Countable, Nat.not_lt] at h
  cases f <;> simp only [factor, payload, hplanar] at h ⊢ <;> omega

lemma not_empty_of_not_countable (h : ¬ f.Countable width height) :
    f.payload width height ≠ 0 :=
  Nat.ne_of_gt (Nat.lt_of_le_of_lt (Nat.zero_le _) (lt_payload_of_not_countable h))

/-! ### Rows -/

/-- The usual length of a row is known if and only if it can be counted. -/
lemma defaultStride_eq_error_iff_not_strided {a : Panic} :
    f.defaultStride width = .error a ↔ a = .mulOverflow ∧ ¬ f.Strided width := by
  unfold defaultStride Strided
  cases f.bytesPerPixel? with
  | none => simp
  | some b =>
    simp only [mul32, mul, Option.getD_some]
    split
    · rename_i h
      simp [Except.map, h]
    · rename_i h
      simp [Except.map, h, eq_comm]

lemma planeLayout_eq_error_iff {i : Nat} {a : Panic} (h : f.payloadSize width height = .ok size)
    (hsize : size < word64 / 4) : f.planeLayout width height i = .error a ↔
      a = .mulOverflow ∧ ¬ f.Strided width ∧ i = 0 := by
  cases hf : f.bytesPerPixel? with
  | some b =>
    cases i with
    | zero =>
      rw [planeLayout_packed hf h]
      split
      · rename_i hrows
        simp [hrows]
      · rename_i hrows
        simp [hrows, eq_comm]
    | succ i => cases f <;> cases hf <;> simp [planeLayout]
  | none =>
    have hrows : f.Strided width := by simp [Strided, hf]
    have hoffset : f = .yuv420p →
        mul word64 (pixels width height) 5 = .ok (pixels width height * 5) := by
      rintro rfl
      exact mul_pixels_five h hsize
    refine iff_of_false (fun herror => ?_) fun hnot => hnot.2.1 hrows
    cases f with
    | yuv420p =>
      by_cases hi : i = 2
      · rw [hi, planeLayout, hoffset rfl] at herror
        cases herror
      · rcases i with _ | _ | _ | i
        · cases herror
        · cases herror
        · exact hi rfl
        · cases herror
    | nv12 | nv21 => rcases i with _ | _ | i <;> cases herror
    | unknown => cases herror
    | _ => cases hf

end PixelFormat

/-! ### Metadata -/

namespace FrameInfo

variable {i : FrameInfo}

/-- The number of bytes of the picture, in the natural numbers. -/
def payload (i : FrameInfo) : Nat := i.format.payload i.width i.height

/-- The size of the payload can be computed. -/
def Countable (i : FrameInfo) : Prop := i.format.Countable i.width i.height

instance : Decidable i.Countable :=
  inferInstanceAs (Decidable (i.format.Countable i.width i.height))

/-- The bytes of a row can be counted. -/
def Strided (i : FrameInfo) : Prop := i.format.Strided i.width

instance : Decidable i.Strided := inferInstanceAs (Decidable (i.format.Strided i.width))

lemma frameSize_of_countable (h : i.Countable) : i.frameSize = .ok i.payload :=
  PixelFormat.payloadSize_eq_ok_iff.2 ⟨h, rfl⟩

lemma frameSize_of_not_countable (h : ¬ i.Countable) : i.frameSize = .error .mulOverflow :=
  (PixelFormat.payloadSize_eq ..).trans (if_neg h)

/-- Only a row that cannot be counted keeps metadata from being written as a text. -/
lemma display_eq_error_iff {a : Panic} : i.display = .error a ↔ a = .mulOverflow ∧ ¬ i.Strided := by
  rw [Strided, ← PixelFormat.defaultStride_eq_error_iff_not_strided, display]
  cases i.format.defaultStride i.width with
  | error b => simp [Bind.bind, Except.bind]
  | ok stride => simp [Bind.bind, Except.bind, pure, Except.pure]

lemma display_of_strided (h : i.Strided) : ∃ text, i.display = .ok text := by
  cases htext : i.display with
  | ok text => exact ⟨text, rfl⟩
  | error a => exact absurd h (display_eq_error_iff.1 htext).2

end FrameInfo

/-! ### Regions -/

namespace Region

variable {n : Nat} {r : Region} {e : Error}

lemma capacity_allocate (h : allocate n = .ok r) : r.capacity = n := by
  unfold allocate at h
  split at h
  · cases h
    exact List.length_replicate
  · cases h

lemma allocate_eq_error (h : allocate n = .error e) : e = .allocation n := by
  unfold allocate at h
  split at h
  · cases h
  · cases h
    rfl

end Region

/-! ### Buffers -/

namespace FrameBuffer

variable {b : FrameBuffer} {info : FrameInfo}

/-- The buffer when a payload is bound to it. -/
def bound (b : FrameBuffer) (info : FrameInfo) : FrameBuffer :=
  { b with size := info.payload, info := { info with hardware := b.handle } }

/-- A binding succeeds, is refused or is aborted by the size of the payload. -/
lemma bind_eq (b : FrameBuffer) (info : FrameInfo) : b.bind info =
    if ¬ info.Countable then .error (.panic .mulOverflow)
    else if info.payload ≤ b.capacity then .ok (b.bound info)
    else refuse (.capacityExceeded info.payload b.capacity) := by
  by_cases hcount : info.Countable
  · rw [if_neg (not_not.2 hcount)]
    split
    · rename_i hfits
      exact bind_of_fits (FrameInfo.frameSize_of_countable hcount) hfits
    · rename_i hfits
      simp [bind, FrameInfo.frameSize_of_countable hcount, Checked.lift, Nat.lt_of_not_le hfits,
        Bind.bind, Except.bind]
  · rw [if_pos hcount]
    simp [bind, FrameInfo.frameSize_of_not_countable hcount, Checked.lift, Bind.bind, Except.bind]

/-- An addressable buffer is bound if and only if the payload fits, however large it is. -/
lemma bind_eq_ok_iff {bound : FrameBuffer} (hspace : b.capacity ≤ Region.addressSpace) :
    b.bind info = .ok bound ↔ info.payload ≤ b.capacity ∧ bound = b.bound info := by
  rw [bind_eq]
  split
  · rename_i hcount
    have hlarge := Nat.lt_of_le_of_lt hspace (PixelFormat.lt_payload_of_not_countable hcount)
    exact iff_of_false (by simp) fun h => absurd h.1 (Nat.not_le.2 hlarge)
  · split
    · rename_i hfits
      simp [hfits, eq_comm]
    · rename_i hfits
      simp [hfits, refuse]

/-- Without a payload there is no buffer, only the message that says so. -/
lemma forInfo_of_empty (hempty : info.payload = 0) : forInfo info =
    (info.display.lift.bind fun text =>
      refuse (.config s!"cannot create frame for {text}: empty payload")) := by
  have hcount : info.Countable :=
    not_not.1 fun h => PixelFormat.not_empty_of_not_countable h hempty
  simp [forInfo, FrameInfo.frameSize_of_countable hcount, hempty, Checked.lift, Bind.bind,
    Except.bind]

/-- With a payload that can be counted only the allocation decides. -/
lemma forInfo_of_countable (hcount : info.Countable) (hpayload : info.payload ≠ 0) :
    forInfo info =
      match Region.allocate info.payload with
      | .ok region => .ok (({ region } : FrameBuffer).bound info)
      | .error e => refuse e := by
  simp only [forInfo, FrameInfo.frameSize_of_countable hcount, Checked.lift, Bind.bind,
    Except.bind, if_neg hpayload, new]
  cases halloc : Region.allocate info.payload with
  | error e => rfl
  | ok region =>
    have hfits : info.payload ≤ ({ region } : FrameBuffer).capacity :=
      Nat.le_of_eq (Region.capacity_allocate halloc).symm
    exact (bind_eq ..).trans ((if_neg (not_not.2 hcount)).trans (if_pos hfits))

lemma forInfo_of_not_countable (hcount : ¬ info.Countable) :
    forInfo info = .error (.panic .mulOverflow) := by
  simp [forInfo, FrameInfo.frameSize_of_not_countable hcount, Checked.lift, Bind.bind, Except.bind]

/-- A new buffer is bound. -/
lemma Bound.forInfo (h : FrameBuffer.forInfo info = .ok b) : b.Bound := by
  cases hsize : info.frameSize with
  | error a => simp [FrameBuffer.forInfo, hsize, Checked.lift, Bind.bind, Except.bind] at h
  | ok size =>
    simp only [FrameBuffer.forInfo, hsize, Checked.lift, Bind.bind, Except.bind] at h
    split at h
    · cases htext : info.display with
      | error a => simp [htext] at h
      | ok text => simp [htext, refuse] at h
    · cases hnew : FrameBuffer.new size with
      | error e => simp [hnew, refuse] at h
      | ok fresh =>
        rw [hnew] at h
        exact .bind (Bound.new hnew).addressable h

/-- A plane of a bound buffer is out of reach only if its rows cannot be counted. -/
lemma plane_eq_error_iff {i : Nat} {a : Panic} (h : b.Bound) :
    b.plane i = .error a ↔ a = .mulOverflow ∧ ¬ b.Strided ∧ i = 0 := by
  have hsize : b.size < Checked.word64 / 4 :=
    Nat.lt_of_le_of_lt (Nat.le_trans h.fits h.addressable) (by decide)
  rw [Strided, ← PixelFormat.planeLayout_eq_error_iff h.payload hsize, plane, layout]
  cases b.info.format.planeLayout b.info.width b.info.height i with
  | error b => simp [Bind.bind, Except.bind]
  | ok l => cases l <;> simp [Bind.bind, Except.bind, pure, Except.pure]

/-- Sizes are exact. A buffer is bound if and only if the payload fits, and then its size is that of
the payload; a payload that does not fit is refused without a change. A new buffer has exactly the
size of the payload, if that can be allocated, and without a payload there is none. Two products may
leave their words: when the size of the payload does, a binding that would be refused and a new
buffer are aborted; when the length of a row does, so are the message about an empty payload, the
first plane of a bound buffer and the text of its metadata. Nothing else is aborted. -/
theorem sizes_spec (info : FrameInfo) {b : FrameBuffer}
    (hspace : b.capacity ≤ Region.addressSpace) :
    (∀ bound, b.bind info = .ok bound ↔ info.payload ≤ b.capacity ∧ bound = b.bound info) ∧
      (b.capacity < info.payload → b.bind info =
        if info.Countable then refuse (.capacityExceeded info.payload b.capacity)
        else .error (.panic .mulOverflow)) ∧
      (info.payload = 0 →
        (info.Strided → ∃ text, info.display = .ok text ∧
          forInfo info = refuse (.config s!"cannot create frame for {text}: empty payload")) ∧
        (¬ info.Strided → forInfo info = .error (.panic .mulOverflow))) ∧
      (info.payload ≠ 0 →
        (info.Countable →
          (∀ region, Region.allocate info.payload = .ok region →
            forInfo info = .ok (({ region } : FrameBuffer).bound info) ∧
              region.capacity = info.payload) ∧
          (∀ e, Region.allocate info.payload = .error e →
            forInfo info = refuse e ∧ e = .allocation info.payload)) ∧
        (¬ info.Countable → forInfo info = .error (.panic .mulOverflow))) ∧
      (∀ frame, b.bind info = .ok frame ∨ forInfo info = .ok frame → frame.Bound) ∧
      ∀ frame : FrameBuffer, frame.Bound →
        (∀ i a, frame.plane i = .error a ↔ a = .mulOverflow ∧ ¬ frame.Strided ∧ i = 0) ∧
        ∀ a, frame.info.display = .error a ↔ a = .mulOverflow ∧ ¬ frame.Strided := by
  refine ⟨fun bound => bind_eq_ok_iff hspace, fun hlarge => ?_,
    fun hempty => ⟨fun hrows => ?_, fun hrows => ?_⟩,
    fun hpayload => ⟨fun hcount => ⟨fun region halloc => ?_, fun e halloc => ?_⟩, fun hcount => ?_⟩,
    ?_, fun frame hframe => ⟨fun i a => plane_eq_error_iff hframe,
      fun a => FrameInfo.display_eq_error_iff⟩⟩
  · rw [bind_eq, if_neg (Nat.not_le.2 hlarge), ite_not]
  · obtain ⟨text, htext⟩ := FrameInfo.display_of_strided hrows
    exact ⟨text, htext, by rw [forInfo_of_empty hempty, htext]; rfl⟩
  · rw [forInfo_of_empty hempty, FrameInfo.display_eq_error_iff.2 ⟨rfl, hrows⟩]
    rfl
  · rw [forInfo_of_countable hcount hpayload, halloc]
    exact ⟨rfl, Region.capacity_allocate halloc⟩
  · rw [forInfo_of_countable hcount hpayload, halloc]
    exact ⟨rfl, Region.allocate_eq_error halloc⟩
  · exact forInfo_of_not_countable hcount
  · rintro frame (hbind | hnew)
    · exact .bind hspace hbind
    · exact .forInfo hnew

/-! ### Products out of range -/

/-- Sixteen bytes. -/
def sixteen : FrameBuffer := { region := ⟨List.replicate 16 0⟩ }

/-- A planar picture whose payload fits a 64-bit word, while the double of it does not. -/
def huge : FrameInfo := { width := 0x80000000, height := 0xffffffff, format := .yuv420p }

/-- A picture without rows, each of which would take as many bytes as a 32-bit word has values. -/
def wide : FrameInfo := { width := 0x40000000, height := 0, format := .rgba32 }

/-- The huge picture is not refused and the wide one is not reported as empty. The wide one can be
bound, but then it has neither a first plane nor a text. -/
theorem not_exact_sixteen :
    sixteen.capacity < huge.payload ∧
      sixteen.bind huge ≠ refuse (.capacityExceeded huge.payload sixteen.capacity) ∧
      wide.payload = 0 ∧ (∀ text, forInfo wide ≠ refuse (.config text)) ∧
      ∃ bound, sixteen.bind wide = .ok bound ∧ bound.size = 0 ∧
        bound.plane 0 = .error .mulOverflow ∧ bound.info.display = .error .mulOverflow := by
  refine ⟨by decide, by decide, rfl, fun text => ?_, sixteen.bound wide, by decide, rfl, ?_, ?_⟩
  · have hrefused : forInfo wide = .error (.panic .mulOverflow) := by decide
    rw [hrefused]
    simp [refuse]
  · decide
  · decide

/-- A picture of four pixels fits, and its sixteen bytes are all that is used. -/
theorem sizes_spec_sixteen :
    ∃ bound, sixteen.bind { width := 2, height := 2, format := .rgba32 } = .ok bound ∧
      bound.size = 16 := by
  obtain ⟨hbind, -⟩ := sizes_spec { width := 2, height := 2, format := .rgba32 } (b := sixteen)
    (by decide)
  exact ⟨_, (hbind _).2 ⟨by decide, rfl⟩, rfl⟩

end FrameBuffer

end FrameGraph
