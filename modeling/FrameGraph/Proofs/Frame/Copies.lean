import FrameGraph.Frame.Buffer
import FrameGraph.Proofs.Frame.Layout

/-!
# Copies of frame buffers

A copy goes plane by plane. Since the planes lie end to end, copying the first few of them replaces
a first part of the target's bytes and nothing else. So the target ends with the source's bytes as
far as the planes reach, and they reach to the end of the payload unless the picture's pixels do not
divide.
-/

namespace FrameGraph

/-! ### Regions -/

namespace Region

variable {r source : Region} {n k : Nat}

/-- The region after its first `n` bytes were replaced by those of another one. -/
def received (r source : Region) (n : Nat) : Region := ⟨source.bytes.take n ++ r.bytes.drop n⟩

@[simp] lemma received_zero : r.received source 0 = r := rfl

lemma length_take_bytes (h : n ≤ r.capacity) : (r.bytes.take n).length = n :=
  List.length_take_of_le h

lemma capacity_received (hsource : n ≤ source.capacity) (hr : n ≤ r.capacity) :
    (r.received source n).capacity = r.capacity := by
  simp only [capacity, received, List.length_append, List.length_take, List.length_drop] at *
  omega

/-- The next bytes are written behind those that are there already. -/
lemma write_received (hsource : n + k ≤ source.capacity) (hr : n + k ≤ r.capacity) :
    (r.received source n).write n ((source.bytes.drop n).take k) = r.received source (n + k) := by
  have hlength := length_take_bytes (Nat.le_trans (Nat.le_add_right ..) hsource)
  have hnew : ((source.bytes.drop n).take k).length = k := by
    simp only [capacity, List.length_take, List.length_drop] at *
    omega
  have hroom : k ≤ (r.received source n).capacity - n := by
    rw [capacity_received (Nat.le_trans (Nat.le_add_right ..) hsource)
      (Nat.le_trans (Nat.le_add_right ..) hr)]
    omega
  have hdrop : (r.received source n).bytes.drop (n + k) = r.bytes.drop (n + k) := by
    rw [received, ← List.drop_drop, List.drop_left' hlength, List.drop_drop]
  have htake : (r.received source n).bytes.take n = source.bytes.take n := by
    rw [received, List.take_left' hlength]
  have hwhole : ((source.bytes.drop n).take k).take ((r.received source n).capacity - n) =
      (source.bytes.drop n).take k :=
    List.take_of_length_le (by rwa [hnew])
  rw [write, hnew, hwhole, hdrop, htake, received, ← List.take_add]

lemma take_received {size : Nat} (hn : n ≤ size) (hsource : n ≤ source.capacity) :
    (r.received source n).bytes.take size = source.bytes.take n ++ (r.bytes.take size).drop n := by
  rw [received, List.take_append, length_take_bytes hsource, List.take_take,
    Nat.min_eq_right hn, List.drop_take]

end Region

/-! ### Buffers -/

namespace FrameBuffer

variable {b source target : FrameBuffer} {info : FrameInfo} {n : Nat}

/-- The buffer's payload is the one that its metadata asks for, and its region can hold it. -/
structure Bound (b : FrameBuffer) : Prop where
  payload : b.info.frameSize = .ok b.size
  fits : b.size ≤ b.capacity
  addressable : b.capacity ≤ Region.addressSpace

lemma Bound.new {capacity : Nat} (h : FrameBuffer.new capacity = .ok b) : b.Bound := by
  unfold FrameBuffer.new Region.allocate at h
  split at h
  · rename_i hspace
    cases h
    exact ⟨rfl, Nat.zero_le _, by simpa [FrameBuffer.capacity, Region.capacity] using hspace⟩
  · cases h

/-- Binding needs nothing but room. -/
lemma bind_of_fits (hpayload : info.frameSize = .ok n) (hfits : n ≤ b.capacity) :
    b.bind info = .ok { b with size := n, info := { info with hardware := b.handle } } := by
  simp [bind, hpayload, Checked.lift, Nat.not_lt.2 hfits, Bind.bind, Except.bind, pure, Except.pure]

/-- A binding that succeeds makes a bound buffer, whatever was bound before. -/
lemma Bound.bind (haddressable : b.capacity ≤ Region.addressSpace) (h : b.bind info = .ok target) :
    target.Bound := by
  cases hpayload : info.frameSize with
  | error p => simp [FrameBuffer.bind, hpayload, Checked.lift, Bind.bind, Except.bind] at h
  | ok n =>
    rcases Nat.lt_or_ge b.capacity n with hfits | hfits
    · simp [FrameBuffer.bind, hpayload, Checked.lift, hfits, refuse, Bind.bind, Except.bind] at h
    · rw [bind_of_fits hpayload hfits] at h
      cases h
      exact ⟨hpayload, hfits, haddressable⟩

/-- What the target becomes when the first `n` bytes of the source were copied into it. -/
def imprint (target source : FrameBuffer) (n : Nat) : FrameBuffer :=
  { target with
    region := target.region.received source.region n
    info := { source.info with hardware := target.handle }
    size := source.size }

lemma data_imprint (hn : n ≤ source.size) (hfits : source.size ≤ source.capacity) :
    (target.imprint source n).data = source.data.take n ++
      (target.region.bytes.take source.size).drop n := by
  rw [data, data, List.take_take, Nat.min_eq_left hn]
  exact Region.take_received hn (Nat.le_trans hn hfits)

lemma layout_imprint (i : Nat) : (target.imprint source n).layout i = source.layout i := rfl

lemma layout_of_le {i : Nat} {l : PlaneLayout}
    (h : b.info.format.planeLayout b.info.width b.info.height i = .ok (some l))
    (hfits : l.offset + l.length ≤ b.size) : b.layout i = .ok (some l) := by
  simp [layout, h, hfits, Bind.bind, Except.bind, pure, Except.pure]

/-- One plane is copied right behind those before it. -/
lemma writePlane_imprint {l : PlaneLayout} (hsource : l.offset + l.length ≤ source.capacity)
    (htarget : l.offset + l.length ≤ target.capacity) :
    (target.imprint source l.offset).writePlane l ((source.slice l).take l.length) =
      target.imprint source (l.offset + l.length) := by
  rw [writePlane, slice, List.take_take, Nat.min_self, List.take_take, Nat.min_self]
  simp only [imprint, Region.write_received hsource htarget]

/-- Planes that lie end to end are copied as one. -/
theorem copyPlanes_of_tiles {count i start stop : Nat}
    (h : source.info.format.Tiles source.info.width source.info.height count i start stop)
    (hstop : stop ≤ source.size) (hsource : source.size ≤ source.capacity)
    (htarget : source.size ≤ target.capacity) :
    source.copyPlanes count i (target.imprint source start) =
      (.ok (), target.imprint source stop) := by
  induction count generalizing i start with
  | zero =>
    cases h
    rfl
  | succ count ih =>
    obtain ⟨l, hl, rfl, hrest⟩ := h
    have hend : l.offset + l.length ≤ source.size := Nat.le_trans hrest.le hstop
    have hlayout : source.layout i = .ok (some l) := layout_of_le hl hend
    rw [copyPlanes, layout_imprint, hlayout]
    dsimp only
    rw [writePlane_imprint (Nat.le_trans hend hsource) (Nat.le_trans hend htarget)]
    exact ih hrest

/-! ### Copying -/

/-- How far the planes of a buffer reach. -/
def covered (b : FrameBuffer) : Nat := b.info.format.covered b.info.width b.info.height

/-- The last plane ends where the payload does. -/
def Divides (b : FrameBuffer) : Prop := b.info.format.Divides b.info.width b.info.height

instance : Decidable b.Divides :=
  inferInstanceAs (Decidable (b.info.format.Divides b.info.width b.info.height))

/-- The bytes of a row can be counted. -/
def Strided (b : FrameBuffer) : Prop := b.info.format.Strided b.info.width

instance : Decidable b.Strided := inferInstanceAs (Decidable (b.info.format.Strided b.info.width))

lemma Bound.covered_le (h : b.Bound) : b.covered ≤ b.size := PixelFormat.covered_le h.payload

lemma Bound.covered_of_divides (h : b.Bound) (hdivides : b.Divides) : b.covered = b.size :=
  PixelFormat.covered_of_divides h.payload hdivides

/-- Every buffer that the source's payload fits is bound first; this copies nothing yet. -/
lemma bind_imprint (hsource : source.Bound) (hfits : source.size ≤ target.capacity) :
    target.bind source.info = .ok (target.imprint source 0) :=
  bind_of_fits hsource.payload hfits

lemma copyInto_of_fits (hsource : source.Bound) (hfits : source.size ≤ target.capacity) :
    source.copyInto target =
      if source.Strided then (.ok (), target.imprint source source.covered)
      else (.error (.panic .mulOverflow), target.imprint source 0) := by
  have hplanes : min source.planeCount (target.imprint source 0).planeCount =
      source.info.format.planeCount := Nat.min_self _
  rw [copyInto, if_neg (Nat.not_lt.2 hfits), bind_imprint hsource hfits]
  dsimp only
  rw [hplanes]
  split
  · rename_i hrows
    have hsize : source.size < Checked.word64 / 4 :=
      Nat.lt_of_le_of_lt (Nat.le_trans hsource.fits hsource.addressable) (by decide)
    rw [copyPlanes_of_tiles (PixelFormat.tiles_planes hsource.payload hsize hrows)
      hsource.covered_le hsource.fits hfits]
    rfl
  · rename_i hrows
    obtain ⟨hcount, hlayout⟩ := PixelFormat.planeLayout_of_not_strided hsource.payload hrows
    have hnone : source.layout 0 = .error .mulOverflow := by
      simp [layout, hlayout, Bind.bind, Except.bind]
    rw [hcount, copyPlanes, layout_imprint, hnone]
    rfl

/-- A buffer of the same room that has no lender and nothing in it. -/
def blank (b : FrameBuffer) : FrameBuffer := { region := ⟨List.replicate b.capacity 0⟩ }

lemma new_of_bound (h : b.Bound) : FrameBuffer.new (max b.capacity b.size) = .ok b.blank := by
  rw [Nat.max_eq_left h.fits, FrameBuffer.new, Region.allocate, if_pos h.addressable]
  rfl

@[simp] lemma capacity_blank : b.blank.capacity = b.capacity := List.length_replicate

lemma duplicate_of_bound (h : b.Bound) :
    b.duplicate =
      if b.Strided then .ok (b.blank.imprint b b.covered) else .error (.panic .mulOverflow) := by
  rw [duplicate, new_of_bound h]
  dsimp only
  rw [copyInto_of_fits h (capacity_blank.symm ▸ h.fits)]
  split <;> rfl

/-- A copy is refused exactly when the payload does not fit, and then it changes nothing. Otherwise
it takes over the metadata, except for the handle of the target's own region, and the bytes of the
payload as far as the planes reach. This is the whole payload when the pixels divide; when they do
not, the last byte of the target stays as it was. A duplicate is such a copy into fresh storage that
nobody lent. Rows too long to be counted abort a copy before its first plane. -/
theorem copy_spec (hsource : source.Bound) (target : FrameBuffer) :
    ((source.copyInto target).1 = refuse (.capacityExceeded source.size target.capacity) ↔
        target.capacity < source.size) ∧
      (target.capacity < source.size → (source.copyInto target).2 = target) ∧
      (source.Strided → source.size ≤ target.capacity →
        ∃ copied, source.copyInto target = (.ok (), copied) ∧
          copied.info = { source.info with hardware := target.handle } ∧
          copied.size = source.size ∧ copied.capacity = target.capacity ∧
          copied.disposal = target.disposal ∧ copied.handle = target.handle ∧
          copied.data = source.data.take source.covered ++
            (target.region.bytes.take source.size).drop source.covered ∧
          (source.Divides → copied.data = source.data)) ∧
      (source.Strided → ∃ copy, source.duplicate = .ok copy ∧
        copy.isRecycled = false ∧ copy.handle = none ∧
        copy.info = { source.info with hardware := none } ∧ copy.size = source.size ∧
        copy.data = source.data.take source.covered ++
          List.replicate (source.size - source.covered) 0 ∧
        (source.Divides → copy.data = source.data)) ∧
      (¬ source.Strided → source.duplicate = .error (.panic .mulOverflow) ∧
        (source.size ≤ target.capacity →
          source.copyInto target = (.error (.panic .mulOverflow), target.imprint source 0))) := by
  have hsmall (h : target.capacity < source.size) : source.copyInto target =
      (refuse (.capacityExceeded source.size target.capacity), target) := by
    rw [copyInto, if_pos h]
  have hall (hdivides : source.Divides) (rest : List UInt8) :
      source.data.take source.covered ++ (rest.take source.size).drop source.covered =
        source.data := by
    have hlength : source.data.length ≤ source.size := List.length_take_le ..
    rw [hsource.covered_of_divides hdivides, List.drop_of_length_le (List.length_take_le ..),
      List.append_nil, List.take_of_length_le hlength]
  have hdata (target : FrameBuffer) : (target.imprint source source.covered).data = _ :=
    data_imprint hsource.covered_le hsource.fits
  refine ⟨⟨fun h => ?_, fun h => by rw [hsmall h]⟩, fun h => by rw [hsmall h],
    fun hrows hfits => ?_, fun hrows => ?_, fun hrows => ⟨?_, fun hfits => ?_⟩⟩
  · by_contra hfits
    rw [copyInto_of_fits hsource (Nat.le_of_not_lt hfits)] at h
    split at h <;> simp [refuse] at h
  · refine ⟨target.imprint source source.covered, ?_, rfl, rfl, ?_, rfl, rfl, hdata target,
      fun hdivides => (hdata target).trans (hall hdivides _)⟩
    · rw [copyInto_of_fits hsource hfits, if_pos hrows]
    · exact Region.capacity_received (Nat.le_trans hsource.covered_le hsource.fits)
        (Nat.le_trans hsource.covered_le hfits)
  · refine ⟨source.blank.imprint source source.covered, ?_, rfl, rfl, rfl, rfl, ?_,
      fun hdivides => (hdata source.blank).trans (hall hdivides _)⟩
    · rw [duplicate_of_bound hsource, if_pos hrows]
    · rw [hdata, blank, List.take_replicate, List.drop_replicate, Nat.min_eq_left hsource.fits]
  · rw [duplicate_of_bound hsource, if_neg hrows]
  · rw [copyInto_of_fits hsource hfits, if_neg hrows]

/-! ### A byte behind the last plane -/

/-- Two pixels of a planar picture, with every byte of the payload set. -/
def twoPixels : FrameBuffer where
  region := ⟨[7, 7, 7]⟩
  info := { width := 2, height := 1, stride := 2, format := .yuv420p }
  size := 3

lemma bound_twoPixels : twoPixels.Bound where
  payload := rfl
  fits := by decide
  addressable := by decide

/-- The last of the three bytes lies in no plane, so it is not copied. -/
theorem not_faithful_twoPixels :
    twoPixels.Bound ∧ twoPixels.blank.capacity = twoPixels.size ∧
      (twoPixels.copyInto twoPixels.blank).2.data ≠ twoPixels.data ∧
      twoPixels.duplicate.toOption.map data ≠ some twoPixels.data :=
  ⟨bound_twoPixels, rfl, by decide, by decide⟩

/-- The bytes before it are copied. -/
theorem copy_spec_twoPixels :
    ∃ copied, twoPixels.copyInto twoPixels.blank = (.ok (), copied) ∧ copied.data = [7, 7, 0] := by
  obtain ⟨-, -, hcopy, -⟩ := copy_spec bound_twoPixels twoPixels.blank
  obtain ⟨copied, hcopied, -, -, -, -, -, hdata, -⟩ := hcopy (by decide) (by decide)
  exact ⟨copied, hcopied, hdata.trans (by decide)⟩

end FrameBuffer

end FrameGraph
