import FrameGraph.Output.PixelDump
import FrameGraph.Proofs.Output.Encoding
import FrameGraph.Proofs.Text.Splitting

/-!
# Pixels in dumps

A dump is read back by a reader of its own, which wants the numbers in order and two digits for each
byte. It finds the pixels of the first plane, as many as the dump may list, and nothing of the other
planes. So a dump that may list all of them tells the first plane.
-/

namespace FrameGraph

/-! ### Pixels -/

namespace FrameBuffer

open PixelDump (pixelSize)

variable {b : FrameBuffer}

/-- The bytes of the first plane, which has a few for each pixel. -/
def firstPlane (b : FrameBuffer) : List UInt8 :=
  b.data.take (PixelFormat.pixels b.info.width b.info.height * pixelSize b.info.format)

/-- The bytes of one pixel in the first plane. -/
def pixel (b : FrameBuffer) (k : Nat) : List UInt8 :=
  (b.firstPlane.drop (k * pixelSize b.info.format)).take (pixelSize b.info.format)

lemma planar_of_known (hknown : b.info.format ≠ .unknown)
    (h : b.info.format.bytesPerPixel? = none) :
    b.info.format = .yuv420p ∨ b.info.format = .nv12 ∨ b.info.format = .nv21 := by
  cases hformat : b.info.format <;> simp_all [PixelFormat.bytesPerPixel?]

lemma pixelSize_pos (f : PixelFormat) : 0 < pixelSize f := by cases f <;> decide

/-- The payload has room for the first plane. -/
lemma le_length_data (hb : b.Bound) (hknown : b.info.format ≠ .unknown) :
    PixelFormat.pixels b.info.width b.info.height * pixelSize b.info.format ≤ b.data.length := by
  cases hpacked : b.info.format.bytesPerPixel? with
  | some size =>
    rw [(FileFormat.length_data_of_packed hb hpacked).2, pixelSize, hpacked]
    exact Nat.le_refl _
  | none =>
    rw [pixelSize, hpacked]
    simpa using (FileFormat.plane_of_planar hb (planar_of_known hknown hpacked)).1

lemma length_firstPlane (hb : b.Bound) (hknown : b.info.format ≠ .unknown) :
    b.firstPlane.length =
      PixelFormat.pixels b.info.width b.info.height * pixelSize b.info.format :=
  List.length_take_of_le (le_length_data hb hknown)

/-- A pixel lies within the first plane. -/
lemma pixel_end_le {k : Nat} (hk : k < PixelFormat.pixels b.info.width b.info.height) :
    k * pixelSize b.info.format + pixelSize b.info.format ≤
      PixelFormat.pixels b.info.width b.info.height * pixelSize b.info.format := by
  rw [← Nat.succ_mul]
  exact Nat.mul_le_mul_right _ hk

lemma pixel_eq {k : Nat} (hk : k < PixelFormat.pixels b.info.width b.info.height) :
    b.pixel k = (b.data.drop (k * pixelSize b.info.format)).take (pixelSize b.info.format) := by
  have hend := pixel_end_le hk
  rw [pixel, firstPlane, List.drop_take, List.take_take, Nat.min_eq_left (by omega)]

lemma length_pixel (hb : b.Bound) (hknown : b.info.format ≠ .unknown) {k : Nat}
    (hk : k < PixelFormat.pixels b.info.width b.info.height) :
    (b.pixel k).length = pixelSize b.info.format := by
  have hend := pixel_end_le hk
  rw [pixel, List.length_take_of_le]
  rw [List.length_drop, length_firstPlane hb hknown]
  omega

/-- The pixels make up the first plane. -/
lemma flatMap_pixel (hb : b.Bound) (hknown : b.info.format ≠ .unknown) :
    (List.range (PixelFormat.pixels b.info.width b.info.height)).flatMap b.pixel =
      b.firstPlane := by
  have hstart (count : Nat) : (List.range count).flatMap b.pixel =
      b.firstPlane.take (count * pixelSize b.info.format) := by
    induction count with
    | zero => simp
    | succ count ih =>
      rw [List.range_succ, List.flatMap_append, ih, List.flatMap_singleton, pixel, Nat.succ_mul,
        List.take_add]
  rw [hstart, ← length_firstPlane hb hknown, List.take_length]

/-- The first plane is there unless its rows are too long to be counted. -/
lemma plane_zero (hb : b.Bound) (hknown : b.info.format ≠ .unknown) :
    b.plane 0 = (b.info.format.defaultStride b.info.width).map fun stride =>
      some ⟨b.firstPlane, stride⟩ := by
  cases hpacked : b.info.format.bytesPerPixel? with
  | some size =>
    have hsize := (FileFormat.length_data_of_packed hb hpacked).2
    have hwhole : b.firstPlane = b.data := by
      rw [firstPlane, pixelSize, hpacked, Option.getD_some, ← hsize, List.take_length]
    have hlayout := PixelFormat.planeLayout_packed hpacked hb.payload
    by_cases hrows : b.info.width.toNat * size < Checked.word32
    · rw [if_pos (by rwa [PixelFormat.Strided, hpacked])] at hlayout
      have hplane : b.layout 0 = .ok (some ⟨0, b.size, .ofNat (b.info.width.toNat * size)⟩) :=
        layout_of_le hlayout (Nat.le_of_eq (Nat.zero_add _))
      rw [plane, hplane, hwhole, PixelFormat.defaultStride, hpacked]
      simp [Checked.mul32, Checked.mul, hrows, Except.map]
      rfl
    · rw [if_neg (by rwa [PixelFormat.Strided, hpacked])] at hlayout
      rw [plane, layout, hlayout, PixelFormat.defaultStride, hpacked]
      simp [Checked.mul32, Checked.mul, hrows, Except.map]
      rfl
  | none =>
    have hplane := (FileFormat.plane_of_planar hb (planar_of_known hknown hpacked)).2
    simp [hplane, PixelFormat.defaultStride, hpacked, firstPlane, pixelSize, Except.map]

end FrameBuffer

namespace PixelDump

/-! ### Digits -/

/-- The digits of hexadecimal numbers. -/
def digits : List Char := "0123456789ABCDEF".toList

def digit (n : Nat) : Char := digits.getD n '0'

/-- A byte in two digits, the more significant one first. -/
def twoDigits (byte : UInt8) : List Char := [digit (byte.toNat / 16), digit (byte.toNat % 16)]

variable {n : Nat} {byte : UInt8} {bytes : List UInt8} {c : Char}

lemma hexDigit_eq_digit (h : n < 16) : hexDigit n = digit n := by
  revert n
  decide

lemma idxOf?_digit (h : n < 16) : digits.idxOf? (digit n) = some n := by
  revert n
  decide

lemma digit_mem (h : n < 16) : digit n ∈ digits := by
  revert n
  decide

lemma div_lt (byte : UInt8) : byte.toNat / 16 < 16 := Nat.div_lt_of_lt_mul byte.toNat_lt

lemma mod_lt (byte : UInt8) : byte.toNat % 16 < 16 := Nat.mod_lt _ (by decide)

lemma hexByte_eq_twoDigits (byte : UInt8) : hexByte byte = twoDigits byte := by
  rw [hexByte, twoDigits, hexDigit_eq_digit (div_lt byte), hexDigit_eq_digit (mod_lt byte)]

lemma mem_digits (h : c ∈ twoDigits byte) : c ∈ digits := by
  rcases List.mem_cons.1 h with rfl | h
  · exact digit_mem (div_lt byte)
  · exact List.mem_singleton.1 h ▸ digit_mem (mod_lt byte)

lemma mem_digits_of_piece {piece : List Char} (hpiece : piece ∈ bytes.map twoDigits)
    (h : c ∈ piece) : c ∈ digits := by
  obtain ⟨byte, -, rfl⟩ := List.mem_map.1 hpiece
  exact mem_digits h

/-! ### Reading -/

/-- Read a byte of two digits. -/
def readByte? : List Char → Option UInt8
  | [high, low] => do
    let high ← digits.idxOf? high
    let low ← digits.idxOf? low
    return .ofNat (high * 16 + low)
  | _ => none

/-- Read the bytes of a pixel behind the number that it must have. -/
def readPixel? (index : Nat) (cs : List Char) : Option (List UInt8) := do
  let (number, bytes) ← Text.splitOnce? ':' cs
  if Nat.ofDigitChars 10 number 0 = index then (Text.splitAll ',' bytes).mapM readByte? else none

/-- Read pixels that are numbered from `index` on. -/
def readPixels? : (index : Nat) → List (List Char) → Option (List (List UInt8))
  | _, [] => some []
  | index, cs :: rest => do
    let bytes ← readPixel? index cs
    let pixels ← readPixels? (index + 1) rest
    return bytes :: pixels

/-- Read the pixels of a dump. -/
def read? (s : String) : Option (List (List UInt8)) :=
  if s.isEmpty then some [] else readPixels? 0 (Text.splitAll ' ' s.toList)

lemma readByte?_twoDigits (byte : UInt8) : readByte? (twoDigits byte) = some byte := by
  have hvalue : UInt8.ofNat (byte.toNat / 16 * 16 + byte.toNat % 16) = byte := by
    rw [Nat.div_add_mod', UInt8.ofNat_toNat]
  simp only [readByte?, twoDigits, idxOf?_digit (div_lt byte), idxOf?_digit (mod_lt byte),
    Option.bind_eq_bind, Option.bind_some, hvalue, Option.pure_def]

/-! ### Entries -/

lemma entry_eq (index : Nat) (bytes : List UInt8) : entry index bytes =
    Nat.toDigits 10 index ++ ':' :: [','].intercalate (bytes.map twoDigits) := by
  rw [entry, List.map_congr_left fun byte _ => hexByte_eq_twoDigits byte]

lemma colon_notMem_toDigits (index : Nat) : ':' ∉ Nat.toDigits 10 index := fun h =>
  absurd (PortableImage.isDigit_of_mem_digits h) (by decide)

lemma space_notMem_entry (index : Nat) (bytes : List UInt8) : ' ' ∉ entry index bytes := by
  rw [entry_eq, List.mem_append, List.mem_cons]
  rintro (hnumber | hcolon | hbytes)
  · exact absurd (PortableImage.isDigit_of_mem_digits hnumber) (by decide)
  · exact absurd hcolon (by decide)
  · rcases Text.mem_intercalate hbytes with hcomma | ⟨piece, hpiece, hspace⟩
    · exact absurd hcomma (by decide)
    · exact absurd (mem_digits_of_piece hpiece hspace) (by decide)

lemma readPixel?_entry (index : Nat) (h : bytes ≠ []) :
    readPixel? index (entry index bytes) = some bytes := by
  have hcut : Text.splitOnce? ':' (entry index bytes) =
      some (Nat.toDigits 10 index, [','].intercalate (bytes.map twoDigits)) :=
    Text.splitOnce?_eq_some_iff.2 ⟨entry_eq .., colon_notMem_toDigits index⟩
  have hcomma : ∀ piece ∈ bytes.map twoDigits, ',' ∉ piece := fun _ hpiece hmem =>
    absurd (mem_digits_of_piece hpiece hmem) (by decide)
  have hpieces := Text.splitAll_intercalate hcomma (by simpa using h)
  have hbytes := Text.mapM_map_eq_some readByte?_twoDigits bytes
  simp only [readPixel?, hcut, Option.bind_eq_bind, Option.bind_some, Nat.ofDigitChars_ten_toDigits,
    if_true, hpieces, hbytes]

lemma length_entries (index : Nat) (pixels : List (List UInt8)) :
    (entries index pixels).length = pixels.length := by
  induction pixels generalizing index with
  | nil => rfl
  | cons bytes rest ih => simp [entries, ih]

lemma getElem?_entries (index : Nat) (pixels : List (List UInt8)) (k : Nat) :
    (entries index pixels)[k]? = pixels[k]?.map (entry (index + k)) := by
  induction pixels generalizing index k with
  | nil => simp [entries]
  | cons bytes rest ih =>
    cases k with
    | zero => simp [entries]
    | succ k => simp [entries, ih, Nat.add_right_comm, Nat.add_assoc]

lemma readPixels?_entries (index : Nat) {pixels : List (List UInt8)}
    (h : ∀ bytes ∈ pixels, bytes ≠ []) :
    readPixels? index (entries index pixels) = some pixels := by
  induction pixels generalizing index with
  | nil => rfl
  | cons bytes rest ih =>
    obtain ⟨hbytes, hrest⟩ := List.forall_mem_cons.1 h
    simp [entries, readPixels?, readPixel?_entry index hbytes, ih (index + 1) hrest]

/-! ### Pieces -/

/-- Enough bytes are cut into as many full pieces as are wanted. -/
lemma chunks_eq_map {size count : Nat} (hsize : 0 < size) (h : count * size ≤ bytes.length) :
    chunks size count bytes =
      (List.range count).map fun k => (bytes.drop (k * size)).take size := by
  induction count generalizing bytes with
  | zero => rfl
  | succ count ih =>
    rw [Nat.succ_mul] at h
    cases bytes with
    | nil =>
      rw [List.length_nil] at h
      omega
    | cons byte rest =>
      have hrest : count * size ≤ ((byte :: rest).drop size).length := by
        rw [List.length_drop]
        omega
      have hstep : chunks size (count + 1) (byte :: rest) =
          (byte :: rest).take size :: chunks size count ((byte :: rest).drop size) := rfl
      rw [hstep, ih hrest, List.range_succ_eq_map, List.map_cons, List.map_map, Nat.zero_mul,
        List.drop_zero]
      simp only [Function.comp_def, List.drop_drop, Nat.succ_mul, Nat.add_comm size]

/-! ### Dumps -/

variable {b b' : FrameBuffer} {limit : Nat}

/-- The pixels that a dump may list. -/
def listed (b : FrameBuffer) (limit : Nat) : List (List UInt8) :=
  (List.range (min limit (PixelFormat.pixels b.info.width b.info.height))).map b.pixel

lemma listed_ne_nil (hb : b.Bound) (hknown : b.info.format ≠ .unknown) (limit : Nat) :
    ∀ bytes ∈ listed b limit, bytes ≠ [] := by
  intro bytes hbytes
  obtain ⟨k, hk, rfl⟩ := List.mem_map.1 hbytes
  have hcount := Nat.lt_of_lt_of_le (List.mem_range.1 hk) (Nat.min_le_right ..)
  rw [← List.length_pos_iff, FrameBuffer.length_pixel hb hknown hcount]
  exact FrameBuffer.pixelSize_pos _

/-- The bytes that are dumped are those of the first plane, pixel by pixel. -/
lemma toList_ofFrame (hb : b.Bound) (hknown : b.info.format ≠ .unknown) (limit : Nat) :
    (ofFrame b limit).toList = [' '].intercalate (entries 0 (listed b limit)) := by
  have hroom : min limit (PixelFormat.pixels b.info.width b.info.height) *
      pixelSize b.info.format ≤ b.data.length :=
    Nat.le_trans (Nat.mul_le_mul_right _ (Nat.min_le_right ..))
      (FrameBuffer.le_length_data hb hknown)
  have hpixels : listed b limit = chunks (pixelSize b.info.format)
      (min limit (PixelFormat.pixels b.info.width b.info.height)) b.data := by
    rw [chunks_eq_map (FrameBuffer.pixelSize_pos _) hroom, listed]
    refine List.map_congr_left fun k hk => FrameBuffer.pixel_eq ?_
    exact Nat.lt_of_lt_of_le (List.mem_range.1 hk) (Nat.min_le_right ..)
  rw [ofFrame, String.toList_ofList, hpixels, Nat.min_comm]

/-- Every entry is one piece of its dump. -/
lemma entry_spec {index : Nat} {pixels : List (List UInt8)} {e : List Char}
    (he : e ∈ entries index pixels) : e ≠ [] ∧ ' ' ∉ e := by
  obtain ⟨k, hk⟩ := List.mem_iff_getElem?.1 he
  rw [getElem?_entries] at hk
  obtain ⟨bytes, -, rfl⟩ := Option.map_eq_some_iff.1 hk
  exact ⟨by simp [entry], space_notMem_entry _ _⟩

/-- A dump is read back as the pixels that it lists. -/
lemma read?_ofFrame (hb : b.Bound) (hknown : b.info.format ≠ .unknown) (limit : Nat) :
    read? (ofFrame b limit) = some (listed b limit) := by
  have htext := toList_ofFrame hb hknown limit
  cases hlisted : listed b limit with
  | nil =>
    rw [hlisted] at htext
    rw [String.toList_eq_nil_iff.1 htext]
    rfl
  | cons bytes rest =>
    have hsplit : Text.splitAll ' ' (ofFrame b limit).toList = entries 0 (bytes :: rest) := by
      rw [htext, hlisted]
      exact Text.splitAll_intercalate (fun e he => (entry_spec he).2) (List.cons_ne_nil _ _)
    have hne : (ofFrame b limit).isEmpty = false := by
      by_contra hempty
      rw [Bool.not_eq_false, String.isEmpty_iff] at hempty
      rw [hempty] at hsplit
      have hfirst : entry 0 bytes ∈ entries 0 (bytes :: rest) := List.mem_cons_self
      exact (entry_spec hfirst).1 (List.cons.inj hsplit).1.symm
    rw [read?, hne, hsplit]
    exact readPixels?_entries 0 (hlisted ▸ listed_ne_nil hb hknown limit)

/-- A dump has an entry for each pixel of the first plane, as far as it may list them: its decimal
number, a colon, and its bytes in two digits each with commas between them. There is one space
between two entries and none elsewhere. So a dump is read back as these pixels, and if it may list
all of them, it tells the first plane. -/
theorem dump_spec (hb : b.Bound) (hknown : b.info.format ≠ .unknown) (limit : Nat) :
    (∃ entries : List (List Char),
      (ofFrame b limit).toList = [' '].intercalate entries ∧
      entries.length = min limit (PixelFormat.pixels b.info.width b.info.height) ∧
      (∀ e ∈ entries, e ≠ [] ∧ ' ' ∉ e) ∧
      ∀ k < entries.length, entries[k]? = some
        (Nat.toDigits 10 k ++ ':' :: [','].intercalate ((b.pixel k).map twoDigits))) ∧
    read? (ofFrame b limit) = some
      ((List.range (min limit (PixelFormat.pixels b.info.width b.info.height))).map b.pixel) ∧
    b.plane 0 = ((b.info.format.defaultStride b.info.width).map fun stride =>
      some ⟨b.firstPlane, stride⟩) ∧
    ∀ b' : FrameBuffer, b'.Bound → b'.info.format = b.info.format →
      b'.info.width = b.info.width → b'.info.height = b.info.height →
      PixelFormat.pixels b.info.width b.info.height ≤ limit →
      ofFrame b' limit = ofFrame b limit →
      b'.firstPlane = b.firstPlane ∧ b'.plane 0 = b.plane 0 := by
  refine ⟨⟨entries 0 (listed b limit), toList_ofFrame hb hknown limit, ?_, fun e => entry_spec,
    fun k hk => ?_⟩, read?_ofFrame hb hknown limit, FrameBuffer.plane_zero hb hknown,
    fun b' hb' hformat hwidth hheight hall hdumps => ?_⟩
  · rw [length_entries, listed, List.length_map, List.length_range]
  · rw [length_entries, listed, List.length_map, List.length_range] at hk
    rw [getElem?_entries, listed, List.getElem?_map, List.getElem?_range hk, Nat.zero_add]
    exact congrArg some (entry_eq k _)
  · have hknown' : b'.info.format ≠ .unknown := hformat ▸ hknown
    have hlisted : listed b' limit = listed b limit := by
      have hread := read?_ofFrame hb' hknown' limit
      rw [hdumps, read?_ofFrame hb hknown] at hread
      exact (Option.some.inj hread).symm
    have hplane : b'.firstPlane = b.firstPlane := by
      rw [← FrameBuffer.flatMap_pixel hb' hknown', ← FrameBuffer.flatMap_pixel hb hknown,
        List.flatMap_def, List.flatMap_def]
      simpa only [listed, hwidth, hheight, Nat.min_eq_right hall] using
        congrArg List.flatten hlisted
    refine ⟨hplane, ?_⟩
    rw [FrameBuffer.plane_zero hb' hknown', FrameBuffer.plane_zero hb hknown, hplane, hformat,
      hwidth]

/-- A red point and a blue one, dumped with room to spare; the time of capture is not dumped. -/
theorem dump_spec_redBlue :
    ofFrame FileWriter.redBlue 5 = "0:FF,00,00 1:00,00,FF" ∧
      read? "0:FF,00,00 1:00,00,FF" = some [[255, 0, 0], [0, 0, 255]] ∧
      (FileWriter.redBlue.stamp 7 1).plane 0 = FileWriter.redBlue.plane 0 := by
  have htext : ofFrame FileWriter.redBlue 5 = "0:FF,00,00 1:00,00,FF" := by rfl
  obtain ⟨-, hread, -, hplane⟩ := dump_spec FileWriter.bound_redBlue (by decide) 5
  have hstamped : (FileWriter.redBlue.stamp 7 1).Bound := ⟨rfl, by decide, by decide⟩
  exact ⟨htext, htext ▸ hread, (hplane _ hstamped rfl rfl rfl (by decide) rfl).2⟩

end PixelDump

end FrameGraph
