import FrameGraph.Output.FileWriter
import FrameGraph.Proofs.Files.Places
import FrameGraph.Proofs.Frame.Copies
import Mathlib.Data.Nat.Digits.Defs

/-!
# Frames in files

A file that is written as a portable image is read back by a reader of its own. It finds the
dimensions of the frame and a body that is neither too short nor too long, in which each point has
the colour, or the brightness, that it has in the frame. What an output cannot encode is refused
before anything else happens.
-/

namespace FrameGraph

/-! ### Portable images -/

/-- A portable image as it is found in a file. -/
structure PortableImage where
  kind : Char
  width : Nat
  height : Nat
  greatest : Nat
  body : List UInt8
  deriving DecidableEq, Repr

namespace PortableImage

/-- Read a number that stands behind blanks. -/
def readNumber (bytes : List UInt8) : Option (Nat × List UInt8) :=
  let field := bytes.dropWhile fun b => (Char.ofUInt8 b).isWhitespace
  let digits := field.takeWhile fun b => (Char.ofUInt8 b).isDigit
  if field.length < bytes.length ∧ digits ≠ [] then
    some (Nat.ofDigitChars 10 (digits.map Char.ofUInt8) 0, field.drop digits.length)
  else none

/-- Read a file: the letter P and the kind, three numbers, one blank, and then the body. -/
def read? : List UInt8 → Option PortableImage
  | 80 :: kind :: rest => do
    let (width, rest) ← readNumber rest
    let (height, rest) ← readNumber rest
    let (greatest, rest) ← readNumber rest
    match rest with
    | [] => none
    | blank :: body =>
      if (Char.ofUInt8 blank).isWhitespace then
        some { kind := Char.ofUInt8 kind, width, height, greatest, body }
      else none
  | _ => none

/-! ### Texts as bytes -/

/-- The bytes of a text that has no letters of other alphabets. -/
def ascii (cs : List Char) : List UInt8 := cs.map Char.toUInt8

variable {c blank next : Char}

lemma ofUInt8_toUInt8 (h : c.toNat < 128) : Char.ofUInt8 c.toUInt8 = c := by
  have hval : c.val.toNat < 128 := h
  apply Char.ext
  show c.val.toUInt8.toUInt32 = c.val
  apply UInt32.toNat_inj.1
  rw [UInt8.toNat_toUInt32, UInt32.toNat_toUInt8]
  omega

lemma ascii_of_isWhitespace (h : c.isWhitespace = true) : c.toNat < 128 ∧ c.isDigit = false := by
  simp only [Char.isWhitespace, Bool.or_eq_true, decide_eq_true_eq] at h
  obtain ((rfl | rfl) | rfl) | rfl := h <;> decide

lemma ascii_of_isDigit (h : c.isDigit = true) : c.toNat < 128 ∧ c.isWhitespace = false := by
  constructor
  · simp only [Char.isDigit, Bool.and_eq_true, decide_eq_true_eq] at h
    exact Nat.lt_of_le_of_lt (UInt32.le_iff_toNat_le.1 h.2) (by decide)
  · rw [← Bool.not_eq_true]
    intro hblank
    rw [(ascii_of_isWhitespace hblank).2] at h
    cases h

lemma isDigit_of_mem_digits {n : Nat} (h : c ∈ Nat.toDigits 10 n) : c.isDigit = true :=
  Nat.isDigit_of_mem_toDigits (by decide) (by decide) h

lemma toList_loop (bytes : ByteArray) (i : Nat) (r : List UInt8) :
    ByteArray.toList.loop bytes i r = r.reverse ++ bytes.data.toList.drop i := by
  induction i, r using ByteArray.toList.loop.induct bytes with
  | case1 i r h ih =>
    have hi : i < bytes.data.toList.length := by simpa using h
    rw [ByteArray.toList.loop.eq_1, if_pos h, ih, List.drop_eq_getElem_cons hi]
    simp [ByteArray.get!, getElem!_pos, h]
  | case2 i r h =>
    have hi : bytes.data.toList.length ≤ i := by simpa using h
    rw [ByteArray.toList.loop.eq_1, if_neg h, List.drop_eq_nil_of_le hi, List.append_nil]

lemma toList_toUTF8 {s : String} (h : ∀ c ∈ s.toList, c.toNat < 128) :
    s.toUTF8.toList = ascii s.toList := by
  have hchar : ∀ c ∈ s.toList, String.utf8EncodeChar c = [c.toUInt8] := fun c hc => by
    have hle : c.val ≤ 127 := Nat.le_of_lt_succ (h c hc)
    exact String.utf8EncodeChar_eq_singleton (Char.utf8Size_eq_one_iff.2 hle)
  have hbytes : s.toUTF8.toList = s.toUTF8.data.toList := by simp [ByteArray.toList, toList_loop]
  rw [hbytes, String.toUTF8_eq_toByteArray, ← String.utf8Encode_toList, List.utf8Encode,
    List.toList_data_toByteArray, ascii, List.map_eq_flatMap, List.flatMap_def, List.flatMap_def,
    List.map_congr_left hchar]

/-! ### Headers -/

/-- A number between blanks is read. -/
lemma readNumber_digits (hblank : blank.isWhitespace = true) (hnext : next.isWhitespace = true)
    (n : Nat) {rest : List UInt8} (hrest : rest.head? = some next.toUInt8) :
    readNumber (ascii (blank :: Nat.toDigits 10 n) ++ rest) = some (n, rest) := by
  obtain ⟨rest, rfl⟩ := List.head?_eq_some_iff.1 hrest
  have hread : (ascii (Nat.toDigits 10 n)).map Char.ofUInt8 = Nat.toDigits 10 n := by
    have hid : ∀ c ∈ Nat.toDigits 10 n, (Char.ofUInt8 ∘ Char.toUInt8) c = id c := fun c hc =>
      ofUInt8_toUInt8 (ascii_of_isDigit (isDigit_of_mem_digits hc)).1
    rw [ascii, List.map_map, List.map_congr_left hid, List.map_id]
  have hdigits : ∀ b ∈ ascii (Nat.toDigits 10 n), (Char.ofUInt8 b).isDigit = true := fun b hb =>
    isDigit_of_mem_digits (hread ▸ List.mem_map_of_mem hb)
  -- the first digit ends the blanks, and the next blank ends the digits
  have hfield : (ascii (blank :: Nat.toDigits 10 n) ++ next.toUInt8 :: rest).dropWhile
      (fun b => (Char.ofUInt8 b).isWhitespace) =
        ascii (Nat.toDigits 10 n) ++ next.toUInt8 :: rest := by
    have hfirst : (Char.ofUInt8 blank.toUInt8).isWhitespace = true := by
      rwa [ofUInt8_toUInt8 (ascii_of_isWhitespace hblank).1]
    obtain ⟨b, bs, hbs⟩ := List.exists_cons_of_ne_nil
      (show ascii (Nat.toDigits 10 n) ≠ [] by simp [ascii])
    have hstop := (ascii_of_isDigit (hdigits b (hbs ▸ List.mem_cons_self))).2
    rw [ascii, List.map_cons, ← ascii, hbs]
    simp [hfirst, hstop]
  have htake : (ascii (Nat.toDigits 10 n) ++ next.toUInt8 :: rest).takeWhile
      (fun b => (Char.ofUInt8 b).isDigit) = ascii (Nat.toDigits 10 n) := by
    have hnextBlank := ascii_of_isWhitespace hnext
    have hstop : (Char.ofUInt8 next.toUInt8).isDigit = false := by
      rw [ofUInt8_toUInt8 hnextBlank.1, hnextBlank.2]
    rw [List.takeWhile_append_of_pos hdigits]
    simp [hstop]
  simp only [readNumber, hfield, htake, hread]
  rw [if_pos (by simp [ascii]), List.drop_left, Nat.ofDigitChars_ten_toDigits]

lemma header_eq_ascii {magic : String} (hmagic : ∀ c ∈ magic.toList, c.toNat < 128)
    (width height : UInt32) : FileFormat.header magic width height =
      ascii magic.toList ++ (ascii ('\n' :: Nat.toDigits 10 width.toNat) ++
        (ascii (' ' :: Nat.toDigits 10 height.toNat) ++
          (ascii ('\n' :: Nat.toDigits 10 255) ++ ['\n'.toUInt8]))) := by
  have htext : (s!"{magic}\n{width.toNat} {height.toNat}\n255\n").toList =
      magic.toList ++ ('\n' :: Nat.toDigits 10 width.toNat ++
        (' ' :: Nat.toDigits 10 height.toNat ++ ('\n' :: Nat.toDigits 10 255 ++ ['\n']))) := by
    have hgreatest : Nat.toDigits 10 255 = ['2', '5', '5'] := by decide
    simp [toString, hgreatest]
  have hdigit (n : Nat) : ∀ c ∈ Nat.toDigits 10 n, c.toNat < 128 := fun c hc =>
    (ascii_of_isDigit (isDigit_of_mem_digits hc)).1
  have hascii : ∀ c ∈ (s!"{magic}\n{width.toNat} {height.toNat}\n255\n").toList,
      c.toNat < 128 := by
    rw [htext]
    intro c hc
    simp only [List.mem_append, List.mem_cons] at hc
    obtain hc | (rfl | hc) | (rfl | hc) | (rfl | hc) | rfl | hc := hc
    · exact hmagic c hc
    · decide
    · exact hdigit _ c hc
    · decide
    · exact hdigit _ c hc
    · decide
    · exact hdigit _ c hc
    · decide
    · cases hc
  rw [FileFormat.header, toList_toUTF8 hascii, htext]
  simp [ascii]

/-- A file is read back as what its header says, with everything behind the header as its body. -/
theorem read?_header {magic : String} {kind : Char} (hmagic : magic.toList = ['P', kind])
    (h : kind.toNat < 128) (width height : UInt32) (body : List UInt8) :
    read? (FileFormat.header magic width height ++ body) =
      some ⟨kind, width.toNat, height.toNat, 255, body⟩ := by
  have hascii : ∀ c ∈ magic.toList, c.toNat < 128 := by simp [hmagic, h]
  have hletters : ascii magic.toList = [80, kind.toUInt8] := by
    rw [hmagic]
    rfl
  have hline : '\n'.isWhitespace = true := by decide
  have hspace : ' '.isWhitespace = true := by decide
  let behindHeight := ascii ('\n' :: Nat.toDigits 10 255) ++ '\n'.toUInt8 :: body
  let behindWidth := ascii (' ' :: Nat.toDigits 10 height.toNat) ++ behindHeight
  have hwidth : readNumber (ascii ('\n' :: Nat.toDigits 10 width.toNat) ++ behindWidth) =
      some (width.toNat, behindWidth) := readNumber_digits hline hspace _ rfl
  have hheight : readNumber behindWidth = some (height.toNat, behindHeight) :=
    readNumber_digits hspace hline _ rfl
  have hgreatest : readNumber behindHeight = some (255, '\n'.toUInt8 :: body) :=
    readNumber_digits hline hline _ rfl
  have hbytes : FileFormat.header magic width height ++ body =
      80 :: kind.toUInt8 :: (ascii ('\n' :: Nat.toDigits 10 width.toNat) ++ behindWidth) := by
    simp [header_eq_ascii hascii, hletters, behindWidth, behindHeight]
  have hend : (Char.ofUInt8 '\n'.toUInt8).isWhitespace = true := by decide
  rw [hbytes, read?]
  simp only [Option.bind_eq_bind, hwidth, hheight, hgreatest, Option.bind_some, hend, if_true,
    ofUInt8_toUInt8 h]

end PortableImage

/-! ### Bodies -/

namespace FileFormat

variable {f : FileFormat} {b : FrameBuffer} {n : Nat} {data : List UInt8}

/-- Without opacity a point keeps its first three bytes. -/
lemma withoutOpacity_spec (h : data.length = n * 4) :
    (withoutOpacity n data).length = n * 3 ∧
      ∀ k < n, ((withoutOpacity n data).drop (k * 3)).take 3 = (data.drop (k * 4)).take 3 := by
  induction n generalizing data with
  | zero => simp [withoutOpacity]
  | succ n ih =>
    match data, h with
    | [], h | [_], h | [_, _], h | [_, _, _], h =>
      simp only [List.length_cons, List.length_nil] at h
      omega
    | r :: g :: b :: _ :: rest, h =>
      have hrest : rest.length = n * 4 := by simpa [Nat.succ_mul] using h
      obtain ⟨hlength, hpoints⟩ := ih hrest
      refine ⟨by simp [withoutOpacity, hlength, Nat.succ_mul], fun k hk => ?_⟩
      cases k with
      | zero => simp [withoutOpacity]
      | succ k =>
        simpa [withoutOpacity, Nat.succ_mul] using hpoints k (Nat.lt_of_succ_lt_succ hk)

/-- Each point leaves one byte, the brightness of its colour. -/
lemma brightness_spec (h : data.length = n * 3) :
    (brightness n data).length = n ∧
      ∀ k < n, ∃ c : Color, (data.drop (k * 3)).take 3 = c.channels ∧
        (brightness n data)[k]? = some c.luma := by
  induction n generalizing data with
  | zero => simp [brightness]
  | succ n ih =>
    match data, h with
    | [], h | [_], h | [_, _], h =>
      simp only [List.length_cons, List.length_nil] at h
      omega
    | r :: g :: b :: rest, h =>
      have hrest : rest.length = n * 3 := by simpa [Nat.succ_mul] using h
      obtain ⟨hlength, hpoints⟩ := ih hrest
      refine ⟨by simp [brightness, hlength], fun k hk => ?_⟩
      cases k with
      | zero => exact ⟨⟨r, g, b⟩, by simp [Color.channels], rfl⟩
      | succ k =>
        simpa [brightness, Nat.succ_mul] using hpoints k (Nat.lt_of_succ_lt_succ hk)

/-- What a file has to say about a frame: a raw file holds the payload; a pixmap has the first three
bytes of each point, which are its colours; a graymap has the brightness of each colour, or the
first plane. -/
def Renders (f : FileFormat) (b : FrameBuffer) (bytes : List UInt8) : Prop :=
  let points := PixelFormat.pixels b.info.width b.info.height
  let image kind body : PortableImage :=
    ⟨kind, b.info.width.toNat, b.info.height.toNat, 255, body⟩
  match f with
  | .raw => bytes = b.data
  | .ppm => ∃ body size, PortableImage.read? bytes = some (image '6' body) ∧
      body.length = points * 3 ∧ b.info.format.bytesPerPixel? = some size ∧
      ∀ k < points, (body.drop (k * 3)).take 3 = (b.data.drop (k * size)).take 3
  | .pgm => ∃ body, PortableImage.read? bytes = some (image '5' body) ∧
      body.length = points ∧
      if b.info.format = .rgb24 then
        ∀ k < points, ∃ c : Color, (b.data.drop (k * 3)).take 3 = c.channels ∧
          body[k]? = some c.luma
      else b.plane 0 = .ok (some ⟨body, b.info.width⟩)

/-- The payload of a packed format has all bytes of all points. -/
lemma length_data_of_packed (hb : b.Bound) {size : Nat}
    (hpacked : b.info.format.bytesPerPixel? = some size) :
    PixelFormat.pixels b.info.width b.info.height * size < Checked.word64 ∧
      b.data.length = PixelFormat.pixels b.info.width b.info.height * size := by
  have hmul : Checked.mul Checked.word64 (PixelFormat.pixels b.info.width b.info.height) size =
      .ok b.size := by
    have hpayload := hb.payload
    unfold FrameInfo.frameSize PixelFormat.payloadSize at hpayload
    split at hpayload <;> simp_all [PixelFormat.bytesPerPixel?]
  obtain ⟨hword, hsize⟩ := Checked.mul_eq_ok_iff.1 hmul
  exact ⟨hword, (List.length_take_of_le hb.fits).trans hsize⟩

/-- The first plane of a planar format has one byte for each point. -/
lemma plane_of_planar (hb : b.Bound)
    (h : b.info.format = .yuv420p ∨ b.info.format = .nv12 ∨ b.info.format = .nv21) :
    PixelFormat.pixels b.info.width b.info.height ≤ b.data.length ∧
      b.plane 0 = .ok (some ⟨b.data.take (PixelFormat.pixels b.info.width b.info.height),
        b.info.width⟩) := by
  have hlayout : b.info.format.planeLayout b.info.width b.info.height 0 =
      .ok (some ⟨0, PixelFormat.pixels b.info.width b.info.height, b.info.width⟩) := by
    obtain h | h | h := h <;> rw [h] <;> rfl
  have hfits : PixelFormat.pixels b.info.width b.info.height ≤ b.size := by
    have hcovered := PixelFormat.covered_le hb.payload
    obtain h | h | h := h <;> rw [h, PixelFormat.covered] at hcovered <;> omega
  have hlength : b.data.length = b.size := List.length_take_of_le hb.fits
  refine ⟨hlength ▸ hfits, ?_⟩
  simp [FrameBuffer.plane, FrameBuffer.layout, hlayout, FrameBuffer.slice, FrameBuffer.data,
    List.take_take, hfits, bind, Except.bind, pure, Except.pure]

/-- A frame that an output supports is encoded, and the bytes render it. -/
theorem encode_renders (hb : b.Bound) (hsupports : f.supports b.info.format = true) :
    ∃ bytes, f.encode b = .ok bytes ∧ f.Renders b bytes := by
  have hpixmap (body : List UInt8) :
      PortableImage.read? (header "P6" b.info.width b.info.height ++ body) =
        some ⟨'6', b.info.width.toNat, b.info.height.toNat, 255, body⟩ :=
    PortableImage.read?_header (by decide) (by decide) ..
  have hgraymap (body : List UInt8) :
      PortableImage.read? (header "P5" b.info.width b.info.height ++ body) =
        some ⟨'5', b.info.width.toNat, b.info.height.toNat, 255, body⟩ :=
    PortableImage.read?_header (by decide) (by decide) ..
  cases f with
  | raw => exact ⟨_, rfl, rfl⟩
  | ppm =>
    obtain hformat | hformat : b.info.format = .rgb24 ∨ b.info.format = .rgba32 := by
      simpa [supports] using hsupports
    · have hsize : b.info.format.bytesPerPixel? = some 3 := by rw [hformat]; rfl
      obtain ⟨hword, hlength⟩ := length_data_of_packed hb hsize
      have hcount := Checked.mul_eq_ok_iff.2 ⟨hword, rfl⟩
      have hbody : firstBytes (PixelFormat.pixels b.info.width b.info.height * 3) b.data =
          .ok b.data := by
        rw [firstBytes, if_pos hlength.ge, ← hlength, List.take_length]
      refine ⟨_, ?_, b.data, 3, hpixmap _, hlength, hsize, fun _ _ => rfl⟩
      simp [encode, hformat, hcount, hbody, bind, Except.bind, pure, Except.pure]
    · have hsize : b.info.format.bytesPerPixel? = some 4 := by rw [hformat]; rfl
      obtain ⟨hbody, hpoints⟩ := withoutOpacity_spec (length_data_of_packed hb hsize).2
      refine ⟨_, ?_, _, 4, hpixmap _, hbody, hsize, hpoints⟩
      simp [encode, hformat, bind, Except.bind, pure, Except.pure]
  | pgm =>
    obtain hformat | hplanar : b.info.format = .rgb24 ∨
        b.info.format = .yuv420p ∨ b.info.format = .nv12 ∨ b.info.format = .nv21 := by
      simpa [supports, or_assoc] using hsupports
    · have hsize : b.info.format.bytesPerPixel? = some 3 := by rw [hformat]; rfl
      obtain ⟨hbody, hpoints⟩ := brightness_spec (length_data_of_packed hb hsize).2
      refine ⟨_, ?_, _, hgraymap _, hbody, ?_⟩
      · simp [encode, hformat, bind, Except.bind, pure, Except.pure]
      · rwa [if_pos hformat]
    · have hcolours : b.info.format ≠ .rgb24 := by
        intro hformat
        simp [hformat] at hplanar
      obtain ⟨hlength, hplane⟩ := plane_of_planar hb hplanar
      refine ⟨_, ?_, _, hgraymap _, List.length_take_of_le hlength, ?_⟩
      · obtain hformat | hformat | hformat := hplanar <;>
          simp [encode, hformat, bind, Except.bind, pure, Except.pure]
      · rwa [if_neg hcolours]

end FileFormat

/-! ### Writing one frame -/

namespace FileWriter

variable {w w' : FileWriter} {files files' : FileTree} {b : FrameBuffer}

/-- What can become of a frame: it is refused because of its format, or by the system, it gets a
file of its own, or its payload is written behind what was written before. -/
inductive Processed (w : FileWriter) (b : FrameBuffer) (files : FileTree) :
    Result Unit → FileWriter → FileTree → Prop
  | unsupported (hsupports : w.supports b.info.format = false) :
    Processed w b files
      (refuse (.frame s!"{w.format.name} output cannot encode {b.info.format.label}")) w files
  | refused (hsupports : w.supports b.info.format = true) (path : String) (f : FileFault) :
    Processed w b files (refuse (fault path f)) w files
  | numbered {bytes : List UInt8} {place : List String}
    (hsupports : w.supports b.info.format = true) (hsingle : w.singleFile = false)
    (hbytes : w.format.encode b = .ok bytes) (hrenders : w.format.Renders b bytes)
    (hleads : files.Leads (w.framePath w.written) place) :
    Processed w b files (.ok ()) { w with written := w.written + 1 }
      (files.put place (.file bytes))
  | appended {o : OpenFile} {opened : FileTree}
    (hsupports : w.supports b.info.format = true) (hsingle : w.singleFile = true)
    (hopen : w.openOutput files = .ok (o, opened)) :
    Processed w b files (.ok ())
      { w with
        output := some { o with offset := o.offset + b.data.length }
        written := w.written + 1 }
      (opened.writeAt o.place o.offset b.data)

lemma fault_of_openOutput {e : Error} (h : w.openOutput files = .error e) :
    ∃ f, e = fault w.path f := by
  unfold openOutput at h
  split at h
  · cases h
  · split at h
    · cases h
    · cases h
      exact ⟨_, rfl⟩

/-- Nothing else becomes of a frame. -/
theorem processed (w : FileWriter) (files : FileTree) (hb : b.Bound) :
    w.Processed b files (w.process b files).1 (w.process b files).2.1
      (w.process b files).2.2 := by
  cases hsupports : w.supports b.info.format with
  | false =>
    simp only [process, hsupports]
    exact .unsupported hsupports
  | true =>
    cases hsingle : w.singleFile with
    | false =>
      cases hcreate : files.createFile (w.framePath w.written) with
      | error f =>
        simp only [process, hsupports, write, hsingle, writeNumbered, hcreate]
        exact .refused hsupports _ f
      | ok made =>
        obtain ⟨place, opened⟩ := made
        obtain ⟨hleads, rfl⟩ := FileTree.createFile_eq_ok_iff.1 hcreate
        obtain ⟨bytes, hbytes, hrenders⟩ := FileFormat.encode_renders hb hsupports
        have h := Processed.numbered hsupports hsingle hbytes hrenders hleads
        simpa [process, hsupports, write, hsingle, writeNumbered, hcreate, hbytes] using h
    | true =>
      cases hopen : w.openOutput files with
      | error e =>
        obtain ⟨f, rfl⟩ := fault_of_openOutput hopen
        simp only [process, hsupports, write, hsingle, writeSingle, hopen]
        exact .refused hsupports _ f
      | ok made =>
        have h := Processed.appended hsupports hsingle hopen
        simpa [process, hsupports, write, hsingle, writeSingle, hopen] using h

/-- A frame is written as what it shows. Writing never aborts, and a frame whose format the output
cannot encode is refused at once. Any other frame can be encoded; if it is written, it is counted,
and the file of its number renders it, or its bare payload follows what is in the one file. -/
theorem process_spec (w : FileWriter) (files : FileTree) (hb : b.Bound) :
    (∀ p, (w.process b files).1 ≠ .error (.panic p)) ∧
      (w.supports b.info.format = false → w.process b files =
        (refuse (.frame s!"{w.format.name} output cannot encode {b.info.format.label}"),
          w, files)) ∧
      (w.supports b.info.format = true →
        ∃ bytes, w.format.encode b = .ok bytes ∧ w.format.Renders b bytes) ∧
      ∀ w' files', w.process b files = (.ok (), w', files') →
        w'.written = w.written + 1 ∧
        (w.singleFile = false → ∃ bytes, w.format.Renders b bytes ∧
          files'.find? (w.framePath w.written) = some (.file bytes)) ∧
        (w.singleFile = true → ∃ o opened, w.openOutput files = .ok (o, opened) ∧
          files' = opened.writeAt o.place o.offset b.data) := by
  have hprocessed := w.processed files hb
  refine ⟨fun p hpanic => ?_, fun hsupports => ?_, FileFormat.encode_renders hb,
    fun w' files' hwritten => ?_⟩
  · rw [hpanic] at hprocessed
    cases hprocessed
  · simp [process, hsupports]
  · rw [hwritten] at hprocessed
    cases hprocessed with
    | numbered _ hsingle _ hrenders hleads =>
      refine ⟨rfl, fun _ => ⟨_, hrenders, ?_⟩, fun hone => ?_⟩
      · exact (hleads.put_file hleads.free).find? (FileTree.node?_put_self hleads.ne_nil)
      · exact absurd (hsingle.symm.trans hone) (by decide)
    | appended _ hsingle hopen =>
      refine ⟨rfl, fun hmany => ?_, fun _ => ⟨_, _, hopen, rfl⟩⟩
      exact absurd (hsingle.symm.trans hmany) (by decide)

/-- A red point and a blue one. -/
def redBlue : FrameBuffer where
  region := ⟨[255, 0, 0, 0, 0, 255]⟩
  info := { width := 2, height := 1, stride := 6, format := .rgb24 }
  size := 6

lemma bound_redBlue : redBlue.Bound where
  payload := rfl
  fits := by decide
  addressable := by decide

/-- The second file of a writer that writes pixmaps holds what was written second. -/
theorem process_spec_redBlue :
    ∃ w' files', ({ path := "cap", format := .ppm, written := 1 } : FileWriter).process redBlue {} =
        (.ok (), w', files') ∧ w'.written = 2 ∧
      ∃ bytes, FileFormat.ppm.Renders redBlue bytes ∧
        files'.find? "cap_000001.ppm" = some (.file bytes) := by
  obtain ⟨-, -, -, hwritten⟩ :=
    process_spec { path := "cap", format := .ppm, written := 1 } {} bound_redBlue
  obtain ⟨hcount, hfile, -⟩ := hwritten _ _ rfl
  exact ⟨_, _, rfl, hcount, hfile rfl⟩

/-- A writer that was not allowed to put pixmaps into one file, and is used all the same, writes
bare payloads. -/
theorem payload_redBlue : ∃ w w' files',
    (configure {} (Dict.ofList [("path", "out"), ("format", "ppm"), ("single_file", "true")]) {}) =
      (.error (.invalidParameter "single_file" "only raw output can be appended to one file"),
        w, {}) ∧
    w.format = .ppm ∧ redBlue.Bound ∧ w.process redBlue {} = (.ok (), w', files') ∧
    files'.find? "out" = some (.file redBlue.data) ∧ PortableImage.read? redBlue.data = none := by
  exact ⟨_, _, _, rfl, rfl, bound_redBlue, rfl, rfl, rfl⟩

end FileWriter

end FrameGraph
