import FrameGraph.Proofs.Output.Encoding
import FrameGraph.Proofs.Text.Splitting

/-!
# Recordings

A writer that was configured is given frames one after the other. The frames that it cannot encode
are refused and leave no trace. All others are found afterwards: each in a file of its own, under
the number of those before it, or all in one file, one behind the other. Whatever else was there
stays as it was.
-/

namespace FrameGraph

/-! ### Numbers -/

namespace FileWriter

lemma ofDigitChars_replicate (count : Nat) (cs : List Char) :
    Nat.ofDigitChars 10 (List.replicate count '0' ++ cs) 0 = Nat.ofDigitChars 10 cs 0 := by
  induction count with
  | zero => rfl
  | succ count ih =>
    rw [List.replicate_succ, List.cons_append, Nat.ofDigitChars_cons]
    exact ih

/-- The digits of a number are read back as that number. -/
lemma ofDigitChars_sixDigits (n : Nat) : Nat.ofDigitChars 10 (sixDigits n).toList 0 = n := by
  rw [sixDigits, String.toList_ofList, ofDigitChars_replicate, Nat.ofDigitChars_ten_toDigits]

lemma six_le_length_sixDigits (n : Nat) : 6 ≤ (sixDigits n).length := by
  rw [← String.length_toList, sixDigits, String.toList_ofList, List.length_append,
    List.length_replicate]
  omega

lemma isDigit_of_mem_sixDigits {n : Nat} {c : Char} (h : c ∈ (sixDigits n).toList) :
    c.isDigit = true := by
  rw [sixDigits, String.toList_ofList, List.mem_append, List.mem_replicate] at h
  obtain ⟨-, rfl⟩ | h := h
  · decide
  · exact PortableImage.isDigit_of_mem_digits h

/-- What a number adds to a path. -/
def suffix (w : FileWriter) (index : Nat) : List Char :=
  '_' :: (sixDigits index).toList ++ '.' :: w.format.fileExtension.toList

variable {w w' : FileWriter} {i j : Nat}

lemma toList_framePath (w : FileWriter) (i : Nat) :
    (w.framePath i).toList = w.path.toList ++ w.suffix i := by
  simp [framePath, suffix, toString]

lemma suffix_injective (h : w.suffix i = w.suffix j) : i = j := by
  have hdigits : (sixDigits i).toList = (sixDigits j).toList :=
    List.append_cancel_right (List.cons.inj h).2
  rw [← ofDigitChars_sixDigits i, hdigits, ofDigitChars_sixDigits]

lemma slash_not_mem_suffix (w : FileWriter) (i : Nat) : '/' ∉ w.suffix i := by
  intro h
  simp only [suffix, List.cons_append, List.mem_cons, List.mem_append] at h
  obtain h | h | h | h := h
  · cases h
  · exact absurd (isDigit_of_mem_sixDigits h) (by decide)
  · cases h
  · cases hformat : w.format <;> rw [hformat] at h <;> revert h <;> decide

/-- Files with different numbers have different paths. -/
lemma framePath_injective (h : w.framePath i = w.framePath j) : i = j := by
  have hlists := congrArg String.toList h
  rw [toList_framePath, toList_framePath] at hlists
  exact suffix_injective (List.append_cancel_left hlists)

end FileWriter

/-! ### Parts of a path -/

namespace FileWriter

variable {w w' : FileWriter} {i j : Nat} {files files' : FileTree} {place : List String}

lemma getLast?_parts_framePath (w : FileWriter) : ∃ last, ∀ i,
    (Path.parts (w.framePath i)).getLast? = some (String.ofList (last ++ w.suffix i)) := by
  obtain ⟨above, last, hsplit⟩ := Text.splitAll_append '/' w.path.toList
  refine ⟨last, fun i => ?_⟩
  rw [Path.parts, toList_framePath, hsplit _ (w.slash_not_mem_suffix i)]
  simp [suffix]

/-- Files with different numbers are at different places. -/
lemma eq_of_leads (hi : files.Leads (w.framePath i) place)
    (hj : files'.Leads (w.framePath j) place) : i = j := by
  obtain ⟨last, hlast⟩ := w.getLast?_parts_framePath
  have hnames := hi.getLast?.symm.trans hj.getLast?
  rw [hlast, hlast, Option.some.injEq, String.ofList_inj] at hnames
  exact suffix_injective (List.append_cancel_left hnames)

/-! ### Runs -/

/-- Process frames one after the other. -/
def processAll : FileWriter → FileTree → List FrameBuffer →
    List (Result Unit) × FileWriter × FileTree
  | w, files, [] => ([], w, files)
  | w, files, b :: bs =>
    let (r, w, files) := w.process b files
    let (rs, w, files) := processAll w files bs
    (r :: rs, w, files)

/-- The answer to a frame when the system refuses nothing. -/
def answer (w : FileWriter) (b : FrameBuffer) : Result Unit :=
  if w.supports b.info.format then .ok ()
  else refuse (.frame s!"{w.format.name} output cannot encode {b.info.format.label}")

/-- The system refused to open a file. -/
def Faulty (r : Result Unit) : Prop := ∃ path f, r = refuse (fault path f)

lemma getLast?_label (f : PixelFormat) :
    ∃ c, f.label.toList.getLast? = some c ∧ c ≠ ')' ∧ c ≠ 'e' := by
  cases f <;> exact ⟨_, rfl, by decide⟩

lemma getLast?_message (f : FileFault) :
    ∃ c, f.message.toList.getLast? = some c ∧ (c = ')' ∨ c = 'e') := by
  cases f <;> exact ⟨_, rfl, by decide⟩

/-- To refuse a format is no fault of the system: the two texts end differently. -/
theorem not_faulty_answer (w : FileWriter) (b : FrameBuffer) : ¬ Faulty (w.answer b) := by
  rintro ⟨path, f, h⟩
  unfold answer at h
  split at h
  · cases h
  · have htext : s!"{w.format.name} output cannot encode {b.info.format.label}" =
        s!"{path}: {f.message}" := by simpa [refuse, fault] using h
    obtain ⟨c, hc, hclosing, hletter⟩ := getLast?_label b.info.format
    obtain ⟨d, hd, hend⟩ := getLast?_message f
    have hlast := congrArg (fun s => s.toList.getLast?) htext
    obtain rfl : c = d := by simpa [toString, List.getLast?_cons, hc, hd] using hlast
    exact hend.elim hclosing hletter

/-- A writer goes on with the same configuration. -/
structure Continues (w w' : FileWriter) : Prop where
  path : w'.path = w.path
  format : w'.format = w.format
  singleFile : w'.singleFile = w.singleFile

/-- The frames `kept` were written to numbered files, which render them, and nothing else. -/
structure Numbered (w : FileWriter) (before : FileTree) (kept : List FrameBuffer)
    (after : FileTree) : Prop where
  file : ∀ i b, kept[i]? = some b → ∃ bytes place, w.format.encode b = .ok bytes ∧
    w.format.Renders b bytes ∧ after.Leads (w.framePath i) place ∧
    after.node? place = some (.file bytes)
  others : ∀ place, (∀ i < kept.length, ¬ after.Leads (w.framePath i) place) →
    after.node? place = before.node? place

lemma Numbered.continues {before after : FileTree} {kept : List FrameBuffer}
    (h : w.Numbered before kept after) (hw : w.Continues w') : w'.Numbered before kept after := by
  cases w
  cases w'
  obtain ⟨rfl, rfl, rfl⟩ := hw
  exact ⟨h.file, h.others⟩

/-- The frames `kept` were written to one file, which is still open, and nothing else. -/
structure Appended (w : FileWriter) (before : FileTree) (kept : List FrameBuffer)
    (after : FileTree) : Prop where
  closed : kept = [] → w.output = none ∧ after = before
  file : kept ≠ [] → ∃ place, w.output = some ⟨place, (kept.flatMap FrameBuffer.data).length⟩ ∧
    after.Leads w.path place ∧ after.node? place = some (.file (kept.flatMap FrameBuffer.data)) ∧
    ∀ q, q ≠ place → after.node? q = before.node? q

/-- A writer has written the frames `kept`, all that it was given and could encode. -/
structure Records (w : FileWriter) (before : FileTree) (kept : List FrameBuffer)
    (after : FileTree) : Prop where
  count : w.written = kept.length
  numbered : w.singleFile = false → w.Numbered before kept after
  appended : w.singleFile = true → w.Appended before kept after

variable {before : FileTree} {kept : List FrameBuffer} {b : FrameBuffer}

lemma Numbered.step (h : w.Numbered before kept files) {bytes : List UInt8}
    (hbytes : w.format.encode b = .ok bytes) (hrenders : w.format.Renders b bytes)
    (hleads : files.Leads (w.framePath kept.length) place) :
    w.Numbered before (kept ++ [b]) (files.put place (.file bytes)) where
  file i b' hi := by
    rcases Nat.lt_trichotomy i kept.length with hlt | rfl | hgt
    · rw [List.getElem?_append_left hlt] at hi
      obtain ⟨bytes', place', hbytes', hrenders', hleads', hnode⟩ := h.file i b' hi
      -- a file that was written before has another number, so it is somewhere else
      have hne : place' ≠ place := by
        rintro rfl
        exact hlt.ne (eq_of_leads hleads' hleads)
      exact ⟨bytes', place', hbytes', hrenders', hleads'.put_file hleads.free,
        (FileTree.node?_put_of_ne hne).trans hnode⟩
    · obtain rfl : b = b' := by simpa using hi
      exact ⟨bytes, place, hbytes, hrenders, hleads.put_file hleads.free,
        FileTree.node?_put_self hleads.ne_nil⟩
    · have hlength : (kept ++ [b]).length ≤ i := by
        rw [List.length_append]
        exact hgt
      rw [List.getElem?_eq_none hlength] at hi
      cases hi
  others q hq := by
    have hne : q ≠ place := by
      rintro rfl
      exact hq kept.length (by simp) (hleads.put_file hleads.free)
    rw [FileTree.node?_put_of_ne hne]
    refine h.others q fun i hi hleads' => hq i ?_ (hleads'.put_file hleads.free)
    rw [List.length_append]
    exact Nat.lt_add_right _ hi

/-- The open file holds what was written to it, and the next bytes go behind that. -/
lemma Appended.opened (h : w.Appended before kept files) {o : OpenFile} {opened : FileTree}
    (hopen : w.openOutput files = .ok (o, opened)) :
    o.offset = (kept.flatMap FrameBuffer.data).length ∧ opened.Leads w.path o.place ∧
      opened.node? o.place = some (.file (kept.flatMap FrameBuffer.data)) ∧
      ∀ q, q ≠ o.place → opened.node? q = before.node? q := by
  -- the first frame makes the file, and all others find it open
  by_cases hkept : kept = []
  · obtain ⟨houtput, rfl⟩ := h.closed hkept
    simp only [openOutput, houtput] at hopen
    split at hopen
    · rename_i place _ hcreate
      cases hopen
      obtain ⟨hleads, rfl⟩ := FileTree.createFile_eq_ok_iff.1 hcreate
      simp only [hkept, List.flatMap_nil]
      exact ⟨rfl, hleads.put_file hleads.free, FileTree.node?_put_self hleads.ne_nil,
        fun q hq => FileTree.node?_put_of_ne hq⟩
    · cases hopen
  · obtain ⟨place, houtput, hleads, hnode, hothers⟩ := h.file hkept
    simp only [openOutput, houtput] at hopen
    cases hopen
    exact ⟨rfl, hleads, hnode, hothers⟩

lemma Appended.step (h : w.Appended before kept files) {o : OpenFile} {opened : FileTree}
    (hopen : w.openOutput files = .ok (o, opened)) (b : FrameBuffer) {count : Nat} :
    ({ w with output := some { o with offset := o.offset + b.data.length }, written := count } :
      FileWriter).Appended before (kept ++ [b]) (opened.writeAt o.place o.offset b.data) where
  closed hkept := by simp at hkept
  file _ := by
    obtain ⟨hoffset, hleads, hnode, hothers⟩ := h.opened hopen
    have hdata : (kept ++ [b]).flatMap FrameBuffer.data =
        kept.flatMap FrameBuffer.data ++ b.data := by simp
    rw [hoffset, FileTree.writeAt_end hnode, hdata, ← List.length_append]
    refine ⟨o.place, rfl, hleads.put_file hleads.free, FileTree.node?_put_self hleads.ne_nil,
      fun q hq => ?_⟩
    rw [FileTree.node?_put_of_ne hq, hothers q hq]

/-- A frame that can be encoded is kept, and any other leaves no trace. -/
theorem Records.step (h : w.Records before kept files) (hb : b.Bound)
    (hfault : ¬ Faulty (w.process b files).1) :
    (w.process b files).1 = w.answer b ∧ w.Continues (w.process b files).2.1 ∧
      (w.process b files).2.1.Records before (kept ++ [b].filter (w.supports ·.info.format))
        (w.process b files).2.2 := by
  have hprocessed := w.processed files hb
  generalize w.process b files = run at hfault hprocessed ⊢
  obtain ⟨r, w', files'⟩ := run
  dsimp only at hfault hprocessed ⊢
  cases hprocessed with
  | unsupported hsupports =>
    exact ⟨by simp [answer, hsupports], ⟨rfl, rfl, rfl⟩, by simpa [hsupports] using h⟩
  | refused _ path f => exact absurd ⟨path, f, rfl⟩ hfault
  | numbered hsupports hsingle hbytes hrenders hleads =>
    have hkept : [b].filter (w.supports ·.info.format) = [b] := by simp [hsupports]
    rw [h.count] at hleads
    rw [hkept]
    refine ⟨by simp [answer, hsupports], ⟨rfl, rfl, rfl⟩, by simp [h.count], fun _ => ?_,
      fun hone => ?_⟩
    · exact ((h.numbered hsingle).step hbytes hrenders hleads).continues ⟨rfl, rfl, rfl⟩
    · exact absurd (hsingle.symm.trans hone) (by decide)
  | appended hsupports hsingle hopen =>
    have hkept : [b].filter (w.supports ·.info.format) = [b] := by simp [hsupports]
    rw [hkept]
    refine ⟨by simp [answer, hsupports], ⟨rfl, rfl, rfl⟩, by simp [h.count], fun hmany => ?_,
      fun _ => (h.appended hsingle).step hopen b⟩
    exact absurd (hsingle.symm.trans hmany) (by decide)

lemma Continues.refl (w : FileWriter) : w.Continues w := ⟨rfl, rfl, rfl⟩

lemma Continues.symm (h : w.Continues w') : w'.Continues w :=
  ⟨h.path.symm, h.format.symm, h.singleFile.symm⟩

lemma Continues.trans {w'' : FileWriter} (h : w.Continues w') (h' : w'.Continues w'') :
    w.Continues w'' :=
  ⟨h'.path.trans h.path, h'.format.trans h.format, h'.singleFile.trans h.singleFile⟩

lemma Continues.supports (h : w.Continues w') (f : PixelFormat) :
    w'.supports f = w.supports f := by
  rw [FileWriter.supports, FileWriter.supports, h.format]

lemma Continues.answer (h : w.Continues w') (b : FrameBuffer) : w'.answer b = w.answer b := by
  rw [FileWriter.answer, FileWriter.answer, h.supports, h.format]

/-- All frames that can be encoded are kept, in their order. -/
lemma Records.processAll (h : w.Records before kept files) {bs : List FrameBuffer}
    (hbs : ∀ b ∈ bs, b.Bound) (hfault : ∀ r ∈ (w.processAll files bs).1, ¬ Faulty r) :
    (w.processAll files bs).1 = bs.map w.answer ∧
      w.Continues (w.processAll files bs).2.1 ∧
      (w.processAll files bs).2.1.Records before (kept ++ bs.filter (w.supports ·.info.format))
        (w.processAll files bs).2.2 := by
  -- the writer and what it kept so far stay general, since both change with each frame
  induction bs generalizing w kept files with
  | nil => exact ⟨rfl, .refl w, by simpa [FileWriter.processAll] using h⟩
  | cons b bs ih =>
    obtain ⟨hb, hbs⟩ := List.forall_mem_cons.1 hbs
    simp only [FileWriter.processAll] at hfault ⊢
    obtain ⟨hfirst, hfault⟩ := List.forall_mem_cons.1 hfault
    obtain ⟨hanswer, hcontinues, hrecords⟩ := h.step hb hfirst
    obtain ⟨hanswers, hcontinues', hrecords'⟩ := ih hrecords hbs hfault
    refine ⟨?_, hcontinues.trans hcontinues', ?_⟩
    · rw [hanswer, hanswers, funext hcontinues.answer, List.map_cons]
    · simp only [hcontinues.supports] at hrecords'
      rwa [List.append_assoc, ← List.filter_append] at hrecords'

/-! ### Recordings -/

/-- A writer that wrote nothing yet. -/
structure Unused (w : FileWriter) : Prop where
  count : w.written = 0
  output : w.output = none

/-- A configuration that succeeds opens no file, and allows only raw output in one file. -/
lemma Unused.configure {params : Params} (h : w.Unused)
    (hconfigure : w.configure params before = (.ok (), w', files)) :
    w'.Unused ∧ (w'.singleFile = true → w'.format = .raw) := by
  unfold FileWriter.configure at hconfigure
  split at hconfigure
  · cases hconfigure
  dsimp only at hconfigure
  split at hconfigure
  · cases hconfigure
  split at hconfigure
  · cases hconfigure
  · rename_i hraw
    obtain ⟨-, rfl, -⟩ := Prod.mk.inj hconfigure |>.imp_right Prod.mk.inj
    refine ⟨⟨h.count, h.output⟩, fun hsingle => ?_⟩
    dsimp only at hraw hsingle ⊢
    simpa [hsingle] using hraw

/-- Recordings are complete. A writer was configured, and the system refuses nothing. Then each
frame is answered by whether it can be encoded, and the number of frames written is that of those
that can be. Numbers have at least six digits, and no two give the same name. With numbers, the file
of each number holds the encoding of the frame that so many others came before, which is read back
as what that frame shows, and nothing else was written. Without, there is one file; after the first
frame it holds all payloads, one behind the other, and nothing else was written. -/
theorem recordings_complete {params : Params} (h : w.Unused)
    (hconfigure : w.configure params before = (.ok (), w', files)) {bs : List FrameBuffer}
    (hbs : ∀ b ∈ bs, b.Bound) (hfault : ∀ r ∈ (w'.processAll files bs).1, ¬ Faulty r) :
    let kept := bs.filter (w'.supports ·.info.format)
    let after := (w'.processAll files bs).2.2
    (w'.processAll files bs).1 = bs.map w'.answer ∧
      (w'.processAll files bs).2.1.written = kept.length ∧
      (∀ i, 6 ≤ (sixDigits i).length ∧ (∀ c ∈ (sixDigits i).toList, c.isDigit = true) ∧
        Nat.ofDigitChars 10 (sixDigits i).toList 0 = i) ∧
      (∀ i j, w'.framePath i = w'.framePath j → i = j) ∧
      (w'.singleFile = false →
        (∀ i b, kept[i]? = some b → ∃ bytes, w'.format.encode b = .ok bytes ∧
          w'.format.Renders b bytes ∧ after.find? (w'.framePath i) = some (.file bytes)) ∧
        ∀ place, (∀ i < kept.length, ¬ after.Leads (w'.framePath i) place) →
          after.node? place = files.node? place) ∧
      (w'.singleFile = true → w'.format = .raw ∧ (kept = [] → after = files) ∧
        (kept ≠ [] → ∃ place, after.Leads w'.path place ∧
          after.find? w'.path = some (.file (kept.flatMap FrameBuffer.data)) ∧
          ∀ q, q ≠ place → after.node? q = files.node? q)) := by
  obtain ⟨hunused, hraw⟩ := h.configure hconfigure
  have hempty : w'.Records files [] files :=
    ⟨hunused.count, fun _ => ⟨by simp, fun _ _ => rfl⟩,
      fun _ => ⟨fun _ => ⟨hunused.output, rfl⟩, fun hkept => absurd rfl hkept⟩⟩
  obtain ⟨hanswers, hcontinues, hrecords⟩ := hempty.processAll hbs hfault
  refine ⟨hanswers, hrecords.count, fun i => ⟨six_le_length_sixDigits i,
    fun _ => isDigit_of_mem_sixDigits, ofDigitChars_sixDigits i⟩,
    fun _ _ => framePath_injective, fun hmany => ?_, fun hone => ⟨hraw hone, ?_, ?_⟩⟩
  · have hnumbered := (hrecords.numbered (hcontinues.singleFile.trans hmany)).continues
      hcontinues.symm
    refine ⟨fun i b hi => ?_, hnumbered.others⟩
    obtain ⟨bytes, place, hbytes, hrenders, hleads, hnode⟩ := hnumbered.file i b hi
    exact ⟨bytes, hbytes, hrenders, hleads.find? hnode⟩
  · have happended := hrecords.appended (hcontinues.singleFile.trans hone)
    exact fun hkept => (happended.closed hkept).2
  · have happended := hrecords.appended (hcontinues.singleFile.trans hone)
    intro hkept
    obtain ⟨place, -, hleads, hnode, hothers⟩ := happended.file hkept
    rw [hcontinues.path] at hleads
    exact ⟨place, hleads, hleads.find? hnode, hothers⟩

/-- A writer that was told to write pixmaps into a directory. -/
def album : FileWriter := { path := "out/cap", format := .ppm }

/-- The directory alone. -/
def shelf : FileTree := { nodes := [(["out"], .directory)] }

lemma configure_album : configure {} (Dict.ofList [("path", "out/cap"), ("format", "ppm")]) {} =
    (.ok (), album, shelf) := rfl

/-- Between two frames comes one that cannot be encoded. -/
theorem recordings_complete_album :
    let run := album.processAll shelf [redBlue, FrameBuffer.twoPixels, redBlue]
    run.1 = [.ok (), refuse (.frame "Ppm output cannot encode YUV420P"), .ok ()] ∧
      run.2.1.written = 2 ∧ ∃ bytes, album.format.encode redBlue = .ok bytes ∧
        FileFormat.ppm.Renders redBlue bytes ∧
        run.2.2.find? "out/cap_000001.ppm" = some (.file bytes) := by
  have hbs : ∀ b ∈ [redBlue, FrameBuffer.twoPixels, redBlue], b.Bound := by
    simp [bound_redBlue, FrameBuffer.bound_twoPixels]
  have hanswers : (album.processAll shelf [redBlue, FrameBuffer.twoPixels, redBlue]).1 =
      [redBlue, FrameBuffer.twoPixels, redBlue].map album.answer := rfl
  have hfault : ∀ r ∈ (album.processAll shelf [redBlue, FrameBuffer.twoPixels, redBlue]).1,
      ¬ Faulty r := by
    rw [hanswers, List.forall_mem_map]
    exact fun b _ => album.not_faulty_answer b
  obtain ⟨hresults, hcount, -, -, hfiles, -⟩ :=
    recordings_complete ⟨rfl, rfl⟩ configure_album hbs hfault
  exact ⟨hresults, hcount, (hfiles rfl).1 1 redBlue rfl⟩

end FileWriter

end FrameGraph
