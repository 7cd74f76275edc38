import FrameGraph.Pipeline.Builtins
import FrameGraph.Proofs.Dictionaries
import FrameGraph.Proofs.Pipeline.Outcome

/-!
# Rows that are too long

The rows of a picture must fit a 32-bit word. A source computes their length when it is configured,
and nothing keeps it from asking for more: then the configuration is aborted. All other requests get
an answer, and the rows of a configured source have exactly the length that its format asks for.
-/

namespace FrameGraph

/-! ### Rows -/

namespace PixelFormat

variable {f : PixelFormat} {width stride : UInt32}

/-- The bytes in a row of the first plane. -/
def rowBytes (f : PixelFormat) (width : UInt32) : Nat :=
  match f.bytesPerPixel? with
  | some b => width.toNat * b
  | none => width.toNat

lemma defaultStride_eq (f : PixelFormat) (width : UInt32) : f.defaultStride width =
    if f.rowBytes width < Checked.word32 then .ok (UInt32.ofNat (f.rowBytes width))
    else .error .mulOverflow := by
  unfold defaultStride rowBytes
  cases f.bytesPerPixel? with
  | some b =>
    simp only [Checked.mul32, Checked.mul]
    split <;> rfl
  | none => simp [width.toNat_lt]

lemma defaultStride_eq_ok_iff :
    f.defaultStride width = .ok stride ↔ stride.toNat = f.rowBytes width := by
  rw [defaultStride_eq]
  split
  · rename_i h
    simp only [Except.ok.injEq]
    constructor
    · rintro rfl
      exact UInt32.toNat_ofNat_of_lt h
    · intro hstride
      rw [← hstride, UInt32.ofNat_toNat]
  · rename_i h
    have hlt : stride.toNat < Checked.word32 := stride.toNat_lt
    simp only [reduceCtorEq, false_iff]
    omega

lemma defaultStride_eq_error_iff {a : Panic} : f.defaultStride width = .error a ↔
    a = .mulOverflow ∧ Checked.word32 ≤ f.rowBytes width := by
  rw [defaultStride_eq]
  split
  · rename_i h
    simp only [reduceCtorEq, false_iff]
    omega
  · rename_i h
    simp [Nat.not_lt.1 h, eq_comm]

end PixelFormat

/-! ### Requests -/

/-- Parameters ask for a picture of this geometry; what is missing stays as it was. -/
structure Params.Asks (p : Params) (before info : FrameInfo) : Prop where
  width : ∃ w, p.read "width" word32 = .ok w ∧ info.width = w.getD before.width
  height : ∃ h, p.read "height" word32 = .ok h ∧ info.height = h.getD before.height
  format : ∃ f, p.read "format" (worded PixelFormat.read) = .ok f ∧
    info.format = f.getD before.format
  nonempty : info.width ≠ 0 ∧ info.height ≠ 0

/-- Parameters ask for a picture whose rows do not fit a 32-bit word. -/
def Params.Oversized (p : Params) (before : FrameInfo) : Prop :=
  ∃ info, p.Asks before info ∧ Checked.word32 ≤ info.format.rowBytes info.width

/-- Parameters ask for one geometry only. -/
lemma Params.Asks.oversized_iff {p : Params} {before info : FrameInfo} (h : p.Asks before info) :
    p.Oversized before ↔ Checked.word32 ≤ info.format.rowBytes info.width := by
  refine ⟨fun ⟨other, hother, hlong⟩ => ?_, fun hlong => ⟨info, h, hlong⟩⟩
  obtain ⟨w, hw, hwidth⟩ := h.width
  obtain ⟨w', hw', hwidth'⟩ := hother.width
  obtain ⟨f, hf, hformat⟩ := h.format
  obtain ⟨f', hf', hformat'⟩ := hother.format
  obtain rfl : w = w' := Except.ok.inj (hw.symm.trans hw')
  obtain rfl : f = f' := Except.ok.inj (hf.symm.trans hf')
  rwa [hwidth, hformat, ← hwidth', ← hformat']

/-- To be told its parameters never aborts a generator. -/
def Generator.Answers (γ : Type) [Generator γ] : Prop :=
  ∀ (g : γ) (p : Params) (info : FrameInfo) (a : Panic),
    (Generator.configure g p info).1 ≠ .error (.panic a)

/-- To be told its parameters never aborts a processor. -/
def Processor.Answers {ω : Type} (π : Type) [Processor ω π] : Prop :=
  ∀ (o : π) (p : Params) (info : FrameInfo) (w : ω) (a : Panic),
    (Processor.configure o p info w).1 ≠ .error (.panic a)

lemma mapError_ne_panic {α : Type} (r : Except Error α) (a : Panic) :
    r.mapError Fault.error ≠ .error (.panic a) := by
  cases r <;> simp [Except.mapError]

/-! ### Sources -/

namespace SourceBlock

variable {γ : Type} [Generator γ] {x : SourceBlock γ} {p : Params} {info : FrameInfo}
  {storage : Storage} {a : Panic}

/-- The geometry that is asked for decides, and whether the generator knows the format. -/
lemma readFormat_of_asks (h : p.Asks x.format info) : x.readFormat p =
    match info.format.defaultStride info.width with
    | .error a => .error (.panic a)
    | .ok stride =>
      if Generator.supports x.generator info.format then
        .ok { x.format with
          width := info.width, height := info.height, format := info.format, stride }
      else refuse (.invalidParameter "format"
        s!"{info.format.label} not supported by {x.core.typeName}") := by
  obtain ⟨⟨w, hw, hwidth⟩, ⟨h, hh, hheight⟩, ⟨f, hf, hformat⟩, hnonempty⟩ := h
  rw [hwidth, hheight] at hnonempty
  rw [hwidth, hheight, hformat]
  simp only [readFormat, bind, Except.bind, hw, hh, hf, Except.mapError, if_neg
    (not_or.2 hnonempty), pure, Except.pure]
  cases (f.getD x.format.format).defaultStride (w.getD x.format.width) with
  | error a => rfl
  | ok stride =>
    cases Generator.supports x.generator (f.getD x.format.format) <;> simp [Checked.lift, refuse]

/-- Without a geometry the parameters are refused. -/
lemma readFormat_of_not_asks (h : ∀ info, ¬p.Asks x.format info) :
    ∃ e, x.readFormat p = refuse e := by
  simp only [readFormat, bind, Except.bind]
  cases hw : p.read "width" Params.word32 with
  | error e => exact ⟨e, rfl⟩
  | ok w =>
    cases hh : p.read "height" Params.word32 with
    | error e => exact ⟨e, rfl⟩
    | ok h' =>
      cases hf : p.read "format" (Params.worded PixelFormat.read) with
      | error e => exact ⟨e, rfl⟩
      | ok f =>
        by_cases hempty : w.getD x.format.width = 0 ∨ h'.getD x.format.height = 0
        · exact ⟨_, by simp only [Except.mapError, if_pos hempty, refuse]; rfl⟩
        · rw [not_or] at hempty
          exact absurd ⟨⟨w, hw, rfl⟩, ⟨h', hh, rfl⟩, ⟨f, hf, rfl⟩, hempty⟩
            (h { x.format with width := w.getD _, height := h'.getD _, format := f.getD _ })

/-- Reading the geometry aborts if and only if its rows are too long. -/
lemma readFormat_eq_panic_iff :
    x.readFormat p = .error (.panic a) ↔ a = .mulOverflow ∧ p.Oversized x.format := by
  by_cases hasks : ∃ info, p.Asks x.format info
  · obtain ⟨info, hasks⟩ := hasks
    rw [readFormat_of_asks hasks, hasks.oversized_iff, ← PixelFormat.defaultStride_eq_error_iff]
    cases info.format.defaultStride info.width with
    | error b => simp
    | ok stride => cases Generator.supports x.generator info.format <;> simp [refuse]
  · obtain ⟨e, he⟩ := readFormat_of_not_asks (x := x) (not_exists.1 hasks)
    rw [he]
    refine iff_of_false (by simp [refuse]) fun hlong => ?_
    obtain ⟨-, info, hinfo, -⟩ := hlong
    exact hasks ⟨info, hinfo⟩

/-- A geometry that was read is the one that was asked for, with rows of the right length. -/
lemma asks_of_readFormat (h : x.readFormat p = .ok info) :
    p.Asks x.format info ∧ info.stride.toNat = info.format.rowBytes info.width := by
  by_cases hasks : ∃ info, p.Asks x.format info
  · obtain ⟨info', hasks⟩ := hasks
    rw [readFormat_of_asks hasks] at h
    cases hstride : info'.format.defaultStride info'.width with
    | error b => simp [hstride] at h
    | ok stride =>
      simp only [hstride] at h
      split at h
      · obtain rfl := Except.ok.inj h
        exact ⟨{ hasks with }, PixelFormat.defaultStride_eq_ok_iff.1 hstride⟩
      · cases h
  · obtain ⟨e, he⟩ := readFormat_of_not_asks (x := x) (not_exists.1 hasks)
    rw [he] at h
    cases h

/-- What comes after the geometry may be refused, but is never aborted. -/
lemma applyParameters_answers (hγ : Generator.Answers γ) (x : SourceBlock γ) (storage : Storage) :
    match x.readFormat x.core.params with
    | .error f => (x.applyParameters storage).1 = .error f
    | .ok format => (∃ e, (x.applyParameters storage).1 = refuse e) ∨
        ((x.applyParameters storage).1 = .ok () ∧
          (x.applyParameters storage).2.1.format = format) := by
  simp only [applyParameters, bind, Except.bind, pure, Except.pure]
  cases x.readFormat x.core.params with
  | error f => rfl
  | ok format =>
    cases readRate x.core.params with
    | error e => exact .inl ⟨e, rfl⟩
    | ok fps =>
      cases readPool x.core.params storage with
      | error e => exact .inl ⟨e, rfl⟩
      | ok opened =>
        cases x.core.params.read "cpu_core" Params.word64 with
        | error e => exact .inl ⟨e, rfl⟩
        | ok pinned =>
          have hanswers := hγ x.generator x.core.params format
          simp only [Except.mapError]
          revert hanswers
          cases Generator.configure x.generator x.core.params format with
          | mk r generator =>
            intro hanswers
            cases r with
            | error f =>
              cases f with
              | error e => exact .inl ⟨e, rfl⟩
              | panic a => exact absurd rfl (hanswers a)
            | ok _ =>
              dsimp only
              obtain ⟨r, x'⟩ := ({ x with generator } : SourceBlock γ).applyRate fps
              cases r with
              | error e => exact .inl ⟨e, rfl⟩
              | ok _ => exact .inr ⟨rfl, rfl⟩

/-- The geometry decides whether a configuration is aborted. -/
lemma configure_answers (hγ : Generator.Answers γ) (storage : Storage)
    (hstate : x.core.state ∈ [.uninitialized, .initialized]) :
    match x.readFormat x.core.params with
    | .error f => (x.configure storage).1 = .error f
    | .ok format => (∃ e, (x.configure storage).1 = refuse e) ∨
        ((x.configure storage).1 = .ok () ∧ (x.configure storage).2.1.format = format) := by
  have hanswers := x.applyParameters_answers hγ storage
  simp only [configure, BlockCore.require, if_pos hstate]
  revert hanswers
  cases x.applyParameters storage with
  | mk r rest =>
    obtain ⟨x', storage'⟩ := rest
    cases r with
    | ok _ => exact id
    | error f => cases f <;> exact id

/-- A configuration is aborted if and only if the rows that it asks for are too long. -/
theorem configure_eq_panic_iff (hγ : Generator.Answers γ)
    (hstate : x.core.state ∈ [.uninitialized, .initialized]) :
    (x.configure storage).1 = .error (.panic a) ↔
      a = .mulOverflow ∧ x.core.params.Oversized x.format := by
  rw [← readFormat_eq_panic_iff]
  have hanswers := configure_answers hγ storage hstate
  revert hanswers
  cases x.readFormat x.core.params with
  | error f =>
    intro hanswers
    rw [hanswers]
    simp
  | ok format =>
    intro hanswers
    refine iff_of_false (fun hpanic => ?_) (by simp)
    rcases hanswers with ⟨e, he⟩ | ⟨hok, -⟩
    · cases he.symm.trans hpanic
    · cases hok.symm.trans hpanic

/-- A configured source has the geometry that was asked for, with rows of the right length. -/
theorem asks_of_configure (hγ : Generator.Answers γ)
    (hstate : x.core.state ∈ [.uninitialized, .initialized])
    (hok : (x.configure storage).1 = .ok ()) :
    x.core.params.Asks x.format (x.configure storage).2.1.format ∧
      (x.configure storage).2.1.format.stride.toNat =
        (x.configure storage).2.1.format.format.rowBytes
          (x.configure storage).2.1.format.width := by
  have hanswers := configure_answers hγ storage hstate
  revert hanswers
  cases hread : x.readFormat x.core.params with
  | error f => exact fun hanswers => nomatch hok.symm.trans hanswers
  | ok format =>
    rintro (⟨e, he⟩ | ⟨-, hformat⟩)
    · cases hok.symm.trans he
    · rw [hformat]
      exact asks_of_readFormat hread

end SourceBlock

/-! ### Sinks -/

/-- The configuration of a sink is never aborted. -/
theorem SinkBlock.configure_ne_panic {ω π : Type} [Processor ω π] (hπ : Processor.Answers π)
    (y : SinkBlock π) (world : ω) (a : Panic) : (y.configure world).1 ≠ .error (.panic a) := by
  rw [fst_configure]
  split
  · unfold applyParameters
    cases Settings.read y.core.params with
    | error e => simp [refuse]
    | ok settings =>
      have hanswers := hπ y.processor y.core.params y.format world
      dsimp only
      revert hanswers
      cases Processor.configure y.processor y.core.params y.format world with
      | mk r rest =>
        intro hanswers
        cases r with
        | error f => exact fun hf => hanswers a (congrArg _ (Except.error.inj hf))
        | ok _ => exact mapError_ne_panic _ a
  · simp [refuse]

/-! ### The blocks at hand -/

lemma answers_testPattern : Generator.Answers TestPattern :=
  fun _ _ _ a => mapError_ne_panic _ a

lemma answers_output : Processor.Answers Output := by
  intro o p _ files a
  cases o <;> exact mapError_ne_panic _ a

/-- The blocks at hand are a source of test patterns and sinks. -/
lemma Registry.create_builtins {type : String} {w w' : FileTree} {b : Block TestPattern Output}
    (h : Registry.builtins.create type w = (.ok b, w')) :
    (type = "TestPatternSource" ∧ b = .source (.new type {})) ∨ ∃ o, b = .sink (.new type o) := by
  obtain ⟨c, hc, hb⟩ := create_ok h
  simp only [builtins, registerAll, Block.builtins, List.map_cons, List.map_nil, Dict.insertAll,
    List.foldl_cons, List.foldl_nil, Dict.get?_insert, Dict.get?_empty, id_eq] at hc
  have hmade {b' : Block TestPattern Output} (hb' : some (Constructor.always b') = some c) :
      b = b' := by
    cases hb'
    cases hb
    rfl
  split at hc
  · rename_i htype
    exact .inr ⟨_, htype ▸ hmade hc⟩
  split at hc
  · rename_i htype
    exact .inr ⟨_, htype ▸ hmade hc⟩
  split at hc
  · rename_i htype
    exact .inr ⟨_, htype ▸ hmade hc⟩
  split at hc
  · rename_i htype
    exact .inl ⟨htype, htype ▸ hmade hc⟩
  · cases hc

/-! ### Graphs -/

/-- The geometry that a source starts with. -/
def FrameInfo.usual : FrameInfo := { width := 640, height := 480, stride := 1920, format := .rgb24 }

/-- Of the blocks at hand only a source whose rows are too long aborts a configuration. -/
lemma FirstFailure.oversized {config : GraphConfig} {w : FileTree} {a : Panic}
    (h : FirstFailure Registry.builtins config w (.panic a)) : a = .mulOverflow ∧
      ∃ d ∈ config.blocks, d.type = "TestPatternSource" ∧ d.parameters.Oversized .usual := by
  generalize hfault : Fault.panic a = fault at h
  cases h with
  | duplicate => cases hfault
  | unmade => cases hfault
  | unlinked => cases hfault
  | @unfit done d rest bs bs₁ b bs₂ v u f _ hmade hdefs hbs hlength _ hd =>
    match f with
    | .error e => cases hfault
    | .panic a' =>
      obtain rfl : a = a' := Fault.panic.inj hfault
      have hmem : (d, b) ∈ config.blocks.zip bs := by
        rw [hdefs, hbs, List.zip_append hlength]
        simp
      obtain ⟨_, made, _, hcreate, rfl⟩ := Registry.create_of_makeAll hmade hmem
      rcases Registry.create_builtins hcreate with ⟨htype, rfl⟩ | ⟨o, rfl⟩
      · obtain ⟨ha, hlong⟩ := (SourceBlock.configure_eq_panic_iff answers_testPattern
          List.mem_cons_self).1 hd
        have hparams : (Params.extend .empty d.parameters).Oversized .usual := hlong
        rw [Params.extend, Dict.insertAll_entries] at hparams
        exact ⟨ha, d, by simp [hdefs], htype, hparams⟩
      · exact absurd hd (SinkBlock.configure_ne_panic answers_output _ u a)

namespace Pipeline

/-- Loading a graph of the blocks at hand is aborted only if the rows of a source are too long. -/
lemma load_answers (p : Pipeline FileTree TestPattern Output) (config : GraphConfig)
    (hregistry : p.registry = .builtins) :
    (load config).Meets (Apart p.network.blocks.length) (fun _ _ => True)
      (fun outcome _ => ∀ a, outcome = .error (.panic a) → a = .mulOverflow ∧
        ∃ d ∈ config.blocks, d.type = "TestPatternSource" ∧ d.parameters.Oversized .usual) p := by
  cases hrunning : p.running with
  | true =>
    refine (load_busy hrunning config).mono (fun _ _ => Apart.rest) (fun _ _ _ => trivial) ?_
    rintro outcome q ⟨rfl, -⟩ a hpanic
    cases hpanic
  | false =>
    refine (load_idle hrunning config).weaken ?_
    rintro outcome q ⟨-, hloads⟩ a rfl
    rw [Loads, hregistry] at hloads
    exact hloads.oversized

/-- Of the blocks at hand, a sink always answers when it is configured, and a source aborts if and
only if its rows would be too long. If it is configured, its rows have the length that its format
asks for. So a graph of such blocks is loaded or refused, unless a source in it asks for rows that
are too long. -/
theorem configuration_aborts_iff_oversized (x : SourceBlock TestPattern)
    (hstate : x.core.state ∈ [.uninitialized, .initialized]) (y : SinkBlock Output)
    (p : Pipeline FileTree TestPattern Output) (hregistry : p.registry = .builtins)
    (config : GraphConfig) :
    (∀ storage a, (x.configure storage).1 = .error (.panic a) ↔
      a = .mulOverflow ∧ x.core.params.Oversized x.format) ∧
    (∀ storage, (x.configure storage).1 = .ok () →
      x.core.params.Asks x.format (x.configure storage).2.1.format ∧
      (x.configure storage).2.1.format.stride.toNat =
        (x.configure storage).2.1.format.format.rowBytes
          (x.configure storage).2.1.format.width) ∧
    (∀ (files : FileTree) (a : Panic), (y.configure files).1 ≠ .error (.panic a)) ∧
    (load config).Meets (Apart p.network.blocks.length) (fun _ _ => True)
      (fun outcome _ => ∀ a, outcome = .error (.panic a) → a = .mulOverflow ∧
        ∃ d ∈ config.blocks, d.type = "TestPatternSource" ∧ d.parameters.Oversized .usual) p :=
  ⟨fun _ _ => SourceBlock.configure_eq_panic_iff answers_testPattern hstate,
    fun _ => SourceBlock.asks_of_configure answers_testPattern hstate,
    y.configure_ne_panic answers_output, load_answers p config hregistry⟩

/-- A source of test patterns with this width. -/
def patternSource (width : String) : SourceBlock TestPattern :=
  (SourceBlock.new "TestPatternSource" {}).mapCore fun c =>
    { c with params := .ofList [("width", width)] }

/-- A graph of one source of test patterns with this width. -/
def patternPlan (width : String) : GraphConfig where
  blocks := [⟨"src", "TestPatternSource", .ofList [("width", width)]⟩]

/-- Rows of four pixels have twelve bytes, and a graph of a sink is loaded or refused. -/
theorem configuration_aborts_iff_oversized_narrow :
    ((patternSource "4").configure {}).1 = .ok () ∧
    ((patternSource "4").configure {}).2.1.format.stride.toNat = PixelFormat.rgb24.rowBytes 4 ∧
    (load lone).Meets (Apart 0) (fun _ _ => True)
      (fun outcome _ => ∀ a, outcome ≠ .error (.panic a))
      (.new .builtins { home := [] } : Pipeline FileTree TestPattern Output) := by
  obtain ⟨-, hrows, -, hload⟩ := configuration_aborts_iff_oversized (patternSource "4")
    List.mem_cons_self (.new "NullSink" (.discard {})) (.new .builtins { home := [] }) rfl lone
  refine ⟨rfl, (hrows {} rfl).2, hload.weaken ?_⟩
  intro outcome _ haborts a hpanic
  obtain ⟨-, d, hd, htype, -⟩ := haborts a hpanic
  obtain rfl := List.mem_singleton.1 hd
  exact absurd htype (by decide)

/-- A width that can be read aborts the configuration of a source, and the loading of a graph, whose
blocks stay behind half built. -/
theorem not_answered_wide :
    Params.word32 "2000000000" = .ok 2000000000 ∧
    (patternSource "2000000000").core.state = .uninitialized ∧
    ((patternSource "2000000000").configure {}).1 = .error (.panic .mulOverflow) ∧
    ∀ progress, ∃ p, (load (patternPlan "2000000000")).run progress
        (.new .builtins { home := [] }) = (.error (.panic .mulOverflow), p) ∧
      p.blockNames = ["src"] ∧ p.network.stateOf 0 = .uninitialized :=
  ⟨rfl, rfl, rfl, fun _ => ⟨_, rfl, rfl, rfl⟩⟩

end Pipeline

end FrameGraph
