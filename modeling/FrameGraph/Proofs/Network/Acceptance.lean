import FrameGraph.Network.Lifecycle
import FrameGraph.Proofs.Block.Parameters
import FrameGraph.Proofs.Pattern.Buffers
import FrameGraph.Proofs.Pipeline.Overflow

/-!
# Which parameters are accepted

A block that is configured takes all of its settings over, or none. Which parameters it accepts is a
matter of each parameter by itself and of the generator or processor, so the order of the checks
shows only in the message of a refusal. Of a block that refuses nothing but the generator or
processor may have changed, besides its state and the message.
-/

namespace FrameGraph

open Params (IsWord32 IsWord64 IsSwitch)

variable {γ π ω : Type}

/-- The storage with one more pool. -/
def Storage.withPool (storage : Storage) (limit : Nat) : Storage :=
  { storage with pools := storage.pools ++ [{ number := storage.pools.length, limit }] }

/-! ### Sources -/

namespace SourceBlock

/-- The settings of a source in its parameters. -/
structure Settings where
  width : UInt32
  height : UInt32
  format : PixelFormat
  rate : Option Float
  buffers : Nat
  pinned : Option Nat

/-- The geometry that a source settles on. -/
def Settings.settle (c : Settings) (before : FrameInfo) : FrameInfo :=
  { before with
    width := c.width
    height := c.height
    format := c.format
    stride := UInt32.ofNat (c.format.rowBytes c.width) }

/-- The parameters of a source are valid and say these settings. -/
structure Valid [Generator γ] (x : SourceBlock γ) (c : Settings) : Prop where
  width : ∃ w, x.core.params.Gives "width" IsWord32 w ∧ c.width = w.getD x.format.width
  height : ∃ h, x.core.params.Gives "height" IsWord32 h ∧ c.height = h.getD x.format.height
  nonempty : c.width ≠ 0 ∧ c.height ≠ 0
  format : ∃ f, x.core.params.Gives "format" (fun s f => PixelFormat.read s = .ok f) f ∧
    c.format = f.getD x.format.format
  supported : Generator.supports x.generator c.format = true
  rate : x.core.params.Gives "fps" (fun s fps => Decimal.readFloat s = .ok fps) c.rate
  rateRange : ∀ fps ∈ c.rate, 0 < fps ∧ fps ≤ SourceEngine.maxRate
  buffers : ∃ n, x.core.params.Gives "buffer_count" IsWord64 n ∧
    c.buffers = n.getD defaultBuffers
  buffersRange : 1 ≤ c.buffers ∧ c.buffers ≤ BufferPool.maxBuffers
  pinned : x.core.params.Gives "cpu_core" IsWord64 c.pinned
  generator : (Generator.configure x.generator x.core.params (c.settle x.format)).1 = .ok ()

/-- The source when it has taken its settings over. -/
def configured (x : SourceBlock γ) (c : Settings) (generator : γ) (pool : Nat) : SourceBlock γ :=
  { x with
    generator
    format := c.settle x.format
    pool := some pool
    pinned := c.pinned
    engine := { x.engine with
      fps := c.rate.getD x.engine.fps
      interval := (c.rate.map SourceEngine.intervalOf).getD x.engine.interval
      core := { x.engine.core with state := .initialized } } }

/-- The source when it has refused its parameters. -/
def refused (x : SourceBlock γ) (generator : γ) (e : Error) : SourceBlock γ :=
  { x with
    generator
    engine := { x.engine with
      core := { x.engine.core with state := .error, lastError := e.message } } }

variable {x : SourceBlock γ} {p : Params} {c : Settings} {storage : Storage}

lemma readRate_eq_ok_iff {rate : Option Float} : readRate p = .ok rate ↔
    p.Gives "fps" (fun s fps => Decimal.readFloat s = .ok fps) rate ∧
      ∀ fps ∈ rate, 0 < fps ∧ fps ≤ SourceEngine.maxRate := by
  have hread (v : Option Float) : p.read "fps" Params.float = .ok v ↔
      p.Gives "fps" (fun s fps => Decimal.readFloat s = .ok fps) v :=
    Params.read_eq_ok_iff fun s a => Params.mapError_eq_ok_iff
  have hrange (fps : Float) : SourceEngine.isRate fps = true ↔
      0 < fps ∧ fps ≤ SourceEngine.maxRate := by
    simp [SourceEngine.isRate]
  rw [← hread, readRate, bind_eq_ok]
  constructor
  · rintro ⟨v, hv, h⟩
    cases v with
    | none =>
      cases h
      exact ⟨hv, by simp⟩
    | some fps =>
      dsimp only at h
      split at h
      · rename_i hfps
        cases h
        simpa [hv] using (hrange fps).1 hfps
      · cases h
  · rintro ⟨hv, hfps⟩
    refine ⟨rate, hv, ?_⟩
    cases rate with
    | none => rfl
    | some fps => exact if_pos ((hrange fps).2 (hfps fps rfl))

lemma readPool_eq_ok_iff {opened : Nat × Storage} : readPool p storage = .ok opened ↔
    ∃ count, (∃ n, p.Gives "buffer_count" IsWord64 n ∧ count = n.getD defaultBuffers) ∧
      (1 ≤ count ∧ count ≤ BufferPool.maxBuffers) ∧
        opened = (storage.pools.length, storage.withPool count) := by
  have hread (v : Option Nat) : p.read "buffer_count" Params.word64 = .ok v ↔
      p.Gives "buffer_count" IsWord64 v := Params.read_eq_ok_iff fun s a => Params.word64_eq_ok_iff
  have hopen (count : Nat) : storage.openPool count = .ok opened ↔
      (1 ≤ count ∧ count ≤ BufferPool.maxBuffers) ∧
        opened = (storage.pools.length, storage.withPool count) := by
    rw [Storage.openPool, BufferPool.new]
    split
    · rename_i hcount
      refine iff_of_false (by simp [Except.map]) fun h => ?_
      omega
    · rename_i hcount
      have hrange : 1 ≤ count ∧ count ≤ BufferPool.maxBuffers := by omega
      simp [Except.map, hrange, Storage.withPool, eq_comm]
  rw [readPool, bind_eq_ok]
  constructor
  · rintro ⟨n, hn, h⟩
    exact ⟨_, ⟨n, (hread n).1 hn, rfl⟩, (hopen _).1 h⟩
  · rintro ⟨_, ⟨n, hn, rfl⟩, h⟩
    exact ⟨n, (hread n).2 hn, (hopen _).2 h⟩

lemma applyRate_eq {rate : Option Float}
    (h : ∀ fps ∈ rate, 0 < fps ∧ fps ≤ SourceEngine.maxRate) :
    x.applyRate rate = (.ok (), { x with
      engine := { x.engine with
        fps := rate.getD x.engine.fps
        interval := (rate.map SourceEngine.intervalOf).getD x.engine.interval } }) := by
  cases rate with
  | none => rfl
  | some fps =>
    have hfps : SourceEngine.isRate fps = true := by
      simpa [SourceEngine.isRate] using h fps rfl
    simp only [applyRate, SourceEngine.setRate, hfps, if_true, Option.getD_some, Option.map_some]

lemma applyRate_of_error {rate : Option Float} {e : Error} (h : (x.applyRate rate).1 = .error e) :
    (x.applyRate rate).2 = x := by
  cases rate with
  | none => cases h
  | some fps =>
    simp only [applyRate, SourceEngine.setRate] at h ⊢
    split
    · rename_i hfps
      simp [hfps] at h
    · rfl

/-- Asking for a geometry is giving its parts. -/
lemma asks_iff {before info : FrameInfo} : p.Asks before info ↔
    (∃ w, p.Gives "width" IsWord32 w ∧ info.width = w.getD before.width) ∧
      (∃ h, p.Gives "height" IsWord32 h ∧ info.height = h.getD before.height) ∧
      (∃ f, p.Gives "format" (fun s f => PixelFormat.read s = .ok f) f ∧
        info.format = f.getD before.format) ∧ info.width ≠ 0 ∧ info.height ≠ 0 := by
  have hword (key : String) (v : Option UInt32) : p.read key Params.word32 = .ok v ↔
      p.Gives key IsWord32 v := Params.read_eq_ok_iff fun s a => Params.word32_eq_ok_iff
  have hformat (v : Option PixelFormat) :
      p.read "format" (Params.worded PixelFormat.read) = .ok v ↔
        p.Gives "format" (fun s f => PixelFormat.read s = .ok f) v :=
    Params.read_eq_ok_iff fun s a => Params.mapError_eq_ok_iff
  simp only [← hword, ← hformat]
  exact ⟨fun h => ⟨h.width, h.height, h.format, h.nonempty⟩,
    fun ⟨hw, hh, hf, hne⟩ => ⟨hw, hh, hf, hne⟩⟩

variable [Generator γ]

/-- A geometry is read if it is asked for, its rows can be counted, and its format is known. -/
lemma readFormat_eq_ok_iff {info : FrameInfo} : x.readFormat p = .ok info ↔
    p.Asks x.format info ∧ info.format.rowBytes info.width < Checked.word32 ∧
      Generator.supports x.generator info.format = true ∧
      info = { x.format with
        width := info.width
        height := info.height
        format := info.format
        stride := UInt32.ofNat (info.format.rowBytes info.width) } := by
  constructor
  · intro h
    obtain ⟨hasks, hstride⟩ := asks_of_readFormat h
    have hrows : info.format.rowBytes info.width < Checked.word32 := hstride ▸ info.stride.toNat_lt
    rw [readFormat_of_asks hasks, PixelFormat.defaultStride_eq, if_pos hrows] at h
    dsimp only at h
    split at h
    · rename_i hsupports
      exact ⟨hasks, hrows, hsupports, (Except.ok.inj h).symm⟩
    · cases h
  · rintro ⟨hasks, hrows, hsupports, hinfo⟩
    rw [readFormat_of_asks hasks, PixelFormat.defaultStride_eq, if_pos hrows]
    simp only [hsupports, if_true]
    rw [← hinfo]

lemma Valid.readFormat (h : x.Valid c) (hrows : c.format.rowBytes c.width < Checked.word32) :
    x.readFormat x.core.params = .ok (c.settle x.format) :=
  readFormat_eq_ok_iff.2 ⟨asks_iff.2 ⟨h.width, h.height, h.format, h.nonempty⟩, hrows, h.supported,
    rfl⟩

lemma read_pinned_eq_ok_iff {pinned : Option Nat} :
    p.read "cpu_core" Params.word64 = .ok pinned ↔ p.Gives "cpu_core" IsWord64 pinned :=
  Params.read_eq_ok_iff fun _ _ => Params.word64_eq_ok_iff

/-- Valid parameters are taken over. -/
lemma configure_of_valid (storage : Storage)
    (hstate : x.core.state ∈ [.uninitialized, .initialized]) (h : x.Valid c)
    (hrows : c.format.rowBytes c.width < Checked.word32) :
    x.configure storage = (.ok (),
      x.configured c (Generator.configure x.generator x.core.params (c.settle x.format)).2
        storage.pools.length,
      storage.withPool c.buffers, none) := by
  have hrate := readRate_eq_ok_iff.2 ⟨h.rate, h.rateRange⟩
  have hpool : readPool x.core.params storage =
      .ok (storage.pools.length, storage.withPool c.buffers) :=
    readPool_eq_ok_iff.2 ⟨_, h.buffers, h.buffersRange, rfl⟩
  have hpinned := read_pinned_eq_ok_iff.2 h.pinned
  have hgenerator : Generator.configure x.generator x.core.params (c.settle x.format) =
      (.ok (), (Generator.configure x.generator x.core.params (c.settle x.format)).2) :=
    Prod.ext h.generator rfl
  rw [configure, BlockCore.require, if_pos hstate]
  simp only [applyParameters, bind, Except.bind, pure, Except.pure, h.readFormat hrows, hrate,
    hpool, hpinned, Except.mapError]
  rw [hgenerator]
  simp only [applyRate_eq h.rateRange]
  rfl

/-- Valid parameters whose rows are too long are not answered. -/
lemma configure_of_long (hstate : x.core.state ∈ [.uninitialized, .initialized]) (h : x.Valid c)
    (hrows : ¬ c.format.rowBytes c.width < Checked.word32) :
    (x.configure storage).1 = .error (.panic .mulOverflow) := by
  have hasks : x.core.params.Asks x.format (c.settle x.format) :=
    asks_iff.2 ⟨h.width, h.height, h.format, h.nonempty⟩
  have hread : x.readFormat x.core.params = .error (.panic .mulOverflow) := by
    have hlong : ¬ (c.settle x.format).format.rowBytes (c.settle x.format).width <
      Checked.word32 := hrows
    rw [readFormat_of_asks hasks, PixelFormat.defaultStride_eq, if_neg hlong]
  simp only [configure, BlockCore.require, if_pos hstate, applyParameters, bind, Except.bind, hread]

lemma applyParameters_eq_ok (h : (x.applyParameters storage).1 = .ok ()) :
    ∃ c, x.Valid c := by
  simp only [applyParameters] at h
  split at h
  · cases h
  rename_i format rate pool opened pinned hread
  obtain ⟨_, hformat, hread⟩ := bind_eq_ok.1 hread
  obtain ⟨_, hrate, hread⟩ := bind_eq_ok.1 hread
  obtain ⟨_, hpool, hread⟩ := bind_eq_ok.1 hread
  obtain ⟨_, hpinned, hread⟩ := bind_eq_ok.1 hread
  cases hread
  obtain ⟨hasks, -, hsupports, hinfo⟩ := readFormat_eq_ok_iff.1 hformat
  obtain ⟨hgives, hrange⟩ := readRate_eq_ok_iff.1 (Params.mapError_eq_ok_iff.1 hrate)
  obtain ⟨count, hcount, hcounted, -⟩ :=
    readPool_eq_ok_iff.1 (Params.mapError_eq_ok_iff.1 hpool)
  have hpinned := read_pinned_eq_ok_iff.1 (Params.mapError_eq_ok_iff.1 hpinned)
  obtain ⟨hwidth, hheight, hformat, hnonempty⟩ := asks_iff.1 hasks
  have hgenerator : (Generator.configure x.generator x.core.params format).1 = .ok () := by
    split at h
    · cases h
    · rename_i heq
      exact congrArg Prod.fst heq
  refine ⟨⟨format.width, format.height, format.format, rate, count, pinned⟩,
    ⟨hwidth, hheight, hnonempty, hformat, hsupports, hgives, hrange, hcount, hcounted, hpinned, ?_⟩⟩
  rw [Settings.settle, ← hinfo]
  exact hgenerator

/-- Parameters that are refused, or aborted, change nothing but the generator. -/
lemma applyParameters_of_error {f : Fault} (h : (x.applyParameters storage).1 = .error f) :
    ∃ generator, x.applyParameters storage = (.error f, { x with generator }, storage) := by
  simp only [applyParameters] at h ⊢
  split at h
  · rename_i heq
    cases h
    exact ⟨x.generator, rfl⟩
  split at h
  · rename_i generator _
    cases h
    exact ⟨generator, rfl⟩
  rename_i rate _ _ _ _ _ generator _
  split at h
  · rename_i e x' hrate
    have hunchanged := applyRate_of_error (congrArg Prod.fst hrate)
    cases h
    rw [hrate] at hunchanged
    exact ⟨generator, by rw [← hunchanged]; rfl⟩
  · cases h

lemma valid_of_configure (hstate : x.core.state ∈ [.uninitialized, .initialized])
    (h : (x.configure storage).1 = .ok ()) : ∃ c, x.Valid c := by
  simp only [configure, BlockCore.require, if_pos hstate] at h
  split at h
  · rename_i heq
    exact applyParameters_eq_ok (congrArg Prod.fst heq)
  · cases h
  · cases h

lemma configure_of_refused (hstate : x.core.state ∈ [.uninitialized, .initialized]) {e : Error}
    (h : (x.configure storage).1 = refuse e) :
    ∃ generator, x.configure storage = (refuse e, x.refused generator e, storage,
      x.core.listener.map fun l => ⟨l, x.core.name, .error, e.message⟩) := by
  simp only [configure, BlockCore.require, if_pos hstate] at h ⊢
  split at h
  · cases h
  · rename_i e' x' storage' heq
    cases h
    obtain ⟨generator, hunchanged⟩ := applyParameters_of_error (congrArg Prod.fst heq)
    rw [heq] at hunchanged
    cases hunchanged
    exact ⟨generator, rfl⟩
  · cases h

end SourceBlock

/-! ### Sinks -/

namespace SinkBlock

/-- The parameters of a sink are valid and say these settings. -/
structure Valid [Processor ω π] (y : SinkBlock π) (world : ω) (c : Settings) : Prop where
  depth : ∃ n, y.core.params.Gives "queue_depth" IsWord64 n ∧
    c.depth = n.getD SinkEngine.defaultDepth
  depthRange : 1 ≤ c.depth ∧ c.depth ≤ SinkEngine.depthLimit
  policy : ∃ blocking, y.core.params.Gives "blocking" IsSwitch blocking ∧
    c.policy = if blocking.getD true then .block else .dropOldest
  pinned : y.core.params.Gives "cpu_core" IsWord64 c.pinned
  processor : (Processor.configure y.processor y.core.params y.format world).1 = .ok ()

/-- The sink when it has taken its settings over. Producers that wait for room look again. -/
def configured (y : SinkBlock π) (c : Settings) (processor : π) : SinkBlock π :=
  { y with
    processor
    pinned := c.pinned
    engine := { y.engine with
      maxDepth := c.depth
      policy := c.policy
      waiting := []
      woken := y.engine.woken ++ y.engine.waiting
      core := { y.engine.core with state := .initialized } } }

/-- The sink when it has refused its parameters. -/
def refused (y : SinkBlock π) (processor : π) (e : Error) : SinkBlock π :=
  { y with
    processor
    engine := { y.engine with
      core := { y.engine.core with state := .error, lastError := e.message } } }

variable [Processor ω π] {y : SinkBlock π} {p : Params} {c : Settings} {world : ω}

lemma read_eq_ok_iff : Settings.read p = .ok c ↔
    (∃ n, p.Gives "queue_depth" IsWord64 n ∧ c.depth = n.getD SinkEngine.defaultDepth) ∧
      (∃ blocking, p.Gives "blocking" IsSwitch blocking ∧
        c.policy = if blocking.getD true then .block else .dropOldest) ∧
      p.Gives "cpu_core" IsWord64 c.pinned := by
  have hread (key : String) (v : Option Nat) : p.read key Params.word64 = .ok v ↔
      p.Gives key IsWord64 v := Params.read_eq_ok_iff fun s a => Params.word64_eq_ok_iff
  simp only [← hread, ← Params.readBool_eq_ok_iff]
  rw [Settings.read, bind_eq_ok]
  constructor
  · rintro ⟨n, hn, h⟩
    obtain ⟨blocking, hblocking, h⟩ := bind_eq_ok.1 h
    obtain ⟨pinned, hpinned, h⟩ := bind_eq_ok.1 h
    cases h
    exact ⟨⟨n, hn, rfl⟩, ⟨blocking, hblocking, rfl⟩, hpinned⟩
  · rintro ⟨⟨n, hn, hdepth⟩, ⟨blocking, hblocking, hpolicy⟩, hpinned⟩
    refine ⟨n, hn, bind_eq_ok.2 ⟨blocking, hblocking, bind_eq_ok.2 ⟨c.pinned, hpinned, ?_⟩⟩⟩
    rw [← hdepth, ← hpolicy]
    rfl

lemma apply_of_range {settings : Settings}
    (h : 1 ≤ settings.depth ∧ settings.depth ≤ SinkEngine.depthLimit) :
    y.apply settings = (.ok (), { y with
      pinned := settings.pinned
      engine := { y.engine with
        maxDepth := settings.depth
        policy := settings.policy
        waiting := []
        woken := y.engine.woken ++ y.engine.waiting } }) := by
  simp only [apply, SinkEngine.setMaxDepth, if_pos h, SinkEngine.setPolicy,
    SinkEngine.notifyProducers, List.append_nil]

lemma apply_of_not_range {settings : Settings}
    (h : ¬ (1 ≤ settings.depth ∧ settings.depth ≤ SinkEngine.depthLimit)) :
    ∃ e, y.apply settings = (.error e, y) := by
  simp only [apply, SinkEngine.setMaxDepth, if_neg h]
  exact ⟨_, rfl⟩

/-- Valid parameters are taken over. -/
lemma configure_of_valid (hstate : y.core.state ∈ [.uninitialized, .initialized])
    (h : y.Valid world c) :
    y.configure world = (.ok (),
      y.configured c (Processor.configure y.processor y.core.params y.format world).2.1,
      (Processor.configure y.processor y.core.params y.format world).2.2, none) := by
  have hread := read_eq_ok_iff.2 ⟨h.depth, h.policy, h.pinned⟩
  have hprocessor : Processor.configure y.processor y.core.params y.format world =
      (.ok (), (Processor.configure y.processor y.core.params y.format world).2) :=
    Prod.ext h.processor rfl
  rw [configure, BlockCore.require, if_pos hstate]
  simp only [applyParameters, hread]
  rw [hprocessor]
  simp only [apply_of_range h.depthRange]
  rfl

lemma applyParameters_eq_ok (h : (y.applyParameters world).1 = .ok ()) : ∃ c, y.Valid world c := by
  simp only [applyParameters] at h
  split at h
  · cases h
  rename_i c hread
  obtain ⟨hdepth, hpolicy, hpinned⟩ := read_eq_ok_iff.1 hread
  split at h
  · cases h
  rename_i processor world' heq
  have hrange : 1 ≤ c.depth ∧ c.depth ≤ SinkEngine.depthLimit := by
    by_contra hrange
    obtain ⟨e, he⟩ := apply_of_not_range (y := { y with processor }) hrange
    simp [he, Except.mapError] at h
  exact ⟨c, hdepth, hrange, hpolicy, hpinned, congrArg Prod.fst heq⟩

/-- Parameters that are refused, or aborted, change nothing but the processor and its world. -/
lemma applyParameters_of_error {f : Fault} (h : (y.applyParameters world).1 = .error f) :
    ∃ processor world', y.applyParameters world = (.error f, { y with processor }, world') := by
  simp only [applyParameters] at h ⊢
  split at h
  · cases h
    exact ⟨y.processor, world, rfl⟩
  rename_i c hread
  split at h
  · rename_i processor world' _
    cases h
    exact ⟨processor, world', rfl⟩
  rename_i processor world' _
  by_cases hrange : 1 ≤ c.depth ∧ c.depth ≤ SinkEngine.depthLimit
  · simp [apply_of_range hrange, Except.mapError] at h
  · obtain ⟨e, he⟩ := apply_of_not_range (y := { y with processor }) hrange
    simp only [he, Except.mapError, Except.error.injEq] at h ⊢
    subst h
    exact ⟨processor, world', rfl⟩

lemma valid_of_configure (hstate : y.core.state ∈ [.uninitialized, .initialized])
    (h : (y.configure world).1 = .ok ()) : ∃ c, y.Valid world c := by
  simp only [configure, BlockCore.require, if_pos hstate] at h
  split at h
  · rename_i heq
    exact applyParameters_eq_ok (congrArg Prod.fst heq)
  · cases h
  · cases h

lemma configure_of_refused (hstate : y.core.state ∈ [.uninitialized, .initialized]) {e : Error}
    (h : (y.configure world).1 = refuse e) :
    ∃ processor world', y.configure world = (refuse e, y.refused processor e, world',
      y.core.listener.map fun l => ⟨l, y.core.name, .error, e.message⟩) := by
  simp only [configure, BlockCore.require, if_pos hstate] at h ⊢
  split at h
  · cases h
  · rename_i e' y' world' heq
    cases h
    obtain ⟨processor, world'', hunchanged⟩ := applyParameters_of_error (congrArg Prod.fst heq)
    rw [heq] at hunchanged
    cases hunchanged
    exact ⟨processor, world', rfl⟩
  · cases h

end SinkBlock

/-! ### In a network -/

namespace Network

variable [Generator γ] [Processor ω π] {s : Network ω γ π} {i : Nat}

lemma configureEngine_source {x : SourceBlock γ} (h : s.block? i = some (.source x)) :
    configureEngine i s = ((x.configure s.storage).1,
      ({ s with storage := (x.configure s.storage).2.2.1 }.setSource i
        (x.configure s.storage).2.1).hear (x.configure s.storage).2.2.2) := by
  rw [configureEngine, h]

lemma configureEngine_sink {y : SinkBlock π} (h : s.block? i = some (.sink y)) :
    configureEngine i s = ((y.configure s.world).1,
      ({ s with world := (y.configure s.world).2.2.1 }.setSink i
        (y.configure s.world).2.1).hear (y.configure s.world).2.2.2) := by
  rw [configureEngine, h]

/-- A source or sink that answers accepts its parameters if and only if they are valid. Then all of
its settings are those that the parameters say, and the block is initialized. If it refuses them,
then it keeps its settings, fails with the text of the refusal, and its listener is told once. -/
theorem configureEngine_spec (s : Network ω γ π) (i : Nat) :
    (∀ x : SourceBlock γ, s.block? i = some (.source x) →
      x.core.state ∈ [.uninitialized, .initialized] →
      (∀ a, (configureEngine i s).1 ≠ .error (.panic a)) →
      ((configureEngine i s).1 = .ok () ↔ ∃ c, x.Valid c) ∧
      (∀ c, x.Valid c → c.format.rowBytes c.width < Checked.word32 ∧ ∃ generator,
        Generator.configure x.generator x.core.params (c.settle x.format) = (.ok (), generator) ∧
        configureEngine i s = (.ok (), (s.mapStorage (·.withPool c.buffers)).setSource i
          (x.configured c generator s.storage.pools.length))) ∧
      ∀ e, (configureEngine i s).1 = refuse e → ∃ generator,
        configureEngine i s = (refuse e, (s.setSource i (x.refused generator e)).hear
          (x.core.listener.map fun l => ⟨l, x.core.name, .error, e.message⟩))) ∧
    ∀ y : SinkBlock π, s.block? i = some (.sink y) →
      y.core.state ∈ [.uninitialized, .initialized] →
      (∀ a, (configureEngine i s).1 ≠ .error (.panic a)) →
      ((configureEngine i s).1 = .ok () ↔ ∃ c, y.Valid s.world c) ∧
      (∀ c, y.Valid s.world c → ∃ processor world,
        Processor.configure y.processor y.core.params y.format s.world =
          (.ok (), processor, world) ∧
        configureEngine i s =
          (.ok (), { s with world }.setSink i (y.configured c processor))) ∧
      ∀ e, (configureEngine i s).1 = refuse e → ∃ processor world,
        configureEngine i s = (refuse e, ({ s with world }.setSink i (y.refused processor e)).hear
          (y.core.listener.map fun l => ⟨l, y.core.name, .error, e.message⟩)) := by
  refine ⟨fun x hx hstate hanswers => ?_, fun y hy hstate _ => ?_⟩
  · rw [configureEngine_source hx] at hanswers ⊢
    -- a row that leaves its word aborts the configuration, so that an answer bounds it
    have hrows (c : SourceBlock.Settings) (h : x.Valid c) :
        c.format.rowBytes c.width < Checked.word32 :=
      not_not.1 fun hrows => hanswers _ (SourceBlock.configure_of_long hstate h hrows)
    have haccepts (c : SourceBlock.Settings) (h : x.Valid c) :=
      SourceBlock.configure_of_valid s.storage hstate h (hrows c h)
    refine ⟨⟨SourceBlock.valid_of_configure hstate, fun ⟨c, h⟩ => ?_⟩, fun c h => ?_, fun e h => ?_⟩
    · rw [haccepts c h]
    · refine ⟨hrows c h, _, Prod.ext h.generator rfl, ?_⟩
      rw [haccepts c h]
      rfl
    · obtain ⟨generator, hrefused⟩ := SourceBlock.configure_of_refused hstate h
      rw [hrefused]
      exact ⟨generator, rfl⟩
  · rw [configureEngine_sink hy]
    have haccepts (c : SinkBlock.Settings) (h : y.Valid s.world c) :=
      SinkBlock.configure_of_valid hstate h
    refine ⟨⟨SinkBlock.valid_of_configure hstate, fun ⟨c, h⟩ => ?_⟩, fun c h => ?_, fun e h => ?_⟩
    · rw [haccepts c h]
    · refine ⟨_, _, Prod.ext h.processor rfl, ?_⟩
      rw [haccepts c h]
      rfl
    · obtain ⟨processor, world, hrefused⟩ := SinkBlock.configure_of_refused hstate h
      rw [hrefused]
      exact ⟨processor, world, rfl⟩

/-! ### A source and a sink -/

/-- A source of test patterns that is four pixels wide. -/
def narrowSource : SourceBlock TestPattern :=
  (SourceBlock.new "TestPatternSource" {}).mapCore fun c =>
    { c with params := .ofList [("width", " +4 "), ("fps", "")] }

/-- A sink without room, which somebody listens to. -/
def fullSink : SinkBlock Output :=
  (SinkBlock.new "NullSink" (.discard {})).mapCore fun c =>
    { c with params := .ofList [("blocking", "No"), ("queue_depth", "0")], listener := some "log" }

def mismatched : Network FileTree TestPattern Output where
  world := { home := [] }
  listening := true
  blocks := [.source narrowSource, .sink fullSink]

/-- The source takes valid settings over. The sink keeps its policy, and its listener is told. -/
theorem configureEngine_spec_mismatched :
    (∃ c generator, narrowSource.Valid c ∧
      (configureEngine 0 mismatched).2.source? 0 = some (narrowSource.configured c generator 0)) ∧
    (∃ processor, (configureEngine 1 mismatched).2.sink? 1 = some (fullSink.refused processor
      (.invalidParameter "queue_depth" "0 not in [1, 1000]"))) ∧
    (configureEngine 1 mismatched).2.heard =
      [("NullSink", "invalid parameter 'queue_depth': 0 not in [1, 1000]")] := by
  obtain ⟨hsource, -⟩ := configureEngine_spec mismatched 0
  obtain ⟨hvalid, haccepts, -⟩ :=
    hsource narrowSource rfl List.mem_cons_self fun a ha => by cases ha
  obtain ⟨c, hc⟩ := hvalid.1 rfl
  obtain ⟨-, generator, -, haccepted⟩ := haccepts c hc
  obtain ⟨-, hsink⟩ := configureEngine_spec mismatched 1
  obtain ⟨-, -, hrefuses⟩ := hsink fullSink rfl List.mem_cons_self fun a ha => by cases ha
  have hdepth : (configureEngine 1 mismatched).1 =
      refuse (.invalidParameter "queue_depth" "0 not in [1, 1000]") := rfl
  obtain ⟨processor, world, hrefused⟩ := hrefuses _ hdepth
  refine ⟨⟨c, generator, hc, ?_⟩, ⟨processor, ?_⟩, ?_⟩
  · rw [haccepted]
    rfl
  · rw [hrefused]
    rfl
  · rw [hrefused]
    rfl

end Network

end FrameGraph
