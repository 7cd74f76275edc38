import FrameGraph.Proofs.Network.Drift

/-!
# Controlling a block

Starting, stopping and shutting down a block take several steps. What one such step does to its
block is one of a few things, and it does nothing to other blocks. What is known of a block between
two steps has to be stable: it may not be lost by anything that happens to the block meanwhile.
-/

namespace FrameGraph

/-! ### Steps -/

/-- What one step of a start does to a sink. -/
inductive SinkEngine.Opens (e : SinkEngine) : SinkEngine → Prop
  | starts (hstate : e.core.state ∈ [.initialized, .stopped]) (hworker : e.worker = .absent) :
    Opens e { e with core := { e.core with state := .starting } }
  | arms (hworker : e.worker = .absent) : Opens e e.arm
  | spawns (hworker : e.worker = .absent) : Opens e { e with worker := .seeking }
  | runs (hstate : e.core.state = .starting) (hstop : e.stopping = false) :
    Opens e { e with core := { e.core with state := .running } }
  /-- The worker was not started. -/
  | returns {state : BlockState} (h : state ∈ [.initialized, .stopped])
    (hstate : e.core.state = .starting) (hworker : e.worker = .absent) :
    Opens e { e with core := { e.core with state } }

/-- What one step of a stop or a shutdown does to a sink. -/
inductive SinkEngine.Closes (e : SinkEngine) : SinkEngine → Prop
  | stops (hstate : e.core.state = .running) :
    Closes e { e with core := { e.core with state := .stopping } }
  | halts : Closes e e.halt
  | forgets (hworker : e.worker = .absent ∨ e.worker = .ended) :
    Closes e { e with worker := .absent }
  | discards (hstop : e.stopping = true) (hworker : e.worker = .absent) : Closes e e.discard.2
  | rests (hworker : e.worker = .absent) (hstop : e.stopping = true) (hqueue : e.queue = []) :
    Closes e { e with core := { e.core with state := .stopped } }

/-- What one step of a start does to a source. -/
inductive SourceBlock.Opens {γ : Type} (b : SourceBlock γ) : SourceBlock γ → Prop
  | starts (hstate : b.core.state ∈ [.initialized, .stopped]) (hthread : b.thread = .absent) :
    Opens b (b.mapCore fun c => { c with state := .starting })
  | spawns (generator : γ) (lending : Nat) (hthread : b.thread = .absent) :
    Opens b { b with
      stop := b.stop.reset
      engine := b.engine.resetAdmission
      generator, lending, thread := .checking }
  /-- All was ready for the thread, which was not started. -/
  | readies (hthread : b.thread = .absent) :
    Opens b { b with stop := b.stop.reset, engine := b.engine.resetAdmission }
  | runs (hstate : b.core.state = .starting) :
    Opens b (b.mapCore fun c => { c with state := .running })
  | returns {state : BlockState} (h : state ∈ [.initialized, .stopped])
    (hstate : b.core.state = .starting) (hthread : b.thread = .absent) :
    Opens b (b.mapCore fun c => { c with state })

/-- What one step of a stop or a shutdown does to a source. -/
inductive SourceBlock.Closes {γ : Type} (b : SourceBlock γ) : SourceBlock γ → Prop
  | stops (hstate : b.core.state = .running) :
    Closes b (b.mapCore fun c => { c with state := .stopping })
  | signals : Closes b { b with stop := b.stop.stop }
  | forgets (hthread : b.thread = .absent ∨ b.thread = .ended) :
    Closes b { b with thread := .absent }
  | rests (hthread : b.thread = .absent) :
    Closes b (b.mapCore fun c => { c with state := .stopped })
  | clears : Closes b { b with engine := { b.engine with consumer := none } }

namespace Block

variable {γ π : Type}

/-- What one step of a start does to its block. -/
inductive Opens : Block γ π → Block γ π → Prop
  | source {x x'} (h : SourceBlock.Opens x x') : Opens (.source x) (.source x')
  | sink {y : SinkBlock π} {e} (h : y.engine.Opens e) :
    Opens (.sink y) (.sink { y with engine := e })

/-- What one step of a stop or a shutdown does to its block. -/
inductive Closes : Block γ π → Block γ π → Prop
  | source {x x'} (h : SourceBlock.Closes x x') : Closes (.source x) (.source x')
  | sink {y : SinkBlock π} {e} (h : y.engine.Closes e) :
    Closes (.sink y) (.sink { y with engine := e })
  /-- Nobody listens to the failures of the block any more. -/
  | unheard {b} : Closes b (b.mapCore fun c => { c with listener := none })

/-- What one step of a call does to its block. -/
def Control (b b' : Block γ π) : Prop := b.Opens b' ∨ b.Closes b'

end Block

/-! ### What is known of a block -/

/-- What is known of a sink is not lost while others act. -/
def SinkEngine.Stable (F : SinkEngine → Prop) : Prop := ∀ e e', e.Drift e' → F e → F e'

/-- What is known of a source is not lost while others act. -/
def SourceBlock.Stable {γ : Type} (F : SourceBlock γ → Prop) : Prop :=
  ∀ x x', x.Drift x' → F x → F x'

namespace Block

variable {γ π : Type} {b b' : Block γ π}

def enter (state : BlockState) (b : Block γ π) : Block γ π := b.mapCore fun c => { c with state }

/-- Something is known of a sink. -/
def IsSink (F : SinkEngine → Prop) : Block γ π → Prop
  | .sink y => F y.engine
  | _ => False

lemma isSink_iff {F : SinkEngine → Prop} : b.IsSink F ↔ ∃ y, b = .sink y ∧ F y.engine := by
  cases b <;> simp [IsSink]

/-- Something is known of a source. -/
def IsSource (F : SourceBlock γ → Prop) : Block γ π → Prop
  | .source x => F x
  | _ => False

lemma isSource_iff {F : SourceBlock γ → Prop} :
    b.IsSource F ↔ ∃ x, b = .source x ∧ F x := by
  cases b <;> simp [IsSource]

/-- What is known of a block is not lost while others act. -/
def Stable (P : Block γ π → Prop) : Prop := ∀ b b', b.Drift b' → P b → P b'

/-- A sink lets no producer wait in vain: its stop flag is clear, and it has a worker. -/
def isOpen : Block γ π → Prop
  | .sink y => y.engine.stopping = false ∧ y.engine.worker ≠ .absent
  | _ => True

/-- The block is a source or a sink. -/
def Threaded : Block γ π → Prop
  | .stage _ => False
  | _ => True

/-- The block has no thread and is in none of the states in which it counts as active. -/
structure Idle (b : Block γ π) : Prop where
  thread : b.hasThread = false
  state : b.state ∉ [.starting, .running, .stopping]

/-- The block was started, and it runs or has failed since. -/
structure Up (b : Block γ π) : Prop where
  state : b.state ∈ [.running, .error]
  isOpen : b.isOpen

/-! ### What is stable -/

lemma Drift.hasThread (h : b.Drift b') (hb : b.hasThread = false) : b'.hasThread = false := by
  cases h with
  | source h => simpa [Block.hasThread] using h.absent (by simpa [Block.hasThread] using hb)
  | sink h => simpa [Block.hasThread] using h.absent.2 (by simpa [Block.hasThread] using hb)
  | stage h => rfl

lemma Drift.isOpen (h : b.Drift b') (hb : b.isOpen) : b'.isOpen := by
  cases h with
  | source h => trivial
  | sink h => exact ⟨h.stopping.trans hb.1, mt h.absent.1 hb.2⟩
  | stage h => trivial

lemma stable_threaded : Stable (Threaded (γ := γ) (π := π)) := by
  intro b b' h hb
  cases h with
  | source h => trivial
  | sink h => trivial
  | stage h => exact hb

lemma Threaded.mapCore (h : b.Threaded) (f : BlockCore → BlockCore) : (b.mapCore f).Threaded := by
  cases b <;> exact h

lemma state_mapCore {f : BlockCore → BlockCore} (hf : ∀ c, (f c).state = c.state) :
    (b.mapCore f).state = b.state := by
  cases b <;> exact hf _

lemma hasThread_mapCore (f : BlockCore → BlockCore) : (b.mapCore f).hasThread = b.hasThread := by
  cases b <;> rfl

lemma Idle.mapCore (h : b.Idle) {f : BlockCore → BlockCore} (hf : ∀ c, (f c).state = c.state) :
    (b.mapCore f).Idle where
  thread := (hasThread_mapCore f).trans h.thread
  state := by
    rw [state_mapCore hf]
    exact h.state

lemma Up.mapCore (h : b.Up) {f : BlockCore → BlockCore} (hf : ∀ c, (f c).state = c.state) :
    (b.mapCore f).Up where
  state := by
    rw [state_mapCore hf]
    exact h.state
  isOpen := by
    cases b with
    | source x => trivial
    | sink y => exact h.isOpen
    | stage z => trivial

lemma Control.threaded (h : b.Control b') (hb : b.Threaded) : b'.Threaded := by
  rcases h with h | h
  · cases h <;> trivial
  · cases h with
    | source _ => trivial
    | sink _ => trivial
    | unheard => cases b <;> exact hb

lemma stable_idle : Stable (Idle (γ := γ) (π := π)) := fun _ _ h hb =>
  ⟨h.hasThread hb.thread, h.keeps (S := (· ∉ [.starting, .running, .stopping])) (by simp) hb.state⟩

lemma stable_up : Stable (Up (γ := γ) (π := π)) := fun _ _ h hb =>
  ⟨h.keeps (S := (· ∈ [.running, .error])) (by simp) hb.state, h.isOpen hb.isOpen⟩

lemma stable_drift (b : Block γ π) : Stable b.Drift := fun _ _ h hb => hb.trans h

lemma stable_isSink {F : SinkEngine → Prop} (h : SinkEngine.Stable F) :
    Stable (IsSink F : Block γ π → Prop) := by
  intro b b' hdrift hb
  obtain ⟨y, rfl, hy⟩ := isSink_iff.1 hb
  cases hdrift with
  | sink hdrift => exact h _ _ hdrift hy

lemma stable_isSource {F : SourceBlock γ → Prop} (h : SourceBlock.Stable F) :
    Stable (IsSource F : Block γ π → Prop) := by
  intro b b' hdrift hb
  obtain ⟨x, rfl, hx⟩ := isSource_iff.1 hb
  cases hdrift with
  | source hdrift => exact h _ _ hdrift hx

lemma Stable.and {P Q : Block γ π → Prop} (hP : Stable P) (hQ : Stable Q) :
    Stable fun b => P b ∧ Q b :=
  fun b b' h hb => ⟨hP b b' h hb.1, hQ b b' h hb.2⟩

end Block

namespace Network

variable {ω γ π : Type} {s t u : Network ω γ π} {i : Nat} {b b' : Block γ π}
  {P P' E : Block γ π → Prop}

/-! ### Steps on a network -/

variable {G G' : Block γ π → Block γ π → Prop}

/-- One step of a call on the block `i`, which does to it what `G` says. -/
def StepAt (G : Block γ π → Block γ π → Prop) (i : Nat) (s t : Network ω γ π) : Prop :=
  t.blocks = s.blocks ∨
    ∃ b b', s.block? i = some b ∧ G b b' ∧ t.blocks = s.blocks.set i b'

/-- Something is known of the block at a position. -/
def At (i : Nat) (P : Block γ π → Prop) (s : Network ω γ π) : Prop :=
  ∃ b, s.block? i = some b ∧ P b

lemma At.mono (h : At i P s) (hP : ∀ b, P b → P' b) : At i P' s := by
  obtain ⟨b, hb, hPb⟩ := h
  exact ⟨b, hb, hP b hPb⟩

lemma At.later (h : At i P s) (hP : Block.Stable P) (hst : DriftAt i s t) : At i P t := by
  obtain ⟨b, hb, hPb⟩ := h
  obtain ⟨b', hb', hdrift⟩ := hst b hb
  exact ⟨b', hb', hP b b' hdrift hPb⟩

lemma StepAt.refl (s : Network ω γ π) : StepAt G i s s := .inl rfl

lemma StepAt.mono (h : StepAt G i s t) (hG : ∀ b b', G b b' → G' b b') : StepAt G' i s t := by
  rcases h with h | ⟨b, b', hb, hstep, h⟩
  · exact .inl h
  · exact .inr ⟨b, b', hb, hG b b' hstep, h⟩

lemma stepAt_of_set (hb : s.block? i = some b) (h : b' = b ∨ G b b')
    (ht : t.blocks = s.blocks.set i b') : StepAt G i s t := by
  rcases h with rfl | h
  · refine .inl (ht.trans ?_)
    rw [← blocks_setBlock, setBlock_self hb]
  · exact .inr ⟨b, b', hb, h, ht⟩

/-- What a step does not change is known after it. -/
lemma StepAt.keep (h : StepAt G i s t) (hG : ∀ b b', G b b' → P b → P b') (hs : At i P s) :
    At i P t := by
  obtain ⟨b, hb, hPb⟩ := hs
  rcases h with h | ⟨c, b', hc, hstep, h⟩
  · exact ⟨b, (block?_of_blocks_eq h i).trans hb, hPb⟩
  · obtain rfl : b = c := by simpa [hb] using hc
    exact ⟨b', block?_of_set_self h hb, hG b b' hstep hPb⟩

/-! ### All blocks -/

/-- Something is known of each block, depending on where it is. -/
def All (P : Nat → Block γ π → Prop) (s : Network ω γ π) : Prop :=
  ∀ i b, s.block? i = some b → P i b

variable {F F' : Nat → Block γ π → Prop}

lemma All.mono (h : All F s) (hF : ∀ i b, F i b → F' i b) : All F' s :=
  fun i b hb => hF i b (h i b hb)

lemma All.at (h : All F s) (hi : i < s.blocks.length) : At i (F i) s :=
  ⟨s.blocks[i], List.getElem?_eq_getElem hi, h i _ (List.getElem?_eq_getElem hi)⟩

lemma At.of_all (hat : At i P s) (h : All F s) : At i (fun b => P b ∧ F i b) s := by
  obtain ⟨b, hb, hP⟩ := hat
  exact ⟨b, hb, hP, h i b hb⟩

lemma All.later (h : All F s) (hF : ∀ i, Block.Stable (F i)) (hst : s.Drift t) : All F t := by
  intro i b' hb'
  obtain ⟨b, hb, hdrift⟩ := hst.source hb'
  exact hF i b b' hdrift (h i b hb)

lemma StepAt.source {j : Nat} (h : StepAt G i s t) (hb : t.block? j = some b') :
    ∃ b, s.block? j = some b ∧ (b' = b ∨ i = j ∧ G b b') := by
  rcases h with h | ⟨c, c', hc, hstep, h⟩
  · exact ⟨b', (block?_of_blocks_eq h j).symm.trans hb, .inl rfl⟩
  · rw [block?_of_set h hc] at hb
    split at hb
    · rename_i hij
      subst hij
      obtain rfl := Option.some.inj hb
      exact ⟨c, hc, .inr ⟨rfl, hstep⟩⟩
    · exact ⟨b', hb, .inl rfl⟩

lemma StepAt.length (h : StepAt G i s t) : t.blocks.length = s.blocks.length := by
  rcases h with h | ⟨_, _, _, _, h⟩
  · rw [h]
  · rw [h, List.length_set]

lemma StepAt.each {R : Block γ π → Block γ π → Prop} (h : StepAt G i s t)
    (hG : ∀ b b', s.block? i = some b → G b b' → R b b') (hrefl : ∀ b, R b b) :
    s.Each (fun _ => R) t := by
  rcases h with h | ⟨b, b', hb, hstep, h⟩
  · exact each_of_blocks_eq h fun _ => hrefl
  · exact each_of_set h hb (hG b b' hb hstep) fun _ => hrefl

/-- A step on one block leaves the others alone. -/
lemma StepAt.block?_of_ne (h : StepAt G i s t) {k : Nat} (hik : i ≠ k) :
    t.block? k = s.block? k := by
  rcases h with h | ⟨b, b', -, -, h⟩
  · exact block?_of_blocks_eq h k
  · exact block?_of_set_ne h hik

lemma All.step (h : All F s) (hst : StepAt G i s t) (hG : ∀ b b', G b b' → F i b → F i b') :
    All F t := by
  intro j b' hb'
  obtain ⟨b, hb, rfl | ⟨rfl, hstep⟩⟩ := hst.source hb'
  · exact h j b' hb
  · exact hG b b' hstep (h i b hb)

lemma All.append (h : All F s) (hb : F s.blocks.length b) (ht : t.blocks = s.blocks ++ [b]) :
    All F t := by
  intro j c hc
  rw [block?_of_append ht] at hc
  split_ifs at hc with hj
  · obtain rfl : b = c := by simpa using hc
    exact hj ▸ hb
  · exact h j c hc

lemma At.append {j : Nat} (h : At j P s) (ht : t.blocks = s.blocks ++ [b]) : At j P t := by
  obtain ⟨c, hc, hPc⟩ := h
  have hj : j ≠ s.blocks.length := Nat.ne_of_lt (List.getElem?_eq_some_iff.1 hc).1
  exact ⟨c, by rw [block?_of_append ht, if_neg hj, hc], hPc⟩

lemma at_of_append (hb : P b) (ht : t.blocks = s.blocks ++ [b]) : At s.blocks.length P t :=
  ⟨b, by rw [block?_of_append ht, if_pos rfl], hb⟩

lemma All.update (h : All F s) (hat : At i (F' i) s) (hF : ∀ j b, j ≠ i → F j b → F' j b) :
    All F' s := by
  intro j b hb
  by_cases hij : j = i
  · subst hij
    obtain ⟨c, hc, hF'⟩ := hat
    obtain rfl : b = c := by simpa [hb] using hc
    exact hF'
  · exact hF j b hij (h j b hb)

end Network

end FrameGraph
