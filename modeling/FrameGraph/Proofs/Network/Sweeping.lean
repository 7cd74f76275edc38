import FrameGraph.Proofs.Frame.References
import FrameGraph.Proofs.Network.Configure
import FrameGraph.Proofs.Network.Lifecycle

/-!
# What is left in queues

A sink without a worker has nothing in its queue, unless its worker has just ended and is about to
be swept up after. An operation on a block leaves it so if others do. Of what it does to the storage
and to queues, dropping what a worker left is the only thing that does more than open a pool.
-/

namespace FrameGraph

/-- Nothing waits where nobody works. -/
def SinkEngine.Swept (e : SinkEngine) : Prop := e.worker = .absent → e.queue = []

namespace Block

variable {γ π : Type} {b b' b'' : Block γ π}

/-- Nothing waits at a sink without a worker. -/
def Swept : Block γ π → Prop
  | .sink y => y.engine.Swept
  | _ => True

/-- The frames that wait to be processed. -/
def queue : Block γ π → List Frame
  | .sink y => y.engine.queue
  | _ => []

/-- What others may do to a block: nothing comes to wait where nobody works. -/
inductive Spares : Block γ π → Block γ π → Prop
  | source {x x' : SourceBlock γ} : Spares (.source x) (.source x')
  | sink {y y' : SinkBlock π} (h : y.engine.Swept → y'.engine.Swept) : Spares (.sink y) (.sink y')
  | stage {z z' : StageBlock} : Spares (.stage z) (.stage z')

/-- What leaves the queue of a block alone and takes no worker away. -/
inductive Leaves : Block γ π → Block γ π → Prop
  | source {x x' : SourceBlock γ} : Leaves (.source x) (.source x')
  | sink {y y' : SinkBlock π} (hqueue : y'.engine.queue = y.engine.queue)
    (hworker : y'.engine.worker = .absent → y.engine.worker = .absent) :
    Leaves (.sink y) (.sink y')
  | stage {z z' : StageBlock} : Leaves (.stage z) (.stage z')

lemma Spares.refl (b : Block γ π) : b.Spares b := by
  cases b with
  | source x => exact .source
  | sink y => exact .sink id
  | stage z => exact .stage

lemma Spares.trans (h : b.Spares b') (h' : b'.Spares b'') : b.Spares b'' := by
  cases h with
  | source =>
    cases h'
    exact .source
  | sink h =>
    cases h' with
    | sink h' => exact .sink (h' ∘ h)
  | stage =>
    cases h'
    exact .stage

lemma Leaves.refl (b : Block γ π) : b.Leaves b := by
  cases b with
  | source x => exact .source
  | sink y => exact .sink rfl id
  | stage z => exact .stage

lemma Leaves.spares (h : b.Leaves b') : b.Spares b' := by
  cases h with
  | source => exact .source
  | sink hqueue hworker => exact .sink fun h habsent => hqueue.trans (h (hworker habsent))
  | stage => exact .stage

lemma Leaves.queue (h : b.Leaves b') : b'.queue = b.queue := by
  cases h with
  | sink hqueue _ => exact hqueue
  | _ => rfl

lemma leaves_mapCore (f : BlockCore → BlockCore) : b.Leaves (b.mapCore f) := by
  cases b with
  | source x => exact .source
  | sink y => exact .sink rfl id
  | stage z => exact .stage

lemma Spares.swept (h : b.Spares b') (hb : b.Swept) : b'.Swept := by
  cases h with
  | sink h => exact h hb
  | _ => trivial

end Block

/-! ### Pools of sources -/

namespace SourceBlock

variable {γ : Type} [Generator γ]

omit [Generator γ] in
lemma opens_readPool {p : Params} {storage opened : Storage} {n : Nat}
    (h : readPool p storage = .ok (n, opened)) : storage.Opens opened := by
  simp only [readPool, bind, Except.bind] at h
  split at h
  · cases h
  · exact .inr ⟨_, n, h⟩

/-- A source is configured with a pool of its own. -/
lemma opens_applyParameters (x : SourceBlock γ) (storage : Storage) :
    storage.Opens (x.applyParameters storage).2.2 := by
  simp only [applyParameters]
  split
  · exact .inl rfl
  rename_i opened _ hread
  have hopens : storage.Opens opened := by
    simp only [bind, Except.bind] at hread
    split at hread
    · cases hread
    split at hread
    · cases hread
    split at hread
    · cases hread
    rename_i pool hpool
    split at hread
    · cases hread
    cases hread
    cases h : readPool x.core.params storage with
    | error e => simp [h, Except.mapError] at hpool
    | ok pool =>
      obtain rfl : pool = (_, opened) := by simpa [h, Except.mapError] using hpool
      exact opens_readPool h
  split
  · exact .inl rfl
  split
  · exact .inl rfl
  · exact hopens

lemma opens_configure (x : SourceBlock γ) (storage : Storage) :
    storage.Opens (x.configure storage).2.2.1 := by
  have hopens := x.opens_applyParameters storage
  simp only [configure]
  split
  · exact .inl rfl
  split
  all_goals
    rename_i h
    rw [h] at hopens
    exact hopens

end SourceBlock

namespace Network

variable {ω γ π α β : Type} {s t u : Network ω γ π} {i : Nat} {b b' : Block γ π}

/-! ### Steps -/

/-- What others may do to a network. -/
def Spares (s t : Network ω γ π) : Prop := s.Each (fun _ => Block.Spares) t

/-- What opens a pool at most, and leaves queues alone. -/
structure Leaves (s t : Network ω γ π) : Prop where
  storage : s.storage.Opens t.storage
  each : s.Each (fun _ => Block.Leaves) t

/-- What one step of an operation does to the storage and to queues. -/
inductive Handles (s : Network ω γ π) : Network ω γ π → Prop
  | keeps {t : Network ω γ π} (hstorage : s.storage.Opens t.storage)
    (hqueue : ∀ i b b', s.block? i = some b → t.block? i = some b' → b'.queue = b.queue) :
    Handles s t
  | discards (i : Nat) : Handles s (discard i s)

lemma interference_spares : Routine.Interference (Spares (ω := ω) (γ := γ) (π := π)) :=
  ⟨.refl fun _ => .refl, fun h h' => h.trans h' fun _ _ _ _ => .trans⟩

lemma Leaves.spares (h : s.Leaves t) : s.Spares t := h.each.mono fun _ _ _ h => h.spares

lemma Leaves.handles (h : s.Leaves t) : s.Handles t := by
  refine .keeps h.storage fun i b b' hb hb' => ?_
  obtain ⟨c, hc, hleaves⟩ := h.each.block i b hb
  obtain rfl : b' = c := by simpa [hb'] using hc
  exact hleaves.queue

lemma leaves_of_blocks_eq (hblocks : t.blocks = s.blocks) (hstorage : s.storage.Opens t.storage) :
    s.Leaves t :=
  ⟨hstorage, each_of_blocks_eq hblocks fun _ => .refl⟩

lemma leaves_of_set (hb : s.block? i = some b) (h : b.Leaves b')
    (ht : t.blocks = s.blocks.set i b') (hstorage : s.storage.Opens t.storage) : s.Leaves t :=
  ⟨hstorage, each_of_set ht hb h fun _ => .refl⟩

lemma Leaves.refl (s : Network ω γ π) : s.Leaves s := leaves_of_blocks_eq rfl (.inl rfl)

lemma leaves_mapCore (s : Network ω γ π) (i : Nat) (f : BlockCore → BlockCore) :
    s.Leaves (s.mapCore i f) := by
  unfold mapCore
  split
  · rename_i b hb
    exact leaves_of_set hb (Block.leaves_mapCore f) rfl (.inl rfl)
  · exact .refl s

lemma leaves_mapSource (s : Network ω γ π) (i : Nat) (f : SourceBlock γ → SourceBlock γ) :
    s.Leaves (s.mapSource i f) := by
  unfold mapSource
  split
  · rename_i x hx
    exact leaves_of_set (source?_eq_some.1 hx) .source rfl (.inl rfl)
  · exact .refl s

lemma leaves_mapEngine (s : Network ω γ π) (i : Nat) {f : SinkEngine → SinkEngine}
    (hqueue : ∀ e, (f e).queue = e.queue)
    (hworker : ∀ e, (f e).worker = .absent → e.worker = .absent) : s.Leaves (s.mapEngine i f) := by
  unfold mapEngine
  split
  · rename_i y hy
    exact leaves_of_set (sink?_eq_some.1 hy) (.sink (hqueue _) (hworker _)) rfl (.inl rfl)
  · exact .refl s

lemma leaves_spawnSource [Generator γ] (s : Network ω γ π) (i : Nat) :
    s.Leaves (spawnSource i s).2 := by
  simp only [spawnSource]
  split
  · exact .refl s
  rename_i x hx
  rw [source?_eq_some] at hx
  split
  · exact .refl s
  rename_i lending storage hpool
  have hopens : s.storage.Opens storage := by
    split at hpool
    · cases hpool
      exact .inl rfl
    · exact .inr ⟨_, _, hpool⟩
  split
  · exact leaves_of_set hx .source rfl (.inl rfl)
  · exact leaves_of_set hx .source rfl hopens

lemma leaves_spawnSink (s : Network ω γ π) (i : Nat) : s.Leaves (spawnSink i s).2 := by
  unfold spawnSink
  split
  · exact .refl s
  · dsimp only
    exact leaves_mapEngine s i (fun _ => rfl) fun _ h => by cases h

lemma leaves_configureEngine [Generator γ] [Processor ω π] (s : Network ω γ π) (i : Nat) :
    s.Leaves (configureEngine i s).2 := by
  unfold configureEngine
  split
  · rename_i x hx
    refine leaves_of_set hx .source (blocks_hear _) ?_
    rw [storage_hear]
    exact x.opens_configure s.storage
  · rename_i y hy
    refine leaves_of_set hy ?_ (blocks_hear _) ?_
    · cases y.configures_configure (γ := γ) s.world with
      | sink hqueue hworker => exact .sink hqueue fun h => hworker.symm.trans h
    · rw [storage_hear]
      exact .inl rfl
  · exact .refl s

/-! ### What operations keep -/

variable {F : Nat → Block γ π → Prop}

/-- What is known of blocks is not lost while others spare them. -/
def Spared (F : Nat → Block γ π → Prop) : Prop := ∀ i b b', b.Spares b' → F i b → F i b'

lemma Spared.all (hF : Spared F) (s t : Network ω γ π) (hst : s.Spares t) (hs : s.All F) :
    t.All F := by
  intro i b' hb'
  obtain ⟨b, hb, hspares⟩ := hst.source hb'
  exact hF i b b' hspares (hs i b hb)

lemma spared_swept : Spared fun _ (b : Block γ π) => b.Swept := fun _ _ _ h => h.swept

/-- An operation keeps whatever others spare. -/
def Tidy (op : Operation ω γ π α) : Prop := ∀ F, Spared F → op.Keeps Spares Handles (All F)

lemma tidy_pure (a : α) : Tidy (pure a : Operation ω γ π α) :=
  fun _ hF => Routine.keeps_pure hF.all a

lemma tidy_modifyGet {f : Network ω γ π → α × Network ω γ π}
    (h : ∀ s : Network ω γ π, s.Leaves (f s).2) :
    Tidy (.modifyGet f) :=
  fun _ hF => Routine.keeps_modifyGet hF.all fun s hs =>
    ⟨(h s).handles, hF.all s _ (h s).spares hs⟩

lemma tidy_modify {f : Network ω γ π → Network ω γ π} (h : ∀ s : Network ω γ π, s.Leaves (f s)) :
    Tidy (.modify f) :=
  tidy_modifyGet (f := fun s => ((), f s)) h

lemma Tidy.bind {op : Operation ω γ π β} {k : β → Operation ω γ π α} (h : Tidy op)
    (hk : ∀ b, Tidy (k b)) : Tidy (op >>= k) :=
  fun F hF => (h F hF).bind interference_spares fun b => hk b F hF

lemma tidy_get {f : Network ω γ π → β} {k : β → Operation ω γ π α} (hk : ∀ b, Tidy (k b)) :
    Tidy (Routine.get f >>= k) :=
  fun F hF => Routine.keeps_get hF.all (fun s => (Leaves.refl s).handles) fun s hs =>
    hk (f s) F hF s hs

lemma tidy_transition (i : Nat) (operation : String) (sources : List BlockState)
    (target : BlockState) :
    Tidy (transition i operation sources target : Operation ω γ π (Except Error BlockState)) := by
  refine tidy_modifyGet fun s => ?_
  dsimp only
  split
  · exact .refl s
  · rename_i b hb
    exact leaves_of_set hb (Block.leaves_mapCore _) rfl (.inl rfl)

lemma tidy_settle (i : Nat) (source target : BlockState) :
    Tidy (settle i source target : Operation ω γ π Unit) :=
  tidy_modify fun s => leaves_mapCore s i _

lemma tidy_settleStopped (i : Nat) : Tidy (settleStopped i : Operation ω γ π Unit) :=
  tidy_modify fun s => leaves_mapCore s i _

lemma tidy_signalStop (i : Nat) : Tidy (signalStop i : Operation ω γ π Unit) :=
  tidy_modify fun s => leaves_mapSource s i _

lemma tidy_clearConsumer (i : Nat) : Tidy (clearConsumer i : Operation ω γ π Unit) :=
  tidy_modify fun s => leaves_mapSource s i _

/-! ### Starting -/

lemma tidy_startSource [Generator γ] (i : Nat) :
    Tidy (startSource i : Operation ω γ π (Except Error Unit)) := by
  refine .bind (tidy_transition i _ _ _) fun r => ?_
  cases r with
  | error e => exact tidy_pure _
  | ok source =>
    refine .bind (tidy_modifyGet fun s => leaves_spawnSource s i) fun r => ?_
    cases r with
    | error e => exact .bind (tidy_settle i _ _) fun _ => tidy_pure _
    | ok _ => exact .bind (tidy_settle i _ _) fun _ => tidy_pure _

lemma tidy_startSink (i : Nat) : Tidy (startSink i : Operation ω γ π (Except Error Unit)) := by
  refine .bind (tidy_transition i _ _ _) fun r => ?_
  cases r with
  | error e => exact tidy_pure _
  | ok source =>
    refine .bind (tidy_modify fun s => leaves_mapEngine s i (fun _ => rfl) fun _ => id) fun _ => ?_
    refine .bind (tidy_modifyGet fun s => leaves_spawnSink s i) fun r => ?_
    cases r with
    | error e => exact .bind (tidy_settle i _ _) fun _ => tidy_pure _
    | ok _ => exact .bind (tidy_settle i _ _) fun _ => tidy_pure _

lemma tidy_request (i : Nat) (operation : String) :
    Tidy (request i operation : Operation ω γ π (Except Error Unit)) := by
  refine tidy_modifyGet fun s => ?_
  split
  · exact .refl s
  split
  · exact .refl s
  · exact leaves_of_blocks_eq rfl (.inl rfl)

lemma tidy_moveStage (i : Nat) (operation : String) (sources : List BlockState)
    (target : BlockState) :
    Tidy (moveStage i operation sources target : Operation ω γ π (Except Error Unit)) := by
  refine .bind (tidy_request i operation) fun r => ?_
  cases r with
  | error e => exact tidy_pure _
  | ok _ => exact .bind (tidy_transition i _ _ _) fun _ => tidy_pure _

theorem tidy_start [Generator γ] (i : Nat) :
    Tidy (start i : Operation ω γ π (Except Error Unit)) := by
  refine tidy_get fun b => ?_
  split
  · exact tidy_startSource i
  · exact tidy_startSink i
  · exact tidy_moveStage i _ _ _
  · exact tidy_pure _

/-! ### Configuring -/

lemma tidy_configureStage (i : Nat) (core : BlockCore) :
    Tidy (configureStage i core : Operation ω γ π (Except Error Unit)) := by
  unfold configureStage
  split
  · exact tidy_pure _
  refine .bind (tidy_request i _) fun r => ?_
  cases r with
  | error e => exact tidy_pure _
  | ok _ => exact .bind (tidy_modify fun s => leaves_mapCore s i _) fun _ => tidy_pure _

theorem tidy_configure [Generator γ] [Processor ω π] (i : Nat) :
    Tidy (configure i : Operation ω γ π (Result Unit)) := by
  refine tidy_get fun b => ?_
  split
  · exact .bind (tidy_configureStage i _) fun _ => tidy_pure _
  · exact tidy_modifyGet fun s => leaves_configureEngine s i
  · exact tidy_pure _

/-! ### Stopping -/

/-- Forgetting the thread of a block may matter to what is known of it, but not to its queue. -/
lemma join_keeps (hF : Spared F) (h : ∀ b, F i b → F i b.forgetThread) :
    (join i : Operation ω γ π Unit).Keeps Spares Handles (All F) := by
  refine Routine.Keeps.bind interference_spares (Routine.keeps_waitFor hF.all _) fun _ =>
    Routine.keeps_modify hF.all fun s hs => ?_
  cases hb : s.block? i with
  | none =>
    have hsame : forgetThread i s = s := by simp [forgetThread, hb]
    rw [hsame]
    exact ⟨(Leaves.refl s).handles, hs⟩
  | some b =>
    have hset := blocks_forgetThread hb
    have hstep : StepAt (fun b b' => b' = b.forgetThread) i s (forgetThread i s) :=
      .inr ⟨b, _, hb, rfl, hset⟩
    refine ⟨.keeps (.inl ?_) fun j c c' hc hc' => ?_, hs.step hstep fun c c' hc => hc ▸ h c⟩
    · unfold forgetThread
      split <;> rfl
    · obtain ⟨d, hd, rfl | ⟨-, rfl⟩⟩ := hstep.source hc'
      · obtain rfl : c = c' := by simpa [hc] using hd
        rfl
      · obtain rfl : c = d := by simpa [hc] using hd
        cases c <;> rfl

/-- A worker is ended and swept up after. -/
lemma haltWorker_keeps (i : Nat) :
    (haltWorker i : Operation ω γ π Unit).Keeps Spares Handles (All fun _ => Block.Swept) := by
  have hothers : Spared fun j (b : Block γ π) => j ≠ i → b.Swept :=
    fun _ _ _ h hb hne => h.swept (hb hne)
  have hhalt : Tidy (Routine.modify fun s : Network ω γ π => s.mapEngine i SinkEngine.halt) := by
    refine tidy_modify fun s => leaves_mapEngine s i (fun e => ?_) fun e h => ?_
    · simp [SinkEngine.halt, SinkEngine.notifyProducers]
    · exact (SinkEngine.absent_wakeWorker { e with stopping := true }).1 h
  intro s hs
  have hs' : s.All fun j b => j ≠ i → b.Swept := hs.mono fun _ _ hb _ => hb
  -- all others stay swept while the worker is ended, and then so is its own queue
  refine .bind interference_spares ((hhalt _ hothers s hs').weaken fun _ t ht => ?_)
  refine .bind interference_spares ((join_keeps hothers ?_ t ht).weaken fun _ u hu v huv => ?_)
  · exact fun b hb hne => absurd rfl hne
  have hv : v.All fun j b => j ≠ i → b.Swept := hothers.all u v huv hu
  refine ⟨.discards i, fun w hw => spared_swept.all _ w hw fun j b hb => ?_⟩
  cases hi : v.sink? i with
  | none =>
    have hsame : discard i v = v := by simp [discard, hi]
    rw [hsame] at hb
    by_cases hji : j = i
    · subst hji
      cases b with
      | sink y => simp [sink?_eq_some.2 hb] at hi
      | _ => trivial
    · exact hv j b hb hji
  | some y =>
    rw [sink?_eq_some] at hi
    rw [block?_of_set (blocks_discard hi) hi] at hb
    split_ifs at hb with hij
    · obtain rfl := Option.some.inj hb
      exact fun _ => rfl
    · exact hv j b hb (Ne.symm hij)

/-- All blocks are swept, and there is a source at a position. -/
def SourceAt (i j : Nat) (b : Block γ π) : Prop := b.Swept ∧ (j = i → b.IsSource fun _ => True)

lemma spared_sourceAt (i : Nat) : Spared (SourceAt (γ := γ) (π := π) i) := by
  intro j b b' h hb
  refine ⟨h.swept hb.1, fun hji => ?_⟩
  obtain ⟨x, rfl, -⟩ := Block.isSource_iff.1 (hb.2 hji)
  cases h
  trivial

lemma join_source_keeps (i : Nat) :
    (join i : Operation ω γ π Unit).Keeps Spares Handles (All (SourceAt i)) := by
  refine join_keeps (spared_sourceAt i) fun b hb => ?_
  obtain ⟨x, rfl, -⟩ := Block.isSource_iff.1 (hb.2 rfl)
  exact ⟨trivial, fun _ => trivial⟩

lemma stopSource_keeps (i : Nat) : (stopSource i : Operation ω γ π (Except Error Unit)).Keeps
    Spares Handles (All (SourceAt i)) := by
  have hspared := spared_sourceAt (γ := γ) (π := π) i
  refine .bind interference_spares (tidy_transition i _ _ _ _ hspared) fun r => ?_
  cases r with
  | error e => exact tidy_pure _ _ hspared
  | ok _ =>
    refine .bind interference_spares (tidy_signalStop i _ hspared) fun _ => ?_
    refine .bind interference_spares (join_source_keeps i) fun _ => ?_
    exact (tidy_settle i _ _).bind (fun _ => tidy_pure _) _ hspared

lemma shutdownSource_keeps (i : Nat) :
    (shutdownSource i : Operation ω γ π Unit).Keeps Spares Handles (All (SourceAt i)) := by
  have hspared := spared_sourceAt (γ := γ) (π := π) i
  refine .bind interference_spares (tidy_signalStop i _ hspared) fun _ => ?_
  refine .bind interference_spares (join_source_keeps i) fun _ => ?_
  exact (tidy_settleStopped i).bind (fun _ => tidy_clearConsumer i) _ hspared

lemma stopSink_keeps (i : Nat) : (stopSink i : Operation ω γ π (Except Error Unit)).Keeps
    Spares Handles (All fun _ => Block.Swept) := by
  refine .bind interference_spares (tidy_transition i _ _ _ _ spared_swept) fun r => ?_
  cases r with
  | error e => exact tidy_pure _ _ spared_swept
  | ok _ =>
    refine .bind interference_spares (haltWorker_keeps i) fun _ => ?_
    exact (tidy_settle i _ _).bind (fun _ => tidy_pure _) _ spared_swept

lemma shutdownSink_keeps (i : Nat) : (shutdownSink i : Operation ω γ π Unit).Keeps
    Spares Handles (All fun _ => Block.Swept) :=
  .bind interference_spares (haltWorker_keeps i) fun _ => tidy_settleStopped i _ spared_swept

lemma tidy_shutdownStage (i : Nat) : Tidy (shutdownStage i : Operation ω γ π Unit) := by
  refine tidy_modify fun s => ?_
  have hmap := leaves_mapCore { s with journal := s.journal ++ [s!"shutdown:{s.nameOf i}"] } i
    fun c => c.settle .running .stopped
  exact ⟨hmap.storage, hmap.each.length, hmap.each.block⟩

/-- What is done to a source, once it is found. -/
lemma source_keeps {op : Operation ω γ π α} {x : SourceBlock γ}
    (h : op.Keeps Spares Handles (All (SourceAt i))) (hs : s.All fun _ => Block.Swept)
    (hx : s.block? i = some (.source x)) :
    op.Meets Spares Handles (fun _ => All fun _ => Block.Swept) s := by
  refine (h s fun j b hb => ⟨hs j b hb, ?_⟩).weaken fun _ t ht => ht.mono fun _ _ hb => hb.1
  rintro rfl
  obtain rfl : b = .source x := by simpa [hx] using hb.symm
  trivial

theorem stop_keeps (i : Nat) : (stop i : Operation ω γ π (Except Error Unit)).Keeps
    Spares Handles (All fun _ => Block.Swept) := by
  refine Routine.keeps_get spared_swept.all (fun s => (Leaves.refl s).handles) fun s hs => ?_
  split
  · rename_i x hx
    exact source_keeps (stopSource_keeps i) hs hx
  · exact stopSink_keeps i s hs
  · exact tidy_moveStage i _ _ _ _ spared_swept s hs
  · exact tidy_pure _ _ spared_swept s hs

theorem shutdown_keeps (i : Nat) : (shutdown i : Operation ω γ π Unit).Keeps
    Spares Handles (All fun _ => Block.Swept) := by
  refine Routine.keeps_get spared_swept.all (fun s => (Leaves.refl s).handles) fun s hs => ?_
  split
  · rename_i x hx
    exact source_keeps (shutdownSource_keeps i) hs hx
  · exact shutdownSink_keeps i s hs
  · exact tidy_shutdownStage i _ spared_swept s hs
  · exact tidy_pure _ _ spared_swept s hs

theorem halt_keeps (i : Nat) : (halt i : Operation ω γ π Unit).Keeps
    Spares Handles (All fun _ => Block.Swept) := by
  refine Routine.keeps_get spared_swept.all (fun s => (Leaves.refl s).handles) fun s hs => ?_
  split
  · refine Routine.Keeps.bind interference_spares (stop_keeps i) (fun r => ?_) s hs
    cases r with
    | ok _ => exact tidy_pure _ _ spared_swept
    | error e => exact shutdown_keeps i
  · exact shutdown_keeps i s hs
  · exact tidy_pure _ _ spared_swept s hs

end Network

end FrameGraph
