import FrameGraph.Proofs.Network.Control

/-!
# Blocks that fail

Few moves make a block fail: the generator of a source is out of memory or is aborted, a tap is
aborted, or the processor of a sink is aborted. The thread that comes upon the failure goes on in no
way in which it could come upon another one, and whoever listens is told once. Errors that concern
one frame only are not failures.
-/

namespace FrameGraph

/-- Nothing but the statistics is different. -/
def BlockCore.Recounts (c c' : BlockCore) : Prop := ∃ stats, c' = { c with stats }

namespace BlockCore

variable {c c' c'' : BlockCore}

lemma Recounts.refl (c : BlockCore) : c.Recounts c := ⟨_, rfl⟩

lemma Recounts.trans (h : c.Recounts c') (h' : c'.Recounts c'') : c.Recounts c'' := by
  obtain ⟨_, rfl⟩ := h
  obtain ⟨_, rfl⟩ := h'
  exact ⟨_, rfl⟩

lemma Recounts.name (h : c.Recounts c') : c'.name = c.name := by
  obtain ⟨_, rfl⟩ := h
  rfl

lemma Recounts.state (h : c.Recounts c') : c'.state = c.state := by
  obtain ⟨_, rfl⟩ := h
  rfl

lemma Recounts.lastError (h : c.Recounts c') : c'.lastError = c.lastError := by
  obtain ⟨_, rfl⟩ := h
  rfl

lemma Recounts.listener (h : c.Recounts c') : c'.listener = c.listener := by
  obtain ⟨_, rfl⟩ := h
  rfl

end BlockCore

/-! ### Blocks -/

namespace Block

variable {γ π : Type} {b b' b'' : Block γ π} {message : String}

/-- The name of a block that has failed, and its error. -/
def failure? (b : Block γ π) : Option (String × String) :=
  if b.state = .error then some (b.name, b.core.lastError) else none

/-- The thread of the block may come upon a failure. -/
def AtWork : Block γ π → Prop
  | .source x => x.thread ≠ .absent ∧ x.thread ≠ .ended
  | .sink y => ∃ f, y.engine.worker = .processing f
  | .stage _ => False

/-- What happens to a block that does not fail. -/
structure Calm (b b' : Block γ π) : Prop where
  core : b.core.Recounts b'.core
  thread : b'.hasThread = b.hasThread
  threaded : b.Threaded → b'.Threaded
  /-- A block that has failed does not go back to work. -/
  work : b'.AtWork → b.AtWork ∨ b.state ≠ .error

/-- What happens to a block whose thread comes upon a failure. -/
structure Fails (message : String) (b b' : Block γ π) : Prop where
  work : b.AtWork
  core : ∃ c, b.core.Recounts c ∧ b'.core = (c.fail message).1
  thread : b'.hasThread = true
  rests : ¬b'.AtWork

lemma failure?_eq_none : b.failure? = none ↔ b.state ≠ .error := by
  unfold failure?
  split <;> simp_all

lemma failure?_congr (hname : b'.name = b.name) (hstate : b'.state = .error ↔ b.state = .error)
    (herror : b'.core.lastError = b.core.lastError) : b'.failure? = b.failure? := by
  simp only [failure?, hname, hstate, herror]

lemma AtWork.hasThread (h : b.AtWork) : b.hasThread = true := by
  cases b with
  | source x => simpa [Block.hasThread] using h.1
  | sink y =>
    obtain ⟨f, hf⟩ := h
    simp [Block.hasThread, hf]
  | stage z => exact h.elim

lemma Calm.refl (b : Block γ π) : b.Calm b := ⟨.refl _, rfl, id, .inl⟩

lemma Calm.state (h : b.Calm b') : b'.state = b.state := h.core.state

lemma Calm.trans (h : b.Calm b') (h' : b'.Calm b'') : b.Calm b'' where
  core := h.core.trans h'.core
  thread := h'.thread.trans h.thread
  threaded := h'.threaded ∘ h.threaded
  work hwork := by
    rcases h'.work hwork with hwork | hstate
    · exact h.work hwork
    · exact .inr (h.state ▸ hstate)

lemma Calm.failure? (h : b.Calm b') : b'.failure? = b.failure? :=
  failure?_congr h.core.name (by rw [h.state]) h.core.lastError

lemma Fails.failure? (h : b.Fails message b') : b'.failure? = some (b.name, message) := by
  obtain ⟨c, hc, hcore⟩ := h.core
  have hname : b'.name = b.name := (congrArg BlockCore.name hcore).trans hc.name
  have hstate : b'.state = .error := congrArg BlockCore.state hcore
  have herror : b'.core.lastError = message := congrArg BlockCore.lastError hcore
  rw [Block.failure?, if_pos hstate, hname, herror]

lemma Fails.listener (h : b.Fails message b') : b'.core.listener = b.core.listener := by
  obtain ⟨c, hc, hcore⟩ := h.core
  exact (congrArg BlockCore.listener hcore).trans hc.listener

/-- The thread stays where it is. -/
lemma calm_of_thread_eq {x x' : SourceBlock γ} (hcore : x.core.Recounts x'.core)
    (hthread : x'.thread = x.thread) : (Block.source x : Block γ π).Calm (.source x') where
  core := hcore
  thread := by rw [Block.hasThread, Block.hasThread, hthread]
  threaded := id
  work h := .inl (by rwa [AtWork, hthread] at h)

section Source

variable {x x' : SourceBlock γ} (hwork : (Block.source x : Block γ π).AtWork)

include hwork

/-- A source goes on, whatever its thread does next. -/
lemma calm_source (hcore : x.core.Recounts x'.core) (hpresent : x'.thread ≠ .absent) :
    (Block.source x : Block γ π).Calm (.source x') where
  core := hcore
  thread := by
    rw [Bool.eq_iff_iff]
    simpa [Block.hasThread, hpresent] using hwork.1
  threaded := id
  work _ := .inl hwork

/-- The thread of a source ends when it comes upon a failure. -/
lemma fails_source (hcore : x'.core = (x.core.fail message).1) (hended : x'.thread = .ended) :
    (Block.source x : Block γ π).Fails message (.source x') where
  work := hwork
  core := ⟨_, .refl _, hcore⟩
  thread := by simp [Block.hasThread, hended]
  rests h := h.2 hended

end Source

end Block

/-! ### Queues -/

namespace SinkEngine

variable {e e' e'' : SinkEngine} {o : Offer} {f : Frame}

/-- What happens to the queue of a sink that does not fail. -/
structure Calm (e e' : SinkEngine) : Prop where
  core : e.core.Recounts e'.core
  absent : e'.worker = .absent ↔ e.worker = .absent
  work : ∀ f, e'.worker = .processing f → e.worker = .processing f ∨ e.core.state ≠ .error

lemma Calm.refl (e : SinkEngine) : e.Calm e := ⟨.refl _, .rfl, fun _ => .inl⟩

lemma Calm.block {γ π : Type} {y : SinkBlock π} {processor : π} (h : y.engine.Calm e') :
    (Block.sink y : Block γ π).Calm (.sink { y with engine := e', processor }) where
  core := h.core
  thread := by
    rw [Bool.eq_iff_iff]
    simpa [Block.hasThread] using not_congr h.absent
  threaded := id
  work := by
    rintro ⟨f, hf⟩
    exact (h.work f hf).imp_left fun hwork => ⟨f, hwork⟩

/-- The worker may be woken, and otherwise stays where it is. -/
lemma Calm.of_worker (hcore : e.core.Recounts e'.core) (hworker : e'.worker = e.wakeWorker.worker) :
    e.Calm e' where
  core := hcore
  absent := by rw [hworker, absent_wakeWorker]
  work f hf := by
    by_cases hsleeping : e.worker = .sleeping
    · simp [hworker, wakeWorker, hsleeping] at hf
    · rw [hworker, wakeWorker_of_ne hsleeping] at hf
      exact .inl hf

/-- A worker that is about to look at the queue, or has taken a frame, does not process one. -/
lemma Calm.of_seeking (hcore : e.core.Recounts e'.core) (hpresent : e.worker ≠ .absent)
    (hpresent' : e'.worker ≠ .absent)
    (hwork : e.core.state = .error → ∀ f, e'.worker ≠ .processing f) : e.Calm e' where
  core := hcore
  absent := by simp [hpresent, hpresent']
  work f hf := by
    by_cases hstate : e.core.state = .error
    · exact absurd hf (hwork hstate f)
    · exact .inr hstate

lemma calm_of_worker_eq (hcore : e.core.Recounts e'.core) (hworker : e'.worker = e.worker) :
    e.Calm e' := ⟨hcore, by rw [hworker], fun f hf => .inl (hworker ▸ hf)⟩

lemma Calm.trans (h : e.Calm e') (h' : e'.Calm e'') : e.Calm e'' where
  core := h.core.trans h'.core
  absent := h'.absent.trans h.absent
  work f hf := by
    rcases h'.work f hf with hwork | hstate
    · exact h.work f hwork
    · exact .inr (h.core.state ▸ hstate)

lemma push_calm (f : Frame) : e.Calm (e.push f) := by
  have hcore : e.core.Recounts (e.push f).core := by
    rw [push, wakeWorker_core]
    exact ⟨_, rfl⟩
  refine .of_worker hcore ?_
  simp only [push, wakeWorker]
  split <;> rfl

lemma consider_calm : e.Calm (e.consider o).2 := by
  by_cases hstop : e.stopping = true
  · rw [consider_of_stopping hstop]
    exact .refl e
  rw [Bool.not_eq_true] at hstop
  by_cases hroom : e.queue.length < e.maxDepth
  · rw [consider_of_room hstop hroom]
    exact push_calm _
  cases hpolicy : e.policy with
  | block =>
    rw [consider_of_block hstop hroom hpolicy]
    exact calm_of_worker_eq ⟨_, rfl⟩ rfl
  | dropOldest =>
    rw [consider_of_dropOldest hstop hroom hpolicy]
    have hdrops : e.Calm { e with
        queue := (makeRoom e.maxDepth e.queue).2
        core := e.core.recordDrops (makeRoom e.maxDepth e.queue).1.length } :=
      calm_of_worker_eq ⟨_, rfl⟩ rfl
    exact hdrops.trans (push_calm _)

lemma Picks.calm {i : Nat} {m : Move} (h : e.Picks i m o e') : e.Calm e' := by
  cases h <;> exact calm_of_worker_eq ⟨_, rfl⟩ rfl

lemma seek_calm (h : e.worker = .seeking) : e.Calm e.seek := by
  by_cases hstop : e.stopping = true
  · rw [seek_of_stopping hstop]
    exact .of_seeking ⟨_, rfl⟩ (by simp [h]) (by simp) (by simp)
  rw [Bool.not_eq_true] at hstop
  cases hqueue : e.queue with
  | nil =>
    rw [seek_of_empty hstop hqueue]
    exact .of_seeking ⟨_, rfl⟩ (by simp [h]) (by simp) (by simp)
  | cons f rest =>
    rw [seek_of_cons hstop hqueue]
    refine .of_seeking ?_ (by simp [h]) (by simp) (by simp)
    rw [notifyProducer_core]
    exact ⟨_, rfl⟩

/-- A worker whose block has failed drops the frame that it took. -/
lemma begin_calm (h : e.worker = .holding f) : e.Calm (e.begin f).2 := by
  unfold begin
  split
  · exact .of_seeking ⟨_, rfl⟩ (by simp [h]) (by simp) (by simp)
  · rename_i hstate
    exact .of_seeking ⟨_, rfl⟩ (by simp [h]) (by simp) fun herror => absurd herror hstate

/-- The processor took a frame or refused it. -/
lemma finish_calm (h : e.worker = .processing f) {outcome : Result Unit}
    (houtcome : ∀ p, outcome ≠ .error (.panic p)) (now : Nat) :
    (e.finish f outcome now).1 = none ∧ e.Calm (e.finish f outcome now).2 := by
  match outcome with
  | .ok () =>
    have hcore : e.core.Recounts (e.core.recordProcessed f.buffer.size (latency f now)).2 :=
      ⟨_, rfl⟩
    simp only [finish]
    split
    all_goals
      rename_i core hrecord
      obtain rfl := congrArg Prod.snd hrecord
      exact ⟨rfl, .of_seeking hcore (by simp [h]) (by simp) (by simp)⟩
  | .error (.error _) =>
    exact ⟨rfl, .of_seeking ⟨_, rfl⟩ (by simp [h]) (by simp [finish]) (by simp [finish])⟩
  | .error (.panic p) => exact absurd rfl (houtcome p)

end SinkEngine

/-! ### Networks -/

namespace Network

variable {ω γ π : Type} {r s t u : Network ω γ π} {i : Nat} {b b' : Block γ π}

/-- What concerns neither a block nor a listener. -/
structure Aside (s t : Network ω γ π) : Prop where
  blocks : t.blocks = s.blocks
  heard : t.heard = s.heard
  listening : t.listening = s.listening

/-- No block fails. -/
structure Calm (s t : Network ω γ π) : Prop where
  heard : t.heard = s.heard
  listening : t.listening = s.listening
  blocks : s.Each (fun _ => Block.Calm) t

/-- The thread of the block `i` comes upon a failure. -/
inductive Fails (i : Nat) (s t : Network ω γ π) : Prop
  | intro {b b' message} (hb : s.block? i = some b) (h : b.Fails message b')
    (hblocks : t.blocks = s.blocks.set i b')
    (hheard : t.heard = (s.hear (b.core.fail message).2).heard)
    (hlistening : t.listening = s.listening)

/-- No block fails, or one does. -/
def Proceeds (s t : Network ω γ π) : Prop := s.Calm t ∨ ∃ i, Fails i s t

lemma Aside.refl (s : Network ω γ π) : s.Aside s := ⟨rfl, rfl, rfl⟩

lemma Aside.block? (h : s.Aside t) (i : Nat) : t.block? i = s.block? i :=
  block?_of_blocks_eq h.blocks i

lemma Aside.calm (h : s.Aside t) : s.Calm t :=
  ⟨h.heard, h.listening, each_of_blocks_eq h.blocks fun _ => .refl⟩

lemma Calm.refl (s : Network ω γ π) : s.Calm s := (Aside.refl s).calm

lemma Calm.trans (h : s.Calm t) (h' : t.Calm u) : s.Calm u :=
  ⟨h'.heard.trans h.heard, h'.listening.trans h.listening,
    h.blocks.trans h'.blocks fun _ _ _ _ => .trans⟩

/-! ### What is heard -/

lemma heard_hear (s : Network ω γ π) (report : Option Report) : (s.hear report).heard =
    s.heard ++ if s.listening then report.toList.map fun r => (r.block, r.message) else [] := by
  cases report with
  | none => simp [hear]
  | some r => by_cases h : s.listening = true <;> simp [hear, h]

@[simp] lemma listening_hear (s : Network ω γ π) (report : Option Report) :
    (s.hear report).listening = s.listening := by
  cases report with
  | none => rfl
  | some r => by_cases h : s.listening = true <;> simp [hear, h]

lemma aside_tapFrame (s : Network ω γ π) (tap : Tap) (f : Frame) :
    s.Aside (s.tapFrame tap f).2 := by
  unfold tapFrame
  split <;> exact ⟨rfl, rfl, rfl⟩

lemma aside_elim_release (s : Network ω γ π) (f : Option Frame) :
    s.Aside (f.elim s s.release) := by
  cases f <;> exact ⟨rfl, rfl, rfl⟩

/-- The report of a block that fails is heard. -/
lemma fails_hear {message : String} (hb : s.block? i = some b) (h : b.Fails message b')
    (hblocks : r.blocks = s.blocks.set i b') (hheard : r.heard = s.heard)
    (hlistening : r.listening = s.listening) : Fails i s (r.hear (b.core.fail message).2) := by
  refine .intro hb h (by rw [blocks_hear, hblocks]) ?_ (by rw [listening_hear, hlistening])
  rw [heard_hear, heard_hear, hheard, hlistening]

lemma calm_sink {y : SinkBlock π} {e : SinkEngine} {processor : π}
    (hy : s.block? i = some (.sink y))
    (hblocks : t.blocks = s.blocks.set i (.sink { y with engine := e, processor }))
    (hheard : t.heard = s.heard) (hlistening : t.listening = s.listening) (h : y.engine.Calm e) :
    s.Calm t :=
  ⟨hheard, hlistening, each_of_set hblocks hy h.block fun _ => .refl⟩

/-! ### Sources -/

section Sources

variable {x x' : SourceBlock γ} (hx : s.block? i = some (.source x))
  (hwork : (Block.source x : Block γ π).AtWork)

include hx hwork

lemma calm_setSource (hr : s.Aside r) (hcore : x.core.Recounts x'.core)
    (hpresent : x'.thread ≠ .absent) : s.Calm (r.setSource i x') :=
  ⟨hr.heard, hr.listening, each_of_set (by rw [blocks_setSource, hr.blocks]) hx
    (Block.calm_source hwork hcore hpresent) fun _ => .refl⟩

lemma fails_setSource {message : String} (hr : s.Aside r)
    (hcore : x'.core = (x.core.fail message).1) (hended : x'.thread = .ended) :
    Fails i s ((r.setSource i x').hear (x.core.fail message).2) :=
  fails_hear hx (Block.fails_source hwork hcore hended) (by rw [blocks_setSource, hr.blocks])
    hr.heard hr.listening

lemma fails_fail (hr : s.Aside r) (hcore : x'.core = x.core) (hended : x'.thread = .ended)
    (message : String) : Fails i s ((r.setSource i x').fail i message) := by
  have hb : (r.setSource i x').block? i = some (.source x') :=
    block?_of_set_self (blocks_setSource _) ((hr.block? i).trans hx)
  have hset : (r.setSource i x').setBlock i ((Block.source x' : Block γ π).mapCore fun _ =>
      (x'.core.fail message).1) = r.setSource i (x'.mapCore fun _ => (x.core.fail message).1) := by
    simp only [setSource, setBlock, List.set_set, Block.mapCore, hcore]
  simp only [fail, hb, Block.core]
  rw [show x'.engine.core = x'.core from rfl, hset, hcore]
  exact fails_setSource hx hwork hr rfl hended

lemma takeGenerated_proceeds (hr : s.Aside r) (g : γ) (outcome : Result (Option FrameBuffer)) :
    s.Proceeds (r.takeGenerated i { x with generator := g } outcome) := by
  have hfails (message : String) : s.Proceeds
      ((r.setSource i { x with generator := g, thread := .ended }).fail i message) := by
    refine .inr ⟨i, fails_fail hx hwork hr ?_ ?_ message⟩ <;> rfl
  match outcome with
  | .ok (some buffer) => exact .inl (calm_setSource hx hwork hr (.refl _) (by simp))
  | .ok none => exact .inl (calm_setSource hx hwork hr (.refl _) (by simp))
  | .error (.panic p) => exact hfails _
  | .error (.error e) =>
    simp only [takeGenerated]
    split
    · exact hfails _
    · exact .inl (calm_setSource hx hwork hr ⟨_, rfl⟩ (by simp))

lemma check_proceeds [Generator γ] : s.Proceeds (s.check i x) := by
  unfold check
  split
  · exact .inl (calm_setSource hx hwork (.refl s) (.refl _) (by simp))
  split
  · exact .inl (calm_setSource hx hwork (.refl s) (.refl _) (by simp))
  split
  · exact .inl (calm_setSource hx hwork (.refl s) (.refl _) (by simp))
  · rename_i pool _
    let made := Generator.generate x.generator x.format pool
    have hpool : s.Aside (s.mapStorage (·.setPool made.pool)) := ⟨rfl, rfl, rfl⟩
    exact takeGenerated_proceeds hx hwork hpool _ _

lemma pauseAfter_calm (hr : s.Aside r) {engine : SourceEngine}
    (hcore : x.core.Recounts engine.core) : s.Calm (r.pauseAfter i { x with engine }) := by
  refine calm_setSource hx hwork hr hcore ?_
  dsimp only
  split <;> simp

lemma countDelivered_calm (hr : s.Aside r) {engine : SourceEngine}
    (hcore : x.core.Recounts engine.core) (bytes : Nat) :
    s.Calm (r.countDelivered i { x with engine } bytes) := by
  have hcount : x.core.Recounts (engine.delivered bytes).2.core := hcore.trans ⟨_, rfl⟩
  unfold countDelivered
  split
  all_goals
    rename_i engine' hdelivered
    obtain rfl : (engine.delivered bytes).2 = engine' := congrArg Prod.snd hdelivered
    exact calm_setSource hx hwork hr hcount (by simp)

/-- A tap may be aborted; the block fails then. -/
lemma emitTo_proceeds {engine : SourceEngine} (hcore : engine.core = x.core) (c : Consumer)
    (buffer : FrameBuffer) : s.Proceeds (s.emitTo i { x with engine } c buffer) := by
  have hrecounts : x.core.Recounts engine.core := hcore ▸ .refl _
  match c with
  | .fanOut [] => exact .inl (calm_setSource hx hwork ⟨rfl, rfl, rfl⟩ hrecounts (by simp))
  | .fanOut (k :: rest) =>
    exact .inl (calm_setSource hx hwork ⟨rfl, rfl, rfl⟩ hrecounts (by simp))
  | .tap tap =>
    simp only [emitTo]
    generalize hg : Network.tapFrame _ tap _ = noted
    have hnoted : s.Aside noted.2 := by
      obtain ⟨hblocks, hheard, hlistening⟩ := aside_tapFrame
        { s with storage := (s.storage.share buffer).2 } tap (s.storage.share buffer).1
      exact hg ▸ ⟨hblocks, hheard, hlistening⟩
    split
    · refine .inl (countDelivered_calm hx hwork hnoted ?_ _)
      exact hrecounts
    · refine .inr ⟨i, ?_⟩
      simp only [SourceEngine.undelivered, hcore]
      exact fails_setSource hx hwork hnoted rfl rfl

lemma emit_proceeds (buffer : FrameBuffer) : s.Proceeds (s.emit i x buffer) := by
  unfold emit
  cases hc : x.engine.consumer with
  | none =>
    rw [SourceEngine.begin_of_unheard hc]
    exact .inl (pauseAfter_calm (r := s.mapStorage _) hx hwork ⟨rfl, rfl, rfl⟩ (.refl _))
  | some c =>
    by_cases hadmits : x.engine.admits s.clock = true
    · rw [SourceEngine.begin_of_admits hc hadmits]
      refine emitTo_proceeds hx hwork ?_ c _
      rfl
    · rw [SourceEngine.begin_of_early hc hadmits]
      exact .inl (pauseAfter_calm (r := s.mapStorage _) hx hwork ⟨rfl, rfl, rfl⟩ ⟨_, rfl⟩)

lemma deliver_calm (f : Frame) (k : Nat) (rest : List Nat) : s.Calm (s.deliver i x f k rest) := by
  unfold deliver
  dsimp only
  generalize hr : (if rest.isEmpty = true then s else s.mapStorage (·.retain f)) = r
  have haside : s.Aside r := by
    rw [← hr]
    split <;> exact ⟨rfl, rfl, rfl⟩
  have hreleased : s.Aside (r.release f) := ⟨haside.blocks, haside.heard, haside.listening⟩
  split
  · exact calm_setSource hx hwork hreleased (.refl _) (by simp)
  rename_i y hy
  split
  · exact calm_setSource hx hwork hreleased (.refl _) (by simp)
  · rw [sink?_eq_some, haside.block?] at hy
    have happroach : s.Calm (r.setSink k { y with
        engine := y.engine.approach ⟨.source i, f⟩ }) :=
      calm_sink hy (congrArg (List.set · k _) haside.blocks) haside.heard haside.listening
        (SinkEngine.calm_of_worker_eq (.refl _) rfl)
    have hx' : (r.setSink k { y with
        engine := y.engine.approach ⟨.source i, f⟩ }).block? i = some (.source x) := by
      rw [block?_of_set_ne (blocks_setSink _) (ne_of_source_of_sink hx hy).symm, haside.block?, hx]
    exact happroach.trans (calm_setSource hx' hwork (.refl _) (.refl _) (by simp))

end Sources

lemma moveSource_proceeds [Generator γ] (h : s.moveSource i = some t) : s.Proceeds t := by
  unfold moveSource at h
  split at h
  · cases h
  rename_i x hx
  rw [source?_eq_some] at hx
  have hwork (habsent : x.thread ≠ .absent) (hended : x.thread ≠ .ended) :
      (Block.source x : Block γ π).AtWork := ⟨habsent, hended⟩
  split at h
  case h_1 | h_2 | h_3 => cases h
  case h_4 hthread =>
    cases h
    exact check_proceeds hx (hwork (by simp [hthread]) (by simp [hthread]))
  case h_5 hthread =>
    split at h
    · cases h
      exact .inl (calm_setSource hx (hwork (by simp [hthread]) (by simp [hthread])) (.refl s)
        (.refl _) (by simp))
    · cases h
  case h_6 buffer hthread =>
    cases h
    exact emit_proceeds hx (hwork (by simp [hthread]) (by simp [hthread])) buffer
  case h_7 f hthread =>
    cases h
    exact .inl (countDelivered_calm hx (hwork (by simp [hthread]) (by simp [hthread])) (.refl s)
      (.refl _) _)
  case h_8 f k rest hthread =>
    cases h
    exact .inl (deliver_calm hx (hwork (by simp [hthread]) (by simp [hthread])) f k rest)

/-! ### Sinks -/

section Sinks

variable [Processor ω π] {y : SinkBlock π}

/-- The processor may be aborted; the block fails then. -/
lemma process_proceeds {f : Frame} (hy : s.block? i = some (.sink y))
    (hworker : y.engine.worker = .processing f) : s.Proceeds (s.process i y f) := by
  simp only [process]
  generalize Processor.process y.processor f.buffer s.world = processed
  obtain ⟨outcome, processor, world⟩ := processed
  dsimp only
  by_cases hpanic : ∃ p, outcome = .error (.panic p)
  · obtain ⟨p, rfl⟩ := hpanic
    have hfails : (Block.sink y : Block γ π).Fails s!"frame processor panicked: {p.message}"
        (.sink { y with
          processor, engine := (y.engine.finish f (.error (.panic p)) s.clock).2 }) := by
      refine ⟨⟨f, hworker⟩, ⟨_, ⟨_, rfl⟩, rfl⟩, rfl, ?_⟩
      rintro ⟨_, h⟩
      cases h
    exact .inr ⟨i, fails_hear hy hfails rfl rfl rfl⟩
  · have hcalm := SinkEngine.finish_calm hworker (fun p hp => hpanic ⟨p, hp⟩) s.clock
    rw [hcalm.1]
    exact .inl (calm_sink hy rfl rfl rfl hcalm.2)

lemma moveWorker_proceeds (h : s.moveWorker i = some t) : s.Proceeds t := by
  unfold moveWorker at h
  split at h
  · cases h
  rename_i y hy
  rw [sink?_eq_some] at hy
  split at h
  case h_1 | h_2 | h_3 => cases h
  case h_4 hworker =>
    cases h
    exact .inl (calm_sink hy rfl rfl rfl (SinkEngine.seek_calm hworker))
  case h_5 f hworker =>
    cases h
    have hreleased := aside_elim_release (s.setSink i { y with engine := (y.engine.begin f).2 })
      (y.engine.begin f).1
    exact .inl (calm_sink hy hreleased.blocks hreleased.heard hreleased.listening
      (SinkEngine.begin_calm hworker))
  case h_6 f hworker =>
    split at h
    · cases h
      exact process_proceeds hy hworker
    · cases h

lemma moveThrough_proceeds (h : s.moveThrough i = some t) : s.Proceeds t := by
  unfold moveThrough at h
  split at h
  · cases h
  rename_i y hy
  rw [sink?_eq_some] at hy
  split at h
  · cases h
    exact process_proceeds hy (by assumption)
  · cases h

end Sinks

/-! ### Producers -/

lemma answer_calm (s : Network ω γ π) (p : Producer) (r : Except Error Unit) :
    s.Calm (s.answer p r) := by
  unfold answer
  split
  · exact Aside.calm (by constructor <;> rfl)
  split
  · rename_i x hx
    rw [source?_eq_some] at hx
    split
    · rename_i f targets hthread
      exact calm_setSource hx (by constructor <;> simp [hthread]) (.refl s) (.refl _) (by simp)
    · exact .refl s
  · exact .refl s

lemma look_calm {y : SinkBlock π} {e : SinkEngine} {m : Move} {o : Offer}
    (hy : s.block? i = some (.sink y)) (hpick : y.engine.Picks i m o e) :
    s.Calm (s.look i { y with engine := e } o) := by
  have hcalm : y.engine.Calm (e.consider o).2 := hpick.calm.trans SinkEngine.consider_calm
  unfold look
  dsimp only
  split
  · exact .trans (t := (s.setSink i _).mapStorage _) (calm_sink hy rfl rfl rfl hcalm)
      (answer_calm _ _ _)
  · exact .trans (t := (s.setSink i _).release _) (calm_sink hy rfl rfl rfl hcalm)
      (answer_calm _ _ _)
  · exact calm_sink hy rfl rfl rfl hcalm

lemma moveArrival_calm {k : Nat} (h : s.moveArrival i k = some t) : s.Calm t := by
  unfold moveArrival at h
  split at h
  · cases h
  rename_i y hy
  split at h
  · cases h
  rename_i o ho
  cases h
  exact look_calm (sink?_eq_some.1 hy) (.arrives k ho)

lemma moveRetry_calm {k : Nat} (h : s.moveRetry i k = some t) : s.Calm t := by
  unfold moveRetry at h
  split at h
  · cases h
  rename_i y hy
  split at h
  · cases h
  rename_i o ho
  cases h
  exact look_calm (sink?_eq_some.1 hy) (.returns k ho)

/-! ### All moves -/

variable [Generator γ] [Processor ω π]

/-- With a move no block fails, or the thread that goes on comes upon a failure. -/
theorem perform_proceeds {m : Move} (h : s.perform m = some t) : s.Proceeds t := by
  cases m with
  | tick span =>
    cases h
    exact .inl (Aside.calm (by constructor <;> rfl))
  | deny reason =>
    cases h
    exact .inl (Aside.calm (by constructor <;> rfl))
  | source i => exact moveSource_proceeds h
  | worker i => exact moveWorker_proceeds h
  | letThrough i => exact moveThrough_proceeds h
  | arrive i k => exact .inl (moveArrival_calm h)
  | retry i k => exact .inl (moveRetry_calm h)

/-- With this move a hook returns an error that concerns one frame only: a generator fails otherwise
than for want of memory, or a processor refuses a frame. -/
inductive Mishap (s : Network ω γ π) : Move → Prop
  | generator {i x pool e} (hx : s.block? i = some (.source x)) (hthread : x.thread = .checking)
    (hstop : x.stop.raised = false) (hadmits : x.engine.admits s.clock = true)
    (hpool : s.storage.pool? x.lending = some pool)
    (hmade : (Generator.generate x.generator x.format pool).outcome = .error (.error e))
    (he : e.isResource = false) : Mishap s (.source i)
  | processor {m i y f e} (hm : m = .worker i ∨ m = .letThrough i)
    (hy : s.block? i = some (.sink y)) (hworker : y.engine.worker = .processing f)
    (hrefused : (Processor.process y.processor f.buffer s.world).1 = .error (.error e)) :
    Mishap s m

/-- Such an error is no failure of a block. -/
theorem Mishap.calm {m : Move} (h : s.Mishap m) (hm : s.perform m = some t) : s.Calm t := by
  cases h with
  | @generator i x pool e hx hthread hstop hadmits hpool hmade he =>
    have hwork : (Block.source x : Block γ π).AtWork := by constructor <;> simp [hthread]
    simp only [perform, moveSource, source?_eq_some.2 hx, hthread, check, hstop, hadmits, hpool,
      hmade, takeGenerated, he, Bool.not_true, Bool.false_eq_true, if_false] at hm
    cases hm
    exact calm_setSource hx hwork ⟨rfl, rfl, rfl⟩ ⟨_, rfl⟩ (by simp)
  | @processor _ i y f e hmove hy hworker hrefused =>
    have hcalm : s.Calm (s.process i y f) := by
      have hfinish : (y.engine.finish f (Processor.process y.processor f.buffer s.world).1
          s.clock).1 = none ∧ _ := SinkEngine.finish_calm hworker (by simp [hrefused]) s.clock
      simp only [process, hfinish.1]
      exact calm_sink hy rfl rfl rfl hfinish.2
    rcases hmove with rfl | rfl
    · simp only [perform, moveWorker, sink?_eq_some.2 hy, hworker] at hm
      split at hm
      · cases hm
        exact hcalm
      · cases hm
    · simp only [perform, moveThrough, sink?_eq_some.2 hy, hworker] at hm
      cases hm
      exact hcalm

end Network

end FrameGraph
