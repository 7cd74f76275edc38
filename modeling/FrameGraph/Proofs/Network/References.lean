import FrameGraph.Proofs.Frame.References
import FrameGraph.Proofs.Sink.References

/-!
# The references in a network

Each reference to a frame is in the hands of a source or of a sink, and each buffer that is not
shared is about to be emitted by a source. Moves pass references on, make them and release them, and
the storage keeps backing them all.
-/

namespace FrameGraph

/-! ### What blocks have in their hands -/

namespace SourceThread

/-- The reference of a thread that hands a frame to sinks; the last sink gets it. -/
def refs : SourceThread → List Frame
  | .delivering f (_ :: _) | .submitting f (_ :: _) => [f]
  | _ => []

/-- The buffer that is about to be emitted. -/
def offered : SourceThread → List FrameBuffer
  | .offering b => [b]
  | _ => []

end SourceThread

namespace Block

variable {γ π : Type}

def refs : Block γ π → List Frame
  | .source x => x.thread.refs
  | .sink y => y.engine.refs
  | .stage _ => []

def offered : Block γ π → List FrameBuffer
  | .source x => x.thread.offered
  | _ => []

variable {b : Block γ π}

lemma refs_mapCore (f : BlockCore → BlockCore) : (b.mapCore f).refs = b.refs := by
  cases b <;> rfl

lemma offered_mapCore (f : BlockCore → BlockCore) : (b.mapCore f).offered = b.offered := by
  cases b <;> rfl

end Block

/-- The frames are what is left of a list once an item of it was replaced. -/
lemma flatMap_set_perm {α β : Type} (g : α → List β) {l : List α} {i : Nat} {a : α} (a' : α)
    (h : l[i]? = some a) : (l.flatMap g).Perm (g a ++ (l.eraseIdx i).flatMap g) ∧
      ((l.set i a').flatMap g).Perm (g a' ++ (l.eraseIdx i).flatMap g) := by
  induction l generalizing i with
  | nil => simp at h
  | cons c l ih =>
    cases i with
    | zero =>
      obtain rfl : c = a := by simpa using h
      exact ⟨.refl _, .refl _⟩
    | succ i =>
      obtain ⟨hold, hnew⟩ := ih (i := i) (by simpa using h)
      simp only [List.set_cons_succ, List.eraseIdx_cons_succ, List.flatMap_cons]
      exact ⟨(hold.append_left _).trans (List.perm_append_comm_assoc ..),
        (hnew.append_left _).trans (List.perm_append_comm_assoc ..)⟩

namespace Network

variable {ω γ π : Type} {s t : Network ω γ π} {i : Nat} {b b' : Block γ π} {f : Frame}
  {buffer : FrameBuffer} {frames frames' : List Frame} {buffers buffers' : List FrameBuffer}

def refs (s : Network ω γ π) : List Frame := s.blocks.flatMap Block.refs

def offered (s : Network ω γ π) : List FrameBuffer := s.blocks.flatMap Block.offered

/-- The storage backs what the blocks have in their hands, and these frames and buffers. -/
def Backs (s : Network ω γ π) (frames : List Frame) (buffers : List FrameBuffer) : Prop :=
  s.storage.Backs (frames ++ s.refs) (buffers ++ s.offered)

lemma Backs.congr (h : s.Backs frames buffers) (hblocks : t.blocks = s.blocks)
    (hstorage : t.storage = s.storage) : t.Backs frames buffers := by
  rw [Backs, refs, Network.offered, hblocks, hstorage]
  exact h

/-! ### Rules -/

/-- One block is replaced, and the storage changes: what other blocks have in their hands stays. -/
lemma Backs.set (h : s.Backs frames buffers) (hb : s.block? i = some b)
    (ht : t.blocks = s.blocks.set i b')
    (hstorage : ∀ fs bs, s.storage.Backs (frames ++ (b.refs ++ fs)) (buffers ++ (b.offered ++ bs)) →
      t.storage.Backs (frames' ++ (b'.refs ++ fs)) (buffers' ++ (b'.offered ++ bs))) :
    t.Backs frames' buffers' := by
  obtain ⟨hrefs, hrefs'⟩ := flatMap_set_perm Block.refs b' hb
  obtain ⟨hbuffers, hbuffers'⟩ := flatMap_set_perm Block.offered b' hb
  rw [Backs, refs, Network.offered, ht]
  apply (hstorage _ _ (Storage.Backs.perm h (hrefs.append_left _) (hbuffers.append_left _))).perm
  · exact hrefs'.symm.append_left _
  · exact hbuffers'.symm.append_left _

/-- What a block has in its hands is passed on, or stays where it is. -/
lemma Backs.pass (h : s.Backs frames buffers) (hb : s.block? i = some b)
    (ht : t.blocks = s.blocks.set i b') (hstorage : t.storage = s.storage)
    (hrefs : (frames ++ b.refs).Perm (frames' ++ b'.refs))
    (hbuffers : (buffers ++ b.offered).Perm (buffers' ++ b'.offered)) :
    t.Backs frames' buffers' := by
  refine h.set hb ht fun fs bs hbacks => ?_
  rw [hstorage]
  apply hbacks.perm
  · rw [← List.append_assoc, ← List.append_assoc]
    exact hrefs.append_right fs
  · rw [← List.append_assoc, ← List.append_assoc]
    exact hbuffers.append_right bs

lemma Backs.release (h : s.Backs (f :: frames) buffers) : (s.release f).Backs frames buffers :=
  Storage.Backs.release h

lemma Backs.releaseAll {gone : List Frame} (h : s.Backs (gone ++ frames) buffers) :
    (s.mapStorage (·.releaseAll gone)).Backs frames buffers := by
  apply Storage.Backs.releaseAll (s := s.storage)
  rw [← List.append_assoc]
  exact h

lemma Backs.hear (h : s.Backs frames buffers) (r : Option Report) :
    (s.hear r).Backs frames buffers := h.congr (blocks_hear r) (storage_hear r)

lemma Backs.fail (h : s.Backs frames buffers) (i : Nat) (message : String) :
    (s.fail i message).Backs frames buffers := by
  cases hb : s.block? i with
  | none => simpa [Network.fail, hb] using h
  | some b =>
    refine h.pass hb (blocks_fail hb message) ?_ ?_ ?_
    · simp [Network.fail, hb, setBlock]
    · rw [Block.refs_mapCore]
    · rw [Block.offered_mapCore]

lemma Backs.answer (h : s.Backs frames buffers) (p : Producer) (r : Except Error Unit) :
    (s.answer p r).Backs frames buffers := by
  unfold Network.answer
  split
  · exact h.congr rfl rfl
  split
  · rename_i x hx
    split
    · rename_i g targets hthread
      refine h.pass (source?_eq_some.1 hx) (blocks_setSource _) rfl ?_ ?_
      · simp only [Block.refs, hthread]
        cases targets <;> exact .refl _
      · simp only [Block.offered, hthread]
        exact .refl _
    · exact h
  · exact h

/-! ### Sources -/

section Sources

variable {x x' : SourceBlock γ}

/-- The thread of a source goes on, without a reference. -/
lemma Backs.turn (h : s.Backs [] buffers) (hx : s.block? i = some (.source x))
    (ht : t.blocks = s.blocks.set i (.source x')) (hstorage : t.storage = s.storage)
    (hrefs : x.thread.refs = []) (hrefs' : x'.thread.refs = [])
    (hoffered : (buffers ++ x.thread.offered).Perm (buffers' ++ x'.thread.offered)) :
    t.Backs [] buffers' := by
  refine h.pass hx ht hstorage ?_ hoffered
  rw [Block.refs, Block.refs, hrefs, hrefs']

/-- What the generator handed over is about to be emitted. -/
lemma takeGenerated_backs {made : Generated γ} (h : s.Backs [] made.buffers)
    (hx : s.block? i = some (.source x)) (hthread : x.thread = .checking) :
    (s.takeGenerated i { x with generator := made.generator } made.outcome).Backs [] [] := by
  have hturn {x' : SourceBlock γ} (hrefs : x'.thread.refs = [])
      (hoffered : x'.thread.offered = made.buffers) : (s.setSource i x').Backs [] [] := by
    refine h.turn hx (blocks_setSource _) rfl (by rw [hthread]; rfl) hrefs ?_
    rw [hthread, hoffered]
    exact .of_eq (List.append_nil _)
  unfold Generated.buffers at hturn
  match hmade : made.outcome with
  | .ok (some buffer) => exact hturn rfl (by rw [hmade]; rfl)
  | .ok none => exact hturn rfl (by rw [hmade]; rfl)
  | .error (.panic p) => exact (hturn rfl (by rw [hmade]; rfl)).fail ..
  | .error (.error e) =>
    simp only [takeGenerated]
    split
    · exact (hturn rfl (by rw [hmade]; rfl)).fail ..
    · exact hturn rfl (by rw [hmade]; rfl)

lemma check_backs [Generator γ] (hγ : Generator.Borrows γ) (h : s.Backs [] [])
    (hx : s.block? i = some (.source x)) (hthread : x.thread = .checking) :
    (s.check i x).Backs [] [] := by
  have hends {thread : SourceThread} (hrefs : thread.refs = []) (hoffered : thread.offered = []) :
      (s.setSource i { x with thread }).Backs [] [] := by
    refine h.turn hx (blocks_setSource _) rfl (by rw [hthread]; rfl) hrefs ?_
    rw [hthread, hoffered]
    exact .refl _
  unfold check
  split
  · exact hends rfl rfl
  split
  · exact hends rfl rfl
  split
  · exact hends rfl rfl
  · rename_i pool hpool
    have hdeals : (s.mapStorage
        (·.setPool (Generator.generate x.generator x.format pool).pool)).Backs []
          (Generator.generate x.generator x.format pool).buffers :=
      Storage.Backs.deals h hpool (hγ x.generator x.format pool)
    exact takeGenerated_backs hdeals hx hthread

/-- A buffer that nobody takes is disposed of. -/
lemma pauseAfter_backs (h : s.Backs [] []) (hx : s.block? i = some (.source x))
    (hthread : x.thread = .offering buffer) (engine : SourceEngine) :
    ((s.mapStorage (·.dispose buffer)).pauseAfter i { x with engine }).Backs [] [] := by
  have hdisposes {x' : SourceBlock γ} (hrefs : x'.thread.refs = [])
      (hoffered : x'.thread.offered = []) :
      ((s.mapStorage (·.dispose buffer)).setSource i x').Backs [] [] := by
    refine h.set hx (blocks_setSource _) fun fs bs hbacks => ?_
    simp only [Block.refs, Block.offered, hthread] at hbacks
    rw [Block.refs, Block.offered, hrefs, hoffered]
    exact Storage.Backs.dispose hbacks
  unfold pauseAfter
  by_cases hstate : engine.core.state = .error
  · exact hdisposes (by simp [SourceBlock.core, hstate]; rfl)
      (by simp [SourceBlock.core, hstate]; rfl)
  · exact hdisposes (by simp [SourceBlock.core, hstate]; rfl)
      (by simp [SourceBlock.core, hstate]; rfl)

/-- The frame was counted, and nothing is left to do with it. -/
lemma countDelivered_backs (h : s.Backs [] []) (hx : s.block? i = some (.source x))
    (hthread : x.thread = .delivering f []) (bytes : Nat) :
    (s.countDelivered i x bytes).Backs [] [] := by
  have hdone {x' : SourceBlock γ} (h' : x'.thread = .checking ∨ x'.thread = .ended) :
      (s.setSource i x').Backs [] [] := by
    refine h.turn hx (blocks_setSource _) rfl (by rw [hthread]; rfl) ?_ ?_
    · rcases h' with h' | h' <;> rw [h'] <;> rfl
    · rw [hthread]
      rcases h' with h' | h' <;> rw [h'] <;> exact .refl _
  unfold countDelivered
  split
  · exact hdone (.inl rfl)
  · exact hdone (.inr rfl)

/-- A buffer is shared, and the thread has a reference as long as there are sinks to hand it to. -/
lemma emitTo_backs {stamped : FrameBuffer} {targets : List Nat} (h : s.Backs [] [])
    (hx : s.block? i = some (.source x)) (hthread : x.thread = .offering buffer)
    (hstamped : stamped.disposal = buffer.disposal) (engine : SourceEngine) :
    (s.emitTo i { x with engine } (.fanOut targets) stamped).Backs [] [] := by
  cases targets with
  | nil =>
    refine h.set hx (blocks_setSource _) fun fs bs hbacks => ?_
    simp only [Block.refs, Block.offered, hthread] at hbacks
    exact (hbacks.rework hstamped).share.release
  | cons k rest =>
    refine h.set hx (blocks_setSource _) fun fs bs hbacks => ?_
    simp only [Block.refs, Block.offered, hthread] at hbacks
    exact (hbacks.rework hstamped).share

lemma emit_backs (h : s.Backs [] []) (hx : s.block? i = some (.source x))
    (hthread : x.thread = .offering buffer)
    (hconsumer : ∀ tap, x.engine.consumer ≠ some (.tap tap)) :
    (s.emit i x buffer).Backs [] [] := by
  unfold emit
  cases hc : x.engine.consumer with
  | none =>
    rw [SourceEngine.begin_of_unheard hc]
    exact pauseAfter_backs h hx hthread _
  | some c =>
    by_cases hadmits : x.engine.admits s.clock = true
    · rw [SourceEngine.begin_of_admits hc hadmits]
      cases c with
      | fanOut targets =>
        refine emitTo_backs h hx hthread ?_ _
        rfl
      | tap tap => exact absurd hc (hconsumer tap)
    · rw [SourceEngine.begin_of_early hc hadmits]
      exact pauseAfter_backs h hx hthread _

/-- A frame is handed to a sink, or the sink is left out. -/
lemma deliver_backs {k : Nat} {rest : List Nat} (h : s.Backs [] [])
    (hx : s.block? i = some (.source x)) (hthread : x.thread = .delivering f (k :: rest)) :
    (s.deliver i x f k rest).Backs [] [] := by
  -- the thread lets go of one reference, and keeps another one if more sinks are to come
  have hpasses {r : Network ω γ π} {thread : SourceThread} (hblocks : r.blocks = s.blocks)
      (hstorage : r.storage = if rest.isEmpty then s.storage else s.storage.retain f)
      (hrefs : thread.refs = if rest.isEmpty then [] else [f]) (hoffered : thread.offered = []) :
      (r.setSource i { x with thread }).Backs [f] [] := by
    refine h.set hx (by rw [blocks_setSource, hblocks]) fun fs bs hbacks => ?_
    simp only [Block.refs, Block.offered, hthread, hrefs, hoffered] at hbacks ⊢
    change r.storage.Backs _ _
    rw [hstorage]
    cases rest with
    | nil => exact hbacks
    | cons l rest => exact Storage.Backs.retain hbacks List.mem_cons_self
  unfold deliver
  dsimp only
  generalize hr : (if rest.isEmpty = true then s else s.mapStorage (·.retain f)) = r
  have hblocks : r.blocks = s.blocks := by
    rw [← hr]
    split <;> rfl
  have hstorage : r.storage = if rest.isEmpty then s.storage else s.storage.retain f := by
    rw [← hr]
    split <;> rfl
  have hdelivering : (SourceThread.delivering f rest).refs = if rest.isEmpty then [] else [f] := by
    cases rest <;> rfl
  have hsubmitting : (SourceThread.submitting f rest).refs = if rest.isEmpty then [] else [f] := by
    cases rest <;> rfl
  split
  · exact (hpasses hblocks hstorage hdelivering rfl).release
  rename_i y hy
  split
  · exact (hpasses hblocks hstorage hdelivering rfl).release
  have hx' : r.block? i = some (.source x) := (block?_of_blocks_eq hblocks i).trans hx
  rw [sink?_eq_some] at hy
  have hne : i ≠ k := ne_of_source_of_sink hx' hy
  have hhands : (r.setSource i { x with thread := .submitting f rest }).Backs [f] [] :=
    hpasses hblocks hstorage hsubmitting rfl
  -- the other one goes to the sink
  have hy' : (r.setSource i { x with thread := .submitting f rest }).block? k = some (.sink y) :=
    (block?_of_set_ne rfl hne).trans hy
  have hreceives : ((r.setSource i { x with thread := .submitting f rest }).setSink k
      { y with engine := y.engine.approach ⟨.source i, f⟩ }).Backs [] [] :=
    hhands.pass hy' (blocks_setSink _) rfl (y.engine.refs_approach ⟨.source i, f⟩).symm
      (.refl _)
  exact hreceives.congr (List.set_comm _ _ hne.symm) rfl

/-- The thread of a source goes on. -/
theorem moveSource_backs [Generator γ] (hγ : Generator.Borrows γ)
    (hconsumer : ∀ x, s.block? i = some (.source x) → x.thread ≠ .absent →
      ∀ tap, x.engine.consumer ≠ some (.tap tap))
    (h : s.Backs [] []) (hmove : s.moveSource i = some t) : t.Backs [] [] := by
  unfold moveSource at hmove
  split at hmove
  · cases hmove
  rename_i x hx
  rw [source?_eq_some] at hx
  split at hmove
  case h_1 | h_2 | h_3 => cases hmove
  case h_4 hthread =>
    cases hmove
    exact check_backs hγ h hx hthread
  case h_5 hthread =>
    split at hmove
    · cases hmove
      exact h.turn hx (blocks_setSource _) rfl (by rw [hthread]; rfl) rfl (by rw [hthread]; rfl)
    · cases hmove
  case h_6 buffer hthread =>
    cases hmove
    exact emit_backs h hx hthread (hconsumer x hx (by simp [hthread]))
  case h_7 f hthread =>
    cases hmove
    exact countDelivered_backs h hx hthread _
  case h_8 f k rest hthread =>
    cases hmove
    exact deliver_backs h hx hthread

end Sources

/-! ### Sinks -/

section Sinks

variable {y : SinkBlock π}

/-- A sink does something with references that it has or gives up. -/
lemma Backs.sink {y' : SinkBlock π} (h : s.Backs frames []) (hy : s.block? i = some (.sink y))
    (ht : t.blocks = s.blocks.set i (.sink y')) (hstorage : t.storage = s.storage)
    (hrefs : (frames ++ y.engine.refs).Perm (frames' ++ y'.engine.refs)) : t.Backs frames' [] :=
  h.pass hy ht hstorage hrefs (.refl _)

lemma process_backs [Processor ω π] (h : s.Backs [] []) (hy : s.block? i = some (.sink y))
    (hworker : y.engine.worker = .processing f) : (s.process i y f).Backs [] [] := by
  refine Backs.hear (Backs.release ?_) _
  exact h.sink hy rfl rfl (SinkEngine.refs_finish hworker _ _).symm

lemma moveWorker_backs [Processor ω π] (h : s.Backs [] []) (hmove : s.moveWorker i = some t) :
    t.Backs [] [] := by
  unfold moveWorker at hmove
  split at hmove
  · cases hmove
  rename_i y hy
  rw [sink?_eq_some] at hy
  split at hmove
  case h_1 | h_2 | h_3 => cases hmove
  case h_4 hworker =>
    cases hmove
    exact h.sink hy rfl rfl (SinkEngine.refs_seek hworker).symm
  case h_5 f hworker =>
    have hbegins : (s.setSink i { y with engine := (y.engine.begin f).2 }).Backs
        (y.engine.begin f).1.toList [] := h.sink hy rfl rfl (SinkEngine.refs_begin hworker).symm
    generalize y.engine.begin f = begun at hmove hbegins
    obtain ⟨dropped, engine⟩ := begun
    obtain rfl := Option.some.inj hmove
    cases dropped with
    | none => exact hbegins
    | some g => exact hbegins.release
  case h_6 f hworker =>
    split at hmove
    · cases hmove
      exact process_backs h hy hworker
    · cases hmove

lemma moveThrough_backs [Processor ω π] (h : s.Backs [] []) (hmove : s.moveThrough i = some t) :
    t.Backs [] [] := by
  unfold moveThrough at hmove
  split at hmove
  · cases hmove
  rename_i y hy
  rw [sink?_eq_some] at hy
  split at hmove
  · rename_i f hworker
    cases hmove
    exact process_backs h hy hworker
  · cases hmove

/-- A producer that picked up its offer looks at the queue. -/
lemma look_backs {o : Offer} {e : SinkEngine} {m : Move} (h : s.Backs [] [])
    (hy : s.block? i = some (.sink y)) (hpick : y.engine.Picks i m o e) :
    (s.look i { y with engine := e } o).Backs [] [] := by
  have hlooks : (s.setSink i { y with engine := (e.consider o).2 }).Backs
      ((e.consider o).1.released o) [] :=
    h.sink hy rfl rfl (hpick.refs.trans SinkEngine.refs_consider.symm)
  unfold look
  dsimp only
  split
  · rename_i evicted hadmission
    rw [hadmission] at hlooks
    refine Backs.answer (Backs.releaseAll ?_) _ _
    rw [List.append_nil]
    exact hlooks
  · rename_i hadmission
    rw [hadmission] at hlooks
    exact hlooks.release.answer _ _
  · rename_i hadmission
    rw [hadmission] at hlooks
    exact hlooks

end Sinks

/-! ### All moves -/

/-- Each move keeps all references backed, as long as no source shows its frames to a tap. -/
theorem Backs.move [Generator γ] [Processor ω π] (hγ : Generator.Borrows γ)
    (hconsumer : ∀ i x, s.block? i = some (.source x) → x.thread ≠ .absent →
      ∀ tap, x.engine.consumer ≠ some (.tap tap))
    (h : s.Backs [] []) {m : Move} (hmove : s.perform m = some t) : t.Backs [] [] := by
  cases m with
  | tick span =>
    cases hmove
    exact h.congr rfl rfl
  | deny reason =>
    cases hmove
    exact h.congr rfl rfl
  | source i => exact moveSource_backs hγ (hconsumer i) h hmove
  | worker i => exact moveWorker_backs h hmove
  | letThrough i => exact moveThrough_backs h hmove
  | arrive i k =>
    simp only [perform, moveArrival] at hmove
    split at hmove
    · cases hmove
    rename_i y hy
    split at hmove
    · cases hmove
    · rename_i o ho
      cases hmove
      exact look_backs h (sink?_eq_some.1 hy) (.arrives k ho)
  | retry i k =>
    simp only [perform, moveRetry] at hmove
    split at hmove
    · cases hmove
    rename_i y hy
    split at hmove
    · cases hmove
    · rename_i o ho
      cases hmove
      exact look_backs h (sink?_eq_some.1 hy) (.returns k ho)

end Network

end FrameGraph
