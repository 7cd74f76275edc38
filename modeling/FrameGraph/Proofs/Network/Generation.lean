import FrameGraph.Proofs.Network.Deliveries
import FrameGraph.Proofs.Network.Surroundings
import FrameGraph.Proofs.Source.Outcomes

/-!
# The generation loop

The thread of a source asks its generator for frames, again and again, and hands them to the
consumer. Meanwhile time passes and other threads go on. Whatever the generator comes to, the thread
breaks at the first outcome that is to break it and at no other, and what is counted on the way is
told from the outcomes.
-/

namespace FrameGraph

open Attempt (Breaks Sound called frames)

/-- Whether the thread has no frame in hand. -/
def SourceThread.isFree : SourceThread → Bool
  | .offering _ | .delivering .. | .submitting .. => false
  | _ => true

/-! ### Runs -/

namespace Network

variable {ω γ π : Type}

/-- The frame that the consumer of a source takes with the next step of the thread, if it does. -/
def accepted (s : Network ω γ π) (i : Nat) : Option FrameBuffer :=
  match s.source? i with
  | none => none
  | some x =>
    match x.thread with
    | .offering buffer =>
      match (x.engine.begin buffer s.clock).1 with
      | .admitted (.tap tap) stamped =>
        if (s.tapFrame tap (s.storage.share stamped).1).1.1 then some stamped else none
      | _ => none
    | .delivering f [] => some f.buffer
    | _ => none

variable [Generator γ]

/-- What the generator of a source comes to with the next step of the thread, if it is asked. -/
def asked (s : Network ω γ π) (i : Nat) : Option Attempt :=
  match s.source? i with
  | none => none
  | some x =>
    if x.thread = .checking ∧ x.stop.raised = false ∧ x.engine.admits s.clock = true then
      (s.storage.pool? x.lending).map fun pool =>
        (Generator.generate x.generator x.format pool).outcome
    else none

variable [Processor ω π]

/-- The runs of a network, with the outcomes to which the generator of a source comes and the frames
that its consumer takes. -/
inductive GenerationRun (i : Nat) (s₀ : Network ω γ π) :
    List Attempt → List FrameBuffer → Network ω γ π → Prop
  | new : GenerationRun i s₀ [] [] s₀
  /-- The source goes on. -/
  | goesOn {outcomes delivered s t} (h : GenerationRun i s₀ outcomes delivered s)
    (hst : s.perform (.source i) = some t) :
    GenerationRun i s₀ (outcomes ++ (s.asked i).toList) (delivered ++ (s.accepted i).toList) t
  /-- Time passes, or another thread goes on. -/
  | others {outcomes delivered s t m} (h : GenerationRun i s₀ outcomes delivered s)
    (hm : m ≠ .source i) (hst : s.perform m = some t) : GenerationRun i s₀ outcomes delivered t

/-- The thread of a source is about to ask for its first frame, and its pool is there. -/
structure Begins (s : Network ω γ π) (i : Nat) (x : SourceBlock γ) : Prop where
  source : s.block? i = some (.source x)
  thread : x.thread = .checking
  stop : x.stop.raised = false
  state : x.core.state ≠ .error
  pool : x.lending < s.storage.pools.length

end Network

/-! ### Stages -/

namespace SourceBlock

variable {γ : Type}

/-- The block has not failed; its thread has settled these outcomes, and begun so many calls of the
consumer. -/
structure Works (x₀ : SourceBlock γ) (outcomes : List Attempt) (calls : Nat)
    (delivered : List FrameBuffer) (x : SourceBlock γ) : Prop where
  sound : Sound x₀.engine.consumer outcomes
  state : x.core.state ≠ .error
  stop : x.stop.raised = false
  lending : x.lending = x₀.lending
  even : (called x₀.engine.consumer outcomes).length = delivered.length
  accounts : x₀.engine.Accounts outcomes calls delivered x.engine

/-- A source whose thread has no frame in hand. -/
inductive Rests (x₀ : SourceBlock γ) : List Attempt → List FrameBuffer → SourceBlock γ → Prop
  | loops {outcomes delivered x}
    (hthread : x.thread = .checking ∨ ∃ wake, x.thread = .sleeping wake)
    (h : x₀.Works outcomes delivered.length delivered x) : Rests x₀ outcomes delivered x
  /-- The thread broke upon the last outcome. -/
  | broke {before o delivered x} (hthread : x.thread = .ended) (hstate : x.core.state = .error)
    (hsound : Sound x₀.engine.consumer before) (hbreaks : Breaks x₀.engine.consumer before o)
    (h : x₀.engine.Accounts (before ++ [o]) (called x₀.engine.consumer (before ++ [o])).length
      delivered x.engine) : Rests x₀ (before ++ [o]) delivered x
  /-- The counter of bytes left its word. -/
  | overflowed {outcomes delivered x} (hthread : x.thread = .ended)
    (hbytes : Checked.word64 ≤ x₀.core.stats.bytes + (delivered.map (·.size)).sum)
    (h : x₀.Works outcomes delivered.length delivered x) : Rests x₀ outcomes delivered x

/-- How far a source has come. -/
inductive Stage (x₀ : SourceBlock γ) (now : Nat) :
    List Attempt → List FrameBuffer → SourceBlock γ → Prop
  | rests {outcomes delivered x} (h : x₀.Rests outcomes delivered x) :
    Stage x₀ now outcomes delivered x
  /-- The thread has a frame, and the time is right to emit it. -/
  | offers {before buffer delivered x} (hthread : x.thread = .offering buffer)
    (hadmits : x.engine.admits now = true) (h : x₀.Works before delivered.length delivered x) :
    Stage x₀ now (before ++ [.ok (some buffer)]) delivered x
  /-- The thread hands a frame to the sinks of its route. -/
  | hands {before buffer delivered x route f targets}
    (hroute : x₀.engine.consumer = some (.fanOut route))
    (hthread : x.thread = .delivering f targets ∨ x.thread = .submitting f targets)
    (hf : f.buffer.unstamped = buffer.unstamped)
    (hnumber : f.buffer.info.sequence = x.engine.sequence)
    (h : x₀.Works before (delivered.length + 1) delivered x) :
    Stage x₀ now (before ++ [.ok (some buffer)]) delivered x

variable {x₀ x x' : SourceBlock γ} {outcomes before : List Attempt} {o : Attempt} {calls : Nat}
  {delivered : List FrameBuffer} {buffer f : FrameBuffer} {consumer : Consumer} {now later : Nat}

namespace Works

lemma congr (h : x₀.Works outcomes calls delivered x) (hengine : x'.engine = x.engine)
    (hstop : x'.stop = x.stop) (hlending : x'.lending = x.lending) :
    x₀.Works outcomes calls delivered x' where
  sound := h.sound
  state := by
    rw [SourceBlock.core, hengine]
    exact h.state
  stop := hstop ▸ h.stop
  lending := hlending.trans h.lending
  even := h.even
  accounts := hengine ▸ h.accounts

/-- An outcome without a frame, upon which the thread does not break. -/
lemma settles (h : x₀.Works outcomes calls delivered x) (hframe : o.frame? = none)
    (hbreaks : ¬Breaks x₀.engine.consumer outcomes o) (hstate : x'.core.state = x.core.state)
    (hstop : x'.stop = x.stop) (hlending : x'.lending = x.lending)
    (haccounts : x₀.engine.Accounts (outcomes ++ [o]) calls delivered x'.engine) :
    x₀.Works (outcomes ++ [o]) calls delivered x' where
  sound := h.sound.concat hbreaks
  state := hstate ▸ h.state
  stop := hstop ▸ h.stop
  lending := hlending.trans h.lending
  even := by rw [Attempt.called_concat_of_frame? hframe, h.even]
  accounts := haccounts

/-- A frame that nobody wants. -/
lemma unheard (h : x₀.Works outcomes calls delivered x) (hc : x₀.engine.consumer = none) :
    x₀.Works (outcomes ++ [.ok (some buffer)]) calls delivered x where
  sound := by
    refine h.sound.concat ?_
    rw [hc]
    exact Bool.false_ne_true
  state := h.state
  stop := h.stop
  lending := h.lending
  even := by
    have heven := h.even
    rw [hc] at heven ⊢
    exact heven
  accounts := h.accounts.unheard hc

/-- A call of the consumer begins. -/
lemma begins (h : x₀.Works outcomes delivered.length delivered x)
    (hconsumer : x'.engine.consumer = x.engine.consumer.map (·.after 1))
    (hsequence : x'.engine.sequence = x.engine.sequence + 1)
    (hcore : x'.engine.core = x.engine.core) (hstop : x'.stop = x.stop)
    (hlending : x'.lending = x.lending) :
    x₀.Works outcomes (delivered.length + 1) delivered x' where
  sound := h.sound
  state := by
    rw [SourceBlock.core, hcore]
    exact h.state
  stop := hstop ▸ h.stop
  lending := hlending.trans h.lending
  even := h.even
  accounts := h.accounts.begins hconsumer hsequence hcore

/-- How many frames were made so far, with a consumer. -/
lemma length_frames (h : x₀.Works outcomes calls delivered x)
    (hc : x₀.engine.consumer = some consumer) : (frames outcomes).length = delivered.length := by
  have heven := h.even
  rwa [hc] at heven

end Works

lemma Rests.isFree (h : x₀.Rests outcomes delivered x) : x.thread.isFree = true := by
  cases h with
  | loops hthread h => rcases hthread with hthread | ⟨wake, hthread⟩ <;> rw [hthread] <;> rfl
  | broke hthread => rw [hthread]; rfl
  | overflowed hthread => rw [hthread]; rfl

/-- A thread without a frame rests. -/
lemma Stage.rests_of_isFree (h : x₀.Stage now outcomes delivered x)
    (hfree : x.thread.isFree = true) : x₀.Rests outcomes delivered x := by
  cases h with
  | rests h => exact h
  | offers hthread => simp [hthread, SourceThread.isFree] at hfree
  | hands _ hthread => rcases hthread with hthread | hthread <;>
      simp [hthread, SourceThread.isFree] at hfree

/-- Others go on, and time passes. -/
lemma Stage.answered (h : x₀.Stage now outcomes delivered x) (hx : x.Answered x')
    (hnow : now ≤ later) : x₀.Stage later outcomes delivered x' := by
  cases hx with
  | refl =>
    cases h with
    | rests h => exact .rests h
    | offers hthread hadmits h =>
      refine .offers hthread ?_ h
      rw [SourceEngine.admits, decide_eq_true_eq] at hadmits ⊢
      exact Nat.le_trans hadmits hnow
    | hands hroute hthread hf hnumber h => exact .hands hroute hthread hf hnumber h
  | goesOn hsubmitting =>
    cases h with
    | rests h =>
      have hfree := h.isFree
      simp [hsubmitting, SourceThread.isFree] at hfree
    | offers hthread hadmits h => simp [hsubmitting] at hthread
    | hands hroute hthread hf hnumber h =>
      obtain ⟨rfl, rfl⟩ := by simpa [hsubmitting] using hthread
      exact .hands hroute (.inl rfl) hf hnumber (h.congr rfl rfl rfl)

end SourceBlock

/-! ### The thread goes on -/

namespace Network

variable {ω γ π : Type} {s t r : Network ω γ π} {i : Nat} {x₀ x y : SourceBlock γ}
  {P : SourceBlock γ → Prop} {outcomes before : List Attempt} {o : Attempt}
  {delivered : List FrameBuffer} {buffer : FrameBuffer} {f : Frame} {consumer : Consumer}
  {now : Nat}

/-- The block at a position is a source with a property. -/
def HasSource (i : Nat) (P : SourceBlock γ → Prop) (s : Network ω γ π) : Prop :=
  ∃ x, s.block? i = some (.source x) ∧ P x

lemma hasSource_setSource (hr : r.block? i = some (.source y)) (h : P x) :
    (r.setSource i x).HasSource i P :=
  ⟨x, block?_of_set_self (blocks_setSource x) hr, h⟩

/-- The generator comes to an outcome. -/
lemma takeGenerated_stage (hr : r.block? i = some (.source x))
    (h : x₀.Works outcomes delivered.length delivered x) (hadmits : x.engine.admits r.clock = true)
    (g : γ) (o : Attempt) : (r.takeGenerated i { x with generator := g } o).HasSource i
      (x₀.Stage r.clock (outcomes ++ [o]) delivered) := by
  have hfails (message : String) (hframe : o.frame? = none) (hloss : o.losesFrame = false)
      (hbreaks : Breaks x₀.engine.consumer outcomes o) :
      ((r.setSource i { x with generator := g, thread := .ended }).fail i message).HasSource i
        (x₀.Stage r.clock (outcomes ++ [o]) delivered) := by
    refine ⟨_, block?_of_set_self (blocks_setSource_fail hr _ message) hr, ?_⟩
    refine .rests (.broke rfl rfl h.sound hbreaks ?_)
    rw [Attempt.called_concat_of_frame? hframe, h.even]
    exact h.accounts.settles hframe rfl rfl rfl rfl (by rw [hloss]; rfl)
  match o with
  | .ok (some buffer) => exact hasSource_setSource hr (.offers rfl hadmits (h.congr rfl rfl rfl))
  | .ok none =>
    refine hasSource_setSource hr (.rests (.loops (.inr ⟨_, rfl⟩) ?_))
    exact h.settles rfl Bool.false_ne_true rfl rfl rfl (h.accounts.settles rfl rfl rfl rfl rfl rfl)
  | .error (.panic p) => exact hfails _ rfl rfl rfl
  | .error (.error e) =>
    simp only [takeGenerated]
    split
    · rename_i he
      refine hfails _ rfl ?_ ?_
      · rw [Attempt.losesFrame_error, he]
        rfl
      · rw [Breaks, Attempt.breaks_error, he]
    · rename_i he
      refine hasSource_setSource hr (.rests (.loops (.inr ⟨_, rfl⟩) ?_))
      refine h.settles rfl ?_ rfl rfl rfl (h.accounts.settles rfl rfl rfl rfl rfl ?_)
      · rwa [Breaks, Attempt.breaks_error]
      · rw [Attempt.losesFrame_error, Bool.eq_false_of_not_eq_true he]
        rfl

/-- The consumer has a frame. -/
lemma countDelivered_rests (hr : r.block? i = some (.source y))
    (hc : x₀.engine.consumer = some consumer) (htakes : consumer.aborts delivered.length = false)
    (hf : f.buffer.unstamped = buffer.unstamped)
    (hnumber : f.buffer.info.sequence = x.engine.sequence)
    (h : x₀.Works before (delivered.length + 1) delivered x) :
    (r.countDelivered i x f.buffer.size).HasSource i
      (x₀.Rests (before ++ [.ok (some buffer)]) (delivered ++ [f.buffer])) := by
  have hlength := h.length_frames hc
  have haccounts := h.accounts.delivers hc (hlength ▸ htakes) hf hnumber
  have hworks (thread : SourceThread) : x₀.Works (before ++ [.ok (some buffer)])
      (delivered ++ [f.buffer]).length (delivered ++ [f.buffer])
      { x with engine := (x.engine.delivered f.buffer.size).2, thread } := by
    constructor
    · refine h.sound.concat ?_
      rw [Breaks, hc, hlength]
      exact fun haborts => Bool.false_ne_true (htakes.symm.trans haborts)
    · exact h.state
    · exact h.stop
    · exact h.lending
    · rw [Attempt.called_concat, List.length_append, h.even, List.length_append, hc]
      rfl
    · rw [List.length_append]
      exact haccounts
  unfold countDelivered
  split
  · rename_i engine hcounted
    obtain rfl : (x.engine.delivered f.buffer.size).2 = engine := congrArg Prod.snd hcounted
    exact hasSource_setSource hr (.loops (.inl rfl) (hworks .checking))
  · rename_i p engine hcounted
    obtain rfl : (x.engine.delivered f.buffer.size).2 = engine := congrArg Prod.snd hcounted
    have hbytes := h.accounts.overflows (congrArg Prod.fst hcounted)
    exact hasSource_setSource hr (.overflowed rfl hbytes (hworks .ended))

/-- A tap is called with the frame at hand. -/
lemma emitTo_tap_rests {tap : Tap} {stamped : FrameBuffer} {engine : SourceEngine}
    (hx : s.block? i = some (.source x)) (hc : x₀.engine.consumer = some consumer)
    (htap : consumer.after delivered.length = .tap tap) (hf : stamped.unstamped = buffer.unstamped)
    (hnumber : stamped.info.sequence = engine.sequence)
    (hconsumer : x.engine.consumer = some (.tap tap))
    (hsequence : engine.sequence = x.engine.sequence + 1) (hcore : engine.core = x.engine.core)
    (h : x₀.Works before delivered.length delivered x) :
    (s.emitTo i { x with engine } (.tap tap) stamped).HasSource i
      (x₀.Rests (before ++ [.ok (some buffer)])
        (delivered ++ (if (s.tapFrame tap (s.storage.share stamped).1).1.1 then some stamped
          else none).toList)) := by
  have hlength := h.length_frames hc
  have haborts : (Consumer.tap tap).aborts 0 = consumer.aborts delivered.length := by
    rw [← htap, Consumer.aborts_after, Nat.add_zero]
  let shared : Network ω γ π := { s with storage := (s.storage.share stamped).2 }
  let noted := shared.tapFrame tap (s.storage.share stamped).1
  -- what the tap answers does not depend on the network
  have hhere := (s.tapFrame_fst tap (s.storage.share stamped).1).1
  obtain ⟨hthere, hafter⟩ := shared.tapFrame_fst tap (s.storage.share stamped).1
  have hr : noted.2.block? i = some (.source x) :=
    (block?_of_blocks_eq (blocks_tapFrame ..) i).trans hx
  let handed : SourceEngine := { engine with consumer := some (.tap noted.1.2) }
  have hworks (thread : SourceThread) : x₀.Works before (delivered.length + 1) delivered
      { x with engine := handed, thread } := by
    refine h.begins ?_ hsequence hcore rfl rfl
    rw [hconsumer, Option.map_some, ← hafter]
  have hemit : s.emitTo i { x with engine } (.tap tap) stamped =
      if noted.1.1 = true then noted.2.countDelivered i { x with engine := handed } stamped.size
      else (noted.2.setSource i
          { x with engine := (handed.undelivered tapAbort).2, thread := .ended }).hear
        (handed.undelivered tapAbort).1 := rfl
  rw [hemit, hhere, hthere, haborts]
  cases hcall : consumer.aborts delivered.length with
  | false =>
    exact countDelivered_rests (f := (s.storage.share stamped).1) hr hc hcall hf hnumber
      (hworks x.thread)
  | true =>
    have hcalled : (called x₀.engine.consumer (before ++ [.ok (some buffer)])).length =
        delivered.length + 1 := by
      rw [Attempt.called_concat, List.length_append, h.even, hc]
      rfl
    have haccounts : x₀.engine.Accounts (before ++ [.ok (some buffer)]) (delivered.length + 1)
        delivered _ := (hworks .ended).accounts.refused hc (hlength ▸ hcall) tapAbort
    rw [← hcalled] at haccounts
    simp only [Bool.not_true, Bool.false_eq_true, if_false, Option.toList_none, List.append_nil]
    refine ⟨_, block?_of_set_self (by rw [blocks_hear, blocks_setSource]) hr, ?_⟩
    refine .broke rfl rfl h.sound ?_ haccounts
    rwa [Breaks, hc, hlength]

/-- The frame at hand is emitted, and not to sinks. -/
lemma emit_rests (hx : s.block? i = some (.source x)) (hthread : x.thread = .offering buffer)
    (hadmits : x.engine.admits s.clock = true)
    (hroute : ∀ route, x₀.engine.consumer ≠ some (.fanOut route))
    (h : x₀.Works before delivered.length delivered x) : (s.emit i x buffer).HasSource i
      (x₀.Rests (before ++ [.ok (some buffer)]) (delivered ++ (s.accepted i).toList)) := by
  have hconsumer := h.accounts.consumer
  unfold emit
  simp only [accepted, source?_eq_some.2 hx, hthread]
  match hc : x₀.engine.consumer with
  | none =>
    rw [hc] at hconsumer
    rw [SourceEngine.begin_of_unheard hconsumer]
    simp only [Option.toList_none, List.append_nil]
    refine hasSource_setSource (r := s.mapStorage _) hx (.loops (.inr ⟨_, if_neg h.state⟩) ?_)
    exact (h.unheard hc).congr rfl rfl rfl
  | some (.fanOut route) => exact absurd hc (hroute route)
  | some (.tap tap) =>
    obtain ⟨tap', htap'⟩ : ∃ tap', (Consumer.tap tap).after delivered.length = .tap tap' := by
      cases tap <;> exact ⟨_, rfl⟩
    rw [hc, Option.map_some, htap'] at hconsumer
    rw [SourceEngine.begin_of_admits hconsumer hadmits]
    exact emitTo_tap_rests hx hc htap' rfl rfl hconsumer rfl rfl h

/-- The frame at hand is emitted to sinks. -/
lemma emit_hands {route : List Nat} (hx : s.block? i = some (.source x))
    (hthread : x.thread = .offering buffer) (hadmits : x.engine.admits s.clock = true)
    (hroute : x₀.engine.consumer = some (.fanOut route))
    (h : x₀.Works before delivered.length delivered x) : (s.emit i x buffer).HasSource i
      (x₀.Stage s.clock (before ++ [.ok (some buffer)]) (delivered ++ (s.accepted i).toList)) := by
  have hconsumer : x.engine.consumer = some (.fanOut route) := by
    rw [h.accounts.consumer, hroute]
    rfl
  unfold emit
  simp only [accepted, source?_eq_some.2 hx, hthread,
    SourceEngine.begin_of_admits hconsumer hadmits, Option.toList_none, List.append_nil]
  refine ⟨_, block?_of_set_self (blocks_emitTo_fanOut _ _) hx, ?_⟩
  refine .hands hroute (.inl rfl) rfl rfl (h.begins ?_ rfl rfl rfl rfl)
  rw [hconsumer]
  rfl

/-- A frame goes to the next sink of the route. -/
lemma deliver_hands {k : Nat} {rest route : List Nat} (hx : s.block? i = some (.source x))
    (hroute : x₀.engine.consumer = some (.fanOut route))
    (hf : f.buffer.unstamped = buffer.unstamped)
    (hnumber : f.buffer.info.sequence = x.engine.sequence)
    (h : x₀.Works before (delivered.length + 1) delivered x) : (s.deliver i x f k rest).HasSource i
      (x₀.Stage now (before ++ [.ok (some buffer)]) delivered) := by
  have hdelivering : x₀.Stage now (before ++ [.ok (some buffer)]) delivered
      { x with thread := .delivering f rest } :=
    .hands hroute (.inl rfl) hf hnumber (h.congr rfl rfl rfl)
  unfold deliver
  dsimp only
  generalize hr : (if rest.isEmpty = true then s else s.mapStorage (·.retain f)) = r
  have hsame : r.block? i = some (.source x) := by
    rw [← hr]
    split <;> exact hx
  split
  · exact hasSource_setSource (r := r.release f) hsame hdelivering
  · rename_i sink hsink
    rw [sink?_eq_some] at hsink
    split
    · exact hasSource_setSource (r := r.release f) hsame hdelivering
    · refine hasSource_setSource (y := x) ?_
        (.hands hroute (.inr rfl) hf hnumber (h.congr rfl rfl rfl))
      have hne := ne_of_source_of_sink hsame hsink
      exact (block?_of_set_ne (blocks_setSink _) hne.symm).trans hsame

/-! ### Steps -/

lemma accepted_of_thread (hx : s.block? i = some (.source x))
    (hoffering : ∀ buffer, x.thread ≠ .offering buffer)
    (hdelivering : ∀ f, x.thread ≠ .delivering f []) : s.accepted i = none := by
  simp only [accepted, source?_eq_some.2 hx]

lemma accepted_of_isFree (hx : s.block? i = some (.source x)) (hfree : x.thread.isFree = true) :
    s.accepted i = none := by
  refine accepted_of_thread hx (fun buffer hthread => ?_) fun f hthread => ?_ <;>
    simp [hthread, SourceThread.isFree] at hfree

variable [Generator γ]

lemma asked_of_thread (hx : s.block? i = some (.source x)) (h : x.thread ≠ .checking) :
    s.asked i = none := by
  simp only [asked, source?_eq_some.2 hx]
  exact if_neg fun hc => h hc.1

lemma append_asked (hx : s.block? i = some (.source x)) (h : x.thread ≠ .checking) :
    outcomes ++ (s.asked i).toList = outcomes := by
  rw [asked_of_thread hx h, Option.toList_none, List.append_nil]

lemma asked_of_early (hx : s.block? i = some (.source x)) (h : ¬x.engine.admits s.clock = true) :
    s.asked i = none := by
  simp only [asked, source?_eq_some.2 hx]
  exact if_neg fun hc => h hc.2.2

/-- The generator is asked. -/
lemma asked_of_admits (hx : s.block? i = some (.source x)) (hthread : x.thread = .checking)
    (hstop : x.stop.raised = false) (hadmits : x.engine.admits s.clock = true) {pool : BufferPool}
    (hpool : s.storage.pool? x.lending = some pool) :
    s.asked i = some (Generator.generate x.generator x.format pool).outcome := by
  simp [asked, source?_eq_some.2 hx, hthread, hstop, hadmits, hpool]

/-- The thread is at the top of its loop. -/
lemma check_stage (hx : s.block? i = some (.source x)) (hthread : x.thread = .checking)
    {pool : BufferPool} (hpool : s.storage.pool? x.lending = some pool)
    (h : x₀.Works outcomes delivered.length delivered x) : (s.check i x).HasSource i
      (x₀.Stage s.clock (outcomes ++ (s.asked i).toList) delivered) := by
  by_cases hadmits : x.engine.admits s.clock = true
  · simp only [asked_of_admits hx hthread h.stop hadmits hpool, check, h.stop, hadmits, hpool,
      Bool.not_true, Bool.false_eq_true, if_false]
    exact takeGenerated_stage (r := s.mapStorage _) hx h hadmits _ _
  · simp only [asked_of_early hx hadmits, check, h.stop, hadmits, Bool.not_false,
      Bool.false_eq_true, if_false, if_true]
    rw [Option.toList_none, List.append_nil]
    exact hasSource_setSource hx (.rests (.loops (.inr ⟨_, rfl⟩) (h.congr rfl rfl rfl)))

/-- The thread of the source goes on. -/
lemma moveSource_stage (hx : s.block? i = some (.source x))
    (hpool : x₀.lending < s.storage.pools.length) (h : x₀.Stage s.clock outcomes delivered x)
    (hst : s.moveSource i = some t) : t.HasSource i
      (x₀.Stage s.clock (outcomes ++ (s.asked i).toList) (delivered ++ (s.accepted i).toList)) := by
  simp only [moveSource, source?_eq_some.2 hx] at hst
  cases h with
  | rests h =>
    rw [accepted_of_isFree hx h.isFree, Option.toList_none, List.append_nil]
    cases h with
    | loops hthread h =>
      rcases hthread with hthread | ⟨wake, hthread⟩
      · rw [hthread] at hst
        cases hst
        rw [← h.lending] at hpool
        exact check_stage hx hthread (List.getElem?_eq_getElem hpool) h
      · rw [hthread] at hst
        dsimp only at hst
        split at hst
        · cases hst
          rw [append_asked hx (by simp [hthread])]
          exact hasSource_setSource hx (.rests (.loops (.inl rfl) (h.congr rfl rfl rfl)))
        · cases hst
    | broke hthread =>
      rw [hthread] at hst
      cases hst
    | overflowed hthread =>
      rw [hthread] at hst
      cases hst
  | offers hthread hadmits h =>
    rw [hthread] at hst
    cases hst
    rw [append_asked hx (by simp [hthread])]
    by_cases hroute : ∃ route, x₀.engine.consumer = some (.fanOut route)
    · obtain ⟨route, hroute⟩ := hroute
      exact emit_hands hx hthread hadmits hroute h
    · obtain ⟨x', hx', hrests⟩ := emit_rests hx hthread hadmits (not_exists.1 hroute) h
      exact ⟨x', hx', .rests hrests⟩
  | @hands before buffer delivered x route f targets hroute hthread hf hnumber h =>
    rw [append_asked hx (by rcases hthread with hthread | hthread <;> simp [hthread])]
    rcases hthread with hthread | hthread
    · rw [hthread] at hst
      cases targets with
      | nil =>
        cases hst
        have haccepted : s.accepted i = some f.buffer := by
          simp only [accepted, source?_eq_some.2 hx, hthread]
        obtain ⟨x', hx', hrests⟩ := countDelivered_rests hx hroute rfl hf hnumber h
        rw [haccepted]
        exact ⟨x', hx', .rests hrests⟩
      | cons k rest =>
        cases hst
        rw [accepted_of_thread hx (by simp [hthread]) (by simp [hthread]), Option.toList_none,
          List.append_nil]
        exact deliver_hands hx hroute hf hnumber h
    · rw [hthread] at hst
      cases hst

variable [Processor ω π] {s₀ : Network ω γ π}

/-- Along each run. -/
lemma GenerationRun.stage (hbegins : s₀.Begins i x₀) (h : GenerationRun i s₀ outcomes delivered s) :
    s.HasSource i (x₀.Stage s.clock outcomes delivered) ∧
      x₀.lending < s.storage.pools.length := by
  induction h with
  | new =>
    refine ⟨⟨x₀, hbegins.source, .rests (.loops (.inl hbegins.thread) ?_)⟩, hbegins.pool⟩
    refine ⟨Attempt.sound_nil, hbegins.state, hbegins.stop, rfl, ?_, .new x₀.engine⟩
    cases x₀.engine.consumer <;> rfl
  | goesOn h hst ih =>
    obtain ⟨⟨x, hx, hstage⟩, hpool⟩ := ih
    have hkeeps := keeps_moveSource hst
    refine ⟨?_, hkeeps.pools ▸ hpool⟩
    rw [hkeeps.clock]
    exact moveSource_stage hx hpool hstage hst
  | others h hm hst ih =>
    obtain ⟨⟨x, hx, hstage⟩, hpool⟩ := ih
    obtain ⟨hclock, hpools⟩ := perform_onward hst
    obtain ⟨x', hx', hanswered⟩ := (perform_effect hst).answered hm hx
    exact ⟨⟨x', hx', hstage.answered hanswered hclock⟩, hpools ▸ hpool⟩

end Network

end FrameGraph
