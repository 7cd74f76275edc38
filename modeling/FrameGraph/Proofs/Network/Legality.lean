import FrameGraph.Proofs.Network.Configure
import FrameGraph.Proofs.Network.Steps

/-!
# Which calls are accepted

A block is configured, started and stopped only from some of its states. In the others the call is
refused, and changes nothing. An accepted call leads to the state that it promises, unless the block
fails meanwhile: what has failed stays so, whatever is called.
-/

namespace FrameGraph

/-! ### Calls and states -/

/-- The calls that a block may refuse. -/
inductive Verb
  | configure
  | start
  | stop
  deriving DecidableEq, Repr

namespace Verb

def name : Verb → String
  | configure => "configure"
  | start => "start"
  | stop => "stop"

/-- The states from which a call is accepted. -/
def allowed : Verb → List BlockState
  | configure => [.uninitialized, .initialized]
  | start => [.initialized, .stopped]
  | stop => [.running]

/-- How a call ends that was accepted in the state `before`: with a result, and in a state. -/
inductive Ends (before : BlockState) : Verb → Result Unit → BlockState → Prop
  | configured : Ends before .configure (.ok ()) .initialized
  | unfit (e : Error) : Ends before .configure (refuse e) .error
  /-- A hook was aborted, or a stride left its word. -/
  | aborted (p : Panic) : Ends before .configure (.error (.panic p)) before
  | started : Ends before .start (.ok ()) .running
  | unstarted (e : Error) : Ends before .start (refuse e) before
  | stopped : Ends before .stop (.ok ()) .stopped

lemma error_not_allowed (v : Verb) : BlockState.error ∉ v.allowed := by
  cases v <;> simp [allowed]

end Verb

namespace BlockState

/-- The state in which a shutdown leaves a block that does not fail. -/
def rested (before : BlockState) : BlockState :=
  if before ∈ [.starting, .running, .stopping] then .stopped else before

/-- The changes of state that a call makes which finds the block in the state `before`. -/
inductive Moves (before : BlockState) : BlockState → BlockState → Prop
  | configures {state state' : BlockState} (h : state ∈ [.uninitialized, .initialized])
    (h' : state' ∈ [.initialized, .error]) : Moves before state state'
  | starts {state : BlockState} (h : state ∈ [.initialized, .stopped]) :
    Moves before state .starting
  | runs : Moves before .starting .running
  /-- There was no thread to be had. -/
  | returns : Moves before .starting before
  | stops : Moves before .running .stopping
  | rests {state : BlockState} (h : state ∈ [.starting, .running, .stopping]) :
    Moves before state .stopped

/-- What has failed stays so. -/
lemma not_moves_error {before state : BlockState} : ¬Moves before .error state := by
  intro h
  cases h <;> simp_all

end BlockState

namespace SourceBlock

variable {γ : Type} [Generator γ] {x : SourceBlock γ} {storage : Storage}

lemma configure_refused (h : x.core.state ∉ Verb.configure.allowed) :
    x.configure storage = (refuse (.invalidState "configure" x.core.state), x, storage, none) := by
  have h' : x.core.state ∉ [.uninitialized, .initialized] := h
  simp only [configure, BlockCore.require, if_neg h']

lemma configure_ends (h : x.core.state ∈ Verb.configure.allowed) :
    Verb.configure.Ends x.core.state (x.configure storage).1
      (x.configure storage).2.1.core.state := by
  have h' : x.core.state ∈ [.uninitialized, .initialized] := h
  have hreads := x.applyParameters_reads storage
  simp only [configure, BlockCore.require, if_pos h']
  split
  · exact .configured
  · exact .unfit _
  · rename_i x' _ heq
    rw [heq] at hreads
    rw [show x'.core.state = x.core.state from congrArg BlockCore.state hreads.core]
    exact .aborted _

end SourceBlock

namespace SinkBlock

variable {ω π : Type} [Processor ω π] {y : SinkBlock π} {world : ω}

lemma configure_refused (h : y.core.state ∉ Verb.configure.allowed) :
    y.configure world = (refuse (.invalidState "configure" y.core.state), y, world, none) := by
  have h' : y.core.state ∉ [.uninitialized, .initialized] := h
  simp only [configure, BlockCore.require, if_neg h']

lemma configure_ends (h : y.core.state ∈ Verb.configure.allowed) :
    Verb.configure.Ends y.core.state (y.configure world).1 (y.configure world).2.1.core.state := by
  have h' : y.core.state ∈ [.uninitialized, .initialized] := h
  have hreads := y.applyParameters_reads world
  simp only [configure, BlockCore.require, if_pos h']
  split
  · exact .configured
  · exact .unfit _
  · rename_i y' _ heq
    rw [heq] at hreads
    rw [show y'.core.state = y.core.state from congrArg BlockCore.state hreads.core]
    exact .aborted _

end SinkBlock

namespace Block

variable {γ π : Type} {b b' : Block γ π} {before state : BlockState}

/-- What one step of a call does to the state of its block. -/
def Shifts (before : BlockState) (b b' : Block γ π) : Prop :=
  b'.state = b.state ∨ before.Moves b.state b'.state

/-- The block is a source or a sink and in this state, or has failed since it was. -/
structure Stands (state : BlockState) (b : Block γ π) : Prop where
  threaded : b.Threaded
  state : b.state ∈ [state, .error]

/-- What does not concern the state of a block. -/
structure Bides (b b' : Block γ π) : Prop where
  state : b'.state = b.state
  threaded : b.Threaded → b'.Threaded

lemma stable_stands : Stable (Stands (γ := γ) (π := π) state) := fun b b' h hb =>
  ⟨stable_threaded b b' h hb.threaded, h.keeps (S := (· ∈ [state, .error])) (by simp) hb.state⟩

lemma Threaded.stands (h : b.Threaded) : b.Stands b.state := ⟨h, List.mem_cons_self⟩

lemma Threaded.enter_stands (h : b.Threaded) (state : BlockState) :
    (b.enter state).Stands state :=
  ⟨h.mapCore _, by simp⟩

/-- A block in another state than the one it was in has failed. -/
lemma Stands.of_ne (h : b.Stands before) (hne : b.state ≠ before) (state : BlockState) :
    b.Stands state :=
  ⟨h.threaded, by simp [state_of_ne h.state hne]⟩

lemma Stands.not_mem {states : List BlockState} (h : b.Stands before) (hbefore : before ∉ states)
    (herror : .error ∉ states) : b.state ∉ states := by
  intro hmem
  have hstate := h.state
  simp only [List.mem_cons, List.not_mem_nil, or_false] at hstate
  rcases hstate with heq | heq <;> rw [heq] at hmem <;> contradiction

lemma bides_forgetThread (b : Block γ π) : b.Bides b.forgetThread := by
  cases b <;> exact ⟨rfl, id⟩

lemma Bides.stands (h : b.Bides b') (hb : b.Stands state) : b'.Stands state :=
  ⟨h.threaded hb.threaded, by
    rw [h.state]
    exact hb.state⟩

end Block

namespace Network

variable {ω γ π : Type} {s t : Network ω γ π} {i : Nat} {b : Block γ π} {v : Verb}
  {before state : BlockState}

/-- Something is called on a block; errors are faults. -/
def call [Generator γ] [Processor ω π] (v : Verb) (i : Nat) : Operation ω γ π (Result Unit) :=
  match v with
  | .configure => configure i
  | .start => do return (← start i).mapError .error
  | .stop => do return (← stop i).mapError .error

/-- A call was refused by a block in this state, which the error names. -/
structure Refused (v : Verb) (i : Nat) (found : BlockState) (r : Result Unit)
    (s : Network ω γ π) : Prop where
  result : r = refuse (.invalidState v.name found)
  block : At i (Block.Stands found) s

/-- What a call comes to that is accepted in the state `before`: it ends as it should, or the block
failed before it could be accepted. -/
def Outcome (v : Verb) (i : Nat) (before : BlockState) (r : Result Unit) (s : Network ω γ π) :
    Prop :=
  (∃ after, v.Ends before r after ∧ At i (Block.Stands after) s) ∨ Refused v i .error r s

lemma Refused.later {found : BlockState} {r : Result Unit} (h : Refused v i found r s)
    (hst : DriftAt i s t) : Refused v i found r t :=
  ⟨h.result, h.block.later Block.stable_stands hst⟩

lemma Outcome.later {r : Result Unit} (h : Outcome v i before r s) (hst : DriftAt i s t) :
    Outcome v i before r t := by
  rcases h with ⟨after, hends, hat⟩ | hrefused
  · exact .inl ⟨after, hends, hat.later Block.stable_stands hst⟩
  · exact .inr (hrefused.later hst)

/-! ### Entering another state -/

section Transitions

variable {operation : String} {sources : List BlockState} {target : BlockState}

/-- From a state that is not among the sources nothing happens. -/
lemma transition_refused (hs : At i (Block.Stands before) s) (hbefore : before ∉ sources)
    (herror : .error ∉ sources) :
    (transition i operation sources target).Meets (DriftAt i) (fun s t => t = s)
      (fun r t => ∃ found ∈ [before, .error], r = .error (.invalidState operation found) ∧
        At i (Block.Stands found) t) s := by
  intro t ht
  obtain ⟨b, hb, hstands⟩ := hs.later Block.stable_stands ht
  have hstate : b.core.state ∉ sources := hstands.not_mem hbefore herror
  have hsame : t.setBlock i (b.mapCore fun _ =>
      (b.core.transition operation sources target).2) = t := by
    rw [Block.mapCore_self (by simp [BlockCore.transition, hstate]), setBlock_self hb]
  simp only [hb, hsame, true_and]
  intro u hu
  refine ⟨b.state, hstands.state, by simp [BlockCore.transition, hstate, Block.state], ?_⟩
  exact At.later ⟨b, hb, hstands.threaded.stands⟩ Block.stable_stands hu

lemma refused_of_transition {k : BlockState → Operation ω γ π (Except Error Unit)}
    (hs : At i (Block.Stands before) s) (hbefore : before ∉ sources) (herror : .error ∉ sources) :
    (do match ← transition i operation sources target with
        | .error e => return .error e
        | .ok source => k source : Operation ω γ π (Except Error Unit)).Meets (DriftAt i)
      (fun s t => t = s)
      (fun r t => ∃ found ∈ [before, .error], r = .error (.invalidState operation found) ∧
        At i (Block.Stands found) t) s := by
  refine .bind (interference_driftAt i)
    ((transition_refused hs hbefore herror).weaken fun r t ht => ?_)
  obtain ⟨found, hfound, rfl, hat⟩ := ht
  exact fun u hu => ⟨found, hfound, rfl, hat.later Block.stable_stands hu⟩

/-- From one of the sources the block enters the target, unless it has failed. -/
lemma transition_accepted (hs : At i (Block.Stands before) s)
    (hmoves : before.Moves before target) (hbefore : before ∈ sources) (herror : .error ∉ sources) :
    (transition i operation sources target).Meets (DriftAt i) (StepAt (Block.Shifts before) i)
      (fun r t => match r with
        | .ok source => source = before ∧ At i (Block.Stands target) t
        | .error e => e = .invalidState operation .error ∧ At i (Block.Stands .error) t) s := by
  intro t ht
  obtain ⟨b, hb, hstands⟩ := hs.later Block.stable_stands ht
  simp only [hb]
  by_cases hstate : b.core.state = before
  · have hmem : b.core.state ∈ sources := hstate ▸ hbefore
    have hset : (t.setBlock i (b.mapCore fun _ =>
        (b.core.transition operation sources target).2)).blocks = t.blocks.set i (b.enter target) :=
      congrArg _ (Block.mapCore_congr (by simp [BlockCore.transition, hmem]))
    have hshifts : Block.Shifts before b (b.enter target) := by
      refine .inr ?_
      rw [Block.state_enter, Block.state, hstate]
      exact hmoves
    rw [show (b.core.transition operation sources target).1 = .ok b.core.state by
      simp [BlockCore.transition, hmem]]
    obtain ⟨hstep, hlater⟩ := control_step Block.stable_stands hb hset (.inr hshifts)
      (hstands.threaded.enter_stands target)
    exact ⟨hstep, fun u hu => ⟨hstate, hlater u hu⟩⟩
  · have hfailed : b.core.state = .error := Block.state_of_ne hstands.state hstate
    have hmem : b.core.state ∉ sources := hfailed ▸ herror
    have hsame : t.setBlock i (b.mapCore fun _ =>
        (b.core.transition operation sources target).2) = t := by
      rw [Block.mapCore_self (by simp [BlockCore.transition, hmem]), setBlock_self hb]
    have hresult : (b.core.transition operation sources target).1 =
        .error (.invalidState operation .error) := by simp [BlockCore.transition, hfailed, herror]
    rw [hresult, hsame]
    refine ⟨.refl t, fun u hu => ⟨rfl, ?_⟩⟩
    exact At.later ⟨b, hb, hstands.of_ne hstate _⟩ Block.stable_stands hu

/-- Once it has settled, a block is in the target, or has failed. -/
lemma settle_stands (hs : At i (Block.Stands state) s) (hmoves : before.Moves state target) :
    (settle i state target).Meets (DriftAt i) (StepAt (Block.Shifts before) i)
      (fun _ => At i (Block.Stands target)) s := by
  refine settle_meets Block.stable_stands Block.stable_stands hs (fun b hb hstate => ?_)
    fun b hb hstate => hb.of_ne hstate target
  refine ⟨.inr ?_, hb.threaded.enter_stands target⟩
  rwa [Block.state_enter, hstate]

end Transitions

/-! ### Steps that leave the state alone -/

section Biding

variable {α : Type}

/-- A block stands where it stood after a step that does not concern its state. -/
lemma modifyGet_stands {f : Network ω γ π → α × Network ω γ π}
    (hf : ∀ s, StepAt Block.Bides i s (f s).2) (hs : At i (Block.Stands state) s) :
    (Routine.modifyGet f).Meets (DriftAt i) (StepAt (Block.Shifts before) i)
      (fun _ => At i (Block.Stands state)) s := by
  intro t ht
  have ht' := hs.later Block.stable_stands ht
  refine ⟨(hf t).mono fun _ _ h => .inl h.state, fun u hu => ?_⟩
  exact ((hf t).keep (fun _ _ h => h.stands) ht').later Block.stable_stands hu

lemma modify_stands {f : Network ω γ π → Network ω γ π} (hf : ∀ s, StepAt Block.Bides i s (f s))
    (hs : At i (Block.Stands state) s) :
    (Routine.modify f).Meets (DriftAt i) (StepAt (Block.Shifts before) i)
      (fun _ => At i (Block.Stands state)) s :=
  modifyGet_stands (f := fun s => ((), f s)) hf hs

lemma join_stands (hs : At i (Block.Stands state) s) :
    (join i).Meets (DriftAt i) (StepAt (Block.Shifts before) i)
      (fun _ => At i (Block.Stands state)) s :=
  fun _ ht _ => modify_stands (stepAt_forgetThread Block.bides_forgetThread)
    (hs.later Block.stable_stands ht)

lemma signalStop_stands (hs : At i (Block.Stands state) s) :
    (signalStop i).Meets (DriftAt i) (StepAt (Block.Shifts before) i)
      (fun _ => At i (Block.Stands state)) s :=
  modify_stands (stepAt_mapSource fun _ => ⟨rfl, id⟩) hs

lemma haltWorker_stands (hs : At i (Block.Stands state) s) :
    (haltWorker i).Meets (DriftAt i) (StepAt (Block.Shifts before) i)
      (fun _ => At i (Block.Stands state)) s := by
  have hhalt (y : SinkBlock π) :
      (Block.sink y : Block γ π).Bides (.sink { y with engine := y.engine.halt }) :=
    ⟨by simp [Block.state, Block.core, SinkEngine.halt, SinkEngine.notifyProducers], id⟩
  refine .bind (interference_driftAt i) ((modify_stands (stepAt_mapEngine hhalt) hs).weaken ?_)
  intro _ t ht
  refine .bind (interference_driftAt i) ((join_stands ht).weaken fun _ u hu => ?_)
  exact modify_stands (stepAt_discard fun _ => ⟨rfl, id⟩) hu

end Biding

/-! ### Starting -/

/-- The thread of a block is started, or the block goes back to where it was. -/
lemma launch_outcome {spawn : Network ω γ π → Except Error Unit × Network ω γ π}
    (hspawn : ∀ s, StepAt Block.Bides i s (spawn s).2) (hs : At i (Block.Stands .starting) s) :
    (do match ← Routine.modifyGet spawn with
        | .error e =>
          settle i .starting before
          return .error e
        | .ok () =>
          settle i .starting .running
          return .ok () : Operation ω γ π (Except Error Unit)).Meets (DriftAt i)
      (StepAt (Block.Shifts before) i)
      (fun r t => Outcome .start i before (r.mapError .error) t) s := by
  refine .bind (interference_driftAt i) ((modifyGet_stands hspawn hs).weaken fun r t ht => ?_)
  cases r with
  | error e =>
    refine .bind (interference_driftAt i) ((settle_stands ht .returns).weaken fun _ u hu => ?_)
    exact fun v hv => .inl ⟨_, .unstarted e, hu.later Block.stable_stands hv⟩
  | ok _ =>
    refine .bind (interference_driftAt i) ((settle_stands ht .runs).weaken fun _ u hu => ?_)
    exact fun v hv => .inl ⟨_, .started, hu.later Block.stable_stands hv⟩

section Starting

variable (hs : At i (Block.Stands before) s) (hbefore : before ∈ [.initialized, .stopped])

include hs hbefore

/-- What follows once the state was changed, or the start refused. -/
lemma starting_outcome {k : BlockState → Operation ω γ π (Except Error Unit)}
    (hk : ∀ t, At i (Block.Stands .starting) t → (k before).Meets (DriftAt i)
      (StepAt (Block.Shifts before) i)
      (fun r u => Outcome .start i before (r.mapError .error) u) t) :
    (do match ← transition i "start" [.initialized, .stopped] .starting with
        | .error e => return .error e
        | .ok source => k source : Operation ω γ π (Except Error Unit)).Meets (DriftAt i)
      (StepAt (Block.Shifts before) i)
      (fun r t => Outcome .start i before (r.mapError .error) t) s := by
  refine .bind (interference_driftAt i)
    ((transition_accepted hs (.starts hbefore) hbefore (by simp)).weaken fun r t ht => ?_)
  cases r with
  | error e =>
    obtain ⟨rfl, ht⟩ := ht
    exact fun u hu => .inr ⟨rfl, ht.later Block.stable_stands hu⟩
  | ok source =>
    obtain ⟨rfl, ht⟩ := ht
    exact hk t ht

lemma startSource_outcome [Generator γ] :
    (startSource i).Meets (DriftAt i) (StepAt (Block.Shifts before) i)
      (fun r t => Outcome .start i before (r.mapError .error) t) s :=
  starting_outcome hs hbefore fun _ ht =>
    launch_outcome (stepAt_spawnSource (fun _ => ⟨rfl, id⟩) fun _ _ _ => ⟨rfl, id⟩) ht

lemma startSink_outcome :
    (startSink i).Meets (DriftAt i) (StepAt (Block.Shifts before) i)
      (fun r t => Outcome .start i before (r.mapError .error) t) s := by
  refine starting_outcome hs hbefore fun t ht => ?_
  refine .bind (interference_driftAt i)
    ((modify_stands (stepAt_mapEngine fun _ => ⟨rfl, id⟩) ht).weaken fun _ u hu => ?_)
  exact launch_outcome (stepAt_spawnSink fun _ => ⟨rfl, id⟩) hu

end Starting

/-! ### Stopping -/

section Stopping

variable (hs : At i (Block.Stands .running) s)

include hs

/-- What follows once the state was changed, or the stop refused. -/
lemma stopping_outcome {op : Operation ω γ π Unit}
    (hop : ∀ t, At i (Block.Stands .stopping) t → op.Meets (DriftAt i)
      (StepAt (Block.Shifts .running) i) (fun _ => At i (Block.Stands .stopping)) t) :
    (do match ← transition i "stop" [.running] .stopping with
        | .error e => return .error e
        | .ok _ =>
          op
          settle i .stopping .stopped
          return .ok () : Operation ω γ π (Except Error Unit)).Meets (DriftAt i)
      (StepAt (Block.Shifts .running) i)
      (fun r t => Outcome .stop i .running (r.mapError .error) t) s := by
  refine .bind (interference_driftAt i)
    ((transition_accepted hs .stops (by simp) (by simp)).weaken fun r t ht => ?_)
  cases r with
  | error e =>
    obtain ⟨rfl, ht⟩ := ht
    exact fun u hu => .inr ⟨rfl, ht.later Block.stable_stands hu⟩
  | ok source =>
    refine .bind (interference_driftAt i) ((hop t ht.2).weaken fun _ u hu => ?_)
    refine .bind (interference_driftAt i) ((settle_stands hu (.rests (by simp))).weaken ?_)
    exact fun _ v hv w hw => .inl ⟨_, .stopped, hv.later Block.stable_stands hw⟩

lemma stopSource_outcome :
    (stopSource i).Meets (DriftAt i) (StepAt (Block.Shifts .running) i)
      (fun r t => Outcome .stop i .running (r.mapError .error) t) s := by
  have hstops (t : Network ω γ π) (ht : At i (Block.Stands .stopping) t) :
      (signalStop i >>= fun _ => join i : Operation ω γ π Unit).Meets (DriftAt i)
        (StepAt (Block.Shifts .running) i) (fun _ => At i (Block.Stands .stopping)) t :=
    .bind (interference_driftAt i) ((signalStop_stands ht).weaken fun _ _ hu => join_stands hu)
  exact stopping_outcome hs hstops

lemma stopSink_outcome :
    (stopSink i).Meets (DriftAt i) (StepAt (Block.Shifts .running) i)
      (fun r t => Outcome .stop i .running (r.mapError .error) t) s :=
  stopping_outcome hs fun _ ht => haltWorker_stands ht

end Stopping

/-! ### Configuring -/

section Configuring

variable [Generator γ] [Processor ω π]

/-- Configuring a block in another state changes nothing. -/
lemma configureEngine_refused (hb : s.block? i = some b) (hthreaded : b.Threaded)
    (hstate : b.state ∉ Verb.configure.allowed) :
    configureEngine i s = (refuse (.invalidState "configure" b.state), s) := by
  cases b with
  | source x =>
    have h : x.configure s.storage = _ := SourceBlock.configure_refused hstate
    simp only [configureEngine, hb, h]
    rw [setSource, setBlock_self (s := { s with storage := s.storage }) hb]
    rfl
  | sink y =>
    have h : y.configure s.world = _ := SinkBlock.configure_refused hstate
    simp only [configureEngine, hb, h]
    rw [setSink, setBlock_self (s := { s with world := s.world }) hb]
    rfl
  | stage z => exact absurd hthreaded id

/-- Configuring a block in a state that allows it ends in one of these ways. -/
lemma configureEngine_ends (hb : s.block? i = some b) (hthreaded : b.Threaded)
    (hstate : b.state ∈ Verb.configure.allowed) :
    ∃ b', (configureEngine i s).2.blocks = s.blocks.set i b' ∧ b'.Threaded ∧
      Verb.configure.Ends b.state (configureEngine i s).1 b'.state := by
  cases b with
  | source x =>
    refine ⟨.source (x.configure s.storage).2.1, ?_, trivial, ?_⟩
    · simp [configureEngine, hb]
    · simp only [configureEngine, hb]
      exact SourceBlock.configure_ends hstate
  | sink y =>
    refine ⟨.sink (y.configure s.world).2.1, ?_, trivial, ?_⟩
    · simp [configureEngine, hb]
    · simp only [configureEngine, hb]
      exact SinkBlock.configure_ends hstate
  | stage z => exact absurd hthreaded id

lemma configureEngine_refused_meets (hs : At i (Block.Stands before) s)
    (hbefore : before ∉ Verb.configure.allowed) :
    (Routine.modifyGet (configureEngine i)).Meets (DriftAt i) (fun s t => t = s)
      (fun r t => ∃ found ∈ [before, .error], Refused .configure i found r t :
        Result Unit → Network ω γ π → Prop) s := by
  intro t ht
  obtain ⟨b, hb, hstands⟩ := hs.later Block.stable_stands ht
  have hrefused := hstands.not_mem hbefore (Verb.error_not_allowed _)
  dsimp only
  rw [configureEngine_refused hb hstands.threaded hrefused]
  refine ⟨rfl, fun u hu => ⟨b.state, hstands.state, rfl, ?_⟩⟩
  exact At.later ⟨b, hb, hstands.threaded.stands⟩ Block.stable_stands hu

lemma configureEngine_outcome (hs : At i (Block.Stands before) s)
    (hbefore : before ∈ Verb.configure.allowed) :
    (Routine.modifyGet (configureEngine i)).Meets (DriftAt i) (StepAt (Block.Shifts before) i)
      (Outcome .configure i before : Result Unit → Network ω γ π → Prop) s := by
  intro t ht
  obtain ⟨b, hb, hstands⟩ := hs.later Block.stable_stands ht
  by_cases hstate : b.state = before
  · obtain ⟨b', ht', hthreaded, hends⟩ :=
      configureEngine_ends hb hstands.threaded (hstate ▸ hbefore)
    rw [hstate] at hends
    have hshifts : b.Shifts before b' := by
      rw [Block.Shifts, hstate]
      generalize (configureEngine i t).1 = r, b'.state = after at hends
      cases hends with
      | configured => exact .inr (.configures hbefore (by simp))
      | unfit => exact .inr (.configures hbefore (by simp))
      | aborted => exact .inl rfl
    obtain ⟨hstep, hlater⟩ := control_step Block.stable_stands hb ht' (.inr hshifts)
      hthreaded.stands
    exact ⟨hstep, fun u hu => .inl ⟨_, hends, hlater u hu⟩⟩
  · have hfailed : b.state = .error := Block.state_of_ne hstands.state hstate
    have hrefused : b.state ∉ Verb.configure.allowed := hfailed ▸ Verb.error_not_allowed _
    dsimp only
    rw [configureEngine_refused hb hstands.threaded hrefused]
    refine ⟨.refl t, fun u hu => .inr ⟨by rw [hfailed]; rfl, ?_⟩⟩
    exact At.later ⟨b, hb, hstands.of_ne hstate _⟩ Block.stable_stands hu

end Configuring

/-! ### Calls -/

/-- What is called on a block depends on whether it is a source or a sink. -/
lemma get_meets {α : Type} {G : Network ω γ π → Network ω γ π → Prop}
    {Q : α → Network ω γ π → Prop} {k : Option (Block γ π) → Operation ω γ π α}
    (hs : At i (Block.Stands before) s) (hG : ∀ s, G s s)
    (hk : ∀ t b, t.block? i = some b → b.Stands before → (k (some b)).Meets (DriftAt i) G Q t) :
    ((Routine.get fun s => s.block? i) >>= k).Meets (DriftAt i) G Q s := by
  refine Routine.meets_get.2 fun t ht => ⟨hG t, ?_⟩
  obtain ⟨b, hb, hstands⟩ := hs.later Block.stable_stands ht
  rw [hb]
  exact hk t b hb hstands

lemma configure_outcome [Generator γ] [Processor ω π] (hs : At i (Block.Stands before) s)
    (hbefore : before ∈ Verb.configure.allowed) :
    (configure i).Meets (DriftAt i) (StepAt (Block.Shifts before) i)
      (Outcome .configure i before : Result Unit → Network ω γ π → Prop) s := by
  refine get_meets hs .refl fun t b hb hstands => ?_
  have hat : At i (Block.Stands before) t := ⟨b, hb, hstands⟩
  cases b with
  | source x => exact configureEngine_outcome hat hbefore
  | sink y => exact configureEngine_outcome hat hbefore
  | stage z => exact absurd hstands.threaded id

lemma start_outcome [Generator γ] (hs : At i (Block.Stands before) s)
    (hbefore : before ∈ Verb.start.allowed) :
    (start i).Meets (DriftAt i) (StepAt (Block.Shifts before) i)
      (fun r t => Outcome .start i before (r.mapError .error) t) s := by
  refine get_meets hs .refl fun t b hb hstands => ?_
  have hat : At i (Block.Stands before) t := ⟨b, hb, hstands⟩
  cases b with
  | source x => exact startSource_outcome hat hbefore
  | sink y => exact startSink_outcome hat hbefore
  | stage z => exact absurd hstands.threaded id

lemma stop_outcome (hs : At i (Block.Stands .running) s) :
    (stop i).Meets (DriftAt i) (StepAt (Block.Shifts .running) i)
      (fun r t => Outcome .stop i .running (r.mapError .error) t) s := by
  refine get_meets hs .refl fun t b hb hstands => ?_
  have hat : At i (Block.Stands .running) t := ⟨b, hb, hstands⟩
  cases b with
  | source x => exact stopSource_outcome hat
  | sink y => exact stopSink_outcome hat
  | stage z => exact absurd hstands.threaded id

/-- A call that the state of the block allows is accepted, unless the block fails before. -/
theorem call_outcome [Generator γ] [Processor ω π] (hs : At i (Block.Stands before) s)
    (hbefore : before ∈ v.allowed) :
    (call v i).Meets (DriftAt i) (StepAt (Block.Shifts before) i)
      (Outcome v i before : Result Unit → Network ω γ π → Prop) s := by
  cases v with
  | configure => exact configure_outcome hs hbefore
  | start =>
    exact .bind (interference_driftAt i) ((start_outcome hs hbefore).weaken
      fun _ _ ht _ hu => ht.later hu)
  | stop =>
    obtain rfl : before = .running := List.mem_singleton.1 hbefore
    exact .bind (interference_driftAt i) ((stop_outcome hs).weaken fun _ _ ht _ hu => ht.later hu)

/-- A call that the state of the block does not allow is refused and changes nothing. -/
theorem call_refused [Generator γ] [Processor ω π] (hs : At i (Block.Stands before) s)
    (hbefore : before ∉ v.allowed) :
    (call v i).Meets (DriftAt i) (fun s t => t = s)
      (fun r t => ∃ found ∈ [before, .error], Refused v i found r t) s := by
  have hkeep {op : Operation ω γ π (Except Error Unit)}
      (hop : op.Meets (DriftAt i) (fun s t => t = s) (fun r t => ∃ found ∈ [before, .error],
        r = .error (.invalidState v.name found) ∧ At i (Block.Stands found) t) s) :
      (do return (← op).mapError .error : Operation ω γ π (Result Unit)).Meets (DriftAt i)
        (fun s t => t = s) (fun r t => ∃ found ∈ [before, .error], Refused v i found r t) s := by
    refine .bind (interference_driftAt i) (hop.weaken fun r t ht u hu => ?_)
    obtain ⟨found, hfound, rfl, hat⟩ := ht
    exact ⟨found, hfound, rfl, hat.later Block.stable_stands hu⟩
  cases v with
  | configure =>
    refine get_meets hs (fun _ => rfl) fun t b hb hstands => ?_
    have hat : At i (Block.Stands before) t := ⟨b, hb, hstands⟩
    cases b with
    | source x => exact configureEngine_refused_meets hat hbefore
    | sink y => exact configureEngine_refused_meets hat hbefore
    | stage z => exact absurd hstands.threaded id
  | start =>
    refine hkeep (get_meets hs (fun _ => rfl) fun t b hb hstands => ?_)
    have hat : At i (Block.Stands before) t := ⟨b, hb, hstands⟩
    cases b with
    | source x => exact refused_of_transition hat hbefore (by simp)
    | sink y => exact refused_of_transition hat hbefore (by simp)
    | stage z => exact absurd hstands.threaded id
  | stop =>
    refine hkeep (get_meets hs (fun _ => rfl) fun t b hb hstands => ?_)
    have hat : At i (Block.Stands before) t := ⟨b, hb, hstands⟩
    cases b with
    | source x => exact refused_of_transition hat hbefore (by simp)
    | sink y => exact refused_of_transition hat hbefore (by simp)
    | stage z => exact absurd hstands.threaded id

/-! ### Shutting down -/

/-- Out of an active state a block is stopped, out of any other it does not come. -/
lemma settleStopped_stands (hs : At i (Block.Stands before) s) :
    (settleStopped i).Meets (DriftAt i) (StepAt (Block.Shifts before) i)
      (fun _ => At i (Block.Stands before.rested)) s := by
  refine meets_modifyAt Block.stable_stands Block.stable_stands hs _
    (fun t b hb _ => blocks_mapCore hb _) fun b hb => ?_
  by_cases hstate : b.state ∈ [.starting, .running, .stopping]
  · have h : b.mapCore BlockCore.settleStopped = b.enter .stopped :=
      Block.mapCore_congr ((BlockCore.settleStopped_eq _).trans (if_pos hstate))
    rw [h]
    refine ⟨.inr (.inr ?_), ?_⟩
    · rw [Block.state_enter]
      exact .rests hstate
    · have hbefore : b.state = before := by
        by_contra hne
        simp [Block.state_of_ne hb.state hne] at hstate
      rw [← hbefore, BlockState.rested, if_pos hstate]
      exact hb.threaded.enter_stands _
  · have h : b.mapCore BlockCore.settleStopped = b :=
      Block.mapCore_self ((BlockCore.settleStopped_eq _).trans (if_neg hstate))
    rw [h]
    refine ⟨.inl rfl, ?_⟩
    by_cases hbefore : b.state = before
    · rw [← hbefore, BlockState.rested, if_neg hstate]
      exact hb.threaded.stands
    · exact hb.of_ne hbefore _

/-- A shutdown is accepted in every state. -/
theorem shutdown_stands (hs : At i (Block.Stands before) s) :
    (shutdown i).Meets (DriftAt i) (StepAt (Block.Shifts before) i)
      (fun _ => At i (Block.Stands before.rested)) s := by
  refine get_meets hs .refl fun t b hb hstands => ?_
  have hat : At i (Block.Stands before) t := ⟨b, hb, hstands⟩
  cases b with
  | source x =>
    refine .bind (interference_driftAt i) ((signalStop_stands hat).weaken fun _ t ht => ?_)
    refine .bind (interference_driftAt i) ((join_stands ht).weaken fun _ t ht => ?_)
    refine .bind (interference_driftAt i) ((settleStopped_stands ht).weaken fun _ t ht => ?_)
    exact modify_stands (stepAt_mapSource fun _ => ⟨rfl, id⟩) ht
  | sink y =>
    refine .bind (interference_driftAt i) ((haltWorker_stands hat).weaken fun _ t ht => ?_)
    exact settleStopped_stands ht
  | stage z => exact absurd hstands.threaded id

end Network

end FrameGraph
