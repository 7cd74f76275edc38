import FrameGraph.Proofs.Network.Namesakes
import FrameGraph.Proofs.Pipeline.Forgetting

/-!
# What a step of a call does

Whatever state it finds, each step of a call on a pipeline is one of a few kinds. What is kept by
steps of all these kinds, and by what others do between them, holds along each run, whatever blocks
the registry makes.
-/

namespace FrameGraph

lemma Block.Joins.namesake {γ π : Type} {b b' : Block γ π} {routed : List Nat → Prop}
    (h : b.Joins routed b') : b.Namesake b' := by
  cases h <;> exact ⟨rfl, rfl⟩

namespace Pipeline

variable {ω γ π α β : Type} {p q r : Pipeline ω γ π} {i : Nat}

section Acts

variable [Generator γ] [Processor ω π]

/-- One step of a call that leaves the graph as it was described. -/
inductive Tends (p : Pipeline ω γ π) : Pipeline ω γ π → Prop
  | looks : Tends p p
  | notes (running : Bool) (lastError : String) : Tends p { p with running, lastError }
  /-- The parameters, the statistics or the listener of a block change. -/
  | tunes (i : Nat) {f : BlockCore → BlockCore} (hf : ∀ c, (f c).name = c.name) :
    Tends p (p.mapNetwork fun s => s.mapCore i f)
  | closes {s : Network ω γ π} (i : Nat) (h : Network.ClosesAt i p.network s) :
    Tends p { p with network := s }
  | starts {s : Network ω γ π} (i : Nat) (h : Network.StartsAt i p.network s) :
    Tends p { p with network := s }
  | configures {s : Network ω γ π} (i : Nat) (h : Network.ConfiguresAt i p.network s) :
    Tends p { p with network := s }
  | connects {q : Pipeline ω γ π} (h : Rewires (fun _ _ => True) p q) : Tends p q

/-- One step of a call. -/
inductive Acts (p : Pipeline ω γ π) : Pipeline ω γ π → Prop
  | tends {q : Pipeline ω γ π} (h : Tends p q) : Acts p q
  | describes (config : GraphConfig) : Acts p { p with config }
  | forgets : Acts p { p with entries := [] }
  | makes (d : BlockDef) : Acts p (makeNew d p).2

/-- Each step of an operation leaves the graph as it was described. -/
abbrev Tending (op : Operation ω γ π α) : Prop := op.Always Tends

/-- Each step of an operation is a step of a call. -/
abbrev Acting (op : Operation ω γ π α) : Prop := op.Always Acts

lemma Tending.acting {op : Operation ω γ π α} (h : Tending op) : Acting op :=
  h.mono fun _ _ => .tends

lemma tending_get {f : Pipeline ω γ π → β} {k : β → Operation ω γ π α} (h : ∀ b, Tending (k b)) :
    Tending (Routine.get f >>= k) :=
  Routine.always_get (fun _ => .looks) h

lemma acting_get {f : Pipeline ω γ π → β} {k : β → Operation ω γ π α} (h : ∀ b, Acting (k b)) :
    Acting (Routine.get f >>= k) :=
  Routine.always_get (fun _ => .tends .looks) h

lemma tending_lift {op : Network.Operation ω γ π α} {G : Network ω γ π → Network ω γ π → Prop}
    (hop : op.Always G) (h : ∀ p s, G p.network s → Tends p { p with network := s }) :
    Tending (lift op) := by
  intro p _
  refine (meets_lift (hop p.network trivial) fun _ _ _ => trivial).mono (fun _ _ => id)
    (fun q r hqr => ?_) fun _ _ _ => trivial
  rw [hqr.2]
  exact h q r.network hqr.1

lemma tending_close {op : Network.Operation ω γ π α} (hop : Network.Closing i op) :
    Tending (lift op) := tending_lift hop fun _ _ => .closes i

lemma tending_tune (i : Nat) {f : BlockCore → BlockCore} (hf : ∀ c, (f c).name = c.name) :
    Tending (lift (.modify fun s : Network ω γ π => s.mapCore i f)) := by
  refine tending_lift (G := fun s t => t = s.mapCore i f) (Routine.always_modify fun _ => rfl) ?_
  rintro p s rfl
  exact .tunes i hf

lemma tending_failWith (e : Error) : Tending (failWith e : Operation ω γ π (Result α)) :=
  Routine.Always.bind (Routine.always_modify fun p => .notes p.running e.message)
    fun _ => Routine.always_pure _

/-! ### Operations -/

lemma acting_teardown : Acting (teardown : Operation ω γ π Unit) := by
  refine acting_get fun entries => Routine.Always.bind ?_ fun _ =>
    Routine.always_modify fun _ => .forgets
  refine Routine.Always.each (fun e => Tending.acting ?_) _
  refine Routine.Always.bind (tending_tune e.2 fun _ => rfl) fun _ => ?_
  exact Routine.Always.bind (tending_close Network.closing_shutdown) fun _ =>
    tending_close Network.closing_clearConsumer

lemma tending_halts (l : List Nat) :
    Tending (Routine.each (fun i => lift (Network.halt i)) l : Operation ω γ π Unit) :=
  Routine.Always.each (fun _ => tending_close Network.closing_halt) l

lemma tending_stop : Tending (stop : Operation ω γ π Unit) := by
  refine Routine.Always.bind
    (Routine.always_modifyGet fun p => .notes false p.lastError) fun running => ?_
  cases running with
  | false => exact Routine.always_pure _
  | true => exact tending_get fun _ => tending_halts _

lemma tending_startAll (started waiting : List Nat) :
    Tending (startAll started waiting : Operation ω γ π _) := by
  induction waiting generalizing started with
  | nil => exact Routine.always_pure _
  | cons i waiting ih =>
    refine Routine.Always.bind (tending_lift Network.starting_start fun _ _ => .starts i)
      fun r => ?_
    cases r with
    | ok _ => exact ih _
    | error e => exact tending_get fun _ => (tending_halts _).bind fun _ => Routine.always_pure _

lemma tending_start : Tending (start : Operation ω γ π (Result Unit)) := by
  refine tending_get fun entries => ?_
  split
  · exact tending_failWith _
  refine tending_get fun running => ?_
  split
  · exact Routine.always_pure _
  refine tending_get fun order => (tending_startAll _ _).bind fun r => ?_
  cases r with
  | error e => exact tending_failWith e
  | ok _ =>
    exact Routine.Always.bind (Routine.always_modify fun p => .notes true p.lastError)
      fun _ => Routine.always_pure _

lemma tending_configureBlock (d : BlockDef) :
    Tending (configureBlock d : Operation ω γ π (Result Unit)) := by
  refine tending_get fun found => ?_
  cases found with
  | none => exact Routine.always_pure _
  | some i =>
    refine Routine.Always.bind (tending_tune i fun _ => rfl) fun _ => ?_
    refine Routine.Always.bind
      (tending_lift Network.configuring_configure fun _ _ => .configures i) fun r => ?_
    split <;> exact Routine.always_pure _

lemma tending_configureBlocks (defs : List BlockDef) :
    Tending (configureBlocks defs : Operation ω γ π (Result Unit)) :=
  Routine.Always.eachUntil tending_configureBlock defs

lemma tending_connectBlocks (cs : List Connection) :
    Tending (connectBlocks cs : Operation ω γ π (Result Unit)) := by
  refine Routine.always_modifyGet fun p => .connects ?_
  have hinforms := (connectAll_spec cs [] p).1
  split
  · rename_i routes q hall
    rw [hall] at hinforms
    exact (hinforms.mono fun _ _ _ => trivial).trans
      ((rewires_installAll q).mono fun _ _ _ => trivial)
  · rename_i f q hall
    rw [hall] at hinforms
    exact hinforms.mono fun _ _ _ => trivial

lemma acting_createBlocks (defs : List BlockDef) :
    Acting (createBlocks defs : Operation ω γ π (Result Unit)) :=
  Routine.Always.eachUntil (fun d => Routine.always_modifyGet fun _ => .makes d) defs

lemma acting_build (config : GraphConfig) :
    Acting (build config : Operation ω γ π (Result Unit)) := by
  refine (acting_createBlocks _).bind fun r => ?_
  cases r with
  | error f => exact Routine.always_pure _
  | ok _ =>
    refine Routine.Always.bind (tending_configureBlocks _).acting fun r => ?_
    cases r with
    | error f => exact Routine.always_pure _
    | ok _ => exact (tending_connectBlocks _).acting

lemma acting_load (config : GraphConfig) :
    Acting (load config : Operation ω γ π (Result Unit)) := by
  refine acting_get fun running => ?_
  split
  · exact (tending_failWith _).acting
  refine acting_teardown.bind fun _ => ?_
  refine Routine.Always.bind (Routine.always_modify fun _ => .describes config) fun _ => ?_
  refine (acting_build config).bind fun r => ?_
  split
  · exact acting_teardown.bind fun _ => (tending_failWith _).acting
  · exact Routine.always_pure _

lemma acting_loadResult (described : Result GraphConfig) :
    Acting (loadResult described : Operation ω γ π (Result Unit)) := by
  match described with
  | .ok config => exact acting_load config
  | .error (.error e) => exact (tending_failWith e).acting
  | .error (.panic p) => exact Routine.always_pure _

lemma acting_shutdown : Acting (shutdown : Operation ω γ π Unit) := by
  refine Routine.Always.bind tending_stop.acting fun _ => acting_get fun entries => ?_
  split
  · exact Routine.always_pure _
  · exact acting_teardown.bind fun _ => Routine.always_modify fun _ => .describes {}

lemma tending_resetAll : Tending (resetAll : Operation ω γ π Unit) :=
  tending_get fun _ => Routine.Always.each
    (fun e => Routine.always_modify fun _ => .tunes e.2 fun _ => rfl) _

/-- Each step of a call is of one of these kinds. -/
theorem Call.acting {op : Operation ω γ π Unit} (h : Call op) : Acting op := by
  cases h with
  | manager h =>
    cases h with
    | build config => exact (acting_load config).bind fun _ => Routine.always_pure _
    | loadResult described =>
      exact (acting_loadResult described).bind fun _ => Routine.always_pure _
    | start => exact Routine.Always.bind tending_start.acting fun _ => Routine.always_pure _
    | stop => exact tending_stop.acting
    | shutdown => exact acting_shutdown
  | resetAll => exact tending_resetAll.acting

end Acts

/-! ### What others do -/

/-- What others do between the steps of a call. -/
structure Sways (p q : Pipeline ω γ π) : Prop extends Drift p q where
  namesakes : p.network.Each (fun _ => Block.Namesake) q.network

lemma Sways.refl (p : Pipeline ω γ π) : p.Sways p := ⟨.refl p, .refl (fun _ => .refl) _⟩

lemma Sways.trans (h : p.Sways q) (h' : q.Sways r) : p.Sways r :=
  ⟨h.toDrift.trans h'.toDrift, h.namesakes.trans h'.namesakes fun _ _ _ _ => .trans⟩

lemma interference_sways : Routine.Interference (Sways (ω := ω) (γ := γ) (π := π)) :=
  ⟨.refl, .trans⟩

lemma Sways.entries (h : p.Sways q) : q.entries = p.entries := by rw [h.rest]

variable [Generator γ] [Processor ω π]

lemma Occurs.sways (h : p.Occurs q) : p.Sways q := by
  refine ⟨h.drift, ?_⟩
  cases h with
  | happens h => exact h.namesakes
  | elsewhere h => exact Network.each_of_blocks_eq h fun _ => .refl

lemma sways_of_meanwhile (h : Meanwhile p q) : p.Sways q := by
  induction h with
  | refl => exact .refl p
  | tail _ h ih => exact ih.trans h.sways

/-- What holds of a new pipeline, and what others and each call keep, holds between the calls of a
run. -/
theorem Run.keeps {registry : Registry ω (Block γ π)} {J : Pipeline ω γ π → Prop}
    (h : Run registry ⟨p, none⟩) (hnew : ∀ world, J (.new registry world))
    (hlater : ∀ p q : Pipeline ω γ π, p.Sways q → J p → J q)
    (hcall : ∀ op : Operation ω γ π Unit, Call op → op.Keeps Sways (fun _ _ => True) J) : J p := by
  suffices hsound : ∀ x : Scene (Pipeline ω γ π), Run registry x →
      x.Sound Sways (fun _ _ => True) J from hsound _ h
  intro x hx
  induction hx with
  | new world => exact hnew world
  | step _ hstep ih =>
    exact (hstep.sound interference_sways (fun _ _ => Occurs.sways) hlater hcall ih).1

end Pipeline

end FrameGraph
