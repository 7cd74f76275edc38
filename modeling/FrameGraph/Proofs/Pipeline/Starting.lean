import FrameGraph.Proofs.Executions
import FrameGraph.Proofs.Pipeline.Order

/-!
# Starting a graph

The blocks of a graph are started one after the other, up to the first one that refuses. Those that
were started before it are halted in the opposite order, and the blocks after it are not touched. If
none refuses, a later stop halts all blocks in the order opposite to that of starting.
-/

namespace FrameGraph.Pipeline

open Routine (Execution InTurn)

variable {ω γ π α : Type} {p q r : Pipeline ω γ π} {i : Nat} {l m m' : List Nat}
  {steps : List (Pipeline ω γ π × Pipeline ω γ π)}

/-! ### What steps concern -/

/-- What was done concerns the blocks at these positions; all others went on by themselves. -/
structure Concerns (m : List Nat) (p q : Pipeline ω γ π) : Prop where
  rest : q = { p with network := q.network }
  namesakes : p.network.Each (fun _ => Block.Namesake) q.network
  others : ∀ i ∉ m, Network.DriftAt i p.network q.network

lemma Sways.concerns (h : p.Sways q) : p.Concerns m q :=
  ⟨h.rest, h.namesakes, fun i _ => h.network.block i⟩

lemma Concerns.trans (h : p.Concerns m q) (h' : q.Concerns m' r) : p.Concerns (m ++ m') r where
  rest := by rw [h'.rest, h.rest]
  namesakes := h.namesakes.trans h'.namesakes fun _ _ _ _ => .trans
  others i hi := by
    rw [List.mem_append, not_or] at hi
    exact (h.others i hi.1).trans (h'.others i hi.2)

lemma Concerns.sways (h : p.Concerns m q) (h' : q.Sways r) : p.Concerns m r := by
  have hconcerns := h.trans (h'.concerns (m := []))
  rwa [List.append_nil] at hconcerns

lemma Concerns.entries (h : p.Concerns m q) : q.entries = p.entries := by rw [h.rest]

/-- A block that went on by itself has been launched if it was. -/
lemma Concerns.launched (h : p.Concerns m q) (hi : i ∉ m)
    (hp : Network.At i Block.Launched p.network) : Network.At i Block.Launched q.network :=
  hp.later Block.stable_launched (h.others i hi)

lemma Concerns.placed (h : p.Concerns m q) (hp : Network.Placed i p.network) :
    Network.Placed i q.network := by
  obtain ⟨b, hb, -⟩ := hp
  obtain ⟨b', hb', -⟩ := h.namesakes.block i b hb
  exact ⟨b', hb', trivial⟩

lemma Concerns.nameOf (h : p.Concerns m q) (hp : Network.Placed i p.network) :
    q.network.nameOf i = p.network.nameOf i := by
  obtain ⟨b, hb, -⟩ := hp
  obtain ⟨b', hb', hnamesake⟩ := h.namesakes.block i b hb
  simp only [Network.nameOf, hb, hb', hnamesake.name]

/-- This step leaves the blocks at all other positions alone. -/
def TouchesOnly (m : List Nat) (x : Pipeline ω γ π × Pipeline ω γ π) : Prop :=
  ∀ k ∉ m, x.2.network.block? k = x.1.network.block? k

lemma TouchesOnly.mono {x : Pipeline ω γ π × Pipeline ω γ π} (h : TouchesOnly m x)
    (hm : ∀ i ∈ m, i ∈ m') : TouchesOnly m' x := fun k hk => h k (mt (hm k) hk)

lemma lift_bind {β : Type} (op : Network.Operation ω γ π β) (k : β → Network.Operation ω γ π α) :
    lift (op >>= k) = lift op >>= fun b => lift (k b) :=
  Routine.on_bind op k

lemma lift_get {β : Type} (f : Network ω γ π → β) :
    lift (.get f) = .get fun p : Pipeline ω γ π => f p.network := rfl

/-- An operation on the block `i` concerns this block alone. -/
lemma lift_concerns {op : Network.Operation ω γ π α}
    (hop : op.Always (Network.StepAt Block.Namesake i)) (p : Pipeline ω γ π) :
    (lift op).Meets Sways (fun q r => TouchesOnly [i] (q, r)) (fun _ => p.Concerns [i]) p := by
  have hlift := meets_lift (hop p.network trivial) fun q r (_ : q.Sways r) => trivial
  refine (hlift.keep (P := p.Concerns [i]) (fun q r hqr hq => hq.sways hqr) ?_
    (Sways.refl p).concerns).mono (fun _ _ => id) (fun q r h k hk => ?_) fun _ _ h => h.2
  · rintro q r ⟨hstep, hrest⟩ hq
    refine ⟨by rw [hrest, hq.rest], hq.namesakes.trans hstep.namesakes fun _ _ _ _ => .trans, ?_⟩
    intro k hk
    refine (hq.others k hk).trans (Network.driftAt_of_eq (hstep.block?_of_ne ?_))
    rintro rfl
    simp at hk
  · refine h.1.1.block?_of_ne ?_
    rintro rfl
    simp at hk

variable [Generator γ] [Processor ω π]

lemma execution_concerns {op : Network.Operation ω γ π α} {a : α}
    (hop : op.Always (Network.StepAt Block.Namesake i))
    (h : Execution Meanwhile (lift op) p steps a q) :
    p.Concerns [i] q ∧ ∀ x ∈ steps, TouchesOnly [i] x :=
  ((lift_concerns hop p).mono (fun _ _ => sways_of_meanwhile) (fun _ _ => id)
    fun _ _ => id).execution h

/-! ### Starting blocks -/

/-- The block `i` is started and does not refuse. -/
abbrev Started (i : Nat) (p : Pipeline ω γ π) (steps : List (Pipeline ω γ π × Pipeline ω γ π))
    (q : Pipeline ω γ π) : Prop :=
  Execution Meanwhile (lift (Network.start i)) p steps (.ok ()) q

lemma execution_start_concerns {result : Except Error Unit}
    (h : Execution Meanwhile (lift (Network.start i)) p steps result q) :
    p.Concerns [i] q ∧ ∀ x ∈ steps, TouchesOnly [i] x :=
  execution_concerns (Network.starting_start.mono fun _ _ h => h.namesake) h

lemma Started.launched (h : Started i p steps q) (hp : Network.Placed i p.network) :
    Network.At i Block.Launched q.network := by
  have hlift := meets_lift (Network.start_launches hp) fun q r (hqr : q.Meanwhile r) =>
    (sways_of_meanwhile hqr).network.block i
  exact (hlift.execution h).1 rfl

/-- What is done for these blocks, one after the other, concerns no others. -/
lemma concerns_of_inTurn {E : Nat → Pipeline ω γ π → List (Pipeline ω γ π × Pipeline ω γ π) →
      Pipeline ω γ π → Prop}
    (hE : ∀ {i p steps q}, E i p steps q → p.Concerns [i] q ∧ ∀ x ∈ steps, TouchesOnly [i] x)
    (h : InTurn Meanwhile E l p steps q) : p.Concerns l q ∧ ∀ x ∈ steps, TouchesOnly l x := by
  induction h with
  | nil hpq => exact ⟨(sways_of_meanwhile hpq).concerns, by simp⟩
  | @cons i l p first t rest q hfirst _ ih =>
    obtain ⟨hconcerns, hsteps⟩ := hE hfirst
    refine ⟨hconcerns.trans ih.1, fun x hx => ?_⟩
    rcases List.mem_append.1 hx with hx | hx
    · exact (hsteps x hx).mono (by simp)
    · exact (ih.2 x hx).mono fun j hj => List.mem_cons_of_mem i hj

/-- Started one after the other, all these blocks run, or have failed since. -/
lemma launched_of_inTurn (h : InTurn Meanwhile Started l p steps q) (hl : l.Nodup)
    (hp : ∀ i ∈ l, Network.Placed i p.network) :
    ∀ i ∈ l, Network.At i Block.Launched q.network := by
  induction h with
  | nil => simp
  | @cons i l p first t rest q hfirst hrest ih =>
    obtain ⟨hi, hl⟩ := List.nodup_cons.1 hl
    obtain ⟨hplaced, hp⟩ := List.forall_mem_cons.1 hp
    have hconcerns := (concerns_of_inTurn execution_start_concerns hrest).1
    refine List.forall_mem_cons.2 ⟨hconcerns.launched hi (hfirst.launched hplaced), ?_⟩
    exact ih hl fun j hj => (execution_start_concerns hfirst).1.placed (hp j hj)

/-! ### Halting blocks -/

/-- Halting is called on the block `i`. -/
abbrev HaltCalled (i : Nat) (p : Pipeline ω γ π) (steps : List (Pipeline ω γ π × Pipeline ω γ π))
    (q : Pipeline ω γ π) : Prop :=
  Execution Meanwhile (lift (Network.halt i)) p steps () q

/-- The block `i` is halted: stopped if it runs, or shut down if it has failed. -/
inductive Halted (i : Nat) (p : Pipeline ω γ π) :
    List (Pipeline ω γ π × Pipeline ω γ π) → Pipeline ω γ π → Prop
  | stopped {u v trace} (hpu : Meanwhile p u) (hstate : u.network.stateOf i = .running)
    (h : Execution Meanwhile (lift (Network.stop i)) u trace (.ok ()) v) :
    Halted i p ((u, u) :: trace) v
  /-- It fails meanwhile, or refuses to be stopped; it is shut down then. -/
  | refused {u first e v trace w} (hpu : Meanwhile p u)
    (hstate : u.network.stateOf i = .running)
    (hstop : Execution Meanwhile (lift (Network.stop i)) u first (.error e) v)
    (h : Execution Meanwhile (lift (Network.shutdown i)) v trace () w) :
    Halted i p ((u, u) :: (first ++ trace)) w
  | failed {u trace v} (hpu : Meanwhile p u) (hstate : u.network.stateOf i = .error)
    (h : Execution Meanwhile (lift (Network.shutdown i)) u trace () v) :
    Halted i p ((u, u) :: trace) v

lemma interference_meanwhile :
    Routine.Interference (Meanwhile : Pipeline ω γ π → Pipeline ω γ π → Prop) :=
  ⟨fun _ => .refl, fun h h' => h.trans h'⟩

/-- A block that was launched is stopped or shut down. -/
lemma halted_of_execution (h : HaltCalled i p steps q)
    (hp : Network.At i Block.Launched p.network) : Halted i p steps q := by
  have hR := interference_meanwhile (ω := ω) (γ := γ) (π := π)
  simp only [HaltCalled, Network.halt, lift_bind, lift_get] at h
  obtain ⟨u, rest, hpu, rfl, hrest⟩ := Routine.execution_get_iff.1 h
  obtain ⟨b, hb, hlaunched⟩ :=
    hp.later Block.stable_launched ((sways_of_meanwhile hpu).network.block i)
  have hstate : u.network.stateOf i = b.state := by simp [Network.stateOf, hb]
  have hcases : b.state = .running ∨ b.state = .error := by simpa [Block.Launched] using hlaunched
  rcases hcases with hrunning | herror
  · simp only [hstate, hrunning, lift_bind] at hrest
    obtain ⟨first, result, v, last, hstop, rfl, hlast⟩ := (Routine.execution_bind_iff hR).1 hrest
    cases result with
    | ok _ =>
      obtain ⟨rfl, -, hvq⟩ := Routine.execution_pure_iff.1 hlast
      rw [List.append_nil]
      exact .stopped hpu (hstate.trans hrunning) (hstop.later hR hvq)
    | error e => exact .refused hpu (hstate.trans hrunning) hstop hlast
  · simp only [hstate, herror] at hrest
    exact .failed hpu (hstate.trans herror) hrest

lemma execution_halt_concerns (h : HaltCalled i p steps q) :
    p.Concerns [i] q ∧ ∀ x ∈ steps, TouchesOnly [i] x :=
  execution_concerns (Network.closing_halt.mono fun _ _ h => h.namesake) h

/-- Halted one after the other, all these blocks are stopped or shut down. -/
lemma halted_of_inTurn (h : InTurn Meanwhile HaltCalled l p steps q) (hl : l.Nodup)
    (hp : ∀ i ∈ l, Network.At i Block.Launched p.network) :
    InTurn Meanwhile Halted l p steps q := by
  -- the blocks that are still to come have their turns once, so that they stay launched till then
  refine (h.refine (P := fun l p => l.Nodup ∧ ∀ i ∈ l, Network.At i Block.Launched p.network)
    (fun _ _ _ _ => ⟨List.nodup_nil, by simp⟩) ?_ ⟨hl, hp⟩).1
  rintro i l p steps q ⟨hl, hp⟩ hhalt
  obtain ⟨hi, hl⟩ := List.nodup_cons.1 hl
  obtain ⟨hlaunched, hp⟩ := List.forall_mem_cons.1 hp
  have hconcerns := (execution_halt_concerns hhalt).1
  refine ⟨halted_of_execution hhalt hlaunched, hl, fun j hj => hconcerns.launched ?_ (hp j hj)⟩
  rintro hji
  exact hi (List.mem_singleton.1 hji ▸ hj)

/-! ### Starting all blocks -/

/-- The blocks `done` are started, the block `i` refuses, and those that were started are halted in
the opposite order. -/
def RollsBack (done : List Nat) (i : Nat) (e : Error) (p : Pipeline ω γ π)
    (steps : List (Pipeline ω γ π × Pipeline ω γ π)) (q : Pipeline ω γ π) : Prop :=
  ∃ first t second u v third, steps = first ++ (second ++ (v, v) :: third) ∧
    InTurn Meanwhile Started done p first t ∧
    Execution Meanwhile (lift (Network.start i)) t second (.error e) u ∧ Meanwhile u v ∧
    InTurn Meanwhile Halted done.reverse v third q

/-- Either all blocks that wait are started, or one of them refuses, and halting is called on those
that were started. -/
lemma execution_startAll {started waiting : List Nat} {result : Except Error Unit}
    (h : Execution Meanwhile (startAll started waiting) p steps result q) :
    (result = .ok () ∧ InTurn Meanwhile Started waiting p steps q) ∨
    ∃ done i rest e first t second u v third, waiting = done ++ i :: rest ∧
      steps = first ++ (second ++ (v, v) :: third) ∧ InTurn Meanwhile Started done p first t ∧
      Execution Meanwhile (lift (Network.start i)) t second (.error e) u ∧ Meanwhile u v ∧
      InTurn Meanwhile HaltCalled (done.reverse ++ started) v third q ∧
      result = .error (.block (v.network.nameOf i) s!"failed to start: {e.message}") := by
  have hR := interference_meanwhile (ω := ω) (γ := γ) (π := π)
  induction waiting generalizing started p steps with
  | nil =>
    obtain ⟨rfl, rfl, hpq⟩ := Routine.execution_pure_iff.1 h
    exact .inl ⟨rfl, .nil hpq⟩
  | cons i waiting ih =>
    obtain ⟨first, answer, t, last, hfirst, rfl, hlast⟩ := (Routine.execution_bind_iff hR).1 h
    cases answer with
    | ok _ =>
      rcases ih hlast with ⟨hresult, hstarted⟩ | hrefused
      · exact .inl ⟨hresult, .cons hfirst hstarted⟩
      -- this block is the first one that was started, and the last one that is halted
      · obtain ⟨done, k, rest, e, before, u, second, v, w, third, rfl, rfl, hstarted, hrefuses, hvw,
          hhalted, hresult⟩ := hrefused
        refine .inr ⟨i :: done, k, rest, e, _, u, second, v, w, third, rfl, by simp,
          .cons hfirst hstarted, hrefuses, hvw, ?_, hresult⟩
        simpa using hhalted
    | error e =>
      obtain ⟨v, third, htv, rfl, hhalt⟩ := Routine.execution_get_iff.1 hlast
      obtain ⟨third, _, w, _, hhalted, rfl, hend⟩ := (Routine.execution_bind_iff hR).1 hhalt
      obtain ⟨rfl, hresult, hwq⟩ := Routine.execution_pure_iff.1 hend
      exact .inr ⟨[], i, waiting, e, [], p, first, t, v, third, rfl, by simp, .nil .refl, hfirst,
        htv, (hhalted.later hR hwq).inTurn hR, hresult⟩

section Refusal

variable {done : List Nat} {e : Error} {t u v : Pipeline ω γ π}
  {first second third : List (Pipeline ω γ π × Pipeline ω γ π)}

/-- A refusal concerns the blocks that were started before it and the one that refuses. -/
lemma concerns_of_refusal (hstarted : InTurn Meanwhile Started done p first t)
    (hrefuses : Execution Meanwhile (lift (Network.start i)) t second (.error e) u)
    (huv : Meanwhile u v) (hhalted : InTurn Meanwhile HaltCalled done.reverse v third q) :
    p.Concerns (done ++ [i]) q ∧
      ∀ x ∈ first ++ (second ++ (v, v) :: third), TouchesOnly (done ++ [i]) x := by
  obtain ⟨hbefore, hfirst⟩ := concerns_of_inTurn execution_start_concerns hstarted
  obtain ⟨hthen, hsecond⟩ := execution_start_concerns hrefuses
  obtain ⟨hafter, hthird⟩ := concerns_of_inTurn execution_halt_concerns hhalted
  have hconcerns := ((hbefore.trans hthen).sways (sways_of_meanwhile huv)).trans hafter
  refine ⟨⟨hconcerns.rest, hconcerns.namesakes, fun k hk => hconcerns.others k (by simp_all)⟩, ?_⟩
  intro x hx
  simp only [List.mem_append, List.mem_cons] at hx
  rcases hx with hx | hx | rfl | hx
  · exact (hfirst x hx).mono fun j hj => List.mem_append_left _ hj
  · exact (hsecond x hx).mono (by simp)
  · exact fun _ _ => rfl
  · exact (hthird x hx).mono (by simp +contextual)

/-- The blocks that were started before a refusal run when they are halted, or have failed. -/
lemma rollsBack_of_refusal (hdone : done.Nodup) (hi : i ∉ done)
    (hp : ∀ k ∈ done, Network.Placed k p.network)
    (hstarted : InTurn Meanwhile Started done p first t)
    (hrefuses : Execution Meanwhile (lift (Network.start i)) t second (.error e) u)
    (huv : Meanwhile u v) (hhalted : InTurn Meanwhile HaltCalled done.reverse v third q) :
    RollsBack done i e p (first ++ (second ++ (v, v) :: third)) q := by
  have hthen := (execution_start_concerns hrefuses).1.sways (sways_of_meanwhile huv)
  have hlaunched : ∀ k ∈ done.reverse, Network.At k Block.Launched v.network := by
    intro k hk
    rw [List.mem_reverse] at hk
    refine hthen.launched ?_ (launched_of_inTurn hstarted hdone hp k hk)
    rintro hki
    exact hi (List.mem_singleton.1 hki ▸ hk)
  exact ⟨first, t, second, u, v, third, rfl, hstarted, hrefuses, huv,
    halted_of_inTurn hhalted ((List.reverse_perm done).nodup_iff.2 hdone) hlaunched⟩

end Refusal

/-- Some blocks are started, and if one refuses, those before it are halted. No step touches any
other block. -/
theorem startAll_spec {order : List Nat} {result : Except Error Unit} (horder : order.Nodup)
    (hp : ∀ i ∈ order, Network.Placed i p.network)
    (h : Execution Meanwhile (startAll [] order) p steps result q) :
    (result = .ok () ∧ InTurn Meanwhile Started order p steps q) ∨
    ∃ done i rest e, order = done ++ i :: rest ∧ RollsBack done i e p steps q ∧
      result = .error (.block (p.network.nameOf i) s!"failed to start: {e.message}") ∧
      p.Concerns (done ++ [i]) q ∧ ∀ x ∈ steps, TouchesOnly (done ++ [i]) x := by
  rcases execution_startAll h with hstarted | ⟨done, i, rest, e, first, t, second, u, v, third,
    rfl, rfl, hstarted, hrefuses, huv, hhalted, rfl⟩
  · exact .inl hstarted
  rw [List.append_nil] at hhalted
  obtain ⟨hdone, -, hbefore⟩ := List.nodup_append.1 horder
  have hi : i ∉ done := fun hi => hbefore i hi i List.mem_cons_self rfl
  have hnames : v.network.nameOf i = p.network.nameOf i := by
    have hstarts := (concerns_of_inTurn execution_start_concerns hstarted).1.trans
      (execution_start_concerns hrefuses).1
    exact (hstarts.sways (sways_of_meanwhile huv)).nameOf (hp i (by simp))
  have hrolls := rollsBack_of_refusal hdone hi (fun k hk => hp k (by simp [hk])) hstarted hrefuses
    huv hhalted
  exact .inr ⟨done, i, rest, e, rfl, hrolls, by rw [hnames],
    concerns_of_refusal hstarted hrefuses huv hhalted⟩

/-- A start of a graph that does not run looks at the pipeline, calls its blocks, and notes what
came of it. -/
lemma execution_start (hp : p.Laid) (hgraph : p.entries ≠ []) (hrests : p.running = false)
    {result : Result Unit} (h : Execution Meanwhile start p steps result q) :
    ∃ looks trace outcome u v, steps = looks ++ (trace ++ [(u, v)]) ∧ (∀ x ∈ looks, x.2 = x.1) ∧
      Execution Meanwhile (startAll [] p.startOrder) p trace outcome u ∧ Meanwhile v q ∧
      match outcome with
      | .ok () => result = .ok () ∧ v = { u with running := true }
      | .error e => result = refuse e ∧ v = { u with lastError := e.message } := by
  have hR := interference_meanwhile (ω := ω) (γ := γ) (π := π)
  obtain ⟨s, _, hps, rfl, hnonempty⟩ := Routine.execution_get_iff.1 h
  have hs := sways_of_meanwhile hps
  rw [if_neg (by simpa [hs.entries] using hgraph)] at hnonempty
  obtain ⟨t, _, hst, rfl, hstill⟩ := Routine.execution_get_iff.1 hnonempty
  have ht := hs.trans (sways_of_meanwhile hst)
  have hidle : ¬t.running = true := by
    rw [ht.rest]
    simp [hrests]
  rw [if_neg hidle] at hstill
  obtain ⟨u, _, htu, rfl, hordered⟩ := Routine.execution_get_iff.1 hstill
  have hu := ht.trans (sways_of_meanwhile htu)
  rw [hp.startOrder_later hu.entries hu.namesakes] at hordered
  obtain ⟨trace, outcome, v, _, htrace, rfl, hnotes⟩ := (Routine.execution_bind_iff hR).1 hordered
  have hpu : Meanwhile p u := (hps.trans hst).trans htu
  refine ⟨[(s, s), (t, t), (u, u)], trace, outcome, ?_⟩
  cases outcome with
  | ok _ =>
    obtain ⟨w, _, hvw, rfl, hends⟩ := Routine.execution_modify_iff.1 hnotes
    obtain ⟨rfl, rfl, hwq⟩ := Routine.execution_pure_iff.1 hends
    exact ⟨w, _, rfl, by simp, (htrace.earlier hR hpu).later hR hvw, hwq, rfl, rfl⟩
  | error e =>
    obtain ⟨w, _, hvw, rfl, hends⟩ := Routine.execution_modify_iff.1 hnotes
    obtain ⟨rfl, rfl, hwq⟩ := Routine.execution_pure_iff.1 hends
    exact ⟨w, _, rfl, by simp, (htrace.earlier hR hpu).later hR hvw, hwq, rfl, rfl⟩

/-! ### A graph that was started -/

/-- The graph of `p` is up: it is the same, its blocks declare what they declared, and each of them
runs or has failed. -/
structure Raised (p q : Pipeline ω γ π) : Prop where
  running : q.running = true
  entries : q.entries = p.entries
  namesakes : p.network.Each (fun _ => Block.Namesake) q.network
  launched : ∀ i ∈ p.members, Network.At i Block.Launched q.network

omit [Generator γ] [Processor ω π] in
lemma Raised.sways (q r : Pipeline ω γ π) (hqr : q.Sways r) (h : p.Raised q) : p.Raised r where
  running := by
    rw [hqr.rest]
    exact h.running
  entries := hqr.entries.trans h.entries
  namesakes := h.namesakes.trans hqr.namesakes fun _ _ _ _ => .trans
  launched i hi := (h.launched i hi).later Block.stable_launched (hqr.network.block i)

/-- A call that neither stops nor shuts down the pipeline. -/
inductive Upholds : Operation ω γ π Unit → Prop
  | build (config : GraphConfig) : Upholds (load config >>= fun _ => pure ())
  | loadResult (described : Result GraphConfig) :
    Upholds (loadResult described >>= fun _ => pure ())
  | start : Upholds (start >>= fun _ => pure ())
  | resetAll : Upholds resetAll

section Raised

omit [Generator γ] [Processor ω π]

lemma failWith_keeps_raised (e : Error) :
    (failWith e : Operation ω γ π (Result α)).Keeps Sways (fun _ _ => True) p.Raised := by
  have hlater := Raised.sways (p := p)
  refine Routine.Keeps.bind interference_sways (Routine.keeps_modify hlater fun q hq => ?_)
    fun _ => Routine.keeps_pure hlater _
  exact ⟨trivial, hq.running, hq.entries, hq.namesakes, hq.launched⟩

end Raised

lemma load_keeps_raised (config : GraphConfig) :
    (load config : Operation ω γ π (Result Unit)).Keeps Sways (fun _ _ => True) p.Raised := by
  intro q hq
  refine Routine.meets_get.2 fun r hqr => ⟨trivial, ?_⟩
  have hr := hq.sways q r hqr
  rw [if_pos hr.running]
  exact failWith_keeps_raised _ r hr

lemma loadResult_keeps_raised (described : Result GraphConfig) :
    (loadResult described : Operation ω γ π (Result Unit)).Keeps Sways (fun _ _ => True)
      p.Raised := by
  match described with
  | .ok config => exact load_keeps_raised config
  | .error (.error e) => exact failWith_keeps_raised e
  | .error (.panic _) => exact Routine.keeps_pure Raised.sways _

omit [Processor ω π] in
/-- A pipeline that runs is not started again. -/
lemma start_keeps_raised :
    (start : Operation ω γ π (Result Unit)).Keeps Sways (fun _ _ => True) p.Raised := by
  intro q hq
  refine Routine.meets_get.2 fun r hqr => ⟨trivial, ?_⟩
  have hr := hq.sways q r hqr
  split
  · exact failWith_keeps_raised _ r hr
  refine Routine.meets_get.2 fun s hrs => ⟨trivial, ?_⟩
  have hs := hr.sways r s hrs
  rw [if_pos hs.running]
  exact fun t hst => hs.sways s t hst

omit [Generator γ] [Processor ω π] in
lemma Raised.resetStats (h : p.Raised q) (i : Nat) :
    p.Raised (q.mapNetwork fun s => s.mapCore i BlockCore.resetStats) := by
  have hblock (b : Block γ π) : b.Namesake (b.mapCore BlockCore.resetStats) ∧
      (b.mapCore BlockCore.resetStats).state = b.state := by
    cases b <;> exact ⟨⟨rfl, rfl⟩, rfl⟩
  have hstep := Network.stepAt_mapCore (i := i)
    (G := fun b b' => b.Namesake b' ∧ b'.state = b.state) hblock q.network
  have hblocks := hstep.each (fun _ _ _ => id) fun b => ⟨.refl b, rfl⟩
  refine ⟨h.running, h.entries, h.namesakes.trans (hblocks.mono fun _ _ _ h => h.1)
    fun _ _ _ _ => .trans, fun k hk => ?_⟩
  obtain ⟨b, hb, hlaunched⟩ := h.launched k hk
  obtain ⟨b', hb', -, hstate⟩ := hblocks.block k b hb
  exact ⟨b', hb', by rwa [Block.Launched, hstate]⟩

omit [Generator γ] [Processor ω π] in
lemma resetAll_keeps_raised :
    (resetAll : Operation ω γ π Unit).Keeps Sways (fun _ _ => True) p.Raised := by
  have hlater := Raised.sways (p := p)
  refine Routine.keeps_get hlater (fun _ => trivial) fun q hq => ?_
  exact Routine.Keeps.each interference_sways hlater (fun e => Routine.keeps_modify hlater
    fun r hr => ⟨trivial, hr.resetStats e.2⟩) _ q hq

lemma Upholds.keeps_raised {op : Operation ω γ π Unit} (h : Upholds op) :
    op.Keeps Sways (fun _ _ => True) p.Raised := by
  have hignore {op : Operation ω γ π (Result Unit)}
      (hop : op.Keeps Sways (fun _ _ => True) p.Raised) :
      (op >>= fun _ => pure ()).Keeps Sways (fun _ _ => True) p.Raised :=
    hop.bind interference_sways fun _ => Routine.keeps_pure Raised.sways _
  cases h with
  | build config => exact hignore (load_keeps_raised config)
  | loadResult described => exact hignore (loadResult_keeps_raised described)
  | start => exact hignore start_keeps_raised
  | resetAll => exact resetAll_keeps_raised

/-- What goes on with a pipeline that is neither stopped nor shut down. -/
abbrev Upheld (q r : Pipeline ω γ π) : Prop :=
  Relation.ReflTransGen (Scene.Step Occurs Upholds) ⟨q, none⟩ ⟨r, none⟩

/-- A graph that is up stays so until it is stopped or shut down. -/
lemma Raised.upheld (h : p.Raised q) (hqr : Upheld q r) : p.Raised r := by
  suffices hsound : ∀ x, Relation.ReflTransGen (Scene.Step Occurs Upholds) ⟨q, none⟩ x →
      x.Sound Sways (fun _ _ => True) p.Raised from hsound _ hqr
  intro x hx
  induction hx with
  | refl => exact h
  | tail _ hstep ih =>
    exact (hstep.sound interference_sways (fun _ _ => Occurs.sways) Raised.sways
      (fun _ hop => hop.keeps_raised) ih).1

/-- The pipeline is noted not to run any more, and these blocks are halted one after the other. -/
def HaltsAll (order : List Nat) (p : Pipeline ω γ π)
    (steps : List (Pipeline ω γ π × Pipeline ω γ π)) (q : Pipeline ω γ π) : Prop :=
  ∃ s t trace, steps = (s, { s with running := false }) :: (t, t) :: trace ∧ Meanwhile p s ∧
    Meanwhile { s with running := false } t ∧ InTurn Meanwhile Halted order t trace q

/-- Stopped, a graph that is up is halted in the order opposite to that of starting. -/
theorem execution_stop (hp : p.Laid) (hq : p.Raised q)
    (h : Execution Meanwhile stop q steps () r) :
    HaltsAll p.startOrder.reverse q steps r ∧ r.running = false := by
  have hR := interference_meanwhile (ω := ω) (γ := γ) (π := π)
  obtain ⟨s, _, hqs, rfl, hrest⟩ := Routine.execution_modifyGet_iff.1 h
  have hs := hq.sways q s (sways_of_meanwhile hqs)
  simp only [hs.running, if_true] at hrest
  obtain ⟨t, trace, hst, rfl, hhalts⟩ := Routine.execution_get_iff.1 hrest
  have hsways := sways_of_meanwhile hst
  have hentries : t.entries = p.entries := hsways.entries.trans hs.entries
  have horder : t.startOrder = p.startOrder :=
    hp.startOrder_later hentries (hs.namesakes.trans hsways.namesakes fun _ _ _ _ => .trans)
  have hlaunched : ∀ i ∈ p.startOrder.reverse, Network.At i Block.Launched t.network := by
    intro i hi
    have hmember : i ∈ p.members := hp.startOrder_perm.mem_iff.1 (List.mem_reverse.1 hi)
    exact (hs.launched i hmember).later Block.stable_launched (hsways.network.block i)
  have hnodup : p.startOrder.reverse.Nodup :=
    (List.reverse_perm _).nodup_iff.2 hp.startOrder_nodup
  rw [horder] at hhalts
  have hturns := hhalts.inTurn hR
  refine ⟨⟨s, t, trace, rfl, hqs, hst, halted_of_inTurn hturns hnodup hlaunched⟩, ?_⟩
  rw [(concerns_of_inTurn execution_halt_concerns hturns).1.rest, hsways.rest]

/-! ### The order of starting and halting -/

/-- Started one after the other, all blocks of the graph run or have failed since, so that the graph
is up. -/
lemma raised_of_inTurn (hp : p.Laid) {t : Pipeline ω γ π}
    (h : InTurn Meanwhile Started p.startOrder p steps t)
    (hq : Meanwhile { t with running := true } q) : p.Raised q := by
  have hconcerns := (concerns_of_inTurn execution_start_concerns h).1
  have hmember {i : Nat} : i ∈ p.startOrder ↔ i ∈ p.members := hp.startOrder_perm.mem_iff
  have hlaunched := launched_of_inTurn h hp.startOrder_nodup fun i hi => hp.placed (hmember.1 hi)
  refine Raised.sways { t with running := true } q (sways_of_meanwhile hq) ?_
  exact ⟨rfl, hconcerns.entries, hconcerns.namesakes, fun i hi => hlaunched i (hmember.2 hi)⟩

/-- A graph is started in the order of the groups. Either all blocks are started, and a later stop
halts all of them in the opposite order; or a block refuses, and those that were started before it
are halted in the opposite order. No other block is touched then, the pipeline does not run, and its
error names the block that refused. -/
theorem start_order {registry : Registry ω (Block γ π)} (hrun : Run registry ⟨p, none⟩)
    (hgraph : p.entries ≠ []) (hrests : p.running = false) {result : Result Unit}
    (h : Execution Meanwhile start p steps result q) :
    (p.Described p.config ∧ p.startOrder.Perm p.members ∧ p.members.Nodup ∧
      p.startOrder.Pairwise p.Precedes) ∧
    ∃ looks trace u v, steps = looks ++ (trace ++ [(u, v)]) ∧ (∀ x ∈ looks, x.2 = x.1) ∧
      Meanwhile v q ∧
      ((InTurn Meanwhile Started p.startOrder p trace u ∧ result = .ok () ∧
          v = { u with running := true } ∧ q.running = true ∧
          ∀ r stops t, Upheld q r → Execution Meanwhile stop r stops () t →
            HaltsAll p.startOrder.reverse r stops t ∧ t.running = false) ∨
        ∃ done name i rest e, p.startOrder = done ++ i :: rest ∧ (name, i) ∈ p.entries ∧
          RollsBack done i e p trace u ∧ (∀ x ∈ steps, TouchesOnly (done ++ [i]) x) ∧
          result = refuse (.block name s!"failed to start: {e.message}") ∧ q.running = false ∧
          q.lastError = (Error.block name s!"failed to start: {e.message}").message) := by
  have hlaid := hrun.laid
  refine ⟨⟨hrun.faithful.resolve_left hgraph, hlaid.startOrder_perm, hlaid.distinct,
    hlaid.startOrder_pairwise⟩, ?_⟩
  obtain ⟨looks, trace, outcome, u, v, rfl, hlooks, hall, hvq, hnoted⟩ :=
    execution_start hlaid hgraph hrests h
  have hmember {i : Nat} : i ∈ p.startOrder ↔ i ∈ p.members := hlaid.startOrder_perm.mem_iff
  have hplaced (i : Nat) (hi : i ∈ p.startOrder) := hlaid.placed (hmember.1 hi)
  refine ⟨looks, trace, u, v, rfl, hlooks, hvq, ?_⟩
  rcases startAll_spec hlaid.startOrder_nodup hplaced hall with
    ⟨rfl, hstarted⟩ | ⟨done, i, rest, e, horder, hrolls, rfl, hconcerns, htouches⟩
  · obtain ⟨rfl, rfl⟩ := hnoted
    have hraised := raised_of_inTurn hlaid hstarted hvq
    exact .inl ⟨hstarted, rfl, rfl, hraised.running, fun r stops t hqr hstop =>
      execution_stop hlaid (hraised.upheld hqr) hstop⟩
  · obtain ⟨rfl, rfl⟩ := hnoted
    have hi : i ∈ p.members := hmember.1 (by simp [horder])
    have hq := (sways_of_meanwhile hvq).rest
    refine .inr ⟨done, _, i, rest, e, horder, hlaid.nameOf_mem hi, hrolls, fun x hx => ?_, rfl, ?_,
      by rw [hq]⟩
    · simp only [List.mem_append, List.mem_singleton] at hx
      rcases hx with hx | hx | rfl
      · intro k _
        rw [hlooks x hx]
      · exact htouches x hx
      · exact fun _ _ => rfl
    · rw [hq, hconcerns.rest]
      exact hrests

/-- A registry of blocks without threads. -/
def stages : Registry FileTree (Block TestPattern Output) :=
  (({} : Registry FileTree (Block TestPattern Output)).register "Camera"
      (.always (.stage ⟨{ typeName := "Camera" }, true, false⟩))).register "Screen"
    (.always (.stage ⟨{ typeName := "Screen" }, false, true⟩))

/-- A source that refuses an operation, and a sink. -/
def wayward (operation : String) : GraphConfig where
  blocks := [{ name := "camera", type := "Camera", parameters := .ofList [("refuse", operation)] },
    { name := "screen", type := "Screen" }]

/-- A graph of which the source does not start. -/
lemma execution_start_wayward : ∃ p : Pipeline FileTree TestPattern Output,
    Run stages ⟨p, none⟩ ∧ p.entries = [("camera", 0), ("screen", 1)] ∧ p.running = false ∧
      p.startOrder = [1, 0] ∧ ∃ steps q, Execution Meanwhile start p steps (refuse (.block "camera"
        "failed to start: block 'camera' failed: refused to start")) q := by
  have hnew : Run stages ⟨.new stages { home := [] }, none⟩ := .new _
  -- looking, taking down and describing; two blocks made; each found and configured; connecting
  have hbuild := ((((hnew.step (.call (.manager (.build (wayward "start"))))).step .act).step
    .act).step .act).step .act
  have hcamera := ((((((hbuild.step .act).step .act).step .act).step .act).step .act).step
    .act).step .act
  have hscreen := ((((hcamera.step .act).step .act).step .act).step .act).step .act
  have hbuilt := (hscreen.step .act).step .ret
  -- looking; the sink; the source; its name, and halting the sink; noting the error
  exact ⟨_, hbuilt, rfl, rfl, rfl, _, _, .act .refl <| .act .refl <| .act .refl <|
    .act .refl <| .act .refl <| .act .refl <| .act .refl <| .act .refl <|
    .act .refl <| .act .refl <| .act .refl <| .act .refl <| .act .refl <|
    .act .refl <| .done .refl⟩

/-- A graph of which the source starts, but does not stop. -/
lemma execution_stop_wayward : ∃ p : Pipeline FileTree TestPattern Output,
    Run stages ⟨p, none⟩ ∧ p.entries ≠ [] ∧ p.running = false ∧ p.startOrder = [1, 0] ∧
      ∃ steps q, Execution Meanwhile start p steps (.ok ()) q ∧
        ∃ stops r, Execution Meanwhile stop q stops () r := by
  have hnew : Run stages ⟨.new stages { home := [] }, none⟩ := .new _
  have hbuild := ((((hnew.step (.call (.manager (.build (wayward "stop"))))).step .act).step
    .act).step .act).step .act
  have hcamera := ((((((hbuild.step .act).step .act).step .act).step .act).step .act).step
    .act).step .act
  have hscreen := ((((hcamera.step .act).step .act).step .act).step .act).step .act
  have hbuilt := (hscreen.step .act).step .ret
  exact ⟨_, hbuilt, List.cons_ne_nil _ _, rfl, rfl, _, _,
    .act .refl <| .act .refl <| .act .refl <| .act .refl <| .act .refl <| .act .refl <|
    .act .refl <| .act .refl <| .act .refl <| .act .refl <| .done .refl, _, _,
    -- the source refuses to stop, and is shut down
    .act .refl <| .act .refl <| .act .refl <| .act .refl <| .act .refl <| .act .refl <|
    .act .refl <| .act .refl <| .act .refl <| .act .refl <| .act .refl <| .done .refl⟩

/-- If the source does not start, the sink is halted. If it does not stop, it is shut down, and the
sink is stopped after it. -/
theorem start_order_wayward :
    (∃ p : Pipeline FileTree TestPattern Output, Run stages ⟨p, none⟩ ∧ p.startOrder = [1, 0] ∧
      ∃ steps q e trace u, Execution Meanwhile start p steps (refuse (.block "camera"
          "failed to start: block 'camera' failed: refused to start")) q ∧
        RollsBack [1] 0 e p trace u ∧ q.running = false) ∧
    ∃ p : Pipeline FileTree TestPattern Output, Run stages ⟨p, none⟩ ∧ p.startOrder = [1, 0] ∧
      ∃ steps q stops r, Execution Meanwhile start p steps (.ok ()) q ∧
        Execution Meanwhile stop q stops () r ∧ HaltsAll [0, 1] q stops r ∧
        r.running = false := by
  constructor
  · obtain ⟨p, hrun, hentries, hrests, horder, steps, q, hstart⟩ := execution_start_wayward
    obtain ⟨-, _, trace, u, _, -, -, -, ⟨-, hok, -⟩ |
        ⟨done, name, i, rest, e, hsplit, hentry, hrolls, -, hresult, hidle, -⟩⟩ :=
      start_order hrun (by simp [hentries]) hrests hstart
    · cases hok
    obtain rfl : "camera" = name := by
      injection hresult with hresult
      injection hresult with hresult
      injection hresult
    obtain rfl : i = 0 := by simpa [hentries] using hentry
    obtain rfl : done = [1] := by
      rw [horder] at hsplit
      rcases done with - | ⟨k, - | ⟨_, done⟩⟩ <;> simp_all
    exact ⟨p, hrun, horder, steps, q, e, trace, u, hstart, hrolls, hidle⟩
  · obtain ⟨p, hrun, hgraph, hrests, horder, steps, q, hstart, stops, r, hstop⟩ :=
      execution_stop_wayward
    obtain ⟨-, _, trace, u, _, -, -, -, ⟨-, -, -, -, hstops⟩ |
        ⟨_, _, _, _, _, -, -, -, -, hresult, -⟩⟩ := start_order hrun hgraph hrests hstart
    · obtain ⟨hhalts, hidle⟩ := hstops q stops r .refl hstop
      rw [horder] at hhalts
      exact ⟨p, hrun, horder, steps, q, stops, r, hstart, hstop, hhalts, hidle⟩
    · cases hresult

end FrameGraph.Pipeline
