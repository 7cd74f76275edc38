import FrameGraph.Proofs.Pipeline.Deeds

/-!
# Starting and stopping a pipeline

While a pipeline is started or stopped, some blocks of its graph are up, and one at most is being
started or halted. The order of starting puts sinks before sources, so that whenever a source has
been started, or is about to be, all sinks of the graph are up.
-/

namespace FrameGraph.Pipeline

variable {ω γ π α : Type} {p q : Pipeline ω γ π} {sources : Nat → Prop} {m up l : List Nat}
  {current : Option Nat} {i : Nat}

/-! ### Between calls -/

/-- The pipeline does not run, and no block of the network is active. -/
def Quiet (p : Pipeline ω γ π) : Prop := ∃ m, p.Known false m fun _ b => b.Idle

/-- What is known of the block `i` while the blocks at the positions `m` are up. -/
def Attends (m : List Nat) (i : Nat) (b : Block γ π) : Prop :=
  (i ∈ m → b.Up) ∧ (i ∉ m → b.Idle)

/-- The pipeline runs: all blocks of its graph are up, and there are some. -/
def Busy (p : Pipeline ω γ π) : Prop := ∃ m, m ≠ [] ∧ p.Known true m (Attends m)

/-- What is known of a pipeline between two calls. -/
def Steady (p : Pipeline ω γ π) : Prop := p.Quiet ∨ p.Busy

lemma stable_attends (i : Nat) : Block.Stable (Attends (γ := γ) (π := π) m i) := fun b b' h hb =>
  ⟨fun hi => Block.stable_up b b' h (hb.1 hi), fun hi => Block.stable_idle b b' h (hb.2 hi)⟩

lemma Quiet.later (h : p.Quiet) (hpq : p.Drift q) : q.Quiet := by
  obtain ⟨m, h⟩ := h
  exact ⟨m, h.later (fun _ => Block.stable_idle) hpq⟩

lemma Busy.later (h : p.Busy) (hpq : p.Drift q) : q.Busy := by
  obtain ⟨m, hm, h⟩ := h
  exact ⟨m, hm, h.later stable_attends hpq⟩

lemma Steady.later (h : p.Steady) (hpq : p.Drift q) : q.Steady :=
  h.imp (·.later hpq) (·.later hpq)

lemma Known.orderly_of_idle (h : p.Known false m fun _ b => b.Idle) : p.Orderly :=
  h.orderly_of_threadless fun _ _ hb => hb.thread

lemma Known.orderly_of_attends {runs : Bool} (h : p.Known runs m (Attends m)) : p.Orderly := by
  apply h.orderly
  intro i x hx hthread
  by_cases hi : i ∈ m
  · exact ⟨hi, fun k hk y hy => hy.1 hk⟩
  · exact absurd (hx.2 hi).thread (by simpa [Block.hasThread] using hthread)

lemma Steady.orderly (h : p.Steady) : p.Orderly := by
  rcases h with ⟨m, h⟩ | ⟨m, -, h⟩
  · exact h.orderly_of_idle
  · exact h.orderly_of_attends

lemma Steady.quiet (h : p.Steady) (hp : p.running = false) : p.Quiet := by
  rcases h with h | ⟨m, -, h⟩
  · exact h
  · exact absurd (hp.symm.trans h.running) (by simp)

lemma Orderly.steps (h : p.Orderly) : p.Steps p := ⟨.notes rfl rfl rfl rfl, h⟩

/-! ### While blocks are started or halted -/

/-- What is known of the block `i` while the blocks at the positions `up` are up and the current one
is being started or halted. -/
structure Stands (sources : Nat → Prop) (up : List Nat) (current : Option Nat) (i : Nat)
    (b : Block γ π) : Prop where
  kind : b.isSource = true ↔ sources i
  upright : i ∈ up → b.Up
  idle : i ∉ up → current ≠ some i → b.Idle

lemma stable_stands (i : Nat) :
    Block.Stable (Stands (γ := γ) (π := π) sources up current i) := by
  intro b b' h hb
  refine ⟨?_, fun hi => Block.stable_up b b' h (hb.upright hi), fun hi hc =>
    Block.stable_idle b b' h (hb.idle hi hc)⟩
  rw [h.isSource]
  exact hb.kind

/-- The blocks at the positions `up` are up; none of them is a source, nor is the current one,
unless all sinks of the graph are up. -/
structure Phase (p : Pipeline ω γ π) (sources : Nat → Prop) (m up : List Nat)
    (current : Option Nat) : Prop where
  known : p.Known false m (Stands sources up current)
  within : ∀ i, i ∈ up ∨ current = some i → i ∈ m
  sinks : ∀ i, i ∈ up ∨ current = some i → sources i → ∀ k ∈ m, ¬sources k → k ∈ up

namespace Phase

lemma later (h : p.Phase sources m up current) (hpq : p.Drift q) :
    q.Phase sources m up current :=
  { h with known := h.known.later stable_stands hpq }

lemma orderly (h : p.Phase sources m up current) : p.Orderly := by
  apply h.known.orderly
  intro i x hx hthread
  have hi : i ∈ up ∨ current = some i := by
    by_contra hne
    rw [not_or] at hne
    exact absurd (hx.idle hne.1 hne.2).thread (by simpa [Block.hasThread] using hthread)
  refine ⟨h.within i hi, fun k hk y hy => hy.upright ?_⟩
  apply h.sinks i hi (hx.kind.1 rfl) k hk
  intro hsource
  simpa [Block.isSource] using hy.kind.2 hsource

lemma raise (h : p.Phase sources m up none) (hi : i ∈ m)
    (hsinks : sources i → ∀ k ∈ m, ¬sources k → k ∈ up) : p.Phase sources m up (some i) where
  known := h.known.mono fun j b hb => { hb with idle := fun hj _ => hb.idle hj (by simp) }
  within j hj := by
    rcases hj with hj | hj
    · exact h.within j (.inl hj)
    · exact Option.some.inj hj ▸ hi
  sinks j hj hsource := by
    rcases hj with hj | hj
    · exact h.sinks j (.inl hj) hsource
    · obtain rfl := Option.some.inj hj
      exact hsinks hsource

lemma lower (h : p.Phase sources m (i :: up) none)
    (hturn : ¬sources i → ∀ j ∈ up, ¬sources j) : p.Phase sources m up (some i) where
  known := h.known.mono fun j b hb => {
    kind := hb.kind
    upright := fun hj => hb.upright (List.mem_cons_of_mem i hj)
    idle := fun hj hij => by
      refine hb.idle (fun hj' => ?_) (by simp)
      rcases List.mem_cons.1 hj' with rfl | hj'
      · exact hij rfl
      · exact hj hj' }
  within j hj := by
    refine h.within j (.inl ?_)
    rcases hj with hj | hj
    · exact List.mem_cons_of_mem i hj
    · exact Option.some.inj hj ▸ List.mem_cons_self
  sinks j hj hsource k hk hsink := by
    have hj' : j ∈ i :: up := by
      rcases hj with hj | hj
      · exact List.mem_cons_of_mem i hj
      · exact Option.some.inj hj ▸ List.mem_cons_self
    rcases List.mem_cons.1 (h.sinks j (.inl hj') hsource k hk hsink) with rfl | hk'
    · rcases hj with hj | hj
      · exact absurd hsource (hturn hsink j hj)
      · exact absurd (Option.some.inj hj ▸ hsource) hsink
    · exact hk'

lemma started (h : p.Phase sources m up (some i)) (hat : Network.At i Block.Up p.network) :
    p.Phase sources m (i :: up) none where
  known := by
    have hself : Network.At i (Stands sources (i :: up) none i) p.network := by
      obtain ⟨b, hb, hup⟩ := hat
      exact ⟨b, hb, (h.known.blocks i b hb).kind, fun _ => hup, by simp⟩
    refine h.known.update hself fun j b hij hb =>
      ⟨hb.kind, fun hj => hb.upright ?_, fun hj _ => hb.idle ?_ ?_⟩
    · exact (List.mem_cons.1 hj).resolve_left hij
    · exact fun hj' => hj (List.mem_cons_of_mem i hj')
    · exact fun heq => hij (Option.some.inj heq).symm
  within j hj := by
    rcases hj with hj | hj
    · rcases List.mem_cons.1 hj with rfl | hj
      · exact h.within j (.inr rfl)
      · exact h.within j (.inl hj)
    · cases hj
  sinks j hj hsource k hk hsink := by
    rcases hj with hj | hj
    · apply List.mem_cons_of_mem i
      rcases List.mem_cons.1 hj with rfl | hj
      · exact h.sinks j (.inr rfl) hsource k hk hsink
      · exact h.sinks j (.inl hj) hsource k hk hsink
    · cases hj

lemma rested (h : p.Phase sources m up (some i)) (hi : i ∉ up)
    (hat : Network.At i Block.Idle p.network) : p.Phase sources m up none where
  known := by
    have hself : Network.At i (Stands sources up none i) p.network := by
      obtain ⟨b, hb, hidle⟩ := hat
      exact ⟨b, hb, (h.known.blocks i b hb).kind, fun hi' => absurd hi' hi, fun _ _ => hidle⟩
    refine h.known.update hself fun j b hij hb => { hb with idle := fun hj _ => hb.idle hj ?_ }
    exact fun heq => hij (Option.some.inj heq).symm
  within j hj := h.within j (hj.imp_right (by simp))
  sinks j hj := h.sinks j (hj.imp_right (by simp))

lemma lift_meets (h : p.Phase sources m up (some i)) (hi : i ∉ up)
    {op : Network.Operation ω γ π α} {G : Block γ π → Block γ π → Prop}
    {Q : α → Network ω γ π → Prop}
    (hop : op.Meets (Network.DriftAt i) (Network.StepAt G i) Q p.network)
    (hG : ∀ b b', G b b' → b.Control b') :
    (lift op).Meets Drift Steps (fun a q => Q a q.network ∧ q.Phase sources m up (some i)) p := by
  refine (h.known.lift_meets hop (fun p s hs => .controls i (hs.mono hG))
    (fun b b' hb => (hG b b' hb).threaded) stable_stands ?_
    ?_).weaken fun a q hq => ⟨hq.1, { h with known := hq.2.1 }⟩
  · intro b b' hstep hb
    refine ⟨?_, fun hi' => absurd hi' hi, fun _ hne => absurd rfl hne⟩
    rw [(hG b b' hstep).isSource]
    exact hb.kind
  · intro q hq
    exact Phase.orderly { h with known := hq }

end Phase

/-! ### Orders -/

/-- In this order no sink is halted before a source. -/
def Halting (sources : Nat → Prop) (l : List Nat) : Prop :=
  l.Pairwise fun i j => ¬sources i → ¬sources j

/-- Whether there is a source at a position. -/
def sourced (p : Pipeline ω γ π) (i : Nat) : Bool := (p.network.source? i).isSome

lemma isSource_iff_sourced {b : Block γ π} (hb : p.network.block? i = some b) :
    b.isSource = true ↔ p.sourced i = true := by
  cases b <;> simp [sourced, Network.source?, hb, Block.isSource]

section Order

variable {runs : Bool} {P : Nat → Block γ π → Prop}

lemma Known.positions_eq (h : p.Known runs m P) {wanted : Capabilities → Bool}
    {f : Nat → Bool} (hsource : ∀ i ∈ m, p.sourced i = true → wanted ⟨true, false⟩ = f i)
    (hsink : ∀ i ∈ m, ¬p.sourced i = true → wanted ⟨false, true⟩ = f i) :
    p.positions wanted = m.filter f := by
  have hmembers : p.entries.map (·.2) = m := h.members
  rw [positions, hmembers]
  apply List.filter_congr
  intro i hi
  obtain ⟨b, hb, hthreaded, -⟩ := h.find hi
  have hkind := isSource_iff_sourced hb
  simp only [hb]
  cases b with
  | source x => exact hsource i hi (hkind.1 rfl)
  | sink y => exact hsink i hi fun hsourced => by simpa [Block.isSource] using hkind.2 hsourced
  | stage z => exact absurd hthreaded id

lemma Known.startOrder_eq (h : p.Known runs m P) :
    p.startOrder = m.filter (fun i => !p.sourced i) ++ m.filter p.sourced := by
  have hsinks : p.positions (·.sink) = m.filter fun i => !p.sourced i :=
    h.positions_eq (by simp +contextual) (by simp +contextual)
  have hothers : p.positions (fun c => !c.sink && !c.source) = m.filter fun _ => false :=
    h.positions_eq (by simp) (by simp)
  have hsources : p.positions (fun c => !c.sink && c.source) = m.filter p.sourced :=
    h.positions_eq (by simp +contextual) (by simp +contextual)
  rw [startOrder, hsinks, hothers, hsources]
  simp

lemma Known.startOrder_perm (h : p.Known runs m P) : p.startOrder.reverse.Perm m := by
  rw [h.startOrder_eq]
  refine (List.reverse_perm _).trans (List.perm_append_comm.trans ?_)
  exact List.filter_append_perm p.sourced m

lemma Known.halting_startOrder (h : p.Known runs m P) :
    Halting (fun i => p.sourced i = true) p.startOrder.reverse := by
  rw [h.startOrder_eq, Halting, List.pairwise_reverse, List.pairwise_append]
  refine ⟨?_, ?_, ?_⟩
  · apply List.pairwise_of_forall_mem_list
    intro i hi j hj _
    simpa using (List.mem_filter.1 hi).2
  · apply List.pairwise_of_forall_mem_list
    intro i hi j hj hnot
    exact absurd (List.mem_filter.1 hj).2 hnot
  · intro i hi j hj hnot
    exact absurd (List.mem_filter.1 hj).2 hnot

end Order

/-! ### Halting -/

lemma lift_halt_meets (h : p.Phase sources m (i :: up) none) (hi : i ∉ up)
    (hturn : ¬sources i → ∀ j ∈ up, ¬sources j) :
    (lift (Network.halt i)).Meets Drift Steps (fun _ q => q.Phase sources m up none) p := by
  have hat : Network.At i (fun b => b.Threaded ∧ (b.Up ∨ b.Idle)) p.network := by
    apply (h.known.find (h.within i (.inl List.mem_cons_self))).mono
    intro b hb
    exact ⟨hb.1, .inl (hb.2.upright List.mem_cons_self)⟩
  apply ((h.lower hturn).lift_meets hi (Network.halt_meets hat) fun _ _ => .inr).weaken
  exact fun _ q hq => hq.2.rested hi hq.1

/-- Halted in the right order, all blocks come to rest. -/
lemma haltAll_meets (h : p.Phase sources m l none) (hl : l.Nodup) (hturn : Halting sources l) :
    (Routine.each (fun i => lift (Network.halt i)) l).Meets Drift Steps
      (fun _ q => q.Phase sources m [] none) p := by
  refine (Routine.meets_each
    (P := fun l q => q.Phase sources m l none ∧ l.Nodup ∧ Halting sources l)
    interference_drift (fun l p q hpq hp => ⟨hp.1.later hpq, hp.2⟩) ?_ l
    ⟨h, hl, hturn⟩).weaken fun _ q hq => hq.1
  intro i l p hp
  obtain ⟨hphase, hnodup, hhalting⟩ := hp
  obtain ⟨hi, hl⟩ := List.nodup_cons.1 hnodup
  obtain ⟨hturn, hrest⟩ := List.pairwise_cons.1 hhalting
  apply (lift_halt_meets hphase hi fun hsink j hj => hturn j hj hsink).weaken
  exact fun _ q hq => ⟨hq, hl, hrest⟩

/-! ### Starting -/

lemma lift_start_meets [Generator γ] (h : p.Phase sources m up none) (hi : i ∈ m) (hup : i ∉ up)
    (hsinks : sources i → ∀ k ∈ m, ¬sources k → k ∈ up) :
    (lift (Network.start i)).Meets Drift Steps
      (fun r q => match r with
        | .ok () => q.Phase sources m (i :: up) none
        | .error _ => q.Phase sources m up none) p := by
  obtain ⟨b, hb, hthreaded, hstands⟩ := h.known.find hi
  have hidle : b.Idle := hstands.idle hup (by simp)
  have hstart := Network.start_meets hb hthreaded hidle.ready
  apply ((h.raise hi hsinks).lift_meets hup hstart fun _ _ => .inl).weaken
  intro r q hq
  cases r with
  | ok _ => exact hq.2.started hq.1
  | error e =>
    refine hq.2.rested hup (hq.1.mono ?_)
    intro b' hb'
    exact hb'.elim id fun hdrift => Block.stable_idle b b' hdrift hidle

/-- Started one after the other, all blocks are up; when one refuses, all come to rest. -/
lemma startAll_meets [Generator γ] {started waiting : List Nat}
    (h : p.Phase sources m started none) (hperm : (waiting.reverse ++ started).Perm m)
    (hturn : Halting sources (waiting.reverse ++ started)) :
    (startAll started waiting).Meets Drift Steps
      (fun r q => match r with
        | .ok () => ∃ up, up.Perm m ∧ q.Phase sources m up none
        | .error _ => q.Phase sources m [] none) p := by
  induction waiting generalizing started p with
  | nil => exact fun q hpq => ⟨started, hperm, h.later hpq⟩
  | cons i waiting ih =>
    rw [List.reverse_cons, List.append_assoc, List.singleton_append] at hperm hturn
    have hnodup : (waiting.reverse ++ i :: started).Nodup := hperm.nodup_iff.2 h.known.distinct
    obtain ⟨-, hstarted, -⟩ := List.nodup_append.1 hnodup
    obtain ⟨hi, hstarted⟩ := List.nodup_cons.1 hstarted
    obtain ⟨-, hturn', hbefore⟩ := List.pairwise_append.1 hturn
    have hmem : i ∈ m := hperm.mem_iff.1 (by simp)
    have hsinks (hsource : sources i) (k : Nat) (hk : k ∈ m) (hsink : ¬sources k) :
        k ∈ started := by
      rcases List.mem_append.1 (hperm.mem_iff.2 hk) with hk | hk
      · exact absurd hsource (hbefore k hk i List.mem_cons_self hsink)
      · rcases List.mem_cons.1 hk with rfl | hk
        · exact absurd hsource hsink
        · exact hk
    refine .bind interference_drift ((lift_start_meets h hmem hi hsinks).weaken ?_)
    intro r q hq
    cases r with
    | ok _ => exact ih hq hperm hturn
    | error e =>
      apply Routine.meets_get.2
      intro t hqt
      have ht := hq.later hqt
      refine ⟨ht.orderly.steps, .bind interference_drift ?_⟩
      apply (haltAll_meets ht hstarted (List.pairwise_cons.1 hturn').2).weaken
      intro _ u hu v huv
      exact hu.later huv

/-! ### Calls -/

lemma Steady.note (h : p.Steady) (lastError : String) : Steady { p with lastError } := by
  rcases h with ⟨m, h⟩ | ⟨m, hm, h⟩
  · exact .inl ⟨m, { h with }⟩
  · exact .inr ⟨m, hm, { h with }⟩

lemma failWith_meets (h : p.Steady) (e : Error) :
    (failWith e : Operation ω γ π (Result α)).Meets Drift Steps (fun _ => Steady) p := by
  apply Routine.meets_modify.2
  intro q hpq
  have hq := (h.later hpq).note e.message
  exact ⟨⟨.notes rfl rfl rfl rfl, hq.orderly⟩, fun r hqr => hq.later hqr⟩

lemma Known.phase (h : p.Known false m fun _ b => b.Idle) :
    p.Phase (fun i => p.sourced i = true) m [] none where
  known := { h with blocks := fun i b hb =>
    ⟨isSource_iff_sourced hb, by simp, fun _ _ => h.blocks i b hb⟩ }
  within := by simp
  sinks := by simp

/-- When all blocks of the graph are up, halting may begin. -/
lemma Known.phase_of_attends (h : p.Known false m (Attends m)) (hl : l.Perm m) :
    p.Phase (fun i => p.sourced i = true) m l none where
  known := { h with blocks := fun i b hb => {
    kind := isSource_iff_sourced hb
    upright := fun hi => (h.blocks i b hb).1 (hl.mem_iff.1 hi)
    idle := fun hi _ => (h.blocks i b hb).2 (mt hl.mem_iff.2 hi) } }
  within i hi := hl.mem_iff.1 (hi.resolve_right (by simp))
  sinks i _ _ k hk _ := hl.mem_iff.2 hk

lemma Phase.quiet (h : p.Phase sources m [] none) : p.Quiet :=
  ⟨m, h.known.mono fun _ _ hb => hb.idle (by simp) (by simp)⟩

/-- Once all blocks of the graph are up, the pipeline runs. -/
lemma Phase.busy (h : p.Phase sources m up none) (hup : up.Perm m) (hm : m ≠ []) :
    Busy { p with running := true } := by
  refine ⟨m, hm, { h.known with running := rfl, blocks := ?_ }⟩
  intro i b hb
  have hstands := h.known.blocks i b hb
  exact ⟨fun hi => hstands.upright (hup.mem_iff.2 hi),
    fun hi => hstands.idle (mt hup.mem_iff.1 hi) (by simp)⟩

theorem start_meets [Generator γ] (h : p.Steady) :
    (start : Operation ω γ π (Result Unit)).Meets Drift Steps (fun _ => Steady) p := by
  apply Routine.meets_get.2
  intro q hpq
  have hq := h.later hpq
  refine ⟨hq.orderly.steps, ?_⟩
  split
  · exact failWith_meets hq _
  rename_i hentries
  apply Routine.meets_get.2
  intro r hqr
  have hr := hq.later hqr
  refine ⟨hr.orderly.steps, ?_⟩
  split
  · exact fun s hrs => hr.later hrs
  rename_i hrunning
  apply Routine.meets_get.2
  intro s hrs
  have hs := hr.later hrs
  refine ⟨hs.orderly.steps, ?_⟩
  have hidle : s.running = false := by
    rw [hrs.rest]
    simpa using hrunning
  obtain ⟨m, hknown⟩ := hs.quiet hidle
  have hm : m ≠ [] := by
    rw [← hknown.members, (hqr.trans hrs).members]
    simpa [Pipeline.members] using hentries
  have hperm := hknown.startOrder_perm
  have hhalting := hknown.halting_startOrder
  rw [← List.append_nil (s.startOrder.reverse)] at hperm hhalting
  refine .bind interference_drift
    ((startAll_meets hknown.phase hperm hhalting).weaken ?_)
  intro r t ht
  cases r with
  | ok _ =>
    obtain ⟨up, hup, hphase⟩ := ht
    apply Routine.meets_modify.2
    intro u htu
    have hbusy := (hphase.later htu).busy hup hm
    exact ⟨⟨.notes rfl rfl rfl rfl, Steady.orderly (.inr hbusy)⟩,
      fun v huv => .inr (hbusy.later huv)⟩
  | error e => exact failWith_meets (.inl ht.quiet) e

theorem stop_meets (h : p.Steady) :
    (stop : Operation ω γ π Unit).Meets Drift Steps (fun _ => Quiet) p := by
  apply Routine.meets_modifyGet.2
  intro q hpq
  rcases h.later hpq with ⟨m, hq⟩ | ⟨m, -, hq⟩
  · have hq' : Known { q with running := false } false m fun _ b => b.Idle :=
      { hq with running := rfl }
    refine ⟨⟨.notes rfl rfl rfl rfl, hq'.orderly_of_idle⟩, ?_⟩
    simp only [hq.running]
    exact fun r hqr => Quiet.later ⟨m, hq'⟩ hqr
  · have hq' : Known { q with running := false } false m (Attends m) :=
      { hq with running := rfl }
    refine ⟨⟨.notes rfl rfl rfl rfl, hq'.orderly_of_attends⟩, ?_⟩
    simp only [hq.running]
    apply Routine.meets_get.2
    intro r hqr
    have hr := hq'.later stable_attends hqr
    refine ⟨hr.orderly_of_attends.steps, ?_⟩
    have hperm := hr.startOrder_perm
    have hphase := hr.phase_of_attends hperm
    have hnodup := hperm.nodup_iff.2 hr.distinct
    exact (haltAll_meets hphase hnodup hr.halting_startOrder).weaken fun _ t ht => ht.quiet

end FrameGraph.Pipeline
