import FrameGraph.Proofs.Network.Chronicle
import FrameGraph.Proofs.Pipeline.Runs

/-!
# What is heard of a pipeline

Someone listens to a pipeline from the beginning. The blocks of a graph are listened to from the
moment they are made until they are taken down, and only blocks without a thread are taken down. So
each failure is heard when it happens, whichever calls are made, and nothing else is.
-/

namespace FrameGraph

namespace Block

lemma Joins.eases {γ π : Type} {routed : List Nat → Prop} {b b' : Block γ π}
    (h : b.Joins routed b') : b.Eases b' := by
  cases h with
  | same => exact .refl b
  | sink => exact eases_of rfl .rfl rfl rfl id id id
  | source h => exact eases_of rfl .rfl rfl rfl id id id

end Block

namespace Pipeline

variable {ω γ π α : Type} {p q r : Pipeline ω γ π} {i : Nat} {l : List Nat}

/-! ### What others do -/

/-- What happens to a pipeline between two steps of a call, in the eyes of those who listen. -/
structure Abides (p q : Pipeline ω γ π) : Prop where
  drift : p.Drift q
  blocks : p.network.Each (fun _ => Block.Abides) q.network

/-- As long as the blocks are watched, a step announces itself. -/
abbrev Reports (p q : Pipeline ω γ π) : Prop := p.network.Reports q.network

lemma interference_abides : Routine.Interference (Abides (ω := ω) (γ := γ) (π := π)) where
  refl p := ⟨.refl p, .refl (fun _ => .refl) _⟩
  trans h h' := ⟨h.drift.trans h'.drift, h.blocks.trans h'.blocks fun _ _ _ _ => .trans⟩

lemma Abides.abidesAt (h : p.Abides q) (i : Nat) : Network.AbidesAt i p.network q.network :=
  h.blocks.block i

/-- Nothing happens to the blocks and nothing is heard. -/
lemma reports_of_network_eq (h : q.network = p.network) : p.Reports q := by
  rw [Reports, h]
  exact (Network.Calm.refl _).reports

/-! ### Who is listened to -/

/-- The blocks of the graph are listened to, and whatever is made has not failed. -/
structure Heeds (p : Pipeline ω γ π) : Prop where
  members : ∀ i ∈ p.members, Network.At i Block.IsHeard p.network
  registry : p.registry.Makes fun b => b.Threaded ∧ b.Idle ∧ b.state ≠ .error

/-- No block of the network has a thread. -/
structure Vacant (p : Pipeline ω γ π) : Prop where
  blocks : p.network.All fun _ b => b.Threaded ∧ b.hasThread = false
  registry : p.registry.Makes fun b => b.Threaded ∧ b.Idle ∧ b.state ≠ .error

/-- A graph that is being built. -/
structure Drafted (p : Pipeline ω γ π) : Prop where
  vacant : p.Vacant
  heeds : p.Heeds

lemma Heeds.of_each (h : p.Heeds) (hmembers : q.members = p.members)
    (hregistry : q.registry = p.registry) (hblocks : p.network.Each
      (fun _ b b' => b'.core.listener = b.core.listener) q.network) : q.Heeds where
  members i hi := by
    obtain ⟨b, hb, hheard⟩ := h.members i (hmembers ▸ hi)
    obtain ⟨b', hb', hlistener⟩ := hblocks.block i b hb
    exact ⟨b', hb', by rwa [Block.IsHeard, hlistener]⟩
  registry := hregistry ▸ h.registry

lemma Vacant.of_each (h : p.Vacant) (hregistry : q.registry = p.registry)
    (hblocks : p.network.Each (fun _ b b' =>
      b.Threaded ∧ b.hasThread = false → b'.Threaded ∧ b'.hasThread = false) q.network) :
    q.Vacant where
  blocks i b' hb' := by
    obtain ⟨b, hb, hkeeps⟩ := hblocks.source hb'
    exact hkeeps (h.blocks i b hb)
  registry := hregistry ▸ h.registry

lemma Heeds.later (h : p.Heeds) (hpq : p.Abides q) : q.Heeds :=
  h.of_each hpq.drift.members (by rw [hpq.drift.rest]) (hpq.blocks.mono fun _ _ _ h => h.listener)

lemma Vacant.preserved (h : p.Vacant) (hregistry : q.registry = p.registry)
    (hblocks : p.network.Preserves q.network) : q.Vacant :=
  h.of_each hregistry (hblocks.mono fun _ _ _ h hb => ⟨h.threaded hb.1, h.thread hb.2⟩)

lemma Vacant.later (h : p.Vacant) (hpq : p.Abides q) : q.Vacant :=
  h.preserved (by rw [hpq.drift.rest]) (hpq.blocks.mono fun _ _ _ => Block.Abides.preserves)

lemma Drafted.preserved (h : p.Drafted) (hmembers : q.members = p.members)
    (hregistry : q.registry = p.registry) (hblocks : p.network.Preserves q.network) :
    q.Drafted where
  vacant := h.vacant.preserved hregistry hblocks
  heeds := h.heeds.of_each hmembers hregistry (hblocks.mono fun _ _ _ h => h.listener)

lemma Drafted.eased (h : p.Drafted) {s : Network ω γ π}
    (hs : Network.Mute Block.Eases i p.network s) : Drafted { p with network := s } :=
  h.preserved rfl rfl (hs.step.each (fun _ _ _ h => h.toPreserves) .refl)

lemma Drafted.later (h : p.Drafted) (hpq : p.Abides q) : q.Drafted :=
  ⟨h.vacant.later hpq, h.heeds.later hpq⟩

lemma Drafted.dormant (h : p.Drafted) (hi : i ∈ p.members) :
    Network.At i (fun b => b.Threaded ∧ b.Dormant) p.network := by
  obtain ⟨b, hb, hheard⟩ := h.heeds.members i hi
  obtain ⟨hthreaded, hthread⟩ := h.vacant.blocks i b hb
  exact ⟨b, hb, hthreaded, hthread, hheard⟩

/-! ### Operations on blocks -/

/-- An operation on a block announces its steps, and keeps what they keep. -/
lemma lift_reports {op : Network.Operation ω γ π α} {G : Network ω γ π → Network ω γ π → Prop}
    {Q : α → Network ω γ π → Prop} {P : Pipeline ω γ π → Prop}
    (h : op.Meets (Network.AbidesAt i) G Q p.network) (hG : ∀ s t, G s t → s.Reports t)
    (hR : ∀ q r : Pipeline ω γ π, q.Abides r → P q → P r)
    (hP : ∀ q s, G q.network s → P q → P { q with network := s }) (hp : P p) :
    (lift op).Meets Abides Reports (fun a q => Q a q.network ∧ P q) p := by
  have hlift := meets_lift h fun q r (hqr : q.Abides r) => hqr.abidesAt i
  refine (hlift.keep hR (fun q r hqr hq => ?_) hp).mono (fun _ _ => id)
    (fun q r hqr => hG _ _ hqr.1.1) fun _ _ => id
  rw [hqr.2]
  exact hP q r.network hqr.1 hq

/-- Taking a block down is not heard. -/
lemma lift_closing {op : Network.Operation ω γ π α} {P : Pipeline ω γ π → Prop}
    (h : Network.Closing i op) (hR : ∀ q r : Pipeline ω γ π, q.Abides r → P q → P r)
    (hP : ∀ q s, Network.Mute Block.Eases i q.network s → P q → P { q with network := s }) :
    (lift op).Keeps Abides Reports P := by
  intro p hp
  have hlift := lift_reports (h.eases p.network) (fun _ _ => Network.Mute.reports_of_eases) hR hP hp
  exact hlift.weaken fun _ _ hq => hq.2

lemma Heeds.eased (h : p.Heeds) {s : Network ω γ π}
    (hs : Network.Mute Block.Persists i p.network s) : Heeds { p with network := s } :=
  h.of_each rfl rfl (hs.step.each (fun _ _ _ h => h.listener) fun _ => rfl)

lemma Vacant.eased (h : p.Vacant) {s : Network ω γ π}
    (hs : Network.Mute Block.Eases i p.network s) : Vacant { p with network := s } :=
  h.preserved rfl (hs.step.each (fun _ _ _ h => h.toPreserves) .refl)

/-! ### Starting and stopping -/

lemma haltAll_keeps_heeds (l : List Nat) :
    (Routine.each (fun i => lift (Network.halt i)) l : Operation ω γ π Unit).Keeps Abides Reports
      Heeds :=
  .each interference_abides (fun _ _ hpq hp => hp.later hpq) (fun _ =>
    lift_closing Network.closing_halt (fun _ _ hqr hq => hq.later hqr) fun _ _ hs hq =>
      hq.eased (hs.mono fun _ _ h => h.toPersists)) l

/-- A step that concerns neither the network nor the graph. -/
lemma Heeds.aside (h : p.Heeds) (hnetwork : q.network = p.network)
    (hmembers : q.members = p.members) (hregistry : q.registry = p.registry) : q.Heeds :=
  h.of_each hmembers hregistry
    (Network.each_of_blocks_eq (congrArg Network.blocks hnetwork) fun _ _ => rfl)

lemma failWith_keeps_heeds (e : Error) :
    (failWith e : Operation ω γ π (Result α)).Keeps Abides Reports Heeds := by
  refine fun _ hp => Routine.meets_modify.2 fun q hpq => ⟨reports_of_network_eq rfl, ?_⟩
  have hq : Heeds { q with lastError := e.message } := (hp.later hpq).aside rfl rfl rfl
  exact fun r hqr => hq.later hqr

lemma stop_keeps_heeds : (stop : Operation ω γ π Unit).Keeps Abides Reports Heeds := by
  refine fun _ hp => Routine.meets_modifyGet.2 fun q hpq => ⟨reports_of_network_eq rfl, ?_⟩
  have hq : Heeds { q with running := false } := (hp.later hpq).aside rfl rfl rfl
  split
  · exact Routine.meets_get.2 fun r hqr => ⟨reports_of_network_eq rfl,
      haltAll_keeps_heeds _ r (hq.later hqr)⟩
  · exact fun r hqr => hq.later hqr

/-- The blocks at these positions belong to the graph and have no threads. -/
def Awaits (l : List Nat) (p : Pipeline ω γ π) : Prop :=
  ∀ i ∈ l, i ∈ p.members ∧ Network.At i (fun b => b.hasThread = false) p.network

lemma Awaits.later (h : p.Awaits l) (hpq : p.Abides q) : q.Awaits l := fun i hi =>
  ⟨hpq.drift.members ▸ (h i hi).1,
    (h i hi).2.abides (fun _ _ h hb => h.thread.trans hb) (hpq.abidesAt i)⟩

/-- A step on another block does not concern those that are waiting. -/
lemma Awaits.step (h : p.Awaits l) (hi : i ∉ l) {G : Block γ π → Block γ π → Prop}
    {s : Network ω γ π} (hs : Network.StepAt G i p.network s) :
    Awaits l { p with network := s } := by
  intro j hj
  obtain ⟨hmem, b, hb, hthread⟩ := h j hj
  refine ⟨hmem, b, ?_, hthread⟩
  rcases hs with hs | ⟨_, _, _, _, hs⟩
  · exact (Network.block?_of_blocks_eq hs j).trans hb
  · exact (Network.block?_of_set_ne hs fun hij => hi (hij ▸ hj)).trans hb

section Starting

variable [Generator γ]

/-- A block is started while it is listened to and has no thread. -/
lemma startAll_reports {started waiting : List Nat} (h : p.Heeds) (hwaiting : p.Awaits waiting)
    (hnodup : waiting.Nodup) :
    (startAll started waiting).Meets Abides Reports (fun _ => Heeds) p := by
  induction waiting generalizing started p with
  | nil => exact fun q hpq => h.later hpq
  | cons i waiting ih =>
    obtain ⟨hi, hnodup⟩ := List.nodup_cons.1 hnodup
    obtain ⟨hmem, b, hb, hthread⟩ := hwaiting i List.mem_cons_self
    have hdormant : Network.At i Block.Dormant p.network := by
      obtain ⟨b', hb', hheard⟩ := h.members i hmem
      obtain rfl : b = b' := by simpa [hb] using hb'
      exact ⟨b, hb, hthread, hheard⟩
    have hrest : p.Awaits waiting := fun j hj => hwaiting j (List.mem_cons_of_mem i hj)
    refine .bind interference_abides ((lift_reports (P := fun q => q.Heeds ∧ q.Awaits waiting)
      (Network.start_persists hdormant) (fun _ _ => Network.Mute.reports_of_persists)
      (fun _ _ hqr hq => ⟨hq.1.later hqr, hq.2.later hqr⟩)
      (fun _ _ hs hq => ⟨hq.1.eased hs, hq.2.step hi hs.step⟩) ⟨h, hrest⟩).weaken ?_)
    rintro result q ⟨-, hq, hawaits⟩
    cases result with
    | ok _ => exact ih hq hawaits hnodup
    | error e =>
      -- those that were started are halted, and stay listened to
      refine Routine.meets_get.2 fun r hqr => ⟨reports_of_network_eq rfl, ?_⟩
      exact .bind interference_abides ((haltAll_keeps_heeds started r (hq.later hqr)).weaken
        fun _ t ht u htu => ht.later htu)

/-- A pipeline is started only when it does not run, so that none of its blocks has a thread yet. -/
theorem start_reports (hsteady : p.Steady) (h : p.Heeds) :
    (start : Operation ω γ π (Result Unit)).Meets Abides Reports (fun _ => Heeds) p := by
  refine Routine.meets_get.2 fun q hpq => ⟨reports_of_network_eq rfl, ?_⟩
  have hq := h.later hpq
  split
  · exact failWith_keeps_heeds _ q hq
  refine Routine.meets_get.2 fun r hqr => ⟨reports_of_network_eq rfl, ?_⟩
  have hr := hq.later hqr
  split
  · exact fun s hrs => hr.later hrs
  rename_i hrunning
  refine Routine.meets_get.2 fun s hrs => ⟨reports_of_network_eq rfl, ?_⟩
  have hs := hr.later hrs
  have hsteady' := hsteady.later ((hpq.drift.trans hqr.drift).trans hrs.drift)
  have hidle : s.running = false := by
    rw [hrs.drift.rest]
    simpa using hrunning
  obtain ⟨m, hknown⟩ := hsteady'.quiet hidle
  have hperm := hknown.startOrder_perm
  have hawaits : s.Awaits s.startOrder := fun i hi => by
    have hmem : i ∈ m := hperm.mem_iff.1 (List.mem_reverse.2 hi)
    exact ⟨hknown.members ▸ hmem, (hknown.find hmem).mono fun b hb => hb.2.thread⟩
  have hnodup : s.startOrder.Nodup := ((List.reverse_perm _).symm.trans hperm).nodup_iff.2
    hknown.distinct
  refine .bind interference_abides
    ((startAll_reports hs hawaits hnodup).weaken fun result t ht => ?_)
  cases result with
  | ok _ =>
    refine Routine.meets_modify.2 fun u htu => ⟨reports_of_network_eq rfl, fun v huv => ?_⟩
    have hu : Heeds { u with running := true } := (ht.later htu).aside rfl rfl rfl
    exact hu.later huv
  | error e => exact failWith_keeps_heeds e t ht

end Starting

/-! ### Taking down -/

/-- Nobody need listen to a block without a thread. -/
lemma Vacant.unlistened (h : p.Vacant) (i : Nat) :
    p.Reports (p.mapNetwork fun s => s.mapCore i fun c => { c with listener := none }) ∧
      Vacant (p.mapNetwork fun s => s.mapCore i fun c => { c with listener := none }) := by
  have hmute : Network.Mute (fun b b' : Block γ π => b' = b.mapCore fun c =>
      { c with listener := none }) i p.network
      (p.network.mapCore i fun c => { c with listener := none }) := by
    refine Network.mute_mapCore (fun b => ?_) p.network
    rfl
  constructor
  · refine hmute.reports ?_
    rintro b _ hb rfl
    refine ⟨?_, fun _ => Block.watched_of_threadless ?_⟩
    · cases b <;> rfl
    · exact (Block.hasThread_mapCore _).trans (h.blocks i b hb).2
  · refine h.of_each rfl (hmute.step.each ?_ fun _ => id)
    rintro b _ - rfl ⟨hthreaded, hthread⟩
    exact ⟨hthreaded.mapCore _, (Block.hasThread_mapCore _).trans hthread⟩

lemma teardownBlock_keeps_vacant (i : Nat) :
    (teardownBlock i : Operation ω γ π Unit).Keeps Abides Reports Vacant := by
  have hlater (p q : Pipeline ω γ π) (hpq : p.Abides q) (hp : p.Vacant) : q.Vacant := hp.later hpq
  refine .bind interference_abides (Routine.keeps_modify hlater fun p hp => hp.unlistened i)
    fun _ => ?_
  refine .bind interference_abides ?_ fun _ => ?_
  · exact lift_closing Network.closing_shutdown hlater fun _ _ hs hq => hq.eased hs
  · exact lift_closing Network.closing_clearConsumer hlater fun _ _ hs hq => hq.eased hs

lemma teardown_reports (h : p.Vacant) :
    (teardown : Operation ω γ π Unit).Meets Abides Reports
      (fun _ q => q.Vacant ∧ q.members = []) p := by
  refine Routine.meets_get.2 fun q hpq => ⟨reports_of_network_eq rfl, ?_⟩
  have hall := Routine.Keeps.each interference_abides (fun _ _ hqr hq => Vacant.later hq hqr)
    (fun e : String × Nat => teardownBlock_keeps_vacant (ω := ω) (γ := γ) (π := π) e.2) q.entries
  refine .bind interference_abides ((hall q (h.later hpq)).weaken fun _ r hr => ?_)
  refine Routine.meets_modify.2 fun t hrt => ⟨reports_of_network_eq rfl, fun u htu => ?_⟩
  have ht : Vacant { t with entries := [] } := ⟨(hr.later hrt).blocks, (hr.later hrt).registry⟩
  exact ⟨ht.later htu, htu.drift.members.trans rfl⟩

/-- A pipeline that does not run may be taken down. -/
lemma Quiet.vacant (hquiet : p.Quiet) (h : p.Heeds) : p.Vacant := by
  obtain ⟨m, hknown⟩ := hquiet
  exact ⟨fun i b hb => ⟨hknown.threaded i b hb, (hknown.blocks i b hb).thread⟩, h.registry⟩

/-- Once everything was taken down, there is nothing to listen to. -/
lemma Vacant.heeds (h : p.Vacant) (hmembers : p.members = []) : p.Heeds :=
  ⟨by simp [hmembers], h.registry⟩

/-! ### Building -/

/-- A step that does not concern the blocks. -/
lemma Drafted.aside (h : p.Drafted) (hnetwork : p.network.Aside q.network)
    (hmembers : q.members = p.members) (hregistry : q.registry = p.registry) :
    p.Reports q ∧ q.Drafted :=
  ⟨hnetwork.calm.reports, h.preserved hmembers hregistry
    (Network.each_of_blocks_eq hnetwork.blocks fun _ => .refl)⟩

/-- A block that is made is listened to at once. -/
lemma make_drafted (h : p.Drafted) (d : BlockDef) :
    p.Reports (p.make d).2 ∧ (p.make d).2.Drafted := by
  obtain ⟨⟨result, world⟩, hcreate⟩ : ∃ r, p.registry.create d.type p.network.world = r := ⟨_, rfl⟩
  cases result with
  | error e =>
    simp only [make, hcreate]
    exact h.aside ⟨rfl, rfl, rfl⟩ rfl rfl
  | ok b =>
    obtain ⟨c, hc, hmade⟩ := Registry.create_ok hcreate
    obtain ⟨hthreaded, hidle, hstate⟩ := h.heeds.registry _ _ _ _ _ hc hmade
    simp only [make, hcreate]
    set b' : Block γ π := b.mapCore fun c => { c with name := d.name, listener := some "" }
    have hcore : b'.core = { b.core with name := d.name, listener := some "" } :=
      Block.core_mapCore _ b
    have hthread : b'.hasThread = false := (Block.hasThread_mapCore _).trans hidle.thread
    have hheard : b'.IsHeard := by rw [Block.IsHeard, hcore, Option.isSome_some]
    have hfailure : b'.failure? = none := by
      refine Block.failure?_eq_none.2 ?_
      rw [Block.state, hcore]
      exact hstate
    refine ⟨Network.reports_of_append rfl rfl rfl hfailure (Block.watched_of_threadless hthread),
      ⟨h.vacant.blocks.append ⟨hthreaded.mapCore _, hthread⟩ rfl, h.vacant.registry⟩,
      ⟨fun i hi => ?_, h.heeds.registry⟩⟩
    have hmem : i ∈ p.members ∨ i = p.network.blocks.length := by
      simpa [members, Network.add] using hi
    rcases hmem with hmem | rfl
    · exact (h.heeds.members i hmem).append rfl
    · exact Network.at_of_append hheard rfl

lemma makeNew_keeps_drafted (d : BlockDef) :
    (Routine.modifyGet (makeNew d)).Keeps Abides Reports (Drafted (ω := ω) (γ := γ) (π := π)) := by
  refine Routine.keeps_modifyGet (fun _ _ hpq hp => hp.later hpq) fun p hp => ?_
  unfold makeNew
  split
  · exact ⟨reports_of_network_eq rfl, hp⟩
  · exact make_drafted hp d

/-- The blocks are connected. -/
lemma Drafted.rewired {routed : Nat → List Nat → Prop} (h : p.Drafted) (hpq : Rewires routed p q) :
    p.Reports q ∧ q.Drafted := by
  have heases : p.network.Each (fun _ => Block.Eases) q.network :=
    ⟨hpq.joins.length, fun i b hb => by
      obtain ⟨b', hb', hjoins⟩ := hpq.joins.block i b hb
      exact ⟨b', hb', hjoins.eases⟩⟩
  constructor
  · refine Network.reports_of_each ?_ ?_ (heases.mono fun _ _ _ h => ⟨h.failure, h.watched⟩)
    · rw [hpq.network]
    · rw [hpq.network]
  · refine h.preserved ?_ ?_ (heases.mono fun _ _ _ h => h.toPreserves)
    · rw [hpq.rest, members, members]
    · rw [hpq.rest]

section Building

variable [Generator γ] [Processor ω π]

lemma configureBlock_keeps_drafted (d : BlockDef) :
    (configureBlock d).Keeps Abides Reports (Drafted (ω := ω) (γ := γ) (π := π)) := by
  refine Routine.keeps_get (fun _ _ hpq hp => hp.later hpq) (fun _ => reports_of_network_eq rfl)
    fun p hp => ?_
  cases hi : p.find? d.name with
  | none => exact fun q hpq => hp.later hpq
  | some i =>
    refine Routine.meets_modify.2 fun q hpq => ?_
    have hq := hp.later hpq
    have hparams : Network.Mute Block.Eases i q.network (q.network.mapCore i fun c =>
        { c with params := c.params.extend d.parameters }) := by
      refine Network.mute_mapCore (Block.eases_mapCore ?_ ?_ ?_ ?_) q.network
      all_goals exact fun _ => by rfl
    have hr : Drafted { q with network := q.network.mapCore i fun c =>
        { c with params := c.params.extend d.parameters } } := hq.eased hparams
    have hmem : i ∈ q.members := hpq.drift.members ▸ mem_members_of_find? hi
    refine ⟨hparams.reports_of_eases, .bind interference_abides ((lift_reports
      (Network.configure_reports (hr.dormant hmem)) (fun _ _ h => h.1)
      (fun _ _ hqr hq => hq.later hqr) (fun _ _ hs hq => hq.preserved rfl rfl hs.2) hr).weaken
      fun result t ht => ?_)⟩
    split
    · exact fun u htu => ht.2.later htu
    · exact fun u htu => ht.2.later htu

omit [Generator γ] in
lemma connectBlocks_keeps_drafted (connections : List Connection) :
    (connectBlocks connections).Keeps Abides Reports (Drafted (ω := ω) (γ := γ) (π := π)) := by
  refine Routine.keeps_modifyGet (fun _ _ hpq hp => hp.later hpq) fun p hp => ?_
  have hinforms := (connectAll_spec connections [] p).1
  split
  · rename_i routes q hall
    rw [hall] at hinforms
    have hrewires : Rewires (fun _ _ => True) p (routes.foldl install q) :=
      (hinforms.mono fun _ _ _ => trivial).trans ((rewires_installAll q).mono fun _ _ _ => trivial)
    exact hp.rewired hrewires
  · rename_i f q hall
    rw [hall] at hinforms
    exact hp.rewired hinforms

lemma build_keeps_drafted (config : GraphConfig) :
    (build config).Keeps Abides Reports (Drafted (ω := ω) (γ := γ) (π := π)) := by
  have hlater (p q : Pipeline ω γ π) (hpq : p.Abides q) (hp : p.Drafted) : q.Drafted :=
    hp.later hpq
  refine .bind interference_abides
    (.eachUntil interference_abides hlater makeNew_keeps_drafted config.blocks) fun r => ?_
  cases r with
  | error f => exact Routine.keeps_pure hlater _
  | ok _ =>
    refine .bind interference_abides
      (.eachUntil interference_abides hlater configureBlock_keeps_drafted config.blocks) fun r => ?_
    cases r with
    | error f => exact Routine.keeps_pure hlater _
    | ok _ => exact connectBlocks_keeps_drafted config.connections

/-! ### Calls -/

/-- The graph that was there is taken down first, and one that cannot be built is taken down again.
-/
theorem load_reports (hsteady : p.Steady) (h : p.Heeds) (config : GraphConfig) :
    (load config : Operation ω γ π (Result Unit)).Meets Abides Reports (fun _ => Heeds) p := by
  refine Routine.meets_get.2 fun q hpq => ⟨reports_of_network_eq rfl, ?_⟩
  have hq := h.later hpq
  split
  · exact failWith_keeps_heeds _ q hq
  rename_i hrunning
  have hvacant : q.Vacant := ((hsteady.later hpq.drift).quiet (by simpa using hrunning)).vacant hq
  refine .bind interference_abides ((teardown_reports hvacant).weaken fun _ r hr => ?_)
  refine Routine.meets_modify.2 fun s hrs => ⟨reports_of_network_eq rfl, ?_⟩
  have hs : Drafted { s with config } := by
    have hvacant : s.Vacant := hr.1.later hrs
    have hheeds : s.Heeds := hvacant.heeds (hrs.drift.members.trans hr.2)
    exact ⟨⟨hvacant.blocks, hvacant.registry⟩, hheeds.aside rfl rfl rfl⟩
  refine .bind interference_abides ((build_keeps_drafted config _ hs).weaken fun outcome t ht => ?_)
  split
  · refine .bind interference_abides ((teardown_reports ht.vacant).weaken fun _ u hu => ?_)
    exact failWith_keeps_heeds _ u (hu.1.heeds hu.2)
  · exact fun u htu => (ht.later htu).heeds

theorem loadResult_reports (hsteady : p.Steady) (h : p.Heeds) (described : Result GraphConfig) :
    (loadResult described : Operation ω γ π (Result Unit)).Meets Abides Reports (fun _ => Heeds)
      p := by
  match described with
  | .ok config => exact load_reports hsteady h config
  | .error (.error e) => exact failWith_keeps_heeds e p h
  | .error (.panic e) => exact fun q hpq => h.later hpq

end Building

theorem shutdown_reports (hsteady : p.Steady) (h : p.Heeds) :
    (shutdown : Operation ω γ π Unit).Meets Abides Reports (fun _ => Heeds) p := by
  have hquiet : (stop : Operation ω γ π Unit).Meets Abides (fun _ _ => True) (fun _ => Quiet) p :=
    (stop_meets hsteady).mono (fun _ _ h => h.drift) (fun _ _ _ => trivial) fun _ _ => id
  have hstop := (hquiet.and (stop_keeps_heeds p h)).mono (fun _ _ => id) (fun _ _ h => h.2)
    fun _ _ => id
  refine .bind interference_abides (hstop.weaken fun _ q hq => ?_)
  refine Routine.meets_get.2 fun r hqr => ⟨reports_of_network_eq rfl, ?_⟩
  have hr : r.Quiet ∧ r.Heeds := ⟨hq.1.later hqr.drift, hq.2.later hqr⟩
  split
  · exact fun s hrs => hr.2.later hrs
  refine .bind interference_abides ((teardown_reports (hr.1.vacant hr.2)).weaken fun _ s hs => ?_)
  refine Routine.meets_modify.2 fun t hst => ⟨reports_of_network_eq rfl, fun u htu => ?_⟩
  have ht : Heeds { t with config := {} } :=
    ((hs.1.heeds hs.2).later hst).aside rfl rfl rfl
  exact ht.later htu

lemma resetAll_keeps_heeds : (resetAll : Operation ω γ π Unit).Keeps Abides Reports Heeds := by
  have hlater (p q : Pipeline ω γ π) (hpq : p.Abides q) (hp : p.Heeds) : q.Heeds := hp.later hpq
  refine Routine.keeps_get hlater (fun _ => reports_of_network_eq rfl) fun p hp => ?_
  refine Routine.Keeps.each interference_abides hlater (fun e => ?_) p.entries p hp
  refine Routine.keeps_modify hlater fun q hq => ?_
  have hreset : Network.Mute Block.Eases e.2 q.network
      (q.network.mapCore e.2 BlockCore.resetStats) := by
    refine Network.mute_mapCore (Block.eases_mapCore ?_ ?_ ?_ ?_) q.network
    all_goals exact fun _ => by rfl
  exact ⟨hreset.reports_of_eases, hq.eased (hreset.mono fun _ _ h => h.toPersists)⟩

end Pipeline

end FrameGraph
