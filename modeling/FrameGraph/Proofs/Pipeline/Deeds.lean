import FrameGraph.Pipeline.Manager
import FrameGraph.Proofs.Network.Configure
import FrameGraph.Proofs.Network.Lifecycle

/-!
# What is done to a pipeline

While threads and producers go on in the network of a pipeline, calls build its graph, start it and
stop it. What one step of a call does is one of a few deeds. After each of them the pipeline is in
order: a source has a thread only if it belongs to the graph and all sinks of the graph are up.
-/

namespace FrameGraph

/-- Whatever a registry makes has a property. -/
def Registry.Makes {σ β : Type} (r : Registry σ β) (P : β → Prop) : Prop :=
  ∀ type c s b s', r.constructors.get? type = some c → c s = (.ok b, s') → P b

/-- A value that is made comes from a constructor. -/
lemma Registry.create_ok {σ β : Type} {r : Registry σ β} {type : String} {s s' : σ} {b : β}
    (h : r.create type s = (.ok b, s')) :
    ∃ c, r.constructors.get? type = some c ∧ c s = (.ok b, s') := by
  unfold create at h
  split at h
  · simp at h
  · rename_i c hc
    refine ⟨c, hc, ?_⟩
    split at h <;> simp_all

section Makes

variable {σ β : Type} {r : Registry σ β} {P : β → Prop}

lemma Registry.Makes.register (h : r.Makes P) {type : String} {c : Constructor σ β}
    (hc : ∀ s b s', c s = (.ok b, s') → P b) : (r.register type c).Makes P := by
  intro type' c' s b s' hc' hb
  simp only [Registry.register, Dict.get?_insert] at hc'
  split at hc'
  · cases hc'
    exact hc s b s' hb
  · exact h type' c' s b s' hc' hb

lemma Registry.Makes.registerAll (h : r.Makes P) {cs : List (String × Constructor σ β)}
    (hcs : ∀ c ∈ cs, ∀ s b s', c.2 s = (.ok b, s') → P b) : (r.registerAll cs).Makes P := by
  induction cs generalizing r with
  | nil => exact h
  | cons c cs ih =>
    apply ih (r := r.register c.1 c.2) (h.register (hcs c List.mem_cons_self))
    exact fun c' hc' => hcs c' (List.mem_cons_of_mem c hc')

lemma Registry.makes_empty : ({} : Registry σ β).Makes P := by
  intro type c s b s' hc
  simp at hc

end Makes

namespace Block

variable {γ π : Type} {b b' : Block γ π}

def isSource : Block γ π → Bool
  | .source _ => true
  | _ => false

/-- What connecting the blocks of a graph does to one of them. -/
inductive Joins (routed : List Nat → Prop) : Block γ π → Block γ π → Prop
  | same {b : Block γ π} : Joins routed b b
  /-- A sink learns a format. -/
  | sink {y : SinkBlock π} {format : FrameInfo} : Joins routed (.sink y) (.sink { y with format })
  /-- A source gets its consumer. -/
  | source {x : SourceBlock γ} {targets : List Nat} (h : routed targets) :
    Joins routed (.source x)
      (.source { x with engine := { x.engine with consumer := some (.fanOut targets) } })

lemma Drift.isSource (h : b.Drift b') : b'.isSource = b.isSource := by
  cases h <;> rfl

lemma Control.isSource (h : b.Control b') : b'.isSource = b.isSource := by
  rcases h with h | h
  · cases h <;> rfl
  · cases h with
    | source _ => rfl
    | sink _ => rfl
    | unheard => cases b <;> rfl

lemma Joins.idle {routed : List Nat → Prop} (h : b.Joins routed b') (hb : b.Idle) : b'.Idle := by
  cases h with
  | same => exact hb
  | sink => exact ⟨hb.thread, hb.state⟩
  | source _ => exact ⟨hb.thread, hb.state⟩

lemma Joins.threaded {routed : List Nat → Prop} (h : b.Joins routed b') (hb : b.Threaded) :
    b'.Threaded := by
  cases h with
  | same => exact hb
  | sink => trivial
  | source _ => trivial

lemma Joins.mono {routed routed' : List Nat → Prop} (h : b.Joins routed b')
    (hrouted : ∀ targets, routed targets → routed' targets) : b.Joins routed' b' := by
  cases h with
  | same => exact .same
  | sink => exact .sink
  | source h => exact .source (hrouted _ h)

lemma Joins.trans {routed : List Nat → Prop} {b'' : Block γ π} (h : b.Joins routed b')
    (h' : b'.Joins routed b'') : b.Joins routed b'' := by
  cases h with
  | same => exact h'
  | sink =>
    cases h' with
    | same => exact .sink
    | sink => exact .sink
  | source h =>
    cases h' with
    | same => exact .source h
    | source h' => exact .source h'

end Block

namespace Network

variable {ω γ π : Type} {s t u : Network ω γ π} {routed routed' : Nat → List Nat → Prop}

/-- What connecting the blocks of a graph does to a network. -/
structure Joins (routed : Nat → List Nat → Prop) (s t : Network ω γ π) : Prop where
  length : t.blocks.length = s.blocks.length
  block : ∀ i b, s.block? i = some b → ∃ b', t.block? i = some b' ∧ b.Joins (routed i) b'

lemma Joins.refl (s : Network ω γ π) : Joins routed s s := ⟨rfl, fun _ b hb => ⟨b, hb, .same⟩⟩

lemma Joins.trans (h : Joins routed s t) (h' : Joins routed t u) : Joins routed s u := by
  refine ⟨h'.length.trans h.length, ?_⟩
  intro i b hb
  obtain ⟨b', hb', hjoins⟩ := h.block i b hb
  obtain ⟨b'', hb'', hjoins'⟩ := h'.block i b' hb'
  exact ⟨b'', hb'', hjoins.trans hjoins'⟩

lemma Joins.mono (h : Joins routed s t)
    (hrouted : ∀ i targets, routed i targets → routed' i targets) : Joins routed' s t := by
  refine ⟨h.length, ?_⟩
  intro i b hb
  obtain ⟨b', hb', hjoins⟩ := h.block i b hb
  exact ⟨b', hb', hjoins.mono (hrouted i)⟩

lemma Joins.source {i : Nat} {b' : Block γ π} (h : Joins routed s t) (hb : t.block? i = some b') :
    ∃ b, s.block? i = some b ∧ b.Joins (routed i) b' := by
  obtain ⟨b, hs⟩ := exists_block?_of_length h.length hb
  obtain ⟨b'', hb'', hjoins⟩ := h.block i b hs
  obtain rfl : b' = b'' := by simpa [hb] using hb''
  exact ⟨b, hs, hjoins⟩

lemma joins_of_set {i : Nat} {b b' : Block γ π} (hb : s.block? i = some b)
    (h : b.Joins (routed i) b') (ht : t.blocks = s.blocks.set i b') : Joins routed s t := by
  constructor
  · rw [ht, List.length_set]
  · intro j c hc
    exact exists_block?_of_set (R := fun j => Block.Joins (routed j)) ht hb h (fun _ _ => .same) hc

end Network

namespace Pipeline

variable {ω γ π α : Type} {p q : Pipeline ω γ π}

/-! ### The graph -/

/-- The positions of the blocks of the graph. -/
def members (p : Pipeline ω γ π) : List Nat := p.entries.map (·.2)

lemma mem_members_of_find? {name : String} {i : Nat} (h : p.find? name = some i) :
    i ∈ p.members := by
  obtain ⟨before, after, heq, -⟩ := List.lookup_eq_some_iff.1 h
  simp [members, heq]

/-- How many of these connections lead from one position to another. -/
def linksOf (p : Pipeline ω γ π) (cs : List Connection) (i k : Nat) : Nat :=
  cs.countP fun c => p.find? c.source = some i ∧ p.find? c.sink = some k

/-- The number of connections from one position to another. -/
def links (p : Pipeline ω γ π) (i k : Nat) : Nat := p.linksOf p.config.connections i k

/-- Both ends of each connection are found. -/
def Resolved (p : Pipeline ω γ π) : Prop :=
  ∀ c ∈ p.config.connections, (p.find? c.source).isSome ∧ (p.find? c.sink).isSome

/-- The connections lead from a source to these targets, each of them a sink of the graph. -/
structure Routed (p : Pipeline ω γ π) (i : Nat) (targets : List Nat) : Prop where
  resolved : p.Resolved
  links : ∀ k, targets.count k = p.links i k
  sinks : ∀ k ∈ targets, k ∈ p.members ∧ (p.network.sink? k).isSome

/-- A source has a thread only if it belongs to the graph and all sinks of the graph are up. -/
def Orderly (p : Pipeline ω γ π) : Prop :=
  ∀ i x, p.network.block? i = some (.source x) → x.thread ≠ .absent →
    i ∈ p.members ∧ ∀ k ∈ p.members, ∀ y, p.network.block? k = some (.sink y) →
      (Block.sink y : Block γ π).Up

/-! ### Steps -/

/-- What happens to a pipeline between two steps of a call. -/
structure Drift (p q : Pipeline ω γ π) : Prop where
  network : p.network.Drift q.network
  rest : q = { p with network := q.network }

lemma Drift.refl (p : Pipeline ω γ π) : p.Drift p := ⟨.refl _, rfl⟩

lemma Drift.trans {r : Pipeline ω γ π} (h : p.Drift q) (h' : q.Drift r) : p.Drift r :=
  ⟨h.network.trans h'.network, by rw [h'.rest, h.rest]⟩

lemma interference_drift : Routine.Interference (Drift (ω := ω) (γ := γ) (π := π)) :=
  ⟨.refl, .trans⟩

lemma Drift.members (h : p.Drift q) : q.members = p.members := by rw [h.rest]; rfl

lemma Orderly.later (h : p.Orderly) (hpq : p.Drift q) : q.Orderly := by
  intro i x' hx' hthread
  obtain ⟨b, hb, hdrift⟩ := hpq.network.source hx'
  cases hdrift with
  | @source x _ hdrift =>
    obtain ⟨hi, hup⟩ := h i x hb fun habsent => hthread (hdrift.absent habsent)
    rw [hpq.members]
    refine ⟨hi, ?_⟩
    intro k hk y' hy'
    obtain ⟨b, hb, hdrift⟩ := hpq.network.source hy'
    cases hdrift with
    | @sink y _ hdrift => exact Block.stable_up _ _ (.sink hdrift) (hup k hk y hb)

/-- What one step of a call does to a pipeline. -/
inductive Deed (p : Pipeline ω γ π) : Pipeline ω γ π → Prop
  /-- Something is noted, and the graph stays as it is. -/
  | notes {q : Pipeline ω γ π} (hblocks : q.network.blocks = p.network.blocks)
    (hentries : q.entries = p.entries) (hconfig : q.config = p.config)
    (hregistry : q.registry = p.registry) : Deed p q
  /-- Another graph is described. -/
  | describes (config : GraphConfig) (h : p.entries = []) : Deed p { p with config }
  | forgets : Deed p { p with entries := [] }
  | controls {s : Network ω γ π} (i : Nat) (h : Network.StepAt Block.Control i p.network s) :
    Deed p { p with network := s }
  | configures {s : Network ω γ π} (i : Nat) (h : Network.StepAt Block.Configures i p.network s) :
    Deed p { p with network := s }
  | makes {q name type c b s s'} (hc : p.registry.constructors.get? type = some c)
    (hb : c s = (.ok b, s')) (hname : p.find? name = none)
    (hblocks : q.network.blocks =
      p.network.blocks ++ [b.mapCore fun c => { c with name, listener := some "" }])
    (hentries : q.entries = p.entries ++ [(name, p.network.blocks.length)])
    (hconfig : q.config = p.config) (hregistry : q.registry = p.registry) : Deed p q
  | connects {s : Network ω γ π} (h : p.network.Joins p.Routed s) :
    Deed p { p with network := s }

lemma Deed.registry (h : p.Deed q) : q.registry = p.registry := by
  cases h with
  | notes _ _ _ hregistry => exact hregistry
  | makes _ _ _ _ _ _ hregistry => exact hregistry
  | _ => rfl

def Steps (p q : Pipeline ω γ π) : Prop := p.Deed q ∧ q.Orderly

/-! ### Operations on blocks -/

/-- An operation on the network leaves the rest of the pipeline alone. -/
lemma meets_lift {op : Network.Operation ω γ π α} {R G : Network ω γ π → Network ω γ π → Prop}
    {Q : α → Network ω γ π → Prop} {R' : Pipeline ω γ π → Pipeline ω γ π → Prop}
    (h : op.Meets R G Q p.network) (hR : ∀ q r, R' q r → R q.network r.network) :
    (lift op).Meets R' (fun p q => G p.network q.network ∧ q = { p with network := q.network })
      (fun a q => Q a q.network) p := by
  have hput (p : Pipeline ω γ π) (s : Network ω γ π) : network { p with network := s } = s := rfl
  exact Routine.Meets.on h hput hR

/-- An operation on a block, while the blocks drift. -/
lemma lift_meets {op : Network.Operation ω γ π α} {i : Nat} {G : Block γ π → Block γ π → Prop}
    {Q : α → Network ω γ π → Prop}
    (h : op.Meets (Network.DriftAt i) (Network.StepAt G i) Q p.network) :
    (lift op).Meets Drift
      (fun p q => Network.StepAt G i p.network q.network ∧ q = { p with network := q.network })
      (fun a q => Q a q.network) p :=
  meets_lift h fun _ _ hpq => hpq.network.block i

/-- What an operation on the network keeps, as long as others keep it. -/
lemma lift_keeps {op : Network.Operation ω γ π α} {R G : Network ω γ π → Network ω γ π → Prop}
    {Q : α → Network ω γ π → Prop} {R' : Pipeline ω γ π → Pipeline ω γ π → Prop}
    {P : Pipeline ω γ π → Prop} (h : op.Meets R G Q p.network)
    (hR : ∀ q r, R' q r → R q.network r.network ∧ (P q → P r))
    (hG : ∀ q s, G q.network s → P q → P { q with network := s }) (hp : P p) :
    (lift op).Meets R' (fun _ _ => True) (fun a q => Q a q.network ∧ P q) p := by
  have hlift := meets_lift h fun q r hqr => (hR q r hqr).1
  refine (hlift.keep (fun q r hqr => (hR q r hqr).2) (fun q r hqr hq => ?_) hp).mono
    (fun _ _ => id) (fun _ _ _ => trivial) fun _ _ => id
  rw [hqr.2]
  exact hG q r.network hqr.1 hq

/-! ### What is known of a pipeline -/

/-- What is known of a pipeline: whether it runs, where the blocks of its graph are, and something
of each block of its network. -/
structure Known (p : Pipeline ω γ π) (runs : Bool) (m : List Nat) (P : Nat → Block γ π → Prop) :
    Prop where
  running : p.running = runs
  members : p.members = m
  distinct : m.Nodup
  placed : ∀ i ∈ m, i < p.network.blocks.length
  registry : p.registry.Makes fun b => b.Threaded ∧ b.Idle
  threaded : p.network.All fun _ b => b.Threaded
  blocks : p.network.All P

namespace Known

variable {runs : Bool} {m : List Nat} {P P' : Nat → Block γ π → Prop} {i : Nat}
  {s : Network ω γ π} {G : Block γ π → Block γ π → Prop}

lemma mono (h : p.Known runs m P) (hP : ∀ i b, P i b → P' i b) : p.Known runs m P' :=
  { h with blocks := h.blocks.mono hP }

lemma later (h : p.Known runs m P) (hP : ∀ i, Block.Stable (P i)) (hpq : p.Drift q) :
    q.Known runs m P where
  running := by rw [hpq.rest, ← h.running]
  members := hpq.members.trans h.members
  distinct := h.distinct
  placed i hi := by
    rw [hpq.network.length]
    exact h.placed i hi
  registry := by
    rw [hpq.rest]
    exact h.registry
  threaded := h.threaded.later (fun _ => Block.stable_threaded) hpq.network
  blocks := h.blocks.later hP hpq.network

lemma step (h : p.Known runs m P) (hst : Network.StepAt G i p.network s)
    (hthreaded : ∀ b b', G b b' → b.Threaded → b'.Threaded)
    (hG : ∀ b b', G b b' → P i b → P i b') : Known { p with network := s } runs m P :=
  { h with
    placed := fun j hj => by
      rw [hst.length]
      exact h.placed j hj
    threaded := h.threaded.step hst hthreaded
    blocks := h.blocks.step hst hG }

lemma find (h : p.Known runs m P) (hi : i ∈ m) :
    Network.At i (fun b => b.Threaded ∧ P i b) p.network :=
  (h.threaded.at (h.placed i hi)).of_all h.blocks

lemma update (h : p.Known runs m P) (hat : Network.At i (P' i) p.network)
    (hP : ∀ j b, j ≠ i → P j b → P' j b) : p.Known runs m P' :=
  { h with blocks := h.blocks.update hat hP }

/-- Only blocks of the graph have threads, and sources only while all sinks are up. -/
lemma orderly (h : p.Known runs m P)
    (hP : ∀ i x, P i (.source x) → x.thread ≠ .absent →
      i ∈ m ∧ ∀ k ∈ m, ∀ y, P k (.sink y) → (Block.sink y : Block γ π).Up) :
    p.Orderly := by
  intro i x hx hthread
  obtain ⟨hi, hsinks⟩ := hP i x (h.blocks i _ hx) hthread
  rw [h.members]
  exact ⟨hi, fun k hk y hy => hsinks k hk y (h.blocks k _ hy)⟩

lemma orderly_of_threadless (h : p.Known runs m P) (hP : ∀ i b, P i b → b.hasThread = false) :
    p.Orderly :=
  h.orderly fun i x hx hthread => absurd (hP i _ hx) (by simpa [Block.hasThread] using hthread)

/-- An operation on a block keeps what its steps keep. -/
lemma lift_meets (h : p.Known runs m P) {op : Network.Operation ω γ π α}
    {Q : α → Network ω γ π → Prop}
    (hop : op.Meets (Network.DriftAt i) (Network.StepAt G i) Q p.network)
    (hdeed : ∀ (p : Pipeline ω γ π) s, Network.StepAt G i p.network s →
      p.Deed { p with network := s })
    (hthreaded : ∀ b b', G b b' → b.Threaded → b'.Threaded)
    (hP : ∀ i, Block.Stable (P i)) (hG : ∀ b b', G b b' → P i b → P i b')
    (horderly : ∀ p : Pipeline ω γ π, p.Known runs m P → p.Orderly) :
    (lift op).Meets Drift Steps
      (fun a q => Q a q.network ∧ q.Known runs m P ∧ q.config = p.config) p := by
  have hlift := (Pipeline.lift_meets hop).keep
    (P := fun q => q.Known runs m P ∧ q.config = p.config)
    (fun q r hqr hq => ⟨hq.1.later hP hqr, by rw [hqr.rest]; exact hq.2⟩)
    (fun q r hqr hq => by
      rw [hqr.2]
      exact ⟨hq.1.step hqr.1 hthreaded hG, hq.2⟩) ⟨h, rfl⟩
  refine hlift.mono (fun _ _ => id) ?_ fun _ _ => id
  intro q r hqr
  obtain ⟨⟨hstep, hr⟩, -, hknown, -⟩ := hqr
  refine ⟨?_, horderly r hknown⟩
  rw [hr]
  exact hdeed q r.network hstep

end Known

end Pipeline

end FrameGraph
