import FrameGraph.Proofs.Pipeline.Deliveries
import FrameGraph.Proofs.Pipeline.Outcome

/-!
# What connections come to

The connections of a graph are made one after the other, and routes and formats add up on the way.
In the end the route of a source is the list of the sinks of its connections, in the order in which
these were described, and a sink has the last format that was brought to it and that it supports.
-/

namespace FrameGraph

/-! ### Formats -/

namespace SinkBlock

variable {ω π : Type} [Processor ω π] {y : SinkBlock π} {info : FrameInfo}

/-- A sink that was told formats one after the other: the last one that it supports counts. -/
def told (y : SinkBlock π) (infos : List FrameInfo) : SinkBlock π :=
  { y with format :=
      (infos.filter fun info => y.supports info.format).getLast?.getD y.format }

lemma told_nil (y : SinkBlock π) : y.told [] = y := rfl

lemma told_told (infos infos' : List FrameInfo) :
    (y.told infos).told infos' = y.told (infos ++ infos') := by
  let good (info : FrameInfo) : Bool := y.supports info.format
  have hlast : ((infos ++ infos').filter good).getLast?.getD y.format =
      (infos'.filter good).getLast?.getD ((infos.filter good).getLast?.getD y.format) := by
    rw [List.filter_append, List.getLast?_append]
    cases (infos'.filter good).getLast? <;> rfl
  exact congrArg (fun format => { y with format }) hlast.symm

lemma told_of_supports (h : y.supports info.format = true) :
    y.told [info] = { y with format := info } := by
  simp [told, h]

lemma told_of_not_supports (h : ¬y.supports info.format = true) : y.told [info] = y := by
  simp [told, h]

lemma setFormat_of_supports (hidle : y.core.isRunning = false)
    (h : y.supports info.format = true) : (y.setFormat info).2 = y.told [info] := by
  simp [setFormat, hidle, h, told_of_supports h]

end SinkBlock

namespace Block

variable {ω γ π : Type} [Processor ω π] {b : Block γ π}

/-- A block that was told formats, if it is a sink. -/
def told (infos : List FrameInfo) : Block γ π → Block γ π
  | .sink y => .sink (y.told infos)
  | b => b

omit [Processor ω π] in
/-- A block that was given a route, if it is a source and there is one. -/
def routed (targets : List Nat) : Block γ π → Block γ π
  | .source x => .source (if targets = [] then x else
      { x with engine := { x.engine with consumer := some (.fanOut targets) } })
  | b => b

lemma told_nil (b : Block γ π) : b.told [] = b := by cases b <;> rfl

lemma told_told (infos infos' : List FrameInfo) (b : Block γ π) :
    (b.told infos).told infos' = b.told (infos ++ infos') := by
  cases b with
  | sink y => exact congrArg Block.sink (SinkBlock.told_told infos infos')
  | _ => rfl

omit [Processor ω π] in
lemma routed_nil (b : Block γ π) : b.routed [] = b := by cases b <;> rfl

end Block

namespace Pipeline

variable {ω γ π : Type} {p q r : Pipeline ω γ π} {cs : List Connection} {c : Connection}
  {routes routes' : Routes} {i j k : Nat}

/-! ### What the connections say -/

/-- The sinks of the connections that start at a position. -/
def sinksFrom (p : Pipeline ω γ π) (cs : List Connection) (i : Nat) : List Nat :=
  (cs.filter fun c => p.find? c.source = some i).filterMap fun c => p.find? c.sink

/-- The format of the frames of the source of this name. -/
def formatOf? (p : Pipeline ω γ π) (name : String) : Option FrameInfo :=
  (p.find? name).bind fun i => (p.network.source? i).map (·.format)

/-- The formats of the connections that end at a position. -/
def formatsTo (p : Pipeline ω γ π) (cs : List Connection) (k : Nat) : List FrameInfo :=
  (cs.filter fun c => p.find? c.sink = some k).filterMap fun c => p.formatOf? c.source

/-- A connection leads from a source at a position to a sink at another one. -/
structure Spans (p : Pipeline ω γ π) (c : Connection) (i k : Nat) (x : SourceBlock γ)
    (y : SinkBlock π) : Prop where
  foundSource : p.find? c.source = some i
  foundSink : p.find? c.sink = some k
  source : p.network.block? i = some (.source x)
  sink : p.network.block? k = some (.sink y)

/-- Both ends of a connection are there. -/
structure Spanned (p : Pipeline ω γ π) (c : Connection) : Prop where
  source : ∃ i, p.find? c.source = some i ∧ (p.network.source? i).isSome
  sink : ∃ k, p.find? c.sink = some k ∧ (p.network.sink? k).isSome

lemma Spans.spanned {x : SourceBlock γ} {y : SinkBlock π} (h : p.Spans c i k x y) : p.Spanned c :=
  ⟨⟨i, h.foundSource, by simp [Network.source?_eq_some.2 h.source]⟩,
    ⟨k, h.foundSink, by simp [Network.sink?_eq_some.2 h.sink]⟩⟩

/-- Blocks may change, but not in what they are. -/
lemma spanned_congr {f : Nat → Block γ π → Block γ π} (hfind : q.find? = p.find?)
    (hblock : ∀ j, q.network.block? j = (p.network.block? j).map (f j))
    (hsource : ∀ j b, (f j b).isSource = b.isSource) (hsink : ∀ j b, (f j b).isSink = b.isSink)
    (c : Connection) : q.Spanned c ↔ p.Spanned c := by
  have hsource? (i : Nat) : (q.network.source? i).isSome = (p.network.source? i).isSome := by
    simp only [Network.source?, hblock]
    cases p.network.block? i with
    | none => rfl
    | some b =>
      have hb := hsource i b
      revert hb
      simp only [Option.map_some]
      cases f i b <;> cases b <;> simp [Block.isSource]
  have hsink? (k : Nat) : (q.network.sink? k).isSome = (p.network.sink? k).isSome := by
    simp only [Network.sink?, hblock]
    cases p.network.block? k with
    | none => rfl
    | some b =>
      have hb := hsink k b
      revert hb
      simp only [Option.map_some]
      cases f k b <;> cases b <;> simp [Block.isSink]
  constructor <;> rintro ⟨hi, hk⟩
  · exact ⟨by simpa only [hfind, hsource?] using hi, by simpa only [hfind, hsink?] using hk⟩
  · exact ⟨by simpa only [hfind, hsource?] using hi, by simpa only [hfind, hsink?] using hk⟩

lemma Spans.formatOf? {x : SourceBlock γ} {y : SinkBlock π} (h : p.Spans c i k x y) :
    p.formatOf? c.source = some x.format := by
  simp [Pipeline.formatOf?, h.foundSource, Network.source?_eq_some.2 h.source]

lemma Spans.sinksFrom_cons {x : SourceBlock γ} {y : SinkBlock π} (h : p.Spans c i k x y) (j : Nat) :
    p.sinksFrom (c :: cs) j = (if j = i then [k] else []) ++ p.sinksFrom cs j := by
  by_cases hj : j = i
  · simp [sinksFrom, h.foundSource, h.foundSink, hj]
  · simp [sinksFrom, h.foundSource, hj, Ne.symm hj]

lemma Spans.formatsTo_cons {x : SourceBlock γ} {y : SinkBlock π} (h : p.Spans c i k x y) (j : Nat) :
    p.formatsTo (c :: cs) j = (if j = k then [x.format] else []) ++ p.formatsTo cs j := by
  by_cases hj : j = k
  · simp [formatsTo, h.foundSink, h.formatOf?, hj]
  · simp [formatsTo, h.foundSink, hj, Ne.symm hj]

/-! ### Telling formats -/

section Telling

variable [Processor ω π]

/-- Each block was told the formats at its position, and nothing else happened. -/
structure Tells (infos : Nat → List FrameInfo) (p q : Pipeline ω γ π) : Prop where
  rest : q = { p with network := q.network }
  block : ∀ j, q.network.block? j = (p.network.block? j).map (Block.told (infos j))

variable {infos infos' : Nat → List FrameInfo}

lemma Tells.refl (p : Pipeline ω γ π) : Tells (fun _ => []) p p := by
  refine ⟨rfl, fun j => ?_⟩
  cases p.network.block? j with
  | none => rfl
  | some b => exact congrArg some b.told_nil.symm

lemma Tells.trans (h : Tells infos p q) (h' : Tells infos' q r) :
    Tells (fun j => infos j ++ infos' j) p r := by
  refine ⟨by rw [h'.rest, h.rest], fun j => ?_⟩
  rw [h'.block, h.block, Option.map_map]
  congr 1
  exact funext fun b => b.told_told (infos j) (infos' j)

lemma Tells.find? (h : Tells infos p q) : q.find? = p.find? := by
  rw [h.rest]
  rfl

lemma Tells.source? (h : Tells infos p q) (i : Nat) :
    q.network.source? i = p.network.source? i := by
  simp only [Network.source?, h.block]
  cases p.network.block? i with
  | none => rfl
  | some b => cases b <;> rfl

lemma Tells.formatsTo (h : Tells infos p q) : q.formatsTo = p.formatsTo := by
  funext cs k
  simp only [Pipeline.formatsTo, formatOf?, h.find?, h.source?]

lemma Tells.sinksFrom (h : Tells infos p q) : q.sinksFrom = p.sinksFrom := by
  funext cs i
  simp only [Pipeline.sinksFrom, h.find?]

/-- Telling a sink one format. -/
lemma tells_set {y : SinkBlock π} (hy : p.network.block? k = some (.sink y)) (info : FrameInfo) :
    Tells (fun j => if j = k then [info] else []) p
      (p.mapNetwork fun s => s.setSink k (y.told [info])) := by
  refine ⟨rfl, fun j => ?_⟩
  rw [show (p.mapNetwork fun s => s.setSink k (y.told [info])).network.block? j = _ from
    Network.block?_of_set (Network.blocks_setSink _) hy j]
  by_cases hj : k = j
  · subst hj
    simp [hy, Block.told]
  · rw [if_neg hj, if_neg (Ne.symm hj)]
    exact (Tells.refl p).block j

/-- No sink of the graph runs. -/
def Unhurried (p : Pipeline ω γ π) : Prop :=
  ∀ k ∈ p.members, ∀ y, p.network.block? k = some (.sink y) → y.core.isRunning = false

lemma Tells.unhurried (h : Tells infos p q) (hp : p.Unhurried) : q.Unhurried := by
  intro k hk y' hy'
  rw [h.block] at hy'
  obtain ⟨b, hb, heq⟩ := Option.map_eq_some_iff.1 hy'
  have hk' : k ∈ p.members := by
    rw [h.rest] at hk
    exact hk
  cases b with
  | sink y =>
    cases heq
    exact hp k hk' y hb
  | source x => cases heq
  | stage z => cases heq

/-- A connection that is made adds its sink to the route of its source, and brings the format of its
source to its sink. -/
lemma connectOne_tells (hp : p.Unhurried) (h : connectOne c routes p = .ok (routes', q)) :
    ∃ i k x y, p.Spans c i k x y ∧ routes' = addRoute i k routes ∧
      Tells (fun j => if j = k then [x.format] else []) p q := by
  simp only [connectOne, positionOf] at h
  cases hi : p.find? c.source with
  | none => simp [hi, refuse, bind, Except.bind] at h
  | some i =>
    cases hk : p.find? c.sink with
    | none => simp [hi, hk, refuse, bind, Except.bind] at h
    | some k =>
      cases hx : p.network.source? i with
      | none => simp [hi, hk, sourceAt, hx, refuse, bind, Except.bind] at h
      | some x =>
        cases hy : p.network.sink? k with
        | none => simp [hi, hk, sourceAt, hx, sinkAt, hy, refuse, bind, Except.bind] at h
        | some y =>
          simp only [hi, hk, sourceAt, hx, sinkAt, hy, bind, Except.bind, pure, Except.pure,
            Except.ok.injEq, Prod.mk.injEq] at h
          obtain ⟨hroutes, rfl⟩ := h
          rw [Network.source?_eq_some] at hx
          rw [Network.sink?_eq_some] at hy
          refine ⟨i, k, x, y, ⟨hi, hk, hx, hy⟩, hroutes.symm, ?_⟩
          have htells := tells_set (p := p) hy x.format
          split
          · rename_i hsupports
            have hidle := hp k (mem_members_of_find? hk) y hy
            rwa [SinkBlock.setFormat_of_supports hidle hsupports]
          · rename_i hsupports
            -- the sink stays as it is
            rw [SinkBlock.told_of_not_supports hsupports] at htells
            have hsame : (p.mapNetwork fun s => s.setSink k y) = p := by
              rw [mapNetwork, Network.setSink, Network.setBlock_self hy]
            rwa [hsame] at htells

/-- What all connections come to. -/
structure Connects (cs : List Connection) (routes routes' : Routes) (p q : Pipeline ω γ π) :
    Prop where
  spanned : ∀ c ∈ cs, p.Spanned c
  targets : ∀ i, targetsOf i routes' = targetsOf i routes ++ p.sinksFrom cs i
  tells : Tells (p.formatsTo cs) p q
  filled : (∀ route ∈ routes, route.2 ≠ []) → ∀ route ∈ routes', route.2 ≠ []

lemma Tells.spanned (h : Tells infos p q) (c : Connection) : q.Spanned c ↔ p.Spanned c :=
  spanned_congr h.find? h.block (fun _ b => by cases b <;> rfl) (fun _ b => by cases b <;> rfl) c

omit [Processor ω π] in
lemma filled_addRoute (h : ∀ route ∈ routes, route.2 ≠ []) :
    ∀ route ∈ addRoute i k routes, route.2 ≠ [] := by
  induction routes with
  | nil => simp [addRoute]
  | cons first rest ih =>
    obtain ⟨hfirst, hrest⟩ := List.forall_mem_cons.1 h
    simp only [addRoute]
    split
    · exact List.forall_mem_cons.2 ⟨by simp, hrest⟩
    · exact List.forall_mem_cons.2 ⟨hfirst, ih hrest⟩

theorem connectAll_connects (hp : p.Unhurried) (h : connectAll cs routes p = (.ok routes', q)) :
    Connects cs routes routes' p q := by
  induction cs generalizing routes p with
  | nil =>
    obtain ⟨rfl, rfl⟩ : routes = routes' ∧ p = q := by simpa [connectAll] using h
    exact ⟨by simp, by simp [sinksFrom], .refl p, id⟩
  | cons c rest ih =>
    simp only [connectAll] at h
    split at h
    · rename_i routes₁ p₁ hone
      obtain ⟨i, k, x, y, hspans, rfl, htells⟩ := connectOne_tells hp hone
      obtain ⟨hspanned, htargets, htells', hfilled⟩ := ih (htells.unhurried hp) h
      refine ⟨?_, fun j => ?_, ?_, fun hroutes => hfilled (filled_addRoute hroutes)⟩
      · exact List.forall_mem_cons.2
          ⟨hspans.spanned, fun d hd => (htells.spanned d).1 (hspanned d hd)⟩
      · rw [htargets, htells.sinksFrom, hspans.sinksFrom_cons, targetsOf_addRoute]
        split <;> simp
      · rw [htells.formatsTo] at htells'
        rw [funext hspans.formatsTo_cons]
        exact htells.trans htells'
    · simp at h

end Telling

/-! ### Installing routes -/

lemma targetsOf_eq_nil (h : ∀ route ∈ routes, route.1 ≠ i) : targetsOf i routes = [] := by
  induction routes with
  | nil => rfl
  | cons first rest ih =>
    obtain ⟨hfirst, hrest⟩ := List.forall_mem_cons.1 h
    rw [targetsOf, if_neg hfirst, ih hrest]

lemma block?_install (p : Pipeline ω γ π) {route : Nat × List Nat} (hroute : route.2 ≠ [])
    (j : Nat) : (p.install route).network.block? j =
      (p.network.block? j).map (Block.routed (if route.1 = j then route.2 else [])) := by
  have hother : (p.network.block? j).map (Block.routed []) = p.network.block? j := by
    rw [funext Block.routed_nil, Option.map_id']
  by_cases hj : route.1 = j
  · subst hj
    rw [if_pos rfl]
    simp only [install, mapNetwork, Network.mapSource, Network.source?]
    cases hb : p.network.block? route.1 with
    | none => simpa using hb
    | some b =>
      cases b with
      | source x =>
        simp only [Option.map_some, Block.routed, if_neg hroute]
        exact Network.block?_of_set_self (Network.blocks_setSource _) hb
      | sink y => exact hb
      | stage z => exact hb
  · rw [if_neg hj, hother]
    simp only [install, mapNetwork, Network.mapSource]
    split
    · exact Network.block?_of_set_ne (Network.blocks_setSource _) hj
    · rfl

/-- Each source gets the route that was noted for it. -/
lemma block?_installAll (hsingle : Single routes) (hfilled : ∀ route ∈ routes, route.2 ≠ [])
    (p : Pipeline ω γ π) (j : Nat) : (routes.foldl install p).network.block? j =
      (p.network.block? j).map (Block.routed (targetsOf j routes)) := by
  induction routes generalizing p with
  | nil =>
    rw [targetsOf, funext Block.routed_nil, Option.map_id']
    rfl
  | cons route rest ih =>
    obtain ⟨hfirst, hrest⟩ := List.pairwise_cons.1 hsingle
    obtain ⟨hroute, hroutes⟩ := List.forall_mem_cons.1 hfilled
    rw [List.foldl_cons, ih hrest hroutes, block?_install p hroute, targetsOf]
    by_cases hj : route.1 = j
    · have hnone : targetsOf j rest = [] :=
        targetsOf_eq_nil fun other hother heq => hfirst other hother (hj.trans heq.symm)
      rw [if_pos hj, if_pos hj, hnone, funext Block.routed_nil, Option.map_id']
    · rw [if_neg hj, if_neg hj, funext Block.routed_nil, Option.map_id']

section Joined

variable [Processor ω π]

/-- The blocks of a pipeline were connected: sinks were told the formats of their connections, and
sources got the sinks of theirs. -/
structure Joined (cs : List Connection) (p q : Pipeline ω γ π) : Prop where
  rest : q = { p with network := q.network }
  spanned : ∀ c ∈ cs, q.Spanned c
  sinksFrom : q.sinksFrom = p.sinksFrom
  formatsTo : q.formatsTo = p.formatsTo
  block : ∀ j, q.network.block? j =
    (p.network.block? j).map fun b => (b.told (p.formatsTo cs j)).routed (p.sinksFrom cs j)

theorem joined_of_ok (hp : p.Unhurried) (h : connectAll cs [] p = (.ok routes, q)) :
    Joined cs p (routes.foldl install q) := by
  obtain ⟨hspanned, htargets, htells, hfilled⟩ := connectAll_connects hp h
  have hsingle : Single routes := by
    have hspec := (connectAll_spec cs [] p).2 routes
    rw [h] at hspec
    exact (hspec rfl).1 .nil
  have hroute (i : Nat) : targetsOf i routes = p.sinksFrom cs i := by
    rw [htargets]
    rfl
  have hrest : routes.foldl install q = { q with network := (routes.foldl install q).network } :=
    (rewires_installAll q).rest
  generalize hr : routes.foldl install q = r at hrest ⊢
  have hblock (j : Nat) : r.network.block? j =
      (p.network.block? j).map fun b => (b.told (p.formatsTo cs j)).routed (p.sinksFrom cs j) := by
    rw [← hr, block?_installAll hsingle (hfilled (by simp)), hroute, htells.block, Option.map_map]
    rfl
  have hfind : r.find? = p.find? := by
    rw [hrest, ← htells.find?]
    rfl
  have hformat (name : String) : r.formatOf? name = p.formatOf? name := by
    simp only [formatOf?, hfind, Network.source?, hblock]
    cases p.find? name with
    | none => rfl
    | some i =>
      simp only [Option.bind_some]
      cases p.network.block? i with
      | none => rfl
      | some b =>
        cases b with
        | source x =>
          simp only [Option.map_some, Block.told, Block.routed]
          split <;> rfl
        | sink y => rfl
        | stage z => rfl
  refine ⟨by rw [hrest, htells.rest], fun c hc => ?_, ?_, ?_, hblock⟩
  · exact (spanned_congr hfind hblock (fun _ b => by cases b <;> rfl)
      (fun _ b => by cases b <;> rfl) c).2 (hspanned c hc)
  · funext cs i
    simp only [Pipeline.sinksFrom, hfind]
  · funext cs k
    simp only [Pipeline.formatsTo, hfind, hformat]

end Joined

end Pipeline

end FrameGraph
