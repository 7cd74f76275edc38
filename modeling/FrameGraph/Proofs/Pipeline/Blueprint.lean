import FrameGraph.Proofs.Pipeline.Trial
import Mathlib.Data.List.Induction

/-!
# Which descriptions can be built

A description can be built if its blocks have different names, all of them can be made, all accept
their parameters, and each connection leads from a source to a sink. Making, configuring and
connecting are tried in this order, and the first failure decides.
-/

namespace FrameGraph

variable {ω γ π : Type}

/-! ### Places of a failure -/

/-- All is good up to this place of a list, and no longer with it. -/
structure Halts {α : Type} (Good : List α → Prop) (l done : List α) (a : α) : Prop where
  split : ∃ rest, l = done ++ a :: rest
  before : Good done
  here : ¬Good (done ++ [a])

namespace Halts

variable {α : Type} {Good : List α → Prop} {l done done' : List α} {a a' : α}

lemma not_good (hgood : ∀ xs ys, Good (xs ++ ys) → Good xs) (h : Halts Good l done a) :
    ¬Good l := by
  obtain ⟨rest, rfl⟩ := h.split
  exact fun hl => h.here (hgood _ rest (by simpa using hl))

/-- There is only one such place. -/
lemma unique (hgood : ∀ xs ys, Good (xs ++ ys) → Good xs) (h : Halts Good l done a)
    (h' : Halts Good l done' a') : done = done' ∧ a = a' := by
  obtain ⟨rest, rfl⟩ := h.split
  obtain ⟨rest', heq⟩ := h'.split
  -- otherwise one place is before the other, and what is good goes past it
  rcases List.append_eq_append_iff.1 heq with ⟨mid, rfl, hmid⟩ | ⟨mid, rfl, hmid⟩
  · cases mid with
    | nil => exact ⟨(List.append_nil done).symm, (List.cons.inj hmid).1⟩
    | cons b mid =>
      obtain rfl := (List.cons.inj hmid).1
      exact absurd (hgood _ mid (by simpa using h'.before)) h.here
  · cases mid with
    | nil => exact ⟨List.append_nil done', (List.cons.inj hmid).1.symm⟩
    | cons b mid =>
      obtain rfl := (List.cons.inj hmid).1
      exact absurd (hgood _ mid (by simpa using h.before)) h'.here

end Halts

/-! ### Making -/

/-- A block under the name of its definition; its failures are heard. -/
def BlockDef.named (d : BlockDef) (b : Block γ π) : Block γ π :=
  b.mapCore fun c => { c with name := d.name, listener := some "" }

/-- A block with the parameters of its definition. -/
def BlockDef.equipped (d : BlockDef) (b : Block γ π) : Block γ π :=
  b.mapCore fun c => { c with params := c.params.extend d.parameters }

/-- Make one more block. -/
def Registry.makeNext (r : Registry ω (Block γ π)) (made : List (Block γ π) × ω) (d : BlockDef) :
    Option (List (Block γ π) × ω) :=
  match r.create d.type made.2 with
  | (.ok b, w) => some (made.1 ++ [d.named b], w)
  | (.error _, _) => none

/-- Make the blocks of these definitions one after the other. -/
def Registry.makeAll (r : Registry ω (Block γ π)) (defs : List BlockDef) (w : ω) :
    Option (List (Block γ π) × ω) :=
  defs.foldlM r.makeNext ([], w)

/-- The blocks of these definitions with their parameters. -/
def equipAll (defs : List BlockDef) (bs : List (Block γ π)) : List (Block γ π) :=
  List.zipWith BlockDef.equipped defs bs

/-- Definitions of different names whose blocks can be made. -/
def Registry.MakesAll (r : Registry ω (Block γ π)) (w : ω) (defs : List BlockDef) : Prop :=
  (defs.map (·.name)).Nodup ∧ (r.makeAll defs w).isSome

/-- Why no block is made of a definition after these: its name is taken, or the constructor for its
type fails. -/
inductive Registry.Refuses (r : Registry ω (Block γ π)) (w : ω) (done : List BlockDef)
    (d : BlockDef) : Error → Prop
  | duplicate (hname : d.name ∈ done.map (·.name)) :
    Refuses r w done d (.config s!"duplicate block name '{d.name}'")
  | unmade {bs v e} (hdone : r.makeAll done w = some (bs, v)) (hname : d.name ∉ done.map (·.name))
    (hd : (r.create d.type v).1 = .error e) : Refuses r w done d
      (.config s!"failed to create block '{d.name}' of type '{d.type}': {e.message}")

section Making

variable {r : Registry ω (Block γ π)} {defs done rest : List BlockDef} {d : BlockDef}
  {bs : List (Block γ π)} {w v : ω}

lemma Registry.makeAll_append :
    r.makeAll (done ++ rest) w = (r.makeAll done w).bind (rest.foldlM r.makeNext) :=
  List.foldlM_append

lemma Registry.makeAll_concat (h : r.makeAll done w = some (bs, v)) :
    r.makeAll (done ++ [d]) w = r.makeNext (bs, v) d := by
  simp [makeAll_append, h]

/-- The last block was made after the others. -/
lemma Registry.makeAll_concat_eq_some (h : r.makeAll (done ++ [d]) w = some (bs, v)) :
    ∃ bs' u b, r.makeAll done w = some (bs', u) ∧ r.create d.type u = (.ok b, v) ∧
      bs = bs' ++ [d.named b] := by
  cases hdone : r.makeAll done w with
  | none => simp [makeAll_append, hdone] at h
  | some made =>
    rw [makeAll_concat hdone, makeNext] at h
    split at h
    · rename_i b u hcreate
      cases h
      exact ⟨_, _, b, rfl, hcreate, rfl⟩
    · cases h

lemma Registry.length_makeAll (h : r.makeAll defs w = some (bs, v)) :
    bs.length = defs.length := by
  induction defs using List.reverseRecOn generalizing bs v with
  | nil =>
    obtain ⟨rfl, rfl⟩ : [] = bs ∧ w = v := by simpa [makeAll] using h
    rfl
  | append_singleton done d ih =>
    obtain ⟨bs', u, b, hdone, -, rfl⟩ := makeAll_concat_eq_some h
    simp [ih hdone]

/-- Each block was made by the constructor for its type. -/
lemma Registry.create_of_makeAll {b : Block γ π} (h : r.makeAll defs w = some (bs, v))
    (hmem : (d, b) ∈ defs.zip bs) : ∃ u made u', r.create d.type u = (.ok made, u') ∧
      b = d.named made := by
  induction defs using List.reverseRecOn generalizing bs v with
  | nil => simp at hmem
  | append_singleton done last ih =>
    obtain ⟨bs', u, made, hdone, hcreate, rfl⟩ := makeAll_concat_eq_some h
    rw [List.zip_append (length_makeAll hdone).symm, List.mem_append] at hmem
    rcases hmem with hmem | hmem
    · exact ih hdone hmem
    · obtain ⟨rfl, rfl⟩ : d = last ∧ b = last.named made := by simpa using hmem
      exact ⟨u, made, v, hcreate, rfl⟩

/-- What fails on the way fails. -/
lemma Registry.makeAll_of_failure {e : Error} (hdone : r.makeAll done w = some (bs, v))
    (hd : (r.create d.type v).1 = .error e) : r.makeAll (done ++ d :: rest) w = none := by
  have hnext : r.makeNext (bs, v) d = none := by
    unfold makeNext
    split
    · rename_i heq
      rw [heq] at hd
      cases hd
    · rfl
  simp [makeAll_append, hdone, hnext]

lemma Registry.MakesAll.of_append (h : r.MakesAll w (done ++ rest)) : r.MakesAll w done := by
  obtain ⟨hdistinct, hmade⟩ := h
  rw [List.map_append] at hdistinct
  rw [makeAll_append] at hmade
  exact ⟨(List.nodup_append.1 hdistinct).1, Option.isSome_of_isSome_bind hmade⟩

lemma Registry.Refuses.unique {e e' : Error} (h : r.Refuses w done d e)
    (h' : r.Refuses w done d e') : e = e' := by
  cases h with
  | duplicate hname =>
    cases h' with
    | duplicate => rfl
    | unmade _ hname' => exact absurd hname hname'
  | unmade hdone hname hd =>
    cases h' with
    | duplicate hname' => exact absurd hname' hname
    | unmade hdone' _ hd' =>
      cases hdone.symm.trans hdone'
      cases hd.symm.trans hd'
      rfl

lemma Registry.Refuses.not_makesAll {e : Error} (h : r.Refuses w done d e) :
    ¬r.MakesAll w (done ++ [d]) := by
  rintro ⟨hdistinct, hmade⟩
  cases h with
  | duplicate hname =>
    rw [List.map_append, List.nodup_append] at hdistinct
    exact hdistinct.2.2 d.name hname d.name List.mem_cons_self rfl
  | unmade hdone _ hd =>
    rw [makeAll_of_failure hdone hd] at hmade
    cases hmade

lemma equipAll_append {bs₁ bs₂ : List (Block γ π)} (h : done.length = bs₁.length) :
    equipAll (done ++ rest) (bs₁ ++ bs₂) = equipAll done bs₁ ++ equipAll rest bs₂ :=
  List.zipWith_append h

lemma BlockDef.map_equipped_zip :
    ((defs.zip bs).map fun p => p.1.equipped p.2) = equipAll defs bs :=
  List.map_zip_eq_zipWith

end Making

/-! ### Configuring -/

section Configuring

variable [Generator γ] [Processor ω π]

/-- Configure one more block. -/
def Block.acceptNext (w : ω) (b : Block γ π) : Option ω :=
  match b.trial w with
  | (.ok (), v) => some v
  | (.error _, _) => none

/-- Configure these blocks one after the other: the world that this leaves behind. -/
def Block.acceptAll (bs : List (Block γ π)) (w : ω) : Option ω := bs.foldlM Block.acceptNext w

/-- Blocks that accept the parameters of their definitions, one after the other. -/
def BlockDef.AcceptedAll (v : ω) (ps : List (BlockDef × Block γ π)) : Prop :=
  (Block.acceptAll (ps.map fun p => p.1.equipped p.2) v).isSome

/-- After the blocks of these definitions, one does not accept its parameters. -/
def BlockDef.Rejected (v : ω) (ps : List (BlockDef × Block γ π)) (p : BlockDef × Block γ π)
    (f : Fault) : Prop :=
  ∃ u, Block.acceptAll (ps.map fun p => p.1.equipped p.2) v = some u ∧
    ((p.1.equipped p.2).trial u).1 = .error f

/-- Blocks took their parameters over, one after the other. -/
inductive Outfits (w : ω) : List (Block γ π) → List (Block γ π) → ω → Prop
  | nil : Outfits w [] [] w
  | concat {bs cs b c v} (h : Outfits w bs cs v) (hb : (b.trial v).1 = .ok ())
    (hc : b.Configured v c) : Outfits w (bs ++ [b]) (cs ++ [c]) (b.trial v).2

variable {bs cs : List (Block γ π)} {b c : Block γ π} {w v : ω}

lemma Block.acceptNext_of_ok (h : (b.trial w).1 = .ok ()) :
    b.acceptNext w = some (b.trial w).2 := by
  unfold acceptNext
  split
  · rename_i heq
    rw [heq]
  · rename_i heq
    rw [heq] at h
    cases h

lemma Block.acceptNext_of_error {f : Fault} (h : (b.trial w).1 = .error f) :
    b.acceptNext w = none := by
  unfold acceptNext
  split
  · rename_i heq
    rw [heq] at h
    cases h
  · rfl

section Accepting

variable {ps qs : List (BlockDef × Block γ π)} {p : BlockDef × Block γ π} {f f' : Fault}

lemma BlockDef.AcceptedAll.of_append (h : AcceptedAll v (ps ++ qs)) : AcceptedAll v ps := by
  rw [AcceptedAll, List.map_append, Block.acceptAll, List.foldlM_append] at h
  exact Option.isSome_of_isSome_bind h

lemma BlockDef.Rejected.unique (h : Rejected v ps p f) (h' : Rejected v ps p f') : f = f' := by
  obtain ⟨u, hdone, hp⟩ := h
  obtain ⟨u', hdone', hp'⟩ := h'
  obtain rfl := Option.some.inj (hdone.symm.trans hdone')
  exact Except.error.inj (hp.symm.trans hp')

lemma BlockDef.Rejected.not_acceptedAll (h : Rejected v ps p f) : ¬AcceptedAll v (ps ++ [p]) := by
  obtain ⟨u, hdone, hp⟩ := h
  rw [AcceptedAll, List.map_append, Block.acceptAll, List.foldlM_append, ← Block.acceptAll, hdone]
  simp [Block.acceptNext_of_error hp]

end Accepting

lemma Outfits.acceptAll (h : Outfits w bs cs v) : Block.acceptAll bs w = some v := by
  induction h with
  | nil => rfl
  | concat h hb _ ih =>
    rw [Block.acceptAll, List.foldlM_append, ← Block.acceptAll, ih]
    simp [Block.acceptNext_of_ok hb]

lemma Outfits.length (h : Outfits w bs cs v) : cs.length = bs.length := by
  induction h with
  | nil => rfl
  | concat _ _ _ ih => simp [ih]

/-- What one block and its outcome have in common, all have in common. -/
lemma Outfits.map_eq {α : Type} {f : Block γ π → α} (h : Outfits w bs cs v)
    (hf : ∀ (v : ω) (b c : Block γ π), b.Configured v c → f c = f b) : cs.map f = bs.map f := by
  induction h with
  | nil => rfl
  | concat _ _ hc ih => simp [ih, hf _ _ _ hc]

lemma Outfits.state (h : Outfits w bs cs v) (hc : c ∈ cs) : c.state = .initialized := by
  induction h with
  | nil => cases hc
  | concat _ _ hconfigured ih =>
    rcases List.mem_append.1 hc with hc | hc
    · exact ih hc
    · rw [List.mem_singleton.1 hc]
      exact hconfigured.state

end Configuring

/-! ### Connecting -/

/-- Why a connection cannot be made, if it cannot: one of its ends is missing, or cannot do what is
asked of it. -/
def linkError (graph : List (String × Block γ π)) (c : Connection) : Option Error :=
  match graph.lookup c.source, graph.lookup c.sink with
  | none, _ => some (.blockNotFound c.source)
  | some _, none => some (.blockNotFound c.sink)
  | some x, some y =>
    if !x.isSource then some (.missingCapability x.name "source")
    else if !y.isSink then some (.missingCapability y.name "sink")
    else none

/-- The blocks of these definitions by their names. -/
def graphOf (defs : List BlockDef) (bs : List (Block γ π)) : List (String × Block γ π) :=
  (defs.map (·.name)).zip bs

section Connecting

variable {names : List String} {bs cs : List (Block γ π)}

/-- What a connection asks of a block: its name, and whether it produces or consumes frames. -/
def Block.face (b : Block γ π) : String × Bool × Bool := (b.name, b.isSource, b.isSink)

lemma lookup_zip_map {α β : Type} (f : α → β) (names : List String) (as : List α)
    (name : String) :
    ((names.zip as).lookup name).map f = (names.zip (as.map f)).lookup name := by
  induction names generalizing as with
  | nil => rfl
  | cons first names ih =>
    cases as with
    | nil => rfl
    | cons a as =>
      simp only [List.zip_cons_cons, List.map_cons, List.lookup_cons]
      split
      · rfl
      · exact ih as

/-- Only the faces of blocks matter to a connection. -/
lemma linkError_congr (h : cs.map Block.face = bs.map Block.face) (c : Connection) :
    linkError (names.zip cs) c = linkError (names.zip bs) c := by
  have hlookup (name : String) : ((names.zip cs).lookup name).map Block.face =
      ((names.zip bs).lookup name).map Block.face := by
    rw [lookup_zip_map, lookup_zip_map, h]
  have hsource := hlookup c.source
  have hsink := hlookup c.sink
  unfold linkError
  revert hsource hsink
  cases (names.zip cs).lookup c.source <;> cases (names.zip bs).lookup c.source <;>
    cases (names.zip cs).lookup c.sink <;> cases (names.zip bs).lookup c.sink <;>
    simp +contextual [Block.face]

lemma Block.Joins.face {routed : List Nat → Prop} {b c : Block γ π} (h : b.Joins routed c) :
    c.face = b.face := by
  cases h <;> rfl

lemma Block.Joins.state {routed : List Nat → Prop} {b c : Block γ π} (h : b.Joins routed c) :
    c.state = b.state := by
  cases h <;> rfl

/-- Parameters are not seen from outside. -/
lemma face_equipAll {defs : List BlockDef} (h : bs.length = defs.length) :
    (equipAll defs bs).map Block.face = bs.map Block.face := by
  induction bs generalizing defs with
  | nil => simp [equipAll]
  | cons b bs ih =>
    match defs with
    | [] => simp at h
    | d :: defs =>
      have hface : (d.equipped b).face = b.face := by cases b <;> rfl
      have hrest : (equipAll defs bs).map Block.face = bs.map Block.face := ih (by simpa using h)
      simpa [equipAll, hface] using hrest

lemma Outfits.face [Generator γ] [Processor ω π] {w v : ω} (h : Outfits w bs cs v) :
    cs.map Block.face = bs.map Block.face :=
  h.map_eq fun _ _ _ hc => by rw [Block.face, hc.name, hc.isSource, hc.isSink, Block.face]

end Connecting

/-! ### All phases -/

variable [Generator γ] [Processor ω π]

/-- A description that can be built. -/
structure Buildable (r : Registry ω (Block γ π)) (config : GraphConfig) (w : ω) : Prop where
  distinct : (config.blocks.map (·.name)).Nodup
  blocks : ∃ bs v, r.makeAll config.blocks w = some (bs, v) ∧
    (Block.acceptAll (equipAll config.blocks bs) v).isSome ∧
    ∀ c ∈ config.connections, linkError (graphOf config.blocks bs) c = none

/-- The fault of a configuration, under the name of the block. -/
def BlockDef.misfit (d : BlockDef) : Fault → Fault
  | .error e => .error (.config s!"failed to configure block '{d.name}': {e.message}")
  | .panic p => .panic p

/-- The first failure on the way to the graph of a description. -/
inductive FirstFailure (r : Registry ω (Block γ π)) (config : GraphConfig) (w : ω) : Fault → Prop
  | duplicate {done d rest} (hdefs : config.blocks = done ++ d :: rest)
    (hdistinct : (done.map (·.name)).Nodup) (hdone : (r.makeAll done w).isSome)
    (hname : d.name ∈ done.map (·.name)) :
    FirstFailure r config w (.error (.config s!"duplicate block name '{d.name}'"))
  | unmade {done d rest bs v e} (hdefs : config.blocks = done ++ d :: rest)
    (hdistinct : (done.map (·.name)).Nodup) (hdone : r.makeAll done w = some (bs, v))
    (hname : d.name ∉ done.map (·.name)) (hd : (r.create d.type v).1 = .error e) :
    FirstFailure r config w
      (.error (.config s!"failed to create block '{d.name}' of type '{d.type}': {e.message}"))
  | unfit {done d rest bs bs₁ b bs₂ v u f} (hdistinct : (config.blocks.map (·.name)).Nodup)
    (hmade : r.makeAll config.blocks w = some (bs, v)) (hdefs : config.blocks = done ++ d :: rest)
    (hbs : bs = bs₁ ++ b :: bs₂) (hlength : done.length = bs₁.length)
    (hdone : Block.acceptAll (equipAll done bs₁) v = some u)
    (hd : ((d.equipped b).trial u).1 = .error f) : FirstFailure r config w (d.misfit f)
  | unlinked {bs v e} (hdistinct : (config.blocks.map (·.name)).Nodup)
    (hmade : r.makeAll config.blocks w = some (bs, v))
    (haccepted : (Block.acceptAll (equipAll config.blocks bs) v).isSome)
    (hfails : config.connections.findSome? (linkError (graphOf config.blocks bs)) = some e) :
    FirstFailure r config w (.error e)

variable {r : Registry ω (Block γ π)} {config : GraphConfig} {w : ω} {f f' : Fault}

/-- A failure while making, while configuring, or while connecting. -/
lemma FirstFailure.phase (h : FirstFailure r config w f) :
    (∃ done d e, Halts (r.MakesAll w) config.blocks done d ∧ r.Refuses w done d e ∧ f = .error e) ∨
    r.MakesAll w config.blocks ∧ ∃ bs v, r.makeAll config.blocks w = some (bs, v) ∧
      ((∃ ps p g, Halts (BlockDef.AcceptedAll v) (config.blocks.zip bs) ps p ∧
        BlockDef.Rejected v ps p g ∧ f = p.1.misfit g) ∨
      BlockDef.AcceptedAll v (config.blocks.zip bs) ∧ ∃ e,
        config.connections.findSome? (linkError (graphOf config.blocks bs)) = some e ∧
        f = .error e) := by
  cases h with
  | duplicate hdefs hdistinct hdone hname =>
    have hrefuses := Registry.Refuses.duplicate (r := r) (w := w) hname
    exact .inl ⟨_, _, _, ⟨⟨_, hdefs⟩, ⟨hdistinct, hdone⟩, hrefuses.not_makesAll⟩, hrefuses, rfl⟩
  | unmade hdefs hdistinct hdone hname hd =>
    have hrefuses := Registry.Refuses.unmade hdone hname hd
    exact .inl ⟨_, _, _, ⟨⟨_, hdefs⟩, ⟨hdistinct, by simp [hdone]⟩, hrefuses.not_makesAll⟩,
      hrefuses, rfl⟩
  | @unfit done d rest bs bs₁ b bs₂ v u g hdistinct hmade hdefs hbs hlength hdone hd =>
    have hrejected : BlockDef.Rejected v (done.zip bs₁) (d, b) g :=
      ⟨u, by rwa [BlockDef.map_equipped_zip], hd⟩
    refine .inr ⟨⟨hdistinct, by simp [hmade]⟩, _, _, hmade, .inl ⟨_, _, _, ⟨⟨rest.zip bs₂, ?_⟩,
      ?_, hrejected.not_acceptedAll⟩, hrejected, rfl⟩⟩
    · rw [hdefs, hbs, List.zip_append hlength, List.zip_cons_cons]
    · rw [BlockDef.AcceptedAll, BlockDef.map_equipped_zip, hdone, Option.isSome_some]
  | unlinked hdistinct hmade haccepted hfails =>
    exact .inr ⟨⟨hdistinct, by simp [hmade]⟩, _, _, hmade,
      .inr ⟨by rwa [BlockDef.AcceptedAll, BlockDef.map_equipped_zip], _, hfails, rfl⟩⟩

/-- The first failure is unique. -/
theorem FirstFailure.unique (h : FirstFailure r config w f) (h' : FirstFailure r config w f') :
    f = f' := by
  rcases h.phase with ⟨done, d, e, hhalts, hrefuses, rfl⟩ | ⟨hmakes, bs, v, hmade, hlater⟩
  · rcases h'.phase with ⟨done', d', e', hhalts', hrefuses', rfl⟩ | ⟨hmakes', -⟩
    · obtain ⟨rfl, rfl⟩ := hhalts.unique (fun _ _ => Registry.MakesAll.of_append) hhalts'
      rw [hrefuses.unique hrefuses']
    · exact absurd hmakes' (hhalts.not_good (fun _ _ => Registry.MakesAll.of_append))
  · rcases h'.phase with ⟨done', d', e', hhalts', -⟩ | ⟨-, bs', v', hmade', hlater'⟩
    · exact absurd hmakes (hhalts'.not_good (fun _ _ => Registry.MakesAll.of_append))
    · obtain ⟨rfl, rfl⟩ := Prod.mk.inj (Option.some.inj (hmade.symm.trans hmade'))
      rcases hlater with ⟨ps, p, g, hhalts, hrejected, rfl⟩ | ⟨haccepted, e, hfails, rfl⟩
      · rcases hlater' with ⟨ps', p', g', hhalts', hrejected', rfl⟩ | ⟨haccepted', -⟩
        · obtain ⟨rfl, rfl⟩ := hhalts.unique (fun _ _ => BlockDef.AcceptedAll.of_append) hhalts'
          rw [hrejected.unique hrejected']
        · exact absurd haccepted' (hhalts.not_good (fun _ _ => BlockDef.AcceptedAll.of_append))
      · rcases hlater' with ⟨ps', p', g', hhalts', -⟩ | ⟨-, e', hfails', rfl⟩
        · exact absurd haccepted (hhalts'.not_good (fun _ _ => BlockDef.AcceptedAll.of_append))
        · rw [Option.some.inj (hfails.symm.trans hfails')]

/-- A description with a failure cannot be built. -/
theorem FirstFailure.not_buildable (h : FirstFailure r config w f) : ¬Buildable r config w := by
  rintro ⟨hdistinct, bs, v, hmade, haccepted, hlinked⟩
  rcases h.phase with ⟨done, d, e, hhalts, -⟩ | ⟨-, bs', v', hmade', hlater⟩
  · exact hhalts.not_good (fun _ _ => Registry.MakesAll.of_append) ⟨hdistinct, by simp [hmade]⟩
  · obtain ⟨rfl, rfl⟩ := Prod.mk.inj (Option.some.inj (hmade.symm.trans hmade'))
    rcases hlater with ⟨ps, p, g, hhalts, -⟩ | ⟨-, e, hfails, -⟩
    · rw [← BlockDef.map_equipped_zip] at haccepted
      exact hhalts.not_good (fun _ _ => BlockDef.AcceptedAll.of_append) haccepted
    · rw [List.findSome?_eq_none_iff.2 hlinked] at hfails
      cases hfails

end FrameGraph
