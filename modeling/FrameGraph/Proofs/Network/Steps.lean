import FrameGraph.Proofs.Network.Lifecycle

/-!
# Where a step takes place

Each step of an operation on a block changes this block and no other. What it does to the block is
said once for each kind of step, for any relation between the block before and after.
-/

namespace FrameGraph.Network

variable {ω γ π : Type} {s t : Network ω γ π} {i : Nat} {b b' : Block γ π}
  {G : Block γ π → Block γ π → Prop}

lemma stepAt_set (hb : s.block? i = some b) (ht : t.blocks = s.blocks.set i b') (h : G b b') :
    StepAt G i s t :=
  stepAt_of_set hb (.inr h) ht

lemma stepAt_mapCore {f : BlockCore → BlockCore} (h : ∀ b : Block γ π, G b (b.mapCore f))
    (s : Network ω γ π) : StepAt G i s (s.mapCore i f) := by
  cases hb : s.block? i with
  | none =>
    rw [mapCore, hb]
    exact .refl s
  | some b => exact stepAt_set hb (blocks_mapCore hb f) (h b)

lemma stepAt_mapSource {f : SourceBlock γ → SourceBlock γ}
    (h : ∀ x, G (.source x) (.source (f x))) (s : Network ω γ π) :
    StepAt G i s (s.mapSource i f) := by
  unfold mapSource
  split
  · rename_i x hx
    exact stepAt_set (source?_eq_some.1 hx) rfl (h x)
  · exact .refl s

lemma stepAt_mapEngine {f : SinkEngine → SinkEngine}
    (h : ∀ y : SinkBlock π, G (.sink y) (.sink { y with engine := f y.engine }))
    (s : Network ω γ π) : StepAt G i s (s.mapEngine i f) := by
  unfold mapEngine
  split
  · rename_i y hy
    exact stepAt_set (sink?_eq_some.1 hy) rfl (h y)
  · exact .refl s

lemma stepAt_spawnSource [Generator γ]
    (hready : ∀ x : SourceBlock γ, G (.source x)
      (.source { x with stop := x.stop.reset, engine := x.engine.resetAdmission }))
    (hspawn : ∀ (x : SourceBlock γ) generator lending, G (.source x) (.source { x with
      stop := x.stop.reset
      engine := x.engine.resetAdmission
      generator, lending, thread := .checking }))
    (s : Network ω γ π) : StepAt G i s (spawnSource i s).2 := by
  simp only [spawnSource]
  split
  · exact .refl s
  rename_i x hx
  rw [source?_eq_some] at hx
  split
  · exact .refl s
  split
  · exact stepAt_set hx rfl (hready x)
  · exact stepAt_set hx rfl (hspawn x _ _)

lemma stepAt_spawnSink
    (h : ∀ y : SinkBlock π, G (.sink y)
      (.sink { y with engine := { y.engine with worker := .seeking } }))
    (s : Network ω γ π) : StepAt G i s (spawnSink i s).2 := by
  unfold spawnSink
  split
  · exact .refl s
  · exact stepAt_mapEngine (f := fun e => { e with worker := .seeking }) h s

lemma stepAt_forgetThread (h : ∀ b : Block γ π, G b b.forgetThread) (s : Network ω γ π) :
    StepAt G i s (forgetThread i s) := by
  cases hb : s.block? i with
  | none =>
    simp only [forgetThread, hb]
    exact .refl s
  | some b => exact stepAt_set hb (blocks_forgetThread hb) (h b)

lemma stepAt_discard
    (h : ∀ y : SinkBlock π, G (.sink y) (.sink { y with engine := y.engine.discard.2 }))
    (s : Network ω γ π) : StepAt G i s (discard i s) := by
  cases hy : s.sink? i with
  | none =>
    simp only [discard, hy]
    exact .refl s
  | some y =>
    rw [sink?_eq_some] at hy
    exact stepAt_set hy (blocks_discard hy) (h y)

end FrameGraph.Network
