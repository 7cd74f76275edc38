import FrameGraph.Network.Lifecycle
import FrameGraph.Network.Moves
import Mathlib.Tactic.Common

/-!
# Looking at the blocks of a network

Most of what happens to a network changes one block and leaves the others alone.
-/

namespace FrameGraph.Network

variable {ω γ π : Type} {s t : Network ω γ π} {i j : Nat} {b b' : Block γ π}

/-! ### What leaves all blocks alone -/

@[simp] lemma blocks_mapStorage (f : Storage → Storage) : (s.mapStorage f).blocks = s.blocks := rfl

@[simp] lemma blocks_release (f : Frame) : (s.release f).blocks = s.blocks := rfl

lemma blocks_elim_release (f : Option Frame) : (f.elim s s.release).blocks = s.blocks := by
  cases f <;> rfl

@[simp] lemma blocks_hear (r : Option Report) : (s.hear r).blocks = s.blocks := by
  unfold hear
  cases r with
  | none => rfl
  | some r => by_cases h : s.listening = true <;> simp [h]

@[simp] lemma storage_hear (r : Option Report) : (s.hear r).storage = s.storage := by
  unfold hear
  cases r with
  | none => rfl
  | some r => by_cases h : s.listening = true <;> simp [h]

@[simp] lemma blocks_tapFrame (tap : Tap) (f : Frame) : (s.tapFrame tap f).2.blocks = s.blocks := by
  unfold tapFrame
  split <;> rfl

/-! ### Kinds of blocks -/

lemma source?_eq_some {x : SourceBlock γ} :
    s.source? i = some x ↔ s.block? i = some (.source x) := by
  unfold source?
  split <;> simp_all

lemma sink?_eq_some {x : SinkBlock π} : s.sink? i = some x ↔ s.block? i = some (.sink x) := by
  unfold sink?
  split <;> simp_all

/-! ### Replacing a block -/

@[simp] lemma blocks_setBlock : (s.setBlock i b).blocks = s.blocks.set i b := rfl

@[simp] lemma blocks_setSource (x : SourceBlock γ) :
    (s.setSource i x).blocks = s.blocks.set i (.source x) := rfl

@[simp] lemma blocks_setSink (x : SinkBlock π) :
    (s.setSink i x).blocks = s.blocks.set i (.sink x) := rfl

/-- The blocks of a network in which one was replaced. -/
lemma block?_of_set (h : t.blocks = s.blocks.set i b') (hb : s.block? i = some b) (j : Nat) :
    t.block? j = if i = j then some b' else s.block? j := by
  unfold block? at hb ⊢
  rw [h, List.getElem?_set]
  split
  · rename_i hij
    rw [if_pos (List.getElem?_eq_some_iff.1 hb).1]
  · rfl

lemma block?_of_set_self (h : t.blocks = s.blocks.set i b') (hb : s.block? i = some b) :
    t.block? i = some b' := by
  rw [block?_of_set h hb, if_pos rfl]

lemma block?_of_set_ne (h : t.blocks = s.blocks.set i b') (hij : i ≠ j) :
    t.block? j = s.block? j := by
  unfold block?
  rw [h, List.getElem?_set_ne hij]

lemma block?_of_blocks_eq (h : t.blocks = s.blocks) (j : Nat) : t.block? j = s.block? j := by
  rw [block?, block?, h]

/-- What holds between the block that is replaced and the new one, and of each block and itself,
holds at each position. -/
lemma exists_block?_of_set {R : Nat → Block γ π → Block γ π → Prop}
    (h : t.blocks = s.blocks.set i b') (hb : s.block? i = some b) (hR : R i b b')
    (hrefl : ∀ j c, R j c c) {c : Block γ π} (hc : s.block? j = some c) :
    ∃ c', t.block? j = some c' ∧ R j c c' := by
  by_cases hij : i = j
  · subst hij
    obtain rfl : b = c := by simpa [hb] using hc
    exact ⟨b', block?_of_set_self h hb, hR⟩
  · exact ⟨c, (block?_of_set_ne h hij).trans hc, hrefl j c⟩

/-- In a network with as many blocks there was one at the same position. -/
lemma exists_block?_of_length (h : t.blocks.length = s.blocks.length) (hb : t.block? i = some b) :
    ∃ c, s.block? i = some c := by
  have hi : i < s.blocks.length := h ▸ (List.getElem?_eq_some_iff.1 hb).1
  exact ⟨s.blocks[i], List.getElem?_eq_getElem hi⟩

/-- Each block of a network is related to the one that is there afterwards. -/
structure Each (R : Nat → Block γ π → Block γ π → Prop) (s t : Network ω γ π) : Prop where
  length : t.blocks.length = s.blocks.length
  block : ∀ i b, s.block? i = some b → ∃ b', t.block? i = some b' ∧ R i b b'

section Each

variable {R R' : Nat → Block γ π → Block γ π → Prop}

lemma Each.refl (hrefl : ∀ j c, R j c c) (s : Network ω γ π) : s.Each R s :=
  ⟨rfl, fun i b hb => ⟨b, hb, hrefl i b⟩⟩

lemma Each.trans {u : Network ω γ π} (h : s.Each R t) (h' : t.Each R u)
    (htrans : ∀ i b b' b'', R i b b' → R i b' b'' → R i b b'') : s.Each R u := by
  refine ⟨h'.length.trans h.length, fun i b hb => ?_⟩
  obtain ⟨b', hb', hrelated⟩ := h.block i b hb
  obtain ⟨b'', hb'', hrelated'⟩ := h'.block i b' hb'
  exact ⟨b'', hb'', htrans i b b' b'' hrelated hrelated'⟩

lemma Each.mono (h : s.Each R t) (hR : ∀ i b b', R i b b' → R' i b b') : s.Each R' t := by
  refine ⟨h.length, fun i b hb => ?_⟩
  obtain ⟨b', hb', hrelated⟩ := h.block i b hb
  exact ⟨b', hb', hR i b b' hrelated⟩

lemma Each.source (h : s.Each R t) (hb : t.block? i = some b') :
    ∃ b, s.block? i = some b ∧ R i b b' := by
  obtain ⟨b, hs⟩ := exists_block?_of_length h.length hb
  obtain ⟨b'', hb'', hrelated⟩ := h.block i b hs
  obtain rfl : b' = b'' := by simpa [hb] using hb''
  exact ⟨b, hs, hrelated⟩

lemma Each.none (h : s.Each R t) (hi : s.block? i = none) : t.block? i = none := by
  cases ht : t.block? i with
  | none => rfl
  | some b' =>
    obtain ⟨b, hb, -⟩ := h.source ht
    simp [hi] at hb

/-- What related blocks have in common, two networks have in common. -/
lemma Each.map_eq {α : Type} {f : Block γ π → α} (h : s.Each R t)
    (hf : ∀ i (b b' : Block γ π), R i b b' → f b' = f b) : t.blocks.map f = s.blocks.map f := by
  apply List.ext_getElem?
  intro i
  rw [List.getElem?_map, List.getElem?_map]
  cases hi : s.block? i with
  | none =>
    have ht := h.none hi
    simp only [block?] at hi ht
    rw [hi, ht]
  | some b =>
    obtain ⟨b', hb', hrelated⟩ := h.block i b hi
    simp only [block?] at hi hb'
    rw [hi, hb', Option.map_some, Option.map_some, hf i b b' hrelated]

lemma each_of_blocks_eq (h : t.blocks = s.blocks) (hrefl : ∀ j c, R j c c) : s.Each R t :=
  ⟨by rw [h], fun i b hb => ⟨b, (block?_of_blocks_eq h i).trans hb, hrefl i b⟩⟩

lemma each_of_set (h : t.blocks = s.blocks.set i b') (hb : s.block? i = some b) (hR : R i b b')
    (hrefl : ∀ j c, R j c c) : s.Each R t :=
  ⟨by rw [h, List.length_set], fun _ _ hc => exists_block?_of_set h hb hR hrefl hc⟩

end Each

/-- The blocks of a network to which one was added. -/
lemma block?_of_append (h : t.blocks = s.blocks ++ [b]) (j : Nat) :
    t.block? j = if j = s.blocks.length then some b else s.block? j := by
  rw [block?, block?, h]
  rcases Nat.lt_trichotomy j s.blocks.length with hj | rfl | hj
  · rw [List.getElem?_append_left hj, if_neg (Nat.ne_of_lt hj)]
  · rw [if_pos rfl, List.getElem?_concat_length]
  · rw [if_neg (Nat.ne_of_gt hj), List.getElem?_eq_none (Nat.le_of_lt hj), List.getElem?_eq_none]
    rw [List.length_append, List.length_singleton]
    exact hj

lemma setBlock_self (hb : s.block? i = some b) : s.setBlock i b = s := by
  have h : s.blocks.set i b = s.blocks := by
    obtain ⟨hi, rfl⟩ := List.getElem?_eq_some_iff.1 hb
    exact List.set_getElem_self hi
  rw [setBlock, h]

/-- A source and a sink are at different positions. -/
lemma ne_of_source_of_sink {x : SourceBlock γ} {y : SinkBlock π}
    (hi : s.block? i = some (.source x)) (hj : s.block? j = some (.sink y)) : i ≠ j := by
  rintro rfl
  simp [hi] at hj

/-! ### Changes of a core -/

lemma blocks_mapCore (hb : s.block? i = some b) (f : BlockCore → BlockCore) :
    (s.mapCore i f).blocks = s.blocks.set i (b.mapCore f) := by
  simp [mapCore, hb]

lemma blocks_fail (hb : s.block? i = some b) (message : String) :
    (s.fail i message).blocks
      = s.blocks.set i (b.mapCore fun _ => (b.core.fail message).1) := by
  simp [fail, hb]

/-! ### Answers -/

/-- Giving an answer changes blocks in the same way whatever else is different. -/
lemma blocks_answer_of_eq (h : t.blocks = s.blocks) (p : Producer) (r : Except Error Unit) :
    (t.answer p r).blocks = (s.answer p r).blocks := by
  cases p with
  | caller k => exact h
  | source j =>
    have hj : t.source? j = s.source? j := by rw [source?, source?, block?_of_blocks_eq h]
    simp only [answer, hj]
    cases s.source? j with
    | none => exact h
    | some x =>
      dsimp only
      split
      · rw [blocks_setSource, blocks_setSource, h]
      · exact h

end FrameGraph.Network
