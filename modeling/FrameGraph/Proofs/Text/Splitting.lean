import FrameGraph.Text.Split
import Mathlib.Tactic.Common

/-!
# Pieces of texts

Cutting at a separator is told by what it takes apart: the pieces, joined with the separator, are
the text again, and no piece that ends at a separator has one inside. What was written piece by
piece is read back piece by piece.
-/

namespace FrameGraph.Text

variable {sep : Char} {cs before behind : List Char}

/-! ### All separators -/

lemma splitAll_eq_splitOn (sep : Char) (cs : List Char) : splitAll sep cs = cs.splitOn sep := by
  induction cs with
  | nil => simp [splitAll]
  | cons c cs ih =>
    rw [splitAll, ih, List.splitOn_cons_eq_if_modifyHead]
    cases hrest : cs.splitOn sep with
    | nil => exact absurd hrest (List.splitOn_ne_nil _ _)
    | cons piece rest => simp

lemma splitAll_of_not_mem (h : sep ∉ cs) : splitAll sep cs = [cs] := by
  rw [splitAll_eq_splitOn, List.splitOn_eq_singleton h]

/-- Pieces without a separator that were joined by it are found again. -/
lemma splitAll_intercalate {pieces : List (List Char)} (hsep : ∀ piece ∈ pieces, sep ∉ piece)
    (hne : pieces ≠ []) : splitAll sep ([sep].intercalate pieces) = pieces := by
  rw [splitAll_eq_splitOn, List.splitOn_intercalate sep hsep hne]

/-- Joined pieces have the characters of the pieces, and separators between them. -/
lemma mem_intercalate {pieces : List (List Char)} {c : Char} (h : c ∈ [sep].intercalate pieces) :
    c = sep ∨ ∃ piece ∈ pieces, c ∈ piece := by
  induction pieces with
  | nil => cases h
  | cons piece rest ih =>
    cases rest with
    | nil => exact .inr ⟨piece, List.mem_cons_self, by simpa using h⟩
    | cons next rest =>
      rw [List.intercalate_cons_cons, List.mem_append, List.mem_append] at h
      obtain (hpiece | hsep) | hrest := h
      · exact .inr ⟨piece, List.mem_cons_self, hpiece⟩
      · exact .inl (List.mem_singleton.1 hsep)
      · exact (ih hrest).imp_right fun ⟨other, hother, hc⟩ =>
          ⟨other, List.mem_cons_of_mem piece hother, hc⟩

/-- What is put behind a text without a separator goes to its last piece. -/
lemma splitAll_append (sep : Char) (cs : List Char) : ∃ above last, ∀ suffix, sep ∉ suffix →
    splitAll sep (cs ++ suffix) = above ++ [last ++ suffix] := by
  induction cs with
  | nil => exact ⟨[], [], fun suffix h => splitAll_of_not_mem h⟩
  | cons c cs ih =>
    obtain ⟨above, last, hsplit⟩ := ih
    by_cases hc : c = sep
    · exact ⟨[] :: above, last, fun suffix h => by simp [splitAll, hc, hsplit suffix h]⟩
    · cases above with
      | nil => exact ⟨[], c :: last, fun suffix h => by simp [splitAll, hc, hsplit suffix h]⟩
      | cons piece above =>
        exact ⟨(c :: piece) :: above, last, fun suffix h => by
          simp [splitAll, hc, hsplit suffix h]⟩

/-! ### The first separator -/

/-- A text is cut at its first separator, if it has one. -/
lemma splitOnce?_eq_some_iff :
    splitOnce? sep cs = some (before, behind) ↔ cs = before ++ sep :: behind ∧ sep ∉ before := by
  induction cs generalizing before with
  | nil => simp [splitOnce?]
  | cons c cs ih =>
    by_cases hc : c = sep
    · cases before with
      | nil => simp [splitOnce?, hc, eq_comm]
      | cons d before => simp +contextual [splitOnce?, hc]
    · cases before with
      | nil => simp [splitOnce?, hc]
      | cons d before =>
        have hhead (h : c = d) : sep ≠ d := fun hd => hc (h.trans hd.symm)
        simp +contextual [splitOnce?, hc, ih, hhead, and_assoc, and_left_comm]

lemma splitOnce?_eq_none_iff : splitOnce? sep cs = none ↔ sep ∉ cs := by
  induction cs with
  | nil => simp [splitOnce?]
  | cons c cs ih =>
    by_cases hc : c = sep
    · simp [splitOnce?, hc]
    · simp [splitOnce?, hc, ih, Ne.symm hc]

/-! ### All pieces -/

/-- What was written piece by piece is read back if each piece is. -/
lemma mapM_map_eq_some {α β : Type} {write : α → β} {read : β → Option α}
    (h : ∀ a, read (write a) = some a) (l : List α) : (l.map write).mapM read = some l := by
  have hread : read ∘ write = fun a => pure (id a) := funext h
  rw [List.mapM_map, hread, List.mapM_pure, List.map_id]
  rfl

end FrameGraph.Text
