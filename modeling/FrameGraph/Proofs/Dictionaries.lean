import FrameGraph.Dict
import Mathlib.Tactic.Common

/-!
# Dictionaries and their entries

The entries of a dictionary are in order, so putting them one after the other into an empty
dictionary gives the same dictionary again. What a dictionary has under a key, and which keys it
has, is told by its entries.
-/

namespace FrameGraph.Dict

variable {α : Type}

lemma insertEntry_of_lt {k : String} {v : α} {l : List (String × α)} (h : ∀ e ∈ l, e.1 < k) :
    insertEntry k v l = l ++ [(k, v)] := by
  induction l with
  | nil => rfl
  | cons e l ih =>
    have he := h e List.mem_cons_self
    rw [insertEntry, if_neg (String.lt_asymm he), if_pos he,
      ih fun e' he' => h e' (List.mem_cons_of_mem e he'), List.cons_append]

/-- Entries that follow in order are put behind the others. -/
lemma entries_insertAll {d : Dict α} {l : List (String × α)}
    (h : (d.entries ++ l).Pairwise fun a b => a.1 < b.1) :
    (d.insertAll l).entries = d.entries ++ l := by
  induction l generalizing d with
  | nil => exact (List.append_nil d.entries).symm
  | cons e l ih =>
    have hlast : ∀ e' ∈ d.entries, e'.1 < e.1 := fun e' he' =>
      (List.pairwise_append.1 h).2.2 e' he' e List.mem_cons_self
    have hinsert : (d.insert e.1 e.2).entries = d.entries ++ [e] := insertEntry_of_lt hlast
    have hstep : (d.insert e.1 e.2).entries ++ l = d.entries ++ e :: l := by simp [hinsert]
    rw [insertAll, List.foldl_cons, ← insertAll, ih (hstep ▸ h), hstep]

lemma eq_of_entries {d d' : Dict α} (h : d.entries = d'.entries) : d = d' := by
  cases d
  cases d'
  cases h
  rfl

/-- A dictionary is made of its entries. -/
lemma insertAll_entries (d : Dict α) : empty.insertAll d.entries = d :=
  eq_of_entries (entries_insertAll d.ascending)

@[simp] lemma ofList_entries (d : Dict α) : ofList d.entries = d := d.insertAll_entries

lemma entries_ofList (l : List (String × α)) :
    (ofList l).entries = l.foldl (fun entries e => insertEntry e.1 e.2 entries) [] :=
  (List.foldl_hom entries fun _ _ => rfl).symm

/-! ### Keys -/

/-- What is removed under a key is missed under this key alone. -/
lemma lookup_filter_key {κ β : Type} [BEq κ] [LawfulBEq κ] [DecidableEq κ] (k k' : κ)
    (l : List (κ × β)) :
    (l.filter fun e => e.1 != k).lookup k' = if k' = k then none else l.lookup k' := by
  induction l with
  | nil => simp
  | cons e l ih =>
    by_cases he : e.1 = k
    · rw [List.filter_cons_of_neg (by simpa using he), ih]
      split
      · rfl
      · rw [List.lookup_cons, beq_false_of_ne (he ▸ ‹¬ k' = k›)]
    · rw [List.filter_cons_of_pos (by simpa using he), List.lookup_cons, List.lookup_cons, ih]
      by_cases hk : k' = e.1
      · have hne : ¬ k' = k := fun h => he (hk.symm.trans h)
        rw [beq_iff_eq.2 hk]
        exact (if_neg hne).symm
      · rw [beq_false_of_ne hk]

@[simp] lemma get?_erase (d : Dict α) (k k' : String) :
    (d.erase k).get? k' = if k' = k then none else d.get? k' :=
  lookup_filter_key k k' d.entries

lemma mem_map_fst_iff {k : String} {l : List (String × α)} :
    k ∈ l.map (·.1) ↔ ∃ v, l.lookup k = some v := by
  induction l with
  | nil => simp
  | cons e l ih =>
    rw [List.map_cons, List.mem_cons, ih, lookup_cons_eq]
    by_cases hk : k = e.1 <;> simp [hk]

lemma mem_keys_iff {d : Dict α} {k : String} : k ∈ d.keys ↔ ∃ v, d.get? k = some v :=
  mem_map_fst_iff

lemma contains_iff {d : Dict α} {k : String} : d.contains k = true ↔ ∃ v, d.get? k = some v :=
  Option.isSome_iff_exists

/-- The keys are in order, so that no key is there twice. -/
lemma pairwise_keys (d : Dict α) : d.keys.Pairwise (· < ·) := List.pairwise_map.2 d.ascending

lemma length_keys (d : Dict α) : d.keys.length = d.size := List.length_map ..

end FrameGraph.Dict
