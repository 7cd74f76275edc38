import FrameGraph.Block.Parameters
import FrameGraph.Proofs.Text.Numerals
import Mathlib.Data.List.Basic

/-!
# What parameters give

A parameter gives a value, or none if it is missing or blank. Otherwise its text, without the blanks
around it, must be written in the way that its reader expects: natural numbers as decimal numerals
in the range of their word, switches as one of eight words in any mixture of cases.
-/

namespace FrameGraph

namespace Params

variable {α : Type} {p : Params} {key s : String} {Reads : String → α → Prop}

/-- A parameter gives nothing if it is missing or blank, and otherwise what its text reads as. -/
inductive Gives (p : Params) (key : String) (Reads : String → α → Prop) : Option α → Prop
  | nothing (h : p.nonBlank? key = none) : Gives p key Reads none
  | value {raw : String} {a : α} (h : p.nonBlank? key = some raw) (ha : Reads (Text.trim raw) a) :
    Gives p key Reads (some a)

/-- Reading succeeds with what is given, provided that the reader knows how values are written. -/
lemma read_eq_ok_iff {reader : String → Except String α}
    (hreads : ∀ s a, reader s = .ok a ↔ Reads s a) {v : Option α} :
    p.read key reader = .ok v ↔ p.Gives key Reads v := by
  unfold read
  constructor
  · intro h
    split at h
    case h_1 hnone =>
      cases h
      exact .nothing hnone
    case h_2 raw hraw =>
      split at h
      case h_1 a ha =>
        cases h
        exact .value hraw ((hreads _ _).1 ha)
      case h_2 => cases h
  · intro h
    cases h with
    | nothing h => rw [h]
    | value h ha =>
      rw [h]
      simp only [(hreads _ _).2 ha]

/-! ### Words -/

/-- A decimal numeral for a 32-bit word. -/
def IsWord32 (s : String) (w : UInt32) : Prop := Decimal.Denotes s.toList w.toNat

/-- A decimal numeral for a 64-bit word. -/
def IsWord64 (s : String) (n : Nat) : Prop := Decimal.Denotes s.toList n ∧ n ≤ 0xffffffffffffffff

lemma mapError_eq_ok_iff {ε ε' : Type} {x : Except ε α} {f : ε → ε'} {a : α} :
    x.mapError f = .ok a ↔ x = .ok a := by
  cases x <;> simp [Except.mapError]

lemma natUpTo_eq_ok_iff {limit n : Nat} :
    natUpTo limit s = .ok n ↔ Decimal.Denotes s.toList n ∧ n ≤ limit := by
  rw [← Decimal.readNat_eq_ok_iff, natUpTo, mapError_eq_ok_iff]

lemma word32_eq_ok_iff {w : UInt32} : word32 s = .ok w ↔ IsWord32 s w := by
  have hlimit : w.toNat ≤ 0xffffffff := Nat.le_of_lt_succ w.toNat_lt
  constructor
  · intro h
    rw [word32] at h
    cases hn : natUpTo 0xffffffff s with
    | error e =>
      rw [hn] at h
      cases h
    | ok n =>
      rw [hn] at h
      cases h
      obtain ⟨hdenotes, hle⟩ := natUpTo_eq_ok_iff.1 hn
      rwa [IsWord32, UInt32.toNat_ofNat_of_lt' (Nat.lt_succ_of_le hle)]
  · intro h
    rw [word32, natUpTo_eq_ok_iff.2 ⟨h, hlimit⟩]
    simp [Except.map]

lemma word64_eq_ok_iff {n : Nat} : word64 s = .ok n ↔ IsWord64 s n := natUpTo_eq_ok_iff

/-! ### Switches -/

/-- One of the words for a switch, in any mixture of cases. -/
def IsSwitch (s : String) (b : Bool) : Prop := (Text.asciiLower s, b) ∈ switchWords

lemma lookup_eq_some_iff {κ β : Type} [DecidableEq κ] {l : List (κ × β)}
    (h : (l.map Prod.fst).Nodup) {k : κ} {b : β} : l.lookup k = some b ↔ (k, b) ∈ l := by
  induction l with
  | nil => simp
  | cons entry l ih =>
    obtain ⟨k', b'⟩ := entry
    obtain ⟨hk', hl⟩ := List.nodup_cons.1 h
    rw [List.lookup_cons, List.mem_cons, Prod.mk.injEq]
    by_cases hk : k = k'
    · subst hk
      have hrest : (k, b) ∉ l := fun hmem => hk' (List.mem_map.2 ⟨_, hmem, rfl⟩)
      simp [hrest, eq_comm]
    · have hne : (k == k') = false := beq_eq_false_iff_ne.2 hk
      rw [hne]
      simp [hk, ih hl]

lemma readBool_eq_ok_iff {v : Option Bool} :
    p.readBool key = .ok v ↔ p.Gives key IsSwitch v := by
  have hlookup (s : String) (b : Bool) :
      switchWords.lookup (Text.asciiLower s) = some b ↔ IsSwitch s b :=
    lookup_eq_some_iff (by decide)
  unfold readBool
  constructor
  · intro h
    split at h
    case h_1 hnone =>
      cases h
      exact .nothing hnone
    case h_2 raw hraw =>
      split at h
      case h_1 b hb =>
        cases h
        exact .value hraw ((hlookup _ _).1 hb)
      case h_2 => cases h
  · intro h
    cases h with
    | nothing h => rw [h]
    | value h hb =>
      rw [h]
      simp only [(hlookup _ _).2 hb]

end Params

end FrameGraph
