import FrameGraph.Decimal.Integer
import Mathlib.Data.Nat.Digits.Defs
import Mathlib.Tactic.IntervalCases
import Mathlib.Tactic.Ring

/-!
# Decimal numerals

A numeral is a nonempty row of decimal digits, the most significant one first; zeros may stand at
its front. The readers of natural numbers accept a text exactly if it is a numeral, perhaps behind a
plus sign, whose number is in their range, although they give up at the first digit that leaves it.
-/

namespace FrameGraph.Decimal

/-- `Numeral cs n` if the characters are the decimal digits of `n`, perhaps behind zeros. -/
def Numeral (cs : List Char) (n : Nat) : Prop :=
  ∃ ds : List Nat, ds ≠ [] ∧ (∀ d ∈ ds, d < 10) ∧ cs = ds.map Nat.digitChar ∧
    n = Nat.ofDigits 10 ds.reverse

/-- `Denotes cs n` if a numeral for `n` stands there, perhaps behind a plus sign. -/
def Denotes (cs : List Char) (n : Nat) : Prop :=
  Numeral cs n ∨ ∃ ds, cs = '+' :: ds ∧ Numeral ds n

/-! ### Digits -/

lemma digitValue?_digitChar {d : Nat} (h : d < 10) : digitValue? d.digitChar = some d := by
  interval_cases d <;> rfl

lemma digitValue?_eq_some_iff {c : Char} {d : Nat} :
    digitValue? c = some d ↔ d < 10 ∧ c = d.digitChar := by
  constructor
  · intro h
    unfold digitValue? at h
    split at h
    case isTrue hc =>
      have hlow : 48 ≤ c.toNat := hc.1
      have hhigh : c.toNat ≤ 57 := hc.2
      have hd : c.toNat - 48 = d := Option.some.inj h
      have hten : d < 10 := by omega
      refine ⟨hten, ?_⟩
      rw [← Char.ofNat_toNat c, show c.toNat = d + 48 by omega]
      interval_cases d <;> rfl
    case isFalse => cases h
  · rintro ⟨h, rfl⟩
    exact digitValue?_digitChar h

lemma digitChar_ne_plus {d : Nat} (h : d < 10) : d.digitChar ≠ '+' := by
  interval_cases d <;> decide

/-! ### Reading -/

lemma ofDigits_reverse_cons (d : Nat) (ds : List Nat) :
    Nat.ofDigits 10 (d :: ds).reverse =
      d * 10 ^ ds.length + Nat.ofDigits 10 ds.reverse := by
  rw [List.reverse_cons, Nat.ofDigits_append, Nat.ofDigits_singleton, List.length_reverse]
  ring

/-- Each digit only makes the number larger, so that the range is left for good. -/
lemma readDigits_eq_ok_iff {limit : Nat} {beyond : NumberFault} {acc n : Nat} {cs : List Char}
    (hacc : acc ≤ limit) :
    readDigits limit beyond acc cs = .ok n ↔
      ∃ ds : List Nat, (∀ d ∈ ds, d < 10) ∧ cs = ds.map Nat.digitChar ∧
        n = acc * 10 ^ ds.length + Nat.ofDigits 10 ds.reverse ∧ n ≤ limit := by
  induction cs generalizing acc with
  | nil =>
    constructor
    · intro h
      cases h
      exact ⟨[], by simp, rfl, by simp, hacc⟩
    · rintro ⟨ds, -, hcs, rfl, -⟩
      obtain rfl : ds = [] := List.map_eq_nil_iff.1 hcs.symm
      simp [readDigits]
  | cons c cs ih =>
    have hnumber (d : Nat) (ds : List Nat) :
        acc * 10 ^ (d :: ds).length + Nat.ofDigits 10 (d :: ds).reverse =
          (acc * 10 + d) * 10 ^ ds.length + Nat.ofDigits 10 ds.reverse := by
      rw [ofDigits_reverse_cons, List.length_cons, pow_succ]
      ring
    constructor
    · intro h
      rw [readDigits] at h
      split at h
      · cases h
      · rename_i d hd
        obtain ⟨hten, rfl⟩ := digitValue?_eq_some_iff.1 hd
        split at h
        · obtain ⟨ds, hds, rfl, rfl, hn⟩ := (ih ‹_›).1 h
          exact ⟨d :: ds, List.forall_mem_cons.2 ⟨hten, hds⟩, rfl, (hnumber d ds).symm, hn⟩
        · cases h
    · rintro ⟨ds, hds, hcs, hnum, hn⟩
      cases ds with
      | nil => cases hcs
      | cons d ds =>
        obtain ⟨rfl, rfl⟩ := List.cons.inj hcs
        obtain ⟨hten, hds⟩ := List.forall_mem_cons.1 hds
        rw [hnumber] at hnum
        -- the limit is checked digit by digit, and no digit lowers the number
        have hstep : acc * 10 + d ≤ limit :=
          calc acc * 10 + d ≤ (acc * 10 + d) * 10 ^ ds.length :=
                Nat.le_mul_of_pos_right _ (Nat.pow_pos (by decide))
            _ ≤ n := hnum ▸ Nat.le_add_right _ _
            _ ≤ limit := hn
        rw [readDigits, digitValue?_digitChar hten]
        simp only [hstep, if_true]
        exact (ih hstep).2 ⟨ds, hds, rfl, hnum, hn⟩

lemma readMagnitude_eq_ok_iff {limit : Nat} {beyond : NumberFault} {cs : List Char} {n : Nat} :
    readMagnitude limit beyond cs = .ok n ↔ Numeral cs n ∧ n ≤ limit := by
  unfold readMagnitude
  cases cs with
  | nil => simp [Numeral]
  | cons c cs =>
    rw [List.isEmpty_cons, if_neg (by decide), readDigits_eq_ok_iff (Nat.zero_le _)]
    constructor
    · rintro ⟨ds, hds, hcs, hn, hlimit⟩
      have hne : ds ≠ [] := by
        rintro rfl
        cases hcs
      exact ⟨⟨ds, hne, hds, hcs, by simpa using hn⟩, hlimit⟩
    · rintro ⟨⟨ds, -, hds, hcs, hn⟩, hlimit⟩
      exact ⟨ds, hds, hcs, by simpa using hn, hlimit⟩

lemma not_numeral_plus {cs : List Char} {n : Nat} : ¬ Numeral ('+' :: cs) n := by
  rintro ⟨ds, -, hds, hcs, -⟩
  cases ds with
  | nil => cases hcs
  | cons d ds =>
    exact digitChar_ne_plus (hds d (List.mem_cons_self ..)) (List.cons.inj hcs).1.symm

/-- A reader accepts exactly the literals whose number is in its range. -/
theorem readNat_eq_ok_iff {limit n : Nat} {s : String} :
    readNat limit s = .ok n ↔ Denotes s.toList n ∧ n ≤ limit := by
  unfold readNat Denotes
  split
  case h_1 h => simp [h, Numeral]
  case h_2 cs h => simp [h, readMagnitude_eq_ok_iff, not_numeral_plus]
  case h_3 hplus =>
    have hsigned : ¬ ∃ ds, s.toList = '+' :: ds ∧ Numeral ds n := by
      rintro ⟨ds, hds, -⟩
      exact hplus ds hds
    rw [readMagnitude_eq_ok_iff, or_iff_left hsigned]

/-- The characters of a literal are decimal digits and plus signs. -/
lemma Denotes.mem {cs : List Char} {n : Nat} (h : Denotes cs n) {c : Char} (hc : c ∈ cs) :
    c = '+' ∨ ∃ d < 10, c = d.digitChar := by
  rcases h with ⟨ds, -, hds, rfl, -⟩ | ⟨_, rfl, ds, -, hds, rfl, -⟩
  · obtain ⟨d, hd, rfl⟩ := List.mem_map.1 hc
    exact .inr ⟨d, hds d hd, rfl⟩
  · rcases List.mem_cons.1 hc with rfl | hc
    · exact .inl rfl
    · obtain ⟨d, hd, rfl⟩ := List.mem_map.1 hc
      exact .inr ⟨d, hds d hd, rfl⟩

end FrameGraph.Decimal
