import FrameGraph.Pattern.Color
import FrameGraph.Proofs.Text.Numerals
import FrameGraph.Proofs.Text.Splitting

/-!
# The notations of colours

A colour is written as a number sign and three pairs of characters, or as three fields between two
commas, where a field is a decimal literal with blanks around it. The two notations exclude each
other, as no field starts with a number sign. What a pair may be is a parameter of the grammar: two
hexadecimal digits are meant, and the reader also takes a plus sign for the first of them.
-/

namespace FrameGraph

/-! ### Blanks -/

namespace Text

lemma mem_takeWhile_or_dropWhile {p : Char → Bool} {cs : List Char} {c : Char} (h : c ∈ cs) :
    p c = true ∨ c ∈ cs.dropWhile p := by
  rw [← List.takeWhile_append_dropWhile (p := p) (l := cs), List.mem_append] at h
  exact h.imp_left (List.all_eq_true.1 List.all_takeWhile c)

/-- Only blanks are taken off. -/
lemma isBlank_or_mem_trimChars {cs : List Char} {c : Char} (h : c ∈ cs) :
    isBlank c = true ∨ c ∈ trimChars cs := by
  rcases mem_takeWhile_or_dropWhile (p := isBlank) h with hblank | h
  · exact .inl hblank
  · exact (mem_takeWhile_or_dropWhile (List.mem_reverse.2 h)).imp_right List.mem_reverse.2

end Text

namespace Color

open Text Decimal

/-! ### The grammar -/

/-- A hexadecimal digit of value `v`, in either letter case. -/
def HexDigit (c : Char) (v : Nat) : Prop :=
  v < 16 ∧ (c = v.digitChar ∨ c = v.digitChar.toUpper)

/-- Two hexadecimal digits. -/
inductive HexPair : Char → Char → UInt8 → Prop
  | digits {a b : Char} {u v : Nat} (high : HexDigit a u) (low : HexDigit b v) :
      HexPair a b (UInt8.ofNat (u * 16 + v))

/-- Two hexadecimal digits, or a single one behind a plus sign. -/
inductive SignedPair : Char → Char → UInt8 → Prop
  | digits {a b : Char} {v : UInt8} (pair : HexPair a b v) : SignedPair a b v
  | plus {b : Char} {v : Nat} (low : HexDigit b v) : SignedPair '+' b (UInt8.ofNat v)

/-- A decimal literal of at most 255, with blanks around it. -/
def Field (cs : List Char) (v : UInt8) : Prop := Denotes (trimChars cs) v.toNat

/-- `Notates Pair cs c` if the characters write the colour `c`, where `Pair` tells how two
characters write a channel. -/
inductive Notates (Pair : Char → Char → UInt8 → Prop) : List Char → Color → Prop
  | hex {a b c d e f : Char} {red green blue : UInt8}
      (hred : Pair a b red) (hgreen : Pair c d green) (hblue : Pair e f blue) :
      Notates Pair ['#', a, b, c, d, e, f] ⟨red, green, blue⟩
  | decimal {xs ys zs : List Char} {red green blue : UInt8}
      (hred : Field xs red) (hgreen : Field ys green) (hblue : Field zs blue) :
      Notates Pair (xs ++ ',' :: ys ++ ',' :: zs) ⟨red, green, blue⟩

/-- Whether a number sign starts the text and a plus sign is behind it. -/
def HasSignedPair (cs : List Char) : Prop := ∃ hex, cs = '#' :: hex ∧ '+' ∈ hex

variable {Pair : Char → Char → UInt8 → Prop} {a b : Char} {v : UInt8} {cs : List Char} {c : Color}

/-! ### Pairs -/

lemma hexValue?_eq_some_iff {d : Char} {v : Nat} : hexValue? d = some v ↔ HexDigit d v := by
  constructor
  · intro h
    have hdigit (base w : Nat) (hd : d.toNat = base + w) : d = Char.ofNat (base + w) := by
      rw [← hd, Char.ofNat_toNat]
    unfold hexValue? at h
    split at h
    case isTrue hd =>
      have hlow : 48 ≤ d.toNat := hd.1
      have hhigh : d.toNat ≤ 57 := hd.2
      have hv : d.toNat - 48 = v := Option.some.inj h
      have hten : v < 10 := by omega
      refine ⟨by omega, .inl ?_⟩
      rw [hdigit 48 v (by omega)]
      interval_cases v <;> rfl
    case isFalse =>
      split at h
      case isTrue hd =>
        have hlow : 97 ≤ d.toNat := hd.1
        have hhigh : d.toNat ≤ 102 := hd.2
        have hv : d.toNat - 97 + 10 = v := Option.some.inj h
        have hten : 10 ≤ v := by omega
        have hsixteen : v < 16 := by omega
        refine ⟨hsixteen, .inl ?_⟩
        rw [hdigit 87 v (by omega)]
        interval_cases v <;> rfl
      case isFalse =>
        split at h
        case isTrue hd =>
          have hlow : 65 ≤ d.toNat := hd.1
          have hhigh : d.toNat ≤ 70 := hd.2
          have hv : d.toNat - 65 + 10 = v := Option.some.inj h
          have hten : 10 ≤ v := by omega
          have hsixteen : v < 16 := by omega
          refine ⟨hsixteen, .inr ?_⟩
          rw [hdigit 55 v (by omega)]
          interval_cases v <;> rfl
        case isFalse => cases h
  · rintro ⟨h, rfl | rfl⟩ <;> interval_cases v <;> rfl

lemma not_hexDigit_plus {v : Nat} : ¬ HexDigit '+' v := by
  rw [← hexValue?_eq_some_iff]
  intro h
  cases h

lemma hexChannel?_eq_some_iff : hexChannel? a b = some v ↔ SignedPair a b v := by
  unfold hexChannel?
  split
  case isTrue ha =>
    obtain rfl : a = '+' := beq_iff_eq.1 ha
    constructor
    · intro h
      obtain ⟨w, hw, rfl⟩ := Option.map_eq_some_iff.1 h
      exact .plus (hexValue?_eq_some_iff.1 hw)
    · rintro (⟨⟨high, -⟩⟩ | low)
      · exact absurd high not_hexDigit_plus
      · rw [hexValue?_eq_some_iff.2 low, Option.map_some]
  case isFalse ha =>
    constructor
    · intro h
      obtain ⟨u, hu, h⟩ := Option.bind_eq_some_iff.1 h
      obtain ⟨w, hw, h⟩ := Option.bind_eq_some_iff.1 h
      cases h
      exact .digits (.digits (hexValue?_eq_some_iff.1 hu) (hexValue?_eq_some_iff.1 hw))
    · rintro (⟨⟨high, low⟩⟩ | low)
      · rw [hexValue?_eq_some_iff.2 high, hexValue?_eq_some_iff.2 low]
        rfl
      · exact absurd (beq_self_eq_true '+') ha

/-- A pair has a plus sign in place of a digit only as its first character. -/
lemma SignedPair.hexPair_iff (h : SignedPair a b v) : HexPair a b v ↔ a ≠ '+' ∧ b ≠ '+' := by
  constructor
  · rintro ⟨high, low⟩
    constructor <;> rintro rfl
    · exact not_hexDigit_plus high
    · exact not_hexDigit_plus low
  · rintro ⟨ha, -⟩
    cases h with
    | digits pair => exact pair
    | plus low => exact absurd rfl ha

/-! ### Fields -/

lemma decimalChannel?_eq_some_iff : decimalChannel? cs = some v ↔ Field cs v := by
  have hread (n : Nat) : readNat 255 (String.ofList (trimChars cs)) = .ok n ↔
      Denotes (trimChars cs) n ∧ n ≤ 255 := by
    rw [readNat_eq_ok_iff, String.toList_ofList]
  unfold decimalChannel? Field
  constructor
  · intro h
    split at h
    · rename_i n hn
      obtain ⟨hliteral, hle⟩ := (hread n).1 hn
      cases h
      rwa [UInt8.toNat_ofNat_of_lt' (Nat.lt_succ_of_le hle)]
    · cases h
  · intro h
    rw [(hread v.toNat).2 ⟨h, Nat.le_of_lt_succ v.toNat_lt⟩]
    simp

/-- A field holds blanks, decimal digits and plus signs. -/
lemma Field.mem (h : Field cs v) {d : Char} (hd : d ∈ cs) :
    isBlank d = true ∨ d = '+' ∨ ∃ n < 10, d = n.digitChar :=
  (isBlank_or_mem_trimChars hd).imp_right (Denotes.mem h)

lemma Field.comma_notMem (h : Field cs v) : ',' ∉ cs := by
  intro hcomma
  rcases h.mem hcomma with hblank | hplus | ⟨n, hn, heq⟩
  · exact absurd hblank (by decide)
  · exact absurd hplus (by decide)
  · interval_cases n <;> exact absurd heq (by decide)

lemma Field.hash_notMem (h : Field cs v) : '#' ∉ cs := by
  intro hhash
  rcases h.mem hhash with hblank | hplus | ⟨n, hn, heq⟩
  · exact absurd hblank (by decide)
  · exact absurd hplus (by decide)
  · interval_cases n <;> exact absurd heq (by decide)

lemma splitAll_fields {xs ys zs : List Char} {red green blue : UInt8}
    (hred : Field xs red) (hgreen : Field ys green) (hblue : Field zs blue) :
    splitAll ',' (xs ++ ',' :: ys ++ ',' :: zs) = [xs, ys, zs] := by
  have hno : ∀ piece ∈ [xs, ys, zs], ',' ∉ piece := by
    simp [hred.comma_notMem, hgreen.comma_notMem, hblue.comma_notMem]
  simpa [List.intercalate] using splitAll_intercalate hno (List.cons_ne_nil _ _)

/-! ### Reading -/

/-- No field starts with a number sign, so that this decides between the notations. -/
lemma notates_hash_iff {hex : List Char} :
    Notates Pair ('#' :: hex) c ↔ ∃ a b d e f g, hex = [a, b, d, e, f, g] ∧
      Pair a b c.red ∧ Pair d e c.green ∧ Pair f g c.blue := by
  constructor
  · intro h
    generalize hcs : '#' :: hex = cs at h
    cases h with
    | hex hred hgreen hblue =>
      cases hcs
      exact ⟨_, _, _, _, _, _, rfl, hred, hgreen, hblue⟩
    | @decimal xs ys zs _ _ _ hred _ _ =>
      cases xs with
      | nil => cases hcs
      | cons x xs =>
        cases hcs
        exact absurd (List.mem_cons_self ..) hred.hash_notMem
  · rintro ⟨_, _, _, _, _, _, rfl, hred, hgreen, hblue⟩
    exact .hex hred hgreen hblue

lemma ofChars?_hash_iff {hex : List Char} :
    ofChars? ('#' :: hex) = some c ↔ Notates SignedPair ('#' :: hex) c := by
  rw [notates_hash_iff]
  constructor
  · intro h
    simp only [ofChars?] at h
    split at h
    · obtain ⟨red, hred, h⟩ := Option.bind_eq_some_iff.1 h
      obtain ⟨green, hgreen, h⟩ := Option.bind_eq_some_iff.1 h
      obtain ⟨blue, hblue, h⟩ := Option.bind_eq_some_iff.1 h
      cases h
      exact ⟨_, _, _, _, _, _, rfl, hexChannel?_eq_some_iff.1 hred,
        hexChannel?_eq_some_iff.1 hgreen, hexChannel?_eq_some_iff.1 hblue⟩
    · cases h
  · rintro ⟨_, _, _, _, _, _, rfl, hred, hgreen, hblue⟩
    simp only [ofChars?, hexChannel?_eq_some_iff.2 hred, hexChannel?_eq_some_iff.2 hgreen,
      hexChannel?_eq_some_iff.2 hblue]
    rfl

lemma ofChars?_decimal_iff (hhash : ∀ hex, cs ≠ '#' :: hex) :
    ofChars? cs = some c ↔ Notates SignedPair cs c := by
  unfold ofChars?
  split
  · exact absurd rfl (hhash _)
  constructor
  · intro h
    split at h
    · rename_i xs ys zs hpieces
      obtain ⟨red, hred, h⟩ := Option.bind_eq_some_iff.1 h
      obtain ⟨green, hgreen, h⟩ := Option.bind_eq_some_iff.1 h
      obtain ⟨blue, hblue, h⟩ := Option.bind_eq_some_iff.1 h
      cases h
      have hcs : cs = xs ++ ',' :: ys ++ ',' :: zs := by
        have hjoin : [','].intercalate (cs.splitOn ',') = cs := List.intercalate_splitOn ','
        rw [← hjoin, ← splitAll_eq_splitOn, hpieces]
        simp [List.intercalate]
      rw [hcs]
      exact .decimal (decimalChannel?_eq_some_iff.1 hred) (decimalChannel?_eq_some_iff.1 hgreen)
        (decimalChannel?_eq_some_iff.1 hblue)
    · cases h
  · intro h
    cases h with
    | hex => exact absurd rfl (hhash _)
    | decimal hred hgreen hblue =>
      rw [splitAll_fields hred hgreen hblue]
      simp only [decimalChannel?_eq_some_iff.2 hred, decimalChannel?_eq_some_iff.2 hgreen,
        decimalChannel?_eq_some_iff.2 hblue]
      rfl

lemma ofChars?_eq_some_iff : ofChars? cs = some c ↔ Notates SignedPair cs c := by
  by_cases hhash : ∃ hex, cs = '#' :: hex
  · obtain ⟨hex, rfl⟩ := hhash
    exact ofChars?_hash_iff
  · exact ofChars?_decimal_iff (not_exists.1 hhash)

/-- The two grammars differ in the pairs alone. -/
lemma Notates.hexPair_iff (h : Notates SignedPair cs c) :
    Notates HexPair cs c ↔ ¬ HasSignedPair cs := by
  by_cases hhash : ∃ hex, cs = '#' :: hex
  · obtain ⟨hex, rfl⟩ := hhash
    obtain ⟨a, b, d, e, f, g, rfl, hred, hgreen, hblue⟩ := notates_hash_iff.1 h
    have hpairs : Notates HexPair ['#', a, b, d, e, f, g] c ↔
        HexPair a b c.red ∧ HexPair d e c.green ∧ HexPair f g c.blue := by
      rw [notates_hash_iff]
      constructor
      · rintro ⟨_, _, _, _, _, _, heq, hpairs⟩
        cases heq
        exact hpairs
      · intro hpairs
        exact ⟨_, _, _, _, _, _, rfl, hpairs⟩
    rw [hpairs, hred.hexPair_iff, hgreen.hexPair_iff, hblue.hexPair_iff]
    simp [HasSignedPair, eq_comm, and_assoc]
  · have hsigned : ¬ HasSignedPair cs := fun ⟨digits, heq, _⟩ => hhash ⟨digits, heq⟩
    cases h with
    | hex => exact absurd ⟨_, rfl⟩ hhash
    | decimal hred hgreen hblue => exact iff_of_true (.decimal hred hgreen hblue) hsigned

/-- The reader takes exactly the texts of the grammar, in which a pair may have a sign, and names
any other text, with its blanks, in the refusal. Where it takes more than the grammar with plain
hexadecimal digits, a plus sign stands among the six characters. -/
theorem read_spec (s : String) :
    (∀ c, read s = .ok c ↔ Notates SignedPair (trimChars s.toList) c) ∧
    (∀ c, read s = .ok c →
      (Notates HexPair (trimChars s.toList) c ↔ ¬ HasSignedPair (trimChars s.toList))) ∧
    (∀ e, read s = .error e ↔ (∀ c, ¬ Notates SignedPair (trimChars s.toList) c) ∧
      e = .invalidParameter "color" s!"'{s}' is neither #rrggbb nor r,g,b") := by
  have hok (c : Color) : read s = .ok c ↔ Notates SignedPair (trimChars s.toList) c := by
    rw [← ofChars?_eq_some_iff, read]
    split <;> simp [*]
  refine ⟨hok, fun c h => ((hok c).1 h).hexPair_iff, fun e => ?_⟩
  simp only [← ofChars?_eq_some_iff]
  rw [read]
  split <;> simp [*, eq_comm]

/-- Three plus signs are taken for the first digits of the channels. -/
theorem not_hexPair_plusSigns :
    read "#+f+f+f" = .ok (gray 15) ∧
      ¬ ∃ c, Notates HexPair (trimChars "#+f+f+f".toList) c := by
  have hread : read "#+f+f+f" = .ok (gray 15) := by rfl
  refine ⟨hread, ?_⟩
  rintro ⟨c, h⟩
  obtain ⟨_, _, _, _, _, _, heq, hred, -⟩ := notates_hash_iff.1 h
  cases heq
  exact ((SignedPair.digits hred).hexPair_iff.1 hred).1 rfl

end Color

end FrameGraph
