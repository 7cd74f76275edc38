import FrameGraph.Text.LetterCase
import Mathlib.Tactic.Common

/-!
# Texts in lower case

A text in lower case stays as it is when it is lower-cased again, with all of Unicode or with the
ASCII letters alone. The reason is that no lower-case partner is a capital letter itself. And the
ASCII letters can be folded first: they count the same for the form of a sigma in both cases.
-/

namespace FrameGraph.Text

/-! ### Stretches of capital letters -/

namespace LowerRun

variable {r q : LowerRun} {n : Nat}

/-- The code point of the partner. -/
def partner (r : LowerRun) (n : Nat) : Nat := (n + r.shift).toNat

/-- No partner of a letter in one stretch is a letter in the other: the partners lie before or
behind it, or between its letters, of which every second code point is one. -/
def avoids (r q : LowerRun) : Bool :=
  Nat.blt (r.partner r.last) q.first || Nat.blt q.last (r.partner r.first) ||
    (Nat.beq r.step 2 || Nat.beq r.first r.last) && Nat.beq q.step 2 &&
      Nat.beq ((r.partner r.first + q.first) % 2) 1

/-- The partners are characters, and none of them is an ASCII capital. -/
def Proper (r : LowerRun) : Prop :=
  'Z'.toNat < r.partner r.first ∧
    (r.partner r.last < 0xd800 ∨ 0xdfff < r.partner r.first ∧ r.partner r.last < 0x110000)

instance : Decidable r.Proper :=
  inferInstanceAs (Decidable ('Z'.toNat < r.partner r.first ∧
    (r.partner r.last < 0xd800 ∨ 0xdfff < r.partner r.first ∧ r.partner r.last < 0x110000)))

lemma contains_iff : r.contains n ↔ (r.first ≤ n ∧ n ≤ r.last) ∧ (n - r.first) % r.step = 0 := by
  simp [contains]

/-- The partners keep their order. -/
lemma partner_mem (h : r.Proper) (hn : r.contains n) :
    r.partner r.first ≤ r.partner n ∧ r.partner n ≤ r.partner r.last ∧
      r.partner n - r.partner r.first = n - r.first := by
  have hfirst : 0 < r.partner r.first := Nat.zero_lt_of_lt h.1
  obtain ⟨⟨hle, hge⟩, -⟩ := contains_iff.1 hn
  unfold partner at *
  omega

lemma not_contains_partner (h : r.Proper) (havoids : r.avoids q) (hn : r.contains n) :
    q.contains (r.partner n) = false := by
  obtain ⟨hfirst, hlast, hdist⟩ := partner_mem h hn
  obtain ⟨⟨hle, hge⟩, hstep⟩ := contains_iff.1 hn
  rw [← Bool.not_eq_true, contains_iff]
  rintro ⟨⟨hqle, hqge⟩, hqstep⟩
  simp only [avoids, Bool.or_eq_true, Bool.and_eq_true, Nat.blt_eq, Nat.beq_eq] at havoids
  rcases havoids with (hbefore | hbehind) | ⟨⟨hr, hq⟩, hodd⟩
  · omega
  · omega
  · rw [hq] at hqstep
    rcases hr with hr | hone
    · rw [hr] at hstep
      omega
    · omega

end LowerRun

lemma proper_lowerRuns : ∀ r ∈ lowerRuns, r.Proper := by decide +kernel

/-- No partner of a capital letter is one itself. -/
lemma lowerRuns_avoid : ∀ r ∈ lowerRuns, ∀ q ∈ lowerRuns, r.avoids q := by
  have hall : (lowerRuns.all fun r => lowerRuns.all r.avoids) = true := by decide +kernel
  simpa only [List.all_eq_true] using hall

/-- The dotted capital I is no partner either. -/
lemma lowerRuns_avoid_dotted : ∀ r ∈ lowerRuns, r.avoids ⟨'İ'.toNat, 'İ'.toNat, 1, 0⟩ := by
  decide +kernel

/-! ### Characters -/

/-- Lower-casing keeps this character wherever it stands. -/
structure Settled (c : Char) : Prop where
  lowerChar : lowerChar c = c
  not_sigma : c ≠ 'Σ'
  not_dotted : c ≠ 'İ'

variable {c : Char}

/-- What holds of every ASCII character is found out by looking at all of them. -/
lemma of_ascii {P : Char → Prop} (h : ∀ n < 0x80, P (Char.ofNat n)) (hc : c.toNat < 0x80) : P c :=
  Char.ofNat_toNat c ▸ h c.toNat hc

lemma toLower_of_not_ascii (hc : ¬ c.toNat < 0x80) : c.toLower = c := by
  have hle : ¬ c.val ≤ 'Z'.val := by
    rw [UInt32.le_iff_toNat_le]
    show ¬ c.toNat ≤ 90
    omega
  exact dif_neg fun h => hle h.2

lemma toNat_ofNat {n : Nat} (h : n.isValidChar) : (Char.ofNat n).toNat = n := by
  rw [Char.ofNat, dif_pos h]
  rfl

lemma settled_of_not_ascii (hascii : ¬ c.toNat < 0x80)
    (hruns : ∀ r ∈ lowerRuns, r.contains c.toNat = false) (hdotted : c ≠ 'İ') : Settled c where
  lowerChar := by
    rw [lowerChar, if_neg hascii, List.find?_eq_none.2 fun r hr => by simp [hruns r hr]]
  not_sigma := by
    rintro rfl
    have hsigma : ∃ r ∈ lowerRuns, r.contains 'Σ'.toNat := by decide +kernel
    obtain ⟨r, hr, hcontains⟩ := hsigma
    exact Bool.eq_false_iff.1 (hruns r hr) hcontains
  not_dotted := hdotted

lemma settled_toLower (hascii : c.toNat < 0x80) : Settled c.toLower := by
  obtain ⟨h, hsigma, hdotted⟩ := of_ascii (P := fun c => lowerChar c.toLower = c.toLower ∧
    c.toLower ≠ 'Σ' ∧ c.toLower ≠ 'İ') (by decide) hascii
  exact ⟨h, hsigma, hdotted⟩

/-- The partner of a capital letter is settled. -/
lemma settled_partner {r : LowerRun} (hr : r ∈ lowerRuns) {n : Nat} (hn : r.contains n) :
    Settled (Char.ofNat (r.partner n)) := by
  have hproper := proper_lowerRuns r hr
  obtain ⟨hfirst, hlast, -⟩ := r.partner_mem hproper hn
  have hletter := Nat.lt_of_lt_of_le hproper.1 hfirst
  have hvalid : (r.partner n).isValidChar := by
    rcases hproper.2 with hlow | ⟨hhigh, hmax⟩
    · exact .inl (Nat.lt_of_le_of_lt hlast hlow)
    · exact .inr ⟨Nat.lt_of_lt_of_le hhigh hfirst, Nat.lt_of_le_of_lt hlast hmax⟩
  have hchar := toNat_ofNat hvalid
  have havoids {q : LowerRun} (hq : r.avoids q) :
      q.contains (Char.ofNat (r.partner n)).toNat = false :=
    hchar.symm ▸ r.not_contains_partner hproper hq hn
  by_cases hascii : (Char.ofNat (r.partner n)).toNat < 0x80
  · have hlower := of_ascii (P := fun c => 'Z'.toNat < c.toNat → c.toLower = c) (by decide) hascii
      (hchar.symm ▸ hletter)
    exact hlower ▸ settled_toLower hascii
  · refine settled_of_not_ascii hascii (fun q hq => havoids (lowerRuns_avoid r hr q hq)) ?_
    intro hdotted
    have hcontains := havoids (lowerRuns_avoid_dotted r hr)
    rw [hdotted] at hcontains
    exact absurd hcontains (by decide)

lemma settled_lowerChar (hdotted : c ≠ 'İ') : Settled (lowerChar c) := by
  by_cases hascii : c.toNat < 0x80
  · rw [lowerChar, if_pos hascii]
    exact settled_toLower hascii
  · cases hrun : lowerRuns.find? (·.contains c.toNat) with
    | some r =>
      rw [lowerChar, if_neg hascii, hrun]
      have hcontains := List.find?_some hrun
      exact settled_partner (List.mem_of_find?_eq_some hrun) hcontains
    | none =>
      rw [lowerChar, if_neg hascii, hrun]
      exact settled_of_not_ascii hascii
        (fun r hr => Bool.eq_false_iff.2 (List.find?_eq_none.1 hrun r hr)) hdotted

lemma Settled.toLower (h : Settled c) : c.toLower = c := by
  by_cases hascii : c.toNat < 0x80
  · simpa [Text.lowerChar, hascii] using h.lowerChar
  · exact toLower_of_not_ascii hascii

lemma lowerChar_toLower (c : Char) : lowerChar c.toLower = lowerChar c := by
  by_cases hascii : c.toNat < 0x80
  · rw [(settled_toLower hascii).lowerChar, lowerChar, if_pos hascii]
  · rw [toLower_of_not_ascii hascii]

/-! ### Texts -/

/-- What is put for a character, given what stands before and behind it. -/
lemma lowerFrom_cons (before rest : List Char) (c : Char) : lowerFrom before (c :: rest) =
    (if c == 'Σ' then [if facesCased before && !facesCased rest then 'ς' else 'σ']
      else if c == 'İ' then ['i', '\u0307'] else [lowerChar c]) ++ lowerFrom (c :: before) rest :=
  rfl

lemma lowerFrom_of_settled {before cs : List Char} (h : ∀ c ∈ cs, Settled c) :
    lowerFrom before cs = cs := by
  induction cs generalizing before with
  | nil => rfl
  | cons c cs ih =>
    have hc := h c List.mem_cons_self
    rw [lowerFrom_cons, ih fun c' hc' => h c' (List.mem_cons_of_mem c hc'),
      if_neg (by simpa using hc.not_sigma), if_neg (by simpa using hc.not_dotted), hc.lowerChar,
      List.singleton_append]

lemma settled_of_free (hascii : ¬ c.toNat < 0x80)
    (hfree : (lowerRuns.all fun r => !r.contains c.toNat) = true) (hdotted : c ≠ 'İ') : Settled c :=
  settled_of_not_ascii hascii (fun r hr => by simpa using List.all_eq_true.1 hfree r hr) hdotted

lemma settled_lowerFrom {before cs : List Char} : ∀ c ∈ lowerFrom before cs, Settled c := by
  induction cs generalizing before with
  | nil => simp [lowerFrom]
  | cons c cs ih =>
    intro c' hc'
    rw [lowerFrom_cons] at hc'
    rcases List.mem_append.1 hc' with hhere | hrest
    · split at hhere
      · rw [List.mem_singleton.1 hhere]
        split
        · exact settled_of_free (by decide) (by decide +kernel) (by decide)
        · exact settled_of_free (by decide) (by decide +kernel) (by decide)
      · split at hhere
        · rcases List.mem_cons.1 hhere with rfl | hdot
          · exact settled_toLower (c := 'i') (by decide)
          · rw [List.mem_singleton.1 hdot]
            exact settled_of_free (by decide) (by decide +kernel) (by decide)
        · rename_i hdotted
          rw [List.mem_singleton.1 hhere]
          exact settled_lowerChar (by simpa using hdotted)
    · exact ih c' hrest

lemma settled_lower (s : String) : ∀ c ∈ (lower s).toList, Settled c := by
  rw [lower, String.toList_ofList]
  exact settled_lowerFrom

lemma lower_of_settled {s : String} (h : ∀ c ∈ s.toList, Settled c) : lower s = s := by
  rw [lower, lowerFrom_of_settled h, String.ofList_toList]

/-- Lower-casing is done once and for all. -/
@[simp] theorem lower_lower (s : String) : lower (lower s) = lower s :=
  lower_of_settled (settled_lower s)

/-- A text in lower case has no ASCII capitals. -/
@[simp] theorem asciiLower_lower (s : String) : asciiLower (lower s) = lower s := by
  rw [asciiLower, List.map_congr_left fun c hc => (settled_lower s c hc).toLower, List.map_id',
    String.ofList_toList]

/-- The code point of an ASCII letter. -/
def IsLetter (n : Nat) : Prop := 0x41 ≤ n ∧ n ≤ 0x5a ∨ 0x61 ≤ n ∧ n ≤ 0x7a

instance (n : Nat) : Decidable (IsLetter n) :=
  inferInstanceAs (Decidable (0x41 ≤ n ∧ n ≤ 0x5a ∨ 0x61 ≤ n ∧ n ≤ 0x7a))

lemma not_ignorable (h : IsLetter c.toNat) : inRanges caseIgnorableRanges c = false := by
  have hranges : ∀ r ∈ caseIgnorableRanges,
      r.2 < 0x41 ∨ 0x5a < r.1 ∧ r.2 < 0x61 ∨ 0x7a < r.1 := by decide +kernel
  rw [inRanges, List.any_eq_false]
  intro r hr hin
  simp only [Bool.and_eq_true, decide_eq_true_eq] at hin
  have hrange := hranges r hr
  unfold IsLetter at h
  omega

lemma cased (h : IsLetter c.toNat) : inRanges casedRanges c = true :=
  List.any_eq_true.2 <| by
    simp only [Bool.and_eq_true, decide_eq_true_eq]
    rcases h with hcapital | hsmall
    · exact ⟨(0x41, 0x5a), .head _, hcapital⟩
    · exact ⟨(0x61, 0x7a), .tail _ (.head _), hsmall⟩

/-- Both forms of an ASCII letter have a case, and neither is skipped. -/
lemma inRanges_toLower (c : Char) :
    inRanges caseIgnorableRanges c.toLower = inRanges caseIgnorableRanges c ∧
      inRanges casedRanges c.toLower = inRanges casedRanges c := by
  by_cases hascii : c.toNat < 0x80
  · obtain hsame | ⟨hletter, hlower⟩ := of_ascii (P := fun c => c.toLower = c ∨
      IsLetter c.toNat ∧ IsLetter c.toLower.toNat) (by decide) hascii
    · rw [hsame]
      exact ⟨rfl, rfl⟩
    · rw [not_ignorable hletter, not_ignorable hlower, cased hletter, cased hlower]
      exact ⟨rfl, rfl⟩
  · rw [toLower_of_not_ascii hascii]
    exact ⟨rfl, rfl⟩

lemma facesCased_map (cs : List Char) : facesCased (cs.map Char.toLower) = facesCased cs := by
  have hskip : (inRanges caseIgnorableRanges ∘ Char.toLower) = inRanges caseIgnorableRanges :=
    funext fun c => (inRanges_toLower c).1
  rw [facesCased, facesCased, List.dropWhile_map, hskip]
  cases cs.dropWhile (inRanges caseIgnorableRanges) with
  | nil => rfl
  | cons c rest => exact (inRanges_toLower c).2

lemma lowerFrom_map (before cs : List Char) :
    lowerFrom (before.map Char.toLower) (cs.map Char.toLower) = lowerFrom before cs := by
  induction cs generalizing before with
  | nil => rfl
  | cons c cs ih =>
    have hspecial {d : Char} (hd : ∀ n < 0x80, (Char.ofNat n).toLower ≠ d ∧ Char.ofNat n ≠ d) :
        (c.toLower == d) = (c == d) := by
      by_cases hascii : c.toNat < 0x80
      · obtain ⟨hlower, hsame⟩ := of_ascii (P := fun c => c.toLower ≠ d ∧ c ≠ d) hd hascii
        rw [beq_false_of_ne hlower, beq_false_of_ne hsame]
      · rw [toLower_of_not_ascii hascii]
    rw [List.map_cons, lowerFrom_cons, lowerFrom_cons, ← List.map_cons, ih, facesCased_map,
      facesCased_map, lowerChar_toLower, hspecial (by decide), hspecial (by decide)]

/-- The ASCII letters can be folded first. -/
@[simp] theorem lower_asciiLower (s : String) : lower (asciiLower s) = lower s := by
  rw [lower, asciiLower, String.toList_ofList, lower]
  exact congrArg String.ofList (lowerFrom_map [] s.toList)

end FrameGraph.Text
