import FrameGraph.Pipeline.Config
import FrameGraph.Proofs.Text.Splitting

/-!
# Endpoints of connections

An endpoint names a block and a label. The first dot divides them, so that no block has a dot in its
name, while a label may have any number of them. A label that is left out, with its dot or without,
is the usual one. Among all spellings of an endpoint the one that is printed is the one in which
nothing is left out.
-/

namespace FrameGraph.Connection

/-! ### Spellings -/

/-- `Spells usual e block label` if the text `e` is a spelling of the endpoint at that block with
that label, where the usual label need not be written. -/
inductive Spells (usual : String) : String → String → String → Prop
  | whole {block label} (hblock : '.' ∉ block.toList) (hlabel : label ≠ "") :
    Spells usual (block ++ "." ++ label) block label
  | dotted {block} (hblock : '.' ∉ block.toList) : Spells usual (block ++ ".") block usual
  | bare {block} (hblock : '.' ∉ block.toList) : Spells usual block block usual

/-- The endpoints of the connection have names: no block with a dot and no empty label. -/
structure IsNamed (c : Connection) : Prop where
  source : '.' ∉ c.source.toList
  sourceOutput : c.sourceOutput ≠ ""
  sink : '.' ∉ c.sink.toList
  sinkInput : c.sinkInput ≠ ""

variable {e s t usual block label : String} {c : Connection}

lemma Spells.named (h : Spells usual e block label) (husual : usual ≠ "") :
    '.' ∉ block.toList ∧ label ≠ "" := by
  cases h with
  | whole hblock hlabel => exact ⟨hblock, hlabel⟩
  | dotted hblock => exact ⟨hblock, husual⟩
  | bare hblock => exact ⟨hblock, husual⟩

/-! ### Reading -/

lemma splitEndpoint_of_dot {before behind : List Char} (hblock : '.' ∉ before)
    (he : e.toList = before ++ '.' :: behind) : splitEndpoint e usual =
      (String.ofList before, if behind.isEmpty then usual else String.ofList behind) := by
  rw [splitEndpoint, Text.splitOnce?_eq_some_iff.2 ⟨he, hblock⟩]

lemma splitEndpoint_of_no_dot (h : '.' ∉ e.toList) : splitEndpoint e usual = (e, usual) := by
  rw [splitEndpoint, Text.splitOnce?_eq_none_iff.2 h]

/-- An endpoint is read as the block and the label that it spells. -/
theorem splitEndpoint_eq_iff :
    splitEndpoint e usual = (block, label) ↔ Spells usual e block label := by
  constructor
  · intro h
    cases hcut : Text.splitOnce? '.' e.toList with
    | none =>
      have hdot := Text.splitOnce?_eq_none_iff.1 hcut
      rw [splitEndpoint_of_no_dot hdot] at h
      cases h
      exact .bare hdot
    | some pieces =>
      obtain ⟨before, behind⟩ := pieces
      obtain ⟨he, hdot⟩ := Text.splitOnce?_eq_some_iff.1 hcut
      have htext : e = String.ofList before ++ "." ++ String.ofList behind := by
        rw [← String.toList_inj, he]
        simp
      have hblock : '.' ∉ (String.ofList before).toList := by rwa [String.toList_ofList]
      rw [splitEndpoint_of_dot hdot he] at h
      obtain ⟨rfl, rfl⟩ := Prod.mk.inj h
      cases behind with
      | nil => simpa [htext] using Spells.dotted hblock
      | cons d behind => exact htext ▸ .whole hblock (by simp)
  · intro h
    cases h with
    | whole hblock hlabel =>
      have he : (block ++ "." ++ label).toList = block.toList ++ '.' :: label.toList := by simp
      rw [splitEndpoint_of_dot hblock he]
      simp [hlabel]
    | dotted hblock =>
      have he : (block ++ ".").toList = block.toList ++ '.' :: [] := by simp
      rw [splitEndpoint_of_dot hblock he]
      simp
    | bare hblock => exact splitEndpoint_of_no_dot hblock

/-- Two texts are read as a connection exactly if they spell its endpoints. -/
theorem parse_eq_iff : parse s t = c ↔
    Spells defaultOutput s c.source c.sourceOutput ∧ Spells defaultInput t c.sink c.sinkInput := by
  rw [← splitEndpoint_eq_iff, ← splitEndpoint_eq_iff, Prod.ext_iff, Prod.ext_iff, and_assoc]
  cases c
  exact Connection.mk.injEq .. ▸ Iff.rfl

lemma isNamed_parse (s t : String) : (parse s t).IsNamed := by
  obtain ⟨hsource, hsink⟩ := parse_eq_iff.1 (rfl : parse s t = _)
  obtain ⟨hsource, houtput⟩ := hsource.named (by decide)
  obtain ⟨hsink, hinput⟩ := hsink.named (by decide)
  exact ⟨hsource, houtput, hsink, hinput⟩

lemma IsNamed.parse_endpoints (h : c.IsNamed) : parse c.sourceEndpoint c.sinkEndpoint = c :=
  parse_eq_iff.2 ⟨.whole h.source h.sourceOutput, .whole h.sink h.sinkInput⟩

/-- Whatever is read has names, and is read again from its printed endpoints. The connections that
come back from their printed endpoints are the ones with names, dots in labels or not. The whole
connection is printed as its two endpoints. -/
theorem endpoints_normal :
    (∀ s t, (parse s t).IsNamed ∧
      parse (parse s t).sourceEndpoint (parse s t).sinkEndpoint = parse s t) ∧
    (∀ c, parse c.sourceEndpoint c.sinkEndpoint = c ↔ c.IsNamed) ∧
    ∀ c : Connection, c.display = c.sourceEndpoint ++ " -> " ++ c.sinkEndpoint := by
  refine ⟨fun s t => ?_, fun c => ⟨fun h => ?_, IsNamed.parse_endpoints⟩, fun c => rfl⟩
  · have hnamed := isNamed_parse s t
    exact ⟨hnamed, hnamed.parse_endpoints⟩
  · rw [← h]
    exact isNamed_parse _ _

/-- An endpoint of dots alone belongs to a block without a name, and all dots but the first one are
its label. -/
example : parse "..." "a.b.c" = ⟨"", "..", "a", "b.c"⟩ := by decide

end FrameGraph.Connection
