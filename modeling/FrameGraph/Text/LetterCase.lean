import FrameGraph.Text.LowerTable
import FrameGraph.Text.Ranges

/-!
# Upper and lower case

Two notions of case are in use. Names of formats, switches and settings are compared with the
ASCII letters alone folded. Keys of loaded documents are lower-cased with all of Unicode, where a
capital sigma becomes a final sigma at the end of a word and the dotted capital I becomes two
characters.
-/

namespace FrameGraph.Text

/-! ### ASCII -/

/-- Lower-case the ASCII letters and keep every other character. -/
def asciiLower (s : String) : String := String.ofList (s.toList.map Char.toLower)

/-- Upper-case the ASCII letters and keep every other character. -/
def asciiUpper (s : String) : String := String.ofList (s.toList.map Char.toUpper)

/-! ### Unicode -/

/-- The lower-case partner of a character that has exactly one. -/
def lowerChar (c : Char) : Char :=
  if c.toNat < 0x80 then c.toLower
  else match lowerRuns.find? (·.contains c.toNat) with
    | some r => Char.ofNat (c.toNat + r.shift).toNat
    | none => c

/-- Whether the next character that is not skipped has a case. -/
def facesCased (cs : List Char) : Bool :=
  match cs.dropWhile (inRanges caseIgnorableRanges) with
  | [] => false
  | c :: _ => inRanges casedRanges c

/-- Lower-case `rest`; `before` holds the characters already passed, nearest first. -/
def lowerFrom (before : List Char) : List Char → List Char
  | [] => []
  | c :: rest =>
    let here :=
      if c == 'Σ' then [if facesCased before && !facesCased rest then 'ς' else 'σ']
      else if c == 'İ' then ['i', '\u0307']
      else [lowerChar c]
    here ++ lowerFrom (c :: before) rest

/-- A text in lower case, by the rules of Unicode that do not depend on a language. -/
def lower (s : String) : String := String.ofList (lowerFrom [] s.toList)

end FrameGraph.Text
