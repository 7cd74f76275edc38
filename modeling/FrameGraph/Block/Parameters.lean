import FrameGraph.Decimal.Float
import FrameGraph.Dict
import FrameGraph.Error
import FrameGraph.Text.Blank
import FrameGraph.Text.LetterCase

/-!
# Parameters

The parameters of a block are texts under names. A block reads them when it is configured, each in
the sense that it needs; a parameter that is missing or blank keeps its usual value.
-/

namespace FrameGraph

abbrev Params := Dict String

namespace Params

/-- The text of a parameter, empty when it is missing. -/
def text (p : Params) (key : String) : String := (p.get? key).getD ""

/-- The text of a parameter that is neither missing nor blank. -/
def nonBlank? (p : Params) (key : String) : Option String :=
  (p.get? key).filter fun v => !Text.isAllBlank v

def extend (p q : Params) : Params := p.insertAll q.entries

/-! ### Reading -/

/-- Read a parameter; the reader sees the text without the blanks around it. -/
def read {α : Type} (p : Params) (key : String) (reader : String → Except String α) :
    Except Error (Option α) :=
  match p.nonBlank? key with
  | none => .ok none
  | some raw =>
    match reader (Text.trim raw) with
    | .ok a => .ok (some a)
    | .error reason => .error (.invalidParameter key s!"'{raw}': {reason}")

def switchWords : List (String × Bool) :=
  [("true", true), ("1", true), ("yes", true), ("on", true),
   ("false", false), ("0", false), ("no", false), ("off", false)]

def readBool (p : Params) (key : String) : Except Error (Option Bool) :=
  match p.nonBlank? key with
  | none => .ok none
  | some raw =>
    match switchWords.lookup (Text.asciiLower (Text.trim raw)) with
    | some b => .ok (some b)
    | none => .error (.invalidParameter key s!"'{raw}' is not a boolean")

/-! ### Readers -/

def natUpTo (limit : Nat) (s : String) : Except String Nat :=
  (Decimal.readNat limit s).mapError Decimal.NumberFault.message

def word32 (s : String) : Except String UInt32 := (natUpTo (0xffffffff) s).map UInt32.ofNat

def word64 (s : String) : Except String Nat := natUpTo (0xffffffffffffffff) s

def intUpTo (limit : Nat) (s : String) : Except String Int :=
  (Decimal.readInt limit s).mapError Decimal.NumberFault.message

def float (s : String) : Except String Float :=
  (Decimal.readFloat s).mapError Decimal.NumberFault.message

/-- Read the code of a floating-point number. -/
def floatBits (s : String) : Except String UInt64 :=
  (Decimal.readFloatBits s).mapError Decimal.NumberFault.message

def worded {α : Type} (reader : String → Except Error α) (s : String) : Except String α :=
  (reader s).mapError Error.message

end Params

end FrameGraph
