import FrameGraph.Error
import FrameGraph.Text.Blank
import FrameGraph.Text.LetterCase

/-!
# Kinds of test pictures
-/

namespace FrameGraph

/-- What a test picture shows. -/
inductive PatternKind
  | solid
  | bars
  | checkerboard
  | gradient
  | movingBox
  | noise
  deriving DecidableEq, Repr

namespace PatternKind

def words : List (String × PatternKind) :=
  [("solid", .solid), ("bars", .bars), ("checkerboard", .checkerboard), ("gradient", .gradient),
   ("moving_box", .movingBox), ("noise", .noise)]

def name : PatternKind → String
  | .solid => "Solid"
  | .bars => "Bars"
  | .checkerboard => "Checkerboard"
  | .gradient => "Gradient"
  | .movingBox => "MovingBox"
  | .noise => "Noise"

/-- Read a kind; blanks around the word and the case of its letters do not matter. -/
def read (s : String) : Except Error PatternKind :=
  let word := Text.asciiLower (Text.trim s)
  match words.lookup word with
  | some k => .ok k
  | none => .error (.invalidParameter "pattern" s!"unknown pattern '{word}'")

end PatternKind

end FrameGraph
