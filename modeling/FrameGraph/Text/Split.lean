/-!
# Splitting

A text is cut at every occurrence of a separator, or at the first one only.
-/

namespace FrameGraph.Text

/-- The pieces between the separators; there is one piece more than separators. -/
def splitAll (sep : Char) : List Char → List (List Char)
  | [] => [[]]
  | c :: cs =>
    if c == sep then [] :: splitAll sep cs
    else match splitAll sep cs with
      | [] => [[c]]
      | piece :: rest => (c :: piece) :: rest

/-- The pieces before and after the first separator. -/
def splitOnce? (sep : Char) : List Char → Option (List Char × List Char)
  | [] => none
  | c :: cs =>
    if c == sep then some ([], cs)
    else (splitOnce? sep cs).map fun (a, b) => (c :: a, b)

end FrameGraph.Text
