import FrameGraph.Text.Split

/-!
# Paths

A path is a text whose parts are separated by slashes. Empty parts and single dots name nothing,
two dots name the directory above. `parent?` and `extension?` look at the text alone.
-/

namespace FrameGraph.Path

/-- The parts of a path without the empty ones. -/
def parts (path : String) : List String :=
  ((Text.splitAll '/' path.toList).filter fun p => !p.isEmpty).map String.ofList

def isAbsolute (path : String) : Bool := path.toList.head? == some '/'

def endsOpen (path : String) : Bool := path.toList.getLast? == some '/'

/-- Take slashes, and dots between slashes, off the end. The text is given from its end, and so is
the result; a dot that starts a path stays. -/
def trimEnd : List Char → List Char
  | '/' :: rest => if rest.isEmpty then ['/'] else trimEnd rest
  | '.' :: '/' :: rest => if rest.isEmpty then ['/'] else trimEnd rest
  | cs => cs

/-- The last part of a path that names something, and the text before it, both from their end. -/
def splitLast (path : String) : List Char × List Char :=
  let cs := trimEnd path.toList.reverse
  (cs.takeWhile (· != '/'), cs.dropWhile (· != '/'))

/-- The path of the directory that holds what a path names; the root is held by none. -/
def parent? (path : String) : Option String :=
  let (last, before) := splitLast path
  if last.isEmpty then none else some (String.ofList (trimEnd before).reverse)

/-- The text behind the last dot of a name. A name that has its only dot in front has none. -/
def extension? (path : String) : Option String :=
  let last := (splitLast path).1
  if last == ['.', '.'] || !last.contains '.' then none
  else
    let stem := (last.dropWhile (· != '.')).drop 1
    if stem.isEmpty then none else some (String.ofList (last.takeWhile (· != '.')).reverse)

end FrameGraph.Path
