/-!
# JSON values

Numbers are integers, as long as they fit 64 bits, or doubles. The members of an object are in
ascending order of their keys, each key once.
-/

namespace FrameGraph

/-- A JSON value. -/
inductive Json
  | null
  | bool (b : Bool)
  | integer (n : Int)
  | double (x : Float)
  | string (s : String)
  | array (items : List Json)
  | object (members : List (String × Json))
  deriving Inhabited

namespace Json

def member? (j : Json) (key : String) : Option Json :=
  match j with
  | object members => members.lookup key
  | _ => none

/-- The members of an object, none for any other value. -/
def members : Json → List (String × Json)
  | object members => members
  | _ => []

/-- The items of an array, none for any other value. -/
def items : Json → List Json
  | array items => items
  | _ => []

end Json

end FrameGraph
