import FrameGraph.Dict
import FrameGraph.Json.Value

/-!
# Access to JSON values

The members of an object as values of a wanted kind. A member that is missing counts as null, as the
empty text, as zero, or as false. An integer may also be written as a text of digits.
-/

namespace FrameGraph.Json

/-- The object with some members; of equal keys the last one counts. -/
def ofMembers (members : List (String × Json)) : Json := .object (Dict.ofList members).entries

def field (j : Json) (key : String) : Json := (j.member? key).getD .null

/-- Whether an object has a member other than null. -/
def has (j : Json) (key : String) : Bool :=
  match j.field key with
  | .null => false
  | _ => true

def asText : Json → String
  | .string s => s
  | _ => ""

def text (j : Json) (key : String) : String := (j.field key).asText

def int (j : Json) (key : String) : Int :=
  match j.field key with
  | .integer n => n
  | .string s => s.toInt?.getD 0
  | _ => 0

def nat (j : Json) (key : String) : Nat := (j.int key).toNat

/-- A member that is a natural number, if it is there. -/
def nat? (j : Json) (key : String) : Option Nat := if j.has key then some (j.nat key) else none

def flag (j : Json) (key : String) : Bool :=
  match j.field key with
  | .bool b => b
  | _ => false

def texts (j : Json) (key : String) : List String := (j.field key).items.map asText

def dict (j : Json) (key : String) : Dict String :=
  Dict.ofList ((j.field key).members.map fun (k, v) => (k, v.asText))

end FrameGraph.Json
