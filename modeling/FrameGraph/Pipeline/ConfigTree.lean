import FrameGraph.Error
import FrameGraph.Json.Parser
import FrameGraph.Text.LetterCase

/-!
# Gathering settings

The members of a document are gathered in one tree of settings. The case of letters in the keys of
tables does not matter: keys are written in lower case. Tables inside arrays are taken as they are.
A key at the root of the document may be a path, as in `a.b[2]`, to the place that its value
belongs to; what is missing on the way is made, with null for items that nothing was said about.
-/

namespace FrameGraph.ConfigTree

/-! ### Tables -/

/-- A table; what is none counts as an empty one. -/
def asTable : Json → Json
  | .object members => .object members
  | _ => .object []

def setMember (key : String) (value : Json) (table : Json) : Json :=
  .object (Dict.insertEntry key value table.members)

mutual

/-- Put a value under a key. Tables are merged, anything else takes the place of what was there. -/
def store (key : String) (value : Json) (target : Json) : Json :=
  let key := Text.lower key
  let table := asTable target
  match value with
  | .object members =>
    setMember key (storeAll members ((table.member? key).getD (.object []))) table
  | value => setMember key value table

def storeAll : List (String × Json) → Json → Json
  | [], target => target
  | (key, value) :: rest, target => storeAll rest (store key value target)

end

/-! ### Paths -/

/-- A step from a value to a part of it. An index below zero counts from the end. -/
inductive Step
  | member (key : String)
  | item (index : Int)
  deriving DecidableEq, Repr

def isName (c : Char) : Bool := c.isAlphanum || c == ' ' || c == '_' || c == '-'

def name? (cs : List Char) : Option (String × List Char) :=
  let name := cs.takeWhile isName
  if name.isEmpty then none else some (String.ofList name, cs.dropWhile isName)

def skipBlanks (cs : List Char) : List Char := cs.dropWhile fun c => c == ' ' || c == '\t'

/-- An index up to its closing bracket, and what follows that; it must fit 64 bits. -/
def index? (cs : List Char) : Option (Int × List Char) := do
  let cs := skipBlanks cs
  let (negative, cs) := match cs with
    | '-' :: r => (true, r)
    | r => (false, r)
  let digits := cs.takeWhile Decimal.isDigit
  match digits.isEmpty, skipBlanks (cs.dropWhile Decimal.isDigit) with
  | false, ']' :: rest =>
    let n := Decimal.digitsValue digits
    let i : Int := if negative then -n else n
    if -0x8000000000000000 ≤ i ∧ i < 0x8000000000000000 then some (i, rest) else none
  | _, _ => none

/-- The steps behind the first name of a path. -/
def steps? : (fuel : Nat) → List Char → Option (List Step)
  | _, [] => some []
  | fuel + 1, '.' :: r => do
    let (name, rest) ← name? r
    return .member name :: (← steps? fuel rest)
  | fuel + 1, '[' :: r => do
    let (index, rest) ← index? r
    return .item index :: (← steps? fuel rest)
  | _, _ => none

def path? (key : String) : Option (List Step) := do
  let (name, rest) ← name? key.toList
  return .member name :: (← steps? rest.length rest)

/-! ### Following paths -/

/-- The longest array that an index may call for. -/
def maxLength : Nat := 0x1000000

def position (index : Int) (length : Nat) : Checked Nat :=
  if 0 ≤ index then
    if index.toNat < maxLength then .ok index.toNat else .error (.said "capacity overflow")
  else if index.natAbs ≤ length then .ok (length - index.natAbs)
  else .error .subOverflow

/-- The array with another item at a position; it grows when it is too short. -/
def setItem (n : Nat) (value : Json) (items : List Json) : List Json :=
  (items ++ List.replicate (n + 1 - items.length) Json.null).set n value

def place (value : Json) : List Step → Json → Checked Json
  | [], _ => .ok value
  | [.member key], target => .ok (store key value target)
  | .member key :: path, target => do
    let table := asTable target
    return setMember key (← place value path (table.field key)) table
  | .item index :: path, target => do
    let n ← position index target.items.length
    return .array (setItem n (← place value path (target.items.getD n Json.null)) target.items)

/-- Put a member of a document where its key leads to. A key that is no path is taken as it is. -/
def assign (target : Json) (member : String × Json) : Checked Json :=
  match path? (Text.lower member.1) with
  | some path => place member.2 path target
  | none => .ok (store member.1 member.2 target)

def gather (members : List (String × Json)) : Checked Json := members.foldlM assign (.object [])

end FrameGraph.ConfigTree
