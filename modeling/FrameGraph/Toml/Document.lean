import FrameGraph.Json.Access

/-!
# TOML documents

A document is a list of lines: pairs of a key and a value, and headers, each of which opens a
section for the pairs below it. A key may lead through tables that it makes on its way. `assemble`
puts the sections together to one tree. No key is given a value twice, no table is opened twice by
a header, and a dotted key only enters tables that dotted keys or headers of deeper tables have
made.
-/

namespace FrameGraph.Toml

/-! ### Lines -/

/-- A key with its value; the path leads to the table that the key belongs to. -/
structure Pair where
  path : List String
  key : String
  value : Json

/-- A header. It opens a table, or one more item in an array of tables. -/
structure Header where
  isItem : Bool
  path : List String
  key : String

/-- A line that says something. -/
inductive Line
  | pair (p : Pair)
  | header (h : Header)

/-- The pairs before the first header, and the sections that headers open. -/
def sections : List Line → List Pair × List (Header × List Pair)
  | [] => ([], [])
  | .pair p :: rest =>
    let (ps, opened) := sections rest
    (p :: ps, opened)
  | .header h :: rest =>
    let (ps, opened) := sections rest
    ([], (h, ps) :: opened)

/-! ### Trees -/

/-- What made a table: a header of its own, the header of a table below it, or a dotted key. -/
inductive Origin
  | header
  | passage
  | dotted
  deriving DecidableEq, Repr

/-- What a key stands for while a document is put together. Of an array of tables only the last item
can still grow. -/
inductive Entry
  | value (v : Json)
  | table (origin : Origin) (members : List (String × Entry))
  | tables (earlier : List Json) (last : List (String × Entry))

/-- The members of a table while it grows. -/
abbrev Members := List (String × Entry)

mutual

def Entry.toJson : Entry → Json
  | .value v => v
  | .table _ members => .ofMembers (finish members)
  | .tables earlier last => .array (earlier ++ [.ofMembers (finish last)])

/-- The finished values of the members of a table. -/
def finish : List (String × Entry) → List (String × Json)
  | [] => []
  | (key, entry) :: rest => (key, entry.toJson) :: finish rest

end

def replace (key : String) (entry : Entry) (members : Members) : Members :=
  members.map fun m => if m.1 = key then (key, entry) else m

/-- Change the table that a path leads to from a table of some origin. Tables that are missing are
made; the path of a dotted key is refused by tables with a header of their own. -/
def descend (dotted : Bool) (change : Origin → Members → Option Members) :
    List String → Origin → Members → Option Members
  | [], origin, members => change origin members
  | key :: path, _, members =>
    match members.lookup key with
    | none =>
      let origin := if dotted then Origin.dotted else .passage
      (descend dotted change path origin []).map fun t => members ++ [(key, .table origin t)]
    | some (.value _) => none
    | some (.tables earlier last) =>
      (descend dotted change path .header last).map fun t => replace key (.tables earlier t) members
    | some (.table origin t) =>
      if dotted ∧ origin = .header then none
      else
        (descend dotted change path origin t).map fun t => replace key (.table origin t) members

/-! ### Pairs -/

/-- Give a key of a table a value. A table that was reached by a path must have been made by dotted
keys. -/
def define (p : Pair) (origin : Origin) (members : Members) : Option Members :=
  if (p.path = [] ∨ origin = .dotted) ∧ (members.lookup p.key).isNone then
    some (members ++ [(p.key, .value p.value)])
  else none

def insertPair (members : Members) (p : Pair) : Option Members :=
  descend true (define p) p.path .header members

def insertPairs (members : Members) (pairs : List Pair) : Option Members :=
  pairs.foldlM insertPair members

/-! ### Sections -/

/-- Open the section of a header in the table that holds its key. A table that was only passed
through keeps what it has. -/
def openSection (h : Header) (pairs : List Pair) (members : Members) : Option Members :=
  match h.isItem, members.lookup h.key with
  | false, none => do
    let body ← insertPairs [] pairs
    return members ++ [(h.key, .table .header body)]
  | false, some (.table .passage body) => do
    let body ← insertPairs body pairs
    return replace h.key (.table .header body) members
  | true, none => do
    let body ← insertPairs [] pairs
    return members ++ [(h.key, .tables [] body)]
  | true, some (.tables earlier last) => do
    let body ← insertPairs [] pairs
    return replace h.key (.tables (earlier ++ [.ofMembers (finish last)]) body) members
  | _, _ => none

def insertSection (members : Members) (s : Header × List Pair) : Option Members :=
  descend false (fun _ => openSection s.1 s.2) s.1.path .header members

/-- Put the lines of a document together to an object. -/
def assemble (lines : List Line) : Option Json := do
  let (pairs, opened) := sections lines
  let root ← insertPairs [] pairs
  return .ofMembers (finish (← opened.foldlM insertSection root))

end FrameGraph.Toml
