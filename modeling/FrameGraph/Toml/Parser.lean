import FrameGraph.Toml.Document
import FrameGraph.Toml.Quoted
import FrameGraph.Toml.Scalar

/-!
# Reading TOML

A document is read line by line; only strings with tripled quotes and arrays run over several lines.
Arrays and tables in braces may be nested 79 deep, and a key may have 79 parts.
-/

namespace FrameGraph.Toml

/-! ### Between the values -/

/-- What follows blanks, line breaks and comments; a comment must end with its line. -/
def skipLines : (inComment : Bool) → List Char → List Char
  | _, [] => []
  | _, '\n' :: r => skipLines false r
  | _, '\r' :: '\n' :: r => skipLines false r
  | true, c :: r => if isPlain c then skipLines true r else c :: r
  | false, '#' :: r => skipLines true r
  | false, c :: r => if isBlank c then skipLines false r else c :: r

/-- What follows the end of a line, which may have a comment before it. -/
def lineEnd? (cs : List Char) : Option (List Char) :=
  let rest := match skipBlanks cs with
    | '#' :: r => r.dropWhile isPlain
    | r => r
  if rest.isEmpty then some [] else newline? rest

/-! ### Keys -/

/-- The limit on nesting and on the parts of a key. -/
def limit : Nat := 79

def isBare (c : Char) : Bool := c.isAlphanum || c == '_' || c == '-'

def keyPart? (cs : List Char) : Option (String × List Char) :=
  match cs with
  | '"' :: _ => shortString? cs
  | '\'' :: _ => shortString? cs
  | _ =>
    let name := cs.takeWhile isBare
    if name.isEmpty then none else some (String.ofList name, cs.dropWhile isBare)

/-- The parts of a key, at most `fuel` of them, and what follows the blanks behind it. -/
def keyParts? : (fuel : Nat) → List Char → Option (List String × List Char)
  | 0, _ => none
  | fuel + 1, cs => do
    let (part, rest) ← keyPart? (skipBlanks cs)
    match skipBlanks rest with
    | '.' :: rest =>
      let (parts, rest) ← keyParts? fuel rest
      return (part :: parts, rest)
    | rest => return ([part], rest)

def key? (cs : List Char) : Option ((List String × String) × List Char) := do
  let (parts, rest) ← keyParts? limit cs
  return ((parts.dropLast, ← parts.getLast?), rest)

/-! ### Values -/

mutual

def value? : (fuel depth : Nat) → List Char → Option (Json × List Char)
  | 0, _, _ => none
  | fuel + 1, depth, cs =>
    match depth, cs with
    | _, '"' :: _ => (string? cs).map fun (s, r) => (.string s, r)
    | _, '\'' :: _ => (string? cs).map fun (s, r) => (.string s, r)
    | 0, '[' :: _ => none
    | depth + 1, '[' :: r => (items? fuel depth [] r).map fun (items, r) => (.array items, r)
    | 0, '\x7b' :: _ => none
    | depth + 1, '\x7b' :: r =>
      match skipBlanks r with
      | '\x7d' :: r => some (.ofMembers [], r)
      | r => do
        let (pairs, r) ← pairs? fuel depth [] r
        return (.ofMembers (finish (← insertPairs [] pairs)), r)
    | _, _ => scalar? cs

/-- The items of an array up to its closing bracket; `read` holds those already read, last first. -/
def items? : (fuel depth : Nat) → (read : List Json) → List Char → Option (List Json × List Char)
  | 0, _, _, _ => none
  | fuel + 1, depth, read, cs =>
    match skipLines false cs with
    | ']' :: r => some (read.reverse, r)
    | r => do
      let (v, r) ← value? fuel depth r
      match skipLines false r with
      | ',' :: r => items? fuel depth (v :: read) r
      | ']' :: r => some ((v :: read).reverse, r)
      | _ => none

/-- The pairs of a table in braces up to its closing brace; `read` holds those already read, last
first. -/
def pairs? : (fuel depth : Nat) → (read : List Pair) → List Char → Option (List Pair × List Char)
  | 0, _, _, _ => none
  | fuel + 1, depth, read, cs => do
    let (p, r) ← pair? fuel depth cs
    match skipBlanks r with
    | ',' :: r => pairs? fuel depth (p :: read) r
    | '\x7d' :: r => some ((p :: read).reverse, r)
    | _ => none

def pair? : (fuel depth : Nat) → List Char → Option (Pair × List Char)
  | 0, _, _ => none
  | fuel + 1, depth, cs => do
    let ((path, key), r) ← key? cs
    match r with
    | '=' :: r =>
      let (value, r) ← value? fuel depth (skipBlanks r)
      return (⟨path, key, value⟩, r)
    | _ => none

end

/-! ### Lines -/

/-- A header after its opening bracket or brackets. -/
def header? (isItem : Bool) (cs : List Char) : Option (Header × List Char) := do
  let ((path, key), r) ← key? cs
  match isItem, r with
  | false, ']' :: r => return (⟨isItem, path, key⟩, r)
  | true, ']' :: ']' :: r => return (⟨isItem, path, key⟩, r)
  | _, _ => none

/-- A line that says something, up to its end. -/
def line? (fuel : Nat) : List Char → Option (Line × List Char)
  | '[' :: '[' :: r => do
    let (h, r) ← header? true r
    return (.header h, r)
  | '[' :: r => do
    let (h, r) ← header? false r
    return (.header h, r)
  | cs => do
    let (p, r) ← pair? fuel limit cs
    return (.pair p, r)

/-- The lines of a document; `read` holds those already read, last first. -/
def lines? : (fuel : Nat) → (read : List Line) → List Char → Option (List Line)
  | 0, _, _ => none
  | fuel + 1, read, cs =>
    match skipLines false cs with
    | [] => some read.reverse
    | r => do
      let (l, r) ← line? (2 * cs.length + 2) r
      lines? fuel (l :: read) (← lineEnd? r)

/-- Read a document; the result is an object. A byte order mark in front of it does not count. -/
def parse? (text : String) : Option Json := do
  let cs := match text.toList with
    | '\ufeff' :: r => r
    | cs => cs
  assemble (← lines? (cs.length + 1) [] cs)

end FrameGraph.Toml
