import FrameGraph.Json.Access
import FrameGraph.Json.Number

/-!
# Reading JSON

The reader is strict: no comments, no trailing commas, no raw control characters in strings, no
surrogate without its partner, and nothing but blanks around the value. Arrays and objects may be
nested 127 deep. Of equal keys in one object the last one counts.
-/

namespace FrameGraph.Json

/-! ### Blanks and strings -/

def isSpace (c : Char) : Bool := c == ' ' || c == '\t' || c == '\n' || c == '\r'

def skipSpace (cs : List Char) : List Char := cs.dropWhile isSpace

def hexValue? (c : Char) : Option Nat :=
  if '0' ≤ c ∧ c ≤ '9' then some (c.toNat - '0'.toNat)
  else if 'a' ≤ c ∧ c ≤ 'f' then some (c.toNat - 'a'.toNat + 10)
  else if 'A' ≤ c ∧ c ≤ 'F' then some (c.toNat - 'A'.toNat + 10)
  else none

/-- The number written by four hexadecimal digits. -/
def unit? (a b c d : Char) : Option Nat := do
  return (← hexValue? a) * 4096 + (← hexValue? b) * 256 + (← hexValue? c) * 16 + (← hexValue? d)

/-- The character written by two units of which the first is a leading surrogate. -/
def pairChar? (high low : Nat) : Option Char :=
  if 0xdc00 ≤ low ∧ low ≤ 0xdfff then
    some (Char.ofNat (0x10000 + (high - 0xd800) * 0x400 + (low - 0xdc00)))
  else none

def shortEscape? (c : Char) : Option Char :=
  match c with
  | '"' => some '"'
  | '\\' => some '\\'
  | '/' => some '/'
  | 'b' => some '\x08'
  | 'f' => some '\x0c'
  | 'n' => some '\n'
  | 'r' => some '\r'
  | 't' => some '\t'
  | _ => none

/-- One character of a string, perhaps escaped, and what follows it. -/
def stringChar? : List Char → Option (Char × List Char)
  | '\\' :: 'u' :: a :: b :: c :: d :: rest => do
    let u ← unit? a b c d
    if 0xd800 ≤ u ∧ u ≤ 0xdbff then
      match rest with
      | '\\' :: 'u' :: e :: f :: g :: h :: rest =>
        return (← pairChar? u (← unit? e f g h), rest)
      | _ => none
    else if 0xdc00 ≤ u ∧ u ≤ 0xdfff then none
    else return (Char.ofNat u, rest)
  | '\\' :: c :: rest => (shortEscape? c).map (·, rest)
  | c :: rest => if c.toNat < 0x20 || c == '\\' then none else some (c, rest)
  | [] => none

/-- The characters of a string up to its closing quote, and what follows the quote; `read` holds the
characters already read, last first. -/
def stringBody? : (fuel : Nat) → (read : List Char) → List Char → Option (String × List Char)
  | _, read, '"' :: rest => some (String.ofList read.reverse, rest)
  | 0, _, _ => none
  | fuel + 1, read, cs => do
    let (c, rest) ← stringChar? cs
    stringBody? fuel (c :: read) rest

def string? (cs : List Char) : Option (String × List Char) := stringBody? cs.length [] cs

/-! ### Values -/

/-- What follows a word at the start of the characters. -/
def word? : (word cs : List Char) → Option (List Char)
  | [], cs => some cs
  | w :: word, c :: cs => if w == c then word? word cs else none
  | _, [] => none

/-- The deepest nesting of arrays and objects. -/
def maxDepth : Nat := 127

mutual

def value? : (fuel depth : Nat) → List Char → Option (Json × List Char)
  | 0, _, _ => none
  | fuel + 1, depth, cs =>
    match skipSpace cs with
    | '"' :: r => (string? r).map fun (s, r) => (string s, r)
    | '[' :: r =>
      match depth, skipSpace r with
      | 0, _ => none
      | _, ']' :: r => some (array [], r)
      | depth + 1, r => (items? fuel depth [] r).map fun (items, r) => (array items, r)
    | '\x7b' :: r =>
      match depth, skipSpace r with
      | 0, _ => none
      | _, '\x7d' :: r => some (object [], r)
      | depth + 1, r =>
        (members? fuel depth [] r).map fun (ms, r) => (ofMembers ms, r)
    | 'n' :: r => (word? "ull".toList r).map (null, ·)
    | 't' :: r => (word? "rue".toList r).map (bool true, ·)
    | 'f' :: r => (word? "alse".toList r).map (bool false, ·)
    | r => number? r

/-- The items of an array up to its closing bracket; `read` holds those already read, last first. -/
def items? : (fuel depth : Nat) → (read : List Json) → List Char →
    Option (List Json × List Char)
  | 0, _, _, _ => none
  | fuel + 1, depth, read, cs => do
    let (v, r) ← value? fuel depth cs
    match skipSpace r with
    | ',' :: r => items? fuel depth (v :: read) r
    | ']' :: r => some ((v :: read).reverse, r)
    | _ => none

/-- The members of an object up to its closing brace; `read` holds those already read, last
first. -/
def members? : (fuel depth : Nat) → (read : List (String × Json)) → List Char →
    Option (List (String × Json) × List Char)
  | 0, _, _, _ => none
  | fuel + 1, depth, read, cs =>
    match skipSpace cs with
    | '"' :: r => do
      let (key, r) ← string? r
      match skipSpace r with
      | ':' :: r => do
        let (v, r) ← value? fuel depth r
        match skipSpace r with
        | ',' :: r => members? fuel depth ((key, v) :: read) r
        | '\x7d' :: r => some (((key, v) :: read).reverse, r)
        | _ => none
      | _ => none
    | _ => none

end

def parse? (text : String) : Option Json :=
  let cs := text.toList
  match value? (2 * cs.length + 2) maxDepth cs with
  | some (v, rest) => if (skipSpace rest).isEmpty then some v else none
  | none => none

end FrameGraph.Json
