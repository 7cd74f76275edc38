import FrameGraph.Json.Parser

/-!
# Strings in TOML

A string stands between double quotes, with escapes, or between single quotes, without. Tripled
quotes let it run over several lines: a line break right behind the opening quotes does not count,
a backslash at the end of a line takes the blanks and breaks behind it away, and one or two quotes
may stand before the closing ones. Control characters other than tabs are refused everywhere.
-/

namespace FrameGraph.Toml

/-! ### Characters -/

def isBlank (c : Char) : Bool := c == ' ' || c == '\t'

/-- Characters that may be written as they are. -/
def isPlain (c : Char) : Bool := c == '\t' || (' ' ≤ c && c ≤ '~') || 0x80 ≤ c.toNat

def skipBlanks (cs : List Char) : List Char := cs.dropWhile isBlank

def newline? : List Char → Option (List Char)
  | '\n' :: r => some r
  | '\r' :: '\n' :: r => some r
  | _ => none

def skipBreaks : List Char → List Char
  | ' ' :: r => skipBreaks r
  | '\t' :: r => skipBreaks r
  | '\n' :: r => skipBreaks r
  | '\r' :: '\n' :: r => skipBreaks r
  | cs => cs

/-! ### Escapes -/

/-- The character whose number is written with just so many hexadecimal digits. -/
def numbered? (digits : Nat) (cs : List Char) : Option (Char × List Char) := do
  let values ← (cs.take digits).mapM Json.hexValue?
  let n := values.foldl (fun n d => n * 16 + d) 0
  if values.length = digits ∧ n.isValidChar then some (Char.ofNat n, cs.drop digits) else none

/-- The character of an escape, after its backslash. -/
def escape? : List Char → Option (Char × List Char)
  | 'u' :: r => numbered? 4 r
  | 'U' :: r => numbered? 8 r
  | 'b' :: r => some ('\x08', r)
  | 't' :: r => some ('\t', r)
  | 'n' :: r => some ('\n', r)
  | 'f' :: r => some ('\x0c', r)
  | 'r' :: r => some ('\r', r)
  | '"' :: r => some ('"', r)
  | '\\' :: r => some ('\\', r)
  | _ => none

/-! ### Bodies -/

/-- How a string is written. -/
structure Quoting where
  quote : Char
  /-- Whether the quotes are tripled. -/
  isLong : Bool

/-- The quotes at the end of a string: those that still belong to it, and what follows. -/
def closing? (q : Quoting) (cs : List Char) : Option (List Char × List Char) :=
  let run := (cs.takeWhile (· == q.quote)).length
  if q.isLong then
    if 3 ≤ run then
      let own := min (run - 3) 2
      some (List.replicate own q.quote, cs.drop (own + 3))
    else none
  else if run = 0 then none
  else some ([], cs.drop 1)

/-- The next piece of a string: one character, or none for what does not count. -/
def piece? (q : Quoting) : List Char → Option (Option Char × List Char)
  | [] => none
  | c :: r =>
    if c == '\\' && q.quote == '"' then
      match (if q.isLong then newline? (skipBlanks r) else none) with
      | some r => some (none, skipBreaks r)
      | none => (escape? r).map fun (c, r) => (some c, r)
    else if isPlain c then some (some c, r)
    else if q.isLong then (newline? (c :: r)).map (some '\n', ·)
    else none

/-- The characters of a string and what follows its closing quotes; `read` holds those already read,
last first. -/
def body? (q : Quoting) : (fuel : Nat) → (read : List Char) → List Char →
    Option (String × List Char)
  | 0, _, _ => none
  | fuel + 1, read, cs =>
    match closing? q cs with
    | some (own, rest) => some (String.ofList (own ++ read).reverse, rest)
    | none => do
      let (c, rest) ← piece? q cs
      body? q fuel (c.toList ++ read) rest

/-- A string on one line, from its opening quote. -/
def shortString? : List Char → Option (String × List Char)
  | [] => none
  | quote :: r =>
    if quote == '"' || quote == '\'' then body? ⟨quote, false⟩ (r.length + 1) [] r else none

def string? : List Char → Option (String × List Char)
  | a :: b :: c :: r =>
    if a == b && b == c && (a == '"' || a == '\'') then
      body? ⟨a, true⟩ (r.length + 1) [] ((newline? r).getD r)
    else shortString? (a :: b :: c :: r)
  | cs => shortString? cs

end FrameGraph.Toml
