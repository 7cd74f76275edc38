import FrameGraph.Decimal.Shortest
import FrameGraph.Json.Value

/-!
# Writing JSON

The written form has no blanks between tokens. In strings only the quote, the backslash and the
control characters are escaped.
-/

namespace FrameGraph.Json

def hexDigit (n : Nat) : Char := Nat.digitChar n

/-- How one character is written in a string. -/
def escapeChar (c : Char) : List Char :=
  match c with
  | '"' => ['\\', '"']
  | '\\' => ['\\', '\\']
  | '\n' => ['\\', 'n']
  | '\r' => ['\\', 'r']
  | '\t' => ['\\', 't']
  | '\x08' => ['\\', 'b']
  | '\x0c' => ['\\', 'f']
  | c =>
    if c.toNat < 0x20 then
      ['\\', 'u', '0', '0', hexDigit (c.toNat / 16), hexDigit (c.toNat % 16)]
    else [c]

def renderString (s : String) : List Char := '"' :: (s.toList.flatMap escapeChar ++ ['"'])

/-- A double, with a point where an integer would be read otherwise. -/
def renderDouble (x : Float) : List Char :=
  let cs := (Decimal.showFloat x).toList
  if cs.contains '.' || x.isNaN || x.isInf then cs else cs ++ ['.', '0']

mutual

def renderChars : Json → List Char
  | null => "null".toList
  | bool b => (if b then "true" else "false").toList
  | integer n => (toString n).toList
  | double x => renderDouble x
  | string s => renderString s
  | array items => '[' :: (renderItems items ++ [']'])
  | object members => '\x7b' :: (renderMembers members ++ ['\x7d'])

/-- The items of an array, separated by commas. -/
def renderItems : List Json → List Char
  | [] => []
  | [v] => renderChars v
  | v :: w :: rest => renderChars v ++ ',' :: renderItems (w :: rest)

/-- The members of an object, separated by commas. -/
def renderMembers : List (String × Json) → List Char
  | [] => []
  | [(k, v)] => renderString k ++ ':' :: renderChars v
  | (k, v) :: m :: rest =>
    renderString k ++ ':' :: (renderChars v ++ ',' :: renderMembers (m :: rest))

end

def render (j : Json) : String := String.ofList (renderChars j)

end FrameGraph.Json
