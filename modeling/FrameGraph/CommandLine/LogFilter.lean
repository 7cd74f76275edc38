import FrameGraph.Decimal.Integer
import FrameGraph.Text.Blank
import FrameGraph.Text.LetterCase
import FrameGraph.Text.Split

/-!
# Log filters

A log filter is a list of directives between commas. A directive is a level, or names a target or a
span in brackets, or both, perhaps with a level behind an equals sign. Nothing is logged here; a
filter is only checked.
-/

namespace FrameGraph.CommandLine.LogFilter

/-- Whether a text is a level: its name or its number. -/
def isLevel (s : String) : Bool :=
  ["off", "error", "warn", "info", "debug", "trace"].contains (Text.asciiLower s) ||
    match Decimal.readNat (0xffffffffffffffff) s with
    | .ok n => n ≤ 5
    | .error _ => false

/-- Whether the text behind an equals sign is a level; it may be missing. -/
def isLevelPart (cs : List Char) : Bool := cs.isEmpty || isLevel (String.ofList cs)

def isAfterSpan : List Char → Bool
  | [] => true
  | '=' :: level => isLevelPart level
  | _ => false

/-- The rest of a span after its opening bracket: a name, fields in braces, or both. -/
def isSpan (cs : List Char) : Bool :=
  match cs.dropWhile fun c => c != ']' && c != '\x7b' with
  | ']' :: rest => isAfterSpan rest
  | '\x7b' :: rest =>
    match (rest.takeWhile (· != '\x7d')).isEmpty, rest.dropWhile (· != '\x7d') with
    | false, '\x7d' :: ']' :: rest => isAfterSpan rest
    | _, _ => false
  | _ => false

def startsTarget (c : Char) : Bool :=
  c.isAlphanum || 0x80 ≤ c.toNat || c == '-' || c == ':' || c == '_'

def isDirective (cs : List Char) : Bool :=
  match Text.trimChars cs with
  | [] => false
  | '[' :: rest => isSpan rest
  | c :: rest =>
    startsTarget c &&
      match rest.dropWhile fun c => c != '=' && c != '[' with
      | '=' :: level => isLevelPart level
      | '[' :: rest => isSpan rest
      | _ => true

def isValid (s : String) : Bool :=
  ((Text.splitAll ',' s.toList).filter fun d => !d.isEmpty).all isDirective

end FrameGraph.CommandLine.LogFilter
