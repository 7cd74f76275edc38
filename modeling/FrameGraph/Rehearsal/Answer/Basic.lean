import FrameGraph.Error
import FrameGraph.Json.Value

/-!
# The form of answers

Answers are JSON values. Integers that a double cannot hold are written as texts, doubles as the
hexadecimal digits of their codes, and bytes as hexadecimal digits, or, when there are many of
them, as their number, a hash, and the first few. An error is an object with its kind and its
wording.
-/

namespace FrameGraph.Answer

/-! ### Numbers -/

/-- The greatest integer up to which doubles have no gaps. -/
def maxExact : Nat := 9007199254740991

def int (n : Int) : Json :=
  if n.natAbs ≤ maxExact then .integer n else .string (toString n)

def nat (n : Nat) : Json := int n

/-- Hexadecimal digits, at least `width` of them. -/
def hexPadded (width n : Nat) : String :=
  let digits := Nat.toDigits 16 n
  String.ofList (List.replicate (width - digits.length) '0' ++ digits)

def code (bits : UInt64) : Json := .string (hexPadded 16 bits.toNat)

def double (x : Float) : Json := code (if x.isNaN then 0x7ff8000000000000 else x.toBits)

/-! ### Bytes -/

def hexByte (b : UInt8) : List Char := [Nat.digitChar (b.toNat / 16), Nat.digitChar (b.toNat % 16)]

def hexBytes (bs : List UInt8) : Json := .string (String.ofList (bs.flatMap hexByte))

/-- A hash of bytes: each byte is mixed in and the result is multiplied by a prime. -/
def hash (bs : List UInt8) : UInt64 :=
  bs.foldl (fun h b => (h ^^^ b.toUInt64) * 0x100000001b3) 0xcbf29ce484222325

def bytes (bs : List UInt8) : Json :=
  if bs.length ≤ 96 then hexBytes bs
  else .object [("len", nat bs.length), ("fnv", code (hash bs)), ("head", hexBytes (bs.take 32))]

/-! ### Absence and failure -/

def option {α : Type} (form : α → Json) : Option α → Json
  | some a => form a
  | none => .null

def kind : Error → String
  | .config _ => "Config"
  | .invalidParameter .. => "InvalidParameter"
  | .invalidState .. => "InvalidState"
  | .allocation _ => "Allocation"
  | .bufferUnavailable _ => "BufferUnavailable"
  | .capacityExceeded .. => "CapacityExceeded"
  | .unknownBlockType _ => "UnknownBlockType"
  | .blockNotFound _ => "BlockNotFound"
  | .missingCapability .. => "MissingCapability"
  | .rejected _ => "Rejected"
  | .frame _ => "Frame"
  | .block .. => "Block"
  | .thread _ => "Thread"

def failure (kind : String) : Json := .object [("error", .string kind)]

/-- An error, with what else is to be said of it. -/
def error (e : Error) (more : List (String × Json)) : Json :=
  .object ([("error", .string (kind e)), ("message", .string e.message)] ++ more)

def panic : Json := failure "panic"

def fault : Fault → Json
  | .error e => error e []
  | .panic _ => panic

/-- The value of an operation, or why there is none. -/
def result {α : Type} (form : α → Json) : Result α → Json
  | .ok a => form a
  | .error f => fault f

/-- The value of an operation that cannot be aborted. -/
def plain {α : Type} (form : α → Json) : Except Error α → Json
  | .ok a => form a
  | .error e => error e []

def checked {α : Type} (form : α → Json) : Checked α → Json
  | .ok a => form a
  | .error _ => panic

/-- The answer of an operation without a value. -/
def unit (_ : Unit) : Json := .null

end FrameGraph.Answer
