import FrameGraph.Decimal.Float
import FrameGraph.Json.Parser

/-!
# Numbers, dates and times in TOML

Integers fit 64 bits with a sign; they may be written in hexadecimal, octal or binary digits
without a sign, and between two digits there may be an underscore. A number with a fraction or an
exponent is the nearest double, which must not be infinite upwards. Dates and times become texts in
their usual form.
-/

namespace FrameGraph.Toml

open Decimal (isDigit digitsValue)

/-! ### Digits -/

/-- Digits after the first one, without the underscores between them, and what follows. -/
def moreDigits (isOk : Char → Bool) : List Char → List Char × List Char
  | [] => ([], [])
  | '_' :: c :: r =>
    if isOk c then
      let (ds, rest) := moreDigits isOk r
      (c :: ds, rest)
    else ([], '_' :: c :: r)
  | c :: r =>
    if isOk c then
      let (ds, rest) := moreDigits isOk r
      (c :: ds, rest)
    else ([], c :: r)

/-- Digits, at least one, and what follows. -/
def digits? (isOk : Char → Bool) : List Char → Option (List Char × List Char)
  | [] => none
  | c :: r =>
    if isOk c then
      let (ds, rest) := moreDigits isOk r
      some (c :: ds, rest)
    else none

def sign : List Char → Bool × List Char
  | '-' :: r => (true, r)
  | '+' :: r => (false, r)
  | cs => (false, cs)

/-- The digits of an integer; a leading zero stands alone. -/
def whole? : List Char → Option (List Char × List Char)
  | '0' :: r => some (['0'], r)
  | cs => digits? isDigit cs

def signed (negative : Bool) (cs : List Char) : String :=
  String.ofList (if negative then '-' :: cs else cs)

/-! ### Numbers -/

def fitting? (n : Int) : Option Json :=
  if -0x8000000000000000 ≤ n ∧ n < 0x8000000000000000 then some (.integer n) else none

def based? (base : Nat) (cs : List Char) : Option (Json × List Char) := do
  let isOk (c : Char) : Bool := match Json.hexValue? c with
    | some d => d < base
    | none => false
  let (ds, rest) ← digits? isOk cs
  let n := ds.foldl (fun n c => n * base + (Json.hexValue? c).getD 0) 0
  return (← fitting? n, rest)

def integer? : List Char → Option (Json × List Char)
  | '0' :: 'x' :: r => based? 16 r
  | '0' :: 'o' :: r => based? 8 r
  | '0' :: 'b' :: r => based? 2 r
  | cs => do
    let (negative, cs) := sign cs
    let (ds, rest) ← whole? cs
    let n : Int := digitsValue ds
    return (← fitting? (if negative then -n else n), rest)

def fraction? : List Char → Option (List Char × List Char)
  | '.' :: r => (digits? isDigit r).map fun (ds, rest) => ('.' :: ds, rest)
  | _ => none

def exponent? : List Char → Option (List Char × List Char)
  | c :: r =>
    if c == 'e' || c == 'E' then do
      let (negative, r) := sign r
      let (ds, rest) ← digits? isDigit r
      return ('e' :: (signed negative ds).toList, rest)
    else none
  | [] => none

/-- What makes a number a double: a fraction, an exponent, or both. -/
def decimals? (cs : List Char) : Option (List Char × List Char) :=
  match fraction? cs with
  | some (fraction, rest) =>
    match exponent? rest with
    | some (exponent, rest) => some (fraction ++ exponent, rest)
    | none => some (fraction, rest)
  | none => exponent? cs

def special? (cs : List Char) : Option (Json × List Char) :=
  let (negative, cs) := sign cs
  match cs with
  | 'i' :: 'n' :: 'f' :: r =>
    let bits : UInt64 := if negative then 0xfff0000000000000 else 0x7ff0000000000000
    some (.double (.ofBits bits), r)
  | 'n' :: 'a' :: 'n' :: r =>
    let bits : UInt64 := if negative then 0xfff8000000000000 else 0x7ff8000000000000
    some (.double (.ofBits bits), r)
  | _ => none

def double? (cs : List Char) : Option (Json × List Char) := do
  let (negative, cs) := sign cs
  let (ds, rest) ← whole? cs
  let (more, rest) ← decimals? rest
  match Decimal.readFloat (signed negative (ds ++ more)) with
  | .ok x => if x.isInf && 0 < x then none else some (.double x, rest)
  | .error _ => none

def number? (cs : List Char) : Option (Json × List Char) :=
  special? cs <|> double? cs <|> integer? cs

/-! ### Dates and times -/

/-- A number of two digits up to a limit. -/
def twoDigits? (least greatest : Nat) : List Char → Option (List Char × List Char)
  | a :: b :: r =>
    if isDigit a && isDigit b then
      let n := digitsValue [a, b]
      if least ≤ n ∧ n ≤ greatest then some ([a, b], r) else none
    else none
  | _ => none

def daysIn (year month : Nat) : Nat :=
  if month = 2 then
    if year % 4 = 0 ∧ (year % 100 ≠ 0 ∨ year % 400 = 0) then 29 else 28
  else if month = 4 ∨ month = 6 ∨ month = 9 ∨ month = 11 then 30
  else 31

def date? (cs : List Char) : Option (List Char × List Char) := do
  let year := cs.take 4
  if year.length = 4 ∧ year.all isDigit then
    match cs.drop 4 with
    | '-' :: r =>
      let (month, r) ← twoDigits? 1 12 r
      match r with
      | '-' :: r =>
        let (day, r) ← twoDigits? 1 (daysIn (digitsValue year) (digitsValue month)) r
        return (year ++ '-' :: month ++ '-' :: day, r)
      | _ => none
    | _ => none
  else none

/-- A fraction of a second, to nine places, without the zeros at its end. -/
def secondFraction (cs : List Char) : List Char × List Char :=
  match cs with
  | '.' :: r =>
    let ds := r.takeWhile isDigit
    let kept := ((ds.take 9).reverse.dropWhile (· == '0')).reverse
    if ds.isEmpty then ([], cs)
    else (if kept.isEmpty then [] else '.' :: kept, r.dropWhile isDigit)
  | cs => ([], cs)

def time? (cs : List Char) : Option (List Char × List Char) := do
  let (hour, r) ← twoDigits? 0 23 cs
  match r with
  | ':' :: r =>
    let (minute, r) ← twoDigits? 0 59 r
    match r with
    | ':' :: r =>
      let (second, r) ← twoDigits? 0 60 r
      let (fraction, r) := secondFraction r
      return (hour ++ ':' :: minute ++ ':' :: second ++ fraction, r)
    | _ => none
  | _ => none

/-- The offset of a time zone, if there is one; the offset zero has no minus sign. -/
def offset : List Char → List Char × List Char
  | [] => ([], [])
  | c :: r =>
    if c == 'Z' || c == 'z' then (['Z'], r)
    else if c == '+' || c == '-' then
      match twoDigits? 0 23 r with
      | some (hour, ':' :: rest) =>
        match twoDigits? 0 59 rest with
        | some (minute, rest) =>
          let isZero := (hour ++ minute).all (· == '0')
          ((if isZero then '+' else c) :: hour ++ ':' :: minute, rest)
        | none => ([], c :: r)
      | _ => ([], c :: r)
    else ([], c :: r)

def timeOfDate? : List Char → Option (List Char × List Char)
  | c :: r =>
    if c == 'T' || c == 't' || c == ' ' then do
      let (time, rest) ← time? r
      let (zone, rest) := offset rest
      return (time ++ zone, rest)
    else none
  | [] => none

def datetime? (cs : List Char) : Option (Json × List Char) :=
  match date? cs with
  | some (date, rest) =>
    match timeOfDate? rest with
    | some (time, rest) => some (.string (String.ofList (date ++ 'T' :: time)), rest)
    | none => some (.string (String.ofList date), rest)
  | none => (time? cs).map fun (time, rest) => (.string (String.ofList time), rest)

/-! ### Scalars -/

/-- A truth value, a date, a time, or a number. -/
def scalar? : List Char → Option (Json × List Char)
  | 't' :: r => (Json.word? "rue".toList r).map (.bool true, ·)
  | 'f' :: r => (Json.word? "alse".toList r).map (.bool false, ·)
  | cs => datetime? cs <|> number? cs

end FrameGraph.Toml
