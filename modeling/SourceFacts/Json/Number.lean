import SourceFacts.Json

/-!
Numbers in structured text. An integer literal that fits 64 bits is an integer, signed or not. Any
other literal is a floating number: its first digits as a 64-bit significand, scaled once by a power
of ten.
-/
namespace SourceFacts.Json.Number

/-- The parts of a number literal. -/
structure Literal where
  negative : Bool
  whole : List Nat
  fraction : Option (List Nat)
  exponent : Option (Bool × List Nat)

/-- The largest 64-bit significand. -/
def significandMax : Nat := Nat.pow 2 64 - 1

/-- Reads digits into a significand while it fits, and returns how many digits were left. -/
def accumulate : Nat → List Nat → Nat × Nat
  | value, [] => (value, 0)
  | value, digit :: rest =>
    if 10 * value + digit ≤ significandMax then accumulate (10 * value + digit) rest
    else (value, rest.length + 1)

/-- The value of some digits. -/
def digitsValue (digits : List Nat) : Nat :=
  digits.foldl (fun value digit => 10 * value + digit) 0

/-- The power of ten nearest to a floating number. -/
def powerOfTen (exponent : Nat) : Float :=
  Float.ofScientific 1 false exponent

/-- Divides by large powers of ten until the exponent is in reach. A few steps leave nothing of any
significand. -/
def shrink : Nat → Float → Nat → Float
  | 0, _, _ => 0
  | steps + 1, value, exponent =>
    if exponent ≤ 308 then value / powerOfTen exponent
    else if value == 0 then value
    else shrink steps (value / powerOfTen 308) (exponent - 308)

/-- A significand scaled by a power of ten; nothing if the result is too large. -/
def scale? (significand : Nat) (exponent : Int) : Option Float :=
  let value := significand.toUInt64.toFloat
  match exponent with
  | .ofNat exponent =>
    if exponent ≤ 308 then
      let scaled := value * powerOfTen exponent
      if scaled.isInf then none else some scaled
    else if value == 0 then some value
    else none
  | .negSucc exponent => some (shrink 5 value (exponent + 1))

/-- The largest exponent that is read as written. -/
def exponentMax : Nat := Nat.pow 2 31 - 1

/-- The floating number of a literal. -/
def float? (literal : Literal) : Option Float := do
  let (significand, skipped) := accumulate 0 literal.whole
  let (significand, places) :=
    match literal.fraction with
    | none => (significand, (skipped : Int))
    | some fraction =>
      let (longer, left) := accumulate significand fraction
      (longer, (skipped : Int) - ((fraction.length - left : Nat) : Int))
  let magnitude ←
    match literal.exponent with
    | none => scale? significand places
    | some (negative, digits) =>
      let exponent := digitsValue digits
      if exponent ≤ exponentMax then
        scale? significand (if negative then places - exponent else places + exponent)
      else if significand = 0 || negative then some 0
      else none
  return if literal.negative then -magnitude else magnitude

/-- The value of a literal. -/
def value (literal : Literal) : Json :=
  let asFloat := match float? literal with
    | some value => float value
    | none => unreadable
  if literal.fraction.isSome || literal.exponent.isSome then asFloat
  else
    let magnitude := digitsValue literal.whole
    if literal.negative then
      if 0 < magnitude && magnitude ≤ Nat.pow 2 63 then int (-(magnitude : Int)) else asFloat
    else if magnitude ≤ significandMax then int magnitude
    else asFloat

end SourceFacts.Json.Number
