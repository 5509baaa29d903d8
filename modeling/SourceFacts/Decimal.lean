/-!
Decimal texts of floating numbers: the fewest digits that single a number out, and a fixed number of
places with halves going to the even neighbour. Both work on the exact value of the number, a
significand times a power of two.
-/
namespace SourceFacts.Decimal

/-- The magnitude of a finite number: `significand * 2 ^ exponent`. -/
structure Binary where
  significand : Nat
  exponent : Int

/-- Takes a finite number apart; the sign is left out. -/
def binary (value : Float) : Binary :=
  let bits := value.toBits.toNat
  let field : Nat := bits / Nat.pow 2 52 % 2048
  let fraction : Nat := bits % Nat.pow 2 52
  if field = 0 then ⟨fraction, -1074⟩ else ⟨Nat.pow 2 52 + fraction, (field : Int) - 1075⟩

/-- Whether the sign bit is set. -/
def isNegative (value : Float) : Bool :=
  Nat.pow 2 63 ≤ value.toBits.toNat

/-- A positive fraction. -/
structure Ratio where
  num : Nat
  den : Nat

/-- A number times a power of two. -/
def Ratio.ofScaled (value : Nat) : Int → Ratio
  | .ofNat exponent => ⟨value * Nat.pow 2 exponent, 1⟩
  | .negSucc exponent => ⟨value, Nat.pow 2 (exponent + 1)⟩

/-- A fraction divided by a power of ten. -/
def Ratio.divTen (ratio : Ratio) : Int → Ratio
  | .ofNat exponent => ⟨ratio.num, ratio.den * Nat.pow 10 exponent⟩
  | .negSucc exponent => ⟨ratio.num * Nat.pow 10 (exponent + 1), ratio.den⟩

/-- The nearest integer, a half going to the even one. -/
def Ratio.round (ratio : Ratio) : Nat :=
  let down := ratio.num / ratio.den
  let twice := 2 * (ratio.num % ratio.den)
  if twice < ratio.den then down
  else if ratio.den < twice then down + 1
  else if down % 2 = 0 then down
  else down + 1

/-- The least `e` with `ratio < 10 ^ e`, searched upwards from a low guess. -/
def magnitude (ratio : Ratio) : Nat → Int → Int
  | 0, guess => guess
  | steps + 1, guess =>
    let scaled := ratio.divTen guess
    if scaled.num < scaled.den then guess else magnitude ratio steps (guess + 1)

/-- Decimal digits, without leading zeros. -/
def digits (value : Nat) : List Char := Nat.toDigits 10 value

/-- A number, the two ends of the interval that reads back as it, and whether these count. -/
structure Target where
  value : Ratio
  low : Ratio
  high : Ratio
  closed : Bool

/-- The interval of a nonzero number reaches half way to its neighbours; below a power of two the
neighbour is nearer. -/
def target (binary : Binary) : Target :=
  let below := if binary.significand = Nat.pow 2 52 ∧ -1074 < binary.exponent then 1 else 2
  let scaled (quarters : Nat) := Ratio.ofScaled quarters (binary.exponent - 2)
  { value := scaled (4 * binary.significand)
    low := scaled (4 * binary.significand - below)
    high := scaled (4 * binary.significand + 2)
    closed := binary.significand % 2 = 0 }

/-- Whether a point of a decimal grid reads back as the target. -/
def Target.holds (target : Target) (unit : Int) (point : Nat) : Bool :=
  let low := target.low.divTen unit
  let high := target.high.divTen unit
  if target.closed then low.num ≤ point * low.den && point * high.den ≤ high.num
  else low.num < point * low.den && point * high.den < high.num

/-- Tries ever finer decimal grids until one of the two points around the target reads back as it;
of two such points the nearer is taken. The result is the digits and the power of ten of the last
one. -/
def search (target : Target) (top : Int) : Nat → Nat → Nat × Int
  | 0, count => ((target.value.divTen (top - count)).round, top - count)
  | steps + 1, count =>
    let unit := top - count
    let scaled := target.value.divTen unit
    let near := scaled.round
    let down := scaled.num / scaled.den
    let far := if near = down then down + 1 else down
    if target.holds unit near then (near, unit)
    else if target.holds unit far then (far, unit)
    else search target top steps (count + 1)

/-- The fewest decimal digits that read back as a nonzero magnitude, and where the point stands
behind them. -/
def shortest (binary : Binary) : List Char × Int :=
  let target := target binary
  let guess := ((digits target.value.num).length : Int) - (digits target.value.den).length - 1
  let top := magnitude target.value 4 guess
  let (point, unit) := search target top 17 1
  (digits point, unit)

def zeros (count : Nat) : List Char := List.replicate count '0'

/-- The text of a finite number in structured data: positional up to sixteen digits before the
point and five zeros behind it, with an exponent beyond. -/
def plain (value : Float) : String :=
  let binary := binary value
  let body :=
    if binary.significand = 0 then "0.0".toList
    else
      let (found, unit) := shortest binary
      let point := (found.length : Int) + unit
      if 0 ≤ unit ∧ point ≤ 16 then found ++ zeros unit.toNat ++ ['.', '0']
      else if 0 < point ∧ point ≤ 16 then
        found.take point.toNat ++ '.' :: found.drop point.toNat
      else if -5 < point ∧ point ≤ 0 then '0' :: '.' :: zeros (-point).toNat ++ found
      else
        let rest := if found.length = 1 then [] else '.' :: found.drop 1
        found.take 1 ++ rest ++ 'e' :: (toString (point - 1)).toList
  String.ofList (if isNegative value then '-' :: body else body)

/-- The text of a finite number with a fixed number of places behind the point. -/
def fixed (places : Nat) (value : Float) : String :=
  let binary := binary value
  let scaled := (Ratio.ofScaled binary.significand binary.exponent).divTen (-places)
  let found := digits scaled.round
  let padded := zeros (places + 1 - found.length) ++ found
  let whole := padded.take (padded.length - places)
  let body := if places = 0 then whole else whole ++ '.' :: padded.drop (padded.length - places)
  String.ofList (if isNegative value then '-' :: body else body)

end SourceFacts.Decimal
