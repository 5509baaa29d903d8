import SourceFacts.Task

/-!
Spans of time, and a clock that does not go on for ever: a moment that lies beyond its end cannot be
waited for.
-/
namespace SourceFacts

/-- A span of time: whole seconds, which are a word, and the nanoseconds behind them. -/
structure Duration where
  seconds : UInt64
  nanos : Nat
  small : nanos < 1000000000
  deriving DecidableEq, Repr

namespace Duration

/-- All of it in nanoseconds. -/
def total (span : Duration) : Nat := 1000000000 * span.seconds.toNat + span.nanos

/-- A number of milliseconds, which is a word. -/
def ofMillis (milliseconds : Nat) : Duration :=
  let word := milliseconds.toUInt64.toNat
  ⟨(word / 1000).toUInt64, 1000000 * (word % 1000), by omega⟩

/-- The longest span. -/
def longest : Duration := ⟨(Nat.pow 2 64 - 1).toUInt64, 999999999, by decide⟩

/-- The whole milliseconds in it, cut to a word. -/
def millis (span : Duration) : Nat := (span.total / 1000000).toUInt64.toNat

/-- A number of nanoseconds in a unit, with as many decimals as it takes. The unit is a power of
ten. -/
def inUnit (nanos unit : Nat) : String :=
  let digits := (toString (unit + nanos % unit)).toList.drop 1
  let decimals := (digits.reverse.dropWhile (· = '0')).reverse
  toString (nanos / unit) ++ if decimals.isEmpty then "" else "." ++ String.ofList decimals

/-- A span as text, in the largest unit of which there is a whole one. -/
def text (span : Duration) : String :=
  let nanos := span.total
  if 1000000000 ≤ nanos then inUnit nanos 1000000000 ++ "s"
  else if 1000000 ≤ nanos then inUnit nanos 1000000 ++ "ms"
  else if 1000 ≤ nanos then inUnit nanos 1000 ++ "µs"
  else toString nanos ++ "ns"

end Duration

/-- A clock: the moment that it shows and the last one that it can show, in nanoseconds. -/
structure Clock where
  now : Nat
  latest : Nat
  deriving DecidableEq, Repr, Inhabited

namespace Clock

/-- Whether the end of a span that begins now is a moment of the clock. -/
def reaches (clock : Clock) (span : Duration) : Bool := clock.now + span.total ≤ clock.latest

/-- What a crash says when a span leads beyond the end of the clock. -/
def overflow : String := "overflow when adding duration to instant"

/-- The moment at which a span ends that begins now. -/
def deadline (clock : Clock) (span : Duration) : Attempt Nat :=
  if clock.reaches span then .done (clock.now + span.total) else .crash (some overflow)

end Clock

end SourceFacts
