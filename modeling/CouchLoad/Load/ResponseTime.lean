import CouchLoad.Decimal.Binary

/-!
# Response times

Times are counted in nanoseconds. Averages are taken over seconds in floating point, sample by
sample, so that they need no sum of all samples.
-/

namespace CouchLoad.ResponseTime

open Decimal

/-- A time in seconds. -/
def seconds (nanos : Nat) : Float :=
  (nanos / 1000000000).toUInt64.toFloat + (nanos % 1000000000).toUInt64.toFloat / 1000000000.0

/-- The time that is nearest to a number of seconds, if that number is finite. -/
def ofSeconds? (s : Float) : Option Nat :=
  (Binary.ofBits? s.toBits).map fun b =>
    let (num, den) := scaled b.mantissa b.exponent 9
    roundDiv num den

/-- The mean of some numbers. Each one moves the mean of those before it by its share. -/
def runningMean (samples : List Float) : Float :=
  (samples.foldl (fun (mean, n) x => (mean + (x - mean) / (n + 1), n + 1)) (0.0, 0.0)).1

/-- The average of some times; there is none of no times. -/
def average? (samples : List Nat) : Option Nat :=
  if samples.isEmpty then none else ofSeconds? (runningMean (samples.map seconds))

/-- The text of a time: in milliseconds below ten of them, else in seconds. -/
def display (nanos : Nat) : String :=
  let s := seconds nanos
  if s < 0.01 then String.ofList (fixed 3 (s * 1000.0).toBits) ++ " milliseconds"
  else String.ofList (fixed 3 s.toBits) ++ " seconds"

end CouchLoad.ResponseTime
