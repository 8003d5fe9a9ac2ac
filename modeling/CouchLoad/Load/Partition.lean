/-!
# Partitions

The counters of a database are divided among its workers. Each worker gets one range, and as long
as all counters fit a word, the ranges follow each other without gaps and none is empty. Counters
are words of 64 bits: behind the greatest of them comes zero. A range that would have to go on there
holds no counter. The division is also given with every step checked.
-/

namespace CouchLoad

/-- A range of counters, both ends included. -/
structure Partition where
  first : UInt64
  last : UInt64
  deriving DecidableEq, Repr

namespace Partition

/-- The number of counters in a range. -/
def size (p : Partition) : Nat :=
  p.last.toNat + 1 - p.first.toNat

/-- The counters of a range in ascending order. -/
def counters (p : Partition) : List Nat :=
  List.range' p.first.toNat p.size

/-- The number of counters in a range as a word. -/
def width (p : Partition) : UInt64 :=
  p.last - p.first + 1

/-- A range of one counter. -/
def single (counter : Nat) : Partition :=
  ⟨counter.toUInt64, counter.toUInt64⟩

/-- The range at a place. The last one ends where all counters end. -/
def range (share : UInt64) (workers : Nat) (start finish : UInt64) (place : Nat) : Partition :=
  let first := start + place.toUInt64 * share
  ⟨first, if place = workers - 1 then finish else first + share - 1⟩

/-- Divide `total` counters from `start` on among `workers`. All ranges have the same size, except
that the last one takes the remainder too; workers that are left without a counter get no range. -/
def divide (total : UInt64) (workers : Nat) (start : UInt64) : List Partition :=
  if workers = 0 || total = 0 then []
  else
    let stop := start + total
    if workers > total.toNat then
      (List.range' start.toNat (stop.toNat - start.toNat)).map single
    else
      (List.range workers).map (range (total / workers.toUInt64) workers start (stop - 1))

/-! ### Checked division

Here every sum and every product has to fit a word, and no difference may be negative. There is no
result if one of the steps goes wrong.
-/

/-- A sum, if it fits a word. -/
def sum? (m n : UInt64) : Option UInt64 :=
  if m.toNat + n.toNat < UInt64.size then some (m + n) else none

/-- A product, if it fits a word. -/
def product? (m n : UInt64) : Option UInt64 :=
  if m.toNat * n.toNat < UInt64.size then some (m * n) else none

/-- A difference, if it is not negative. -/
def difference? (m n : UInt64) : Option UInt64 :=
  if n ≤ m then some (m - n) else none

/-- The number of counters in a range, step by step. -/
def size? (p : Partition) : Option UInt64 :=
  (difference? p.last p.first).bind (sum? · 1)

/-- Where the range at a place ends, step by step. The last one ends where all counters end. -/
def last? (share : UInt64) (workers : Nat) (finish first : UInt64) (place : Nat) : Option UInt64 :=
  (difference? workers.toUInt64 1).bind fun final =>
    if place.toUInt64 = final then some finish else (sum? first share).bind (difference? · 1)

/-- The range at a place, step by step. -/
def range? (share : UInt64) (workers : Nat) (start finish : UInt64) (place : Nat) :
    Option Partition := do
  let first ← sum? start (← product? place.toUInt64 share)
  return ⟨first, ← last? share workers finish first place⟩

/-- Divide `total` counters from `start` on among `workers`, step by step. -/
def divide? (total : UInt64) (workers : Nat) (start : UInt64) : Option (List Partition) :=
  if workers = 0 || total = 0 then some []
  else do
    let stop ← sum? start total
    if workers > total.toNat then
      return (List.range' start.toNat (stop.toNat - start.toNat)).map single
    else
      let finish ← difference? stop 1
      (List.range workers).mapM (range? (total / workers.toUInt64) workers start finish)

/-- A range for messages. -/
def display (p : Partition) : String :=
  s!"{p.first}..{p.last}"

/-- What each worker has to do, one line for each. -/
def plan (partitions : List Partition) : String :=
  "\n".intercalate <| "Work distribution:" :: partitions.mapIdx fun i p =>
    s!"  worker {i + 1}: docs {p.display} ({p.width} ids)"

end Partition

end CouchLoad
