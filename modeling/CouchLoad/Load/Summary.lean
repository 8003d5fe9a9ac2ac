import CouchLoad.Load.Samples
import CouchLoad.Load.Stats

/-!
# Summaries

What a run reports at its end, for each database and for all of them.
-/

namespace CouchLoad

open Decimal

/-- What became of one database. -/
structure DatabaseSummary where
  name : String
  /-- The number of documents that were asked for. -/
  documents : UInt64
  stats : Stats
  elapsed : Nat
  deriving DecidableEq, Repr

namespace DatabaseSummary

/-- Documents per second; zero if no time has passed. -/
def rate (d : DatabaseSummary) : Float :=
  let s := ResponseTime.seconds d.elapsed
  if s > 0.0 then d.documents.toFloat / s else 0.0

/-- The line about a database. -/
def display (d : DatabaseSummary) : String :=
  let seconds := String.ofList (fixed 2 (ResponseTime.seconds d.elapsed).toBits)
  let rate := String.ofList (fixed 1 d.rate.toBits)
  s!"Database '{d.name}': {d.documents} docs, " ++
    s!"{d.stats.documentWrites} document writes ({d.stats.documentFailures} failed), " ++
    s!"{d.stats.attachmentWrites} attachments ({d.stats.attachmentFailures} failed), " ++
    s!"{d.stats.conflictWrites} conflicts ({d.stats.conflictFailures} failed) " ++
    s!"in {seconds}s ({rate} docs/sec)"

end DatabaseSummary

/-- What became of a run: a summary for each database that could be created, and all samples. -/
structure Summary where
  databases : List DatabaseSummary
  samples : Samples
  deriving DecidableEq, Repr

/-- The counts of all databases together. -/
def Summary.totals (s : Summary) : Stats :=
  Stats.total (s.databases.map DatabaseSummary.stats)

end CouchLoad
