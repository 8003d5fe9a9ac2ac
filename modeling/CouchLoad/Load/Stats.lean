/-!
# Counts of writes
-/

namespace CouchLoad

/-- What has been written and what could not be written. -/
structure Stats where
  /-- Every revision of a document counts. -/
  documentWrites : Nat := 0
  documentFailures : Nat := 0
  attachmentWrites : Nat := 0
  attachmentFailures : Nat := 0
  conflictWrites : Nat := 0
  conflictFailures : Nat := 0
  reconnects : Nat := 0
  deriving DecidableEq, Repr

namespace Stats

/-- The failures of all kinds. -/
def failures (s : Stats) : Nat :=
  s.documentFailures + s.attachmentFailures + s.conflictFailures

/-- The counts of two runs together. -/
def add (s t : Stats) : Stats where
  documentWrites := s.documentWrites + t.documentWrites
  documentFailures := s.documentFailures + t.documentFailures
  attachmentWrites := s.attachmentWrites + t.attachmentWrites
  attachmentFailures := s.attachmentFailures + t.attachmentFailures
  conflictWrites := s.conflictWrites + t.conflictWrites
  conflictFailures := s.conflictFailures + t.conflictFailures
  reconnects := s.reconnects + t.reconnects

instance : Add Stats := ⟨add⟩

/-- The counts of many runs together. -/
def total (all : List Stats) : Stats :=
  all.foldl add {}

end Stats

end CouchLoad
