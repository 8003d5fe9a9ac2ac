import CouchLoad.Load.ResponseTime

/-!
# Samples of response times
-/

namespace CouchLoad

/-- What a sample measures: a write of documents, alone or many at once, or the upload of an
attachment. -/
inductive SampleKind where
  | document
  | attachment
  deriving DecidableEq, Repr

/-- The response times of a run, by what they measure. -/
structure Samples where
  documents : Array Nat := #[]
  attachments : Array Nat := #[]
  deriving DecidableEq, Repr

namespace Samples

/-- The samples of one kind. -/
def times (s : Samples) : SampleKind → Array Nat
  | .document => s.documents
  | .attachment => s.attachments

/-- Add samples of one kind. -/
def extend (s : Samples) (kind : SampleKind) (times : Array Nat) : Samples :=
  match kind with
  | .document => { s with documents := s.documents ++ times }
  | .attachment => { s with attachments := s.attachments ++ times }

/-- Add one sample. -/
def push (s : Samples) (kind : SampleKind) (time : Nat) : Samples :=
  s.extend kind #[time]

/-- Put the samples of two runs together. -/
def append (s t : Samples) : Samples :=
  ⟨s.documents ++ t.documents, s.attachments ++ t.attachments⟩

instance : Append Samples := ⟨append⟩

/-- The number of samples of one kind. -/
def count (s : Samples) (kind : SampleKind) : Nat :=
  (s.times kind).size

/-- The average of one kind, if there is a sample. -/
def average? (s : Samples) (kind : SampleKind) : Option Nat :=
  ResponseTime.average? (s.times kind).toList

end Samples

end CouchLoad
