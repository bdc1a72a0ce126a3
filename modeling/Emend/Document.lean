import Emend.Span

/-!
# Kinds of documents

A document is a sequence of units that a fix edits: bytes of a text, lines of a file, or what a
client chooses. A `Shape` is one kind of document with what the engine needs of it. The offsets at
which a document may be cut are its boundaries, and `splice` replaces the units between two of
them by a payload; `content` gives the bytes by which two documents are told apart. Splicing into a
kind of document of the client's own may also fail for want of room.
-/

namespace Emend

/-- Why there is no room for a document. -/
inductive ReserveError where
  /-- No collection can be as long. -/
  | capacityOverflow
  /-- There is no memory for it. -/
  | outOfMemory
  deriving DecidableEq

/-- The wording of an error. -/
def ReserveError.message : ReserveError → String
  | capacityOverflow =>
    "memory allocation failed because the computed capacity exceeded the collection's maximum"
  | outOfMemory => "memory allocation failed because the memory allocator returned an error"

/-- Why a payload cannot be spliced in. -/
inductive SpliceError where
  /-- The range is inverted, ends behind the document or does not lie on boundaries. -/
  | outOfBounds (start stop length : Nat)
  /-- There is no room for the document that would come of it. -/
  | allocation (cause : ReserveError)
  deriving DecidableEq

/-- The wording of an error. -/
def SpliceError.message : SpliceError → String
  | outOfBounds start stop length =>
    s!"splice range {start}..{stop} is out of bounds for document of length {length}"
  | allocation cause => s!"failed to reserve memory for splice: {cause.message}"

/-- A kind of document. -/
structure Shape where
  /-- The documents. -/
  Doc : Type
  /-- What replaces a range of a document. -/
  Payload : Type
  /-- How many units a document has. -/
  size : Doc → Nat
  /-- How many units a payload has. -/
  payloadSize : Payload → Nat
  /-- May the document be cut at the offset? -/
  isBoundary : Doc → Nat → Bool
  /-- The document with the range from the first to the second offset replaced. -/
  splice : Doc → Nat → Nat → Payload → Except SpliceError Doc
  /-- The bytes that stand for a document when it is compared with others. -/
  content : Doc → ByteArray

end Emend
