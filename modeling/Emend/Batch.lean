import Emend.Document.Lines
import Emend.Document.Text
import Emend.Log
import Emend.Representation
import Emend.Shift

/-!
# Applying a batch of fixes

A batch is a list of fixes that were all proposed for one state of a document. Fixes whose span is
no range of that state are rejected, the others resolved (`Emend.Resolution`), and the accepted
ones spliced in from the left, each where its span has moved to (`Emend.Shift`).

## Algorithm

`spliceAll` carries the document and the shift through the accepted fixes. It stops at the first
fix that cannot be spliced in and leaves the document as the fixes before it have made it.
-/

namespace Emend

/-- What became of a batch. -/
structure FixReport (P : Type) where
  applied : List (Fix P)
  rejected : List (RejectedFix P)
  delta : Int
  deriving DecidableEq

namespace FixReport

variable {P : Type}

/-- The report on no fixes. -/
def empty : FixReport P := ⟨[], [], 0⟩

/-- How many fixes were applied. -/
def appliedCount (report : FixReport P) : Nat := report.applied.length

/-- Was any fix applied? -/
def modified (report : FixReport P) : Bool := !report.applied.isEmpty

instance [ToJson P] : ToJson (FixReport P) where
  toJson report := .object
    [("applied", toJson report.applied), ("applied_count", toJson report.appliedCount),
      ("delta", toJson report.delta), ("modified", toJson report.modified),
      ("rejected", toJson report.rejected)]

end FixReport

/-- What an edit leaves: the document, the result or why it stopped, and what was logged. -/
structure Edited (D α : Type) where
  content : D
  result : Except FixerError α
  log : List Event

namespace Batch

variable (s : Shape)

/-- Is the fix's span a range of the document? -/
def fits (doc : s.Doc) (fix : Fix s.Payload) : Bool :=
  fix.span.start ≤ fix.span.stop && fix.span.stop ≤ s.size doc &&
    s.isBoundary doc fix.span.start && s.isBoundary doc fix.span.stop

theorem fits_iff {s : Shape} {doc : s.Doc} {fix : Fix s.Payload} :
    fits s doc fix ↔ fix.span.start ≤ fix.span.stop ∧ fix.span.stop ≤ s.size doc ∧
      s.isBoundary doc fix.span.start ∧ s.isBoundary doc fix.span.stop := by
  simp only [fits, Bool.and_eq_true, decide_eq_true_eq, and_assoc]

/-- The rejection of a fix whose span is no range of the document. -/
def refuse (doc : s.Doc) (c : Candidate s.Payload) : RejectedFix s.Payload :=
  ⟨c.index, c.fix, .invalidRange c.fix.span (s.size doc)⟩

/-- Splices the fixes in one after the other. -/
def spliceAll (shift : Shift) (doc : s.Doc) : List (Fix s.Payload) → Edited s.Doc Shift
  | [] => ⟨doc, .ok shift, []⟩
  | fix :: rest =>
    match shift.locate fix.span with
    | .error e => ⟨doc, .error e, []⟩
    | .ok range =>
      let event := .applying fix.origin fix.span range
      match s.splice doc range.start range.stop fix.payload with
      | .error e => ⟨doc, .error (.spliceFailure e), [event]⟩
      | .ok doc =>
        let done := spliceAll (shift.record fix.span.length (s.payloadSize fix.payload)) doc rest
        { done with log := event :: done.log }

/-- Applies the batch to the document. -/
def apply (doc : s.Doc) (fixes : List (Fix s.Payload)) (policy : SamePointPolicy) :
    Edited s.Doc (FixReport s.Payload) :=
  if fixes.isEmpty then ⟨doc, .ok .empty, []⟩
  else
    let candidates := Candidate.enumerate fixes
    let refused := (candidates.filter fun c => !fits s doc c.fix).map (refuse s doc)
    let verdict := Resolution.ofCandidates policy (candidates.filter fun c => fits s doc c.fix)
    let done := spliceAll s .zero doc verdict.accepted
    let report (shift : Shift) : FixReport s.Payload :=
      ⟨verdict.accepted,
        stableSort (fun a b => a.index ≤ b.index) (refused ++ verdict.rejected), shift.delta⟩
    { content := done.content
      result := done.result.map report
      log := refused.map (fun r => .invalidSpan r.fix.origin r.fix.span (s.size doc)) ++
        verdict.rejected.map (fun r => .skipped r.fix.origin r.reason) ++ done.log }

end Batch

/-- A fixer applies batches to the representations with its tag. -/
structure Fixer (s : Shape) where
  tag : Tag
  policy : SamePointPolicy := .firstSubmitted

namespace Fixer

/-- The fixer for whole texts. -/
def text (policy : SamePointPolicy := .firstSubmitted) : Fixer .text := ⟨.text, policy⟩

/-- The fixer for line lists. -/
def lines (policy : SamePointPolicy := .firstSubmitted) : Fixer .lines := ⟨.line, policy⟩

variable {s : Shape}

/-- What a fixer says of itself. -/
instance : ToJson (Fixer s) where
  toJson fixer := .object [("ir_type", toJson fixer.tag), ("policy", toJson fixer.policy)]

/-- Applies a batch under the given policy. A representation with another tag is left alone. -/
def applyWith (fixer : Fixer s) (r : Representation s.Doc) (fixes : List (Fix s.Payload))
    (policy : SamePointPolicy) : Edited (Representation s.Doc) (FixReport s.Payload) :=
  if r.tag ≠ fixer.tag then ⟨r, .error (.unsupportedRepresentation fixer.tag r.tag), []⟩
  else
    let done := Batch.apply s r.content fixes policy
    ⟨r.withContent done.content, done.result, done.log⟩

/-- Applies a batch under the fixer's own policy. -/
def apply (fixer : Fixer s) (r : Representation s.Doc) (fixes : List (Fix s.Payload)) :
    Edited (Representation s.Doc) (FixReport s.Payload) :=
  fixer.applyWith r fixes fixer.policy

end Fixer

end Emend
