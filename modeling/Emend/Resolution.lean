import Emend.Fix
import Emend.StableSort

/-!
# Resolving conflicts between fixes

The fixes of a batch are taken in the order of their spans, those with equal spans in the order of
submission. A fix that overlaps the last one accepted is rejected. Insertions at one point are
settled together: if they come from one origin, all are accepted, and otherwise the policy decides.

## Algorithm

`Resolution.sweep` goes over the sorted candidates once and keeps the last fix accepted; a run of
insertions at one point is cut off the front and settled by `settle`. The rejected fixes are
listed in the order of submission.
-/

namespace Emend

/-- What becomes of insertions at one point that come from different origins. -/
inductive SamePointPolicy where
  /-- Those of the origin that was submitted first are accepted. -/
  | firstSubmitted
  /-- None is accepted. -/
  | rejectAll
  deriving DecidableEq, Inhabited

namespace SamePointPolicy

/-- The policies with their names. -/
def named : List (String × SamePointPolicy) :=
  [("first-submitted", firstSubmitted), ("reject-all", rejectAll)]

/-- The name of a policy. -/
def name : SamePointPolicy → String
  | firstSubmitted => "first-submitted"
  | rejectAll => "reject-all"

instance : ToJson SamePointPolicy := ⟨fun p => .string p.name⟩

instance : FromJson SamePointPolicy := ⟨decodeEnum named, none⟩

end SamePointPolicy

/-- Why a fix is not applied. -/
inductive Rejection where
  /-- The span is no range of the document, which has `length` units. -/
  | invalidRange (span : Span) (length : Nat)
  /-- The fix is at odds with the one of `origin` at `other`. -/
  | conflict (span : Span) (origin : String) (other : Span)
  deriving DecidableEq

namespace Rejection

/-- The wording of a rejection. -/
def message : Rejection → String
  | invalidRange span length =>
    s!"fix range {span.start}..{span.stop} is invalid for a document of length {length}"
  | conflict span origin other =>
    s!"fix at {span.start}..{span.stop} conflicts with fix from '{origin}' at " ++
      s!"{other.start}..{other.stop}"

instance : ToJson Rejection where
  toJson
    | invalidRange span length => .object
      [("kind", .string "invalid_fix_range"), ("len", toJson length), ("span", toJson span)]
    | conflict span origin other => .object
      [("conflicting_origin", toJson origin), ("conflicting_span", toJson other),
        ("kind", .string "conflict_rejected"), ("span", toJson span)]

end Rejection

/-- A fix with its place in the batch. -/
structure Candidate (P : Type) where
  index : Nat
  fix : Fix P
  deriving DecidableEq

/-- A rejected fix with its place in the batch. -/
structure RejectedFix (P : Type) where
  index : Nat
  fix : Fix P
  reason : Rejection
  deriving DecidableEq

/-- Which fixes of a batch are accepted, in the order in which they apply, and which are not. -/
structure Resolution (P : Type) where
  accepted : List (Fix P)
  rejected : List (RejectedFix P)
  deriving DecidableEq

instance {P : Type} [ToJson P] : ToJson (RejectedFix P) where
  toJson r := .object
    [("fix", toJson r.fix), ("index", toJson r.index), ("message", toJson r.reason.message),
      ("reason", toJson r.reason)]

namespace Candidate

variable {P : Type}

/-- Does `a` come no later than `b` in the order of spans? -/
def le (a b : Candidate P) : Bool :=
  a.fix.span.start < b.fix.span.start ||
    (a.fix.span.start == b.fix.span.start && a.fix.span.stop ≤ b.fix.span.stop)

/-- The fixes of a batch with their places. -/
def enumerate (fixes : List (Fix P)) : List (Candidate P) :=
  fixes.zipIdx.map fun (fix, index) => ⟨index, fix⟩

/-- The rejection of a candidate for a fix that it is at odds with. -/
def blame (c : Candidate P) (other : Fix P) : RejectedFix P :=
  ⟨c.index, c.fix, .conflict c.fix.span other.origin other.span⟩

end Candidate

namespace Resolution

variable {P : Type}

/-- The verdicts of `a` before those of `b`. -/
def append (a b : Resolution P) : Resolution P :=
  ⟨a.accepted ++ b.accepted, a.rejected ++ b.rejected⟩

/-- Settles the insertions at one point, `first` among them. -/
def settle (policy : SamePointPolicy) (first : Candidate P) (group : List (Candidate P)) :
    Resolution P :=
  if group.all fun c => c.fix.origin == first.fix.origin then ⟨group.map Candidate.fix, []⟩
  else
    match policy with
    | .firstSubmitted =>
      ⟨(group.filter fun c => c.fix.origin == first.fix.origin).map Candidate.fix,
        (group.filter fun c => c.fix.origin != first.fix.origin).map (·.blame first.fix)⟩
    | .rejectAll =>
      ⟨[], group.filterMap fun c =>
        (group.find? fun other => other.fix.origin != c.fix.origin).map fun other =>
          c.blame other.fix⟩

/-- Is `c` an insertion at `offset`? -/
def insertsAt (offset : Nat) (c : Candidate P) : Bool :=
  c.fix.isInsertion && c.fix.span.start == offset

/-- The fix that `c` overlaps, if that is the last one accepted. -/
def claimant? (last : Option (Fix P)) (c : Candidate P) : Option (Fix P) :=
  last.filter fun fix => c.fix.span.overlaps fix.span

/-- The verdicts on sorted candidates after `last` was accepted. -/
def sweep (policy : SamePointPolicy) (last : Option (Fix P)) :
    List (Candidate P) → Resolution P
  | [] => ⟨[], []⟩
  | c :: rest =>
    match claimant? last c with
    | some claimant => append ⟨[], [c.blame claimant]⟩ (sweep policy last rest)
    | none =>
      if c.fix.isInsertion then
        let point := c.fix.span.start
        let verdict := settle policy c (c :: rest.takeWhile (insertsAt point))
        append verdict
          (sweep policy (verdict.accepted.getLast?.or last) (rest.dropWhile (insertsAt point)))
      else append ⟨[c.fix], []⟩ (sweep policy (some c.fix) rest)
termination_by candidates => candidates.length
decreasing_by
  all_goals simp only [List.length_cons]
  · omega
  · have := (List.dropWhile_sublist (insertsAt c.fix.span.start) (l := rest)).length_le
    omega
  · omega

/-- The verdicts on candidates in any order. -/
def ofCandidates (policy : SamePointPolicy) (candidates : List (Candidate P)) : Resolution P :=
  let verdict := sweep policy none (stableSort Candidate.le candidates)
  ⟨verdict.accepted, stableSort (fun a b => a.index ≤ b.index) verdict.rejected⟩

end Resolution

/-- The verdicts on a batch. -/
def resolve {P : Type} (fixes : List (Fix P)) (policy : SamePointPolicy) : Resolution P :=
  .ofCandidates policy (Candidate.enumerate fixes)

end Emend
