import Emend.Proofs.Batch.Interrupted
import Emend.Proofs.Batch.Report
import Emend.Proofs.Document.Atomic

/-!
# The log as an edit script

A batch that is applied logs the fixes that it rejects, first those whose span is no range of the
document and then those at odds with another, each kind in the order of the batch, and then the
fixes that it splices in, each with the range at which its span lies by then. So what is logged of
the latter, with their payloads, is a script of edits that follow one another. Replaying it
(`replay?`) on the units that the document had leads to those that it has
(`Fixer.applyWith_logs_script`).

A script counts in units that change with every edit. That its ranges are right is said for one edit
by `Shape.units_of_splice` and from there for a run of splices by `Batch.exists_script`.
-/

namespace Emend

/-- The units with the range of each edit replaced, one after the other. A range counts in the units
that the edits ahead of it have left, and has to be a range of these. -/
def replay? {U : Type} (units : List U) : List (Span × List U) → Option (List U)
  | [] => some units
  | (range, payload) :: edits =>
    if range.start ≤ range.stop ∧ range.stop ≤ units.length then
      replay? (units.take range.start ++ payload ++ units.drop range.stop) edits
    else none

/-- Fixes that are spliced in, each with the range at which this is done. -/
abbrev Script (P : Type) := List (Fix P × Span)

namespace Script

variable {P : Type}

/-- What is logged of the fixes. -/
def events (script : Script P) : List Event :=
  script.map fun entry => .applying entry.1.origin entry.1.span entry.2

/-- The edits that put the payloads of the fixes in, one after the other. -/
def edits {U : Type} (units : P → List U) (script : Script P) : List (Span × List U) :=
  script.map fun entry => (entry.2, units entry.1.payload)

end Script

/-- Is it the span of the fix itself that is at fault? -/
def Rejection.isInvalidRange : Rejection → Bool
  | invalidRange .. => true
  | conflict .. => false

/-! ## Runs of splices -/

section
open Shape.Sequential (units payloadUnits)

variable {s : Shape} [s.Sequential] [s.Atomic]

/-- Wherever a payload is spliced in, there is a range of units, and the payload takes its place. -/
theorem Shape.units_of_splice {doc next : s.Doc} {start stop : Nat} {payload : s.Payload}
    (h : s.splice doc start stop payload = .ok next) :
    start ≤ stop ∧ stop ≤ (units doc).length ∧
      units next = (units doc).take start ++ payloadUnits payload ++ (units doc).drop stop := by
  obtain ⟨hle, hstart, hstop⟩ := Shape.Atomic.exists_splice_iff.1 ⟨next, h⟩
  obtain ⟨next', hnext, hunits, -⟩ := Shape.Sequential.splice_spec payload hle hstart hstop
  obtain rfl := Except.ok.inj (h.symm.trans hnext)
  rw [Shape.Sequential.length_units]
  exact ⟨hle, Shape.Atomic.stop_le_size_of_isBoundary hstop, hunits⟩

/-- The log of a run of splices is a script for what the run makes of the document. -/
theorem Batch.exists_script {shift shift' : Shift} {cur : s.Doc} {fixes : List (Fix s.Payload)}
    (h : (spliceAll s shift cur fixes).result = .ok shift') :
    ∃ script : Script s.Payload, script.map Prod.fst = fixes ∧
      (spliceAll s shift cur fixes).log = script.events ∧
      (∀ entry ∈ script, entry.2.start + entry.1.span.length = entry.2.stop) ∧
      replay? (units cur) (script.edits payloadUnits) =
        some (units (spliceAll s shift cur fixes).content) := by
  induction fixes generalizing shift cur with
  | nil => exact ⟨[], rfl, rfl, nofun, rfl⟩
  | cons fix fixes ih =>
    obtain ⟨range, next, hlocate, hsplice⟩ := exists_of_spliceAll_cons h
    rw [spliceAll_cons hlocate hsplice] at h ⊢
    obtain ⟨script, hfixes, hlog, hlengths, hreplay⟩ := ih h
    obtain ⟨hle, hstop, hunits⟩ := Shape.units_of_splice hsplice
    have hlength : range.start + fix.span.length = range.stop := by
      obtain ⟨hstart, hstop, -⟩ := Shift.locate_eq_ok_iff_moved.1 hlocate
      unfold Span.length
      omega
    refine ⟨(fix, range) :: script, ?_, ?_, List.forall_mem_cons.2 ⟨hlength, hlengths⟩, ?_⟩
    · rw [List.map_cons, hfixes]
    · exact congrArg (_ :: ·) hlog
    · show (if _ then replay? _ (script.edits payloadUnits) else none) = _
      rw [if_pos ⟨hle, hstop⟩, ← hunits]
      exact hreplay

end

/-! ## Rejections by their kind -/

namespace Batch

variable {s : Shape} {doc : s.Doc} {fixes : List (Fix s.Payload)} {policy : SamePointPolicy}
  {x : RejectedFix s.Payload}

theorem isInvalidRange_of_mem_refused (h : x ∈ refused s doc fixes) :
    x.reason.isInvalidRange = true := by
  rw [(mem_refused_iff.1 h).2.2]
  rfl

theorem isInvalidRange_of_mem_verdict (h : x ∈ (verdict s doc fixes policy).rejected) :
    x.reason.isInvalidRange = false := by
  obtain ⟨culprit, -, hreason⟩ := exists_culprit_of_mem_swept (mem_stableSort.1 h)
  rw [hreason]
  rfl

theorem inOrder_refused : inOrder (refused s doc fixes) = refused s doc fixes := by
  refine inOrder_eq_self (List.pairwise_map.2 ?_)
  exact ((Candidate.pairwise_index_enumerate fixes).filter _).imp Nat.le_of_lt

theorem filter_rejected_report (p : RejectedFix s.Payload → Bool) (shift : Shift) :
    (report s doc fixes policy shift).rejected.filter p =
      inOrder ((refused s doc fixes).filter p ++
        (verdict s doc fixes policy).rejected.filter p) := by
  rw [← List.filter_append]
  exact filter_stableSort (key_le_total _) (key_le_trans _) _

end Batch

namespace Fixer

open Shape.Sequential (units payloadUnits)

section
variable {s : Shape} {fixer : Fixer s} {r : Representation s.Doc} {fixes : List (Fix s.Payload)}
  {policy : SamePointPolicy} {report : FixReport s.Payload}
  (h : (fixer.applyWith r fixes policy).result = .ok report)
include h

theorem filter_isInvalidRange : (report.rejected.filter fun x => x.reason.isInvalidRange) =
    Batch.refused s r.content fixes := by
  obtain ⟨shift, rfl⟩ := exists_report_eq h
  rw [Batch.filter_rejected_report,
    List.filter_eq_self.2 fun x hx => Batch.isInvalidRange_of_mem_refused hx,
    List.filter_eq_nil_iff.2 fun x hx => by simp [Batch.isInvalidRange_of_mem_verdict hx],
    List.append_nil, Batch.inOrder_refused]

theorem filter_not_isInvalidRange : (report.rejected.filter fun x => !x.reason.isInvalidRange) =
    (Batch.verdict s r.content fixes policy).rejected := by
  obtain ⟨shift, rfl⟩ := exists_report_eq h
  rw [Batch.filter_rejected_report,
    List.filter_eq_nil_iff.2 fun x hx => by simp [Batch.isInvalidRange_of_mem_refused hx],
    List.filter_eq_self.2 fun x hx => by simp [Batch.isInvalidRange_of_mem_verdict hx],
    List.nil_append]
  exact inOrder_eq_self (pairwise_inOrder _)

end

/-- A batch that is applied logs a warning for each rejection, first those for the span of the fix
itself and then the others, both in the order of the batch. Behind these it logs for each fix that
is applied, in the order of application, its span and a range as long as that. Putting the payloads
in for these ranges, one after the other, makes of the document what the batch leaves. -/
theorem applyWith_logs_script {s : Shape} [s.Sequential] [s.Atomic] {fixer : Fixer s}
    {r : Representation s.Doc} {fixes : List (Fix s.Payload)} {policy : SamePointPolicy}
    {report : FixReport s.Payload} (h : (fixer.applyWith r fixes policy).result = .ok report) :
    let done := fixer.applyWith r fixes policy
    ∃ script : Script s.Payload, script.map Prod.fst = report.applied ∧
      done.log =
        (report.rejected.filter fun x => x.reason.isInvalidRange).map
            (fun x => Event.invalidSpan x.fix.origin x.fix.span (s.size r.content)) ++
          (report.rejected.filter fun x => !x.reason.isInvalidRange).map
            (fun x => Event.skipped x.fix.origin x.reason) ++
          script.events ∧
      report.rejected.Pairwise (fun a b => a.index < b.index) ∧
      done.log.map Event.level = List.replicate report.rejected.length .warn ++
        List.replicate report.applied.length .debug ∧
      (∀ entry ∈ script, entry.2.start + entry.1.span.length = entry.2.stop) ∧
      replay? (units r.content) (script.edits payloadUnits) =
        some (units done.content.content) := by
  intro done
  obtain ⟨shift, hrun, hreport⟩ := exists_run_of_ok h
  obtain ⟨script, hfixes, hlog, hlengths, hreplay⟩ := Batch.exists_script hrun
  have happlied : script.map Prod.fst = report.applied := by
    rw [hfixes, hreport]
    rfl
  have hdone : done.log =
      (report.rejected.filter fun x => x.reason.isInvalidRange).map
          (fun x => Event.invalidSpan x.fix.origin x.fix.span (s.size r.content)) ++
        (report.rejected.filter fun x => !x.reason.isInvalidRange).map
          (fun x => Event.skipped x.fix.origin x.reason) ++
        script.events := by
    rw [filter_isInvalidRange h, filter_not_isInvalidRange h, ← hlog]
    show (applyWith _ _ _ _).log = _
    rw [applyWith, if_neg (not_not_intro (tag_eq_of_ok h)), Batch.apply_eq]
  refine ⟨script, happlied, hdone, pairwise_index_rejected h, ?_, hlengths, ?_⟩
  · have hlength : script.length = report.applied.length := by
      rw [← happlied, List.length_map]
    have hsplit := List.length_eq_length_filter_add (l := report.rejected)
      fun x => x.reason.isInvalidRange
    rw [hdone, List.map_append, List.map_append, List.map_map, List.map_map, Script.events,
      List.map_map, hsplit, ← List.replicate_append_replicate, ← hlength]
    simp [Function.comp_def, Event.level]
  · show _ = some (units (applyWith _ _ _ _).content.content)
    rw [content_applyWith (tag_eq_of_ok h)]
    exact hreplay

/-- In a text with a character of two bytes, which the first fix would cut in two. The last one is
behind the end, and the third comes too late for what it replaces. -/
theorem applyWith_logs_script_shifted :
    let r : Representation String := ⟨.text, "añb", ⟨"f"⟩⟩
    let fixes : List (Fix String) := [.insert 2 "x" "c", ⟨⟨1, 3⟩, "ooo", "b"⟩, ⟨⟨1, 3⟩, "n", "a"⟩,
      .insert 1 "é" "a", ⟨⟨3, 4⟩, "", "a"⟩, .insert 5 "r" "b"]
    let applied : List (Fix String) :=
      [.insert 1 "é" "a", ⟨⟨1, 3⟩, "ooo", "b"⟩, ⟨⟨3, 4⟩, "", "a"⟩]
    let rejected : List (RejectedFix String) := [⟨0, .insert 2 "x" "c", .invalidRange ⟨2, 2⟩ 4⟩,
      ⟨2, ⟨⟨1, 3⟩, "n", "a"⟩, .conflict ⟨1, 3⟩ "b" ⟨1, 3⟩⟩,
      ⟨5, .insert 5 "r" "b", .invalidRange ⟨5, 5⟩ 4⟩]
    let warnings : List Event := [.invalidSpan "c" ⟨2, 2⟩ 4, .invalidSpan "b" ⟨5, 5⟩ 4,
      .skipped "a" (.conflict ⟨1, 3⟩ "b" ⟨1, 3⟩)]
    let done := Fixer.text.applyWith r fixes .firstSubmitted
    done.result = .ok ⟨applied, rejected, 2⟩ ∧
    done.log.map Event.message =
      ["Invalid fix span from 'c': start=2, end=2, content_len=4",
        "Invalid fix span from 'b': start=5, end=5, content_len=4",
        "Skipping fix from 'a': fix at 1..3 conflicts with fix from 'b' at 1..3",
        "Applying fix from 'a': replace [1..1] at [1..1]",
        "Applying fix from 'b': replace [1..3] at [3..5]",
        "Applying fix from 'a': replace [3..4] at [6..7]"] ∧
    ∃ script : Script String, script.map Prod.fst = applied ∧
      done.log = warnings ++ script.events ∧
      replay? (Text.bytes "añb") (script.edits Text.bytes) = some (Text.bytes "aéooo") := by
  intro r fixes applied rejected warnings done
  have hresult : done.result = .ok ⟨applied, rejected, 2⟩ := by cbv
  have hcontent : done.content.content = "aéooo" := by cbv
  have hevents : done.log = [.invalidSpan "c" ⟨2, 2⟩ 4, .invalidSpan "b" ⟨5, 5⟩ 4,
      .skipped "a" (.conflict ⟨1, 3⟩ "b" ⟨1, 3⟩), .applying "a" ⟨1, 1⟩ ⟨1, 1⟩,
      .applying "b" ⟨1, 3⟩ ⟨3, 5⟩, .applying "a" ⟨3, 4⟩ ⟨6, 7⟩] := by cbv
  obtain ⟨script, hfixes, hlog, -, -, -, hreplay⟩ := applyWith_logs_script hresult
  refine ⟨hresult, ?_, script, hfixes, hlog, hreplay.trans ?_⟩
  · rw [hevents]
    decide +kernel
  · rw [hcontent]
    rfl

end Fixer

end Emend
