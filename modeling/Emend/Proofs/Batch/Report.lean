import Emend.Proofs.Batch.Partition

/-!
# What a report says of its batch

The candidates that fit are sorted and swept without the others, but that is how they stand in the
arrangement of the whole batch (`sorted_eq_filter`). So taking the places of all rejections out of
that arrangement leaves the fixes applied (`applied_eq_survivors`), and a rejection says whether it
is for the span of the fix itself or for another fix of the batch.
-/

namespace Emend

namespace Batch

section
variable (s : Shape) (doc : s.Doc)

/-- The span is no range of the document. It is inverted, it ends behind the document, or the
document may not be cut where it starts or stops. -/
def Unfit (span : Span) : Prop :=
  span.stop < span.start ∨ s.size doc < span.stop ∨ ¬ s.isBoundary doc span.start ∨
    ¬ s.isBoundary doc span.stop

end

section
variable {s : Shape} {doc : s.Doc} {fixes : List (Fix s.Payload)} {policy : SamePointPolicy}
  {fix : Fix s.Payload} {c : Candidate s.Payload} {x : RejectedFix s.Payload}

theorem unfit_iff : Unfit s doc fix.span ↔ ¬ fits s doc fix := by
  rw [Unfit, fits_iff]
  grind

/-! ## Rejections -/

theorem mem_refused_iff : x ∈ refused s doc fixes ↔ x.candidate ∈ Candidate.enumerate fixes ∧
    Unfit s doc x.fix.span ∧ x.reason = .invalidRange x.fix.span (s.size doc) := by
  rw [refused, List.mem_map, unfit_iff]
  constructor
  · rintro ⟨c, hc, rfl⟩
    obtain ⟨hc, hunfit⟩ := List.mem_filter.1 hc
    exact ⟨hc, by simpa [refuse] using hunfit, rfl⟩
  · obtain ⟨place, fix, reason⟩ := x
    rintro ⟨hc, hunfit, hreason⟩
    obtain rfl : reason = .invalidRange fix.span (s.size doc) := hreason
    exact ⟨⟨place, fix⟩, List.mem_filter.2 ⟨hc, by simpa using hunfit⟩, rfl⟩

theorem index_mem_refused_iff (hc : c ∈ Candidate.enumerate fixes) :
    c.index ∈ (refused s doc fixes).map RejectedFix.index ↔ ¬ fits s doc c.fix := by
  rw [← unfit_iff, List.mem_map]
  constructor
  · rintro ⟨x, hx, hindex⟩
    obtain ⟨hmem, hunfit, -⟩ := mem_refused_iff.1 hx
    obtain rfl := Candidate.eq_of_index_eq hmem hc hindex
    exact hunfit
  · intro hunfit
    exact ⟨refuse s doc c, mem_refused_iff.2 ⟨hc, hunfit, rfl⟩, rfl⟩

/-- A candidate that fits is rejected for another fix of the batch. -/
theorem exists_culprit_of_mem_swept (hx : x ∈ (swept s doc fixes policy).rejected) :
    ∃ culprit ∈ fixes, x.reason = .conflict x.fix.span culprit.origin culprit.span := by
  have hsubmitted : ∀ fix ∈ (sorted s doc fixes).map Candidate.fix, fix ∈ fixes := by
    intro fix hfix
    obtain ⟨c, hc, rfl⟩ := List.mem_map.1 hfix
    exact Candidate.fix_mem_of_mem_enumerate (mem_sorted_iff.1 hc).1
  have haccepted : ∀ fix ∈ (swept s doc fixes policy).accepted, fix ∈ fixes := fun fix hfix =>
    hsubmitted fix (Resolution.accepted_sublist.subset hfix)
  obtain ⟨culprit, hreason, ⟨-, hmem⟩ | ⟨-, hmem⟩⟩ := Resolution.blamed_of_mem_rejected hx
  · exact ⟨culprit, haccepted culprit hmem, hreason⟩
  · refine ⟨culprit, ?_, hreason⟩
    cases policy with
    | firstSubmitted => exact haccepted culprit hmem
    | rejectAll => exact hsubmitted culprit hmem

/-! ## The arrangement of the batch -/

/-- The candidates that fit stand as they do in the arrangement of the whole batch. -/
theorem sorted_eq_filter : sorted s doc fixes =
    (stableSort Candidate.le (Candidate.enumerate fixes)).filter fun c => fits s doc c.fix :=
  (filter_stableSort Candidate.le_total Candidate.le_trans _).symm

theorem nodup_index_sorted : ((sorted s doc fixes).map Candidate.index).Nodup := by
  rw [sorted_eq_filter]
  exact (nodup_index_stableSort_enumerate fixes).sublist (List.filter_sublist.map _)

/-- The fixes accepted are those left when all rejections are taken out of the arrangement. -/
theorem accepted_swept : (swept s doc fixes policy).accepted =
    Resolution.survivors (stableSort Candidate.le (Candidate.enumerate fixes))
      (rejections s doc fixes policy) := by
  calc (swept s doc fixes policy).accepted
    _ = Resolution.survivors (sorted s doc fixes) (swept s doc fixes policy).rejected :=
      Resolution.accepted_sweep nodup_index_sorted
    _ = Resolution.survivors ((stableSort Candidate.le (Candidate.enumerate fixes)).filter
          fun c => fits s doc c.fix) (swept s doc fixes policy).rejected := by
      rw [← sorted_eq_filter]
    _ = _ := by
      rw [Resolution.survivors, List.filter_filter, Resolution.survivors]
      congr 1
      refine List.filter_congr fun c hc => ?_
      have hrefused : c.index ∈ (refused s doc fixes).map RejectedFix.index ↔
          ¬ fits s doc c.fix := index_mem_refused_iff (mem_stableSort.1 hc)
      by_cases hfits : fits s doc c.fix
      · have hother : c.index ∉ (refused s doc fixes).map RejectedFix.index :=
          fun hmem => hrefused.1 hmem hfits
        simp only [rejections, List.map_append, List.mem_append, hother, hfits, false_or,
          Bool.and_true]
      · simp only [rejections, List.map_append, List.mem_append, hrefused.2 hfits, hfits,
          true_or, not_true_eq_false, decide_false, Bool.and_false]

end

end Batch

namespace Fixer

variable {s : Shape} {fixer : Fixer s} {r : Representation s.Doc} {fixes : List (Fix s.Payload)}
  {policy : SamePointPolicy} {report : FixReport s.Payload}
  (h : (fixer.applyWith r fixes policy).result = .ok report)
include h

theorem applied_eq_survivors : report.applied =
    Resolution.survivors (stableSort Candidate.le (Candidate.enumerate fixes)) report.rejected := by
  obtain ⟨shift, rfl⟩ := exists_report_eq h
  rw [Batch.report_eq]
  refine Batch.accepted_swept.trans (Resolution.survivors_of_perm ?_)
  exact (stableSort_perm _ _).symm

/-- A fix is rejected for its own span exactly if that is no range of the document. -/
theorem mem_rejected_iff_unfit {place : Nat} {fix : Fix s.Payload}
    (hfix : fixes[place]? = some fix) :
    ⟨place, fix, .invalidRange fix.span (s.size r.content)⟩ ∈ report.rejected ↔
      Batch.Unfit s r.content fix.span := by
  rw [mem_rejected_iff h, Batch.rejections, List.mem_append, Batch.mem_refused_iff]
  constructor
  · rintro (⟨-, hunfit, -⟩ | hswept)
    · exact hunfit
    · obtain ⟨culprit, -, hreason⟩ := Batch.exists_culprit_of_mem_swept hswept
      cases hreason
  · intro hunfit
    exact .inl ⟨Candidate.mem_enumerate_iff.2 hfix, hunfit, rfl⟩

/-- A fix is rejected for its own span or for another fix of the batch. -/
theorem reason_of_mem_rejected {x : RejectedFix s.Payload} (hx : x ∈ report.rejected) :
    x.reason = .invalidRange x.fix.span (s.size r.content) ∨
      ∃ culprit ∈ fixes, x.reason = .conflict x.fix.span culprit.origin culprit.span := by
  rw [mem_rejected_iff h] at hx
  refine (List.mem_append.1 hx).imp (fun hrefused => ?_) Batch.exists_culprit_of_mem_swept
  exact (Batch.mem_refused_iff.1 hrefused).2.2

/-- A report parts its batch in two. It names the rejected fixes by their places, in order, those
for their own span being those whose span is no range of the document, and the others for a fix of
the batch. And it lists as applied all other fixes, in the one arrangement of the batch by spans in
which those with equal spans stand as they were submitted. -/
theorem applyWith_parts_batch :
    report.rejected.Pairwise (fun a b => a.index < b.index) ∧
    (∀ x ∈ report.rejected, fixes[x.index]? = some x.fix ∧
      (x.reason = .invalidRange x.fix.span (s.size r.content) ∨
        ∃ culprit ∈ fixes, x.reason = .conflict x.fix.span culprit.origin culprit.span)) ∧
    (∀ place fix, fixes[place]? = some fix →
      (⟨place, fix, .invalidRange fix.span (s.size r.content)⟩ ∈ report.rejected ↔
        Batch.Unfit s r.content fix.span)) ∧
    (∃ sorted, (∀ cs, Candidate.Arranged fixes cs ↔ cs = sorted) ∧
      report.applied = Resolution.survivors sorted report.rejected) ∧
    (report.applied ++ report.rejected.map RejectedFix.fix).Perm fixes := by
  refine ⟨pairwise_index_rejected h, fun x hx => ⟨?_, reason_of_mem_rejected h hx⟩,
    fun place fix hfix => mem_rejected_iff_unfit h hfix,
    ⟨_, fun cs => Candidate.arranged_iff, applied_eq_survivors h⟩,
    applied_append_rejected_perm h⟩
  exact Candidate.mem_enumerate_iff.1 (candidate_mem_of_mem_rejected h hx)

omit h

/-- In a text with a character of two bytes, which the first fix would cut in two, an inverted span,
one behind the end, two rivals and a replacement from their point. -/
theorem applyWith_parts_batch_unfit :
    let r : Representation String := ⟨.text, "añb", ⟨"f"⟩⟩
    let fixes : List (Fix String) := [⟨⟨2, 3⟩, "x", "c"⟩, ⟨⟨1, 3⟩, "n", "b"⟩, ⟨⟨3, 1⟩, "", "c"⟩,
      .insert 1 "p" "a", .insert 1 "q" "b", .insert 5 "r" "a"]
    let rejected : List (RejectedFix String) :=
      [⟨0, ⟨⟨2, 3⟩, "x", "c"⟩, .invalidRange ⟨2, 3⟩ 4⟩,
        ⟨2, ⟨⟨3, 1⟩, "", "c"⟩, .invalidRange ⟨3, 1⟩ 4⟩,
        ⟨4, .insert 1 "q" "b", .conflict ⟨1, 1⟩ "a" ⟨1, 1⟩⟩,
        ⟨5, .insert 5 "r" "a", .invalidRange ⟨5, 5⟩ 4⟩]
    let applied : List (Fix String) := [.insert 1 "p" "a", ⟨⟨1, 3⟩, "n", "b"⟩]
    (Fixer.text.applyWith r fixes .firstSubmitted).result = .ok ⟨applied, rejected, 0⟩ ∧
    Batch.Unfit .text "añb" ⟨2, 3⟩ ∧ ¬ Batch.Unfit .text "añb" ⟨1, 1⟩ ∧
    (applied ++ rejected.map RejectedFix.fix).Perm fixes := by
  intro r fixes rejected applied
  have hresult : (Fixer.text.applyWith r fixes .firstSubmitted).result =
      .ok ⟨applied, rejected, 0⟩ := by cbv
  obtain ⟨-, -, hunfit, -, hperm⟩ := applyWith_parts_batch hresult
  refine ⟨hresult, (hunfit 0 _ rfl).1 List.mem_cons_self, fun hinsert => ?_, hperm⟩
  have hmem : (⟨4, .insert 1 "q" "b", .invalidRange ⟨1, 1⟩ 4⟩ : RejectedFix String) ∈ rejected :=
    (hunfit 4 _ rfl).2 hinsert
  exact absurd hmem (by decide)

end Fixer

end Emend
