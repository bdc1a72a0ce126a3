import Emend.Proofs.Batch.Substitution
import Emend.Proofs.Resolution.Deletion
import Emend.Proofs.Resolution.Places
import Emend.Proofs.Resolution.Renaming

/-!
# Some fixes of a batch as a batch of their own

Some of the fixes are kept and put in other places, where those with equal spans stand in the order
in which they stood (`Selection`). Then the candidates are sorted as before (`Selection.sorted_eq`),
and if the sweep can do without those that are not kept, the batch has the same outcome
(`Fixer.applyWith_selection`): the rejections kept are reported at their new places.
-/

namespace Emend

/-! ## The rejections of a batch -/

namespace Batch

section
variable (s : Shape) (doc : s.Doc) (fixes : List (Fix s.Payload)) (policy : SamePointPolicy)

/-- The candidates that fit in the order of their spans. -/
def sorted : List (Candidate s.Payload) :=
  stableSort Candidate.le ((Candidate.enumerate fixes).filter fun c => fits s doc c.fix)

/-- The verdicts on these. -/
def swept : Resolution s.Payload := .sweep policy none (sorted s doc fixes)

/-- The rejections of the fixes that do not fit, then those of the others. -/
def rejections : List (RejectedFix s.Payload) :=
  refused s doc fixes ++ (swept s doc fixes policy).rejected

end

variable {s : Shape} {doc : s.Doc} {fixes fixes' : List (Fix s.Payload)}
  {policy : SamePointPolicy} {keep : Nat → Bool} {place : Nat → Nat}

theorem sorted_perm : (sorted s doc fixes).Perm
    ((Candidate.enumerate fixes).filter fun c => fits s doc c.fix) :=
  stableSort_perm _ _

theorem mem_sorted_iff {c : Candidate s.Payload} :
    c ∈ sorted s doc fixes ↔ c ∈ Candidate.enumerate fixes ∧ fits s doc c.fix := by
  rw [sorted_perm.mem_iff, List.mem_filter]

theorem nodup_sorted : (sorted s doc fixes).Nodup :=
  sorted_perm.nodup_iff.2 ((Candidate.nodup_enumerate fixes).filter _)

theorem ready_sorted : Resolution.Ready none (sorted s doc fixes) := by
  apply Resolution.ready_stableSort
  intro c hc
  exact (fits_iff.1 (List.mem_filter.1 hc).2).1

theorem candidate_refused : (refused s doc fixes).map RejectedFix.candidate =
    (Candidate.enumerate fixes).filter fun c => !fits s doc c.fix := by
  rw [refused, List.map_map]
  exact List.map_id _

/-- No fix is rejected twice. -/
theorem candidate_rejections_subperm :
    ((rejections s doc fixes policy).map RejectedFix.candidate).Subperm
      (Candidate.enumerate fixes) := by
  have hswept : ((swept s doc fixes policy).rejected.map RejectedFix.candidate).Subperm
      ((Candidate.enumerate fixes).filter fun c => fits s doc c.fix) :=
    Resolution.rejected_sublist.subperm.trans sorted_perm.subperm
  rw [rejections, List.map_append, candidate_refused]
  refine ((List.Subperm.refl _).append hswept).trans (List.Perm.subperm ?_)
  exact List.perm_append_comm.trans (List.filter_append_perm _ _)

theorem nodup_index_rejections :
    ((rejections s doc fixes policy).map RejectedFix.index).Nodup := by
  have hsubperm : ((rejections s doc fixes policy).map RejectedFix.candidate).Subperm
      (Candidate.enumerate fixes) := candidate_rejections_subperm
  obtain ⟨candidates, hperm, hsub⟩ := hsubperm
  have hnodup := (Candidate.nodup_index_enumerate fixes).sublist (hsub.map Candidate.index)
  rw [(hperm.map Candidate.index).nodup_iff, List.map_map] at hnodup
  exact hnodup

theorem report_eq (shift : Shift) : report s doc fixes policy shift =
    ⟨(swept s doc fixes policy).accepted, inOrder (rejections s doc fixes policy),
      shift.delta⟩ := by
  have hperm : (refused s doc fixes ++ (verdict s doc fixes policy).rejected).Perm
      (rejections s doc fixes policy) := (stableSort_perm _ _).append_left _
  have hnodup : ((refused s doc fixes ++ (verdict s doc fixes policy).rejected).map
      RejectedFix.index).Nodup :=
    (hperm.map RejectedFix.index).nodup_iff.2 nodup_index_rejections
  rw [report, ← inOrder, inOrder_eq_of_perm hperm hnodup]
  rfl

theorem expendable_swept
    (h : Resolution.Expendable policy keep (Candidate.enumerate fixes)
      (rejections s doc fixes policy)) :
    Resolution.Expendable policy keep (sorted s doc fixes) (swept s doc fixes policy).rejected where
  rejected_of_not_keep c hc hkeep := by
    obtain ⟨hc, hfits⟩ := mem_sorted_iff.1 hc
    have hmem := h.rejected_of_not_keep c hc hkeep
    rw [rejections, List.map_append, candidate_refused] at hmem
    refine (List.mem_append.1 hmem).resolve_left fun hmem => ?_
    have hunfit := (List.mem_filter.1 hmem).2
    rw [hfits] at hunfit
    cases hunfit
  whole hpolicy x hx y hy :=
    h.whole hpolicy x (List.mem_append_right _ hx) y (List.mem_append_right _ hy)

end Batch

namespace Fixer

variable {s : Shape} {fixer : Fixer s} {r : Representation s.Doc} {fixes : List (Fix s.Payload)}
  {policy : SamePointPolicy}

theorem exists_report_eq {report : FixReport s.Payload}
    (h : (fixer.applyWith r fixes policy).result = .ok report) :
    ∃ shift, report = Batch.report s r.content fixes policy shift := by
  obtain ⟨shift, -, hreport⟩ := exists_run_of_ok h
  exact ⟨shift, hreport⟩

theorem mem_rejected_iff {report : FixReport s.Payload} {x : RejectedFix s.Payload}
    (h : (fixer.applyWith r fixes policy).result = .ok report) :
    x ∈ report.rejected ↔ x ∈ Batch.rejections s r.content fixes policy := by
  obtain ⟨shift, rfl⟩ := exists_report_eq h
  rw [Batch.report_eq]
  exact mem_stableSort

theorem candidate_mem_of_mem_rejected {report : FixReport s.Payload} {x : RejectedFix s.Payload}
    (h : (fixer.applyWith r fixes policy).result = .ok report) (hx : x ∈ report.rejected) :
    x.candidate ∈ Candidate.enumerate fixes :=
  Batch.candidate_rejections_subperm.subset (List.mem_map_of_mem ((mem_rejected_iff h).1 hx))

end Fixer

/-! ## What is kept -/

section
variable {P : Type}

/-- The fixes of a batch that are kept make up another one, in which they have other places. Of
those with equal spans the one that came first still does. -/
structure Selection (keep : Nat → Bool) (place : Nat → Nat) (fixes fixes' : List (Fix P)) :
    Prop where
  perm : (Candidate.enumerate fixes').Perm
    (((Candidate.enumerate fixes).filter (keep ·.index)).map (.moved place))
  stable : ∀ c ∈ Candidate.enumerate fixes, ∀ d ∈ Candidate.enumerate fixes, keep c.index →
    keep d.index → c.fix.span = d.fix.span → c.index < d.index → place c.index < place d.index

/-- The report on what is kept of a batch, at its new places. -/
def FixReport.selected (keep : Nat → Bool) (place : Nat → Nat) (report : FixReport P) :
    FixReport P :=
  ⟨report.applied, inOrder ((report.rejected.filter (keep ·.index)).map (.moved place)),
    report.delta⟩

end

namespace Selection

variable {s : Shape} {doc : s.Doc} {fixes fixes' : List (Fix s.Payload)}
  {policy : SamePointPolicy} {keep : Nat → Bool} {place : Nat → Nat}

theorem filter_perm (h : Selection keep place fixes fixes') (p : Fix s.Payload → Bool) :
    ((Candidate.enumerate fixes').filter fun c => p c.fix).Perm
      ((((Candidate.enumerate fixes).filter fun c => p c.fix).filter (keep ·.index)).map
        (.moved place)) := by
  have hperm := h.perm.filter fun c => p c.fix
  rw [List.filter_map] at hperm
  rw [List.filter_comm]
  exact hperm

/-- The order of the spans leaves only one order for what is kept. -/
theorem sorted_eq (h : Selection keep place fixes fixes') : Batch.sorted s doc fixes' =
    ((Batch.sorted s doc fixes).filter (keep ·.index)).map (.moved place) := by
  have hstable : ∀ fixes : List (Fix s.Payload), (Batch.sorted s doc fixes).Pairwise
      fun a b => Candidate.le a b ∧ (Candidate.le b a → a.index < b.index) := fun fixes =>
    stableSort_pairwise_stable Candidate.le_total Candidate.le_trans
      ((Candidate.pairwise_index_enumerate fixes).filter _)
  have hmoved : (((Batch.sorted s doc fixes).filter (keep ·.index)).map (.moved place)).Pairwise
      fun a b => Candidate.le a b ∧ (Candidate.le b a → a.index < b.index) := by
    refine List.pairwise_map.2 (((hstable fixes).filter _).imp_of_mem fun ha hb hab => ?_)
    obtain ⟨ha, hka⟩ := List.mem_filter.1 ha
    obtain ⟨hb, hkb⟩ := List.mem_filter.1 hb
    obtain ⟨hle, hlt⟩ := hab
    refine ⟨hle, fun hge => ?_⟩
    exact h.stable _ (Batch.mem_sorted_iff.1 ha).1 _ (Batch.mem_sorted_iff.1 hb).1 hka hkb
      ((Candidate.le_iff.1 hle).antisymm (Candidate.le_iff.1 hge)) (hlt hge)
  refine List.Perm.eq_of_pairwise ?_ (hstable fixes') hmoved ?_
  · rintro a b - - ⟨hab, hlt⟩ ⟨hba, hgt⟩
    exact absurd (hlt hba) (Nat.lt_asymm (hgt hab))
  · refine Batch.sorted_perm.trans ((h.filter_perm (Batch.fits s doc)).trans ?_)
    exact ((Batch.sorted_perm.filter _).map _).symm

theorem refused_perm (h : Selection keep place fixes fixes') : (Batch.refused s doc fixes').Perm
    (((Batch.refused s doc fixes).filter (keep ·.index)).map (.moved place)) := by
  have hperm := (h.filter_perm fun fix => !Batch.fits s doc fix).map (Batch.refuse s doc)
  rw [Batch.refused, Batch.refused, List.filter_map, List.map_map]
  rw [List.map_map] at hperm
  exact hperm

theorem swept_eq (h : Selection keep place fixes fixes')
    (hexp : Resolution.Expendable policy keep (Candidate.enumerate fixes)
      (Batch.rejections s doc fixes policy)) :
    Batch.swept s doc fixes' policy = ((Batch.swept s doc fixes policy).kept keep).moved place := by
  have hsweep := Resolution.sweep_filter Batch.ready_sorted Batch.nodup_sorted
    (Batch.expendable_swept hexp)
  rw [Batch.swept, h.sorted_eq, Resolution.sweep_moved, hsweep]
  rfl

theorem report_eq (h : Selection keep place fixes fixes')
    (hexp : Resolution.Expendable policy keep (Candidate.enumerate fixes)
      (Batch.rejections s doc fixes policy)) (shift : Shift) :
    Batch.report s doc fixes' policy shift =
      (Batch.report s doc fixes policy shift).selected keep place := by
  have hperm : (Batch.rejections s doc fixes' policy).Perm
      (((Batch.rejections s doc fixes policy).filter (keep ·.index)).map (.moved place)) := by
    rw [Batch.rejections, Batch.rejections, h.swept_eq hexp, List.filter_append, List.map_append]
    exact h.refused_perm.append_right _
  have hsort : (inOrder (Batch.rejections s doc fixes policy)).Perm
      (Batch.rejections s doc fixes policy) := stableSort_perm _ _
  have hinOrder := inOrder_eq_of_perm (hperm.trans ((hsort.filter _).map _).symm)
    Batch.nodup_index_rejections
  rw [Batch.report_eq, Batch.report_eq, h.swept_eq hexp, hinOrder]
  rfl

end Selection

namespace Fixer

variable {s : Shape} (fixer : Fixer s) (r : Representation s.Doc)
  {fixes fixes' : List (Fix s.Payload)} {policy : SamePointPolicy}

/-- Batches of which the same fixes are accepted, with corresponding reports. -/
theorem applyWith_of_report {f : FixReport s.Payload → FixReport s.Payload}
    (haccepted : (Batch.verdict s r.content fixes' policy).accepted =
      (Batch.verdict s r.content fixes policy).accepted)
    (hreport : ∀ shift, Batch.report s r.content fixes' policy shift =
      f (Batch.report s r.content fixes policy shift)) :
    (fixer.applyWith r fixes' policy).content = (fixer.applyWith r fixes policy).content ∧
    (fixer.applyWith r fixes' policy).result = (fixer.applyWith r fixes policy).result.map f := by
  by_cases htag : r.tag = fixer.tag
  · rw [applyWith, applyWith, if_neg (not_not_intro htag), if_neg (not_not_intro htag),
      Batch.apply_eq, Batch.apply_eq, haccepted]
    refine ⟨rfl, ?_⟩
    dsimp only
    cases (Batch.spliceAll s .zero r.content
      (Batch.verdict s r.content fixes policy).accepted).result with
    | error e => rfl
    | ok shift => exact congrArg Except.ok (hreport shift)
  · rw [applyWith, applyWith, if_pos htag, if_pos htag]
    exact ⟨rfl, rfl⟩

/-- A batch and what is kept of it, where the sweep can do without the rest. -/
theorem applyWith_selection {keep : Nat → Bool} {place : Nat → Nat}
    (h : Selection keep place fixes fixes')
    (hexp : Resolution.Expendable policy keep (Candidate.enumerate fixes)
      (Batch.rejections s r.content fixes policy)) :
    (fixer.applyWith r fixes' policy).content = (fixer.applyWith r fixes policy).content ∧
    (fixer.applyWith r fixes' policy).result =
      (fixer.applyWith r fixes policy).result.map (.selected keep place) := by
  have haccepted := congrArg Resolution.accepted (h.swept_eq hexp)
  exact fixer.applyWith_of_report r haccepted (h.report_eq hexp)

end Fixer

end Emend
