import Emend.Proofs.Batch.Selection
import Emend.Proofs.Resolution.Partition

/-!
# What becomes of each fix of a batch

Of the candidates that the sweep goes over each one is accepted or rejected, and none twice
(`sweep_perm`); those that do not fit are rejected before. So the fixes of a batch are those that
the report lists as applied and those it lists as rejected (`Fixer.applied_append_rejected_perm`).

The report names the places of the rejected fixes only. It says what became of the fix at any place
all the same (`reasonAt?`): the rejections are those of the places which have a reason, in order,
and the applied fixes are those of the other places (`Fixer.rejected_eq`, `Fixer.applied_perm`).
-/

namespace Emend

/-! ## Places -/

section
variable {P : Type}

/-- Why the fix at the place `k` of a batch was rejected, if it was. -/
def reasonAt? (rejected : List (RejectedFix P)) (k : Nat) : Option Rejection :=
  (rejected.find? fun r => r.index == k).map RejectedFix.reason

variable {rejected : List (RejectedFix P)} {fixes : List (Fix P)}

theorem reasonAt?_eq_some_iff (h : (rejected.map RejectedFix.index).Nodup) {k : Nat}
    {reason : Rejection} :
    reasonAt? rejected k = some reason ↔ ∃ r ∈ rejected, r.index = k ∧ r.reason = reason := by
  rw [reasonAt?, Option.map_eq_some_iff]
  constructor
  · rintro ⟨r, hfind, rfl⟩
    exact ⟨r, List.mem_of_find?_eq_some hfind, by simpa using List.find?_some hfind, rfl⟩
  · rintro ⟨r, hr, rfl, rfl⟩
    have hsome : (rejected.find? fun r' => r'.index == r.index).isSome :=
      List.find?_isSome.2 ⟨r, hr, beq_self_eq_true _⟩
    obtain ⟨r', hfind⟩ := Option.isSome_iff_exists.1 hsome
    have hindex : r'.index = r.index := by simpa using List.find?_some hfind
    obtain rfl := List.inj_on_of_nodup_map h (List.mem_of_find?_eq_some hfind) hr hindex
    exact ⟨r', hfind, rfl⟩

/-- What is made of the elements that have something stands for these elements. -/
theorem map_filterMap_map {α β γ δ : Type} {f : α → Option β} (make : α → β → γ) {g : γ → δ}
    {image : α → δ} (h : ∀ a b, g (make a b) = image a) (l : List α) :
    (l.filterMap fun a => (f a).map (make a)).map g =
      (l.filter fun a => !(f a).isNone).map image := by
  induction l with
  | nil => rfl
  | cons a l ih =>
    rw [List.filterMap_cons, List.filter_cons]
    cases f a with
    | none => exact ih
    | some b => exact congrArg₂ List.cons (h a b) ih

/-- Rejections of fixes of the batch that stand in the order of their places are those of the places
which have a reason. -/
theorem rejected_eq_filterMap (hsorted : rejected.Pairwise fun a b => a.index < b.index)
    (hmem : ∀ r ∈ rejected, r.candidate ∈ Candidate.enumerate fixes) :
    rejected = (Candidate.enumerate fixes).filterMap fun c =>
      (reasonAt? rejected c.index).map (.mk c.index c.fix) := by
  have hnodup : (rejected.map RejectedFix.index).Nodup :=
    List.pairwise_map.2 (hsorted.imp Nat.ne_of_lt)
  have hplaces : ((Candidate.enumerate fixes).filterMap fun c =>
      (reasonAt? rejected c.index).map (.mk c.index c.fix)).Pairwise
        fun a b : RejectedFix P => a.index < b.index := by
    refine (Candidate.pairwise_index_enumerate fixes).filterMap _ fun c d hcd a ha b hb => ?_
    obtain ⟨reason, -, rfl⟩ := Option.map_eq_some_iff.1 ha
    obtain ⟨reason', -, rfl⟩ := Option.map_eq_some_iff.1 hb
    exact hcd
  have hsame : ∀ r, r ∈ rejected ↔ r ∈ (Candidate.enumerate fixes).filterMap fun c =>
      (reasonAt? rejected c.index).map (.mk c.index c.fix) := by
    intro r
    simp only [List.mem_filterMap, Option.map_eq_some_iff, reasonAt?_eq_some_iff hnodup]
    constructor
    · intro hr
      exact ⟨r.candidate, hmem r hr, r.reason, ⟨r, hr, rfl, rfl⟩, rfl⟩
    · rintro ⟨c, hc, -, ⟨r', hr', hindex, rfl⟩, rfl⟩
      obtain rfl := Candidate.eq_of_index_eq (hmem r' hr') hc hindex
      exact hr'
  have hirrefl : ∀ a b : RejectedFix P, a.index < b.index → b.index < a.index → a = b :=
    fun a b hab hba => absurd hba (Nat.lt_asymm hab)
  refine List.Perm.eq_of_pairwise (fun a b _ _ => hirrefl a b) hsorted hplaces ?_
  exact (List.perm_ext_iff_of_nodup hnodup.of_map
    (hplaces.imp fun hlt heq => absurd (heq ▸ hlt) (Nat.lt_irrefl _))).2 hsame

end

/-! ## Batches -/

theorem Batch.rejections_perm {s : Shape} (doc : s.Doc) (fixes : List (Fix s.Payload))
    (policy : SamePointPolicy) : ((swept s doc fixes policy).accepted ++
      (rejections s doc fixes policy).map RejectedFix.fix).Perm fixes := by
  have hswept : ((swept s doc fixes policy).accepted ++
      (swept s doc fixes policy).rejected.map RejectedFix.fix).Perm
        (((Candidate.enumerate fixes).filter fun c => fits s doc c.fix).map Candidate.fix) :=
    Resolution.sweep_perm.trans (sorted_perm.map Candidate.fix)
  have hrefused : (refused s doc fixes).map RejectedFix.fix =
      ((Candidate.enumerate fixes).filter fun c => !fits s doc c.fix).map Candidate.fix := by
    rw [← candidate_refused, List.map_map]
    rfl
  have hsplit := (List.filter_append_perm (fun c => fits s doc c.fix)
    (Candidate.enumerate fixes)).map Candidate.fix
  rw [List.map_append, Candidate.map_fix_enumerate] at hsplit
  rw [rejections, List.map_append, hrefused]
  refine (List.perm_append_comm_assoc _ _ _).trans ?_
  exact ((hswept.append_left _).trans List.perm_append_comm).trans hsplit

namespace Fixer

variable {s : Shape} {fixer : Fixer s} {r : Representation s.Doc} {fixes : List (Fix s.Payload)}
  {policy : SamePointPolicy} {report : FixReport s.Payload}
  (h : (fixer.applyWith r fixes policy).result = .ok report)
include h

/-- Of the fixes of a batch each one is applied or rejected, and none twice. -/
theorem applied_append_rejected_perm :
    (report.applied ++ report.rejected.map RejectedFix.fix).Perm fixes := by
  obtain ⟨shift, rfl⟩ := exists_report_eq h
  rw [Batch.report_eq]
  refine (List.Perm.append_left _ ?_).trans (Batch.rejections_perm r.content fixes policy)
  exact (stableSort_perm _ _).map RejectedFix.fix

theorem pairwise_index_rejected : report.rejected.Pairwise fun a b => a.index < b.index := by
  obtain ⟨shift, rfl⟩ := exists_report_eq h
  rw [Batch.report_eq]
  exact pairwise_inOrder_of_nodup Batch.nodup_index_rejections

theorem rejected_eq : report.rejected = (Candidate.enumerate fixes).filterMap fun c =>
    (reasonAt? report.rejected c.index).map (.mk c.index c.fix) :=
  rejected_eq_filterMap (pairwise_index_rejected h) fun _ hx => candidate_mem_of_mem_rejected h hx

theorem applied_perm : report.applied.Perm
    (((Candidate.enumerate fixes).filter fun c =>
      (reasonAt? report.rejected c.index).isNone).map Candidate.fix) := by
  have hrejected : report.rejected.map RejectedFix.fix =
      ((Candidate.enumerate fixes).filter fun c =>
        !(reasonAt? report.rejected c.index).isNone).map Candidate.fix := by
    conv => lhs; rw [rejected_eq h]
    exact map_filterMap_map (fun (c : Candidate s.Payload) => RejectedFix.mk c.index c.fix)
      (fun _ _ => rfl) _
  have hsplit := (List.filter_append_perm
    (fun c => (reasonAt? report.rejected c.index).isNone) (Candidate.enumerate fixes)).map
      Candidate.fix
  rw [List.map_append, ← hrejected, Candidate.map_fix_enumerate] at hsplit
  exact (List.perm_append_right_iff _).1 ((applied_append_rejected_perm h).trans hsplit.symm)

end Fixer

end Emend
