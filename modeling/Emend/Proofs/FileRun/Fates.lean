import Emend.Proofs.Batch.Partition
import Emend.FileRun

/-!
# What becomes of the diagnostics of a round

A round keeps no record of which diagnostic is settled by which fix. It knows the places of the
diagnostics that have a fix, the report knows the places of the rejected fixes in the batch, and the
two are put together to find the diagnostics that are left. Here the record is made: a list of the
diagnostics, each with its `Fate`, from which the batch, the report on it and what the round leaves
can all be read off in the order in which the diagnostics stand (`Accounts`).

`exists_accounts` is that there is such a record for every batch that can be applied. What is left
according to the places is what is left according to the record by `ofUnresolved_record`.
-/

namespace Emend

namespace FileRun

/-- What becomes of a diagnostic in a round. -/
inductive Fate where
  /-- It has no fix. -/
  | plain
  /-- Its fix is applied. -/
  | applied
  /-- Its fix is rejected. -/
  | rejected (reason : Rejection)
  deriving DecidableEq

namespace Fate

/-- The fate of a diagnostic whose fix is rejected for the reason, or else applied. -/
def ofReason : Option Rejection → Fate
  | none => applied
  | some reason => rejected reason

/-- Why the fix was rejected. -/
def reason? : Fate → Option Rejection
  | plain | applied => none
  | rejected reason => some reason

/-- What a finding says of the fix, if there is a finding. -/
def left? : Fate → Option (Option Rejection)
  | plain => some none
  | applied => none
  | rejected reason => some (some reason)

end Fate

variable {P : Type}

/-- The diagnostics of a round in their order, each with its fate. -/
abbrev Record (P : Type) := List (Diagnostic P × Fate)

namespace Record

/-- The fixes of the diagnostics, each with the fate of its diagnostic. -/
def batch (record : Record P) : List (Fix P × Fate) :=
  record.filterMap fun row => row.1.fix.map fun fix => (fix, row.2)

/-- The diagnostics that are left, each with what its finding says of the fix. -/
def left (record : Record P) : List (Diagnostic P × Option Rejection) :=
  record.filterMap fun row => row.2.left?.map fun rejection => (row.1, rejection)

/-- The rejections of the batch, each with its place. -/
def rejections (record : Record P) : List (RejectedFix P) :=
  record.batch.zipIdx.filterMap fun row => row.1.2.reason?.map (.mk row.2 row.1.1)

/-- The diagnostics that are left and the findings made of them. -/
def round (record : Record P) : Round P :=
  ⟨record.left.map Prod.fst, record.left.map fun row => .ofDiagnostic row.1 row.2⟩

/-- A diagnostic has the fate of one without a fix exactly if it has no fix. -/
def Sound (record : Record P) : Prop :=
  ∀ row ∈ record, row.2 = .plain ↔ row.1.fix = none

end Record

/-- The record accounts for all diagnostics of a round, for the report on the batch of their fixes,
and for what the round leaves. -/
structure Accounts (record : Record P) (diagnostics : List (Diagnostic P))
    (report : FixReport P) (left : Round P) : Prop where
  diagnostics_eq : record.map Prod.fst = diagnostics
  sound : record.Sound
  /-- The applied fixes are those of the diagnostics recorded so. -/
  applied_perm :
    report.applied.Perm ((record.batch.filter fun row => row.2 = .applied).map Prod.fst)
  /-- The rejections are those of the other fixes, with their places in the batch. -/
  rejected_eq : report.rejected = record.rejections
  left_eq : left = record.round

/-! ## Batches and records -/

/-- The fates of the fixes of the diagnostics make up a record. -/
theorem exists_record (diagnostics : List (Diagnostic P)) (batch : List (Fix P × Fate))
    (hfixes : batch.map Prod.fst = diagnostics.filterMap Diagnostic.fix)
    (hplain : ∀ row ∈ batch, row.2 ≠ .plain) :
    ∃ record : Record P, record.map Prod.fst = diagnostics ∧ record.Sound ∧
      record.batch = batch := by
  induction diagnostics generalizing batch with
  | nil =>
    obtain rfl := List.map_eq_nil_iff.1 hfixes
    exact ⟨[], rfl, nofun, rfl⟩
  | cons d diagnostics ih =>
    cases hfix : d.fix with
    | none =>
      rw [List.filterMap_cons_none hfix] at hfixes
      obtain ⟨record, rfl, hsound, rfl⟩ := ih batch hfixes hplain
      refine ⟨(d, .plain) :: record, rfl, List.forall_mem_cons.2 ⟨?_, hsound⟩, ?_⟩
      · simp [hfix]
      · simp [Record.batch, hfix]
    | some fix =>
      rw [List.filterMap_cons_some hfix] at hfixes
      cases batch with
      | nil => cases hfixes
      | cons row batch =>
        obtain ⟨rfl, hrest⟩ := List.cons.inj hfixes
        obtain ⟨hrow, hplain⟩ := List.forall_mem_cons.1 hplain
        obtain ⟨record, rfl, hsound, rfl⟩ := ih batch hrest hplain
        refine ⟨(d, row.2) :: record, rfl, List.forall_mem_cons.2 ⟨?_, hsound⟩, ?_⟩
        · simp [hfix, hrow]
        · simp [Record.batch, hfix]

/-- The batch of a round are the fixes of the diagnostics in their order. -/
theorem map_fst_proposals (diagnostics : List (Diagnostic P)) :
    (proposals diagnostics).map Prod.fst = diagnostics.filterMap Diagnostic.fix := by
  conv => rhs; rw [← List.zipIdx_map_fst 0 diagnostics, List.filterMap_map]
  rw [proposals, List.map_filterMap]
  congr 1
  funext p
  rw [Option.map_map]
  exact Option.map_id'

/-! ## What is left -/

/-- A list that is made in two ways, of which only one counts for any element. -/
theorem filterMap_append_perm {α β : Type} {f g h : α → Option β} {l : List α}
    (hfg : ∀ a ∈ l, f a = none ∧ g a = h a ∨ f a = h a ∧ g a = none) :
    (l.filterMap f ++ l.filterMap g).Perm (l.filterMap h) := by
  induction l with
  | nil => exact .refl _
  | cons a l ih =>
    obtain ⟨ha, hl⟩ := List.forall_mem_cons.1 hfg
    rcases ha with ⟨hf, hg⟩ | ⟨hf, hg⟩
    · rw [List.filterMap_cons_none hf, List.filterMap_cons, List.filterMap_cons, hg]
      cases h a with
      | none => exact ih hl
      | some b => exact List.perm_middle.trans ((ih hl).cons b)
    · rw [List.filterMap_cons_none hg, List.filterMap_cons, List.filterMap_cons, hf]
      cases h a with
      | none => exact ih hl
      | some b => exact (ih hl).cons b

section
variable (record : Record P)

/-- The fixes with the fates and the places of their diagnostics. -/
def placed : List (Fix P × Fate × Nat) :=
  record.zipIdx.filterMap fun p => p.1.1.fix.map fun fix => (fix, p.1.2, p.2)

theorem zipIdx_map_fst_record :
    (record.map Prod.fst).zipIdx = record.zipIdx.map fun p => (p.1.1, p.2) := by
  rw [List.zipIdx_map]
  rfl

theorem proposals_record : proposals (record.map Prod.fst) =
    (placed record).map fun p => (p.1, p.2.2) := by
  rw [proposals, zipIdx_map_fst_record, List.filterMap_map, placed, List.map_filterMap]
  congr 1
  funext p
  rw [Option.map_map]
  rfl

theorem batch_eq_placed : record.batch = (placed record).map fun p => (p.1, p.2.1) := by
  conv => lhs; rw [← List.zipIdx_map_fst 0 record]
  rw [Record.batch, List.filterMap_map, placed, List.map_filterMap]
  congr 1
  funext p
  rw [Option.map_map]
  rfl

/-- The place of a diagnostic that has no fix. -/
def plainPlace? (p : (Diagnostic P × Fate) × Nat) : Option (Nat × Option Rejection) :=
  if p.1.1.fix.isNone then some (p.2, none) else none

/-- The place of a diagnostic whose fix is rejected. -/
def refusedPlace? (p : (Diagnostic P × Fate) × Nat) : Option (Nat × Option Rejection) :=
  p.1.1.fix.bind fun _ => p.1.2.reason?.map fun reason => (p.2, some reason)

/-- The place of a diagnostic that is left. -/
def leftPlace? (p : (Diagnostic P × Fate) × Nat) : Option (Nat × Option Rejection) :=
  p.1.2.left?.map fun rejection => (p.2, rejection)

/-- The places of the diagnostics that are left. -/
def leftPlaces : List (Nat × Option Rejection) := record.zipIdx.filterMap leftPlace?

theorem pairwise_leftPlaces : (leftPlaces record).Pairwise fun a b => a.1 < b.1 := by
  refine (pairwise_zipIdx record 0).filterMap _ fun p q hpq a ha b hb => ?_
  obtain ⟨rejection, -, rfl⟩ := Option.map_eq_some_iff.1 ha
  obtain ⟨rejection', -, rfl⟩ := Option.map_eq_some_iff.1 hb
  exact hpq

/-- The places in the batch lead back to the diagnostics. -/
theorem refused_record : (record.rejections.filterMap fun r =>
      ((proposals (record.map Prod.fst)).map Prod.snd)[r.index]?.map fun index =>
        (index, some r.reason)) = record.zipIdx.filterMap refusedPlace? := by
  have hsources : (proposals (record.map Prod.fst)).map Prod.snd =
      (placed record).map fun p => p.2.2 := by
    rw [proposals_record, List.map_map]
    rfl
  have hzip : record.batch.zipIdx =
      (placed record).zipIdx.map fun p => ((p.1.1, p.1.2.1), p.2) := by
    rw [batch_eq_placed, List.zipIdx_map]
    rfl
  have hplaced : ∀ p ∈ (placed record).zipIdx,
      (p.1.2.1.reason?.map (RejectedFix.mk p.2 p.1.1)).bind (fun r =>
        ((placed record).map fun p => p.2.2)[r.index]?.map fun index => (index, some r.reason)) =
      p.1.2.1.reason?.map fun reason => (p.1.2.2, some reason) := by
    intro p hp
    have hget := List.mk_mem_zipIdx_iff_getElem?.1 hp
    cases p.1.2.1.reason? with
    | none => rfl
    | some reason => simp [hget]
  calc record.rejections.filterMap _
    _ = (placed record).zipIdx.filterMap fun p =>
        (p.1.2.1.reason?.map (RejectedFix.mk p.2 p.1.1)).bind fun r =>
          ((placed record).map fun p => p.2.2)[r.index]?.map fun index =>
            (index, some r.reason) := by
      rw [Record.rejections, hzip, hsources, List.filterMap_map, List.filterMap_filterMap]
      rfl
    _ = (placed record).zipIdx.filterMap fun p =>
        p.1.2.1.reason?.map fun reason => (p.1.2.2, some reason) :=
      List.filterMap_congr hplaced
    _ = (placed record).filterMap fun p =>
        p.2.1.reason?.map fun reason => (p.2.2, some reason) := by
      conv => rhs; rw [← List.zipIdx_map_fst 0 (placed record), List.filterMap_map]
      rfl
    _ = _ := by
      rw [placed, List.filterMap_filterMap]
      congr 1
      funext p
      unfold refusedPlace?
      cases p.1.1.fix <;> rfl

end

section
variable {record : Record P}

/-- A diagnostic is left either because it has no fix or because that is rejected. -/
theorem plainPlace?_or_refusedPlace? (hsound : record.Sound) {p : (Diagnostic P × Fate) × Nat}
    (hp : p ∈ record.zipIdx) : plainPlace? p = none ∧ refusedPlace? p = leftPlace? p ∨
      plainPlace? p = leftPlace? p ∧ refusedPlace? p = none := by
  obtain ⟨⟨d, fate⟩, index⟩ := p
  have hplain : fate = .plain ↔ d.fix = none := hsound _ (List.fst_mem_of_mem_zipIdx hp)
  unfold plainPlace? refusedPlace? leftPlace?
  dsimp only
  cases hfix : d.fix with
  | none =>
    rw [hplain.2 hfix]
    exact .inr ⟨rfl, rfl⟩
  | some fix =>
    cases fate with
    | plain =>
      rw [hplain.1 rfl] at hfix
      cases hfix
    | applied => exact .inl ⟨rfl, rfl⟩
    | rejected reason => exact .inl ⟨rfl, rfl⟩

/-- What is left according to the places is what is left according to the record. -/
theorem unresolved_record (hsound : record.Sound) :
    unresolved (record.map Prod.fst) record.rejections = leftPlaces record := by
  have hplain : ((record.map Prod.fst).zipIdx.filterMap fun p =>
      if p.1.fix.isNone then some (p.2, none) else none) =
        record.zipIdx.filterMap plainPlace? := by
    rw [zipIdx_map_fst_record, List.filterMap_map]
    rfl
  have hperm : (record.zipIdx.filterMap plainPlace? ++ record.zipIdx.filterMap refusedPlace?).Perm
      (leftPlaces record) :=
    filterMap_append_perm fun _ hp => plainPlace?_or_refusedPlace? hsound hp
  rw [← stableSort_eq_of_ascending Prod.fst hperm (pairwise_leftPlaces record), ← hplain,
    ← refused_record]
  rfl

theorem ofUnresolved_leftPlaces : Round.ofUnresolved (record.map Prod.fst) (leftPlaces record) =
    record.round := by
  have hkept : ((leftPlaces record).filterMap fun place =>
      (record.map Prod.fst)[place.1]?.map fun d => (d, place.2)) = record.left := by
    conv => rhs; rw [Record.left, ← List.zipIdx_map_fst 0 record, List.filterMap_map]
    rw [leftPlaces, List.filterMap_filterMap]
    refine List.filterMap_congr fun p hp => ?_
    have hget := List.mk_mem_zipIdx_iff_getElem?.1 hp
    cases hleft : p.1.2.left? <;> simp [leftPlace?, hget, hleft]
  rw [Record.round, ← hkept]
  rfl

end

/-! ## Rounds -/

/-- The fixes with what the rejections say of their places. -/
def settled (fixes : List (Fix P)) (rejected : List (RejectedFix P)) : List (Fix P × Fate) :=
  (Candidate.enumerate fixes).map fun c => (c.fix, .ofReason (reasonAt? rejected c.index))

theorem zipIdx_settled (fixes : List (Fix P)) (rejected : List (RejectedFix P)) :
    (settled fixes rejected).zipIdx = (Candidate.enumerate fixes).map fun c =>
      ((c.fix, .ofReason (reasonAt? rejected c.index)), c.index) := by
  have hzip : (Candidate.enumerate fixes).zipIdx =
      (Candidate.enumerate fixes).map fun c => (c, c.index) := by
    refine List.ext_getElem? fun i => ?_
    simp only [Candidate.enumerate, List.getElem?_zipIdx, List.getElem?_map, Option.map_map]
    simp [Function.comp_def]
  rw [settled, List.zipIdx_map, hzip, List.map_map]
  rfl

/-- There is a record of every batch that is applied. -/
theorem exists_accounts {s : Shape} {fixer : Fixer s} {r : Representation s.Doc}
    {diagnostics : List (Diagnostic s.Payload)} {policy : SamePointPolicy}
    {report : FixReport s.Payload}
    (h : (fixer.applyWith r (diagnostics.filterMap Diagnostic.fix) policy).result = .ok report) :
    ∃ record : Record s.Payload, Accounts record diagnostics report
      (.ofUnresolved diagnostics (unresolved diagnostics report.rejected)) := by
  let fixes := diagnostics.filterMap Diagnostic.fix
  have hfixes : (settled fixes report.rejected).map Prod.fst = fixes := by
    rw [settled, List.map_map]
    exact Candidate.map_fix_enumerate fixes
  have hplain : ∀ row ∈ settled fixes report.rejected, row.2 ≠ .plain := by
    intro row hrow
    obtain ⟨c, -, rfl⟩ := List.mem_map.1 hrow
    cases reasonAt? report.rejected c.index <;> exact nofun
  obtain ⟨record, rfl, hsound, hbatch⟩ := exists_record diagnostics _ hfixes hplain
  have hrejected : report.rejected = record.rejections := by
    rw [Record.rejections, hbatch, zipIdx_settled, List.filterMap_map]
    conv => lhs; rw [Fixer.rejected_eq h]
    congr 1
    funext c
    cases hreason : reasonAt? report.rejected c.index <;>
      simp [hreason, Fate.ofReason, Fate.reason?]
  refine ⟨record, rfl, hsound, ?_, hrejected, ?_⟩
  · have happlied : (fun c : Candidate s.Payload =>
        decide (Fate.ofReason (reasonAt? report.rejected c.index) = .applied)) =
          fun c => (reasonAt? report.rejected c.index).isNone := by
      funext c
      cases reasonAt? report.rejected c.index <;> rfl
    rw [hbatch, settled, List.filter_map, List.map_map]
    refine (Fixer.applied_perm h).trans (List.Perm.of_eq ?_)
    rw [← happlied]
    rfl
  · rw [hrejected, unresolved_record hsound, ofUnresolved_leftPlaces]

end FileRun

end Emend
