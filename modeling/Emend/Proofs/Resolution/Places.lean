import Mathlib.Data.List.Nodup
import Emend.Proofs.Resolution.Sweep

/-!
# Places in a batch

The candidates of a batch stand in the order of their places, and no two at one place. Sorting them
by their spans finds the one arrangement in which those with equal spans stand as they were
submitted (`Candidate.arranged_iff`), and rejections are listed in the order of their places
(`inOrder`).
-/

namespace Emend

variable {P : Type}

/-! ## Rejections -/

/-- The rejections in the order of their places. -/
def inOrder (rejected : List (RejectedFix P)) : List (RejectedFix P) :=
  stableSort (fun a b => a.index ≤ b.index) rejected

theorem pairwise_inOrder (l : List (RejectedFix P)) :
    (inOrder l).Pairwise fun a b => a.index ≤ b.index :=
  pairwise_stableSort_key RejectedFix.index l

theorem inOrder_eq_self {l : List (RejectedFix P)} (h : l.Pairwise fun a b => a.index ≤ b.index) :
    inOrder l = l :=
  stableSort_eq_self (h.imp decide_eq_true)

theorem inOrder_eq_of_perm {l l' : List (RejectedFix P)} (h : l.Perm l')
    (hnodup : (l.map RejectedFix.index).Nodup) : inOrder l = inOrder l' := by
  refine stableSort_eq_of_perm (key_le_total RejectedFix.index)
    (key_le_trans RejectedFix.index) h ?_
  intro a ha b hb hab hba
  rw [decide_eq_true_eq] at hab hba
  exact List.inj_on_of_nodup_map hnodup ha hb (Nat.le_antisymm hab hba)

/-- If no two are at one place, each stands at a later place than the one ahead of it. -/
theorem pairwise_inOrder_of_nodup {l : List (RejectedFix P)}
    (hnodup : (l.map RejectedFix.index).Nodup) :
    (inOrder l).Pairwise fun a b => a.index < b.index := by
  have hperm : (inOrder l).Perm l := stableSort_perm _ _
  have hne := List.pairwise_map.1 ((hperm.map RejectedFix.index).nodup_iff.2 hnodup)
  exact ((pairwise_inOrder l).and hne).imp fun hab => Nat.lt_of_le_of_ne hab.1 hab.2

/-! ## Candidates -/

namespace Candidate

variable {fixes : List (Fix P)}

theorem map_index_enumerate (fixes : List (Fix P)) :
    (enumerate fixes).map Candidate.index = List.range fixes.length := by
  rw [enumerate, List.map_map, List.range_eq_range']
  exact List.zipIdx_map_snd 0 fixes

theorem pairwise_index_enumerate (fixes : List (Fix P)) :
    (enumerate fixes).Pairwise fun a b => a.index < b.index := by
  rw [← List.pairwise_map, map_index_enumerate]
  exact List.pairwise_lt_range

theorem nodup_index_enumerate (fixes : List (Fix P)) :
    ((enumerate fixes).map Candidate.index).Nodup := by
  rw [map_index_enumerate]
  exact List.nodup_range

theorem nodup_enumerate (fixes : List (Fix P)) : (enumerate fixes).Nodup :=
  (nodup_index_enumerate fixes).of_map

theorem index_lt_of_mem_enumerate {c : Candidate P} (h : c ∈ enumerate fixes) :
    c.index < fixes.length := by
  rw [mem_enumerate_iff, List.getElem?_eq_some_iff] at h
  exact h.1

theorem eq_of_index_eq {c d : Candidate P} (hc : c ∈ enumerate fixes) (hd : d ∈ enumerate fixes)
    (h : c.index = d.index) : c = d :=
  List.inj_on_of_nodup_map (nodup_index_enumerate fixes) hc hd h

/-- The candidates are those of the batch. They come in the order of their spans, and those with
equal spans in the order of submission. -/
structure Arranged (fixes : List (Fix P)) (cs : List (Candidate P)) : Prop where
  perm : cs.Perm (enumerate fixes)
  ordered : cs.Pairwise fun a b => a.fix.span.Precedes b.fix.span
  stable : cs.Pairwise fun a b => a.fix.span = b.fix.span → a.index < b.index

theorem arranged_stableSort (fixes : List (Fix P)) :
    Arranged fixes (stableSort le (enumerate fixes)) where
  perm := stableSort_perm _ _
  ordered := pairwise_precedes_stableSort _
  stable := by
    have h := stableSort_pairwise_stable le_total le_trans (pairwise_index_enumerate fixes)
    refine h.imp fun hab hspan => hab.2 ?_
    rw [le_iff, hspan]
    exact .inr ⟨rfl, Nat.le_refl _⟩

/-- There is one such arrangement. -/
theorem arranged_iff {cs : List (Candidate P)} :
    Arranged fixes cs ↔ cs = stableSort le (enumerate fixes) := by
  constructor
  · intro h
    have hsort := arranged_stableSort fixes
    refine List.Perm.eq_of_pairwise ?_ (h.ordered.and h.stable)
      (hsort.ordered.and hsort.stable) (h.perm.trans hsort.perm.symm)
    rintro a b - - ⟨hab, hlt⟩ ⟨hba, hgt⟩
    have hspan := hab.antisymm hba
    exact absurd (hlt hspan) (Nat.lt_asymm (hgt hspan.symm))
  · rintro rfl
    exact arranged_stableSort fixes

end Candidate

end Emend
