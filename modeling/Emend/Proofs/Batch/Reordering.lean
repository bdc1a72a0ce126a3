import Emend.Proofs.Batch.Selection

/-!
# The order of submission

It only matters between fixes with equal spans. A batch in another order, in which these stand as
they did, has the same outcome, and its rejections are reported at the places where the fixes are
now (`Fixer.applyWith_reordering`).
-/

namespace Emend

variable {P : Type}

/-- The second batch has the fixes of the first in other places, the one at `i` at `place i`. Those
with equal spans stand in the order in which they stood. -/
structure Reordering (place : Nat → Nat) (fixes fixes' : List (Fix P)) : Prop where
  length_eq : fixes'.length = fixes.length
  fix_eq : ∀ i < fixes.length, fixes'[place i]? = fixes[i]?
  injective : ∀ i < fixes.length, ∀ j < fixes.length, place i = place j → i = j
  stable : ∀ j < fixes.length, ∀ i < j,
    fixes[i]?.map Fix.span = fixes[j]?.map Fix.span → place i < place j

/-- The report with the rejections at the places to which the fixes have moved. -/
def FixReport.moved (place : Nat → Nat) (report : FixReport P) : FixReport P :=
  ⟨report.applied, inOrder (report.rejected.map (.moved place)), report.delta⟩

theorem FixReport.selected_true (place : Nat → Nat) (report : FixReport P) :
    report.selected (fun _ => true) place = report.moved place := by
  rw [selected, moved, List.filter_eq_self.2 fun _ _ => rfl]

namespace Reordering

variable {place : Nat → Nat} {fixes fixes' : List (Fix P)}

theorem enumerate_perm (h : Reordering place fixes fixes') : (Candidate.enumerate fixes').Perm
    ((Candidate.enumerate fixes).map (.moved place)) := by
  have hnodup : ((Candidate.enumerate fixes).map (Candidate.moved place)).Nodup := by
    refine List.Nodup.map_on (fun c hc d hd heq => ?_) (Candidate.nodup_enumerate fixes)
    have hplace : place c.index = place d.index := congrArg Candidate.index heq
    refine Candidate.eq_of_index_eq hc hd (h.injective _ ?_ _ ?_ hplace)
    · exact Candidate.index_lt_of_mem_enumerate hc
    · exact Candidate.index_lt_of_mem_enumerate hd
  have hsub : (Candidate.enumerate fixes).map (Candidate.moved place) ⊆
      Candidate.enumerate fixes' := by
    intro d hd
    obtain ⟨c, hc, rfl⟩ := List.mem_map.1 hd
    rw [Candidate.mem_enumerate_iff]
    exact (h.fix_eq _ (Candidate.index_lt_of_mem_enumerate hc)).trans
      (Candidate.mem_enumerate_iff.1 hc)
  refine ((List.subperm_of_subset hnodup hsub).perm_of_length_le ?_).symm
  simp [Candidate.enumerate, h.length_eq]

/-- All fixes are kept. -/
theorem selection (h : Reordering place fixes fixes') :
    Selection (fun _ => true) place fixes fixes' where
  perm := by
    rw [List.filter_eq_self.2 fun _ _ => rfl]
    exact h.enumerate_perm
  stable c hc d hd _ _ hspan hlt := by
    refine h.stable _ (Candidate.index_lt_of_mem_enumerate hd) _ hlt ?_
    rw [Candidate.mem_enumerate_iff.1 hc, Candidate.mem_enumerate_iff.1 hd]
    exact congrArg some hspan

end Reordering

namespace Fixer

variable {s : Shape} (fixer : Fixer s) (r : Representation s.Doc)
  {fixes fixes' : List (Fix s.Payload)} (policy : SamePointPolicy) {place : Nat → Nat}

/-- A batch in another order leaves the same content and has the same report, up to the places of
the rejections. Each of these is the place of the fix in its own batch. -/
theorem applyWith_reordering (h : Reordering place fixes fixes') :
    (fixer.applyWith r fixes' policy).content = (fixer.applyWith r fixes policy).content ∧
    (fixer.applyWith r fixes' policy).result =
      (fixer.applyWith r fixes policy).result.map (.moved place) ∧
    ∀ report, (fixer.applyWith r fixes policy).result = .ok report → ∀ x ∈ report.rejected,
      fixes[x.index]? = some x.fix ∧ fixes'[place x.index]? = some x.fix := by
  have hexp : Resolution.Expendable policy (fun _ => true) (Candidate.enumerate fixes)
      (Batch.rejections s r.content fixes policy) := ⟨fun _ _ hkeep => absurd rfl hkeep, by simp⟩
  obtain ⟨hcontent, hresult⟩ := fixer.applyWith_selection r h.selection hexp
  refine ⟨hcontent, ?_, fun report hreport x hx => ?_⟩
  · rw [hresult, funext (FixReport.selected_true place)]
  · have hmem := candidate_mem_of_mem_rejected hreport hx
    have hfix : fixes[x.index]? = some x.fix := Candidate.mem_enumerate_iff.1 hmem
    exact ⟨hfix, (h.fix_eq _ (Candidate.index_lt_of_mem_enumerate hmem)).trans hfix⟩

/-- Two rival insertions at a point, a replacement from there with a longer one at odds with it,
and a fix that cuts a character in two. -/
theorem applyWith_reordering_rivals :
    let place (i : Nat) : Nat := [3, 1, 2, 4, 0].getD i 0
    let r : Representation String := ⟨.text, "añb", ⟨"f"⟩⟩
    let split : Fix String := ⟨⟨2, 2⟩, "x", "c"⟩
    let fst : Fix String := .insert 1 "é" "a"
    let snd : Fix String := .insert 1 "y" "b"
    let short : Fix String := ⟨⟨1, 3⟩, "ooo", "b"⟩
    let long : Fix String := ⟨⟨1, 4⟩, "z", "a"⟩
    Reordering place [split, fst, short, snd, long] [long, fst, short, split, snd] ∧
    (Fixer.text.applyWith r [split, fst, short, snd, long] .firstSubmitted).result =
      .ok ⟨[fst, short], [⟨0, split, .invalidRange ⟨2, 2⟩ 4⟩,
        ⟨3, snd, .conflict ⟨1, 1⟩ "a" ⟨1, 1⟩⟩, ⟨4, long, .conflict ⟨1, 4⟩ "b" ⟨1, 3⟩⟩], 3⟩ ∧
    (Fixer.text.applyWith r [long, fst, short, split, snd] .firstSubmitted).result =
      .ok ⟨[fst, short], [⟨0, long, .conflict ⟨1, 4⟩ "b" ⟨1, 3⟩⟩,
        ⟨3, split, .invalidRange ⟨2, 2⟩ 4⟩, ⟨4, snd, .conflict ⟨1, 1⟩ "a" ⟨1, 1⟩⟩], 3⟩ := by
  intro place r split fst snd short long
  have h : Reordering place [split, fst, short, snd, long] [long, fst, short, split, snd] :=
    ⟨by decide, by decide, by decide, by decide⟩
  have hresult : (Fixer.text.applyWith r [split, fst, short, snd, long] .firstSubmitted).result =
      .ok ⟨[fst, short], [⟨0, split, .invalidRange ⟨2, 2⟩ 4⟩,
        ⟨3, snd, .conflict ⟨1, 1⟩ "a" ⟨1, 1⟩⟩, ⟨4, long, .conflict ⟨1, 4⟩ "b" ⟨1, 3⟩⟩], 3⟩ := by
    cbv
  obtain ⟨-, hmoved, -⟩ := applyWith_reordering Fixer.text r .firstSubmitted h
  exact ⟨h, hresult, hmoved.trans (congrArg (Except.map (FixReport.moved place)) hresult)⟩

end Fixer

end Emend
