import Emend.Proofs.Resolution.Partition

/-!
# The insertions at one point

Sorted by their spans the insertions at an offset stand next to each other. If the sweep comes to
them after it has accepted a fix that encloses the offset, this claims them all. Else they are
settled together, as if there were no other candidates (`insertionsAt_sweep`).
-/

namespace Emend

variable {P : Type} {offset : Nat}

/-- The offset lies inside the span and at neither end of it. -/
def Span.Encloses (span : Span) (offset : Nat) : Prop := span.start < offset ∧ offset < span.stop

/-- An insertion overlaps the spans that enclose it. -/
theorem Fix.overlaps_iff_encloses {fix : Fix P} {span : Span} (h : fix.isInsertion) :
    fix.span.overlaps span ↔ span.Encloses fix.span.start := by
  rw [Fix.isInsertion_iff] at h
  simp only [Span.Encloses, Span.overlaps, Span.isEmpty, Bool.and_eq_true, Bool.not_eq_true',
    Bool.and_eq_false_iff, decide_eq_true_eq, decide_eq_false_iff_not]
  omega

/-- Is the fix an insertion at the offset? -/
def Fix.isInsertedAt (offset : Nat) (fix : Fix P) : Bool :=
  fix.isInsertion && fix.span.start == offset

/-- Insertions at one offset have one span. -/
theorem Fix.isInsertedAt_iff {fix : Fix P} :
    fix.isInsertedAt offset ↔ fix.span = .empty offset := by
  obtain ⟨⟨start, stop⟩, payload, origin⟩ := fix
  simp only [isInsertedAt, isInsertion, Span.empty, Bool.and_eq_true, beq_iff_eq, Span.mk.injEq]
  omega

/-! ## Verdicts on insertions -/

namespace Resolution

variable {first : Candidate P} {cs more : List (Candidate P)} {v : Resolution P}
  {fixes : List (Fix P)}

theorem map_fix_insertsAt (fixes : List (Fix P)) :
    ((Candidate.enumerate fixes).filter (insertsAt offset)).map Candidate.fix =
      fixes.filter (·.isInsertedAt offset) := by
  conv => rhs; rw [← Candidate.map_fix_enumerate fixes, List.filter_map]
  rfl

/-- The verdicts on the insertions at an offset. -/
def insertionsAt (offset : Nat) (v : Resolution P) : Resolution P :=
  ⟨v.accepted.filter (·.isInsertedAt offset), v.rejected.filter (·.fix.isInsertedAt offset)⟩

@[simp] theorem insertionsAt_append (a b : Resolution P) :
    (append a b).insertionsAt offset = append (a.insertionsAt offset) (b.insertionsAt offset) := by
  simp [insertionsAt, append]

/-- Verdicts on insertions at the offset only. -/
theorem insertionsAt_eq_self
    (hperm : (v.accepted ++ v.rejected.map RejectedFix.fix).Perm fixes)
    (h : ∀ fix ∈ fixes, fix.isInsertedAt offset) : v.insertionsAt offset = v := by
  have hall : ∀ fix ∈ v.accepted ++ v.rejected.map RejectedFix.fix, fix.isInsertedAt offset :=
    fun fix hfix => h fix (hperm.subset hfix)
  rw [List.forall_mem_append, List.forall_mem_map] at hall
  rw [insertionsAt, List.filter_eq_self.2 hall.1, List.filter_eq_self.2 hall.2]

/-- Verdicts on no insertions at the offset. -/
theorem insertionsAt_eq_nil
    (hperm : (v.accepted ++ v.rejected.map RejectedFix.fix).Perm fixes)
    (h : ∀ fix ∈ fixes, ¬ fix.isInsertedAt offset) : v.insertionsAt offset = ⟨[], []⟩ := by
  have hall : ∀ fix ∈ v.accepted ++ v.rejected.map RejectedFix.fix,
      ¬ fix.isInsertedAt offset := fun fix hfix => h fix (hperm.subset hfix)
  rw [List.forall_mem_append, List.forall_mem_map] at hall
  rw [insertionsAt, List.filter_eq_nil_iff.2 hall.1, List.filter_eq_nil_iff.2 hall.2]

/-! ## The sweep -/

/-- Either a fix is accepted that encloses the offset, or the insertions there are settled. -/
theorem insertionsAt_sweep (policy : SamePointPolicy) (last : Option (Fix P))
    (hsorted : cs.Pairwise fun a b => a.fix.span.Precedes b.fix.span)
    (h : cs.filter (insertsAt offset) = first :: more) :
    (∃ fix ∈ last.toList ++ (sweep policy last cs).accepted, fix.span.Encloses offset) ∨
      (sweep policy last cs).insertionsAt offset = settle policy first (first :: more) := by
  induction last, cs using sweep_induction policy with
  | nil last => cases h
  | claimed last c rest claimant hcl ih =>
    rw [sweep_of_claimant hcl]
    by_cases hc : insertsAt offset c
    · obtain ⟨hlast, hover⟩ := Option.filter_eq_some_iff.1 hcl
      obtain ⟨hins, hstart⟩ := insertsAt_iff.1 hc
      rw [Fix.overlaps_iff_encloses hins, hstart] at hover
      exact .inl ⟨claimant, List.mem_append_left _ (Option.mem_toList.2 hlast), hover⟩
    · have hblame : (⟨[], [c.blame claimant]⟩ : Resolution P).insertionsAt offset = ⟨[], []⟩ :=
        insertionsAt_eq_nil (.refl [c.fix]) (List.forall_mem_singleton.2 hc)
      rw [List.filter_cons_of_neg hc] at h
      rw [insertionsAt_append, hblame]
      exact ih (List.pairwise_cons.1 hsorted).2 h
  | insertion last c rest hcl hc ih =>
    have hbehind : ∀ d ∈ behind c rest, ¬ insertsAt c.fix.span.start d := fun d =>
      not_insertsAt_of_mem_behind hc hsorted
    have hsettle := settle_perm policy (self_mem_run c rest)
    rw [sweep_of_insertion hcl hc, insertionsAt_append]
    rw [← run_append_behind c rest] at hsorted h
    rw [List.filter_append] at h
    -- the run is all that is inserted at the offset, or none of it is
    by_cases hoffset : c.fix.span.start = offset
    · subst hoffset
      have hrun : ∀ d ∈ run c rest, insertsAt c.fix.span.start d := fun d =>
        insertsAt_of_mem_run hc
      rw [List.filter_eq_self.2 hrun, List.filter_eq_nil_iff.2 hbehind, List.append_nil] at h
      obtain rfl : c = first := (List.cons.inj h).1
      rw [insertionsAt_eq_self hsettle (List.forall_mem_map.2 hrun),
        insertionsAt_eq_nil sweep_perm (List.forall_mem_map.2 hbehind), h]
      exact .inr (by simp [append])
    · have hrun : ∀ d ∈ run c rest, ¬ insertsAt offset d := by
        intro d hd hat
        have hstart := (insertsAt_iff.1 (insertsAt_of_mem_run hc hd)).2
        exact hoffset (hstart.symm.trans (insertsAt_iff.1 hat).2)
      rw [List.filter_eq_nil_iff.2 hrun, List.nil_append] at h
      rw [insertionsAt_eq_nil hsettle (List.forall_mem_map.2 hrun)]
      refine (ih (List.pairwise_append.1 hsorted).2.1 h).imp_left ?_
      rintro ⟨fix, hfix, hencloses⟩
      refine ⟨fix, ?_, hencloses⟩
      rw [accepted_append, ← List.append_assoc]
      exact ((getLast?_or_sublist last _).append_right _).subset hfix
  | replacement last c rest hcl hc ih =>
    have hat : ¬ insertsAt offset c := fun hat => hc (insertsAt_iff.1 hat).1
    have haccept : (⟨[c.fix], []⟩ : Resolution P).insertionsAt offset = ⟨[], []⟩ :=
      insertionsAt_eq_nil (.refl [c.fix]) (List.forall_mem_singleton.2 hat)
    rw [List.filter_cons_of_neg hat] at h
    rw [sweep_of_replacement hcl hc, insertionsAt_append, haccept]
    refine (ih (List.pairwise_cons.1 hsorted).2 h).imp_left ?_
    rintro ⟨fix, hfix, hencloses⟩
    exact ⟨fix, List.mem_append_right _ hfix, hencloses⟩

/-! ## The first origin -/

/-- Where the fixes of the first origin come first, they are accepted in their order, and the others
are rejected for the first of them. -/
theorem settle_firstSubmitted_append {own others : List (Fix P)}
    (hgroup : (first :: more).map Candidate.fix = own ++ others)
    (hown : ∀ fix ∈ own, fix.origin = first.fix.origin)
    (hothers : ∀ fix ∈ others, fix.origin ≠ first.fix.origin) :
    (settle .firstSubmitted first (first :: more)).accepted = own ∧
      (settle .firstSubmitted first (first :: more)).rejected.map (fun r => (r.fix, r.reason)) =
        others.map fun fix =>
          (fix, .conflict fix.span first.fix.origin first.fix.span) := by
  have hfilter : ∀ p : Fix P → Bool, ((first :: more).filter fun c => p c.fix).map Candidate.fix =
      own.filter p ++ others.filter p := by
    intro p
    rw [← List.filter_append, ← hgroup, List.filter_map]
    rfl
  have haccepted : own.filter (fun fix => fix.origin == first.fix.origin) = own ∧
      others.filter (fun fix => fix.origin == first.fix.origin) = [] :=
    ⟨List.filter_eq_self.2 (by simpa using hown),
      List.filter_eq_nil_iff.2 (by simpa using hothers)⟩
  have hrejected : own.filter (fun fix => fix.origin != first.fix.origin) = [] ∧
      others.filter (fun fix => fix.origin != first.fix.origin) = others :=
    ⟨List.filter_eq_nil_iff.2 (by simpa using hown),
      List.filter_eq_self.2 (by simpa using hothers)⟩
  rw [settle_firstSubmitted]
  constructor
  · refine (hfilter fun fix => fix.origin == first.fix.origin).trans ?_
    rw [haccepted.1, haccepted.2, List.append_nil]
  · have hmap := hfilter fun fix => fix.origin != first.fix.origin
    rw [hrejected.1, hrejected.2, List.nil_append] at hmap
    rw [← hmap, List.map_map, List.map_map]
    rfl

end Resolution

end Emend
