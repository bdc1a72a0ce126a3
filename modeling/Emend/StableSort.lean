/-!
# Stable sorting

Sorting by insertion: elements that the order does not tell apart keep their order.

## Lemmas

`stableSort_perm` says that nothing is lost or added, `stableSort_pairwise` that the result is in
order, and `stableSort_pairwise_stable` that elements which the order does not tell apart stand as
they did. Where the order tells all elements apart, it does not matter how they stood
(`stableSort_eq_of_perm`, and for numbers as keys `stableSort_eq_of_ascending`). What may all stand
ahead of the rest is sorted apart from it (`stableSort_append`), and so is what is taken out of a
list (`filter_stableSort`).
-/

namespace Emend

variable {α : Type}

/-- `a` put in front of the first element that it need not follow. -/
def insertSorted (le : α → α → Bool) (a : α) : List α → List α
  | [] => [a]
  | b :: rest => if le a b then a :: b :: rest else b :: insertSorted le a rest

/-- The elements in the order `le`. -/
def stableSort (le : α → α → Bool) : List α → List α
  | [] => []
  | a :: rest => insertSorted le a (stableSort le rest)

theorem insertSorted_perm (le : α → α → Bool) (a : α) (l : List α) :
    (insertSorted le a l).Perm (a :: l) := by
  induction l with
  | nil => exact .refl _
  | cons b rest ih =>
    rw [insertSorted]
    split
    · exact .refl _
    · exact (ih.cons b).trans (.swap a b rest)

theorem stableSort_perm (le : α → α → Bool) (l : List α) : (stableSort le l).Perm l := by
  induction l with
  | nil => exact .refl _
  | cons a rest ih => exact (insertSorted_perm le a _).trans (ih.cons a)

theorem mem_stableSort {le : α → α → Bool} {l : List α} {a : α} :
    a ∈ stableSort le l ↔ a ∈ l :=
  (stableSort_perm le l).mem_iff

section
variable {le : α → α → Bool} (total : ∀ a b, le a b ∨ le b a)
  (trans : ∀ a b c, le a b → le b c → le a c)

include total trans

theorem insertSorted_pairwise_stable {R : α → α → Prop} {a : α} {l : List α}
    (ha : ∀ b ∈ l, R a b) (h : l.Pairwise fun b c => le b c ∧ (le c b → R b c)) :
    (insertSorted le a l).Pairwise fun b c => le b c ∧ (le c b → R b c) := by
  induction l with
  | nil => exact List.pairwise_singleton _ a
  | cons b rest ih =>
    obtain ⟨hb, hrest⟩ := List.pairwise_cons.1 h
    rw [insertSorted]
    split
    · next hab =>
      refine List.pairwise_cons.2 ⟨fun c hc => ⟨?_, fun _ => ha c hc⟩, h⟩
      rcases List.mem_cons.1 hc with rfl | hc
      · exact hab
      · exact trans a b c hab (hb c hc).1
    · next hab =>
      have hrest' := ih (fun c hc => ha c (List.mem_cons_of_mem b hc)) hrest
      refine List.pairwise_cons.2 ⟨fun c hc => ?_, hrest'⟩
      rcases List.mem_cons.1 ((insertSorted_perm le a rest).mem_iff.1 hc) with rfl | hc
      · exact ⟨(total c b).resolve_left hab, fun hle => absurd hle hab⟩
      · exact hb c hc

/-- Elements that the order does not tell apart keep the relation `R` in which they stood. -/
theorem stableSort_pairwise_stable {R : α → α → Prop} {l : List α} (h : l.Pairwise R) :
    (stableSort le l).Pairwise fun a b => le a b ∧ (le b a → R a b) := by
  induction l with
  | nil => exact List.Pairwise.nil
  | cons a rest ih =>
    obtain ⟨ha, hrest⟩ := List.pairwise_cons.1 h
    refine insertSorted_pairwise_stable total trans (fun b hb => ?_) (ih hrest)
    exact ha b (mem_stableSort.1 hb)

theorem stableSort_pairwise (l : List α) : (stableSort le l).Pairwise fun a b => le a b := by
  have h : l.Pairwise fun _ _ => True := List.pairwise_of_forall fun _ _ => trivial
  exact (stableSort_pairwise_stable total trans h).imp And.left

/-- If the order tells the elements apart, it does not matter how they stood. -/
theorem stableSort_eq_of_perm {l l' : List α} (h : l.Perm l')
    (anti : ∀ a ∈ l, ∀ b ∈ l, le a b → le b a → a = b) : stableSort le l = stableSort le l' := by
  refine List.Perm.eq_of_pairwise (fun a b ha hb => ?_) (stableSort_pairwise total trans l)
    (stableSort_pairwise total trans l')
    (((stableSort_perm le l).trans h).trans (stableSort_perm le l').symm)
  exact anti a (mem_stableSort.1 ha) b (h.mem_iff.2 (mem_stableSort.1 hb))

end

theorem insertSorted_of_forall_le {le : α → α → Bool} {a : α} {l : List α} (h : ∀ b ∈ l, le a b) :
    insertSorted le a l = a :: l := by
  cases l with
  | nil => rfl
  | cons b rest => rw [insertSorted, if_pos (h b List.mem_cons_self)]

/-- A list in order stays as it is. -/
theorem stableSort_eq_self {le : α → α → Bool} {l : List α} (h : l.Pairwise fun a b => le a b) :
    stableSort le l = l := by
  induction l with
  | nil => rfl
  | cons a rest ih =>
    obtain ⟨ha, hrest⟩ := List.pairwise_cons.1 h
    rw [stableSort, ih hrest, insertSorted_of_forall_le ha]

theorem insertSorted_append {le : α → α → Bool} {a : α} {l l' : List α} (h : ∀ b ∈ l', le a b) :
    insertSorted le a (l ++ l') = insertSorted le a l ++ l' := by
  induction l with
  | nil => exact insertSorted_of_forall_le h
  | cons b rest ih =>
    rw [List.cons_append, insertSorted, insertSorted, ih]
    split <;> rfl

/-- Two lists, of which all of the first may stand ahead of the second, are sorted apart. -/
theorem stableSort_append {le : α → α → Bool} {l l' : List α} (h : ∀ a ∈ l, ∀ b ∈ l', le a b) :
    stableSort le (l ++ l') = stableSort le l ++ stableSort le l' := by
  induction l with
  | nil => rfl
  | cons a rest ih =>
    obtain ⟨ha, hrest⟩ := List.forall_mem_cons.1 h
    rw [List.cons_append, stableSort, stableSort, ih hrest]
    exact insertSorted_append fun b hb => ha b (mem_stableSort.1 hb)

section
variable {le : α → α → Bool} {p : α → Bool} (total : ∀ a b, le a b ∨ le b a)
  (trans : ∀ a b c, le a b → le b c → le a c)

include trans in
theorem filter_insertSorted {a : α} {l : List α} (h : l.Pairwise fun b c => le b c) :
    (insertSorted le a l).filter p =
      if p a then insertSorted le a (l.filter p) else l.filter p := by
  induction l with
  | nil => simp [insertSorted, List.filter_cons]
  | cons b rest ih =>
    obtain ⟨hb, hrest⟩ := List.pairwise_cons.1 h
    rw [insertSorted]
    by_cases hab : le a b
    · have hfirst : ∀ c ∈ (b :: rest).filter p, le a c := by
        intro c hc
        rcases List.mem_cons.1 (List.mem_filter.1 hc).1 with rfl | hc
        · exact hab
        · exact trans a b c hab (hb c hc)
      rw [if_pos hab, List.filter_cons, insertSorted_of_forall_le hfirst]
    · rw [if_neg hab, List.filter_cons, List.filter_cons, ih hrest]
      by_cases hpb : p b
      · rw [if_pos hpb, if_pos hpb, insertSorted, if_neg hab]
        split <;> rfl
      · rw [if_neg hpb, if_neg hpb]

include total trans in
/-- To sort what is taken out of a list is to take it out of the sorted list. -/
theorem filter_stableSort (l : List α) :
    (stableSort le l).filter p = stableSort le (l.filter p) := by
  induction l with
  | nil => rfl
  | cons a rest ih =>
    rw [stableSort, filter_insertSorted trans (stableSort_pairwise total trans rest), ih,
      List.filter_cons]
    split <;> rfl

end

section
variable (key : α → Nat)

theorem key_le_total (a b : α) : decide (key a ≤ key b) ∨ decide (key b ≤ key a) := by
  simpa using Nat.le_total (key a) (key b)

theorem key_le_trans (a b c : α) (hab : decide (key a ≤ key b)) (hbc : decide (key b ≤ key c)) :
    decide (key a ≤ key c) := by
  simp only [decide_eq_true_eq] at *
  exact Nat.le_trans hab hbc

theorem pairwise_stableSort_key (l : List α) :
    (stableSort (fun a b => key a ≤ key b) l).Pairwise fun a b => key a ≤ key b :=
  (stableSort_pairwise (key_le_total key) (key_le_trans key) l).imp of_decide_eq_true

/-- Sorting by a key finds the one permutation in which the keys ascend. -/
theorem stableSort_eq_of_ascending {l l' : List α} (h : l.Perm l')
    (hascends : l'.Pairwise fun a b => key a < key b) :
    stableSort (fun a b => key a ≤ key b) l = l' := by
  have hperm := (stableSort_perm (fun a b => key a ≤ key b) l).trans h
  have hne : (stableSort (fun a b => key a ≤ key b) l).Pairwise fun a b => key a ≠ key b :=
    (hperm.pairwise_iff Ne.symm).2 (hascends.imp Nat.ne_of_lt)
  have hlt : (stableSort (fun a b => key a ≤ key b) l).Pairwise fun a b => key a < key b :=
    ((pairwise_stableSort_key key l).and hne).imp fun hab => Nat.lt_of_le_of_ne hab.1 hab.2
  exact List.Perm.eq_of_pairwise (fun a b _ _ hab hba => absurd hba (Nat.lt_asymm hab)) hlt
    hascends hperm

/-- The places of the elements of a list ascend. -/
theorem pairwise_zipIdx (l : List α) (n : Nat) : (l.zipIdx n).Pairwise fun a b => a.2 < b.2 := by
  rw [← List.pairwise_map, List.zipIdx_map_snd]
  exact List.pairwise_lt_range'

end

variable {β : Type}

theorem map_insertSorted {f : α → β} {le : α → α → Bool} {le' : β → β → Bool}
    (h : ∀ a b, le' (f a) (f b) = le a b) (a : α) (l : List α) :
    (insertSorted le a l).map f = insertSorted le' (f a) (l.map f) := by
  induction l with
  | nil => rfl
  | cons b rest ih =>
    rw [insertSorted, List.map_cons, insertSorted, h]
    split
    · rfl
    · rw [List.map_cons, ih]

/-- Sorting by a key of the images sorts the images. -/
theorem map_stableSort {f : α → β} {le : α → α → Bool} {le' : β → β → Bool}
    (h : ∀ a b, le' (f a) (f b) = le a b) (l : List α) :
    (stableSort le l).map f = stableSort le' (l.map f) := by
  induction l with
  | nil => rfl
  | cons a rest ih => rw [stableSort, map_insertSorted h, ih, List.map_cons, stableSort]

end Emend
