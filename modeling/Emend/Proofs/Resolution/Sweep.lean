import Emend.Resolution

/-!
# One pass over sorted candidates

The candidates come in the order of their spans (`Span.Precedes`). While `Resolution.sweep` goes
over them it holds the last fix accepted, and `Resolution.Ready` is what it may rely on at every
step: the candidates left are in order, none is inverted, and the last fix comes before all of them.
Then a candidate overlaps that fix just if it starts before the fix stops (`claimant?_eq_none_iff`).

`accepted_settle` and `candidate_rejected_settle` say which insertions at one point are accepted
and which are not, `exists_of_mem_rejected_settle` for whose sake.
-/

namespace Emend

namespace Span

/-- `s` comes no later than `t` in the order of spans. -/
def Precedes (s t : Span) : Prop := s.start < t.start ∨ s.start = t.start ∧ s.stop ≤ t.stop

theorem Precedes.trans {s t u : Span} (h : s.Precedes t) (h' : t.Precedes u) : s.Precedes u := by
  unfold Precedes at *
  omega

theorem Precedes.total (s t : Span) : s.Precedes t ∨ t.Precedes s := by
  unfold Precedes
  omega

theorem Precedes.antisymm {s t : Span} (h : s.Precedes t) (h' : t.Precedes s) : s = t := by
  unfold Precedes at *
  cases s
  cases t
  simp only [Span.mk.injEq] at *
  omega

/-- A span that is not inverted overlaps an earlier one just if it starts inside it. -/
theorem overlaps_iff_lt {s t : Span} (h : s.Precedes t) (ht : t.start ≤ t.stop) :
    t.overlaps s ↔ t.start < s.stop := by
  unfold Precedes at h
  simp only [overlaps, isEmpty, Bool.and_eq_true, Bool.not_eq_true', Bool.and_eq_false_iff,
    decide_eq_true_eq, decide_eq_false_iff_not]
  omega

end Span

namespace Fix

variable {P : Type}

theorem isInsertion_iff {fix : Fix P} : fix.isInsertion ↔ fix.span.start = fix.span.stop := by
  simp [isInsertion]

end Fix

/-- A rejected fix with its place, without the reason. -/
def RejectedFix.candidate {P : Type} (r : RejectedFix P) : Candidate P := ⟨r.index, r.fix⟩

namespace Candidate

variable {P : Type}

theorem le_iff {a b : Candidate P} : le a b ↔ a.fix.span.Precedes b.fix.span := by
  simp [le, Span.Precedes]

theorem map_fix_enumerate (fixes : List (Fix P)) : (enumerate fixes).map Candidate.fix = fixes := by
  simp [enumerate, Function.comp_def]

theorem mem_enumerate_iff {fixes : List (Fix P)} {c : Candidate P} :
    c ∈ enumerate fixes ↔ fixes[c.index]? = some c.fix := by
  rw [enumerate, List.mem_map, ← List.mk_mem_zipIdx_iff_getElem?]
  constructor
  · rintro ⟨⟨fix, index⟩, h, rfl⟩
    exact h
  · intro h
    exact ⟨(c.fix, c.index), h, rfl⟩

theorem fix_mem_of_mem_enumerate {fixes : List (Fix P)} {c : Candidate P}
    (h : c ∈ enumerate fixes) : c.fix ∈ fixes :=
  List.mem_of_getElem? (mem_enumerate_iff.1 h)

theorem le_total (a b : Candidate P) : le a b ∨ le b a := by
  rw [le_iff, le_iff]
  exact Span.Precedes.total _ _

theorem le_trans (a b c : Candidate P) (hab : le a b) (hbc : le b c) : le a c := by
  rw [le_iff] at *
  exact hab.trans hbc

/-- The candidates in the order of their spans. -/
theorem pairwise_precedes_stableSort (cs : List (Candidate P)) :
    (stableSort le cs).Pairwise fun a b => a.fix.span.Precedes b.fix.span :=
  (stableSort_pairwise le_total le_trans cs).imp le_iff.1

end Candidate

namespace Resolution

variable {P : Type} {policy : SamePointPolicy} {last : Option (Fix P)} {c : Candidate P}
  {rest : List (Candidate P)}

@[simp] theorem accepted_append (a b : Resolution P) :
    (append a b).accepted = a.accepted ++ b.accepted := rfl

@[simp] theorem rejected_append (a b : Resolution P) :
    (append a b).rejected = a.rejected ++ b.rejected := rfl

/-! ## The steps of the sweep -/

@[simp] theorem sweep_nil : sweep policy last [] = ⟨[], []⟩ := by
  rw [sweep]

theorem sweep_of_claimant {claimant : Fix P} (h : claimant? last c = some claimant) :
    sweep policy last (c :: rest) = append ⟨[], [c.blame claimant]⟩ (sweep policy last rest) := by
  rw [sweep, h]

/-- The insertions at the point of `c` that `c` and the candidates behind it begin with. -/
def run (c : Candidate P) (rest : List (Candidate P)) : List (Candidate P) :=
  c :: rest.takeWhile (insertsAt c.fix.span.start)

/-- The candidates behind the run. -/
def behind (c : Candidate P) (rest : List (Candidate P)) : List (Candidate P) :=
  rest.dropWhile (insertsAt c.fix.span.start)

theorem self_mem_run (c : Candidate P) (rest : List (Candidate P)) : c ∈ run c rest :=
  List.mem_cons_self

theorem run_append_behind (c : Candidate P) (rest : List (Candidate P)) :
    run c rest ++ behind c rest = c :: rest := by
  rw [run, behind, List.cons_append, List.takeWhile_append_dropWhile]

theorem sweep_of_insertion (h : claimant? last c = none) (hc : c.fix.isInsertion) :
    sweep policy last (c :: rest) =
      append (settle policy c (run c rest))
        (sweep policy ((settle policy c (run c rest)).accepted.getLast?.or last)
          (behind c rest)) := by
  rw [sweep, h]
  show (if _ then _ else _) = _
  rw [if_pos hc]
  rfl

theorem sweep_of_replacement (h : claimant? last c = none) (hc : ¬ c.fix.isInsertion) :
    sweep policy last (c :: rest) = append ⟨[c.fix], []⟩ (sweep policy (some c.fix) rest) := by
  rw [sweep, h]
  show (if _ then _ else _) = _
  rw [if_neg hc]

/-- Induction along the steps of the sweep. -/
theorem sweep_induction (policy : SamePointPolicy)
    {motive : Option (Fix P) → List (Candidate P) → Prop} (nil : ∀ last, motive last [])
    (claimed : ∀ last c rest claimant, claimant? last c = some claimant →
      motive last rest → motive last (c :: rest))
    (insertion : ∀ last c rest, claimant? last c = none → c.fix.isInsertion →
      motive ((settle policy c (run c rest)).accepted.getLast?.or last) (behind c rest) →
      motive last (c :: rest))
    (replacement : ∀ last c rest, claimant? last c = none → ¬ c.fix.isInsertion →
      motive (some c.fix) rest → motive last (c :: rest))
    (last : Option (Fix P)) (cs : List (Candidate P)) : motive last cs := by
  induction last, cs using sweep.induct policy with
  | case1 last => exact nil last
  | case2 last c rest claimant h ih => exact claimed last c rest claimant h ih
  | case3 last c rest h hc point verdict ih => exact insertion last c rest h hc ih
  | case4 last c rest h hc ih => exact replacement last c rest h hc ih

/-! ## Settling the insertions at one point -/

/-- Is `c` accepted among the insertions of `group`, which begins with `first`? -/
def keeps (policy : SamePointPolicy) (first : Candidate P) (group : List (Candidate P))
    (c : Candidate P) : Bool :=
  match policy with
  | .firstSubmitted => c.fix.origin == first.fix.origin
  | .rejectAll => group.all fun d => d.fix.origin == first.fix.origin

variable {first : Candidate P} {group : List (Candidate P)}

theorem settle_of_all (h : group.all fun d => d.fix.origin == first.fix.origin) :
    settle policy first group = ⟨group.map Candidate.fix, []⟩ := by
  unfold settle
  rw [if_pos h]

theorem settle_firstSubmitted : settle .firstSubmitted first group =
    ⟨(group.filter fun d => d.fix.origin == first.fix.origin).map Candidate.fix,
      (group.filter fun d => d.fix.origin != first.fix.origin).map (·.blame first.fix)⟩ := by
  unfold settle
  split
  · next h =>
    -- with one origin nothing is filtered out on the left and all is on the right
    have hsame := List.all_eq_true.1 h
    rw [List.filter_eq_self.2 hsame, List.filter_eq_nil_iff.2 fun d hd => ?_]
    · rfl
    · rw [bne, hsame d hd]
      exact Bool.false_ne_true
  · rfl

theorem settle_rejectAll (h : ¬ group.all fun d => d.fix.origin == first.fix.origin) :
    settle .rejectAll first group =
      ⟨[], group.filterMap fun d =>
        (group.find? fun other => other.fix.origin != d.fix.origin).map fun other =>
          d.blame other.fix⟩ := by
  rw [settle, if_neg h]

/-- A group with one origin keeps all of its insertions. -/
theorem keeps_of_all (h : group.all fun d => d.fix.origin == first.fix.origin) (hc : c ∈ group) :
    keeps policy first group c := by
  cases policy with
  | firstSubmitted => exact List.all_eq_true.1 h c hc
  | rejectAll => exact h

theorem accepted_settle : (settle policy first group).accepted =
    (group.filter (keeps policy first group)).map Candidate.fix := by
  by_cases h : group.all fun d => d.fix.origin == first.fix.origin
  · rw [settle_of_all h, List.filter_eq_self.2 fun d hd => keeps_of_all h hd]
  · cases policy with
    | firstSubmitted =>
      rw [settle_firstSubmitted]
      rfl
    | rejectAll =>
      have hnone : ∀ d ∈ group, ¬ keeps .rejectAll first group d := fun _ _ => h
      rw [settle_rejectAll h, List.filter_eq_nil_iff.2 hnone]
      rfl

/-- In a group with two origins each insertion has a rival. -/
theorem exists_rival (hfirst : first ∈ group)
    (h : ¬ group.all fun d => d.fix.origin == first.fix.origin) (c : Candidate P) :
    ∃ other, (group.find? fun other => other.fix.origin != c.fix.origin) = some other := by
  rw [← Option.isSome_iff_exists, List.find?_isSome]
  by_cases hc : c.fix.origin = first.fix.origin
  · obtain ⟨d, hd, hne⟩ := List.all_eq_false.1 (Bool.eq_false_iff.2 h)
    refine ⟨d, hd, ?_⟩
    rw [hc]
    simpa using hne
  · exact ⟨first, hfirst, by simpa using Ne.symm hc⟩

theorem map_filterMap_eq_self {α β : Type} {f : α → Option β} {g : β → α} {l : List α}
    (h : ∀ a ∈ l, ∃ b, f a = some b ∧ g b = a) : (l.filterMap f).map g = l := by
  induction l with
  | nil => rfl
  | cons a l ih =>
    obtain ⟨b, hb, hg⟩ := h a List.mem_cons_self
    rw [List.filterMap_cons_some hb, List.map_cons, hg,
      ih fun a' h' => h a' (List.mem_cons_of_mem a h')]

theorem candidate_rejected_settle (hfirst : first ∈ group) :
    (settle policy first group).rejected.map RejectedFix.candidate =
      group.filter fun c => !keeps policy first group c := by
  by_cases h : group.all fun d => d.fix.origin == first.fix.origin
  · have hnone : ∀ d ∈ group, ¬ (!keeps policy first group d) = true := by
      intro d hd
      rw [keeps_of_all h hd]
      simp
    rw [settle_of_all h, List.filter_eq_nil_iff.2 hnone]
    rfl
  · cases policy with
    | firstSubmitted =>
      rw [settle_firstSubmitted, List.map_map]
      exact List.map_id _
    | rejectAll =>
      have hall : ∀ d ∈ group, (!keeps .rejectAll first group d) = true := by
        intro d _
        rw [show keeps .rejectAll first group d = false from Bool.eq_false_iff.2 h]
        rfl
      rw [settle_rejectAll h, List.filter_eq_self.2 hall]
      apply map_filterMap_eq_self
      intro d _
      obtain ⟨other, hother⟩ := exists_rival hfirst h d
      exact ⟨d.blame other.fix, by rw [hother]; rfl, rfl⟩

/-- What is kept has one origin. -/
theorem origin_eq_of_mem_accepted_settle {fix : Fix P}
    (h : fix ∈ (settle policy first group).accepted) : fix.origin = first.fix.origin := by
  rw [accepted_settle] at h
  obtain ⟨c, hc, rfl⟩ := List.mem_map.1 h
  obtain ⟨hmem, hkeeps⟩ := List.mem_filter.1 hc
  cases policy with
  | firstSubmitted => simpa [keeps] using hkeeps
  | rejectAll => simpa using List.all_eq_true.1 hkeeps c hmem

theorem accepted_settle_sublist :
    (settle policy first group).accepted.Sublist (group.map Candidate.fix) := by
  rw [accepted_settle]
  exact List.filter_sublist.map Candidate.fix

theorem exists_of_mem_accepted_settle {fix : Fix P}
    (h : fix ∈ (settle policy first group).accepted) : ∃ c ∈ group, c.fix = fix :=
  List.mem_map.1 (accepted_settle_sublist.subset h)

/-- Each insertion is rejected for one of the group with another origin, which is accepted itself
where the first origin is. -/
theorem exists_of_mem_rejected_settle {r : RejectedFix P} (hfirst : first ∈ group)
    (h : r ∈ (settle policy first group).rejected) :
    ∃ c ∈ group, ∃ other ∈ group, r = c.blame other.fix ∧ other.fix.origin ≠ c.fix.origin ∧
      (policy = .firstSubmitted → other.fix ∈ (settle policy first group).accepted) := by
  by_cases hall : group.all fun d => d.fix.origin == first.fix.origin
  · rw [settle_of_all hall] at h
    cases h
  · cases policy with
    | firstSubmitted =>
      rw [settle_firstSubmitted] at h ⊢
      obtain ⟨c, hc, rfl⟩ := List.mem_map.1 h
      obtain ⟨hmem, hne⟩ := List.mem_filter.1 hc
      refine ⟨c, hmem, first, hfirst, rfl, fun heq => ?_, fun _ => ?_⟩
      · simp [heq] at hne
      · exact List.mem_map_of_mem (List.mem_filter.2 ⟨hfirst, by simp⟩)
    | rejectAll =>
      rw [settle_rejectAll hall] at h
      obtain ⟨c, hc, hfind⟩ := List.mem_filterMap.1 h
      obtain ⟨other, hother, rfl⟩ := Option.map_eq_some_iff.1 hfind
      refine ⟨c, hc, other, List.mem_of_find?_eq_some hother, rfl, ?_, nofun⟩
      simpa using List.find?_some hother

/-! ## The run of insertions at one point -/

theorem insertsAt_iff {offset : Nat} :
    insertsAt offset c ↔ c.fix.isInsertion ∧ c.fix.span.start = offset := by
  simp [insertsAt]

theorem insertsAt_of_mem_run {d : Candidate P} (hc : c.fix.isInsertion) (hd : d ∈ run c rest) :
    insertsAt c.fix.span.start d := by
  rcases List.mem_cons.1 hd with rfl | hd
  · exact insertsAt_iff.2 ⟨hc, rfl⟩
  · exact List.all_eq_true.1 List.all_takeWhile d hd

theorem takeWhile_dropWhile_of_forall_not {α : Type} {p : α → Bool} {l : List α}
    (h : ∀ a ∈ l, ¬ p a) : l.takeWhile p = [] ∧ l.dropWhile p = l := by
  cases l with
  | nil => exact ⟨rfl, rfl⟩
  | cons a l =>
    have ha := h a List.mem_cons_self
    exact ⟨List.takeWhile_cons_of_neg ha, List.dropWhile_cons_of_neg ha⟩

/-- In a list in order no insertion at the point is left behind the run. -/
theorem not_insertsAt_of_mem_behind {d : Candidate P} (hc : c.fix.isInsertion)
    (h : (c :: rest).Pairwise fun a b => a.fix.span.Precedes b.fix.span)
    (hd : d ∈ behind c rest) : ¬ insertsAt c.fix.span.start d := by
  unfold behind at hd
  induction rest with
  | nil => cases hd
  | cons e rest ih =>
    obtain ⟨hce, hrest⟩ := List.pairwise_cons.1 h
    by_cases he : insertsAt c.fix.span.start e
    · rw [List.dropWhile_cons_of_pos he] at hd
      refine ih (List.pairwise_cons.2 ⟨fun b hb => ?_, (List.pairwise_cons.1 hrest).2⟩) hd
      exact hce b (List.mem_cons_of_mem e hb)
    · rw [List.dropWhile_cons_of_neg he] at hd
      have hce := hce e List.mem_cons_self
      have hed : d = e ∨ e.fix.span.Precedes d.fix.span :=
        (List.mem_cons.1 hd).imp_right ((List.pairwise_cons.1 hrest).1 d)
      rcases hed with rfl | hed
      · exact he
      · -- `e` is behind the point, and so is all that comes after `e`
        rw [insertsAt_iff, Fix.isInsertion_iff] at *
        unfold Span.Precedes at hce hed
        omega

/-! ## What the sweep relies on -/

/-- Where the last fix accepted stops. -/
def frontier (last : Option (Fix P)) : Nat := last.elim 0 (·.span.stop)

/-- The last of some fixes, or else the one before them. -/
theorem getLast?_or_sublist {α : Type} (last : Option α) (l : List α) :
    (l.getLast?.or last).toList.Sublist (last.toList ++ l) := by
  cases hlast : l.getLast? with
  | none => exact List.sublist_append_left _ _
  | some a =>
    exact List.singleton_sublist.2 (List.mem_append_right _ (List.mem_of_getLast? hlast))

theorem accepted_settle_run {fix : Fix P} (hc : c.fix.isInsertion)
    (h : fix ∈ (settle policy c (run c rest)).accepted) :
    fix.isInsertion ∧ fix.span.start = c.fix.span.start := by
  obtain ⟨d, hd, rfl⟩ := exists_of_mem_accepted_settle h
  exact insertsAt_iff.1 (insertsAt_of_mem_run hc hd)

/-- If one of the run is accepted, the last one accepted is at their point. -/
theorem frontier_settled {fix : Fix P} (hc : c.fix.isInsertion)
    (h : fix ∈ (settle policy c (run c rest)).accepted) :
    frontier ((settle policy c (run c rest)).accepted.getLast?.or last) = c.fix.span.start := by
  cases hlast : (settle policy c (run c rest)).accepted.getLast? with
  | none =>
    rw [List.getLast?_eq_none_iff.1 hlast] at h
    cases h
  | some fix' =>
    obtain ⟨hfix, hstart⟩ := accepted_settle_run hc (List.mem_of_getLast? hlast)
    rw [Fix.isInsertion_iff] at hfix
    show fix'.span.stop = _
    omega

theorem frontier_le_settled (hc : c.fix.isInsertion) (h : frontier last ≤ c.fix.span.start) :
    frontier last ≤
      frontier ((settle policy c (run c rest)).accepted.getLast?.or last) := by
  cases hacc : (settle policy c (run c rest)).accepted with
  | nil => exact Nat.le_refl _
  | cons fix fixes =>
    rw [← hacc, frontier_settled hc (hacc ▸ List.mem_cons_self)]
    exact h

/-- What holds of the last fix accepted and the candidates left. -/
structure Ready (last : Option (Fix P)) (cs : List (Candidate P)) : Prop where
  sorted : cs.Pairwise fun a b => a.fix.span.Precedes b.fix.span
  valid : ∀ c ∈ cs, c.fix.span.start ≤ c.fix.span.stop
  after : ∀ fix ∈ last, ∀ c ∈ cs, fix.span.Precedes c.fix.span

/-- The sorted candidates of a batch, of which none is inverted, can be swept. -/
theorem ready_stableSort {cs : List (Candidate P)}
    (h : ∀ c ∈ cs, c.fix.span.start ≤ c.fix.span.stop) :
    Ready none (stableSort Candidate.le cs) where
  sorted := Candidate.pairwise_precedes_stableSort cs
  valid c hc := h c (mem_stableSort.1 hc)
  after := nofun

namespace Ready

theorem claimant?_eq_none_iff (h : Ready last (c :: rest)) :
    claimant? last c = none ↔ frontier last ≤ c.fix.span.start := by
  cases last with
  | none => simp [claimant?, frontier]
  | some fix =>
    have hfix := h.after fix rfl c List.mem_cons_self
    have hover := Span.overlaps_iff_lt hfix (h.valid c List.mem_cons_self)
    simp only [claimant?, frontier, Option.filter_eq_none_iff, Option.elim_some]
    constructor
    · intro hnone
      have := mt hover.2 (hnone fix rfl)
      omega
    · rintro hle fix' ⟨⟩ hc
      have := hover.1 hc
      omega

/-- Candidates at the front can be left behind, and one of them can be the last accepted. -/
theorem advance {last' : Option (Fix P)} (front : List (Candidate P)) {back : List (Candidate P)}
    (h : Ready last (front ++ back))
    (hlast : ∀ fix ∈ last', fix ∈ last ∨ ∃ d ∈ front, d.fix = fix) : Ready last' back where
  sorted := (List.pairwise_append.1 h.sorted).2.1
  valid c hc := h.valid c (List.mem_append_right front hc)
  after := by
    intro fix hfix c hc
    rcases hlast fix hfix with hfix | ⟨d, hd, rfl⟩
    · exact h.after fix hfix c (List.mem_append_right front hc)
    · exact (List.pairwise_append.1 h.sorted).2.2 d hd c hc

theorem skip (h : Ready last (c :: rest)) : Ready last rest :=
  advance [c] h fun _ => .inl

theorem accept (h : Ready last (c :: rest)) : Ready (some c.fix) rest := by
  refine advance [c] h fun fix hfix => .inr ⟨c, List.mem_singleton_self c, ?_⟩
  exact Option.some.inj hfix

theorem settled (h : Ready last (c :: rest)) :
    Ready ((settle policy c (run c rest)).accepted.getLast?.or last) (behind c rest) := by
  rw [← run_append_behind c rest] at h
  refine advance (run c rest) h fun fix hfix => ?_
  rcases Option.or_eq_some_iff.1 hfix with hfix | ⟨-, hfix⟩
  · exact .inr (exists_of_mem_accepted_settle (List.mem_of_getLast? hfix))
  · exact .inl hfix

end Ready

end Resolution

end Emend
