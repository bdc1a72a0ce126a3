import Mathlib.Algebra.BigOperators.Group.List.Basic
import Mathlib.Algebra.Ring.Int.Defs
import Mathlib.Data.List.Infix
import Emend.Shift

/-!
# The shift in signed words

The delta of a `Shift` is a signed word (`Shift.isSigned_run`), since it wraps round.
`Shift.record?` refuses a call instead if the difference of the lengths, or the sum that this leads
to, is no signed word. Where no call is refused, the shift is the one that the calls leave anyway
(`Shift.run_eq_of_run?`). Lengths below `Word.half` always differ by a signed word, so a sequence of
such calls gets through exactly if all sums on the way are signed words, and its delta is then the
sum of the growths in integers (`Shift.run?_eq_some_iff`).

Spans are located by that sum (`Shift.run_exact`). The order of the calls decides whether a sum
overflows on the way, and nothing else.
-/

namespace Emend

namespace Word

/-- Is the number a word? -/
def IsWord (n : Int) : Prop := 0 ≤ n ∧ n < bound

instance (n : Int) : Decidable (IsWord n) := inferInstanceAs (Decidable (_ ∧ _))

/-- The number as a signed word, if it is one. -/
def signed? (n : Int) : Option Int := if IsSigned n then some n else none

theorem signed?_eq_some_iff {n r : Int} : signed? n = some r ↔ IsSigned n ∧ r = n := by
  unfold signed?
  split
  · next h => simp [h, eq_comm]
  · next h => simp [h]

/-- Lengths that count as themselves differ by a signed word. -/
theorem isSigned_signed_sub {m n : Nat} (hm : m < half) (hn : n < half) :
    IsSigned (signed m - signed n) := by
  rw [signed_of_lt hm, signed_of_lt hn, IsSigned]
  omega

end Word

/-- Are both ends of the span words when they are moved by `shift`? -/
def Span.StaysInRange (span : Span) (shift : Int) : Prop :=
  Word.IsWord (span.start + shift) ∧ Word.IsWord (span.stop + shift)

instance (span : Span) (shift : Int) : Decidable (span.StaysInRange shift) :=
  inferInstanceAs (Decidable (_ ∧ _))

namespace Shift

/-! ## Locating -/

section
variable {shift : Shift} {span : Span}

theorem locate_eq_ok_iff_staysInRange {range : Span} : shift.locate span = .ok range ↔
    span.StaysInRange shift.delta ∧
      (range.start : Int) = span.start + shift.delta ∧
      (range.stop : Int) = span.stop + shift.delta := by
  rw [locate_eq_ok_iff, Span.StaysInRange, Word.IsWord, Word.IsWord, Span.InRange]
  omega

theorem exists_locate_iff :
    (∃ range, shift.locate span = .ok range) ↔ span.StaysInRange shift.delta := by
  constructor
  · rintro ⟨range, h⟩
    exact (locate_eq_ok_iff_staysInRange.1 h).1
  · intro h
    have hstart : 0 ≤ span.start + shift.delta := h.1.1
    have hstop : 0 ≤ span.stop + shift.delta := h.2.1
    exact ⟨⟨(span.start + shift.delta).toNat, (span.stop + shift.delta).toNat⟩,
      locate_eq_ok_iff_staysInRange.2 ⟨h, Int.toNat_of_nonneg hstart, Int.toNat_of_nonneg hstop⟩⟩

theorem locate_eq_error_iff_not_staysInRange {e : FixerError} : shift.locate span = .error e ↔
    e = .offsetOverflow span shift.delta ∧ ¬ span.StaysInRange shift.delta := by
  rw [locate_eq_error_iff, ← exists_locate_iff, not_exists]

end

/-! ## Calls -/

/-- What is asked of a shift, or told to it, while a document is edited. -/
inductive Call where
  /-- So many units have given way to so many. -/
  | record (removed inserted : Nat)
  /-- Where does the span lie now? -/
  | locate (span : Span)
  deriving DecidableEq

/-- By how much the document has grown at a call. -/
def Call.growth : Call → Int
  | record removed inserted => inserted - removed
  | locate _ => 0

/-- The lengths of a record count as themselves in signed words. -/
def Call.Short : Call → Prop
  | record removed inserted => removed < Word.half ∧ inserted < Word.half
  | locate _ => True

/-- By how much the document has grown at the calls together. -/
def growth (calls : List Call) : Int := (calls.map Call.growth).sum

/-- The shift that a call leaves. -/
def after (shift : Shift) : Call → Shift
  | .record removed inserted => shift.record removed inserted
  | .locate _ => shift

/-- The shift that the calls leave, one after the other. -/
def run (shift : Shift) (calls : List Call) : Shift := calls.foldl after shift

/-- As `record`, but the difference and the sum have to be signed words. -/
def record? (shift : Shift) (removed inserted : Nat) : Option Shift := do
  let growth ← Word.signed? (Word.signed inserted - Word.signed removed)
  let delta ← Word.signed? (shift.delta + growth)
  return ⟨delta⟩

/-- The shift that a call leaves in signed words, if it is not refused. -/
def after? (shift : Shift) : Call → Option Shift
  | .record removed inserted => shift.record? removed inserted
  | .locate _ => some shift

/-- The shift that the calls leave in signed words, if none of them is refused. -/
def run? (shift : Shift) (calls : List Call) : Option Shift := calls.foldlM after? shift

/-- Are all the sums signed words that come up while the growths are added to `start`? -/
def SumsSigned (start : Int) (calls : List Call) : Prop :=
  ∀ before, before <+: calls → Word.IsSigned (start + growth before)

instance (start : Int) (calls : List Call) : Decidable (SumsSigned start calls) :=
  decidable_of_iff (∀ before ∈ calls.inits, Word.IsSigned (start + growth before)) (by
    simp only [SumsSigned, List.mem_inits])

@[simp] theorem growth_nil : growth [] = 0 := rfl

@[simp] theorem growth_cons (call : Call) (calls : List Call) :
    growth (call :: calls) = call.growth + growth calls := List.sum_cons

theorem growth_perm {calls calls' : List Call} (h : calls.Perm calls') :
    growth calls = growth calls' := (h.map Call.growth).sum_eq

theorem run_append (shift : Shift) (calls rest : List Call) :
    shift.run (calls ++ rest) = (shift.run calls).run rest := List.foldl_append

theorem SumsSigned.isSigned_start {start : Int} {calls : List Call} (h : SumsSigned start calls) :
    Word.IsSigned start := by
  have hnil := h [] List.nil_prefix
  rwa [growth_nil, Int.add_zero] at hnil

theorem sumsSigned_cons_iff {start : Int} {call : Call} {calls : List Call} :
    SumsSigned start (call :: calls) ↔
      Word.IsSigned start ∧ SumsSigned (start + call.growth) calls := by
  constructor
  · intro h
    refine ⟨h.isSigned_start, fun before hbefore => ?_⟩
    have hcons := h (call :: before) (List.cons_prefix_cons.2 ⟨rfl, hbefore⟩)
    rwa [growth_cons, ← Int.add_assoc] at hcons
  · rintro ⟨hstart, hcalls⟩ before hbefore
    obtain rfl | ⟨behind, rfl, hbehind⟩ := List.prefix_cons_iff.1 hbefore
    · rwa [growth_nil, Int.add_zero]
    · rw [growth_cons, ← Int.add_assoc]
      exact hcalls behind hbehind

section
variable {shift next : Shift} {call : Call} {calls : List Call}

theorem isSigned_after (h : Word.IsSigned shift.delta) :
    Word.IsSigned (shift.after call).delta := by
  cases call with
  | record removed inserted => exact Word.isSigned_wrap _
  | locate span => exact h

theorem isSigned_run (h : Word.IsSigned shift.delta) : Word.IsSigned (shift.run calls).delta := by
  induction calls generalizing shift with
  | nil => exact h
  | cons call calls ih => exact ih (isSigned_after h)

/-! ## Calls that are not refused -/

theorem record?_eq_some_iff {removed inserted : Nat} :
    shift.record? removed inserted = some next ↔
      Word.IsSigned (Word.signed inserted - Word.signed removed) ∧
        Word.IsSigned (shift.delta + (Word.signed inserted - Word.signed removed)) ∧
        next = ⟨shift.delta + (Word.signed inserted - Word.signed removed)⟩ := by
  simp only [record?, Option.bind_eq_bind, Option.bind_eq_some_iff, Word.signed?_eq_some_iff]
  -- The cases only need a name for the difference; unfolded it is a remainder by `Word.bound`.
  generalize Word.signed inserted - Word.signed removed = growth
  constructor
  · rintro ⟨_, ⟨hgrowth, rfl⟩, _, ⟨hsum, rfl⟩, hnext⟩
    exact ⟨hgrowth, hsum, (Option.some.inj hnext).symm⟩
  · rintro ⟨hgrowth, hsum, rfl⟩
    exact ⟨_, ⟨hgrowth, rfl⟩, _, ⟨hsum, rfl⟩, rfl⟩

theorem record_eq_of_record? {removed inserted : Nat}
    (h : shift.record? removed inserted = some next) : shift.record removed inserted = next := by
  obtain ⟨hgrowth, hsum, rfl⟩ := record?_eq_some_iff.1 h
  rw [record, Word.wrap_eq_self hgrowth, Word.wrap_eq_self hsum]

theorem after_eq_of_after? (h : shift.after? call = some next) : shift.after call = next := by
  cases call with
  | record removed inserted => exact record_eq_of_record? h
  | locate span => exact Option.some.inj h

theorem run?_cons_eq_some_iff : shift.run? (call :: calls) = some next ↔
    ∃ mid, shift.after? call = some mid ∧ mid.run? calls = some next := by
  rw [run?, List.foldlM_cons]
  exact Option.bind_eq_some_iff

/-- Calls of which none is refused leave the shift that they leave anyway. -/
theorem run_eq_of_run? (h : shift.run? calls = some next) : shift.run calls = next := by
  induction calls generalizing shift with
  | nil => exact Option.some.inj h
  | cons call calls ih =>
    obtain ⟨mid, hmid, hrest⟩ := run?_cons_eq_some_iff.1 h
    show (shift.after call).run calls = next
    rw [after_eq_of_after? hmid, ih hrest]

/-! ## Words and integers -/

/-- The difference of short lengths is a signed word, so that only the sum can fail to be one. -/
theorem after?_eq_some_iff (hshort : call.Short) (hdelta : Word.IsSigned shift.delta) :
    shift.after? call = some next ↔
      Word.IsSigned (shift.delta + call.growth) ∧ next = ⟨shift.delta + call.growth⟩ := by
  cases call with
  | record removed inserted =>
    obtain ⟨hremoved, hinserted⟩ := hshort
    have hgrowth := Word.isSigned_signed_sub hinserted hremoved
    rw [after?, record?_eq_some_iff, and_iff_right hgrowth, Word.signed_of_lt hremoved,
      Word.signed_of_lt hinserted]
    rfl
  | locate span =>
    rw [after?, Call.growth, Int.add_zero, and_iff_right hdelta, Option.some.injEq]
    exact eq_comm

/-- Short calls come to their end in signed words exactly if no sum on the way overflows, and then
the delta is the sum in integers. -/
theorem run?_eq_some_iff (hshort : ∀ call ∈ calls, call.Short)
    (hdelta : Word.IsSigned shift.delta) :
    shift.run? calls = some next ↔
      SumsSigned shift.delta calls ∧ next = ⟨shift.delta + growth calls⟩ := by
  induction calls generalizing shift with
  | nil =>
    rw [run?, List.foldlM_nil, growth_nil, Int.add_zero]
    simp [SumsSigned, hdelta, eq_comm]
  | cons call calls ih =>
    obtain ⟨hcall, hcalls⟩ := List.forall_mem_cons.1 hshort
    rw [run?_cons_eq_some_iff, sumsSigned_cons_iff, growth_cons, ← Int.add_assoc]
    constructor
    · rintro ⟨mid, hmid, hrest⟩
      obtain ⟨hsigned, rfl⟩ := (after?_eq_some_iff hcall hdelta).1 hmid
      obtain ⟨hsums, rfl⟩ := (ih hcalls hsigned).1 hrest
      exact ⟨⟨hdelta, hsums⟩, rfl⟩
    · rintro ⟨⟨-, hsums⟩, rfl⟩
      have hsigned := hsums.isSigned_start
      exact ⟨_, (after?_eq_some_iff hcall hdelta).2 ⟨hsigned, rfl⟩,
        (ih hcalls hsigned).2 ⟨hsums, rfl⟩⟩

end

/-- The growths are the same, but in one order they overflow on the way. -/
example : run? .zero [.record 0 (Word.half - 1), .record 0 1, .record 1 0] = none ∧
    run? .zero [.record 0 (Word.half - 1), .record 1 0, .record 0 1] =
      some ⟨Word.half - 1⟩ := by decide +kernel

/-- From zero on, with lengths that count as themselves and sums that are signed words, no call is
refused in signed words, and the delta is the sum of the growths. The same calls leave the same
shift in every order in which the sums are signed words. A span lies where the sum moves its two
ends, if both of these are words; otherwise the error names the span and the sum. Whether it was
asked for makes no difference to the calls behind. -/
theorem run_exact {calls : List Call} (hshort : ∀ call ∈ calls, call.Short)
    (hsums : SumsSigned 0 calls) (span : Span) :
    let shift := run .zero calls
    run? .zero calls = some shift ∧ shift.delta = growth calls ∧
    (∀ calls', calls'.Perm calls → SumsSigned 0 calls' → run? .zero calls' = some shift) ∧
    (∀ range, shift.locate span = .ok range ↔
      span.StaysInRange (growth calls) ∧
        (range.start : Int) = span.start + growth calls ∧
        (range.stop : Int) = span.stop + growth calls) ∧
    (∀ e, shift.locate span = .error e ↔
      e = .offsetOverflow span (growth calls) ∧ ¬ span.StaysInRange (growth calls)) ∧
    ∀ rest, run .zero (calls ++ .locate span :: rest) = run .zero (calls ++ rest) := by
  intro shift
  have hzero : Word.IsSigned zero.delta := by decide
  have hrun : run? .zero calls = some ⟨growth calls⟩ :=
    (run?_eq_some_iff hshort hzero).2 ⟨hsums, by rw [zero, Int.zero_add]⟩
  have hshift : shift = ⟨growth calls⟩ := run_eq_of_run? hrun
  have hdelta : shift.delta = growth calls := congrArg Shift.delta hshift
  rw [← hshift] at hrun
  refine ⟨hrun, hdelta, ?_, ?_, ?_, ?_⟩
  · intro calls' hperm hsums'
    have hshort' : ∀ call ∈ calls', call.Short := fun call h => hshort call (hperm.mem_iff.1 h)
    refine (run?_eq_some_iff hshort' hzero).2 ⟨hsums', ?_⟩
    rw [hshift, zero, Int.zero_add, growth_perm hperm]
  · intro range
    rw [← hdelta]
    exact locate_eq_ok_iff_staysInRange
  · intro e
    rw [← hdelta]
    exact locate_eq_error_iff_not_staysInRange
  · intro rest
    rw [run_append, run_append]
    rfl

/-- The sums reach the least signed word in both orders, and in the first one the greatest too. The
spans are inverted, with ends that are moved to the edge of the words and past it. -/
theorem run_exact_extreme :
    let insertion : Call := .record 0 (Word.half - 1)
    let removal : Call := .record (Word.half - 1) 0
    let calls : List Call :=
      [insertion, .locate ⟨Word.half + 1, 0⟩, removal, .record 1 0, removal]
    let calls' : List Call :=
      [removal, .record 1 0, insertion, .locate ⟨Word.half + 1, 0⟩, removal]
    let shift := run .zero calls
    (∀ call ∈ calls, call.Short) ∧ SumsSigned 0 calls ∧ growth calls = -Word.half ∧
    run? .zero calls = some shift ∧ run? .zero calls' = some shift ∧ shift.delta = -Word.half ∧
    shift.locate ⟨Word.bound - 1, Word.half⟩ = .ok ⟨Word.half - 1, 0⟩ ∧
    shift.locate ⟨Word.half, Word.half - 1⟩ =
      .error (.offsetOverflow ⟨Word.half, Word.half - 1⟩ (-Word.half)) := by
  intro insertion removal calls calls' shift
  have hshort : ∀ call ∈ calls, call.Short := by
    simp [calls, insertion, removal, Call.Short, Word.half]
  have hsums : SumsSigned 0 calls := by decide +kernel
  have hsums' : SumsSigned 0 calls' := by decide +kernel
  have hperm : calls'.Perm calls := by decide +kernel
  have hgrowth : growth calls = -Word.half := by decide +kernel
  obtain ⟨hrun, hdelta, horder, hlocate, -, -⟩ :=
    run_exact hshort hsums ⟨Word.bound - 1, Word.half⟩
  obtain ⟨-, -, -, -, hrefused, -⟩ := run_exact hshort hsums ⟨Word.half, Word.half - 1⟩
  rw [hgrowth] at hdelta hlocate hrefused
  refine ⟨hshort, hsums, hgrowth, hrun, horder calls' hperm hsums', hdelta,
    (hlocate _).2 ?_, (hrefused _).2 ⟨rfl, ?_⟩⟩
  · decide +kernel
  · decide +kernel

end Shift

end Emend
