import Mathlib.Algebra.Order.BigOperators.Group.List
import Mathlib.Algebra.Order.Ring.Int
import Mathlib.Algebra.Order.Ring.Nat
import Emend.Batch
import Emend.Proofs.Batch.SignedShift
import Emend.Proofs.Document.Sequential
import Emend.Proofs.Resolution.Soundness

/-!
# The run of splices

While the accepted fixes are spliced in, the document is `Midway`: what the fixes done have made of
the units up to `start`, followed by the units of the document before the batch from `start` on. The
length of the former is `start` moved by the shift, so a span behind `start` is located at the same
units as before, and what was a boundary there still is one. `Midway.step` says that the next fix
can therefore be spliced in, and `Midway.run` what comes of all of them.

The result is the simultaneous substitution (`substitute`) of the fixes into the document before
the batch, whose units between two spans are taken as they were.
-/

namespace Emend

/-- The units from `start` on with the spans of the edits replaced, all at once. -/
def substitute {U : Type} (units : List U) (start : Nat) : List (Span × List U) → List U
  | [] => units.drop start
  | (span, payload) :: edits =>
    units.extract start span.start ++ payload ++ substitute units span.stop edits

namespace Batch

open Shape.Sequential (units payloadUnits)

variable {s : Shape}

/-- The length of the payloads of the fixes together. -/
def payloadTotal (s : Shape) (fixes : List (Fix s.Payload)) : Nat :=
  (fixes.map fun fix => s.payloadSize fix.payload).sum

/-- The edits that the fixes make. -/
def edits [s.Sequential] (fixes : List (Fix s.Payload)) :
    List (Span × List (Shape.Sequential.Unit s)) :=
  fixes.map fun fix => (fix.span, payloadUnits fix.payload)

/-- What the shift is told while the fixes are spliced in. -/
def records (s : Shape) (fixes : List (Fix s.Payload)) : List Shift.Call :=
  fixes.map fun fix => .record fix.span.length (s.payloadSize fix.payload)

/-- By how much the fixes lengthen the document in integers. -/
theorem growth_records (fixes : List (Fix s.Payload)) : Shift.growth (records s fixes) =
    (fixes.map fun fix => (s.payloadSize fix.payload : Int) - fix.span.length).sum := by
  rw [Shift.growth, records, List.map_map]
  rfl

theorem growth_records_append (fixes fixes' : List (Fix s.Payload)) :
    Shift.growth (records s (fixes ++ fixes')) =
      Shift.growth (records s fixes) + Shift.growth (records s fixes') := by
  rw [growth_records, growth_records, growth_records, List.map_append, List.sum_append]

/-! ## Runs of any kind of document -/

section
variable {shift shift' : Shift} {doc cur next : s.Doc} {fix : Fix s.Payload}
  {done rest fixes : List (Fix s.Payload)} {range : Span}

theorem spliceAll_cons (hlocate : shift.locate fix.span = .ok range)
    (hsplice : s.splice cur range.start range.stop fix.payload = .ok next) :
    spliceAll s shift cur (fix :: rest) =
      let more := spliceAll s (shift.record fix.span.length (s.payloadSize fix.payload)) next rest
      ⟨more.content, more.result, .applying fix.origin fix.span range :: more.log⟩ := by
  simp only [spliceAll, hlocate, hsplice]

theorem exists_of_spliceAll_cons
    (h : (spliceAll s shift cur (fix :: rest)).result = .ok shift') :
    ∃ range next, shift.locate fix.span = .ok range ∧
      s.splice cur range.start range.stop fix.payload = .ok next := by
  rw [spliceAll] at h
  cases hlocate : shift.locate fix.span with
  | error e => simp [hlocate] at h
  | ok range =>
    cases hsplice : s.splice cur range.start range.stop fix.payload with
    | error e => simp [hlocate, hsplice] at h
    | ok next => exact ⟨range, next, rfl, hsplice⟩

/-- After a run that succeeds the splicing goes on where the run has left off. -/
theorem spliceAll_append (h : (spliceAll s shift cur done).result = .ok shift') :
    spliceAll s shift cur (done ++ rest) =
      let first := spliceAll s shift cur done
      let more := spliceAll s shift' first.content rest
      ⟨more.content, more.result, first.log ++ more.log⟩ := by
  induction done generalizing shift cur with
  | nil =>
    rw [spliceAll, Except.ok.injEq] at h
    rw [← h]
    rfl
  | cons fix done ih =>
    obtain ⟨range, next, hlocate, hsplice⟩ := exists_of_spliceAll_cons h
    rw [spliceAll_cons hlocate hsplice] at h ⊢
    rw [List.cons_append, spliceAll_cons hlocate hsplice, ih h]
    rfl

end

/-! ## Runs over sequences of units -/

variable [s.Sequential]

/-- The document `cur` that a run has made of `doc` up to the offset `start`, with `rest` still to
be spliced in: `out` has taken the place of the units ahead of `start`. -/
structure Midway (doc : s.Doc) (start : Nat) (out : List (Shape.Sequential.Unit s)) (shift : Shift)
    (cur : s.Doc) (rest : List (Fix s.Payload)) : Prop where
  start_le : start ≤ s.size doc
  units_eq : units cur = out ++ (units doc).drop start
  length_out : (out.length : Int) = start + shift.delta
  isBoundary_eq : ∀ offset,
    s.isBoundary cur (out.length + offset) = s.isBoundary doc (start + offset)
  fits : ∀ fix ∈ rest, start ≤ fix.span.start ∧ fits s doc fix
  ordered : rest.Pairwise fun f g => f.span.stop ≤ g.span.start
  size_lt : s.size doc < Word.half
  small : s.size cur + payloadTotal s rest < Word.half

/-- What stands ahead of the end of the span of `fix` once `fix` is spliced in too. -/
def extend (doc : s.Doc) (start : Nat) (out : List (Shape.Sequential.Unit s))
    (fix : Fix s.Payload) : List (Shape.Sequential.Unit s) :=
  out ++ (units doc).extract start fix.span.start ++ payloadUnits fix.payload

/-- The fix can be spliced in at `range`. -/
structure Spliceable (s : Shape) (shift : Shift) (cur : s.Doc) (fix : Fix s.Payload)
    (range : Span) : Prop where
  locate_eq : shift.locate fix.span = .ok range
  start_le_stop : range.start ≤ range.stop
  stop_le_size : range.stop ≤ s.size cur
  start_isBoundary : s.isBoundary cur range.start
  stop_isBoundary : s.isBoundary cur range.stop

namespace Midway

variable {doc cur : s.Doc} {start : Nat} {out : List (Shape.Sequential.Unit s)} {shift : Shift}
  {fix : Fix s.Payload} {done rest : List (Fix s.Payload)}

theorem size_add (h : Midway doc start out shift cur rest) :
    s.size cur + start = out.length + s.size doc := by
  have hlen := congrArg List.length h.units_eq
  have hstart := h.start_le
  rw [Shape.Sequential.length_units, List.length_append, List.length_drop,
    Shape.Sequential.length_units] at hlen
  omega

/-- The shift is the growth of the document. -/
theorem delta_eq (h : Midway doc start out shift cur rest) :
    shift.delta = (s.size cur : Int) - s.size doc := by
  have hsize := h.size_add
  have hout := h.length_out
  omega

/-- Where `span` lies in the document midway. -/
theorem locate_eq (h : Midway doc start out shift cur rest) {span : Span}
    (hstart : start ≤ span.start) (hle : span.start ≤ span.stop)
    (hstop : span.stop ≤ s.size doc) :
    shift.locate span =
      .ok ⟨out.length + (span.start - start), out.length + (span.stop - start)⟩ := by
  have hsize := h.size_add
  have hout := h.length_out
  have hsmall := h.small
  unfold Word.half at hsmall
  have h1 : Word.moved? span.start shift.delta = some (out.length + (span.start - start)) := by
    rw [Word.moved?_eq_some_iff, Word.bound]
    omega
  have h2 : Word.moved? span.stop shift.delta = some (out.length + (span.stop - start)) := by
    rw [Word.moved?_eq_some_iff, Word.bound]
    omega
  rw [Shift.locate, h1, h2]

theorem spliceable (h : Midway doc start out shift cur (fix :: rest)) :
    Spliceable s shift cur fix
      ⟨out.length + (fix.span.start - start), out.length + (fix.span.stop - start)⟩ := by
  obtain ⟨hstart, hfits⟩ := h.fits fix List.mem_cons_self
  obtain ⟨hle, hstop, hbstart, hbstop⟩ := fits_iff.1 hfits
  have hsize := h.size_add
  refine ⟨h.locate_eq hstart hle hstop, ?_, ?_, ?_, ?_⟩
  · show out.length + _ ≤ out.length + _
    omega
  · show out.length + _ ≤ s.size cur
    omega
  · rw [h.isBoundary_eq, Nat.add_sub_cancel' hstart]
    exact hbstart
  · rw [h.isBoundary_eq, Nat.add_sub_cancel' (Nat.le_trans hstart hle)]
    exact hbstop

theorem length_extend (h : Midway doc start out shift cur (fix :: rest)) :
    (extend doc start out fix).length =
      out.length + (fix.span.start - start) + s.payloadSize fix.payload := by
  obtain ⟨-, hfits⟩ := h.fits fix List.mem_cons_self
  obtain ⟨hle, hstop, -, -⟩ := fits_iff.1 hfits
  have hextract : ((units doc).extract start fix.span.start).length = fix.span.start - start := by
    rw [List.length_take, List.length_drop, Shape.Sequential.length_units]
    omega
  rw [extend, List.length_append, List.length_append, hextract,
    Shape.Sequential.length_payloadUnits]

/-- Splicing the fix in where its span lies makes the document midway from behind the span on. -/
theorem units_extend (h : Midway doc start out shift cur (fix :: rest)) :
    (units cur).take (out.length + (fix.span.start - start)) ++ payloadUnits fix.payload ++
        (units cur).drop (out.length + (fix.span.stop - start)) =
      extend doc start out fix ++ (units doc).drop fix.span.stop := by
  obtain ⟨hstart, hfits⟩ := h.fits fix List.mem_cons_self
  have hle := (fits_iff.1 hfits).1
  rw [h.units_eq, List.take_length_add_append, List.drop_length_add_append, List.drop_drop,
    Nat.add_sub_cancel' (Nat.le_trans hstart hle)]
  rfl

/-- The shift can record the growth in signed words. -/
theorem record?_eq (h : Midway doc start out shift cur (fix :: rest)) :
    shift.record? fix.span.length (s.payloadSize fix.payload) =
      some ⟨shift.delta + ((s.payloadSize fix.payload : Int) - fix.span.length)⟩ := by
  obtain ⟨hstart, hfits⟩ := h.fits fix List.mem_cons_self
  obtain ⟨hle, hstop, -, -⟩ := fits_iff.1 hfits
  have hsize := h.size_add
  have hdelta := h.delta_eq
  have hdoc := h.size_lt
  have hsmall := h.small
  rw [payloadTotal, List.map_cons, List.sum_cons] at hsmall
  have hspan : fix.span.length = fix.span.stop - fix.span.start := rfl
  have hremoved : fix.span.length < Word.half := by omega
  have hinserted : s.payloadSize fix.payload < Word.half := by omega
  have hgrowth := Word.isSigned_signed_sub hinserted hremoved
  rw [Shift.record?_eq_some_iff, and_iff_right hgrowth, Word.signed_of_lt hinserted,
    Word.signed_of_lt hremoved]
  refine ⟨?_, rfl⟩
  unfold Word.IsSigned
  omega

/-- The shift records by how much the fix moves what is behind its span. -/
theorem length_extend_eq_record (h : Midway doc start out shift cur (fix :: rest)) :
    ((extend doc start out fix).length : Int) =
      fix.span.stop + (shift.record fix.span.length (s.payloadSize fix.payload)).delta := by
  obtain ⟨hstart, hfits⟩ := h.fits fix List.mem_cons_self
  obtain ⟨hle, hstop, -, -⟩ := fits_iff.1 hfits
  have hout := h.length_out
  rw [h.length_extend, Shift.record_eq_of_record? h.record?_eq, Span.length]
  show _ = (fix.span.stop : Int) + (shift.delta + _)
  omega

/-- The next fix can be spliced in, and then the document is midway again. -/
theorem step (h : Midway doc start out shift cur (fix :: rest)) :
    ∃ range next, Spliceable s shift cur fix range ∧
      s.splice cur range.start range.stop fix.payload = .ok next ∧
      Midway doc fix.span.stop (extend doc start out fix)
        (shift.record fix.span.length (s.payloadSize fix.payload)) next rest := by
  have hspl := h.spliceable
  obtain ⟨next, hnext, hunits, hbound⟩ := Shape.Sequential.splice_spec fix.payload
    hspl.start_le_stop hspl.start_isBoundary hspl.stop_isBoundary
  replace hunits := hunits.trans h.units_extend
  refine ⟨_, next, hspl, hnext, ?_⟩
  obtain ⟨hstart, hfits⟩ := h.fits fix List.mem_cons_self
  obtain ⟨hle, hstop, -, -⟩ := fits_iff.1 hfits
  obtain ⟨hbehind, hordered⟩ := List.pairwise_cons.1 h.ordered
  refine ⟨hstop, hunits, h.length_extend_eq_record, fun offset => ?_, fun g hg => ?_, hordered,
    h.size_lt, ?_⟩
  · rw [h.length_extend]
    refine (hbound offset).trans ?_
    show s.isBoundary cur (out.length + (fix.span.stop - start) + offset) = _
    rw [Nat.add_assoc, h.isBoundary_eq, ← Nat.add_assoc,
      Nat.add_sub_cancel' (Nat.le_trans hstart hle)]
  · exact ⟨hbehind g hg, (h.fits g (List.mem_cons_of_mem fix hg)).2⟩
  · have hlen := congrArg List.length hunits
    rw [Shape.Sequential.length_units, List.length_append, h.length_extend, List.length_drop,
      Shape.Sequential.length_units] at hlen
    have hsize := h.size_add
    have hsmall := h.small
    rw [payloadTotal, List.map_cons, List.sum_cons] at hsmall
    rw [payloadTotal]
    omega

/-- Some of the fixes that are left can be spliced in, without a sum that overflows, and the shift
is then further on by their growth. The others give the same as before. -/
theorem run (h : Midway doc start out shift cur (done ++ rest)) :
    ∃ start' out' shift', (spliceAll s shift cur done).result = .ok shift' ∧
      shift.run? (records s done) = some shift' ∧
      shift'.delta = shift.delta + Shift.growth (records s done) ∧
      Midway doc start' out' shift' (spliceAll s shift cur done).content rest ∧
      out' ++ substitute (units doc) start' (edits rest) =
        out ++ substitute (units doc) start (edits (done ++ rest)) := by
  induction done generalizing start out shift cur with
  | nil => exact ⟨start, out, shift, rfl, rfl, (Int.add_zero _).symm, h, rfl⟩
  | cons fix done ih =>
    obtain ⟨range, next, hspl, hnext, hmid⟩ := h.step
    rw [Shift.record_eq_of_record? h.record?_eq] at hmid
    obtain ⟨start', out', shift', hresult, hrecords, hdelta, hmid', hsub⟩ := ih hmid
    rw [spliceAll_cons hspl.locate_eq hnext, Shift.record_eq_of_record? h.record?_eq]
    refine ⟨start', out', shift', hresult, ?_, ?_, hmid', hsub.trans ?_⟩
    · exact Shift.run?_cons_eq_some_iff.2 ⟨_, h.record?_eq, hrecords⟩
    · rw [hdelta, Int.add_assoc]
      rfl
    · simp [substitute, edits, extend]

end Midway

end Batch

end Emend
