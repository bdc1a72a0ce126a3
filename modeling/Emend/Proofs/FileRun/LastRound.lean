import Emend.Proofs.Batch.Selection
import Emend.Proofs.FileRun.Passes

/-!
# The last round of a pass

But for the log and the number of fixes applied so far, a round depends on nothing but the
representation that it is shown (`round_of_ok`). What a pass has fixed and what it has left are
therefore what one round by itself (`soleRound`) makes of the representation that the last round was
shown (`Pass.EndsWith`). A loop has converged if that round has changed nothing, and a loop over the
same representation then ends at once (`loop_of_unchanged`).

What a round leaves are some of the diagnostics that the rules report on what it is shown.
-/

namespace Emend

/-- If no fix was applied, the representation is what it was. -/
theorem Fixer.applyWith_of_unmodified {s : Shape} {fixer : Fixer s} {r : Representation s.Doc}
    {fixes : List (Fix s.Payload)} {policy : SamePointPolicy} {report : FixReport s.Payload}
    (h : (fixer.applyWith r fixes policy).result = .ok report) (hsame : report.modified = false) :
    (fixer.applyWith r fixes policy).content = r := by
  obtain ⟨shift, rfl⟩ := exists_report_eq h
  have haccepted : (Batch.verdict s r.content fixes policy).accepted = [] := by
    simpa [FixReport.modified, Batch.report] using hsame
  have hcontent : (fixer.applyWith r fixes policy).content.content = r.content := by
    rw [content_applyWith (tag_eq_of_ok h), haccepted]
    rfl
  obtain ⟨content, heq⟩ := fixer.exists_withContent r fixes policy
  rw [heq] at hcontent ⊢
  rw [show content = r.content from hcontent]
  rfl

namespace FileRun

variable {s : Shape} {config : Config} {rules : List (Rule s)} {fixer : Fixer s}
  {progress : Progress s.Payload} {r : Representation s.Doc}

/-! ## Rounds by themselves -/

/-- A round before which nothing was done. -/
def soleRound (config : Config) (rules : List (Rule s)) (fixer : Fixer s)
    (r : Representation s.Doc) : Stepped (Progress s.Payload) EngineError (Representation s.Doc) :=
  round config rules fixer ⟨0, ⟨[], []⟩, []⟩ r

/-- A round that does not fail does what it does by itself. -/
theorem round_of_ok {changed : Bool}
    (h : (round config rules fixer progress r).result = .ok changed) :
    let sole := soleRound config rules fixer r
    sole.result = .ok changed ∧ (round config rules fixer progress r).content = sole.content ∧
      (round config rules fixer progress r).state.last = sole.state.last := by
  unfold soleRound
  unfold round at h ⊢
  dsimp only at h ⊢
  split at h
  · cases h
  · exact ⟨h, rfl, rfl⟩

/-- A round that reports no change has applied no fix. -/
theorem soleRound_of_unchanged (h : (soleRound config rules fixer r).result = .ok false) :
    (soleRound config rules fixer r).content = r ∧
      (soleRound config rules fixer r).state.applied = 0 := by
  unfold soleRound round at h ⊢
  dsimp only at h ⊢
  split at h
  · cases h
  · next report hreport =>
    have hsame : report.modified = false := Except.ok.inj h
    refine ⟨Fixer.applyWith_of_unmodified hreport hsame, ?_⟩
    simpa [FixReport.modified, FixReport.appliedCount] using hsame

/-- A loop over what a round does not change ends with this round. -/
theorem loop_of_unchanged (h : (soleRound config rules fixer r).result = .ok false) :
    loop config rules fixer r =
      ⟨.ok (.converged 1), r, (soleRound config rules fixer r).state⟩ := by
  have hlimit : FixLoop.atLeastOne config.maxIterations =
      FixLoop.atLeastOne config.maxIterations - 1 + 1 := by
    unfold FixLoop.atLeastOne
    omega
  calc loop config rules fixer r
      = ⟨.ok (.converged 1), (soleRound config rules fixer r).content,
          (soleRound config rules fixer r).state⟩ := by
        unfold loop FixLoop.run
        rw [hlimit]
        exact FixLoop.rounds_of_unchanged h
    _ = _ := by rw [(soleRound_of_unchanged h).1]

/-! ## What a round leaves -/

namespace Round

variable {P : Type} {diagnostics : List (Diagnostic P)} {left : List (Nat × Option Rejection)}

theorem mem_of_mem_ofUnresolved {d : Diagnostic P}
    (h : d ∈ (ofUnresolved diagnostics left).diagnostics) : d ∈ diagnostics := by
  obtain ⟨⟨d', rejection⟩, hkept, rfl⟩ := List.mem_map.1 h
  obtain ⟨⟨index, rejection'⟩, -, hindex⟩ := List.mem_filterMap.1 hkept
  obtain ⟨found, hfound, heq⟩ := Option.map_eq_some_iff.1 hindex
  cases heq
  exact List.mem_of_getElem? hfound

theorem exists_of_mem_findings {finding : Finding}
    (h : finding ∈ (ofUnresolved diagnostics left).findings) :
    ∃ d ∈ (ofUnresolved diagnostics left).diagnostics, finding.span = d.span := by
  obtain ⟨kept, hkept, rfl⟩ := List.mem_map.1 h
  exact ⟨kept.1, List.mem_map_of_mem hkept, rfl⟩

end Round

/-- The diagnostics that a round leaves were reported by the rules. -/
theorem mem_evaluate_of_mem_left {d : Diagnostic s.Payload}
    (h : d ∈ (soleRound config rules fixer r).state.last.diagnostics) :
    d ∈ evaluate config rules r := by
  unfold soleRound round at h
  dsimp only at h
  split at h
  · cases h
  · exact Round.mem_of_mem_ofUnresolved h

/-- The findings of a round are about the spans of the diagnostics that it leaves. -/
theorem exists_of_mem_findings {finding : Finding}
    (h : finding ∈ (soleRound config rules fixer r).state.last.findings) :
    ∃ d ∈ (soleRound config rules fixer r).state.last.diagnostics, finding.span = d.span := by
  unfold soleRound round at h ⊢
  dsimp only at h ⊢
  split at h
  · cases h
  · exact Round.exists_of_mem_findings h

/-! ## The last round -/

/-- The pass ends with a round over the representation `shown`. -/
structure Pass.EndsWith (pass : Pass s) (config : Config) (rules : List (Rule s))
    (fixer : Fixer s) (shown : Representation s.Doc) : Prop where
  exists_withContent : ∃ content, shown = pass.first.withContent content
  fixed_eq : pass.fixed = (soleRound config rules fixer shown).content
  left_eq : pass.left = (soleRound config rules fixer shown).state.last
  unchanged : pass.ending.isConverged → (soleRound config rules fixer shown).result = .ok false

theorem exists_endsWith {pass : Pass s} {first : Representation s.Doc}
    (h : pass.OfLoop config rules fixer first) :
    ∃ shown, pass.EndsWith config rules fixer shown := by
  let trace := FixLoop.trace (round config rules fixer) ⟨0, ⟨[], []⟩, []⟩ first
  obtain ⟨k, hk⟩ : ∃ k, FixLoop.Finished (fun r => s.fingerprint r.content) config.maxIterations
      trace k (loop config rules fixer first) := FixLoop.exists_finished _ _ _ _ _
  obtain ⟨hpos, -⟩ := hk.isLeast.1
  obtain ⟨j, rfl⟩ := Nat.exists_eq_add_of_le' hpos
  obtain ⟨content, hshown⟩ : ∃ content, (trace j).content = first.withContent content :=
    exists_withContent_trace _ first j
  -- A loop that does not fail has an answer from its last round, whichever way it ends.
  have hround : ∃ changed, (trace (j + 1)).result = .ok changed ∧
      (pass.ending.isConverged → changed = false) := by
    have hanswers := hk.answers
    rw [h.ending_eq] at hanswers
    generalize pass.ending = ending at hanswers
    cases hanswers with
    | unchanged hsame => exact ⟨false, hsame, fun _ => rfl⟩
    | repeated hchanged => exact ⟨true, hchanged, fun hconverged => nomatch hconverged⟩
    | exhausted hchanged => exact ⟨true, hchanged, fun hconverged => nomatch hconverged⟩
  obtain ⟨changed, hresult, hconverged⟩ := hround
  obtain ⟨hsole, hcontent, hlast⟩ := round_of_ok hresult
  refine ⟨(trace j).content, ⟨content, ?_⟩, ?_, ?_, fun hends => ?_⟩
  · rw [h.first_eq, hshown]
  · rw [h.fixed_eq, hk.content_eq]
    exact hcontent
  · rw [h.left_eq, hk.state_eq]
    exact hlast
  · rw [hsole, hconverged hends]

end FileRun

end Emend
