import Emend.Proofs.FileRun.LastRound
import Emend.Proofs.FileRun.Rewriting

/-!
# Where the findings of a run point

If the rules report only spans that lie in what they are shown (`Rule.ReportsWithin`), all that a
run leaves unresolved lies in what the last round was shown. This is what the loop leaves if it has
converged. If it was ended by a cycle or by the limit, the last round may have applied fixes after
its rules were run, and the spans may lie behind the end of what it leaves.
-/

namespace Emend

/-- The span is a range of a document of so many units. -/
def Span.Within (span : Span) (size : Nat) : Prop := span.start ≤ span.stop ∧ span.stop ≤ size

instance (span : Span) (size : Nat) : Decidable (span.Within size) :=
  inferInstanceAs (Decidable (_ ∧ _))

/-- Whatever the rule is shown, it reports ranges of it. -/
def Rule.ReportsWithin {s : Shape} (rule : Rule s) : Prop :=
  ∀ context, ∀ d ∈ rule.check context, d.span.Within (s.size context.content)

namespace FileRun

/-- The diagnostics and the findings are about ranges of a document of so many units. -/
def Round.Within {P : Type} (left : Round P) (size : Nat) : Prop :=
  (∀ d ∈ left.diagnostics, d.span.Within size) ∧ ∀ f ∈ left.findings, f.span.Within size

section
variable {s : Shape} {config : Config} {rules : List (Rule s)} {fixer : Fixer s}
  {r : Representation s.Doc}

/-- A configuration does not move what the rules report. -/
theorem within_of_mem_evaluate (hrules : ∀ rule ∈ rules, rule.ReportsWithin)
    {d : Diagnostic s.Payload} (hd : d ∈ evaluate config rules r) :
    d.span.Within (s.size r.content) := by
  obtain ⟨rule, hrule, hd⟩ := List.mem_flatMap.1 hd
  obtain ⟨reported, hreported, rfl⟩ := List.mem_map.1 hd
  exact hrules rule hrule _ reported hreported

/-- What a round leaves lies in what it was shown. -/
theorem within_soleRound (hrules : ∀ rule ∈ rules, rule.ReportsWithin) :
    (soleRound config rules fixer r).state.last.Within (s.size r.content) := by
  have hdiagnostics : ∀ d ∈ (soleRound config rules fixer r).state.last.diagnostics,
      d.span.Within (s.size r.content) :=
    fun d hd => within_of_mem_evaluate hrules (mem_evaluate_of_mem_left hd)
  refine ⟨hdiagnostics, fun f hf => ?_⟩
  obtain ⟨d, hd, hspan⟩ := exists_of_mem_findings hf
  rw [hspan]
  exact hdiagnostics d hd

end

variable {c : Catalogue} {registry : Registry c} {config : Config} {name : String} {path : Path}
  {entry : Entry c Parser} {session session' : Session} {outcome : FileOutcome}

theorem mem_of_enabledRules {kind : Kind c.Custom} {tag : Tag}
    {rules : List (Rule (c.shape kind))} (h : enabledRules registry config kind tag = .ok rules) :
    ∃ all, registry.rulesFor kind tag = .ok all ∧ ∀ rule ∈ rules, rule ∈ all := by
  unfold enabledRules at h
  cases hall : registry.rulesFor kind tag with
  | error e =>
    rw [hall] at h
    cases h
  | ok all =>
    rw [hall] at h
    cases h
    exact ⟨all, rfl, fun rule hrule => List.mem_of_mem_filter hrule⟩

/-- What a run with a built-in parser hands to the transformers, and what it finds in the end, lies
in what the last round was shown, and in what the loop leaves if the loop has converged. -/
theorem fixFileWith_findings_within {ofText : String → (c.shape entry.kind).Doc}
    {toText : (c.shape entry.kind).Doc → String} (hbuilt : entry.plugin.BuiltIn ofText toText)
    (hentry : registry.parserEntry? name = some entry)
    (hrules : ∀ rules, registry.rulesFor entry.kind entry.plugin.tag = .ok rules →
      ∀ rule ∈ rules, rule.ReportsWithin)
    (hdone : exec (fixFileWith registry config name path) session = (.ok outcome, session')) :
    ∃ source pass, session.files.readText path = .ok source ∧
      treat registry config entry.plugin ⟨entry.plugin.tag, ofText source, path⟩ = .ok pass ∧
      config.transformers.foldlM (transformBy registry entry.kind entry.plugin.tag
        pass.left.diagnostics) pass.fixed = .ok pass.final ∧
      outcome.results = [pass.ending] ∧ outcome.unresolved = pass.left.findings ∧
      (∃ rules fixer shown, enabledRules registry config entry.kind entry.plugin.tag = .ok rules ∧
        registry.fixerFor entry.kind entry.plugin.tag = .ok fixer ∧
        pass.EndsWith config rules fixer shown ∧
        pass.left.Within ((c.shape entry.kind).size shown.content)) ∧
      (pass.ending.isConverged →
        pass.left.Within ((c.shape entry.kind).size pass.fixed.content)) := by
  obtain ⟨source, place, pass, hfile, htreat, -, rfl⟩ := exists_pass_of_builtIn hbuilt hentry hdone
  obtain ⟨rules, fixer, henabled, hfixer, hloop, hfinal⟩ := exists_of_treat htreat
  obtain ⟨shown, hends⟩ := exists_endsWith hloop
  obtain ⟨all, hall, hmem⟩ := mem_of_enabledRules henabled
  have hwithin : pass.left.Within ((c.shape entry.kind).size shown.content) := by
    rw [hends.left_eq]
    exact within_soleRound fun rule hrule => hrules all hall rule (hmem rule hrule)
  refine ⟨source, pass, FileTree.readText_eq_ok_iff.2 hfile.readBytes_eq, htreat, hfinal, rfl, rfl,
    ⟨rules, fixer, shown, henabled, hfixer, hends, hwithin⟩, fun hconverged => ?_⟩
  rw [hends.fixed_eq, (soleRound_of_unchanged (hends.unchanged hconverged)).1]
  exact hwithin

/-- The rule that makes one report on each text that is not empty, from the number of its bytes. -/
def reporting (name : String) (report : Nat → Diagnostic String) : Rule .text where
  name := name
  description := "Texts are empty"
  tag := .text
  check context :=
    let size := String.utf8ByteSize context.content
    if size = 0 then [] else [report size]

theorem reporting_reportsWithin {report : Nat → Diagnostic String}
    (h : ∀ size, (report size).span.Within size) (name : String) :
    (reporting name report).ReportsWithin := by
  intro context d hd
  change d ∈ (if String.utf8ByteSize context.content = 0 then [] else _) at hd
  split at hd
  · cases hd
  · obtain rfl := List.mem_singleton.1 hd
    exact h _

/-- Reports the last byte. -/
def lastByte : Rule .text :=
  reporting "last byte" fun size =>
    { ruleId := "last byte", message := "a byte", span := ⟨size - 1, size⟩ }

/-- Removes all bytes. -/
def removal : Rule .text :=
  reporting "removal" fun size =>
    { ruleId := "removal", message := "a text", span := ⟨0, size⟩,
      fix := some (.delete ⟨0, size⟩ "removal") }

theorem lastByte_reportsWithin : lastByte.ReportsWithin :=
  reporting_reportsWithin (fun size => ⟨Nat.sub_le size 1, Nat.le_refl size⟩) _

theorem removal_reportsWithin : removal.ReportsWithin :=
  reporting_reportsWithin (fun size => ⟨Nat.zero_le size, Nat.le_refl size⟩) _

theorem capital_reportsWithin : capital.ReportsWithin := by
  intro context d hd
  dsimp only [capital] at hd
  split at hd
  · next hhead =>
    obtain rfl := List.mem_singleton.1 hd
    refine ⟨Nat.zero_le _, Nat.pos_of_ne_zero fun hzero => ?_⟩
    rw [String.utf8ByteSize_eq_zero_iff.1 hzero] at hhead
    cases hhead
  · cases hd

/-- With the rule for capital letters the loop converges on `Ab`, and the report is on a range of
that. -/
theorem fixFileWith_findings_within_capital :
    let writer : Entry .plain Parser := ⟨.text, .text, Parser.text⟩
    let registry : Registry .plain := { Registry.builtins.registry with
      rules := [⟨.text, .text, capital⟩, ⟨.text, .text, lastByte⟩] }
    let files := FileTree.empty.install ⟨"a.txt"⟩ (.file "ab".toUTF8)
    let done := exec (fixFileWith registry .default "string" ⟨"a.txt"⟩) ⟨files, []⟩
    done.1 = .ok ⟨⟨"a.txt"⟩, "string", .text, [.converged 2], 1, true,
      [⟨"last byte", "a byte", ⟨1, 2⟩, .error, none⟩]⟩ ∧
    ∃ pass, treat registry .default writer.plugin ⟨.text, "ab", ⟨"a.txt"⟩⟩ = .ok pass ∧
      pass.left.Within (String.utf8ByteSize pass.fixed.content) := by
  intro writer registry files done
  have hdone : done.1 = .ok ⟨⟨"a.txt"⟩, "string", .text, [.converged 2], 1, true,
      [⟨"last byte", "a byte", ⟨1, 2⟩, .error, none⟩]⟩ := by decide +kernel
  have hread : files.readText ⟨"a.txt"⟩ = .ok "ab" := by decide +kernel
  have hwriter : registry.parserEntry? "string" = some writer := rfl
  have hrules : ∀ rules, registry.rulesFor writer.kind writer.plugin.tag = .ok rules →
      ∀ rule ∈ rules, rule.ReportsWithin := by
    intro rules hfound
    obtain rfl : [capital, lastByte] = rules := Except.ok.inj hfound
    exact List.forall_mem_cons.2 ⟨capital_reportsWithin,
      List.forall_mem_singleton.2 lastByte_reportsWithin⟩
  obtain ⟨source, pass, hsource, htreat, -, hresults, -, -, hwithin⟩ :=
    fixFileWith_findings_within (.text _) hwriter hrules (Prod.ext hdone rfl)
  obtain rfl := Except.ok.inj (hread.symm.trans hsource)
  have hends : LoopEnd.converged 2 = pass.ending := List.singleton_inj.1 hresults
  exact ⟨hdone, pass, htreat, hwithin (by rw [← hends]; rfl)⟩

/-- If one round is allowed, it leaves nothing of the text, but the report is on its last byte. -/
theorem finding_behind_end :
    let registry : Registry .plain := { Registry.builtins.registry with
      rules := [⟨.text, .text, lastByte⟩, ⟨.text, .text, removal⟩] }
    let config : Config := { maxIterations := 1 }
    let files := FileTree.empty.install ⟨"a.txt"⟩ (.file "abc".toUTF8)
    let done := exec (fixFileWith registry config "string" ⟨"a.txt"⟩) ⟨files, []⟩
    lastByte.ReportsWithin ∧ removal.ReportsWithin ∧
    done.1 = .ok ⟨⟨"a.txt"⟩, "string", .text, [.exhausted 1], 1, true,
      [⟨"last byte", "a byte", ⟨2, 3⟩, .error, none⟩]⟩ ∧
    done.2.files.readText ⟨"a.txt"⟩ = .ok "" ∧ ¬ Span.Within ⟨2, 3⟩ (String.utf8ByteSize "") := by
  intro registry config files done
  exact ⟨lastByte_reportsWithin, removal_reportsWithin, by decide +kernel, by decide +kernel,
    by decide +kernel⟩

end FileRun

end Emend
