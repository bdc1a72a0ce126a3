import Emend.Proofs.Batch.Point
import Emend.Proofs.FileRun.Accounting

/-!
# Rules that insert at one point

No rule has a rank. But the rules are evaluated in the order of their registration, and their fixes
come to the batch in this order, so that the insertions at one offset begin with those of the first
rule that proposes any (`FirstAt.filter_batch`). If the fixes of each rule come under its name,
which no other rule has (`nodup_enabledRules`), that rule is the one whose insertions are applied
and for which those of the others are rejected (`FirstAt.wonBy`).
-/

namespace Emend

namespace FileRun

section
variable {s : Shape}

/-- The insertions that a rule proposes at an offset, in the order in which it reports them. -/
def insertions (config : Config) (r : Representation s.Doc) (offset : Nat) (rule : Rule s) :
    List (Fix s.Payload) :=
  ((evaluateRule config r rule).filterMap Diagnostic.fix).filter (·.isInsertedAt offset)

/-- The fixes of each rule come under its name. -/
def UnderOwnNames (config : Config) (rules : List (Rule s)) (r : Representation s.Doc) : Prop :=
  ∀ rule ∈ rules, ∀ d ∈ evaluateRule config r rule, ∀ fix ∈ d.fix, fix.origin = rule.name

/-- The first of the rules that proposes insertions at the offset. -/
structure FirstAt (config : Config) (r : Representation s.Doc) (offset : Nat)
    (rules before : List (Rule s)) (winner : Rule s) (others : List (Rule s)) : Prop where
  rules_eq : rules = before ++ winner :: others
  none_before : ∀ rule ∈ before, insertions config r offset rule = []
  proposes : insertions config r offset winner ≠ []

/-- Of the insertions at an offset those of one rule are applied, in the order in which it reports
them. Those of the other rules are rejected for it, and are found as such. -/
structure WonBy (config : Config) (offset : Nat) (winner : Rule s) (others : List (Rule s))
    (account : Account s) : Prop where
  applied_eq : account.report.applied.filter (·.isInsertedAt offset) =
    insertions config account.shown offset winner
  rejected_eq : (account.report.rejected.filter (·.fix.isInsertedAt offset)).map
      (fun x => (x.fix, x.reason)) =
    (others.flatMap (insertions config account.shown offset)).map fun fix =>
      (fix, .conflict (.empty offset) winner.name (.empty offset))
  found : ∀ rule ∈ others, ∀ d ∈ evaluateRule config account.shown rule, ∀ fix ∈ d.fix,
    fix.isInsertedAt offset →
      Finding.ofDiagnostic d (some (.conflict (.empty offset) winner.name (.empty offset))) ∈
        account.left.findings

variable {config : Config} {rules before others : List (Rule s)} {winner rule : Rule s}
  {fixer : Fixer s} {r : Representation s.Doc} {offset : Nat} {account : Account s}
  {d : Diagnostic s.Payload} {fix : Fix s.Payload}

/-! ## The first rule -/

theorem exists_firstAt (h : ∃ rule ∈ rules, insertions config r offset rule ≠ []) :
    ∃ before winner others, FirstAt config r offset rules before winner others := by
  have hsome : (rules.find? fun rule => !(insertions config r offset rule).isEmpty).isSome := by
    simpa [List.find?_isSome] using h
  obtain ⟨winner, hfirst⟩ := Option.isSome_iff_exists.1 hsome
  obtain ⟨hwinner, before, others, hrules, hbefore⟩ := List.find?_eq_some_iff_append.1 hfirst
  exact ⟨before, winner, others, hrules, by simpa using hbefore, by simpa using hwinner⟩

theorem origin_eq_of_mem_insertions (hnames : UnderOwnNames config rules r) (hrule : rule ∈ rules)
    (h : fix ∈ insertions config r offset rule) : fix.origin = rule.name := by
  obtain ⟨d, hd, hfix⟩ := List.mem_filterMap.1 (List.mem_filter.1 h).1
  exact hnames rule hrule d hd fix hfix

namespace FirstAt

variable (h : FirstAt config r offset rules before winner others)
include h

/-- Those of the first rule come first among the insertions at the offset. -/
theorem filter_batch : ((evaluate config rules r).filterMap Diagnostic.fix).filter
    (·.isInsertedAt offset) =
      insertions config r offset winner ++ others.flatMap (insertions config r offset) := by
  calc ((evaluate config rules r).filterMap Diagnostic.fix).filter (·.isInsertedAt offset)
    _ = rules.flatMap (insertions config r offset) := by
      rw [evaluate, List.filterMap_flatMap, List.filter_flatMap]
      rfl
    _ = _ := by
      rw [h.rules_eq, List.flatMap_append, List.flatMap_eq_nil_iff.2 h.none_before,
        List.nil_append, List.flatMap_cons]

theorem mem_rules_of_mem_others (hrule : rule ∈ others) : rule ∈ rules := by
  rw [h.rules_eq]
  exact List.mem_append_right _ (List.mem_cons_of_mem winner hrule)

theorem origin_eq (hnames : UnderOwnNames config rules r) :
    ∀ fix ∈ insertions config r offset winner, fix.origin = winner.name := by
  have hwinner : winner ∈ rules := by
    rw [h.rules_eq]
    exact List.mem_append_right _ List.mem_cons_self
  exact fun fix hfix => origin_eq_of_mem_insertions hnames hwinner hfix

/-- Those of the other rules come under other names. -/
theorem origin_ne (hnodup : (rules.map Rule.name).Nodup) (hnames : UnderOwnNames config rules r) :
    ∀ fix ∈ others.flatMap (insertions config r offset), fix.origin ≠ winner.name := by
  intro fix hfix heq
  obtain ⟨rule, hrule, hfix⟩ := List.mem_flatMap.1 hfix
  rw [origin_eq_of_mem_insertions hnames (h.mem_rules_of_mem_others hrule) hfix] at heq
  rw [h.rules_eq, List.map_append, List.map_cons] at hnodup
  exact (List.nodup_cons.1 hnodup.of_append_right).1 (heq ▸ List.mem_map_of_mem hrule)

end FirstAt

/-! ## What it wins -/

/-- A diagnostic whose fix is not applied is found with the rejection of its fix. -/
theorem exists_found (h : account.Holds config rules fixer)
    (hd : d ∈ evaluate config rules account.shown) (hfix : d.fix = some fix)
    (hnot : fix ∉ account.report.applied) :
    ∃ x ∈ account.report.rejected, x.fix = fix ∧
      Finding.ofDiagnostic d (some x.reason) ∈ account.left.findings := by
  obtain ⟨-, hdiagnostics, hsound, happlied, hrejected, hleft⟩ := h
  rw [← hdiagnostics] at hd
  obtain ⟨⟨d, fate⟩, hrow, rfl⟩ := List.mem_map.1 hd
  have hbatch : (fix, fate) ∈ account.record.batch :=
    List.mem_filterMap.2 ⟨(d, fate), hrow, Option.map_eq_some_iff.2 ⟨fix, hfix, rfl⟩⟩
  cases fate with
  | plain =>
    rw [(hsound _ hrow).1 rfl] at hfix
    cases hfix
  | applied =>
    refine absurd (happlied.mem_iff.2 ?_) hnot
    exact List.mem_map_of_mem (List.mem_filter.2 ⟨hbatch, decide_eq_true rfl⟩)
  | rejected reason =>
    obtain ⟨place, hplace⟩ := List.getElem?_of_mem hbatch
    refine ⟨⟨place, fix, reason⟩, ?_, rfl, ?_⟩
    · rw [hrejected]
      exact List.mem_filterMap.2 ⟨_, List.mk_mem_zipIdx_iff_getElem?.2 hplace, rfl⟩
    · have hrowLeft : (d, some reason) ∈ account.record.left :=
        List.mem_filterMap.2 ⟨(d, .rejected reason), hrow, rfl⟩
      rw [hleft]
      exact List.mem_map_of_mem hrowLeft

/-- The first rule that inserts at an offset prevails there, unless a fix is applied that encloses
the offset. -/
theorem FirstAt.wonBy (h : FirstAt config account.shown offset rules before winner others)
    (hpolicy : config.policy = .firstSubmitted) (hnodup : (rules.map Rule.name).Nodup)
    (hnames : UnderOwnNames config rules account.shown)
    (haccount : account.Holds config rules fixer)
    (hvalid : ¬ Batch.Unfit s account.shown.content (.empty offset))
    (hfree : ¬ ∃ fix ∈ account.report.applied, fix.span.Encloses offset) :
    WonBy config offset winner others account := by
  have hown := h.origin_eq hnames
  have hforeign := h.origin_ne hnodup hnames
  obtain ⟨happlied, hrejected⟩ := Fixer.insertionsAt_of_first haccount.report_eq hpolicy hvalid
    h.filter_batch h.proposes hown hforeign hfree
  refine ⟨happlied, hrejected, fun rule hrule d hd fix hfix hat => ?_⟩
  have hmem : fix ∈ others.flatMap (insertions config account.shown offset) :=
    List.mem_flatMap.2 ⟨rule, hrule, List.mem_filter.2 ⟨List.mem_filterMap.2 ⟨d, hd, hfix⟩, hat⟩⟩
  have hnot : fix ∉ account.report.applied := by
    intro hmem'
    have hwon := List.mem_filter.2 ⟨hmem', hat⟩
    rw [happlied] at hwon
    exact hforeign fix hmem (hown fix hwon)
  have hd : d ∈ evaluate config rules account.shown :=
    List.mem_flatMap.2 ⟨rule, h.mem_rules_of_mem_others hrule, hd⟩
  obtain ⟨x, hx, rfl, hfound⟩ := exists_found haccount hd hfix hnot
  have hpair : (x.fix, x.reason) ∈ (account.report.rejected.filter
      (·.fix.isInsertedAt offset)).map fun x => (x.fix, x.reason) :=
    List.mem_map.2 ⟨x, List.mem_filter.2 ⟨hx, hat⟩, rfl⟩
  rw [hrejected] at hpair
  obtain ⟨other, -, hother⟩ := List.mem_map.1 hpair
  rwa [← (Prod.mk.inj hother).2] at hfound

end

/-! ## Registered rules -/

section
variable {c : Catalogue} {registry : Registry c} {config : Config} {kind : Kind c.Custom}
  {tag : Tag} {rules : List (Rule (c.shape kind))}

/-- No two enabled rules have one name. -/
theorem nodup_enabledRules (hreachable : registry.Reachable)
    (h : enabledRules registry config kind tag = .ok rules) : (rules.map Rule.name).Nodup := by
  have hnames : rules.map Rule.name =
      (rules.map (Entry.mk tag kind)).map fun entry => entry.plugin.name := by
    rw [List.map_map]
    rfl
  rw [hnames, entries_enabledRules h]
  exact hreachable.coherent.rules.keys_nodup.sublist (List.filter_sublist.map _)

/-- In a round under the policy that prefers the first origin, in which the fixes of each rule come
under its name, let some enabled rule propose an insertion that fits. If a fix is applied that
encloses its offset, nothing is inserted there. Else the first rule, in the order of registration,
that proposes insertions there prevails. -/
theorem insertions_won_by_first (hreachable : registry.Reachable)
    (hrules : enabledRules registry config kind tag = .ok rules)
    (hpolicy : config.policy = .firstSubmitted) {fixer : Fixer (c.shape kind)}
    {progress : Progress (c.shape kind).Payload} {r : Representation (c.shape kind).Doc}
    (hnames : UnderOwnNames config rules r) {changed : Bool}
    (hround : (round config rules fixer progress r).result = .ok changed) :
    rules.map (Entry.mk tag kind) = (registry.rules.filter fun entry =>
      entry.tag == tag && config.isRuleEnabled entry.plugin.name) ∧
    ∃ account : Account (c.shape kind), account.shown = r ∧ account.Holds config rules fixer ∧
      (round config rules fixer progress r).state.last = account.left ∧
      ∀ offset, (∃ rule ∈ rules, insertions config r offset rule ≠ []) →
        ¬ Batch.Unfit (c.shape kind) r.content (.empty offset) →
        ((∃ fix ∈ account.report.applied, fix.span.Encloses offset) →
          ∀ fix ∈ account.report.applied, ¬ fix.isInsertedAt offset) ∧
        ((¬ ∃ fix ∈ account.report.applied, fix.span.Encloses offset) →
          ∃ before winner others, FirstAt config r offset rules before winner others ∧
            WonBy config offset winner others account) := by
  obtain ⟨account, rfl, haccount, hleft, -⟩ := exists_account hround
  refine ⟨entries_enabledRules hrules, account, rfl, haccount, hleft,
    fun offset hsome hvalid => ⟨?_, fun hfree => ?_⟩⟩
  · rintro ⟨fix, hfix, hencloses⟩
    exact Fixer.not_isInsertedAt_of_encloses haccount.report_eq hfix hencloses
  · obtain ⟨before, winner, others, hfirst⟩ := exists_firstAt hsome
    exact ⟨before, winner, others, hfirst, hfirst.wonBy hpolicy
      (nodup_enabledRules hreachable hrules) hnames haccount hvalid hfree⟩

/-- Inserts a letter behind the first byte. -/
def second : Rule .text :=
  reporting "second" fun _ =>
    { ruleId := "second", message := "no letter here", span := .empty 1,
      fix := some (.insert 1 "b" "second") }

/-- The rule that was registered first is disabled. The next one inserts where the third one removes
the text, and of the two that insert in front of the text the fourth one prevails. -/
theorem insertions_won_by_first_disabled :
    let registry : Registry .plain := Registry.builtins.registry.registerAll
      [.rule .text (claimFront "w"), .rule .text second, .rule .text removal,
        .rule .text (claimFront "x"), .rule .text (claimFront "y")]
    let config : Config := { rules := ⟨[("w", .enabled false)]⟩ }
    let rules := [second, removal, claimFront "x", claimFront "y"]
    let r : Representation (Catalogue.plain.shape .text).Doc := ⟨.text, "ac", ⟨"a.txt"⟩⟩
    let done := round config rules Fixer.text ⟨0, ⟨[], []⟩, []⟩ r
    registry.Reachable ∧ enabledRules registry config .text .text = .ok rules ∧
    config.policy = .firstSubmitted ∧ UnderOwnNames config rules r ∧
    done.result = .ok true ∧
    done.state.last.findings =
      [⟨"second", "no letter here", ⟨1, 1⟩, .error, some (.conflict ⟨1, 1⟩ "removal" ⟨0, 2⟩)⟩,
        ⟨"y", "not in front", ⟨0, 0⟩, .error, some (.conflict ⟨0, 0⟩ "x" ⟨0, 0⟩)⟩] ∧
    ∃ account : Account (Catalogue.plain.shape .text), account.Holds config rules Fixer.text ∧
      (∀ fix ∈ account.report.applied, ¬ fix.isInsertedAt 1) ∧
      ∃ before winner others, FirstAt config r 0 rules before winner others ∧
        winner.name = "x" ∧ WonBy config 0 winner others account := by
  intro registry config rules r done
  have hreachable : registry.Reachable := Registry.Reachable.builtins.registerAll _
  have hrules : enabledRules registry config .text .text = .ok rules := rfl
  have hnames : UnderOwnNames config rules r := by
    unfold UnderOwnNames
    decide +kernel
  have hround : done.result = .ok true := by decide +kernel
  refine ⟨hreachable, hrules, rfl, hnames, hround, by decide +kernel, ?_⟩
  obtain ⟨-, account, hshown, haccount, -, hsettled⟩ :=
    insertions_won_by_first hreachable hrules rfl hnames hround
  let report : FixReport String :=
    ⟨[.insert 0 "x" "x", ⟨⟨0, 2⟩, "", "removal"⟩],
      [⟨0, .insert 1 "b" "second", .conflict ⟨1, 1⟩ "removal" ⟨0, 2⟩⟩,
        ⟨3, .insert 0 "y" "y", .conflict ⟨0, 0⟩ "x" ⟨0, 0⟩⟩], -1⟩
  have happly : (Fixer.text.applyWith r ((evaluate config rules r).filterMap Diagnostic.fix)
      .firstSubmitted).result = .ok report := by cbv
  have hreport : account.report = report := by
    have hresult := haccount.report_eq
    rw [hshown] at hresult
    exact Except.ok.inj (hresult.symm.trans happly)
  have hsecond : insertions config r 1 second = [.insert 1 "b" "second"] := by cbv
  have hx : insertions config r 0 (claimFront "x") = [.insert 0 "x" "x"] := by cbv
  have hvalid : ∀ offset ∈ [0, 1], ¬ Batch.Unfit .text "ac" (.empty offset) := by
    intro offset hoffset hunfit
    have hfits : ∀ offset ∈ [0, 1], Batch.fits .text "ac" (.insert offset "" "") := by
      decide +kernel
    exact Batch.unfit_iff.1 hunfit (hfits offset hoffset)
  obtain ⟨hinside, -⟩ := hsettled 1 ⟨second, List.mem_cons_self, by simp [hsecond]⟩
    (hvalid 1 (by decide))
  obtain ⟨-, hwins⟩ := hsettled 0
    ⟨claimFront "x", List.mem_of_getElem? (i := 2) rfl, by simp [hx]⟩ (hvalid 0 (by decide))
  have hfree : ¬ ∃ fix ∈ account.report.applied, fix.span.Encloses 0 := by
    rintro ⟨fix, -, hlt, -⟩
    exact Nat.not_lt_zero _ hlt
  obtain ⟨before, winner, others, hfirst, hwon⟩ := hwins hfree
  have hremoved : ⟨⟨0, 2⟩, "", "removal"⟩ ∈ account.report.applied := by
    rw [hreport]
    exact List.mem_of_getElem? (i := 1) rfl
  have hname : winner.name = "x" := by
    have hmem : Fix.insert 0 "x" "x" ∈ insertions config r 0 winner := by
      rw [← hshown, ← hwon.applied_eq, hreport]
      exact List.mem_cons_self
    exact (hfirst.origin_eq hnames _ hmem).symm
  exact ⟨account, haccount, hinside ⟨_, hremoved, by decide, by decide⟩, before, winner, others,
    hfirst, hname, hwon⟩

end

end FileRun

end Emend
