import Emend.Proofs.FileRun.Severities

/-!
# A level as a word and as a member

The level of a rule is given by a word alone, or by the member `severity` of an object of options.
The two are read by different readers, which know the same names of severities
(`RuleOption.ofWord?_eq`); a word that is no name sets nothing either way. An object of options
always leaves its rule switched on, so `off` is a switch only as a word alone. Where the rule runs
and its level has a name that both know, a round is the same with either form, as long as the rule
does not look at its parameters (`FileRun.evaluate_eq_of_levels`).
-/

namespace Emend

/-! ## What is said of a rule -/

/-- Both readers of a level know the same names, but for the short one of warnings. -/
theorem RuleOption.ofWord?_eq {word : String} (h : word ≠ "warn") :
    ofWord? word = (fromJson (.string word) : Except DecodeError Severity).toOption := by
  show _ = (decodeName Severity.named word).toOption
  by_cases herror : word = "error"
  · subst herror
    rfl
  by_cases hwarning : word = "warning"
  · subst hwarning
    rfl
  by_cases hinfo : word = "info"
  · subst hinfo
    rfl
  have hlookup : Severity.named.lookup word = none := by
    simp [Severity.named, List.lookup_cons, beq_false_of_ne, herror, hwarning, hinfo]
  rw [decodeName, hlookup]
  simp [ofWord?, herror, hwarning, hinfo, h, Except.toOption]

/-- A word alone that is no name of a severity sets none. -/
theorem RuleOption.ofWord?_eq_none {word : String}
    (h : word ∉ ["error", "warning", "warn", "info"]) : ofWord? word = none := by
  simp only [List.mem_cons, List.not_mem_nil, or_false, not_or] at h
  obtain ⟨herror, hwarning, hwarn, hinfo⟩ := h
  rw [ofWord?, if_neg herror, if_neg (not_or.2 ⟨hwarning, hwarn⟩), if_neg hinfo]

namespace Config

/-- The rule `name` has the level `word`, alone in `short` and among options in `long`. -/
structure Levels (short long : Config) (name word : String) : Prop where
  short_eq : short.rules.get? name = some (.severity word)
  long_eq : ∃ value, long.rules.get? name = some (.options value) ∧
    value.get? "severity" = some (.string word)

/-- A round can tell the configurations apart by the rule `name` only. -/
structure SameBesides (config config' : Config) (name : String) : Prop where
  policy_eq : config.policy = config'.policy
  locale_eq : config.locale = config'.locale
  rules_eq : ∀ other, other ≠ name → config.rules.get? other = config'.rules.get? other

namespace Levels

variable {short long : Config} {name word : String} (h : short.Levels long name word)
include h

theorem isRuleEnabled_short : short.isRuleEnabled name = (word != "off") := by
  rw [isRuleEnabled, h.short_eq]
  rfl

theorem isRuleEnabled_long : long.isRuleEnabled name = true := by
  obtain ⟨value, hvalue, -⟩ := h.long_eq
  rw [isRuleEnabled, hvalue]
  rfl

theorem isRuleEnabled_eq (hoff : word ≠ "off") :
    short.isRuleEnabled name = long.isRuleEnabled name := by
  rw [h.isRuleEnabled_short, h.isRuleEnabled_long, bne_iff_ne.2 hoff]

theorem ruleSeverity?_eq (hwarn : word ≠ "warn") :
    short.ruleSeverity? name = long.ruleSeverity? name := by
  obtain ⟨value, hvalue, hmember⟩ := h.long_eq
  rw [ruleSeverity?, ruleSeverity?, h.short_eq, hvalue]
  show RuleOption.ofWord? word = (value.get? "severity" >>= _)
  rw [hmember, RuleOption.ofWord?_eq hwarn]
  rfl

theorem ruleSeverity?_short_eq_none (hword : word ∉ ["error", "warning", "warn", "info"]) :
    short.ruleSeverity? name = none := by
  rw [ruleSeverity?, h.short_eq]
  exact RuleOption.ofWord?_eq_none hword

end Levels

end Config

/-! ## What the rules report -/

/-- The rule reports the same whatever its parameters. -/
def Rule.IgnoresParameters {s : Shape} (rule : Rule s) : Prop :=
  ∀ r locale parameters parameters',
    rule.check ⟨r, locale, parameters⟩ = rule.check ⟨r, locale, parameters'⟩

namespace FileRun

section
variable {s : Shape} {short long : Config} {name word : String} {rules : List (Rule s)}
  (h : short.Levels long name word) (hrest : short.SameBesides long name)
include h hrest

theorem enabled_eq_of_levels (hoff : word ≠ "off") : enabled short rules = enabled long rules := by
  refine enabled_congr fun rule _ => ?_
  by_cases hname : rule.name = name
  · rw [hname, h.isRuleEnabled_eq hoff]
  · rw [Config.isRuleEnabled, Config.isRuleEnabled, hrest.rules_eq _ hname]

theorem evaluateRule_eq_of_levels (hwarn : word ≠ "warn") {rule : Rule s}
    (hrule : rule.name = name → rule.IgnoresParameters) (r : Representation s.Doc) :
    evaluateRule short r rule = evaluateRule long r rule := by
  unfold evaluateRule
  rw [hrest.locale_eq]
  by_cases hname : rule.name = name
  · rw [hname, h.ruleSeverity?_eq hwarn, hrule hname r _ _ (long.ruleParameters name)]
  · simp only [Config.ruleSeverity?, Config.ruleParameters, hrest.rules_eq _ hname]

theorem evaluate_eq_of_levels (hoff : word ≠ "off") (hwarn : word ≠ "warn")
    (hrules : ∀ rule ∈ rules, rule.name = name → rule.IgnoresParameters) :
    evaluate short (enabled short rules) = evaluate long (enabled long rules) := by
  rw [enabled_eq_of_levels h hrest hoff]
  funext r
  exact List.flatMap_congr fun rule hrule =>
    evaluateRule_eq_of_levels h hrest hwarn (hrules rule (List.mem_of_mem_filter hrule)) r

end

/-- A level that is neither `off` nor `warn` switches the rule and sets its severity in the same
way in either form, and a round is the same if the rule does not look at its parameters. A word
that is no name of a severity replaces none in either form. The word `off` is one of these, but only
alone does it switch the rule off. -/
theorem levels_agree {short long : Config} {name word : String}
    (h : short.Levels long name word) :
    (word ≠ "off" → short.isRuleEnabled name = true ∧ long.isRuleEnabled name = true) ∧
    (word = "off" → short.isRuleEnabled name = false ∧ long.isRuleEnabled name = true) ∧
    (word ≠ "warn" → short.ruleSeverity? name = long.ruleSeverity? name) ∧
    (word ∉ ["error", "warning", "warn", "info"] →
      short.ruleSeverity? name = none ∧ long.ruleSeverity? name = none) ∧
    ∀ {s : Shape} (rules : List (Rule s)),
      (word = "off" → ∀ rule ∈ rules, rule.name = name →
        rule ∉ enabled short rules ∧ rule ∈ enabled long rules) ∧
      (word ≠ "off" → word ≠ "warn" → short.SameBesides long name →
        (∀ rule ∈ rules, rule.name = name → rule.IgnoresParameters) →
        ∀ (fixer : Fixer s) (progress : Progress s.Payload) (r : Representation s.Doc),
          round short (enabled short rules) fixer progress r =
            round long (enabled long rules) fixer progress r) := by
  refine ⟨fun hoff => ⟨?_, h.isRuleEnabled_long⟩, fun hoff => ⟨?_, h.isRuleEnabled_long⟩,
    h.ruleSeverity?_eq, fun hword => ?_, fun rules => ⟨?_, ?_⟩⟩
  · rw [h.isRuleEnabled_short, bne_iff_ne.2 hoff]
  · rw [h.isRuleEnabled_short, hoff]
    rfl
  · have hnone := h.ruleSeverity?_short_eq_none hword
    have hwarn : word ≠ "warn" := by
      rintro rfl
      exact hword (by decide)
    exact ⟨hnone, (h.ruleSeverity?_eq hwarn).symm.trans hnone⟩
  · intro hoff rule hrule hname
    simp [enabled, hrule, hname, h.isRuleEnabled_short, h.isRuleEnabled_long, hoff]
  · intro hoff hwarn hrest hrules fixer progress r
    rw [round_eq_roundOn, round_eq_roundOn, hrest.policy_eq,
      evaluate_eq_of_levels h hrest hoff hwarn hrules]

/-- The finding of a rule is called an information in either form, and another rule stays off. -/
theorem levels_agree_info :
    let short : Config := { rules := ⟨[("last byte", .severity "info"),
      ("removal", .enabled false)]⟩ }
    let long : Config := { rules := ⟨[("removal", .enabled false), ("last byte",
      .options (.object [("deep", .array [.null]), ("severity", .string "info")]))]⟩ }
    let rules : List (Rule .text) := [removal, lastByte]
    let r : Representation String := ⟨.text, "ab", ⟨"a.txt"⟩⟩
    short.Levels long "last byte" "info" ∧ short.SameBesides long "last byte" ∧
      lastByte.IgnoresParameters ∧
      (round short (enabled short rules) Fixer.text ⟨0, ⟨[], []⟩, []⟩ r).state.last.findings =
        [⟨"last byte", "a byte", ⟨1, 2⟩, .info, none⟩] ∧
      round short (enabled short rules) Fixer.text ⟨0, ⟨[], []⟩, []⟩ r =
        round long (enabled long rules) Fixer.text ⟨0, ⟨[], []⟩, []⟩ r := by
  intro short long rules r
  have hlevels : short.Levels long "last byte" "info" := ⟨rfl, _, rfl, rfl⟩
  have hrest : short.SameBesides long "last byte" := by
    refine ⟨rfl, rfl, fun other hother => ?_⟩
    simp [short, long, RuleOptions.get?, List.lookup_cons, beq_false_of_ne hother]
  have hlast : lastByte.IgnoresParameters := fun _ _ _ _ => rfl
  have hrules : ∀ rule ∈ rules, rule.name = "last byte" → rule.IgnoresParameters := by
    intro rule hrule hname
    obtain rfl | rfl : rule = removal ∨ rule = lastByte := by simpa [rules] using hrule
    · exact fun _ _ _ _ => rfl
    · exact hlast
  obtain ⟨-, -, -, -, hrounds⟩ := levels_agree hlevels
  exact ⟨hlevels, hrest, hlast, by decide +kernel,
    (hrounds rules).2 (by decide) (by decide) hrest hrules Fixer.text _ r⟩

/-- The word `off` among options leaves the rule on, and the short name of warnings is known only
as a word alone. -/
theorem levels_disagree :
    let short (word : String) : Config := { rules := ⟨[("a", .severity word)]⟩ }
    let long (word : String) : Config :=
      { rules := ⟨[("a", .options (.object [("severity", .string word)]))]⟩ }
    ((short "off").Levels (long "off") "a" "off" ∧
      (short "off").isRuleEnabled "a" = false ∧ (long "off").isRuleEnabled "a" = true) ∧
    ((short "warn").Levels (long "warn") "a" "warn" ∧
      (short "warn").ruleSeverity? "a" = some .warning ∧
      (long "warn").ruleSeverity? "a" = none) ∧
    ¬ ∀ (short long : Config) (name word : String), short.Levels long name word →
      short.isRuleEnabled name = long.isRuleEnabled name ∧
        short.ruleSeverity? name = long.ruleSeverity? name := by
  intro short long
  have hoff : (short "off").Levels (long "off") "a" "off" := ⟨rfl, _, rfl, rfl⟩
  refine ⟨⟨hoff, by decide, by decide⟩, ⟨⟨rfl, _, rfl, rfl⟩, by decide, by decide⟩, fun h => ?_⟩
  exact absurd (h _ _ _ _ hoff).1 (by decide)

end FileRun

end Emend
