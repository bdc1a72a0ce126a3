import Mathlib.Tactic.Push
import Emend.Proofs.Registry.Registration

/-!
# What holds of every registry

A registry is `Coherent` if names are unique in each table, the tag of each entry is its plugin's
own, and a tag is bound to a kind exactly when an entry with that tag is of that kind. Registering
keeps this (`Coherent.register`), so it holds of whatever is `Reachable`.

In a coherent registry the entries with one tag are all of one kind, and looking up depends on
nothing else: an entry is found at the kind that its tag is bound to and is refused at every other
(`Finds`), and so are the rules of a tag all together (`FindsRules`).
-/

namespace Emend

variable {c : Catalogue} {P : Shape → Type}

namespace Entry

variable {entry : Entry c P} {kind : Kind c.Custom}

/-- The tag of an entry with the kind of its documents. -/
def binding (entry : Entry c P) : Tag × Kind c.Custom := (entry.tag, entry.kind)

theorem at_eq_ok_iff {plugin : P (c.shape kind)} :
    entry.at kind = .ok plugin ↔ entry = ⟨entry.tag, kind, plugin⟩ := by
  obtain ⟨tag, own, p⟩ := entry
  unfold Entry.at
  by_cases h : own = kind
  · subst h
    simp
  · simp [h]

theorem at_kind (entry : Entry c P) : entry.at entry.kind = .ok entry.plugin := at_eq_ok_iff.2 rfl

theorem at_of_ne (h : entry.kind ≠ kind) :
    entry.at kind = .error (.fixer (.unsupportedRepresentation entry.tag ⟨c.label kind⟩)) :=
  dif_neg h

end Entry

namespace Registry

/-- The tags of all plugins with the kinds of their documents. -/
def bindings (r : Registry c) : List (Tag × Kind c.Custom) :=
  r.parsers.map Entry.binding ++ r.rules.map Entry.binding ++ r.fixers.map Entry.binding ++
    r.transformers.map Entry.binding

/-- A table in which no key occurs twice and each entry has the tag that its plugin says. -/
structure Orderly {K : Type} (key : Entry c P → K) (ownTag : Entry c P → Tag)
    (entries : List (Entry c P)) : Prop where
  keys_nodup : (entries.map key).Nodup
  tag_eq : ∀ entry ∈ entries, entry.tag = ownTag entry

/-- What holds of every registry that comes about by registering: there is one plugin to a name, and
a tag is bound to the kind of the plugins that have it, and to none without a plugin. -/
structure Coherent (r : Registry c) : Prop where
  parsers : Orderly (fun entry => entry.plugin.name) (fun entry => entry.plugin.tag) r.parsers
  rules : Orderly (fun entry => entry.plugin.name) (fun entry => entry.plugin.tag) r.rules
  fixers : Orderly Entry.tag (fun entry => entry.plugin.tag) r.fixers
  transformers : Orderly (fun entry => entry.plugin.name) Entry.tag r.transformers
  kind?_eq_some_iff : ∀ tag kind, r.kind? tag = some kind ↔ (tag, kind) ∈ r.bindings

/-- A look-up that finds an entry at the kind that its tag is bound to, and refuses every other. -/
structure Finds (r : Registry c)
    (lookup : (kind : Kind c.Custom) → Except EngineError (P (c.shape kind)))
    (entry : Entry c P) : Prop where
  found : lookup entry.kind = .ok entry.plugin
  ok_iff : ∀ kind, (∃ plugin, lookup kind = .ok plugin) ↔ r.kind? entry.tag = some kind
  refused : ∀ kind, r.kind? entry.tag ≠ some kind →
    lookup kind = .error (.fixer (.unsupportedRepresentation entry.tag ⟨c.label kind⟩))

/-- The rules of a tag are found, all of them and in the order of registration, at the kind that
the tag is bound to, and where there is none. -/
structure FindsRules (r : Registry c) (kind : Kind c.Custom) (tag : Tag) : Prop where
  ok_iff : (∃ rules, r.rulesFor kind tag = .ok rules) ↔
    r.kind? tag = some kind ∨ ∀ entry ∈ r.rules, entry.tag ≠ tag
  found : ∀ rules, r.rulesFor kind tag = .ok rules →
    rules.map (Entry.mk tag kind) = r.rules.filter fun entry => entry.tag == tag
  refused : ∀ e, r.rulesFor kind tag = .error e →
    e = .fixer (.unsupportedRepresentation tag ⟨c.label kind⟩)

variable {r : Registry c} {g : Registration c} {tag : Tag} {kind : Kind c.Custom}

/-! ## One registration -/

@[simp]
theorem kind?_push : (g.push r).kind? tag = r.kind? tag := by
  cases g <;> rfl

@[simp]
theorem bindings_bindFree : (r.bindFree tag kind).bindings = r.bindings := by
  simp [bindings]

theorem mem_bindings_push {x : Tag × Kind c.Custom} :
    x ∈ (g.push r).bindings ↔ x ∈ r.bindings ∨ x = (g.tag, g.kind) := by
  cases g <;>
    simp only [bindings, Registration.push, Registration.tag, Registration.kind, List.map_append,
      List.map_singleton, List.mem_append, List.mem_singleton, Entry.binding] <;> grind

theorem Orderly.append {K : Type} [BEq K] [LawfulBEq K] {entries : List (Entry c P)}
    {key : Entry c P → K} {ownTag : Entry c P → Tag} (h : Orderly key ownTag entries)
    {entry : Entry c P} (hfree : ¬ (entries.find? fun other => key other == key entry).isSome)
    (htag : entry.tag = ownTag entry) : Orderly key ownTag (entries ++ [entry]) where
  keys_nodup := by
    rw [List.find?_isSome] at hfree
    rw [List.map_append, List.nodup_append]
    refine ⟨h.keys_nodup, List.pairwise_singleton _ _, ?_⟩
    rintro a ha b hb rfl
    obtain ⟨other, hother, rfl⟩ := List.mem_map.1 ha
    exact hfree ⟨other, hother, beq_iff_eq.2 (List.mem_singleton.1 hb)⟩
  tag_eq := by
    intro other hother
    rcases List.mem_append.1 hother with hold | hnew
    · exact h.tag_eq other hold
    · rw [List.mem_singleton.1 hnew]
      exact htag

theorem coherent_empty : Coherent (empty : Registry c) where
  parsers := ⟨List.nodup_nil, by simp [empty]⟩
  rules := ⟨List.nodup_nil, by simp [empty]⟩
  fixers := ⟨List.nodup_nil, by simp [empty]⟩
  transformers := ⟨List.nodup_nil, by simp [empty]⟩
  kind?_eq_some_iff := by simp [empty, kind?, bindings]

namespace Coherent

/-- The tag of a new plugin is bound to the plugin's kind, and other tags as before. -/
theorem kind?_push_bindFree_iff (h : Coherent r)
    (hkind : ∀ bound, r.kind? g.tag = some bound → bound = g.kind) (tag : Tag)
    (kind : Kind c.Custom) :
    (g.push (r.bindFree g.tag g.kind)).kind? tag = some kind ↔
      (tag, kind) ∈ (g.push (r.bindFree g.tag g.kind)).bindings := by
  rw [kind?_push, kind?_bindFree hkind, mem_bindings_push, bindings_bindFree,
    ← h.kind?_eq_some_iff, Prod.mk.injEq]
  by_cases heq : tag = g.tag
  · subst heq
    rw [if_pos rfl]
    -- Where the tag was bound before, it was to the kind of the new plugin.
    constructor
    · intro hbound
      exact .inr ⟨rfl, (Option.some.inj hbound).symm⟩
    · rintro (hbound | ⟨-, rfl⟩)
      · rw [hkind kind hbound]
      · rfl
  · simp [heq]

theorem push (h : Coherent r) (hfree : ¬ g.IsTaken r)
    (hkind : ∀ bound, r.kind? g.tag = some bound → bound = g.kind) :
    Coherent (g.push (r.bindFree g.tag g.kind)) := by
  have hkinds := h.kind?_push_bindFree_iff hkind
  obtain ⟨hparsers, hrules, hfixers, htransformers, -⟩ := h
  rw [← parsers_bindFree r g.tag g.kind] at hparsers
  rw [← rules_bindFree r g.tag g.kind] at hrules
  rw [← fixers_bindFree r g.tag g.kind] at hfixers
  rw [← transformers_bindFree r g.tag g.kind] at htransformers
  cases g with
  | parser kind p =>
    refine ⟨hparsers.append ?_ rfl, hrules, hfixers, htransformers, hkinds⟩
    rw [parsers_bindFree]
    exact hfree
  | rule kind q =>
    refine ⟨hparsers, hrules.append ?_ rfl, hfixers, htransformers, hkinds⟩
    rw [rules_bindFree]
    exact hfree
  | fixer kind f =>
    refine ⟨hparsers, hrules, hfixers.append ?_ rfl, htransformers, hkinds⟩
    rw [fixers_bindFree]
    exact hfree
  | transformer kind tag t =>
    refine ⟨hparsers, hrules, hfixers, htransformers.append ?_ rfl, hkinds⟩
    rw [transformers_bindFree]
    exact hfree

/-- Registering keeps a registry coherent, whether the plugin is refused or not. -/
theorem register (h : Coherent r) (g : Registration c) : Coherent (r.register g).registry := by
  have hregisters := r.registers g
  generalize r.register g = done at hregisters
  cases hregisters with
  | taken => exact h
  | boundElsewhere => exact h
  | added hfree hkind => exact h.push hfree hkind

theorem registerAll (h : Coherent r) (gs : List (Registration c)) :
    Coherent (r.registerAll gs) := by
  induction gs generalizing r with
  | nil => exact h
  | cons g gs ih => exact ih (h.register g)

end Coherent

theorem Reachable.coherent (h : Reachable r) : Coherent r := by
  induction h with
  | empty => exact coherent_empty
  | builtins =>
    rw [registry_builtins]
    exact coherent_empty.registerAll _
  | register _ g ih => exact ih.register g

/-! ## Looking up -/

theorem find?_eq_some_of_mem {K : Type} [BEq K] [LawfulBEq K] {entries : List (Entry c P)}
    {key : Entry c P → K} (h : (entries.map key).Nodup) {entry : Entry c P}
    (hmem : entry ∈ entries) :
    (entries.find? fun other => key other == key entry) = some entry := by
  induction entries with
  | nil => cases hmem
  | cons head rest ih =>
    obtain ⟨hhead, hrest⟩ := List.nodup_cons.1 h
    rcases List.mem_cons.1 hmem with rfl | hmem
    · simp
    · have hne : (key head == key entry) = false := by
        apply beq_eq_false_iff_ne.2
        intro heq
        exact hhead (heq ▸ List.mem_map_of_mem hmem)
      rw [List.find?_cons, hne]
      exact ih hrest hmem

theorem mem_of_find?_eq_some {K : Type} [BEq K] [LawfulBEq K] {entries : List (Entry c P)}
    {key : Entry c P → K} {k : K} {entry : Entry c P}
    (h : (entries.find? fun other => key other == k) = some entry) :
    entry ∈ entries ∧ key entry = k := by
  have hkey := List.find?_some h
  exact ⟨List.mem_of_find?_eq_some h, beq_iff_eq.1 hkey⟩

theorem finds_of_found {entry : Entry c P} (hkind : r.kind? entry.tag = some entry.kind)
    {lookup : (kind : Kind c.Custom) → Except EngineError (P (c.shape kind))}
    (hlookup : ∀ kind, lookup kind = entry.at kind) : Finds r lookup entry where
  found := by rw [hlookup, entry.at_kind]
  ok_iff kind := by
    rw [hkind, hlookup, Option.some_inj]
    constructor
    · rintro ⟨plugin, hplugin⟩
      rw [Entry.at_eq_ok_iff.1 hplugin]
    · rintro rfl
      exact ⟨entry.plugin, entry.at_kind⟩
  refused kind hne := by
    rw [hlookup, Entry.at_of_ne]
    rintro rfl
    exact hne hkind

theorem mapM_cons_eq_ok_iff {ε α β : Type} {f : α → Except ε β} {a : α} {as : List α}
    {bs : List β} :
    (a :: as).mapM f = .ok bs ↔ ∃ b others, bs = b :: others ∧ f a = .ok b ∧
      as.mapM f = .ok others := by
  rw [List.mapM_cons]
  cases f a with
  | error e => simp [Bind.bind, Except.bind]
  | ok b =>
    cases as.mapM f with
    | error e => simp [Bind.bind, Except.bind]
    | ok others => simp [Bind.bind, Except.bind, Pure.pure, Except.pure, eq_comm]

/-- Entries of one tag are all found at a kind if it is the kind of each. -/
theorem mapM_at_eq_ok_iff {entries : List (Entry c P)} (htag : ∀ entry ∈ entries, entry.tag = tag)
    {plugins : List (P (c.shape kind))} :
    (entries.mapM fun entry => entry.at kind) = .ok plugins ↔
      plugins.map (Entry.mk tag kind) = entries := by
  induction entries generalizing plugins with
  | nil =>
    rw [List.mapM_nil, List.map_eq_nil_iff]
    constructor
    · intro h
      cases h
      rfl
    · rintro rfl
      rfl
  | cons entry rest ih =>
    obtain ⟨hhead, hrest⟩ := List.forall_mem_cons.1 htag
    subst hhead
    rw [mapM_cons_eq_ok_iff, List.map_eq_cons_iff]
    constructor
    · rintro ⟨plugin, others, rfl, hplugin, hothers⟩
      exact ⟨plugin, others, rfl, (Entry.at_eq_ok_iff.1 hplugin).symm, (ih hrest).1 hothers⟩
    · rintro ⟨plugin, others, rfl, hplugin, hothers⟩
      exact ⟨plugin, others, rfl, Entry.at_eq_ok_iff.2 hplugin.symm, (ih hrest).2 hothers⟩

theorem mapM_at_eq_error {entries : List (Entry c P)} (htag : ∀ entry ∈ entries, entry.tag = tag)
    {e : EngineError} (h : (entries.mapM fun entry => entry.at kind) = .error e) :
    e = .fixer (.unsupportedRepresentation tag ⟨c.label kind⟩) ∧
      ∃ entry ∈ entries, entry.kind ≠ kind := by
  induction entries with
  | nil => cases h
  | cons entry rest ih =>
    obtain ⟨hhead, hrest⟩ := List.forall_mem_cons.1 htag
    rw [List.mapM_cons] at h
    by_cases hkind : entry.kind = kind
    · subst hkind
      rw [entry.at_kind] at h
      cases hothers : (rest.mapM fun other => other.at entry.kind) with
      | error e' =>
        rw [hothers] at h
        cases h
        obtain ⟨heq, other, hother, hne⟩ := ih hrest hothers
        exact ⟨heq, other, List.mem_cons_of_mem _ hother, hne⟩
      | ok others =>
        rw [hothers] at h
        cases h
    · rw [Entry.at_of_ne hkind, hhead] at h
      cases h
      exact ⟨rfl, entry, List.mem_cons_self, hkind⟩

theorem rulesFor_eq_ok_iff {rules : List (Rule (c.shape kind))} :
    r.rulesFor kind tag = .ok rules ↔
      rules.map (Entry.mk tag kind) = r.rules.filter fun entry => entry.tag == tag := by
  apply mapM_at_eq_ok_iff
  intro entry hentry
  exact beq_iff_eq.1 (List.mem_filter.1 hentry).2

theorem rulesFor_eq_error {e : EngineError} (h : r.rulesFor kind tag = .error e) :
    e = .fixer (.unsupportedRepresentation tag ⟨c.label kind⟩) ∧
      ∃ entry ∈ r.rules, entry.tag = tag ∧ entry.kind ≠ kind := by
  have htag : ∀ entry ∈ r.rules.filter fun entry => entry.tag == tag, entry.tag = tag := by
    intro entry hentry
    exact beq_iff_eq.1 (List.mem_filter.1 hentry).2
  obtain ⟨he, entry, hentry, hne⟩ := mapM_at_eq_error htag h
  exact ⟨he, entry, (List.mem_filter.1 hentry).1, htag entry hentry, hne⟩

namespace Coherent

theorem kind?_eq_of_mem (h : Coherent r) {entry : Entry c P} (hmem : entry.binding ∈ r.bindings) :
    r.kind? entry.tag = some entry.kind :=
  (h.kind?_eq_some_iff _ _).2 hmem

theorem finds_of_mem_parsers (h : Coherent r) {entry : Entry c Parser} (hmem : entry ∈ r.parsers) :
    Finds r (fun kind => r.parser kind entry.plugin.name) entry := by
  have hfind : r.parserEntry? entry.plugin.name = some entry :=
    find?_eq_some_of_mem h.parsers.keys_nodup hmem
  refine finds_of_found (h.kind?_eq_of_mem ?_) fun kind => by rw [parser, hfind, found]
  simp only [bindings, List.mem_append, List.mem_map_of_mem hmem, true_or]

theorem kind?_eq_of_mem_rules (h : Coherent r) {entry : Entry c Rule} (hmem : entry ∈ r.rules) :
    r.kind? entry.tag = some entry.kind := by
  apply h.kind?_eq_of_mem
  simp only [bindings, List.mem_append, List.mem_map_of_mem hmem, true_or, or_true]

theorem finds_of_mem_rules (h : Coherent r) {entry : Entry c Rule} (hmem : entry ∈ r.rules) :
    Finds r (fun kind => r.rule kind entry.plugin.name) entry := by
  have hfind : r.ruleEntry? entry.plugin.name = some entry :=
    find?_eq_some_of_mem h.rules.keys_nodup hmem
  exact finds_of_found (h.kind?_eq_of_mem_rules hmem) fun kind => by rw [rule, hfind, found]

theorem finds_of_mem_fixers (h : Coherent r) {entry : Entry c Fixer} (hmem : entry ∈ r.fixers) :
    Finds r (fun kind => r.fixerFor kind entry.tag) entry := by
  have hfind : r.fixerEntry? entry.tag = some entry :=
    find?_eq_some_of_mem h.fixers.keys_nodup hmem
  refine finds_of_found (h.kind?_eq_of_mem ?_) fun kind => by rw [fixerFor, hfind, found]
  simp only [bindings, List.mem_append, List.mem_map_of_mem hmem, true_or, or_true]

theorem finds_of_mem_transformers (h : Coherent r) {entry : Entry c Transformer}
    (hmem : entry ∈ r.transformers) :
    Finds r (fun kind => r.transformer kind entry.plugin.name) entry := by
  have hfind : r.transformerEntry? entry.plugin.name = some entry :=
    find?_eq_some_of_mem h.transformers.keys_nodup hmem
  refine finds_of_found (h.kind?_eq_of_mem ?_) fun kind => by rw [transformer, hfind, found]
  simp only [bindings, List.mem_append, List.mem_map_of_mem hmem, or_true]

theorem findsRules (h : Coherent r) (kind : Kind c.Custom) (tag : Tag) :
    FindsRules r kind tag := by
  refine ⟨⟨?_, fun hbound => ?_⟩, fun rules hrules => rulesFor_eq_ok_iff.1 hrules,
    fun e he => (rulesFor_eq_error he).1⟩
  · rintro ⟨rules, hrules⟩
    by_cases hnone : ∀ entry ∈ r.rules, entry.tag ≠ tag
    · exact .inr hnone
    · left
      push Not at hnone
      obtain ⟨entry, hentry, heq⟩ := hnone
      have hmem : entry ∈ rules.map (Entry.mk tag kind) := by
        rw [rulesFor_eq_ok_iff.1 hrules]
        exact List.mem_filter.2 ⟨hentry, beq_iff_eq.2 heq⟩
      obtain ⟨q, -, rfl⟩ := List.mem_map.1 hmem
      exact h.kind?_eq_of_mem_rules hentry
  · cases hrules : r.rulesFor kind tag with
    | ok rules => exact ⟨rules, rfl⟩
    | error e =>
      obtain ⟨-, entry, hentry, rfl, hne⟩ := rulesFor_eq_error hrules
      rcases hbound with hbound | hnone
      · rw [h.kind?_eq_of_mem_rules hentry] at hbound
        exact absurd (Option.some.inj hbound) hne
      · exact absurd rfl (hnone entry hentry)

end Coherent

/-- In every registry that comes about by registering, names are unique and a tag is bound to the
one kind that all its plugins have. So every entry is found at the kind its tag is bound to and is
refused at every other one, and so are the rules of each tag. -/
theorem reachable_finds (h : Reachable r) :
    Coherent r ∧
    (∀ entry ∈ r.parsers, Finds r (fun kind => r.parser kind entry.plugin.name) entry) ∧
    (∀ entry ∈ r.rules, Finds r (fun kind => r.rule kind entry.plugin.name) entry) ∧
    (∀ entry ∈ r.fixers, Finds r (fun kind => r.fixerFor kind entry.tag) entry) ∧
    (∀ entry ∈ r.transformers,
      Finds r (fun kind => r.transformer kind entry.plugin.name) entry) ∧
    ∀ kind tag, FindsRules r kind tag := by
  have hcoherent := h.coherent
  exact ⟨hcoherent, fun _ => hcoherent.finds_of_mem_parsers, fun _ => hcoherent.finds_of_mem_rules,
    fun _ => hcoherent.finds_of_mem_fixers, fun _ => hcoherent.finds_of_mem_transformers,
    hcoherent.findsRules⟩

/-- A rule that reports nothing. -/
def silent {s : Shape} (name : String) (tag : Tag) : Rule s :=
  { name, description := "reports nothing", tag, check := fun _ => [] }

/-- The built-in plugins with a rule for texts, after a rule for texts under the tag of lines and
one for lines under a taken name were refused. -/
theorem reachable_finds_refused :
    let spaces : Rule .text := silent "spaces" .text
    let r : Registry .plain := registerAll builtins.registry
      [.rule .text spaces, .rule .text (silent "mislabeled" .line),
        .rule .lines (silent "spaces" .line)]
    Reachable r ∧ r.ruleNames = ["spaces"] ∧ r.kind? .text = some .text ∧
    r.rule .text "spaces" = .ok spaces ∧
    (∀ kind, (∃ rule, r.rule kind "spaces" = .ok rule) ↔ r.kind? .text = some kind) ∧
    r.rule .lines "spaces" = .error (.fixer (.unsupportedRepresentation .text ⟨"lines"⟩)) ∧
    (∃ rules, r.rulesFor .lines .line = .ok rules) ∧
    ¬ ∃ rules, r.rulesFor .lines .text = .ok rules := by
  intro spaces r
  have hr : Reachable r := Reachable.builtins.registerAll _
  have hmem : Entry.mk .text .text spaces ∈ r.rules := List.mem_singleton.2 rfl
  obtain ⟨-, -, hrules, -, -, hall⟩ := reachable_finds hr
  obtain ⟨hfound, hiff, hrefused⟩ := hrules _ hmem
  refine ⟨hr, rfl, rfl, hfound, hiff, hrefused .lines nofun,
    (hall .lines .line).ok_iff.2 (.inl rfl), fun hok => ?_⟩
  rcases (hall .lines .text).ok_iff.1 hok with hkind | hnone
  · cases hkind
  · exact hnone _ hmem rfl

end Registry

end Emend
