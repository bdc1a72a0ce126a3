import Emend.Proofs.Registry.Coherence

/-!
# How registries grow

A registration that is refused leaves the registry as it was; one that succeeds puts an entry at the
end of one table. So a registry only ever grows at the ends of its tables (`Extends`), and as a
look-up takes the first entry that fits, what was found once is found for good (`Keeps`): the first
parser to claim an extension keeps it.

The rules of a tag gain the new rule at the end, with one exception: while a tag has no rule, the
look-up of its rules succeeds at every kind of document, and its first rule ends that for all kinds
but its own (`RulesGrow`, `rulesFor_closed`).
-/

namespace Emend

variable {c : Catalogue} {P : Shape → Type}

namespace Registration

/-- The entries that the plugin adds to the parsers. -/
def newParsers : Registration c → List (Entry c Parser)
  | .parser kind p => [⟨p.tag, kind, p⟩]
  | _ => []

/-- The entries that the plugin adds to the rules. -/
def newRules : Registration c → List (Entry c Rule)
  | .rule kind q => [⟨q.tag, kind, q⟩]
  | _ => []

theorem parsers_push (r : Registry c) (g : Registration c) :
    (g.push r).parsers = r.parsers ++ g.newParsers := by
  cases g <;> simp [push, newParsers]

theorem rules_push (r : Registry c) (g : Registration c) :
    (g.push r).rules = r.rules ++ g.newRules := by
  cases g <;> simp [push, newRules]

end Registration

namespace Registry

/-- The tables of the second registry start with those of the first. -/
structure Extends (r r' : Registry c) : Prop where
  parsers : r.parsers <+: r'.parsers
  rules : r.rules <+: r'.rules
  fixers : r.fixers <+: r'.fixers
  transformers : r.transformers <+: r'.transformers

/-- What is found in the first registry is found in the second. -/
structure Keeps (r r' : Registry c) : Prop where
  parser : ∀ kind name p, r.parser kind name = .ok p → r'.parser kind name = .ok p
  parserForExtension? : ∀ extension name,
    r.parserForExtension? extension = some name → r'.parserForExtension? extension = some name
  parserTag? : ∀ name tag, r.parserTag? name = some tag → r'.parserTag? name = some tag
  rule : ∀ kind name q, r.rule kind name = .ok q → r'.rule kind name = .ok q
  fixerFor : ∀ kind tag f, r.fixerFor kind tag = .ok f → r'.fixerFor kind tag = .ok f
  transformer : ∀ kind name t,
    r.transformer kind name = .ok t → r'.transformer kind name = .ok t
  transformerTag? : ∀ name tag,
    r.transformerTag? name = some tag → r'.transformerTag? name = some tag

/-- What becomes of the `rules` found for a tag when the registration leads to `r'`. -/
structure RulesGrow (r' : Registry c) (g : Registration c) (kind : Kind c.Custom) (tag : Tag)
    (rules : List (Rule (c.shape kind))) : Prop where
  same : (∀ other q, g = .rule other q → q.tag ≠ tag) → r'.rulesFor kind tag = .ok rules
  gained : ∀ q, g = .rule kind q → q.tag = tag → r'.rulesFor kind tag = .ok (rules ++ [q])
  closed : ∀ other q, g = .rule other q → q.tag = tag → other ≠ kind → rules = [] ∧
    r'.rulesFor kind tag = .error (.fixer (.unsupportedRepresentation tag ⟨c.label kind⟩))

variable {r r' : Registry c} {g : Registration c} {tag : Tag} {kind : Kind c.Custom}

/-! ## What a registration leaves -/

theorem registry_of_error {e : EngineError} (h : (r.register g).result = .error e) :
    (r.register g).registry = r ∧ (e = .plugin (.duplicate g.name) ∨
      e = .fixer (.unsupportedRepresentation g.tag ⟨c.label g.kind⟩)) := by
  have hregisters := r.registers g
  generalize r.register g = done at h hregisters
  cases hregisters with
  | taken =>
    cases h
    exact ⟨rfl, .inl rfl⟩
  | boundElsewhere =>
    cases h
    exact ⟨rfl, .inr rfl⟩
  | added => cases h

theorem registry_of_ok (h : (r.register g).result = .ok ()) :
    (∀ bound, r.kind? g.tag = some bound → bound = g.kind) ∧
      (r.register g).registry = g.push (r.bindFree g.tag g.kind) := by
  have hregisters := r.registers g
  generalize r.register g = done at h hregisters
  cases hregisters with
  | taken => cases h
  | boundElsewhere => cases h
  | added _ hkind => exact ⟨hkind, rfl⟩

theorem parsers_of_ok (h : (r.register g).result = .ok ()) :
    (r.register g).registry.parsers = r.parsers ++ g.newParsers := by
  rw [(registry_of_ok h).2, g.parsers_push, parsers_bindFree]

theorem rules_of_ok (h : (r.register g).result = .ok ()) :
    (r.register g).registry.rules = r.rules ++ g.newRules := by
  rw [(registry_of_ok h).2, g.rules_push, rules_bindFree]

/-! ## Growth at the ends -/

namespace Extends

theorem refl (r : Registry c) : Extends r r :=
  ⟨List.prefix_rfl, List.prefix_rfl, List.prefix_rfl, List.prefix_rfl⟩

theorem trans {r'' : Registry c} (h : Extends r r') (h' : Extends r' r'') : Extends r r'' :=
  ⟨h.parsers.trans h'.parsers, h.rules.trans h'.rules, h.fixers.trans h'.fixers,
    h.transformers.trans h'.transformers⟩

theorem push (r : Registry c) (g : Registration c) : Extends r (g.push r) := by
  cases g <;> constructor <;> simp [Registration.push]

theorem bindFree (r : Registry c) (tag : Tag) (kind : Kind c.Custom) :
    Extends r (r.bindFree tag kind) := by
  constructor <;> simp

theorem register (r : Registry c) (g : Registration c) : Extends r (r.register g).registry := by
  cases hresult : (r.register g).result with
  | error e =>
    rw [(registry_of_error hresult).1]
    exact refl r
  | ok =>
    rw [(registry_of_ok hresult).2]
    exact (bindFree r g.tag g.kind).trans (push _ g)

theorem registerAll (r : Registry c) (gs : List (Registration c)) :
    Extends r (r.registerAll gs) := by
  induction gs generalizing r with
  | nil => exact refl r
  | cons g gs ih => exact (register r g).trans (ih _)

end Extends

/-- A plugin that is found stays the one found if the first fitting entry stays. -/
theorem found_eq_ok_of_entry {name : String} {o o' : Option (Entry c P)}
    (h : ∀ entry, o = some entry → o' = some entry) {plugin : P (c.shape kind)}
    (hfound : found name kind o = .ok plugin) : found name kind o' = .ok plugin := by
  cases o with
  | none => cases hfound
  | some entry =>
    rw [h entry rfl]
    exact hfound

theorem map_eq_some_of_entry {α : Type} {f : Entry c P → α} {o o' : Option (Entry c P)}
    (h : ∀ entry, o = some entry → o' = some entry) {a : α}
    (ha : o.map f = some a) : o'.map f = some a := by
  obtain ⟨entry, hentry, rfl⟩ := Option.map_eq_some_iff.1 ha
  rw [h entry hentry]
  rfl

theorem Extends.keeps (h : Extends r r') : Keeps r r' where
  parser _ _ _ := found_eq_ok_of_entry fun _ => h.parsers.find?_eq_some
  parserForExtension? _ _ := map_eq_some_of_entry fun _ => h.parsers.find?_eq_some
  parserTag? _ _ := map_eq_some_of_entry fun _ => h.parsers.find?_eq_some
  rule _ _ _ := found_eq_ok_of_entry fun _ => h.rules.find?_eq_some
  fixerFor _ _ _ := found_eq_ok_of_entry fun _ => h.fixers.find?_eq_some
  transformer _ _ _ := found_eq_ok_of_entry fun _ => h.transformers.find?_eq_some
  transformerTag? _ _ := map_eq_some_of_entry fun _ => h.transformers.find?_eq_some

/-! ## The rules of a tag -/

theorem Coherent.rulesGrow (h : Coherent r) (hok : (r.register g).result = .ok ())
    {rules : List (Rule (c.shape kind))} (hrules : r.rulesFor kind tag = .ok rules) :
    RulesGrow (r.register g).registry g kind tag rules where
  same hother := by
    have hnew : (g.newRules.filter fun entry => entry.tag == tag) = [] := by
      cases g with
      | rule other q => simpa [Registration.newRules] using hother other q rfl
      | _ => rfl
    rw [rulesFor_eq_ok_iff] at hrules ⊢
    rw [rules_of_ok hok, List.filter_append, hnew, List.append_nil, hrules]
  gained q hq htag := by
    subst hq htag
    rw [rulesFor_eq_ok_iff] at hrules ⊢
    rw [rules_of_ok hok, List.filter_append, ← hrules]
    simp [Registration.newRules]
  closed other q hq htag hne := by
    subst hq htag
    obtain ⟨hbound, -⟩ := registry_of_ok hok
    have hmem : Entry.mk q.tag other q ∈ (r.register (.rule other q)).registry.rules := by
      rw [rules_of_ok hok]
      exact List.mem_append_right _ (List.mem_singleton.2 rfl)
    have hcoherent := h.register (.rule other q)
    have hkind : (r.register (.rule other q)).registry.kind? q.tag = some other :=
      hcoherent.kind?_eq_of_mem_rules hmem
    constructor
    · rcases (h.findsRules kind q.tag).ok_iff.1 ⟨rules, hrules⟩ with hkind | hnone
      · exact absurd (hbound kind hkind).symm hne
      · rw [rulesFor_eq_ok_iff, List.filter_eq_nil_iff.2 (by simpa using hnone)] at hrules
        exact List.map_eq_nil_iff.1 hrules
    · have hfinds := hcoherent.findsRules kind q.tag
      cases hresult : (r.register (.rule other q)).registry.rulesFor kind q.tag with
      | error e => rw [hfinds.refused e hresult]
      | ok found =>
        rcases hfinds.ok_iff.1 ⟨found, hresult⟩ with hbound | hnone
        · rw [hkind] at hbound
          exact absurd (Option.some.inj hbound) hne
        · exact absurd rfl (hnone _ hmem)

/-! ## Extensions -/

theorem parserForExtension?_congr {extension extension' : String}
    (h : foldAscii extension = foldAscii extension') :
    r.parserForExtension? extension = r.parserForExtension? extension' := by
  simp only [parserForExtension?, claims, h]

/-- A parser that claims an extension which no parser before it claims is the one for it. -/
theorem parserForExtension?_of_first {kind : Kind c.Custom} {p : Parser (c.shape kind)}
    {extension : String} (hnone : r.parserForExtension? extension = none)
    (hok : (r.register (.parser kind p)).result = .ok ())
    (hclaims : claims p.extensions extension) :
    (r.register (.parser kind p)).registry.parserForExtension? extension = some p.name := by
  rw [parserForExtension?, Option.map_eq_none_iff] at hnone
  rw [parserForExtension?, parsers_of_ok hok, List.find?_append, hnone, Option.none_or]
  simp [Registration.newParsers, hclaims]

/-- A refused registration leaves the registry as it was. One that succeeds leaves all that was
found where it was and adds at the ends only, but for the rules of a tag that had none
(`RulesGrow.closed`). The first parser to claim an extension, in whatever case it is written, is the
one for it after all registrations to come. -/
theorem register_refuses_or_grows (h : Reachable r) (g : Registration c) :
    let r' := (r.register g).registry
    (∀ e, (r.register g).result = .error e → r' = r ∧
      (e = .plugin (.duplicate g.name) ∨
        e = .fixer (.unsupportedRepresentation g.tag ⟨c.label g.kind⟩))) ∧
    ((r.register g).result = .ok () → Keeps r r' ∧
      r'.parserNames = r.parserNames ++ g.newParsers.map (fun entry => entry.plugin.name) ∧
      r'.ruleNames = r.ruleNames ++ g.newRules.map (fun entry => entry.plugin.name) ∧
      ∀ kind tag rules, r.rulesFor kind tag = .ok rules → RulesGrow r' g kind tag rules) ∧
    ∀ extension extension', foldAscii extension = foldAscii extension' →
      (∀ name, r.parserForExtension? extension = some name →
        ∀ gs, (r.registerAll gs).parserForExtension? extension' = some name) ∧
      (∀ kind p, g = .parser kind p → (r.register g).result = .ok () →
        claims p.extensions extension → r.parserForExtension? extension = none →
        ∀ gs, (r'.registerAll gs).parserForExtension? extension' = some p.name) := by
  intro r'
  refine ⟨fun e he => registry_of_error he, fun hok => ⟨?_, ?_, ?_, ?_⟩,
    fun extension extension' hfold => ⟨fun name hname gs => ?_, ?_⟩⟩
  · exact (Extends.register r g).keeps
  · rw [parserNames, parsers_of_ok hok, List.map_append]
    rfl
  · rw [ruleNames, rules_of_ok hok, List.map_append]
    rfl
  · intro kind tag rules hrules
    exact h.coherent.rulesGrow hok hrules
  · rw [← parserForExtension?_congr hfold]
    exact (Extends.registerAll r gs).keeps.parserForExtension? extension name hname
  · rintro kind p rfl hok hclaims hnone gs
    rw [← parserForExtension?_congr hfold]
    have hfirst := parserForExtension?_of_first hnone hok hclaims
    exact (Extends.registerAll r' gs).keeps.parserForExtension? extension p.name hfirst

/-- A parser that reads a text as the built-in one does and claims other extensions. -/
def notes : Parser .text := { Parser.text ["TXT", "md"] with name := "notes" }

/-- The built-in parser for lines keeps the extension that another parser claims after it, and that
parser has the one that none claimed before. -/
theorem register_refuses_or_grows_late :
    let r : Registry .plain := builtins.registry
    let g : Registration .plain := .parser .text notes
    Reachable r ∧ (r.register g).result = .ok () ∧ r.parserForExtension? "md" = none ∧
    (r.register g).registry.parserNames = ["line", "string", "notes"] ∧
    (∀ gs, (r.registerAll gs).parserForExtension? "Txt" = some "line") ∧
    (∀ gs, ((r.register g).registry.registerAll gs).parserForExtension? "MD" = some "notes") ∧
    ((r.register g).registry.register g).registry = (r.register g).registry := by
  intro r g
  have hok : (r.register g).result = .ok () := rfl
  have hnone : r.parserForExtension? "md" = none := rfl
  obtain ⟨-, hgrows, hextension⟩ := register_refuses_or_grows Reachable.builtins g
  obtain ⟨-, hnames, -⟩ := hgrows hok
  obtain ⟨hkept, -⟩ := hextension "txt" "Txt" (by decide)
  obtain ⟨-, hfirst⟩ := hextension "md" "MD" (by decide)
  obtain ⟨hrefused, -⟩ := register_refuses_or_grows (.register .builtins g) g
  exact ⟨.builtins, hok, hnone, hnames, hkept "line" rfl, hfirst .text notes rfl hok rfl hnone,
    (hrefused (.plugin (.duplicate "notes")) rfl).1⟩

/-- Where a tag has no rule yet, the look-up of its rules succeeds at lines too, and fails there
once the first one has been registered for texts. -/
theorem rulesFor_closed :
    let r : Registry .plain := empty
    let g : Registration .plain := .rule .text (silent "spaces" ⟨"prose"⟩)
    Reachable r ∧ (r.register g).result = .ok () ∧ r.rulesFor .lines ⟨"prose"⟩ = .ok [] ∧
    ∀ more, (r.register g).registry.rulesFor .lines ⟨"prose"⟩ ≠ .ok ([] ++ more) :=
  ⟨.empty, rfl, rfl, nofun⟩

end Registry

end Emend
