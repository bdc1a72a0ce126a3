import Emend.Registry

/-!
# Registrations

A `Registration` is a plugin of one of the four sorts with the kind of its documents, and
`Registry.register` does with it what its sort asks for. `Registry.registers` says once for all four
what can become of it: a taken name or a tag bound to another kind is refused, and the registry
stays as it was; else the tag is bound, if it was free, and one entry goes to the end of its table.

The registries that a client can come to are those `Reachable` from the empty one or from the
built-in plugins by registrations, refused ones among them.
-/

namespace Emend

/-- The catalogue of the built-in kinds alone. -/
def Catalogue.plain : Catalogue where
  Custom := Empty
  decEq := inferInstance
  custom := Empty.elim
  label
    | .text => "text"
    | .lines => "lines"

variable {c : Catalogue}

/-- A plugin to be registered. -/
inductive Registration (c : Catalogue) where
  | parser (kind : Kind c.Custom) (parser : Parser (c.shape kind))
  | rule (kind : Kind c.Custom) (rule : Rule (c.shape kind))
  | fixer (kind : Kind c.Custom) (fixer : Fixer (c.shape kind))
  | transformer (kind : Kind c.Custom) (tag : Tag) (transformer : Transformer (c.shape kind))

namespace Registration

/-- The tag under which the plugin is registered. -/
def tag : Registration c → Tag
  | .parser _ p => p.tag
  | .rule _ q => q.tag
  | .fixer _ f => f.tag
  | .transformer _ tag _ => tag

/-- The kind of the plugin's documents. -/
def kind : Registration c → Kind c.Custom
  | .parser kind _ | .rule kind _ | .fixer kind _ | .transformer kind _ _ => kind

/-- What messages call the plugin. -/
def name : Registration c → String
  | .parser _ p => p.name
  | .rule _ q => q.name
  | .fixer _ f => Registry.fixerName f.tag
  | .transformer _ _ t => t.name

/-- Does the registry hold a plugin of the same sort under the name already? -/
def IsTaken (r : Registry c) : Registration c → Prop
  | .parser _ p => (r.parserEntry? p.name).isSome
  | .rule _ q => (r.ruleEntry? q.name).isSome
  | .fixer _ f => (r.fixerEntry? f.tag).isSome
  | .transformer _ _ t => (r.transformerEntry? t.name).isSome

/-- The registry with the plugin at the end of its table. -/
def push (r : Registry c) : Registration c → Registry c
  | .parser kind p => { r with parsers := r.parsers ++ [⟨p.tag, kind, p⟩] }
  | .rule kind q => { r with rules := r.rules ++ [⟨q.tag, kind, q⟩] }
  | .fixer kind f => { r with fixers := r.fixers ++ [⟨f.tag, kind, f⟩] }
  | .transformer kind tag t => { r with transformers := r.transformers ++ [⟨tag, kind, t⟩] }

end Registration

namespace Registry

/-- Registers a plugin. -/
def register (r : Registry c) : Registration c → Registered c
  | .parser kind parser => r.addParser kind parser
  | .rule kind rule => r.addRule kind rule
  | .fixer kind fixer => r.addFixer kind fixer
  | .transformer kind tag transformer => r.addTransformer kind tag transformer

/-- Registers plugins one after the other, whatever becomes of each. -/
def registerAll (r : Registry c) : List (Registration c) → Registry c
  | [] => r
  | g :: gs => (r.register g).registry.registerAll gs

/-- The registries that come about by registering plugins. -/
inductive Reachable : Registry c → Prop
  | empty : Reachable empty
  | builtins : Reachable builtins.registry
  | register {r : Registry c} (h : Reachable r) (g : Registration c) :
    Reachable (r.register g).registry

/-- What becomes of a registration. -/
inductive Registers (r : Registry c) (g : Registration c) : Registered c → Prop
  | taken {log : List Event} : g.IsTaken r →
    Registers r g ⟨.error (.plugin (.duplicate g.name)), r, log⟩
  | boundElsewhere {bound : Kind c.Custom} {log : List Event} : ¬ g.IsTaken r →
    r.kind? g.tag = some bound → bound ≠ g.kind →
    Registers r g
      ⟨.error (.fixer (.unsupportedRepresentation g.tag ⟨c.label g.kind⟩)), r, log⟩
  | added {log : List Event} : ¬ g.IsTaken r →
    (∀ bound, r.kind? g.tag = some bound → bound = g.kind) →
    Registers r g ⟨.ok (), g.push (r.bindFree g.tag g.kind), log⟩

/-! ## Binding tags -/

section
variable {r : Registry c} {tag : Tag} {kind : Kind c.Custom}

theorem bindFree_of_isSome (h : (r.kind? tag).isSome) : r.bindFree tag kind = r := if_pos h

theorem bindFree_of_eq_none (h : r.kind? tag = none) :
    r.bindFree tag kind = { r with kinds := r.kinds ++ [(tag, kind)] } := by
  rw [bindFree, h]
  rfl

/-- A tag that is free or bound to the kind is bound to it afterwards, and no other is. -/
theorem kind?_bindFree (h : ∀ bound, r.kind? tag = some bound → bound = kind) (other : Tag) :
    (r.bindFree tag kind).kind? other = if other = tag then some kind else r.kind? other := by
  cases hkind : r.kind? tag with
  | none =>
    rw [bindFree_of_eq_none hkind]
    show (r.kinds ++ [(tag, kind)]).lookup other = _
    rw [List.lookup_append, List.lookup_cons]
    by_cases heq : other = tag
    · have hlookup : r.kinds.lookup tag = none := hkind
      simp [heq, hlookup]
    · simp [heq, beq_eq_false_iff_ne.2 heq, kind?]
  | some bound =>
    rw [bindFree_of_isSome (Option.isSome_of_eq_some hkind)]
    by_cases heq : other = tag
    · rw [if_pos heq, heq, hkind, h bound hkind]
    · rw [if_neg heq]

theorem bindFree_bindFree : (r.bindFree tag kind).bindFree tag kind = r.bindFree tag kind := by
  cases hkind : r.kind? tag with
  | none =>
    apply bindFree_of_isSome
    rw [kind?_bindFree (by simp [hkind]), if_pos rfl]
    rfl
  | some bound =>
    have hbound := Option.isSome_of_eq_some hkind
    rw [bindFree_of_isSome hbound, bindFree_of_isSome hbound]

@[simp]
theorem parsers_bindFree (r : Registry c) (tag : Tag) (kind : Kind c.Custom) :
    (r.bindFree tag kind).parsers = r.parsers := by
  unfold bindFree
  split <;> rfl

@[simp]
theorem rules_bindFree (r : Registry c) (tag : Tag) (kind : Kind c.Custom) :
    (r.bindFree tag kind).rules = r.rules := by
  unfold bindFree
  split <;> rfl

@[simp]
theorem fixers_bindFree (r : Registry c) (tag : Tag) (kind : Kind c.Custom) :
    (r.bindFree tag kind).fixers = r.fixers := by
  unfold bindFree
  split <;> rfl

@[simp]
theorem transformers_bindFree (r : Registry c) (tag : Tag) (kind : Kind c.Custom) :
    (r.bindFree tag kind).transformers = r.transformers := by
  unfold bindFree
  split <;> rfl

end

/-! ## Registering -/

theorem pushParser_bindFree {r : Registry c} {kind : Kind c.Custom} {p : Parser (c.shape kind)} :
    (r.bindFree p.tag kind).pushParser kind p =
      ⟨.ok (), (Registration.parser kind p).push (r.bindFree p.tag kind),
        [.registeredParser p.name p.tag]⟩ := by
  rw [pushParser, bindFree_bindFree]
  rfl

theorem pushFixer_bindFree {r : Registry c} {kind : Kind c.Custom} {f : Fixer (c.shape kind)} :
    (r.bindFree f.tag kind).pushFixer kind f =
      ⟨.ok (), (Registration.fixer kind f).push (r.bindFree f.tag kind),
        [.registeredFixer f.tag]⟩ := by
  rw [pushFixer, bindFree_bindFree]
  rfl

/-- With a free name all depends on whether the tag can be bound to the kind. -/
theorem registers_of_free {r : Registry c} {g : Registration c} (hfree : ¬ g.IsTaken r)
    {next : Registry c → Registered c} {log : List Event}
    (hnext : next (r.bindFree g.tag g.kind) =
      ⟨.ok (), g.push (r.bindFree g.tag g.kind), log⟩) :
    Registers r g ((r.bind g.tag g.kind).andThen next) := by
  unfold bind
  cases hkind : r.kind? g.tag with
  | none =>
    simp only [Registered.andThen, hnext]
    exact .added hfree (by simp [hkind])
  | some bound =>
    by_cases heq : bound = g.kind
    · rw [bindFree_of_isSome (Option.isSome_of_eq_some hkind)] at hnext
      have hadded : Registers r g ⟨.ok (), g.push (r.bindFree g.tag g.kind), [] ++ log⟩ := by
        refine .added hfree fun other hother => ?_
        rw [hkind] at hother
        exact (Option.some.inj hother).symm.trans heq
      rw [bindFree_of_isSome (Option.isSome_of_eq_some hkind)] at hadded
      simpa only [if_pos heq, Registered.andThen, hnext] using hadded
    · simp only [if_neg heq, Registered.andThen]
      exact .boundElsewhere hfree hkind heq

/-- What a registration does is one of the three things that can become of it. -/
theorem registers (r : Registry c) (g : Registration c) : Registers r g (r.register g) := by
  cases g with
  | parser kind p =>
    rw [register, addParser]
    split
    · next htaken => exact .taken htaken
    · next hfree => exact registers_of_free (g := .parser kind p) hfree pushParser_bindFree
  | rule kind q =>
    rw [register, addRule]
    split
    · next htaken => exact .taken htaken
    · next hfree => exact registers_of_free (g := .rule kind q) hfree rfl
  | fixer kind f =>
    rw [register, addFixer]
    split
    · next htaken => exact .taken htaken
    · next hfree => exact registers_of_free (g := .fixer kind f) hfree pushFixer_bindFree
  | transformer kind tag t =>
    rw [register, addTransformer]
    split
    · next htaken => exact .taken htaken
    · next hfree => exact registers_of_free (g := .transformer kind tag t) hfree rfl

/-- The built-in plugins might as well be registered one by one: none of them is refused. -/
theorem registry_builtins : (builtins : Registered c).registry =
    registerAll empty [.parser .lines .lines, .parser .text .text, .fixer .lines .lines,
      .fixer .text .text] := rfl

theorem Reachable.registerAll {r : Registry c} (h : Reachable r) (gs : List (Registration c)) :
    Reachable (r.registerAll gs) := by
  induction gs generalizing r with
  | nil => exact h
  | cons g gs ih => exact ih (h.register g)

end Registry

end Emend
