import Emend.Config
import Emend.Proofs.Json.ReadsBack

/-!
# Configurations are read back

What is said of a rule is any JSON value at all, and it is kept: a boolean and a string as what
they mean, anything else as it is. So the options of rules are written as the very value that they
were read from (`RuleOptions.toJson_of_fromJson`). The rest of a configuration is filled in where
it is missing, and then read back like the fields of any other structure.
-/

namespace Emend

theorem SamePointPolicy.readsBack : ReadsBack SamePointPolicy fun _ => True where
  fromJson_toJson := by rintro ⟨⟩ - <;> rfl
  proper := fun _ => trivial
  proper_absent := fun _ => trivial

/-! ## Options of rules -/

/-- Every value is read as an option, and each of them is written as the value again. -/
theorem RuleOption.exists_fromJson (value : Json) :
    ∃ option : RuleOption, fromJson value = .ok option ∧ toJson option = value := by
  cases value <;> exact ⟨_, rfl, rfl⟩

namespace RuleOptions

/-- The options of all rules are those that their values are read as. -/
def Read (rules : RuleOptions) : Prop :=
  ∀ member ∈ rules.toList, fromJson (toJson member.2) = .ok member.2

theorem decodeMembers_map {rules : List (String × RuleOption)}
    (h : ∀ member ∈ rules, fromJson (toJson member.2) = .ok member.2) :
    decodeMembers (rules.map fun (name, option) => (name, toJson option)) = .ok rules := by
  induction rules with
  | nil => rfl
  | cons member rest ih =>
    obtain ⟨hmember, hrest⟩ := List.forall_mem_cons.1 h
    rw [List.map_cons, decodeMembers, hmember, ih hrest]
    rfl

theorem of_decodeMembers {members : List (String × Json)} {rules : List (String × RuleOption)}
    (h : decodeMembers members = .ok rules) :
    rules.map (fun (name, option) => (name, toJson option)) = members ∧
      ∀ member ∈ rules, fromJson (toJson member.2) = .ok member.2 := by
  induction members generalizing rules with
  | nil =>
    cases h
    exact ⟨rfl, nofun⟩
  | cons member rest ih =>
    obtain ⟨name, value⟩ := member
    obtain ⟨option, hoption, hrest⟩ := bind_eq_ok_iff.1 h
    obtain ⟨others, hothers, ⟨⟩⟩ := bind_eq_ok_iff.1 hrest
    obtain ⟨option', hread, rfl⟩ := RuleOption.exists_fromJson value
    obtain rfl : option' = option := by simpa [hread] using hoption
    obtain ⟨hmap, hall⟩ := ih hothers
    exact ⟨by rw [List.map_cons, hmap], List.forall_mem_cons.2 ⟨hoption, hall⟩⟩

theorem readsBack : ReadsBack RuleOptions Read where
  fromJson_toJson := by
    intro rules h
    show (decodeMembers _ >>= _) = _
    rw [decodeMembers_map h]
    rfl
  proper := by
    intro value rules h
    cases value with
    | object members =>
      obtain ⟨_, hmembers, ⟨⟩⟩ := bind_eq_ok_iff.1 h
      exact (of_decodeMembers hmembers).2
    | _ => cases h
  proper_absent := nofun

/-- The options are written as the value that they were read from. -/
theorem toJson_of_fromJson {value : Json} {rules : RuleOptions} (h : fromJson value = .ok rules) :
    toJson rules = value := by
  cases value with
  | object members =>
    obtain ⟨_, hmembers, ⟨⟩⟩ := bind_eq_ok_iff.1 h
    exact congrArg Json.object (of_decodeMembers hmembers).1
  | _ => cases h

theorem get?_toJson (rules : RuleOptions) (name : String) :
    (toJson rules).get? name = (rules.get? name).map toJson := by
  obtain ⟨rules⟩ := rules
  show (rules.map _).lookup name = (rules.lookup name).map toJson
  induction rules with
  | nil => rfl
  | cons member rest ih =>
    obtain ⟨key, option⟩ := member
    by_cases h : name = key
    · simp [h]
    · simp [List.lookup_cons, beq_false_of_ne h, ih]

theorem Read.fromJson_toJson {rules : RuleOptions} (h : rules.Read) {name : String}
    {option : RuleOption} (hoption : rules.get? name = some option) :
    fromJson (toJson option) = .ok option := by
  obtain ⟨before, after, hlist, -⟩ := List.lookup_eq_some_iff.1 hoption
  exact h (name, option) (by simp [hlist])

end RuleOptions

/-! ## Fields with a default -/

/-- The member `name` of an object, or the item of an array that stands in its place. -/
def Json.field? (name : String) (index : Nat) : Json → Option Json
  | .object members => members.lookup name
  | .array items => items[index]?
  | _ => none

section
variable {α : Type} [FromJson α] {default a : α}

/-- `a` is read from the value, or is the default if there is none. -/
def IsRead (default : α) : Option Json → α → Prop
  | some value, a => fromJson value = .ok a
  | none, a => a = default

theorem ReadsBack.proper_of_isRead [ToJson α] {p : α → Prop} (h : ReadsBack α p)
    (hdefault : p default) {value? : Option Json} (ha : IsRead default value? a) : p a := by
  cases value? with
  | none =>
    cases ha
    exact hdefault
  | some value => exact h.proper ha

theorem optional_eq_ok_iff {name : String} {members : List (String × Json)} :
    optional name default members = .ok a ↔ IsRead default (members.lookup name) a := by
  rw [optional]
  cases members.lookup name with
  | none => simp [IsRead, eq_comm]
  | some value => exact Iff.rfl

theorem Items.isRead_of_optional {n : Nat} {left : List Json} {state : Nat × List Json}
    (h : Items.optional default (n, left) = .ok (a, state)) :
    IsRead default left.head? a ∧ state = (n + 1, left.tail) := by
  cases left with
  | nil =>
    cases h
    exact ⟨rfl, rfl⟩
  | cons item rest =>
    obtain ⟨_, hitem, ⟨⟩⟩ := Emend.bind_eq_ok_iff.1 h
    exact ⟨hitem, rfl⟩

end

namespace Config

theorem isRead_of_fromJson {value : Json} {config : Config} (h : fromJson value = .ok config) :
    IsRead default.maxIterations (value.field? "max_iterations" 1) config.maxIterations ∧
      IsRead default.rules (value.field? "rules" 3) config.rules := by
  cases value with
  | object members =>
    obtain ⟨_, -, h⟩ := bind_eq_ok_iff.1 h
    obtain ⟨_, -, h⟩ := bind_eq_ok_iff.1 h
    obtain ⟨_, hmax, h⟩ := bind_eq_ok_iff.1 h
    obtain ⟨_, -, h⟩ := bind_eq_ok_iff.1 h
    obtain ⟨_, hrules, h⟩ := bind_eq_ok_iff.1 h
    obtain ⟨_, -, ⟨⟩⟩ := bind_eq_ok_iff.1 h
    exact ⟨optional_eq_ok_iff.1 hmax, optional_eq_ok_iff.1 hrules⟩
  | array items =>
    -- each field takes one item, so what is left is known when the second and the fourth are read
    obtain ⟨_, h⟩ := Items.exists_of_run_eq_ok h
    obtain ⟨_, _, h₀, h⟩ := Items.bind_eq_ok_iff.1 h
    obtain ⟨-, rfl⟩ := Items.isRead_of_optional h₀
    obtain ⟨_, _, h₁, h⟩ := Items.bind_eq_ok_iff.1 h
    obtain ⟨hmax, rfl⟩ := Items.isRead_of_optional h₁
    obtain ⟨_, _, h₂, h⟩ := Items.bind_eq_ok_iff.1 h
    obtain ⟨-, rfl⟩ := Items.isRead_of_optional h₂
    obtain ⟨_, _, h₃, h⟩ := Items.bind_eq_ok_iff.1 h
    obtain ⟨hrules, -⟩ := Items.isRead_of_optional h₃
    obtain ⟨_, _, -, ⟨⟩⟩ := Items.bind_eq_ok_iff.1 h
    simp only [List.head?_eq_getElem?, List.getElem?_tail] at hmax hrules
    exact ⟨hmax, hrules⟩
  | _ => cases h

/-- The rounds are a word and the options of the rules are read. -/
def Read (config : Config) : Prop := config.maxIterations < Word.bound ∧ config.rules.Read

theorem readsBack : ReadsBack Config Read where
  fromJson_toJson := by
    rintro config ⟨hmax, hrules⟩
    have hlocale : ReadsBack (Option String) fun _ => True :=
      (ReadsBack.string.option nofun).of_forall fun _ _ _ => trivial
    show decodeStruct _ _ _ (.object _) = _
    rw [decodeStruct, checkMembers_eq_ok_iff.2,
      SamePointPolicy.readsBack.optional_eq_ok trivial (a := config.policy),
      ReadsBack.nat.optional_eq_ok hmax,
      ReadsBack.strings.optional_eq_ok trivial (a := config.transformers),
      RuleOptions.readsBack.optional_eq_ok hrules,
      hlocale.optional_option_eq_ok trivial (rfl : default.locale = none) (o := config.locale)]
    · rfl
    -- the five fields are looked up among the members, and these are checked
    iterate 5
      · simp [List.lookup_append, List.lookup_cons]
    · simp only [List.forall_mem_append, List.forall_mem_cons, Diagnostic.forall_mem_member?]
      simp +contextual [List.lookup_cons, ReadsBack.nat.check hmax, SamePointPolicy.readsBack.check,
        ReadsBack.strings.check, RuleOptions.readsBack.check hrules, hlocale.check_option]
  proper := by
    intro value config h
    obtain ⟨hmax, hrules⟩ := isRead_of_fromJson h
    have hnone : default.rules.Read := by simp [RuleOptions.Read, default]
    exact ⟨ReadsBack.nat.proper_of_isRead (by decide) hmax,
      RuleOptions.readsBack.proper_of_isRead hnone hrules⟩
  proper_absent := nofun

theorem rules_of_fromJson {value : Json} {config : Config} (h : fromJson value = .ok config) :
    toJson config.rules = (value.field? "rules" 3).getD (.object []) := by
  obtain ⟨-, hrules⟩ := isRead_of_fromJson h
  cases hfield : value.field? "rules" 3 with
  | none =>
    rw [hfield] at hrules
    exact congrArg toJson hrules
  | some x =>
    rw [hfield] at hrules
    exact RuleOptions.toJson_of_fromJson hrules

/-- A configuration that was read is read again from its own form and so says the same of each
rule. The values of the rules stand in that form as they were given, and each of them is read as
the option that it was read as. -/
theorem reread_of_fromJson {value : Json} {config : Config} (h : fromJson value = .ok config) :
    ∃ again : Config, fromJson (toJson config) = .ok again ∧ again = config ∧
      (∀ name, again.isRuleEnabled name = config.isRuleEnabled name ∧
        again.ruleSeverity? name = config.ruleSeverity? name ∧
        again.ruleParameters name = config.ruleParameters name) ∧
      (toJson config).get? "rules" = some ((value.field? "rules" 3).getD (.object [])) ∧
      ∀ name x, (value.field? "rules" 3).bind (Json.get? name) = some x →
        ∃ option : RuleOption, config.rules.get? name = some option ∧
          again.rules.get? name = some option ∧ toJson option = x ∧ fromJson x = .ok option := by
  have hrules := rules_of_fromJson h
  refine ⟨config, readsBack.reread h, rfl, fun name => ⟨rfl, rfl, rfl⟩, ?_, ?_⟩
  · rw [← hrules]
    simp [toJson, Json.get?, List.lookup_append, List.lookup_cons]
  · intro name x hx
    cases hfield : value.field? "rules" 3 with
    | none => simp [hfield] at hx
    | some given =>
      simp only [hfield, Option.getD_some, Option.bind_some] at hrules hx
      rw [← hrules, RuleOptions.get?_toJson, Option.map_eq_some_iff] at hx
      obtain ⟨option, hoption, rfl⟩ := hx
      exact ⟨option, hoption, hoption, rfl, (readsBack.proper h).2.fromJson_toJson hoption⟩

/-- A value of each kind for a rule, in an object without a limit and in an array; neither is the
form that is written. -/
theorem reread_of_fromJson_kinds :
    let rules : Json := .object [("a", .bool false), ("b", .string "warn"), ("c", .null),
      ("d", .array [.bool true, .string "off"]), ("e", .int (-3)),
      ("f", .object [("nested", .object [("on", .null)]), ("severity", .string "info")])]
    let config : Config := { rules := ⟨[("a", .enabled false), ("b", .severity "warn"),
      ("c", .options .null), ("d", .options (.array [.bool true, .string "off"])),
      ("e", .options (.int (-3))), ("f", .options (.object
        [("nested", .object [("on", .null)]), ("severity", .string "info")]))]⟩ }
    let object : Json := .object [("extra", .null), ("locale", .null), ("rules", rules)]
    let items : Json := .array [.string "first-submitted", .int 10, .array [], rules]
    (fromJson object = .ok config ∧ fromJson items = .ok config) ∧
      toJson config ≠ object ∧ fromJson (toJson config) = .ok config ∧
      (toJson config).get? "rules" = some rules := by
  intro rules config object items
  have hobject : fromJson object = .ok config := rfl
  have hitems : fromJson items = .ok config := rfl
  obtain ⟨again, hagain, rfl, -, hrules, -⟩ := reread_of_fromJson hitems
  exact ⟨⟨hobject, hitems⟩, by decide +kernel, hagain, hrules⟩

end Config

end Emend
