import Emend.Diagnostic

/-!
# Values that are read back

A type reads back if every proper value is what is read from its own JSON form, and only proper
values are read from any JSON at all (`ReadsBack`). So what has once been read can be written and
read again as often as one likes (`ReadsBack.reread`), however the JSON it came from was written.

Words, strings, lists and options read back. A structure does if its fields do: all that its reader
can come to is made of values of the fields, whether these are members of an object or items of an
array (`yields_decodeStruct`), and its form has a member for each field that needs one
(`checkMembers_eq_ok_iff`, `ReadsBack.required_eq_ok`).
-/

namespace Emend

/-- The proper values are read from their own JSON form, and only these are read at all. A value
that stands for a field which is not there is proper too. -/
structure ReadsBack (α : Type) [ToJson α] [FromJson α] (Proper : α → Prop) : Prop where
  fromJson_toJson : ∀ {a}, Proper a → fromJson (toJson a) = .ok a
  proper : ∀ {value a}, fromJson value = .ok a → Proper a
  proper_absent : ∀ {a}, FromJson.absent? = some a → Proper a

/-! ## What a reader can come to -/

theorem bind_eq_ok_iff {ε α β : Type} {x : Except ε α} {f : α → Except ε β} {b : β} :
    x >>= f = .ok b ↔ ∃ a, x = .ok a ∧ f a = .ok b := by
  cases x <;> simp [bind, Except.bind]

section
variable {ε α β : Type} {p : α → Prop} {q : β → Prop}

/-- If it has a result, that satisfies `p`. -/
def Yields (x : Except ε α) (p : α → Prop) : Prop := ∀ a, x = .ok a → p a

theorem Yields.pure {a : α} (h : p a) : Yields (Pure.pure a : Except ε α) p := by
  rintro _ ⟨⟩
  exact h

theorem Yields.bind {x : Except ε α} {f : α → Except ε β} (hx : Yields x p)
    (hf : ∀ a, p a → Yields (f a) q) : Yields (x >>= f) q := by
  intro b hb
  obtain ⟨a, ha, hb⟩ := bind_eq_ok_iff.1 hb
  exact hf a (hx a ha) b hb

theorem yields_true (x : Except ε α) : Yields x fun _ => True := fun _ _ => trivial

namespace Items

theorem bind_eq_ok_iff {reader : Items α} {f : α → Items β} {state : Nat × List Json}
    {out : β × Nat × List Json} :
    (reader >>= f) state = .ok out ↔
      ∃ a state', reader state = .ok (a, state') ∧ f a state' = .ok out :=
  Emend.bind_eq_ok_iff.trans Prod.exists

/-- If it has a result, whatever items are left, that satisfies `p`. -/
def Yields (reader : Items α) (p : α → Prop) : Prop :=
  ∀ left a left', reader left = .ok (a, left') → p a

theorem Yields.pure {a : α} (h : p a) : Yields (Pure.pure a) p := by
  rintro left _ _ ⟨⟩
  exact h

theorem Yields.bind {reader : Items α} {f : α → Items β} (hreader : reader.Yields p)
    (hf : ∀ a, p a → (f a).Yields q) : (reader >>= f).Yields q := by
  intro left b left' hb
  obtain ⟨a, mid, ha, hb⟩ := bind_eq_ok_iff.1 hb
  exact hf a (hreader left a mid ha) mid b left' hb

theorem yields_true (reader : Items α) : reader.Yields fun _ => True := fun _ _ _ _ => trivial

theorem exists_of_run_eq_ok {reader : Items α} {items : List Json} {a : α}
    (h : reader.run items = .ok a) : ∃ left, reader (0, items) = .ok (a, left) := by
  obtain ⟨⟨_, _, rest⟩, hread, hrest⟩ := Emend.bind_eq_ok_iff.1 h
  dsimp only at hrest
  split at hrest
  · cases hrest
    exact ⟨_, hread⟩
  · cases hrest

end Items

/-- Whether it reads the members of an object or the items of an array. -/
theorem yields_decodeStruct {name : String}
    {ofMembers : List (String × Json) → Except DecodeError α} {ofItems : Items α}
    (hmembers : ∀ members, Yields (ofMembers members) p)
    (hitems : ofItems.Yields p) (value : Json) :
    Yields (decodeStruct name ofMembers ofItems value) p := by
  cases value with
  | object members => exact hmembers members
  | array items =>
    intro a ha
    obtain ⟨left, ha⟩ := Items.exists_of_run_eq_ok ha
    exact hitems _ a left ha
  | _ => nofun

end

/-! ## Members and items -/

/-- The members pass if each of them that is a field can be read. -/
theorem checkMembers_eq_ok_iff {fields : List (String × Check)} {members : List (String × Json)} :
    checkMembers fields members = .ok () ↔
      ∀ member ∈ members, ∀ check ∈ fields.lookup member.1, check member.2 = .ok () := by
  induction members with
  | nil => simp [checkMembers]
  | cons member rest ih =>
    obtain ⟨key, value⟩ := member
    rw [List.forall_mem_cons, ← ih, checkMembers]
    cases fields.lookup key with
    | none => simp
    | some check =>
      -- of a key that is a field the check comes first, and its error is the error
      show (check value >>= fun _ => checkMembers fields rest) = _ ↔ _
      rw [bind_eq_ok_iff]
      constructor
      · rintro ⟨⟨⟩, hcheck, hrest⟩
        exact ⟨by simpa using hcheck, hrest⟩
      · rintro ⟨hcheck, hrest⟩
        exact ⟨(), hcheck check rfl, hrest⟩

namespace ReadsBack

variable {α : Type} [ToJson α] [FromJson α] {p : α → Prop}

/-- What has been read from any JSON is read again from its own form. -/
theorem reread (h : ReadsBack α p) {value : Json} {a : α} (ha : fromJson value = .ok a) :
    fromJson (toJson a) = .ok a :=
  h.fromJson_toJson (h.proper ha)

theorem of_forall (h : ReadsBack α p) (hp : ∀ a, p a) : ReadsBack α fun _ => True where
  fromJson_toJson := fun _ => h.fromJson_toJson (hp _)
  proper := fun _ => trivial
  proper_absent := fun _ => trivial

theorem check (h : ReadsBack α p) {a : α} (ha : p a) : Check.of α (toJson a) = .ok () := by
  show (fromJson (toJson a) >>= fun _ => _) = _
  rw [h.fromJson_toJson ha]
  rfl

theorem required_eq_ok (h : ReadsBack α p) {a : α} (ha : p a) {name : String}
    {members : List (String × Json)} (hlookup : members.lookup name = some (toJson a)) :
    required name members = .ok a := by
  rw [required, hlookup]
  exact h.fromJson_toJson ha

theorem optional_eq_ok (h : ReadsBack α p) {a default : α} (ha : p a) {name : String}
    {members : List (String × Json)} (hlookup : members.lookup name = some (toJson a)) :
    optional name default members = .ok a := by
  rw [optional, hlookup]
  exact h.fromJson_toJson ha

theorem yields_required (h : ReadsBack α p) (name : String) (members : List (String × Json)) :
    Yields (required name members : Except DecodeError α) p := by
  intro a ha
  rw [required] at ha
  split at ha
  · exact h.proper ha
  · next habsent =>
    cases ha
    exact h.proper_absent habsent
  · cases ha

theorem yields_items_required (h : ReadsBack α p) (expected : String) :
    (Items.required expected : Items α).Yields p := by
  rintro ⟨n, left⟩ a left' ha
  cases left with
  | nil => cases ha
  | cons item rest =>
    obtain ⟨_, hitem, ⟨⟩⟩ := bind_eq_ok_iff.1 ha
    exact h.proper hitem

/-! ## Words, strings, lists and options -/

theorem nat : ReadsBack Nat (· < Word.bound) where
  fromJson_toJson := by
    intro n hn
    show (if 0 ≤ (n : Int) ∧ (n : Int) < Word.bound then _ else _) = _
    rw [if_pos (by omega)]
    rfl
  proper := by
    intro value n h
    cases value with
    | int k =>
      change (if 0 ≤ k ∧ k < Word.bound then _ else _) = _ at h
      split at h
      · cases h
        omega
      · cases h
    | _ => cases h
  proper_absent := nofun

theorem string : ReadsBack String fun _ => True where
  fromJson_toJson := fun _ => rfl
  proper := fun _ => trivial
  proper_absent := fun _ => trivial

theorem list (h : ReadsBack α p) : ReadsBack (List α) fun as => ∀ a ∈ as, p a where
  fromJson_toJson := by
    intro as has
    show decodeItems (as.map toJson) = .ok as
    induction as with
    | nil => rfl
    | cons a as ih =>
      obtain ⟨ha, has⟩ := List.forall_mem_cons.1 has
      rw [List.map_cons, decodeItems, h.fromJson_toJson ha, ih has]
      rfl
  proper := by
    intro value as has
    cases value with
    | array items =>
      change decodeItems items = .ok as at has
      induction items generalizing as with
      | nil =>
        cases has
        nofun
      | cons item rest ih =>
        obtain ⟨a, ha, hcons⟩ := bind_eq_ok_iff.1 has
        obtain ⟨rest, hrest, ⟨⟩⟩ := bind_eq_ok_iff.1 hcons
        exact List.forall_mem_cons.2 ⟨h.proper ha, ih hrest⟩
    | _ => cases has
  proper_absent := nofun

theorem strings : ReadsBack (List String) fun _ => True :=
  string.list.of_forall fun _ _ _ => trivial

omit [ToJson α] in
theorem fromJson_option {value : Json} (h : value ≠ .null) :
    (fromJson value : Except DecodeError (Option α)) =
      fromJson value >>= fun a => return some a := by
  cases value with
  | null => exact absurd rfl h
  | _ => rfl

/-- An option reads back if no value is written as `null`, which stands for none. -/
theorem option (h : ReadsBack α p) (hnull : ∀ a : α, toJson a ≠ .null) :
    ReadsBack (Option α) fun o => ∀ a ∈ o, p a where
  fromJson_toJson := by
    intro o ho
    cases o with
    | none => rfl
    | some a =>
      show fromJson (toJson a) = _
      rw [fromJson_option (hnull a), h.fromJson_toJson (ho a rfl)]
      rfl
  proper := by
    intro value o ho
    by_cases hvalue : value = .null
    · subst hvalue
      cases ho
      nofun
    · rw [fromJson_option hvalue] at ho
      obtain ⟨a, ha, ⟨⟩⟩ := bind_eq_ok_iff.1 ho
      rintro _ ⟨⟩
      exact h.proper ha
  proper_absent := by
    rintro _ ⟨⟩
    nofun

/-! ## Members that may be left out -/

section
variable {p : Option α → Prop}

theorem check_option (h : ReadsBack (Option α) p) {a : α} (ha : p (some a)) :
    Check.of (Option α) (toJson a) = .ok () :=
  h.check ha

theorem required_option_eq_ok (h : ReadsBack (Option α) p) {o : Option α} (ho : p o) {name : String}
    {members : List (String × Json)} (hlookup : members.lookup name = o.map toJson) :
    required name members = .ok o := by
  cases o with
  | none =>
    rw [required, hlookup]
    rfl
  | some a => exact h.required_eq_ok ho hlookup

theorem optional_option_eq_ok (h : ReadsBack (Option α) p) {o default : Option α} (ho : p o)
    (hdefault : default = none) {name : String} {members : List (String × Json)}
    (hlookup : members.lookup name = o.map toJson) : optional name default members = .ok o := by
  cases o with
  | none =>
    rw [optional, hlookup, hdefault]
    rfl
  | some a => exact h.optional_eq_ok ho hlookup

end

end ReadsBack

namespace Diagnostic

variable {α : Type} [ToJson α] {key : String} {o : Option α}

@[simp] theorem lookup_member? {name : String} :
    (member? key o).lookup name = if name = key then o.map toJson else none := by
  by_cases h : name = key
  · cases o <;> simp [member?, h]
  · cases o <;> simp [member?, List.lookup_cons, h, beq_false_of_ne h]

theorem forall_mem_member? {P : String × Json → Prop} :
    (∀ member ∈ member? key o, P member) ↔ ∀ a ∈ o, P (key, toJson a) := by
  cases o <;> simp [member?]

end Diagnostic

end Emend
