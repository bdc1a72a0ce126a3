/-!
# Sequences of units

A document is a list of units, each of a positive weight: the characters of a text with the bytes
they take, or lines, which count one each. An offset is the weight of what stands before it; it is
a boundary if it does not fall inside a unit. Cutting at a boundary (`cut?`) gives the units before
and behind it, and `splice?` replaces those between two boundaries.

## Lemmas

`cut?_eq_some_iff` says that cutting finds the one way to split a sequence at a weight, and
`splice?_eq_some_iff` that replacing does so at the two ends of what it replaces. That is possible
between any two boundaries in order and nowhere else (`isSome_splice?_iff`).
-/

namespace Emend.Units

variable {U : Type} (weight : U → Nat)

/-- The weight of a sequence. -/
def size : List U → Nat
  | [] => 0
  | u :: us => weight u + size us

/-- The units before and behind `offset`, if it falls between two of them or at an end. -/
def cut? : List U → (offset : Nat) → Option (List U × List U)
  | us, 0 => some ([], us)
  | [], _ + 1 => none
  | u :: us, n + 1 =>
    if weight u ≤ n + 1 then (cut? us (n + 1 - weight u)).map fun (p, q) => (u :: p, q) else none

/-- The sequence with the units from `start` to `stop` replaced by `payload`. -/
def splice? (us : List U) (start stop : Nat) (payload : List U) : Option (List U) := do
  let (before, _) ← cut? weight us start
  let (_, behind) ← cut? weight us stop
  if start ≤ stop then some (before ++ payload ++ behind) else none

/-! ## Lemmas -/

@[simp] theorem size_nil : size weight [] = 0 := rfl

@[simp] theorem size_cons (u : U) (us : List U) :
    size weight (u :: us) = weight u + size weight us := rfl

@[simp] theorem size_append (p q : List U) :
    size weight (p ++ q) = size weight p + size weight q := by
  induction p with
  | nil => simp
  | cons u p ih => simp [ih, Nat.add_assoc]

@[simp] theorem cut?_zero (us : List U) : cut? weight us 0 = some ([], us) := by
  cases us <;> rfl

theorem cut?_cons_add {weight : U → Nat} {u : U} (h : 0 < weight u) (us : List U) (n : Nat) :
    cut? weight (u :: us) (weight u + n) = (cut? weight us n).map fun (p, q) => (u :: p, q) := by
  obtain ⟨k, hk⟩ := Nat.exists_eq_succ_of_ne_zero (Nat.pos_iff_ne_zero.1 h)
  have hn : weight u + n = (k + n) + 1 := by omega
  rw [hn, cut?, if_pos (by omega)]
  congr 2
  omega

theorem cut?_eq_some_iff {weight : U → Nat} (h : ∀ u, 0 < weight u) {us p q : List U} {n : Nat} :
    cut? weight us n = some (p, q) ↔ us = p ++ q ∧ size weight p = n := by
  constructor
  · intro hcut
    induction us generalizing n p with
    | nil =>
      cases n with
      | zero => simp_all
      | succ n => simp [cut?] at hcut
    | cons u us ih =>
      cases n with
      | zero =>
        simp only [cut?_zero, Option.some.injEq, Prod.mk.injEq] at hcut
        obtain ⟨rfl, rfl⟩ := hcut
        simp
      | succ n =>
        rw [cut?] at hcut
        split at hcut
        · next hu =>
          obtain ⟨⟨p', q'⟩, h1, h2⟩ := Option.map_eq_some_iff.1 hcut
          simp only [Prod.mk.injEq] at h2
          obtain ⟨rfl, rfl⟩ := h2
          obtain ⟨rfl, h3⟩ := ih h1
          refine ⟨rfl, ?_⟩
          simp only [size_cons, h3]
          omega
        · cases hcut
  · rintro ⟨rfl, rfl⟩
    induction p with
    | nil => simp
    | cons u p ih => simp [cut?_cons_add (h u), ih]

section
variable {weight : U → Nat} (hw : ∀ u, 0 < weight u)

include hw

theorem size_eq_zero_iff {us : List U} : size weight us = 0 ↔ us = [] := by
  cases us with
  | nil => simp
  | cons u us =>
    have := hw u
    simp only [size_cons, reduceCtorEq, iff_false]
    omega

theorem isSome_cut?_iff {us : List U} {n : Nat} :
    (cut? weight us n).isSome ↔ ∃ p q, us = p ++ q ∧ size weight p = n := by
  rw [Option.isSome_iff_exists]
  constructor
  · rintro ⟨⟨p, q⟩, h⟩
    exact ⟨p, q, (cut?_eq_some_iff hw).1 h⟩
  · rintro ⟨p, q, h⟩
    exact ⟨(p, q), (cut?_eq_some_iff hw).2 h⟩

/-- What may be cut behind `p` does not depend on `p`. -/
theorem cut?_append (p q : List U) (n : Nat) :
    cut? weight (p ++ q) (size weight p + n) =
      (cut? weight q n).map fun (r, t) => (p ++ r, t) := by
  induction p with
  | nil => simp
  | cons u p ih =>
    rw [List.cons_append, size_cons, Nat.add_assoc, cut?_cons_add (hw u), ih, Option.map_map]
    rfl

/-- Of two cuts the one at the lesser offset stands before the other. -/
theorem exists_between {p q p' q' : List U} (h : p ++ q = p' ++ q')
    (hle : size weight p ≤ size weight p') : ∃ m, p' = p ++ m ∧ q = m ++ q' := by
  rcases List.append_eq_append_iff.1 h with ⟨m, h1, h2⟩ | ⟨m, h1, h2⟩
  · exact ⟨m, h1, h2⟩
  · have hm : size weight m = 0 := by
      rw [h1, size_append] at hle
      omega
    rw [size_eq_zero_iff hw] at hm
    subst hm
    exact ⟨[], by simpa using h1.symm, by simpa using h2.symm⟩

theorem splice?_append (p m q payload : List U) :
    splice? weight (p ++ m ++ q) (size weight p) (size weight (p ++ m)) payload =
      some (p ++ payload ++ q) := by
  have h1 : cut? weight (p ++ m ++ q) (size weight p) = some (p, m ++ q) :=
    (cut?_eq_some_iff hw).2 ⟨List.append_assoc p m q, rfl⟩
  have h2 : cut? weight (p ++ m ++ q) (size weight (p ++ m)) = some (p ++ m, q) :=
    (cut?_eq_some_iff hw).2 ⟨rfl, rfl⟩
  have hle : size weight p ≤ size weight (p ++ m) := by
    rw [size_append]
    omega
  rw [splice?, h1, h2]
  show (if _ then _ else _) = _
  rw [if_pos hle]

/-- What may be cut in front does not depend on what stands behind. -/
theorem isSome_cut?_append (p q : List U) {n : Nat} (h : n ≤ size weight p) :
    (cut? weight (p ++ q) n).isSome = (cut? weight p n).isSome := by
  apply Bool.eq_iff_iff.2
  rw [isSome_cut?_iff hw, isSome_cut?_iff hw]
  constructor
  · rintro ⟨r, t, hcut, rfl⟩
    obtain ⟨m, hm, -⟩ := exists_between hw hcut.symm h
    exact ⟨r, m, hm, rfl⟩
  · rintro ⟨r, t, rfl, hsize⟩
    exact ⟨r, t ++ q, List.append_assoc r t q, hsize⟩

/-- Between two boundaries in order the units can be replaced. -/
theorem exists_splice? {us : List U} {start stop : Nat} (h : start ≤ stop)
    (hstart : (cut? weight us start).isSome) (hstop : (cut? weight us stop).isSome)
    (payload : List U) :
    ∃ p m q, us = p ++ m ++ q ∧ size weight p = start ∧ size weight (p ++ m) = stop ∧
      splice? weight us start stop payload = some (p ++ payload ++ q) := by
  obtain ⟨p, q, rfl, rfl⟩ := (isSome_cut?_iff hw).1 hstart
  obtain ⟨p', q', hcut, rfl⟩ := (isSome_cut?_iff hw).1 hstop
  obtain ⟨m, rfl, rfl⟩ := exists_between hw hcut h
  rw [hcut]
  exact ⟨p, m, q', rfl, rfl, rfl, splice?_append hw p m q' payload⟩

/-- Nothing else can be replaced. -/
theorem isSome_splice?_iff {us : List U} {start stop : Nat} (payload : List U) :
    (splice? weight us start stop payload).isSome ↔
      start ≤ stop ∧ (cut? weight us start).isSome ∧ (cut? weight us stop).isSome := by
  constructor
  · intro h
    unfold splice? at h
    cases hstart : cut? weight us start with
    | none => simp [hstart] at h
    | some before =>
      cases hstop : cut? weight us stop with
      | none => simp [hstart, hstop] at h
      | some behind => simpa [hstart, hstop] using h
  · rintro ⟨hle, hstart, hstop⟩
    obtain ⟨p, m, q, -, -, -, hsplice⟩ := exists_splice? hw hle hstart hstop payload
    rw [hsplice]
    rfl

/-- Replacing is possible where the sequence falls apart into three, and replaces the second of
the parts. -/
theorem splice?_eq_some_iff {us next payload : List U} {start stop : Nat} :
    splice? weight us start stop payload = some next ↔
      ∃ p m q, us = p ++ m ++ q ∧ size weight p = start ∧ size weight (p ++ m) = stop ∧
        next = p ++ payload ++ q := by
  constructor
  · intro h
    obtain ⟨hle, hstart, hstop⟩ := (isSome_splice?_iff hw payload).1 (Option.isSome_of_eq_some h)
    obtain ⟨p, m, q, hus, hp, hm, hsplice⟩ := exists_splice? hw hle hstart hstop payload
    exact ⟨p, m, q, hus, hp, hm, Option.some.inj (h.symm.trans hsplice)⟩
  · rintro ⟨p, m, q, rfl, rfl, rfl, rfl⟩
    exact splice?_append hw p m q payload

end

end Emend.Units
