/-!
# Pieces of text

A text is cut at every occurrence of a separating character, so that `n` separators make `n + 1`
pieces, some of them perhaps empty; joining the pieces with the separator gives the text back.

## Lemmas

`joinPieces_pieces` is the way back to the text; `pieces_ne_nil` and `notMem_of_mem_pieces`
describe the lists that come from a text, and `pieces_joinPieces` says that these are all.
-/

namespace Emend.Text

/-- The pieces of `cs` between the occurrences of `sep`. -/
def pieces (sep : Char) : List Char → List (List Char)
  | [] => [[]]
  | c :: cs =>
    if c = sep then [] :: pieces sep cs
    else
      match pieces sep cs with
      | [] => [[c]]
      | piece :: rest => (c :: piece) :: rest

/-- The pieces with `sep` between each two. -/
def joinPieces (sep : Char) : List (List Char) → List Char
  | [] => []
  | [piece] => piece
  | piece :: rest => piece ++ sep :: joinPieces sep rest

/-! ## Lemmas -/

variable {sep : Char}

theorem pieces_ne_nil (sep : Char) (cs : List Char) : pieces sep cs ≠ [] := by
  cases cs with
  | nil => simp [pieces]
  | cons c cs =>
    rw [pieces]
    split
    · simp
    · split <;> simp

theorem joinPieces_cons {piece : List Char} {rest : List (List Char)} (h : rest ≠ []) :
    joinPieces sep (piece :: rest) = piece ++ sep :: joinPieces sep rest := by
  cases rest with
  | nil => exact absurd rfl h
  | cons => rfl

theorem joinPieces_cons_cons (c : Char) (piece : List Char) (rest : List (List Char)) :
    joinPieces sep ((c :: piece) :: rest) = c :: joinPieces sep (piece :: rest) := by
  cases rest <;> rfl

@[simp] theorem joinPieces_pieces (sep : Char) (cs : List Char) :
    joinPieces sep (pieces sep cs) = cs := by
  induction cs with
  | nil => rfl
  | cons c cs ih =>
    rw [pieces]
    split
    · next h =>
      rw [joinPieces_cons (pieces_ne_nil sep cs), ih, h, List.nil_append]
    · split
      · next h => exact absurd h (pieces_ne_nil sep cs)
      · next h => rw [joinPieces_cons_cons, ← h, ih]

theorem notMem_of_mem_pieces {cs piece : List Char} (h : piece ∈ pieces sep cs) :
    sep ∉ piece := by
  induction cs generalizing piece with
  | nil => simp_all [pieces]
  | cons c cs ih =>
    rw [pieces] at h
    split at h
    · rcases List.mem_cons.1 h with rfl | h
      · simp
      · exact ih h
    · next hc =>
      split at h
      · simp_all [Ne.symm hc]
      · next heq =>
        rcases List.mem_cons.1 h with rfl | h
        · have := ih (heq ▸ List.mem_cons_self)
          simp [this, Ne.symm hc]
        · exact ih (heq ▸ List.mem_cons_of_mem _ h)

theorem pieces_of_notMem {piece : List Char} (h : sep ∉ piece) : pieces sep piece = [piece] := by
  induction piece with
  | nil => rfl
  | cons c piece ih =>
    rw [List.mem_cons, not_or] at h
    rw [pieces, if_neg (Ne.symm h.1), ih h.2]

theorem pieces_append_cons {piece : List Char} (h : sep ∉ piece) (cs : List Char) :
    pieces sep (piece ++ sep :: cs) = piece :: pieces sep cs := by
  induction piece with
  | nil => simp [pieces]
  | cons c piece ih =>
    rw [List.mem_cons, not_or] at h
    rw [List.cons_append, pieces, if_neg (Ne.symm h.1), ih h.2]

theorem pieces_joinPieces {list : List (List Char)} (hne : list ≠ [])
    (h : ∀ piece ∈ list, sep ∉ piece) : pieces sep (joinPieces sep list) = list := by
  induction list with
  | nil => exact absurd rfl hne
  | cons piece rest ih =>
    by_cases hr : rest = []
    · subst hr
      exact pieces_of_notMem (h piece List.mem_cons_self)
    · rw [joinPieces_cons hr, pieces_append_cons (h piece List.mem_cons_self),
        ih hr fun p hp => h p (List.mem_cons_of_mem _ hp)]

end Emend.Text
