import Emend.Digest.Blake3
import Emend.Document
import Emend.Log

/-!
# The fix loop

A step is repeated until it reports that nothing changed, until a content comes back that was seen
before, or until the allowed number of rounds is used up. Contents are told apart by a fingerprint.

## Algorithm

`FixLoop.rounds` counts the rounds left and keeps the fingerprints seen, the newest first; where
the new fingerprint stands in that list, counted from one, is the length of the cycle.
-/

namespace Emend

/-- How a loop ended. -/
inductive LoopEnd where
  /-- The last of so many rounds changed nothing. -/
  | converged (rounds : Nat)
  /-- The allowed rounds are used up. -/
  | exhausted (rounds : Nat)
  /-- The content is the one of so many rounds before. -/
  | cycle (length : Nat)
  deriving DecidableEq

namespace LoopEnd

/-- The number of rounds, unless a cycle was found. -/
def rounds? : LoopEnd → Option Nat
  | converged rounds | exhausted rounds => some rounds
  | cycle _ => none

/-- Did the loop end because nothing was left to change? -/
def isConverged : LoopEnd → Bool
  | converged _ => true
  | _ => false

/-- What the log says about the end of a loop over the file at `path`. -/
def event (path : Path) : LoopEnd → Event
  | converged rounds => .converged path rounds
  | exhausted rounds => .exhausted path rounds
  | cycle length => .cycle path length

instance : ToJson LoopEnd where
  toJson
    | converged rounds =>
      .object [("iterations", toJson rounds), ("status", .string "converged")]
    | exhausted rounds =>
      .object [("iterations", toJson rounds), ("status", .string "max_iterations_reached")]
    | cycle length =>
      .object [("cycle_length", toJson length), ("status", .string "cycle_detected")]

end LoopEnd

/-- What a step returns: whether it changed anything or why it failed, the content it leaves and
its own state. -/
structure Stepped (σ ε D : Type) where
  result : Except ε Bool
  content : D
  state : σ

/-- What a loop leaves. -/
structure Looped (σ ε D : Type) where
  result : Except ε LoopEnd
  content : D
  state : σ

namespace FixLoop

variable {σ ε D H : Type}

/-- The number of rounds allowed where nothing else is said. -/
def defaultLimit : Nat := 10

/-- A limit allows at least one round. -/
def atLeastOne (limit : Nat) : Nat := max 1 limit

/-- Up to `left` more rounds after `done` ones; `seen` holds the fingerprints so far, the newest
first. -/
def rounds [DecidableEq H] (digest : D → H) (step : σ → D → Stepped σ ε D) :
    (left done : Nat) → (seen : List H) → σ → D → Looped σ ε D
  | 0, done, _, state, content => ⟨.ok (.exhausted done), content, state⟩
  | left + 1, done, seen, state, content =>
    let next := step state content
    match next.result with
    | .error e => ⟨.error e, next.content, next.state⟩
    | .ok false => ⟨.ok (.converged (done + 1)), next.content, next.state⟩
    | .ok true =>
      let current := digest next.content
      match seen.idxOf? current with
      | some i => ⟨.ok (.cycle (i + 1)), next.content, next.state⟩
      | none => rounds digest step left (done + 1) (current :: seen) next.state next.content

/-- Repeats the step, at least once and at most `limit` times. -/
def run [DecidableEq H] (digest : D → H) (limit : Nat) (step : σ → D → Stepped σ ε D)
    (state : σ) (content : D) : Looped σ ε D :=
  rounds digest step (atLeastOne limit) 0 [digest content] state content

end FixLoop

/-- The fingerprint of a document. -/
def Shape.fingerprint (s : Shape) (doc : s.Doc) : List UInt8 := Digest.Blake3.hash (s.content doc)

end Emend
