import Emend.FileRun

/-!
# Parts of a run

`exec` is what a part of a run makes of a session. A part that goes on with another one does so
with the session as the first has left it, and not at all if the first ends in an error
(`exec_bind`). What is said of the errors of a part whatever it starts with (`FailsOnlyBy`) is put
together from its parts in the same way.
-/

namespace Emend

namespace FileRun

variable {α β : Type}

/-- What the part returns when it starts with the session, and the session it leaves. -/
def exec (part : Run α) (session : Session) : Except EngineError α × Session :=
  part.run.run session

section
variable (session : Session)

@[simp]
theorem exec_pure (a : α) : exec (pure a) session = (.ok a, session) := rfl

@[simp]
theorem exec_throw (e : EngineError) : exec (throw e : Run α) session = (.error e, session) := rfl

@[simp]
theorem exec_get : exec get session = (.ok session, session) := rfl

@[simp]
theorem exec_set (session' : Session) : exec (set session') session = (.ok ⟨⟩, session') := rfl

@[simp]
theorem exec_tell (events : List Event) :
    exec (tell events) session = (.ok (), ⟨session.files, session.log ++ events⟩) := rfl

theorem exec_bind (part : Run α) (next : α → Run β) :
    exec (part >>= next) session =
      match exec part session with
      | (.ok a, session') => exec (next a) session'
      | (.error e, session') => (.error e, session') := by
  unfold exec
  rw [ExceptT.run_bind, StateT.run_bind]
  generalize part.run.run session = done
  obtain ⟨result, session'⟩ := done
  cases result <;> rfl

end

/-- A look-up that succeeds is as good as its result. -/
theorem mk_ok_bind (a : α) (next : α → Run β) :
    (ExceptT.mk (pure (.ok a)) >>= next : Run β) = next a := rfl

/-! ## The errors of a part -/

/-- Whatever session the part starts with, if it ends in an error, then in one with the `cause`. -/
def FailsOnlyBy (part : Run α) (cause : EngineError → Prop) : Prop :=
  ∀ session e, (exec part session).1 = .error e → cause e

namespace FailsOnlyBy

variable {cause : EngineError → Prop}

theorem pure (a : α) : FailsOnlyBy (Pure.pure a) cause := by
  simp [FailsOnlyBy]

theorem throw {e : EngineError} (h : cause e) : FailsOnlyBy (throw e : Run α) cause := by
  simpa [FailsOnlyBy] using fun _ => h

theorem get : FailsOnlyBy get cause := by
  simp [FailsOnlyBy]

theorem set (session : Session) : FailsOnlyBy (set session) cause := by
  simp [FailsOnlyBy]

theorem tell (events : List Event) : FailsOnlyBy (tell events) cause := by
  simp [FailsOnlyBy]

theorem bind {part : Run α} {next : α → Run β} (h : FailsOnlyBy part cause)
    (hnext : ∀ a, FailsOnlyBy (next a) cause) : FailsOnlyBy (part >>= next) cause := by
  intro session e he
  rw [exec_bind] at he
  cases hpart : exec part session with
  | mk result session' =>
    rw [hpart] at he
    cases result with
    | error e' =>
      cases he
      exact h session e (by rw [hpart])
    | ok a => exact hnext a session' e he

end FailsOnlyBy

end FileRun

end Emend
