import GeneralExecution.Objects.Errors
import GeneralExecution.Primitives.Raising

namespace GeneralExecution

theorem ErrorClass.grandparent_eq {c d : ErrorClass} (h : c.parent.bind parent = some d) :
    d = .valueError := by
  cases c
  all_goals simp_all [parent]

theorem ErrorClass.isA_valueError {c d : ErrorClass} (h : c.IsA d) (hd : d.parent = some .valueError) :
    c.IsA .valueError := by
  obtain rfl | h | h := h
  · exact .inr (.inl hd)
  · exact .inr (.inr (by rw [h, Option.bind_some, hd]))
  · cases grandparent_eq h
    cases hd

-- An exception that no handler of these classes catches.
def PyError.Uncaught (classes : List ErrorClass) (e : PyError) : Prop :=
  ∀ c ∈ classes, ¬e.cls.IsA c

instance (classes : List ErrorClass) (e : PyError) : Decidable (e.Uncaught classes) :=
  inferInstanceAs <| Decidable (∀ c ∈ classes, _)

namespace Py

variable {α β : Type} {x : Py α} {p : PyError → Prop}

-- The call returns a value or raises its own error.
def FailsClosed (cls : ErrorClass) (x : Py α) : Prop :=
  ∀ e, x = .error e → e.cls.IsA cls

theorem failsClosed_iff {cls : ErrorClass} :
    FailsClosed cls x ↔ ¬Except.Raises (PyError.Uncaught [cls]) x := by
  simp [FailsClosed, Except.Raises, PyError.Uncaught]

@[simp]
theorem raises_raise {cls : ErrorClass} {message : String} :
    Except.Raises p (raise cls message : Py α) ↔ p ⟨cls, message⟩ :=
  Except.raises_error

@[simp]
theorem raises_require {c : Prop} [Decidable c] {cls : ErrorClass} {message : String} :
    Except.Raises p (require c cls message) ↔ ¬c ∧ p ⟨cls, message⟩ :=
  Except.raises_ensure

@[simp]
theorem raises_check {c : Prop} [Decidable c] {cls : ErrorClass} {message : String} :
    Except.Raises p (check c cls message) ↔ ¬c ∧ p ⟨cls, message⟩ := by
  unfold check
  split
  case isTrue hc  => exact iff_of_false Except.raises_ok (not_and_of_not_left _ (not_not.mpr hc))
  case isFalse hc => rw [raises_raise, and_iff_right hc]

@[simp]
theorem raises_ofOption {cls : ErrorClass} {message : String} {o : Option α} :
    Except.Raises p (Py.ofOption cls message o) ↔ o = none ∧ p ⟨cls, message⟩ :=
  Except.raises_ofOption

-- A handler lets through what it does not catch, and raises its own error for the rest.
theorem raises_wrap {classes : List ErrorClass} {cls : ErrorClass} {message : String}
    (h : ¬p ⟨cls, message⟩) :
    Except.Raises p (wrap classes cls message x) ↔
      Except.Raises (fun e => e.Uncaught classes ∧ p e) x := by
  cases x
  case ok => simp [wrap]
  case error e =>
    rw [wrap, Except.raises_error]
    split
    case isTrue hc =>
      obtain ⟨c, hc, he⟩ := hc
      rw [raises_raise]
      exact iff_of_false h fun hu => hu.1 c hc he
    case isFalse hc =>
      have hu : e.Uncaught classes := fun c hm he => hc ⟨c, hm, he⟩
      rw [Except.raises_error, and_iff_right hu]

end Py

end GeneralExecution
