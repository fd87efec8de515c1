import GeneralExecution.Primitives.Checks
import GeneralExecution.Primitives.JsonObject
import GeneralExecution.Objects.Canonical

namespace GeneralExecution

inductive ErrorClass
  | typeError
  | keyError
  | attributeError
  | overflowError
  | recursionError
  | jsonDecodeError
  | unicodeEncodeError
  | integrityError
  | assertionError
  | valueError
  | capacityError
  | durableCapacityError
  | physicalAttemptError
  | adapterError
  | sessionError
  | dispatchIntentError
  | physicalOutcomeCodecError
  | reconciliationError
  | conformanceError
  | sessionRecoveryError
  | recoveryDriverError
  | portfolioStateError
  | portfolioPersistenceError
  | executionCheckpointError
  | transitionPolicyError
  | aspTransitionError
  | signalAspTransitionError
  | resumeTickError
  | triggerAdmissionError
  | humanGateDecisionError
  | persistentRuntimeError
  | persistentBurstHostError
  | persistentAuthLeaseError
  | humanAuthorityError
  | executionLaunchAdmissionError
  | executorActivationError
  | workEscalationError
  | workEscalationBudgetExhausted
  | workSparseError
  | predictiveSovereignError
  | providerPortabilityError
  | holisticSymbiosisError
  | executionProtocolError
  | abundantResourceError
  | autonomousBurstError
  | providerHostError
  | providerConditionNotSatisfied
  | workstreamResultHandoffError
  | verificationEscalationError
  | conformanceHarnessError
  | retryAuthorityError
  | backupContractError
deriving DecidableEq, Repr

namespace ErrorClass

def parent : ErrorClass → Option ErrorClass
  | typeError | keyError | attributeError | overflowError | recursionError | integrityError
  | assertionError | valueError => none
  | durableCapacityError => capacityError
  | workEscalationBudgetExhausted => workEscalationError
  | providerConditionNotSatisfied => providerHostError
  | _ => valueError

-- `isinstance` of an exception.
def IsA (c d : ErrorClass) : Prop :=
  c = d ∨ c.parent = some d ∨ c.parent.bind parent = some d

instance (c d : ErrorClass) : Decidable (c.IsA d) :=
  inferInstanceAs <| Decidable (_ ∨ _ ∨ _)

end ErrorClass

structure PyError where
  cls     : ErrorClass
  message : String
deriving DecidableEq, Repr

abbrev Py (α : Type) := Except PyError α

namespace Py

variable {α β : Type}

def raise (cls : ErrorClass) (message : String) : Py α :=
  .error ⟨cls, message⟩

@[simp]
theorem raise_eq_ok {cls : ErrorClass} {message : String} {a : α} :
    (raise cls message : Py α) = .ok a ↔ False := by
  simp [raise]

-- `if not c: raise cls(message)`
def require (c : Prop) [Decidable c] (cls : ErrorClass) (message : String) : Py Unit :=
  .ensure c ⟨cls, message⟩

@[simp]
theorem require_eq_ok {c : Prop} [Decidable c] {cls : ErrorClass} {message : String} {u : Unit} :
    require c cls message = .ok u ↔ c :=
  Except.ensure_eq_ok

theorem require_of {c : Prop} [Decidable c] (h : c) (cls : ErrorClass) (message : String) :
    require c cls message = .ok () :=
  Except.ensure_of h

theorem require_of_not {c : Prop} [Decidable c] (h : ¬c) (cls : ErrorClass) (message : String) :
    (require c cls message : Py Unit) = raise cls message := by
  rw [require, Except.ensure, if_neg h]
  rfl

theorem require_congr {c c' : Prop} [Decidable c] [Decidable c'] (h : c ↔ c') (cls : ErrorClass)
    (message : String) : require c cls message = require c' cls message := by
  unfold require Except.ensure
  by_cases hc : c
  case pos => rw [if_pos hc, if_pos (h.mp hc)]
  case neg => rw [if_neg hc, if_neg (h.not.mp hc)]

-- `if o is None: raise cls(message)`
def ofOption (cls : ErrorClass) (message : String) (o : Option α) : Py α :=
  Except.ofOption ⟨cls, message⟩ o

@[simp]
theorem ofOption_eq_ok {cls : ErrorClass} {message : String} {o : Option α} {a : α} :
    Py.ofOption cls message o = .ok a ↔ o = some a :=
  Except.ofOption_eq_ok

-- The same guard in a constructor, which keeps what it has checked.
def check (c : Prop) [Decidable c] (cls : ErrorClass) (message : String) : Py (PLift c) :=
  if h : c then .ok ⟨h⟩ else raise cls message

theorem check_of {c : Prop} [Decidable c] {cls : ErrorClass} {message : String} (h : c) :
    check c cls message = .ok ⟨h⟩ :=
  dif_pos h

-- A string that has to be one of the values of a `Literal`.
def literal [PyLiteral α] (message s : String) : Py α :=
  Py.ofOption .valueError message (PyLiteral.parse? s)

@[simp]
theorem literal_spelling [PyLiteral α] (message : String) (a : α) :
    literal message (PyLiteral.spelling a) = .ok a :=
  Py.ofOption_eq_ok.mpr (PyLiteral.parse_spelling a)

-- `except classes as exc: raise cls(message) from exc`
def wrap (classes : List ErrorClass) (cls : ErrorClass) (message : String) : Py α → Py α
  | .ok a    => .ok a
  | .error e => if ∃ c ∈ classes, e.cls.IsA c then raise cls message else .error e

@[simp]
theorem wrap_eq_ok {classes : List ErrorClass} {cls : ErrorClass} {message : String} {x : Py α}
    {a : α} : wrap classes cls message x = .ok a ↔ x = .ok a := by
  cases x
  case ok    => simp [wrap]
  case error =>
    simp only [wrap]
    split <;> simp

end Py

-- The same check of several named values; the first one that fails gives the message.
def checkAll {α : Type} (p : α → Prop) [DecidablePred p] (message : String → α → String)
    (xs : List (String × α)) : Py (PLift (∀ x ∈ xs, p x.2)) :=
  match h : xs.find? fun x => ¬p x.2 with
  | some x => Py.raise .valueError (message x.1 x.2)
  | none   => .ok ⟨fun x hx => by simpa using List.find?_eq_none.mp h x hx⟩

theorem checkAll_of {α : Type} {p : α → Prop} [DecidablePred p] {message : String → α → String}
    {xs : List (String × α)} (h : ∀ x ∈ xs, p x.2) : checkAll p message xs = .ok ⟨h⟩ := by
  unfold checkAll
  split
  case h_1 x hx => exact absurd (h x <| List.mem_of_find?_eq_some hx) (by simpa using List.find?_some hx)
  case h_2      => rfl

-- `_nonempty`
def checkNonempty (xs : List (String × String)) : Py (PLift (∀ x ∈ xs, ¬Text.Blank x.2)) :=
  checkAll (¬Text.Blank ·) (fun name _ => name ++ " must be non-empty") xs

theorem checkNonempty_of {xs : List (String × String)} (h : ∀ x ∈ xs, ¬Text.Blank x.2) :
    checkNonempty xs = .ok ⟨h⟩ :=
  checkAll_of h

-- `if not value: raise`
def checkTruthy (xs : List (String × String)) : Py (PLift (∀ x ∈ xs, x.2 ≠ "")) :=
  checkAll (· ≠ "") (fun name _ => name ++ " must be non-empty") xs

theorem checkTruthy_of {xs : List (String × String)} (h : ∀ x ∈ xs, x.2 ≠ "") :
    checkTruthy xs = .ok ⟨h⟩ :=
  checkAll_of h

-- `_unique`
def checkUnique {α : Type} [DecidableEq α] (xs : List (String × List α)) :
    Py (PLift (∀ x ∈ xs, x.2.Nodup)) :=
  checkAll List.Nodup (fun name _ => name ++ " must not contain duplicates") xs

theorem checkUnique_of {α : Type} [DecidableEq α] {xs : List (String × List α)}
    (h : ∀ x ∈ xs, x.2.Nodup) : checkUnique xs = .ok ⟨h⟩ :=
  checkAll_of h

-- A digest is checked in two steps, each with its own message.
def sha256Message (short digits value : String) : String :=
  if "sha256:".toList <+: value.toList ∧ value.length = 71 then digits else short

-- `_digest`
def checkSha256 (xs : List (String × String)) : Py (PLift (∀ x ∈ xs, IsSha256 x.2)) :=
  checkAll IsSha256
    (fun name value => sha256Message
      (name ++ " must be sha256:<64-hex>")
      (name ++ " must contain 64 hexadecimal characters") value) xs

theorem checkSha256_of {xs : List (String × String)} (h : ∀ x ∈ xs, IsSha256 x.2) :
    checkSha256 xs = .ok ⟨h⟩ :=
  checkAll_of h

-- The checks of the modules that raise an error class of their own.
namespace Guard

def each {α : Type} (cls : ErrorClass) (p : α → Prop) [DecidablePred p]
    (message : String → α → String) (xs : List (String × α)) : Py (PLift (∀ x ∈ xs, p x.2)) :=
  match h : xs.find? fun x => ¬p x.2 with
  | some x => Py.raise cls (message x.1 x.2)
  | none   => .ok ⟨fun x hx => by simpa using List.find?_eq_none.mp h x hx⟩

theorem each_of {α : Type} {cls : ErrorClass} {p : α → Prop} [DecidablePred p]
    {message : String → α → String} {xs : List (String × α)} (h : ∀ x ∈ xs, p x.2) :
    each cls p message xs = .ok ⟨h⟩ := by
  unfold each
  split
  case h_1 x hx => exact absurd (h x <| List.mem_of_find?_eq_some hx) (by simpa using List.find?_some hx)
  case h_2      => rfl

-- `_nonempty`
def nonempty (cls : ErrorClass) (xs : List (String × String)) :
    Py (PLift (∀ x ∈ xs, ¬Text.Blank x.2)) :=
  each cls (¬Text.Blank ·) (fun name _ => name ++ " must be a non-empty string") xs

theorem nonempty_of {cls : ErrorClass} {xs : List (String × String)}
    (h : ∀ x ∈ xs, ¬Text.Blank x.2) : nonempty cls xs = .ok ⟨h⟩ :=
  each_of h

def NoneBlank (o : Option String) : Prop :=
  ∀ s ∈ o, ¬Text.Blank s

instance : DecidablePred NoneBlank :=
  fun o => inferInstanceAs <| Decidable (∀ s ∈ o, ¬Text.Blank s)

-- `_optional_nonempty`
def optionalNonempty (cls : ErrorClass) (xs : List (String × Option String)) :
    Py (PLift (∀ x ∈ xs, NoneBlank x.2)) :=
  each cls NoneBlank (fun name _ => name ++ " must be a non-empty string") xs

theorem optionalNonempty_of {cls : ErrorClass} {xs : List (String × Option String)}
    (h : ∀ x ∈ xs, NoneBlank x.2) : optionalNonempty cls xs = .ok ⟨h⟩ :=
  each_of h

def UniqueNonempty (values : List String) : Prop :=
  (∀ value ∈ values, ¬Text.Blank value) ∧ values.Nodup

instance : DecidablePred UniqueNonempty :=
  fun _ => inferInstanceAs <| Decidable (_ ∧ _)

-- `_unique_nonempty`
def uniqueNonempty (cls : ErrorClass) (xs : List (String × List String)) :
    Py (PLift (∀ x ∈ xs, UniqueNonempty x.2)) :=
  each cls UniqueNonempty (fun name values =>
    if ∀ value ∈ values, ¬Text.Blank value then name ++ " must not contain duplicates"
    else name ++ " must contain only non-empty strings") xs

theorem uniqueNonempty_of {cls : ErrorClass} {xs : List (String × List String)}
    (h : ∀ x ∈ xs, UniqueNonempty x.2) : uniqueNonempty cls xs = .ok ⟨h⟩ :=
  each_of h

-- `_digest`
def sha256 (cls : ErrorClass) (xs : List (String × String)) : Py (PLift (∀ x ∈ xs, IsSha256 x.2)) :=
  each cls IsSha256 (fun name value => sha256Message
    (name ++ " must be sha256:<64-hex>")
    (name ++ " must contain 64 hexadecimal characters") value) xs

theorem sha256_of {cls : ErrorClass} {xs : List (String × String)} (h : ∀ x ∈ xs, IsSha256 x.2) :
    sha256 cls xs = .ok ⟨h⟩ :=
  each_of h

def OptionalSha256 (o : Option String) : Prop :=
  ∀ d ∈ o, IsSha256 d

instance : DecidablePred OptionalSha256 :=
  fun o => inferInstanceAs <| Decidable (∀ d ∈ o, IsSha256 d)

-- `if value is not None: _digest(name, value)`
def optionalSha256 (cls : ErrorClass) (xs : List (String × Option String)) :
    Py (PLift (∀ x ∈ xs, OptionalSha256 x.2)) :=
  each cls OptionalSha256 (fun name value => sha256Message
    (name ++ " must be sha256:<64-hex>")
    (name ++ " must contain 64 hexadecimal characters") (value.getD "")) xs

theorem optionalSha256_of {cls : ErrorClass} {xs : List (String × Option String)}
    (h : ∀ x ∈ xs, OptionalSha256 x.2) : optionalSha256 cls xs = .ok ⟨h⟩ :=
  each_of h

end Guard

-- `_canonical_scopes` and `_unique_sorted`. A tuple without duplicates equals its `sorted` one when
-- it is sorted.
def CanonicalScopes (values : List String) : Prop :=
  (∀ value ∈ values, ¬Text.Blank value) ∧ values.Nodup ∧ values.Pairwise (· ≤ ·)

instance : DecidablePred CanonicalScopes :=
  fun _ => inferInstanceAs <| Decidable (_ ∧ _ ∧ _)

def canonicalScopesMessage (name : String) (values : List String) : String :=
  if ∀ value ∈ values, ¬Text.Blank value then
    if values.Nodup then name ++ " must be canonical-sorted"
    else name ++ " must not contain duplicates"
  else name ++ " must contain non-empty strings"

end GeneralExecution
