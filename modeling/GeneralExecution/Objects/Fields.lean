import GeneralExecution.Objects.Errors
import GeneralExecution.Primitives.Sorting

namespace GeneralExecution

variable {α β : Type}

@[simp]
theorem normalize_string (s : String) : normalize (toPy s) = .str s :=
  rfl

@[simp]
theorem normalize_nat (n : Nat) : normalize (toPy n) = .int n :=
  rfl

@[simp]
theorem normalize_literal [PyLiteral α] (a : α) :
    normalize (toPy a) = .str (PyLiteral.spelling a) :=
  rfl

-- Python converts or stores a value of any type here. No writer of this system produces a value of
-- another type than the record's field has, and the readers reject it.
namespace Read

def string : Json → Py String
  | .str s => return s
  | _      => Py.raise .typeError "expected a string"

-- An ordinal, for which the record's constructor raises `message` below zero.
def nat (message : String) : Json → Py Nat
  | .int n => if n < 0 then Py.raise .valueError message else return n.toNat
  | _      => Py.raise .typeError "expected an integer"

def literal [PyLiteral α] (message : String) : Json → Py α
  | .str s => Py.literal message s
  | _      => Py.raise .typeError "expected a string"

def list (read : Json → Py α) : Json → Py (List α)
  | .arr xs => xs.mapM read
  | _       => Py.raise .typeError "expected a list"

def pair (read₁ : Json → Py α) (read₂ : Json → Py β) : Json → Py (α × β)
  | .arr [x, y] => return (← read₁ x, ← read₂ y)
  | _           => Py.raise .valueError "expected two values"

-- `read(value) if value is not None else None`
def opt (read : Json → Py α) : Json → Py (Option α)
  | .null => return none
  | j     => return some (← read j)

@[simp]
theorem string_str (s : String) : string (.str s) = .ok s :=
  rfl

@[simp]
theorem nat_int (message : String) (n : Nat) : nat message (.int n) = .ok n := by
  simp [nat, pure, Except.pure]

@[simp]
theorem literal_str [PyLiteral α] (message : String) (a : α) :
    literal message (.str (PyLiteral.spelling a)) = .ok a :=
  Py.literal_spelling message a

theorem list_normalize {read : Json → Py α} {write : α → PyValue} {xs : List α}
    (h : ∀ x ∈ xs, read (normalize (write x)) = .ok x) :
    list read (.arr (normalizeAll (xs.map write))) = .ok xs := by
  rw [list, normalizeAll_eq_map, List.map_map]
  induction xs
  case nil          => rfl
  case cons x xs ih =>
    simp [h x (by simp), ih fun y hy => h y (by simp [hy]), pure, Except.pure]

@[simp]
theorem list_strings (xs : List String) : list string (normalize (toPy xs)) = .ok xs :=
  list_normalize fun _ _ => rfl

@[simp]
theorem list_pairs (xs : List (String × String)) :
    list (pair string string) (normalize (toPy xs)) = .ok xs :=
  list_normalize fun _ _ => rfl

theorem opt_normalize {read : Json → Py α} {j : Json} (h : j ≠ .null) :
    opt read j = some <$> read j := by
  unfold opt
  split
  case h_1 => contradiction
  case h_2 => cases read j <;> rfl

@[simp]
theorem opt_string (o : Option String) : opt string (normalize (toPy o)) = .ok o := by
  cases o <;> rfl

@[simp]
theorem opt_literal [PyLiteral α] (message : String) (o : Option α) :
    opt (literal message) (normalize (toPy o)) = .ok o := by
  cases o
  case none   => rfl
  case some a => simp [toPy, normalize, opt, literal, pure, Except.pure]

end Read

-- Reading the members of a decoded object.
namespace Field

-- `read(data[k])`
def get (read : Json → Py α) (data : Json) (k : String) : Py α :=
  match data.get? k with
  | some j => read j
  | none   => Py.raise .keyError k

-- `read(data.get(k, default))`
def getD (read : Json → Py α) (default : α) (data : Json) (k : String) : Py α :=
  match data.get? k with
  | some j => read j
  | none   => return default

-- `data.get("schema_version") == expected`
def hasSchema (data : Json) (expected : String) : Bool :=
  match data.get? "schema_version" with
  | some (.str s) => s = expected
  | _             => false

-- `data.get("schema_version", expected) == expected`
def hasSchemaOrNone (data : Json) (expected : String) : Bool :=
  match data.get? "schema_version" with
  | some (.str s) => s = expected
  | some _        => false
  | none          => true

-- The keyword arguments of a record's constructor: `record(**data)`.
def kwargs (required optional : List String) (data : Json) : Py Unit := do
  Py.require (∀ k ∈ required, k ∈ data.keys) .typeError "missing a required argument"
  Py.require (∀ k ∈ data.keys, k ∈ required ++ optional) .typeError "unexpected keyword argument"

end Field

-- The decoders that check every type, and raise an error class of their own.
namespace Typed

def quoted (names : List String) : String :=
  "[" ++ ", ".intercalate (names.map fun name => "'" ++ name ++ "'") ++ "]"

-- `sorted(xs - ys)` of two sets.
def difference (xs ys : List String) : List String :=
  (xs.filter (· ∉ ys)).dedup.mergeSort

theorem sorted_eq_nil {xs : List String} : xs.dedup.mergeSort = [] ↔ xs = [] := by
  rw [← List.length_eq_zero_iff, List.length_mergeSort, List.length_eq_zero_iff, List.dedup_eq_nil]

theorem difference_eq_nil {xs ys : List String} : difference xs ys = [] ↔ xs ⊆ ys := by
  rw [difference, sorted_eq_nil]
  simp [List.subset_def]

theorem difference_perm {xs ys ys' : List String} (hp : ys.Perm ys') :
    difference xs ys = difference xs ys' := by
  have hf : xs.filter (· ∉ ys) = xs.filter (· ∉ ys') :=
    List.filter_congr fun x _ => decide_eq_decide.mpr hp.mem_iff.not
  rw [difference, hf, difference]

theorem difference_perm_left {xs xs' ys : List String} (hp : xs.Perm xs') :
    difference xs ys = difference xs' ys :=
  List.sort_eq_of_perm (hp.filter _).dedup

-- `_require_exact_fields`
def exactFields (cls : ErrorClass) (label : String) (expected : List String) (data : Json) :
    Py Unit := do
  Py.require data.isObj cls (label ++ " must be an object")
  Py.require (data.keys ⊆ expected ∧ expected ⊆ data.keys) cls
    (label ++ " fields mismatch: missing=" ++ quoted (difference expected data.keys) ++
      " unknown=" ++ quoted (difference data.keys expected))

-- A value that is no string fails the check of the field.
def string (cls : ErrorClass) (message : String) : Json → Py String
  | .str s => return s
  | _      => Py.raise cls message

def nonempty (cls : ErrorClass) (name : String) : Json → Py String :=
  string cls (name ++ " must be a non-empty string")

def sha256 (cls : ErrorClass) (name : String) : Json → Py String :=
  string cls (name ++ " must be sha256:<64-hex>")

def nat (cls : ErrorClass) (name : String) : Json → Py Nat
  | .int n =>
    if n < 0 then Py.raise cls (name ++ " cannot be negative") else return n.toNat
  | _      => Py.raise cls (name ++ " must be an integer")

-- A value that cannot be the member of a set is rejected by the caller with `invalid`.
def member (cls : ErrorClass) (unsupported invalid : String) : Json → Py String
  | .str s          => return s
  | .arr _ | .obj _ => Py.raise cls invalid
  | _               => Py.raise cls unsupported

def list {α : Type} (cls : ErrorClass) (message : String) (read : Json → Py α) : Json → Py (List α)
  | .arr xs => xs.mapM read
  | _       => Py.raise cls message

def strings (cls : ErrorClass) (name : String) : Json → Py (List String) :=
  list cls (name ++ " must be a list")
    (string cls (name ++ " must contain only non-empty strings"))

-- The truth value of a flag that no check looks at.
def bool : Json → Py Bool
  | .bool b => return b
  | _       => Py.raise .typeError "expected a boolean"

section

variable {cls : ErrorClass} {name message unsupported invalid : String}

@[simp]
theorem string_str (s : String) : string cls message (.str s) = .ok s :=
  rfl

@[simp]
theorem nonempty_str (s : String) : nonempty cls name (.str s) = .ok s :=
  rfl

@[simp]
theorem sha256_str (s : String) : sha256 cls name (.str s) = .ok s :=
  rfl

@[simp]
theorem nat_int (n : Nat) : nat cls name (.int n) = .ok n := by
  simp [nat, pure, Except.pure]

@[simp]
theorem member_str (s : String) : member cls unsupported invalid (.str s) = .ok s :=
  rfl

@[simp]
theorem bool_bool (b : Bool) : bool (normalize (toPy b)) = .ok b :=
  rfl

theorem list_normalize {read : Json → Py α} {write : α → PyValue} {xs : List α}
    (h : ∀ x ∈ xs, read (normalize (write x)) = .ok x) :
    list cls message read (.arr (normalizeAll (xs.map write))) = .ok xs :=
  Read.list_normalize h

@[simp]
theorem strings_normalize (xs : List String) :
    strings cls name (normalize (toPy xs)) = .ok xs :=
  list_normalize fun _ _ => rfl

@[simp]
theorem opt_nonempty (o : Option String) :
    Read.opt (nonempty cls name) (normalize (toPy o)) = .ok o := by
  cases o <;> rfl

@[simp]
theorem opt_sha256 (o : Option String) :
    Read.opt (sha256 cls name) (normalize (toPy o)) = .ok o := by
  cases o <;> rfl

end

end Typed

end GeneralExecution
