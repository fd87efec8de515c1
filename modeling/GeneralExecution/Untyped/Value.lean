import GeneralExecution.Untyped.FailsClosed

-- The values of the language as the durable decoders meet them: whatever a stored text decodes to,
-- before any field of it has been checked.

namespace GeneralExecution.Untyped

-- A string of the language may have lone surrogates, which no encoded text has.
inductive CodePoint
  | char (c : Char)
  | surrogate (n : Fin 2048)
deriving DecidableEq

def CodePoint.toNat : CodePoint → Nat
  | .char c      => c.toNat
  | .surrogate n => 0xd800 + n

abbrev PyText := List CodePoint

instance : LawfulBEq (List CodePoint) :=
  inferInstance

namespace PyText

def ofString (s : String) : PyText :=
  s.toList.map .char

-- `text.encode("utf-8")`
def encode : PyText → Option (List Char)
  | []                 => some []
  | .char c :: t       => (encode t).map (c :: ·)
  | .surrogate _ :: _  => none

def le : PyText → PyText → Bool
  | [], _           => true
  | _ :: _, []      => false
  | a :: s, b :: t  => a.toNat < b.toNat || a.toNat = b.toNat && le s t

-- `not text or not text.strip()`
def blank (t : PyText) : Bool :=
  t.all fun
    | .char c      => Text.isSpace c
    | .surrogate _ => false

-- `text.startswith("sha256:")`, a length of 71, and a rest that `int(.., 16)` reads.
def isSha256 (t : PyText) : Bool :=
  decide (ofString "sha256:" <+: t) && decide (t.length = 71) &&
    match encode (t.drop 7) with
    | some cs => Text.isInt16 cs
    | none    => false

end PyText

-- A floating point number that a text decodes to, with the shortest text that reads as it. A
-- literal beyond the range of the format reads as an infinity, and none reads as a NaN.
inductive PyFloat
  | finite (value : ℚ) (text : String)
  | infinite (negative : Bool)

inductive Value
  | none
  | bool (b : Bool)
  | int (n : Int)
  | float (x : PyFloat)
  | str (t : PyText)
  | list (xs : List Value)
  | dict (kvs : List (PyText × Value))

-- The functions of the language and its library that the decoders call and that decide nothing
-- here: reading a text, writing a container, and reading an integer.
class Builtins where
  -- `json.loads`, which raises what it raises: for what is no JSON text, for an integer literal of
  -- more digits than the interpreter converts, and for values nested too deep.
  loads     : PyText → Py Value
  loads_error :
    ∀ text e, loads text = .error e →
      e.cls ∈ [.typeError, .jsonDecodeError, .valueError, .recursionError]
  -- `str` of a list or a dictionary.
  reprOf    : Value → PyText
  -- `int` of a string.
  intOfText : PyText → Option Int
  -- The number of the format that stands for the result of an arithmetic operation.
  round     : ℚ → PyFloat

-- `json.loads` under `except (TypeError, json.JSONDecodeError)`
def loads [Builtins] (cls : ErrorClass) (message : String) (payload : PyText) : Py Value :=
  .wrap [.typeError, .jsonDecodeError] cls message (Builtins.loads payload)

-- `json.loads` raises what is no error of the text: the interpreter does not read it.
def Unreadable [Builtins] (payload : PyText) : Prop :=
  Except.Raises (PyError.Uncaught [.typeError, .jsonDecodeError]) (Builtins.loads payload)

theorem raises_loads [Builtins] {cls : ErrorClass} {message : String} {payload : PyText}
    (h : ∀ c ∈ [ErrorClass.typeError, .jsonDecodeError, .valueError, .recursionError], ¬c.IsA cls) :
    Except.Raises (PyError.Uncaught [cls]) (loads cls message payload) ↔ Unreadable payload := by
  rw [loads, Py.raises_wrap fun hu => hu cls (List.mem_singleton_self cls) (.inl rfl)]
  apply exists_congr
  intro e
  apply and_congr_right
  intro he
  apply and_iff_left
  intro c hc
  exact List.mem_singleton.mp hc ▸ h _ (Builtins.loads_error payload e he)

@[simp]
theorem loads_eq_ok [Builtins] {cls : ErrorClass} {message : String} {payload : PyText} {v : Value} :
    loads cls message payload = .ok v ↔ Builtins.loads payload = .ok v :=
  Py.wrap_eq_ok

-- A number of either kind.
inductive PyNumber
  | finite (q : ℚ)
  | infinite (negative : Bool)
deriving DecidableEq

def PyNumber.lt : PyNumber → PyNumber → Bool
  | .finite p, .finite q                 => p < q
  | .finite _, .infinite negative        => !negative
  | .infinite negative, .finite _        => negative
  | .infinite negative, .infinite other  => negative && !other

namespace Value

def isDict : Value → Bool
  | .dict _ => true
  | _       => false

def isNone : Value → Bool
  | .none => true
  | _     => false

def lookup (k : PyText) : List (PyText × Value) → Option Value
  | []             => .none
  | (k', v) :: kvs => (lookup k kvs).or (if k' = k then some v else .none)

-- `data[k]`, for the name of a member.
def member? (data : Value) (k : String) : Option Value :=
  match data with
  | .dict kvs => lookup (PyText.ofString k) kvs
  | _         => .none

def keys : Value → List PyText
  | .dict kvs => kvs.map Prod.fst
  | _         => []

-- `data[k]`: a list, a string and a number do not take the name of a member.
def index (data : Value) (k : String) : Py Value :=
  if data.isDict then Py.ofOption .keyError k (data.member? k)
  else Py.raise .typeError "indices must be integers"

-- `data.get(k, default)`
def get (data : Value) (k : String) (default : Value) : Py Value := do
  Py.require data.isDict .attributeError "object has no attribute 'get'"
  return (data.member? k).getD default

-- `for item in value`
def iter : Value → Py (List Value)
  | .list xs  => return xs
  | .str t    => return t.map fun c => .str [c]
  | .dict kvs => return kvs.map fun m => .str m.1
  | _         => Py.raise .typeError "object is not iterable"

-- `key, value = item`
def unpackPair (item : Value) : Py (Value × Value) := do
  match ← item.iter with
  | [k, v] => return (k, v)
  | _      => Py.raise .valueError "expected two values to unpack"

def number? : Value → Option PyNumber
  | .bool b                => some (.finite (if b then 1 else 0))
  | .int n                 => some (.finite n)
  | .float (.finite q _)   => some (.finite q)
  | .float (.infinite neg) => some (.infinite neg)
  | _                      => .none

-- `str`
def toStr [Builtins] : Value → PyText
  | .none                  => PyText.ofString "None"
  | .bool b                => PyText.ofString (if b then "True" else "False")
  | .int n                 => (Json.intText n).map .char
  | .float (.finite _ s)   => PyText.ofString s
  | .float (.infinite neg) => PyText.ofString (if neg then "-inf" else "inf")
  | .str t                 => t
  | v                      => Builtins.reprOf v

-- `int`, of a number by truncation.
def toInt [Builtins] : Value → Py Int
  | .bool b                => return if b then 1 else 0
  | .int n                 => return n
  | .float (.finite q _)   => return if q < 0 then ⌈q⌉ else ⌊q⌋
  | .float (.infinite _)   => Py.raise .overflowError "cannot convert float infinity to integer"
  | .str t                 => Py.ofOption .valueError "invalid literal for int()" (Builtins.intOfText t)
  | _                      => Py.raise .typeError "int() argument must be a string or a number"

-- The truth value.
def truthy : Value → Bool
  | .none    => false
  | .str t   => !t.isEmpty
  | .list xs => !xs.isEmpty
  | .dict ms => !ms.isEmpty
  | v        => v.number? ≠ some (.finite 0)

-- `v < w`, of numbers.
def lt (v w : Value) : Py Bool :=
  match v.number?, w.number? with
  | some x, some y => return x.lt y
  | _, _           => Py.raise .typeError "'<' not supported"

-- `v + n`
def add [Builtins] (v : Value) (n : Int) : Py Value :=
  match v with
  | .bool b              => return .int ((if b then 1 else 0) + n)
  | .int m               => return .int (m + n)
  | .float (.finite q _) => return .float (Builtins.round (q + n))
  | .float x             => return .float x
  | _                    => Py.raise .typeError "unsupported operand type(s)"

-- Whether the value can be the element of a set.
def hashable : Value → Bool
  | .list _ | .dict _ => false
  | _                 => true

-- `v in texts` of a set of texts.
def memberOf (v : Value) (texts : List String) : Py Bool := do
  Py.require v.hashable .typeError "unhashable type"
  match v with
  | .str t => return t ∈ texts.map PyText.ofString
  | _      => return false

-- `==`, under which numbers of both kinds and flags are equal by their values.
mutual

def eq : Value → Value → Bool
  | .none, .none         => true
  | .str s, .str t       => s = t
  | .list xs, .list ys   => eqAll xs ys
  | .dict ms, .dict ns   => ms.length = ns.length && eqMembers ms ns
  | v, w                 =>
    match v.number?, w.number? with
    | some x, some y => x = y
    | _, _           => false

def eqAll : List Value → List Value → Bool
  | [], []           => true
  | x :: xs, y :: ys => eq x y && eqAll xs ys
  | _, _             => false

def eqMembers : List (PyText × Value) → List (PyText × Value) → Bool
  | [], _           => true
  | (k, v) :: ms, ns =>
    (match lookup k ns with
      | some w => eq v w
      | .none  => false) && eqMembers ms ns

end

end Value

-- `cls(**data)`: the names that the constructor takes, and those that it needs.
def arguments (required optional : List String) (data : Value) : Py Unit := do
  Py.require (∀ k ∈ data.keys, k ∈ (required ++ optional).map PyText.ofString) .typeError
    "got an unexpected keyword argument"
  Py.require (∀ k ∈ required, (data.member? k).isSome = true) .typeError
    "missing required positional arguments"

def argument (data : Value) (k : String) : Value :=
  (data.member? k).getD .none

-- `if condition: raise ValueError(message)`
def refuse (condition : Py Bool) (message : String) : Py (PLift (condition = .ok false)) :=
  match condition with
  | .ok false => .ok ⟨rfl⟩
  | .ok true  => Py.raise .valueError message
  | .error e  => .error e

theorem not_raises_refuse {p : PyError → Prop} {condition : Py Bool} {message : String}
    (hc : ¬Except.Raises p condition) (hv : ¬p ⟨.valueError, message⟩) :
    ¬Except.Raises p (refuse condition message) := by
  cases condition
  case error e => exact fun h => hc (Except.raises_error.mpr (Except.raises_error.mp h))
  case ok c =>
    cases c
    case false => exact Except.raises_ok
    case true  => exact Py.raises_raise.not.mpr hv

end GeneralExecution.Untyped
