import Mathlib

-- The parts of Python's `str` and `int` that the records are checked with.

namespace Text

-- `str.isspace` of one character.
def isSpace (c : Char) : Bool :=
  let n := c.toNat
  (9 ≤ n && n ≤ 13) || (28 ≤ n && n ≤ 32) || n = 0x85 || n = 0xa0 || n = 0x1680 ||
    (0x2000 ≤ n && n ≤ 0x200a) || n = 0x2028 || n = 0x2029 || n = 0x202f || n = 0x205f || n = 0x3000

def dropSpace (cs : List Char) : List Char :=
  cs.dropWhile isSpace

-- `str.strip()`
def strip (cs : List Char) : List Char :=
  (dropSpace (dropSpace cs).reverse).reverse

-- `str.lower()`, exact in the ASCII characters of the result: besides the ASCII capitals only the
-- Kelvin sign and the dotted capital I give any.
def lower (cs : List Char) : List Char :=
  cs.flatMap fun c =>
    if 'A' ≤ c ∧ c ≤ 'Z' then [Char.ofNat (c.toNat + 32)]
    else if c.toNat = 0x212a then ['k']
    else if c.toNat = 0x130 then ['i', Char.ofNat 0x307]
    else [c]

-- `not value or not value.strip()`
def Blank (s : String) : Prop :=
  strip s.toList = []

instance (s : String) : Decidable (Blank s) :=
  inferInstanceAs <| Decidable (strip s.toList = [])

theorem dropSpace_cons_of_not {c : Char} {cs : List Char} (h : isSpace c = false) :
    dropSpace (c :: cs) = c :: cs := by
  simp [dropSpace, h]

theorem not_blank_of_head {s : String} {c : Char} {cs : List Char} (hs : s.toList = c :: cs)
    (h : isSpace c = false) : ¬Blank s := by
  intro hb
  have hd : dropSpace (c :: cs).reverse = [] := by
    simpa [Blank, strip, hs, dropSpace_cons_of_not h] using hb
  have hc := List.dropWhile_eq_nil_iff.mp hd c (by simp)
  simp [h] at hc

-- Two texts with prefixes that begin differently.
theorem append_ne_append {s t d d' : String} {c c' : Char} {cs cs' : List Char}
    (hs : s.toList = c :: cs) (ht : t.toList = c' :: cs') (hc : c ≠ c') : s ++ d ≠ t ++ d' := by
  intro h
  have hl := congrArg String.toList h
  rw [String.toList_append, String.toList_append, hs, ht, List.cons_append, List.cons_append] at hl
  exact hc (List.cons.inj hl).left

-- Two texts with prefixes that differ further on.
theorem append_ne_append_of_take {s t d d' : String} (n : Nat) (hs : n ≤ s.toList.length)
    (ht : n ≤ t.toList.length) (h : s.toList.take n ≠ t.toList.take n) : s ++ d ≠ t ++ d' := by
  intro he
  have hl := congrArg (List.take n) (congrArg String.toList he)
  rw [String.toList_append, String.toList_append, List.take_append_of_le_length hs,
    List.take_append_of_le_length ht] at hl
  exact h hl

theorem ne_empty_of_not_blank {s : String} (h : ¬Blank s) : s ≠ "" := by
  rintro rfl
  exact h (by decide)

-- The truth value of an optional string, and that of its stripped text.
def Truthy (o : Option String) : Prop :=
  o.any (· ≠ "")

def Present (o : Option String) : Prop :=
  o.any fun s => ¬Blank s

instance (o : Option String) : Decidable (Truthy o) :=
  inferInstanceAs <| Decidable (_ = true)

instance (o : Option String) : Decidable (Present o) :=
  inferInstanceAs <| Decidable (_ = true)

theorem Truthy.exists {o : Option String} (h : Truthy o) : ∃ s, o = some s ∧ s ≠ "" := by
  cases o
  case none   => simp [Truthy] at h
  case some s => exact ⟨s, rfl, by simpa [Truthy] using h⟩

theorem truthy_some {s : String} : Truthy (some s) ↔ s ≠ "" := by
  simp [Truthy]

theorem Present.truthy {o : Option String} (h : Present o) : Truthy o := by
  cases o
  case none   => simp [Present] at h
  case some s => exact truthy_some.mpr <| ne_empty_of_not_blank <| by simpa [Present] using h

-- The value of a digit in base 16, for the ASCII digits and letters.
def hexValue (c : Char) : Option Nat :=
  let n := c.toNat
  if 48 ≤ n ∧ n ≤ 57 then some (n - 48)
  else if 65 ≤ n ∧ n ≤ 70 then some (n - 55)
  else if 97 ≤ n ∧ n ≤ 102 then some (n - 87)
  else none

-- The first code point of each run of ten decimal digits outside ASCII, which `int` reads as
-- ordinary digits.
def decimalZeros : List Nat := [
  0x660, 0x6f0, 0x7c0, 0x966, 0x9e6, 0xa66, 0xae6, 0xb66, 0xbe6, 0xc66, 0xce6, 0xd66, 0xde6, 0xe50,
  0xed0, 0xf20, 0x1040, 0x1090, 0x17e0, 0x1810, 0x1946, 0x19d0, 0x1a80, 0x1a90, 0x1b50, 0x1bb0,
  0x1c40, 0x1c50, 0xa620, 0xa8d0, 0xa900, 0xa9d0, 0xa9f0, 0xaa50, 0xabf0, 0xff10, 0x104a0, 0x10d30,
  0x11066, 0x110f0, 0x11136, 0x111d0, 0x112f0, 0x11450, 0x114d0, 0x11650, 0x116c0, 0x11730, 0x118e0,
  0x11950, 0x11c50, 0x11d50, 0x11da0, 0x11f50, 0x16a60, 0x16ac0, 0x16b50, 0x1d7ce, 0x1d7d8, 0x1d7e2,
  0x1d7ec, 0x1d7f6, 0x1e140, 0x1e2f0, 0x1e4d0, 0x1e950, 0x1fbf0]

def asciiDigit (c : Char) : Char :=
  match decimalZeros.find? fun z => z ≤ c.toNat && c.toNat < z + 10 with
  | some z => Char.ofNat (48 + (c.toNat - z))
  | none   => c

-- The digits of an integer literal: single underscores may stand between two digits. `afterDigit`
-- tells whether the previous character was a digit.
def digitsOk (afterDigit : Bool) : List Char → Bool
  | []      => afterDigit
  | c :: cs =>
    if c = '_' then afterDigit && (match cs with | [] => false | d :: _ => (hexValue d).isSome) &&
      digitsOk false cs
    else (hexValue c).isSome && digitsOk true cs

def dropSign : List Char → List Char
  | '+' :: cs | '-' :: cs => cs
  | cs                    => cs

-- A base prefix may be followed by one underscore.
def dropBase : List Char → List Char
  | '0' :: 'x' :: '_' :: cs | '0' :: 'X' :: '_' :: cs => cs
  | '0' :: 'x' :: cs | '0' :: 'X' :: cs               => cs
  | cs                                                => cs

-- The white space that `int` ignores around a literal.
def isIntSpace (c : Char) : Bool :=
  isSpace c && !(28 ≤ c.toNat && c.toNat ≤ 31)

def stripInt (cs : List Char) : List Char :=
  ((cs.dropWhile isIntSpace).reverse.dropWhile isIntSpace).reverse

-- Whether `int(text, 16)` returns.
def isInt16 (cs : List Char) : Bool :=
  digitsOk false <| dropBase <| dropSign <| stripInt <| cs.map asciiDigit

def lowerHex : List Char :=
  ['0', '1', '2', '3', '4', '5', '6', '7', '8', '9', 'a', 'b', 'c', 'd', 'e', 'f']

theorem getD_mem_lowerHex {n : Nat} (h : n < 16) : lowerHex.getD n '0' ∈ lowerHex := by
  rw [List.getD_eq_getElem _ _ h]
  exact List.getElem_mem h

theorem getD_lowerHex_inj {n m : Nat} (hn : n < 16) (hm : m < 16)
    (h : lowerHex.getD n '0' = lowerHex.getD m '0') : n = m := by
  rw [List.getD_eq_getElem _ _ hn, List.getD_eq_getElem _ _ hm] at h
  exact (List.Nodup.getElem_inj_iff (by decide)).mp h

theorem hex_facts : ∀ c ∈ lowerHex,
    isSpace c = false ∧ c ≠ '_' ∧ (hexValue c).isSome ∧ asciiDigit c = c := by
  have h : lowerHex.all (fun c =>
    isSpace c = false ∧ c ≠ '_' ∧ (hexValue c).isSome ∧ asciiDigit c = c) = true := by decide
  exact fun c hc => of_decide_eq_true <| List.all_eq_true.mp h c hc

theorem digitsOk_of_hex {cs : List Char} (h : ∀ c ∈ cs, c ∈ lowerHex) {b : Bool}
    (hb : cs = [] → b = true) : digitsOk b cs = true := by
  induction cs generalizing b
  case nil => simp [digitsOk, hb rfl]
  case cons c cs ih =>
    have ⟨_, h₁, h₂, _⟩ := hex_facts c (h c (by simp))
    simp [digitsOk, h₁, h₂, ih (fun d hd => h d (by simp [hd]))]

theorem stripInt_of_hex {cs : List Char} (h : ∀ c ∈ cs, c ∈ lowerHex) : stripInt cs = cs := by
  have hd : ∀ l : List Char, (∀ c ∈ l, c ∈ lowerHex) → l.dropWhile isIntSpace = l := by
    intro l hl
    cases l
    case nil       => rfl
    case cons c cs => simp [isIntSpace, (hex_facts c (hl c (by simp))).left]
  simp [stripInt, hd cs h, hd cs.reverse (by simpa using h)]

theorem isInt16_of_hex {cs : List Char} (h : ∀ c ∈ cs, c ∈ lowerHex) (hn : cs ≠ []) :
    isInt16 cs = true := by
  have ha : cs.map asciiDigit = cs := by
    conv_rhs => rw [← List.map_id cs]
    exact List.map_congr_left fun c hc => (hex_facts c (h c hc)).right.right.right
  have hs : dropSign cs = cs := by
    unfold dropSign
    split
    case h_1 => exact absurd (h '+' (by simp)) (by decide)
    case h_2 => exact absurd (h '-' (by simp)) (by decide)
    case h_3 => rfl
  have hb : dropBase cs = cs := by
    unfold dropBase
    split
    case h_1 => exact absurd (h 'x' (by simp)) (by decide)
    case h_2 => exact absurd (h 'X' (by simp)) (by decide)
    case h_3 => exact absurd (h 'x' (by simp)) (by decide)
    case h_4 => exact absurd (h 'X' (by simp)) (by decide)
    case h_5 => rfl
  simp [isInt16, ha, stripInt_of_hex h, hs, hb, digitsOk_of_hex h (b := false) (by simp [hn])]

-- `re.fullmatch(r"[A-Za-z0-9_.-]+/[A-Za-z0-9_.-]+", value)`: a slash between two names.
def IsRepository (s : String) : Prop :=
  let owner := s.toList.takeWhile (· ≠ '/')
  let name  := (s.toList.dropWhile (· ≠ '/')).drop 1
  owner ≠ [] ∧ name ≠ [] ∧ ∀ c ∈ owner ++ name, c.isAlphanum ∨ c ∈ ['_', '.', '-']

instance : DecidablePred IsRepository :=
  fun _ => inferInstanceAs <| Decidable (_ ∧ _ ∧ _)

end Text
