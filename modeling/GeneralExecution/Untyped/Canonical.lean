import GeneralExecution.Untyped.Value

namespace GeneralExecution.Untyped

namespace PyText

def NoSurrogate (t : PyText) : Prop :=
  ∀ c ∈ t, ∃ a, c = .char a

theorem encode_isSome {t : PyText} : (encode t).isSome = true ↔ t.NoSurrogate := by
  induction t
  case nil => simp [encode, NoSurrogate]
  case cons c t ih =>
    rw [NoSurrogate, List.forall_mem_cons]
    cases c
    case char a      => rw [encode, Option.isSome_map, ih, and_iff_right ⟨a, rfl⟩, NoSurrogate]
    case surrogate n => simp [encode]

theorem NoSurrogate.append {s t : PyText} : (s ++ t).NoSurrogate ↔ s.NoSurrogate ∧ t.NoSurrogate :=
  List.forall_mem_append

theorem noSurrogate_chars (cs : List Char) : NoSurrogate (cs.map .char) := by
  intro c hc
  have ⟨a, _, ha⟩ := List.mem_map.mp hc
  exact ⟨a, ha.symm⟩

theorem noSurrogate_ofString (s : String) : (ofString s).NoSurrogate :=
  noSurrogate_chars _

end PyText

open PyText (NoSurrogate ofString noSurrogate_chars noSurrogate_ofString)

-- `json.dumps` of one character of a string, which leaves what is not ASCII as it is.
def CodePoint.escape : CodePoint → PyText
  | .char c      => (Json.escape c).map .char
  | .surrogate n => [.surrogate n]

def PyText.quote (t : PyText) : PyText :=
  ofString "\"" ++ t.flatMap CodePoint.escape ++ ofString "\""

-- The texts with commas between them.
def PyText.join : List PyText → PyText
  | []      => []
  | [t]     => t
  | t :: ts => t ++ ofString "," ++ join ts

def Value.sortTexts (ms : List (PyText × PyText)) : List (PyText × PyText) :=
  ms.mergeSort fun a b => a.1.le b.1

namespace Value

mutual

def text : Value → PyText
  | .none                  => ofString "null"
  | .bool b                => ofString (if b then "true" else "false")
  | .int n                 => (Json.intText n).map .char
  | .float (.finite _ s)   => ofString s
  | .float (.infinite neg) => ofString (if neg then "-Infinity" else "Infinity")
  | .str t                 => t.quote
  | .list xs               => ofString "[" ++ PyText.join (itemTexts xs) ++ ofString "]"
  | .dict ms               =>
    ofString "\x7b" ++
      PyText.join ((sortTexts (memberTexts ms)).map fun m => m.1.quote ++ ofString ":" ++ m.2) ++
      ofString "\x7d"

def itemTexts : List Value → List PyText
  | []      => []
  | x :: xs => text x :: itemTexts xs

def memberTexts : List (PyText × Value) → List (PyText × PyText)
  | []           => []
  | (k, v) :: ms => (k, text v) :: memberTexts ms

end

-- No number in the value is infinite.
mutual

def finite : Value → Bool
  | .float (.infinite _) => false
  | .list xs             => finiteAll xs
  | .dict ms             => finiteMembers ms
  | _                    => true

def finiteAll : List Value → Bool
  | []      => true
  | x :: xs => finite x && finiteAll xs

def finiteMembers : List (PyText × Value) → Bool
  | []           => true
  | (_, v) :: ms => finite v && finiteMembers ms

end

-- No string in the value, and no name, has a lone surrogate.
mutual

def encodable : Value → Bool
  | .str t   => t.encode.isSome
  | .list xs => encodableAll xs
  | .dict ms => encodableMembers ms
  | _        => true

def encodableAll : List Value → Bool
  | []      => true
  | x :: xs => encodable x && encodableAll xs

def encodableMembers : List (PyText × Value) → Bool
  | []           => true
  | (k, v) :: ms => k.encode.isSome && encodable v && encodableMembers ms

end

def Digestible (v : Value) : Prop :=
  v.finite = true ∧ v.encodable = true

instance (v : Value) : Decidable v.Digestible :=
  inferInstanceAs <| Decidable (_ ∧ _)

end Value

-- `canonical_json`
def canonicalJson (v : Value) : Py PyText := do
  Py.require (v.finite = true) .valueError "Out of range float values are not JSON compliant"
  return v.text

section Digests

variable [Sha256]

def sha256Digest (v : Value) : Py PyText := do
  let chars ← Py.ofOption .unicodeEncodeError "surrogates not allowed"
    (PyText.encode (← canonicalJson v))
  return ofString ("sha256:" ++ Sha256.hexdigest (.ofList chars))

def stableId (tag : String) (v : Value) : Py PyText := do
  let digest ← sha256Digest v
  return ofString (tag ++ "-") ++ ((digest.dropWhile (· ≠ .char ':')).drop 1).take 24

end Digests

-- What is written has no surrogates but those of the strings.

theorem CodePoint.escape_noSurrogate {c : CodePoint} :
    NoSurrogate c.escape ↔ ∃ a, c = .char a := by
  cases c
  case char a      => exact iff_of_true (noSurrogate_chars _) ⟨a, rfl⟩
  case surrogate n => simp [escape, NoSurrogate]

theorem PyText.quote_noSurrogate {t : PyText} : NoSurrogate t.quote ↔ NoSurrogate t := by
  rw [PyText.quote, NoSurrogate.append, NoSurrogate.append]
  simp only [noSurrogate_ofString, and_true, true_and]
  constructor
  case mp =>
    intro h c hc
    apply CodePoint.escape_noSurrogate.mp
    exact fun d hd => h d (List.mem_flatMap.mpr ⟨c, hc, hd⟩)
  case mpr =>
    intro h d hd
    have ⟨c, hc, hd⟩ := List.mem_flatMap.mp hd
    exact CodePoint.escape_noSurrogate.mpr (h c hc) d hd

theorem PyText.join_noSurrogate {ts : List PyText} : NoSurrogate (join ts) ↔ ∀ t ∈ ts, NoSurrogate t := by
  induction ts
  case nil => simp [join, NoSurrogate]
  case cons t ts ih =>
    rw [List.forall_mem_cons, ← ih]
    cases ts
    case nil => simp [join, NoSurrogate]
    case cons t' ts =>
      rw [join, NoSurrogate.append, NoSurrogate.append, and_iff_left (noSurrogate_ofString _)]
      exact List.cons_ne_nil t' ts

namespace Value

theorem itemTexts_eq_map (xs : List Value) : itemTexts xs = xs.map text := by
  induction xs
  case nil          => rfl
  case cons x xs ih => rw [itemTexts, ih, List.map_cons]

theorem memberTexts_eq_map (ms : List (PyText × Value)) :
    memberTexts ms = ms.map fun m => (m.1, text m.2) := by
  induction ms
  case nil          => rfl
  case cons m ms ih => rw [memberTexts, ih, List.map_cons]

@[simp]
theorem mem_sortTexts {ms : List (PyText × PyText)} {m : PyText × PyText} :
    m ∈ sortTexts ms ↔ m ∈ ms :=
  (List.mergeSort_perm ..).mem_iff

theorem encodableAll_iff {xs : List Value} :
    encodableAll xs = true ↔ ∀ x ∈ xs, encodable x = true := by
  induction xs
  case nil          => simp [encodableAll]
  case cons x xs ih => rw [encodableAll, Bool.and_eq_true, ih, List.forall_mem_cons]

theorem encodableMembers_iff {ms : List (PyText × Value)} :
    encodableMembers ms = true ↔ ∀ m ∈ ms, NoSurrogate m.1 ∧ encodable m.2 = true := by
  induction ms
  case nil => simp [encodableMembers]
  case cons m ms ih =>
    rw [encodableMembers, Bool.and_eq_true, Bool.and_eq_true, ih, List.forall_mem_cons,
      PyText.encode_isSome]

theorem finiteAll_iff {xs : List Value} : finiteAll xs = true ↔ ∀ x ∈ xs, finite x = true := by
  induction xs
  case nil          => simp [finiteAll]
  case cons x xs ih => rw [finiteAll, Bool.and_eq_true, ih, List.forall_mem_cons]

theorem finiteMembers_iff {ms : List (PyText × Value)} :
    finiteMembers ms = true ↔ ∀ m ∈ ms, finite m.2 = true := by
  induction ms
  case nil          => simp [finiteMembers]
  case cons m ms ih => rw [finiteMembers, Bool.and_eq_true, ih, List.forall_mem_cons]

mutual

theorem text_noSurrogate : ∀ v : Value, NoSurrogate v.text ↔ v.encodable = true
  | .none | .bool _ => iff_of_true (noSurrogate_ofString _) rfl
  | .int _ => iff_of_true (noSurrogate_chars _) rfl
  | .float (.finite _ _) | .float (.infinite _) => iff_of_true (noSurrogate_ofString _) rfl
  | .str t => by rw [text, PyText.quote_noSurrogate, encodable, PyText.encode_isSome]
  | .list xs => by
    rw [text, NoSurrogate.append, NoSurrogate.append, encodable, encodableAll_iff,
      PyText.join_noSurrogate, itemTexts_eq_map, List.forall_mem_map]
    simp only [noSurrogate_ofString, and_true, true_and]
    exact forall₂_congr fun x hx => items_noSurrogate xs x hx
  | .dict ms => by
    rw [text, NoSurrogate.append, NoSurrogate.append, encodable, encodableMembers_iff,
      PyText.join_noSurrogate, List.forall_mem_map, memberTexts_eq_map]
    simp only [noSurrogate_ofString, and_true, true_and, NoSurrogate.append,
      PyText.quote_noSurrogate, mem_sortTexts, List.forall_mem_map]
    exact forall₂_congr fun m hm => and_congr_right fun _ => members_noSurrogate ms m hm

theorem items_noSurrogate : ∀ xs : List Value, ∀ x ∈ xs, (NoSurrogate x.text ↔ x.encodable = true)
  | [], x, h => absurd h List.not_mem_nil
  | y :: xs, x, h => by
    cases List.mem_cons.mp h
    case inl he => exact he ▸ text_noSurrogate y
    case inr hx => exact items_noSurrogate xs x hx

theorem members_noSurrogate : ∀ ms : List (PyText × Value), ∀ m ∈ ms,
    (NoSurrogate m.2.text ↔ m.2.encodable = true)
  | [], m, h => absurd h List.not_mem_nil
  | (k, v) :: ms, m, h => by
    cases List.mem_cons.mp h
    case inl he => exact he ▸ text_noSurrogate v
    case inr hm => exact members_noSurrogate ms m hm

end

end Value

namespace Value

theorem finite_list {xs : List Value} :
    (Value.list xs).finite = true ↔ ∀ x ∈ xs, x.finite = true := by
  rw [finite, finiteAll_iff]

theorem finite_dict {ms : List (PyText × Value)} :
    (Value.dict ms).finite = true ↔ ∀ m ∈ ms, m.2.finite = true := by
  rw [finite, finiteMembers_iff]

@[simp]
theorem digestible_none : Value.none.Digestible :=
  ⟨rfl, rfl⟩

@[simp]
theorem digestible_int (n : Int) : (Value.int n).Digestible :=
  ⟨rfl, rfl⟩

@[simp]
theorem digestible_str {t : PyText} : (Value.str t).Digestible ↔ NoSurrogate t := by
  rw [Digestible, encodable, PyText.encode_isSome]
  exact and_iff_right rfl

theorem digestible_list {xs : List Value} :
    (Value.list xs).Digestible ↔ ∀ x ∈ xs, x.Digestible := by
  simp only [Digestible, finite_list, encodable, encodableAll_iff, forall₂_and]

theorem digestible_dict {ms : List (PyText × Value)} :
    (Value.dict ms).Digestible ↔ ∀ m ∈ ms, NoSurrogate m.1 ∧ m.2.Digestible := by
  simp only [Digestible, finite_dict, encodable, encodableMembers_iff, forall₂_and]
  exact and_left_comm

end Value

section Digests

variable [Sha256] {v : Value} {p : PyError → Prop}

-- A value has a digest exactly when it is digestible.
@[simp]
theorem exists_sha256Digest : (∃ d, sha256Digest v = .ok d) ↔ v.Digestible := by
  have he : (PyText.encode v.text).isSome = true ↔ v.encodable = true :=
    PyText.encode_isSome.trans (Value.text_noSurrogate v)
  rw [Value.Digestible, ← he, Option.isSome_iff_exists]
  simp [sha256Digest, canonicalJson, Except.bind_eq_ok]

theorem sha256Digest_raises (hf : ∀ message, p ⟨.valueError, message⟩)
    (hs : ∀ message, p ⟨.unicodeEncodeError, message⟩) :
    Except.Raises p (sha256Digest v) ↔ ¬v.Digestible := by
  have he : PyText.encode v.text = none ↔ v.encodable = false := by
    rw [← Option.not_isSome_iff_eq_none, PyText.encode_isSome, Value.text_noSurrogate,
      Bool.not_eq_true]
  simp only [sha256Digest, canonicalJson, Except.raises_bind, Py.raises_require, Py.raises_ofOption,
    hf, hs, Value.Digestible]
  cases v.finite
  case false => simp
  case true  => simp [he]

theorem digestible_of_sha256Digest {d : PyText} (h : sha256Digest v = .ok d) : v.Digestible :=
  exists_sha256Digest.mp ⟨d, h⟩

theorem noSurrogate_of_sha256Digest {d : PyText} (h : sha256Digest v = .ok d) : NoSurrogate d := by
  have ⟨_, _, h⟩ := Except.bind_eq_ok.mp h
  have ⟨_, _, h⟩ := Except.bind_eq_ok.mp h
  exact Except.ok.inj h ▸ noSurrogate_ofString _

theorem noSurrogate_of_stableId {tag : String} {d : PyText} (h : stableId tag v = .ok d) :
    NoSurrogate d := by
  have ⟨digest, hd, h⟩ := Except.bind_eq_ok.mp h
  rw [← Except.ok.inj h]
  apply NoSurrogate.append.mpr ⟨noSurrogate_ofString _, ?_⟩
  intro c hc
  have hc := List.dropWhile_sublist _ |>.mem (List.mem_of_mem_drop (List.mem_of_mem_take hc))
  exact noSurrogate_of_sha256Digest hd c hc

@[simp]
theorem exists_stableId (tag : String) : (∃ d, stableId tag v = .ok d) ↔ v.Digestible := by
  rw [← exists_sha256Digest]
  simp [stableId]

theorem stableId_raises {tag : String} (hf : ∀ message, p ⟨.valueError, message⟩)
    (hs : ∀ message, p ⟨.unicodeEncodeError, message⟩) :
    Except.Raises p (stableId tag v) ↔ ¬v.Digestible := by
  simp [stableId, sha256Digest_raises hf hs]

end Digests

end GeneralExecution.Untyped
