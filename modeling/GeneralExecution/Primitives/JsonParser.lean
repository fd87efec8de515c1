import GeneralExecution.Primitives.Json

-- The reader of `json`, and that it reads back what the writer writes.

namespace Json

def isSpace (c : Char) : Bool :=
  c = ' ' || c = '\t' || c = '\n' || c = '\r'

def skip (cs : List Char) : List Char :=
  cs.dropWhile isSpace

def hexDigit (c : Char) : Option Nat :=
  let n := c.toNat
  if 48 ≤ n ∧ n ≤ 57 then some (n - 48)
  else if 65 ≤ n ∧ n ≤ 70 then some (n - 55)
  else if 97 ≤ n ∧ n ≤ 102 then some (n - 87)
  else none

def hex4 (a b c d : Char) : Option Nat := do
  return (((← hexDigit a) * 16 + (← hexDigit b)) * 16 + (← hexDigit c)) * 16 + (← hexDigit d)

def simpleEscape : Char → Option Char
  | '"'  => some '"'
  | '\\' => some '\\'
  | '/'  => some '/'
  | 'b'  => some '\x08'
  | 'f'  => some '\x0c'
  | 'n'  => some '\n'
  | 'r'  => some '\r'
  | 't'  => some '\t'
  | _    => none

-- A code point outside of the surrogates.
def ofCodePoint (n : Nat) : Option Char :=
  if n < 0xd800 ∨ 0xdfff < n ∧ n < 0x110000 then some (Char.ofNat n) else none

def ofSurrogates (hi lo : Nat) : Option Char :=
  if 0xd800 ≤ hi ∧ hi < 0xdc00 ∧ 0xdc00 ≤ lo ∧ lo < 0xe000 then
    some <| Char.ofNat <| 0x10000 + (hi - 0xd800) * 0x400 + (lo - 0xdc00)
  else none

-- The characters of a string up to its closing quote, and what follows it.
def stringBody : List Char → Option (List Char × List Char)
  | [] => none
  | '"' :: cs => some ([], cs)
  | '\\' :: 'u' :: a :: b :: c :: d :: cs => do
    let n ← hex4 a b c d
    match ofCodePoint n with
    | some ch => return Prod.map (ch :: ·) id (← stringBody cs)
    | none =>
      match cs with
      | '\\' :: 'u' :: a :: b :: c :: d :: cs =>
        return Prod.map ((← ofSurrogates n (← hex4 a b c d)) :: ·) id (← stringBody cs)
      | _ => none
  | '\\' :: c :: cs => do
    return Prod.map ((← simpleEscape c) :: ·) id (← stringBody cs)
  | c :: cs =>
    if c.toNat < 32 then none else (stringBody cs).map (Prod.map (c :: ·) id)

-- An integer literal has no leading zeros.
def natural : List Char → Option (Nat × List Char)
  | '0' :: cs => some (0, cs)
  | c :: cs   =>
    if c.isDigit then
      some (Nat.ofDigitChars 10 ((c :: cs).takeWhile Char.isDigit) 0, (c :: cs).dropWhile Char.isDigit)
    else none
  | []        => none

def number : List Char → Option (Json × List Char)
  | '-' :: cs => (natural cs).map fun (n, cs) => (int (-n), cs)
  | cs        => (natural cs).map fun (n, cs) => (int n, cs)

mutual

def value : Nat → List Char → Option (Json × List Char)
  | 0, _ => none
  | _ + 1, 'n' :: 'u' :: 'l' :: 'l' :: cs => some (null, cs)
  | _ + 1, 't' :: 'r' :: 'u' :: 'e' :: cs => some (bool true, cs)
  | _ + 1, 'f' :: 'a' :: 'l' :: 's' :: 'e' :: cs => some (bool false, cs)
  | _ + 1, '"' :: cs => (stringBody cs).map fun (s, cs) => (str (.ofList s), cs)
  | n + 1, '[' :: cs =>
    match skip cs with
    | ']' :: cs => some (arr [], cs)
    | cs        => (items n cs).map fun (xs, cs) => (arr xs, cs)
  | n + 1, '{' :: cs =>
    match skip cs with
    | '}' :: cs => some (obj [], cs)
    | cs        => (members n cs).map fun (kvs, cs) => (obj kvs, cs)
  | _ + 1, cs => number cs

def items : Nat → List Char → Option (List Json × List Char)
  | 0, _ => none
  | n + 1, cs => do
    let (x, cs) ← value n cs
    match skip cs with
    | ',' :: cs => return Prod.map (x :: ·) id (← items n (skip cs))
    | ']' :: cs => return ([x], cs)
    | _         => none

def members : Nat → List Char → Option (List (String × Json) × List Char)
  | n + 1, '"' :: cs => do
    let (k, cs) ← stringBody cs
    match skip cs with
    | ':' :: cs =>
      let (v, cs) ← value n (skip cs)
      match skip cs with
      | ',' :: cs => return Prod.map ((.ofList k, v) :: ·) id (← members n (skip cs))
      | '}' :: cs => return ([(.ofList k, v)], cs)
      | _         => none
    | _ => none
  | _, _ => none

end

-- `json.loads`; every call of the reader consumes a character, so the length of the text is enough
-- fuel.
def loads (s : String) : Option Json :=
  match value s.length (skip s.toList) with
  | some (j, cs) => if skip cs = [] then some j else none
  | none         => none

theorem hexDigit_hexChar (n : Nat) : hexDigit (hexChar n) = some (n % 16) := by
  have h : ∀ m < 16, hexDigit (Nat.digitChar m) = some m := by decide
  exact h _ (Nat.mod_lt _ (by decide))

theorem hex4_control {n : Nat} (h : n < 32) :
    hex4 '0' '0' (hexChar (n / 16)) (hexChar n) = some n := by
  simp only [hex4, hexDigit_hexChar, show hexDigit '0' = some 0 from rfl, Option.bind_eq_bind,
    Option.bind_some, Option.pure_def, Option.some.injEq]
  omega

theorem ofCodePoint_control {c : Char} (h : c.toNat < 32) : ofCodePoint c.toNat = some c := by
  have : c.toNat < 0xd800 := by omega
  simp [ofCodePoint, this]

theorem stringBody_plain {c : Char} {cs : List Char} (h₁ : c ≠ '"') (h₂ : c ≠ '\\')
    (h₃ : ¬c.toNat < 32) : stringBody (c :: cs) = (stringBody cs).map (Prod.map (c :: ·) id) := by
  rw [stringBody.eq_def]
  split
  case h_5 hc =>
    injection hc with hc hcs
    subst hc hcs
    exact if_neg h₃
  all_goals simp_all

theorem stringBody_simple {c d : Char} {cs : List Char} (h : simpleEscape c = some d) :
    stringBody ('\\' :: c :: cs) = (stringBody cs).map (Prod.map (d :: ·) id) := by
  rw [stringBody.eq_def]
  split
  case h_1 hc => cases hc
  case h_2 hc => simp at hc
  case h_3 hc =>
    simp only [List.cons.injEq, true_and] at hc
    simp [hc.left, simpleEscape] at h
  case h_4 hc =>
    injection hc with _ hc
    injection hc with hc hcs
    subst hc hcs
    rw [h]
    cases stringBody cs <;> rfl
  case h_5 hn hc =>
    injection hc with hc hcs
    exact absurd hcs.symm (hn _ _ hc.symm)

theorem stringBody_control {c : Char} {cs : List Char} (h : c.toNat < 32) :
    stringBody ('\\' :: 'u' :: '0' :: '0' :: hexChar (c.toNat / 16) :: hexChar c.toNat :: cs) =
      (stringBody cs).map (Prod.map (c :: ·) id) := by
  simp only [stringBody, hex4_control h, Option.bind_eq_bind, Option.bind_some,
    ofCodePoint_control h]
  cases stringBody cs <;> rfl

theorem stringBody_escape (c : Char) (cs : List Char) :
    stringBody (escape c ++ cs) = (stringBody cs).map (Prod.map (c :: ·) id) := by
  by_cases h₁ : c = '"'
  case pos => subst c; exact stringBody_simple rfl
  by_cases h₂ : c = '\\'
  case pos => subst c; exact stringBody_simple rfl
  unfold escape
  split_ifs with h₃ h₄ h₅ h₆ h₇ h₈
  any_goals
    subst c
    exact stringBody_simple rfl
  · exact stringBody_control h₈
  · exact stringBody_plain h₁ h₂ h₈

theorem stringBody_escaped (s cs : List Char) :
    stringBody (s.flatMap escape ++ '"' :: cs) = some (s, cs) := by
  induction s
  case nil         => simp [stringBody]
  case cons c s ih => simp [stringBody_escape, ih]

theorem quote_append (s : String) (cs : List Char) :
    quote s ++ cs = '"' :: (s.toList.flatMap escape ++ '"' :: cs) := by
  simp [quote]

-- What follows a number must not continue it.
def Ends (cs : List Char) : Prop :=
  ∀ c ∈ cs.head?, c.isDigit = false

theorem Ends.cons {c : Char} {cs : List Char} (h : c.isDigit = false) : Ends (c :: cs) := by
  simp [Ends, h]

theorem isDigit_of_mem_toDigits {n : Nat} {c : Char} (h : c ∈ Nat.toDigits 10 n) : c.isDigit :=
  Nat.isDigit_of_mem_toDigits (by decide) (by decide) h

theorem takeWhile_digits {ds cs : List Char} (hd : ∀ c ∈ ds, c.isDigit) (hc : Ends cs) :
    (ds ++ cs).takeWhile Char.isDigit = ds ∧ (ds ++ cs).dropWhile Char.isDigit = cs := by
  induction ds
  case nil =>
    cases cs
    case nil      => simp
    case cons c _ => simp [hc c (by simp)]
  case cons d ds ih =>
    have ⟨h₁, h₂⟩ := ih fun c hm => hd c (by simp [hm])
    simp [hd d (by simp), h₁, h₂]

theorem toDigits_eq_zero_cons {n : Nat} {ds : List Char} (h : Nat.toDigits 10 n = '0' :: ds) :
    n = 0 := by
  induction n using Nat.strongRecOn generalizing ds
  case ind n ih =>
    by_cases hn : n < 10
    case pos =>
      rw [Nat.toDigits_of_lt_base hn, List.cons.injEq, Nat.digitChar_eq_zero] at h
      exact h.left
    case neg =>
      rw [Nat.toDigits_of_base_le (by decide) (by omega)] at h
      cases hd : Nat.toDigits 10 (n / 10)
      case nil => exact absurd hd Nat.toDigits_ne_nil
      case cons d ds' =>
        simp only [hd, List.cons_append, List.cons.injEq] at h
        have := ih (n / 10) (by omega) (h.left ▸ hd)
        omega

theorem natural_toDigits (n : Nat) {cs : List Char} (h : Ends cs) :
    natural (Nat.toDigits 10 n ++ cs) = some (n, cs) := by
  have hd := fun c => isDigit_of_mem_toDigits (n := n) (c := c)
  have ⟨ht, hw⟩ := takeWhile_digits hd h
  cases he : Nat.toDigits 10 n
  case nil => exact absurd he Nat.toDigits_ne_nil
  case cons d ds =>
    by_cases hz : d = '0'
    case pos =>
      subst hz
      cases toDigits_eq_zero_cons he
      simp only [Nat.toDigits_zero, List.cons.injEq, true_and] at he
      simp [← he, natural]
    case neg =>
      have hd' : d.isDigit := hd d (by simp [he])
      rw [he] at ht hw
      rw [List.cons_append] at ht hw ⊢
      rw [natural.eq_def]
      split
      case h_1 => simp_all
      case h_3 => simp_all
      case h_2 hc =>
        injection hc with hc₁ hc₂
        subst hc₁ hc₂
        rw [ht, hw, ← he]
        simp [hd']

theorem toDigits_head_digit (n : Nat) :
    ∃ d ds, Nat.toDigits 10 n = d :: ds ∧ d.isDigit = true := by
  cases he : Nat.toDigits 10 n
  case nil       => exact absurd he Nat.toDigits_ne_nil
  case cons d ds => exact ⟨d, ds, rfl, isDigit_of_mem_toDigits (n := n) (by simp [he])⟩

theorem number_of_digit {d : Char} {cs : List Char} (h : d.isDigit = true) :
    number (d :: cs) = (natural (d :: cs)).map fun (n, cs) => (int n, cs) := by
  rw [number.eq_def]
  split
  case h_1 hc =>
    injection hc with hc
    simp [hc] at h
  case h_2 => rfl

theorem number_intText (i : Int) {cs : List Char} (h : Ends cs) :
    number (intText i ++ cs) = some (int i, cs) := by
  cases i
  case negSucc n =>
    simp [intText, number, natural_toDigits _ h, Int.negSucc_eq]
  case ofNat n =>
    have ⟨d, ds, he, hd⟩ := toDigits_head_digit n
    simp only [intText]
    rw [he, List.cons_append, number_of_digit hd, ← List.cons_append, ← he, natural_toDigits _ h]
    rfl

-- The fuel that the reader needs for a value: one for each value, item and member.
mutual

def size : Json → Nat
  | arr xs  => 1 + itemsSize xs
  | obj kvs => 1 + membersSize kvs
  | _       => 1

def itemsSize : List Json → Nat
  | []      => 0
  | x :: xs => 1 + size x + itemsSize xs

def membersSize : List (String × Json) → Nat
  | []            => 0
  | (_, v) :: kvs => 1 + size v + membersSize kvs

end

-- A value never starts with white space or a closing bracket.
def Starts (cs : List Char) : Prop :=
  ∃ c rest, cs = c :: rest ∧ isSpace c = false ∧ c ≠ ']' ∧ c ≠ '}'

theorem Starts.append {cs : List Char} (h : Starts cs) (rest : List Char) : Starts (cs ++ rest) := by
  obtain ⟨c, r, rfl, h⟩ := h
  exact ⟨c, r ++ rest, rfl, h⟩

theorem Starts.skip {cs : List Char} (h : Starts cs) : Json.skip cs = cs := by
  obtain ⟨c, r, rfl, h, _⟩ := h
  simp [Json.skip, h]

theorem digit_facts {c : Char} (h : c.isDigit = true) :
    isSpace c = false ∧ c ≠ ']' ∧ c ≠ '}' ∧ c ≠ 'n' ∧ c ≠ 't' ∧ c ≠ 'f' ∧ c ≠ '"' ∧ c ≠ '[' ∧
      c ≠ '{' := by
  refine ⟨?_, ?_, ?_, ?_, ?_, ?_, ?_, ?_, ?_⟩
  case refine_1 =>
    simp only [isSpace, Bool.or_eq_false_iff, decide_eq_false_iff_not]
    refine ⟨⟨⟨?_, ?_⟩, ?_⟩, ?_⟩ <;> rintro rfl <;> revert h <;> decide
  all_goals
    rintro rfl
    revert h
    decide

theorem intText_starts (i : Int) : ∃ c rest, intText i = c :: rest ∧ (c = '-' ∨ c.isDigit = true) := by
  cases i
  case negSucc n => exact ⟨'-', _, rfl, .inl rfl⟩
  case ofNat n   =>
    have ⟨d, ds, h, hd⟩ := toDigits_head_digit n
    exact ⟨d, ds, h, .inr hd⟩

theorem text_starts (j : Json) : Starts (text j) := by
  cases j
  case null => exact ⟨'n', _, rfl, by decide⟩
  case bool b => cases b <;> exact ⟨_, _, rfl, by decide⟩
  case str s => exact ⟨'"', _, rfl, by decide⟩
  case arr xs => cases xs <;> exact ⟨'[', _, rfl, by decide⟩
  case obj kvs => cases kvs <;> exact ⟨'{', _, rfl, by decide⟩
  case int i =>
    have ⟨c, rest, h, hc⟩ := intText_starts i
    refine ⟨c, rest, by simp only [text, h], ?_⟩
    rcases hc with rfl | hc
    · decide
    · have := digit_facts hc
      tauto

theorem value_number (n : Nat) {c : Char} {cs : List Char} (h : c = '-' ∨ c.isDigit = true) :
    value (n + 1) (c :: cs) = number (c :: cs) := by
  have : c ≠ 'n' ∧ c ≠ 't' ∧ c ≠ 'f' ∧ c ≠ '"' ∧ c ≠ '[' ∧ c ≠ '{' := by
    rcases h with rfl | h
    · decide
    · have := digit_facts h
      tauto
  rw [value.eq_def]
  split <;> simp_all

theorem value_arr (n : Nat) {cs : List Char} (h : Starts cs) :
    value (n + 1) ('[' :: cs) = (items n cs).map fun (xs, cs) => (arr xs, cs) := by
  have hs := h.skip
  obtain ⟨c, r, rfl, _, hc, _⟩ := h
  simp only [value, hs]
  split <;> simp_all

theorem value_obj (n : Nat) {cs : List Char} (h : Starts cs) :
    value (n + 1) ('{' :: cs) = (members n cs).map fun (kvs, cs) => (obj kvs, cs) := by
  have hs := h.skip
  obtain ⟨c, r, rfl, _, _, hc⟩ := h
  simp only [value, hs]
  split <;> simp_all

theorem quote_starts (s : String) (cs : List Char) : Starts (quote s ++ cs) :=
  ⟨'"', _, rfl, by decide⟩

@[simp]
theorem skip_comma (cs : List Char) : skip (',' :: cs) = ',' :: cs :=
  rfl

@[simp]
theorem skip_colon (cs : List Char) : skip (':' :: cs) = ':' :: cs :=
  rfl

@[simp]
theorem skip_bracket (cs : List Char) : skip (']' :: cs) = ']' :: cs :=
  rfl

@[simp]
theorem skip_brace (cs : List Char) : skip ('}' :: cs) = '}' :: cs :=
  rfl

mutual

theorem value_text : ∀ (j : Json) (n : Nat) (cs : List Char), size j ≤ n → Ends cs →
    value n (text j ++ cs) = some (j, cs)
  | j, 0, _, h, _ => by cases j <;> simp [size] at h
  | null, n + 1, cs, _, _ => by simp [text, value]
  | bool true, n + 1, cs, _, _ => by simp [text, value]
  | bool false, n + 1, cs, _, _ => by simp [text, value]
  | int i, n + 1, cs, _, hc => by
    have ⟨c, rest, h, hd⟩ := intText_starts i
    rw [text, ← number_intText i hc, h, List.cons_append, value_number n hd]
  | str s, n + 1, cs, _, _ => by
    rw [text, quote_append]
    simp [value, stringBody_escaped]
  | arr [], n + 1, cs, _, _ => by simp [text, value]
  | arr (x :: xs), n + 1, cs, h, _ => by
    have hi := items_text x xs n cs (by simp only [size] at h; omega)
    have hs := text_starts x |>.append (itemsText xs) |>.append cs
    rw [text, List.cons_append, List.cons_append, value_arr n hs, hi]
    rfl
  | obj [], n + 1, cs, _, _ => by simp [text, value]
  | obj ((k, v) :: kvs), n + 1, cs, h, _ => by
    have hm := members_text k v kvs n cs (by simp only [size] at h; omega)
    have hs := quote_starts k (':' :: v.text ++ membersText kvs ++ cs)
    rw [text]
    simp only [List.cons_append, List.append_assoc] at hs hm ⊢
    rw [value_obj n hs, hm]
    rfl

theorem items_text : ∀ (x : Json) (xs : List Json) (n : Nat) (cs : List Char),
    itemsSize (x :: xs) ≤ n → items n (text x ++ itemsText xs ++ cs) = some (x :: xs, cs)
  | _, _, 0, _, h => by simp [itemsSize] at h
  | x, [], n + 1, cs, h => by
    have hv := value_text x n (']' :: cs) (by simp only [itemsSize] at h; omega) (.cons rfl)
    simp [items, itemsText, hv]
  | x, y :: ys, n + 1, cs, h => by
    have hv := value_text x n (',' :: (text y ++ itemsText ys ++ cs))
      (by simp only [itemsSize] at h; omega) (.cons rfl)
    have hi := items_text y ys n cs (by simp only [itemsSize] at h ⊢; omega)
    have hs := text_starts y |>.append (itemsText ys) |>.append cs |>.skip
    simp only [itemsText, List.cons_append, List.append_assoc] at hv hi hs ⊢
    simp [items, hv, hi, hs]

theorem members_text : ∀ (k : String) (v : Json) (kvs : List (String × Json)) (n : Nat)
    (cs : List Char), membersSize ((k, v) :: kvs) ≤ n →
    members n (quote k ++ ':' :: text v ++ membersText kvs ++ cs) = some ((k, v) :: kvs, cs)
  | _, _, _, 0, _, h => by simp [membersSize] at h
  | k, v, [], n + 1, cs, h => by
    have hv := value_text v n ('}' :: cs) (by simp only [membersSize] at h; omega) (.cons rfl)
    have hs := text_starts v |>.append ('}' :: cs) |>.skip
    simp [membersText, quote_append, members, stringBody_escaped, hv, hs]
  | k, v, (k', v') :: kvs, n + 1, cs, h => by
    have hv := value_text v n (',' :: (quote k' ++ ':' :: text v' ++ membersText kvs ++ cs))
      (by simp only [membersSize] at h; omega) (.cons rfl)
    have hm := members_text k' v' kvs n cs (by simp only [membersSize] at h ⊢; omega)
    have hs := text_starts v
      |>.append (',' :: (quote k' ++ ':' :: text v' ++ membersText kvs ++ cs)) |>.skip
    have hs' := quote_starts k' (':' :: text v' ++ membersText kvs ++ cs) |>.skip
    simp only [membersText, List.cons_append, List.append_assoc] at hv hm hs hs' ⊢
    rw [quote_append]
    simp [members, stringBody_escaped, hv, hm, hs, hs']

end

mutual

theorem size_le_length : ∀ j : Json, size j ≤ (text j).length
  | null       => by simp [size, text]
  | bool true  => by simp [size, text]
  | bool false => by simp [size, text]
  | int i      => by
    have ⟨c, rest, h, _⟩ := intText_starts i
    simp [size, text, h]
  | str s => by simp [size, text, quote]
  | arr [] => by simp [size, itemsSize, text]
  | arr (x :: xs) => by
    have h₁ := size_le_length x
    have h₂ := itemsSize_lt_length xs
    simp only [size, itemsSize, text, List.length_append, List.length_cons]
    omega
  | obj [] => by simp [size, membersSize, text]
  | obj ((k, v) :: kvs) => by
    have h₁ := size_le_length v
    have h₂ := membersSize_lt_length kvs
    simp only [size, membersSize, text, List.length_append, List.length_cons]
    omega

theorem itemsSize_lt_length : ∀ xs : List Json, itemsSize xs < (itemsText xs).length
  | []      => by simp [itemsSize, itemsText]
  | x :: xs => by
    have h₁ := size_le_length x
    have h₂ := itemsSize_lt_length xs
    simp only [itemsSize, itemsText, List.length_append, List.length_cons]
    omega

theorem membersSize_lt_length :
    ∀ kvs : List (String × Json), membersSize kvs < (membersText kvs).length
  | []            => by simp [membersSize, membersText]
  | (k, v) :: kvs => by
    have h₁ := size_le_length v
    have h₂ := membersSize_lt_length kvs
    simp only [membersSize, membersText, List.length_append, List.length_cons]
    omega

end

-- The reader inverts the writer on every value.
@[simp]
theorem loads_dumps (j : Json) : loads (dumps j) = some j := by
  have h := value_text j (dumps j).length [] (by simpa [dumps] using size_le_length j) (by simp [Ends])
  rw [List.append_nil] at h
  simp only [loads, dumps, String.toList_ofList, (text_starts j).skip] at h ⊢
  rw [h]
  rfl

theorem dumps_injective : Function.Injective dumps :=
  fun _ _ h => Option.some.inj <| by rw [← loads_dumps, h, loads_dumps]

end Json
