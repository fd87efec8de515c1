import GeneralExecution.Primitives.Text

-- The texts that `int(.., 16)` reads, as a grammar.

namespace Text

section Characters

variable {c d : Char}

def hexDigits : List Char :=
  lowerHex ++ ['A', 'B', 'C', 'D', 'E', 'F']

theorem hexValue_isSome_iff : (hexValue c).isSome ↔ c ∈ hexDigits := by
  constructor
  case mp  =>
    intro h
    have hc : c = Char.ofNat c.toNat := (Char.ofNat_toNat c).symm
    have hn : c.toNat ∈ List.range 103 ∧
        (48 ≤ c.toNat ∧ c.toNat ≤ 57 ∨ 65 ≤ c.toNat ∧ c.toNat ≤ 70 ∨
          97 ≤ c.toNat ∧ c.toNat ≤ 102) := by
      simp only [hexValue] at h
      split at h
      case isTrue  => simp; omega
      case isFalse =>
        split at h
        case isTrue  => simp; omega
        case isFalse =>
          split at h
          case isTrue  => simp; omega
          case isFalse => cases h
    have hall : ∀ n ∈ List.range 103, (48 ≤ n ∧ n ≤ 57 ∨ 65 ≤ n ∧ n ≤ 70 ∨ 97 ≤ n ∧ n ≤ 102) →
        Char.ofNat n ∈ hexDigits := by
      decide +kernel
    rw [hc]
    exact hall _ hn.left hn.right
  case mpr =>
    have hall : hexDigits.all (fun c => (hexValue c).isSome) = true := by decide
    exact fun hc => List.all_eq_true.mp hall c hc

-- Outside the runs of decimal digits nothing is read otherwise.
theorem asciiDigit_cases (c : Char) :
    asciiDigit c = c ∨
      ∃ z ∈ decimalZeros, ∃ i < 10, c = Char.ofNat (z + i) ∧ asciiDigit c = Char.ofNat (48 + i) := by
  unfold asciiDigit
  split
  case h_1 z hz =>
    have hm := List.mem_of_find?_eq_some hz
    have hb := List.find?_some hz
    simp only [Bool.and_eq_true, decide_eq_true_eq] at hb
    refine .inr ⟨z, hm, c.toNat - z, by omega, ?_, rfl⟩
    rw [Nat.add_sub_cancel' hb.left, Char.ofNat_toNat]
  case h_2 => exact .inl rfl

theorem decimal_facts : ∀ z ∈ decimalZeros, ∀ i < 10,
    isIntSpace (Char.ofNat (z + i)) = false ∧ 127 < (Char.ofNat (z + i)).toNat := by
  decide +kernel

theorem digit_facts : ∀ i < 10,
    isIntSpace (Char.ofNat (48 + i)) = false ∧ Char.ofNat (48 + i) ∈ hexDigits := by
  decide

theorem asciiDigit_of_ascii (h : c.toNat ≤ 127) : asciiDigit c = c := by
  cases asciiDigit_cases c
  case inl hc => exact hc
  case inr hc =>
    have ⟨z, hz, i, hi, he, _⟩ := hc
    have hgt := (decimal_facts z hz i hi).right
    rw [← he] at hgt
    omega

-- What is not a digit is only read as itself.
theorem eq_of_asciiDigit (h : asciiDigit c = d) (hd : d ∉ hexDigits) : c = d := by
  cases asciiDigit_cases c
  case inl hc => exact hc.symm.trans h
  case inr hc =>
    have ⟨_, _, i, hi, _, he⟩ := hc
    have hm := (digit_facts i hi).right
    rw [← he, h] at hm
    exact absurd hm hd

theorem isIntSpace_asciiDigit (c : Char) : isIntSpace (asciiDigit c) = isIntSpace c := by
  cases asciiDigit_cases c
  case inl hc => rw [hc]
  case inr hc =>
    have ⟨z, hz, i, hi, he, hv⟩ := hc
    rw [hv, (digit_facts i hi).left, he, (decimal_facts z hz i hi).left]

-- A digit of base 16, or a decimal digit of another script.
def IsDigit16 (c : Char) : Prop :=
  asciiDigit c ∈ hexDigits

theorem not_intSpace_of_hex (h : c ∈ hexDigits) : isIntSpace c = false := by
  have hall : hexDigits.all (fun c => !isIntSpace c) = true := by decide
  simpa using List.all_eq_true.mp hall c h

theorem IsDigit16.not_intSpace (h : IsDigit16 c) : isIntSpace c = false := by
  rw [← isIntSpace_asciiDigit]
  exact not_intSpace_of_hex h

theorem IsDigit16.ascii (h : IsDigit16 c) (hc : c ∉ hexDigits) : 127 < c.toNat := by
  by_contra hn
  have he := asciiDigit_of_ascii (c := c) (by omega)
  rw [IsDigit16, he] at h
  exact hc h

theorem hex_ascii (h : c ∈ hexDigits) : c.toNat ≤ 127 := by
  have hall : hexDigits.all (fun c => decide (c.toNat ≤ 127)) = true := by decide
  simpa using List.all_eq_true.mp hall c h

theorem isDigit16_of_hex (h : c ∈ hexDigits) : IsDigit16 c := by
  rw [IsDigit16, asciiDigit_of_ascii (hex_ascii h)]
  exact h

theorem not_isDigit16_underscore : ¬IsDigit16 '_' := by
  rw [IsDigit16, asciiDigit_of_ascii (by decide)]
  decide

end Characters

section Case

variable {c : Char} {cs : List Char}

theorem lower_cons : lower (c :: cs) = lower [c] ++ lower cs := by
  simp [lower]

theorem lower_of_hex (h : c ∈ hexDigits) : ∃ d ∈ lowerHex, lower [c] = [d] := by
  rw [hexDigits, List.mem_append] at h
  cases h
  case inl hc =>
    have hall : lowerHex.all (fun c => lower [c] = [c]) = true := by decide
    exact ⟨c, hc, of_decide_eq_true <| List.all_eq_true.mp hall c hc⟩
  case inr hc =>
    simp only [List.mem_cons, List.not_mem_nil, or_false] at hc
    rcases hc with rfl | rfl | rfl | rfl | rfl | rfl <;> exact ⟨_, by decide, rfl⟩

theorem hex_of_lower (h : ∀ d ∈ lower [c], d ∈ lowerHex) : c ∈ hexDigits := by
  simp only [lower, List.flatMap_cons, List.flatMap_nil, List.append_nil] at h
  split at h
  case isTrue hc =>
    have hall : ∀ i < 26, Char.ofNat (65 + i + 32) ∈ lowerHex → Char.ofNat (65 + i) ∈ hexDigits := by
      decide +kernel
    have hlo : 65 ≤ c.toNat := hc.left
    have hhi : c.toNat ≤ 90 := hc.right
    have hi := hall (c.toNat - 65) (by omega)
    rw [Nat.add_sub_cancel' hlo, Char.ofNat_toNat] at hi
    exact hi <| h _ (by simp)
  case isFalse =>
    split at h
    case isTrue  => exact absurd (h 'k' (by simp)) (by decide)
    case isFalse =>
      split at h
      case isTrue  => exact absurd (h 'i' (by simp)) (by decide)
      case isFalse => exact List.mem_append_left _ <| h c (by simp)

theorem lower_hex (h : ∀ c ∈ cs, c ∈ hexDigits) :
    (lower cs).length = cs.length ∧ ∀ d ∈ lower cs, d ∈ lowerHex := by
  induction cs
  case nil          => simp [lower]
  case cons c cs ih =>
    have ⟨d, hd, he⟩ := lower_of_hex <| h c List.mem_cons_self
    have ⟨hl, hm⟩ := ih fun e hm => h e <| List.mem_cons_of_mem _ hm
    rw [lower_cons, he]
    exact ⟨by simp [hl], by simpa using ⟨hd, hm⟩⟩

theorem hex_of_lower_all (h : ∀ d ∈ lower cs, d ∈ lowerHex) : ∀ c ∈ cs, c ∈ hexDigits := by
  induction cs
  case nil          => simp
  case cons c cs ih =>
    rw [lower_cons] at h
    have hc := hex_of_lower fun d hd => h d (List.mem_append_left _ hd)
    simpa using ⟨hc, ih fun d hd => h d (List.mem_append_right _ hd)⟩

theorem length_of_lower (h : ∀ d ∈ lower cs, d ∈ lowerHex) : (lower cs).length = cs.length :=
  (lower_hex <| hex_of_lower_all h).left

end Case

section Grammar

-- Digits with single underscores between them.
inductive Digits : List Char → Prop
  | single {c : Char} : IsDigit16 c → Digits [c]
  | digit {c : Char} {cs : List Char} : IsDigit16 c → Digits cs → Digits (c :: cs)
  | underscore {c : Char} {cs : List Char} : IsDigit16 c → Digits cs → Digits (c :: '_' :: cs)

variable {c : Char} {cs : List Char}

theorem digits_cons_iff :
    Digits (c :: cs) ↔
      IsDigit16 c ∧ (cs = [] ∨ Digits cs ∨ ∃ ds, cs = '_' :: ds ∧ Digits ds) := by
  constructor
  case mp  =>
    intro h
    cases h
    case single hc        => exact ⟨hc, .inl rfl⟩
    case digit hc hd      => exact ⟨hc, .inr <| .inl hd⟩
    case underscore hd hc => exact ⟨hc, .inr <| .inr ⟨_, rfl, hd⟩⟩
  case mpr =>
    intro ⟨hc, h⟩
    rcases h with rfl | hd | ⟨ds, rfl, hd⟩
    case inl         => exact .single hc
    case inr.inl     => exact .digit hc hd
    case inr.inr     => exact .underscore hc hd

theorem Digits.head (h : Digits cs) : ∃ c ds, cs = c :: ds ∧ IsDigit16 c := by
  cases h
  case single hc       => exact ⟨_, _, rfl, hc⟩
  case digit hc _      => exact ⟨_, _, rfl, hc⟩
  case underscore hc _ => exact ⟨_, _, rfl, hc⟩

theorem Digits.last (h : Digits cs) : ∃ ds c, cs = ds ++ [c] ∧ IsDigit16 c := by
  induction h
  case single c hc          => exact ⟨[], c, rfl, hc⟩
  case digit c cs _ _ ih    =>
    have ⟨ds, d, he, hd⟩ := ih
    exact ⟨c :: ds, d, by rw [he]; rfl, hd⟩
  case underscore c cs _ _ ih =>
    have ⟨ds, d, he, hd⟩ := ih
    exact ⟨c :: '_' :: ds, d, by rw [he]; rfl, hd⟩

theorem Digits.mem (h : Digits cs) : ∀ c ∈ cs, c = '_' ∨ IsDigit16 c := by
  induction h
  case single hc          => simpa using .inr hc
  case digit hc _ ih      => simpa using ⟨.inr hc, ih⟩
  case underscore hc _ ih => simpa using ⟨.inr hc, ih⟩

theorem digits_of_hex (h : ∀ c ∈ cs, c ∈ hexDigits) (hn : cs ≠ []) : Digits cs := by
  induction cs
  case nil          => exact absurd rfl hn
  case cons c cs ih =>
    have hc : IsDigit16 c := isDigit16_of_hex <| h c List.mem_cons_self
    rw [digits_cons_iff]
    by_cases he : cs = []
    case pos => exact ⟨hc, .inl he⟩
    case neg => exact ⟨hc, .inr <| .inl <| ih (fun d hd => h d <| List.mem_cons_of_mem _ hd) he⟩

theorem digitsOk_underscore {b : Bool} :
    digitsOk b ('_' :: cs) = true ↔ b = true ∧ digitsOk false cs = true := by
  cases cs
  case nil         => simp [digitsOk]
  case cons d cs =>
    by_cases hd : d = '_'
    case pos => simp [digitsOk, hd]
    case neg => simp [digitsOk, hd]; tauto

theorem digitsOk_cons_of_ne {b : Bool} (hc : c ≠ '_') :
    digitsOk b (c :: cs) = true ↔ c ∈ hexDigits ∧ digitsOk true cs = true := by
  simp [digitsOk, hc, hexValue_isSome_iff]

-- What follows a digit, or the beginning of the digits.
theorem digitsOk_map_iff {b : Bool} :
    digitsOk b (cs.map asciiDigit) = true ↔
      Digits cs ∨ b = true ∧ (cs = [] ∨ ∃ ds, cs = '_' :: ds ∧ Digits ds) := by
  induction cs generalizing b
  case nil =>
    have hn : ¬Digits [] := fun h => by cases h
    simp [digitsOk, hn]
  case cons c cs ih =>
    by_cases hc : c = '_'
    case pos =>
      subst hc
      have hu : asciiDigit '_' = '_' := asciiDigit_of_ascii (by decide)
      have hn : ¬Digits ('_' :: cs) := fun h => not_isDigit16_underscore (digits_cons_iff.mp h).left
      rw [List.map_cons, hu, digitsOk_underscore, ih]
      simp [hn]
    case neg =>
      have hu : asciiDigit c ≠ '_' := fun h => hc <| eq_of_asciiDigit h (by decide)
      rw [List.map_cons, digitsOk_cons_of_ne hu, ih, digits_cons_iff, IsDigit16]
      simp [hc]
      tauto

end Grammar

section Literals

-- A literal of base 16, with what may stand around its digits. The zero of a base may come from
-- another script as the digits may.
structure IntLiteral where
  lead   : List Char
  sign   : List Char
  base   : List Char
  digits : List Char
  trail  : List Char
  spaces : ∀ c ∈ lead ++ trail, isIntSpace c = true
  signed : sign ∈ [[], ['+'], ['-']]
  based  : base.map asciiDigit ∈ [[], ['0', 'x'], ['0', 'X'], ['0', 'x', '_'], ['0', 'X', '_']]
  spelt  : Digits digits

namespace IntLiteral

def text (l : IntLiteral) : List Char :=
  l.lead ++ (l.sign ++ (l.base ++ l.digits) ++ l.trail)

-- Something else than 16-digits of ASCII.
def Decorated (l : IntLiteral) : Prop :=
  l.lead ≠ [] ∨ l.sign ≠ [] ∨ l.base ≠ [] ∨ '_' ∈ l.digits ∨ (∃ c ∈ l.digits, 127 < c.toNat) ∨
    l.trail ≠ []

end IntLiteral

variable {cs lead mid trail : List Char}

theorem dropWhile_of_not {p : Char → Bool} {c : Char} (h : p c = false) :
    (c :: cs).dropWhile p = c :: cs := by
  simp [h]

theorem stripInt_append (hl : ∀ c ∈ lead, isIntSpace c = true)
    (ht : ∀ c ∈ trail, isIntSpace c = true) {c d : Char} {as bs : List Char}
    (hc : mid = c :: as) (hcs : isIntSpace c = false) (hd : mid = bs ++ [d])
    (hds : isIntSpace d = false) : stripInt (lead ++ (mid ++ trail)) = mid := by
  have hlead : (lead ++ (mid ++ trail)).dropWhile isIntSpace = mid ++ trail := by
    rw [List.dropWhile_append_of_pos hl, hc, List.cons_append, dropWhile_of_not hcs]
  have htrail : (mid ++ trail).reverse.dropWhile isIntSpace = mid.reverse := by
    rw [List.reverse_append, List.dropWhile_append_of_pos (by simpa using ht), hd,
      List.reverse_append, List.reverse_singleton, List.singleton_append, dropWhile_of_not hds]
  rw [stripInt, hlead, htrail, List.reverse_reverse]

-- What is stripped, and what is dropped.
theorem stripInt_split (cs : List Char) :
    ∃ lead trail, cs = lead ++ (stripInt cs ++ trail) ∧
      ∀ c ∈ lead ++ trail, isIntSpace c = true := by
  refine ⟨cs.takeWhile isIntSpace,
    ((cs.dropWhile isIntSpace).reverse.takeWhile isIntSpace).reverse, ?_, ?_⟩
  case refine_1 =>
    rw [stripInt, ← List.reverse_append, List.takeWhile_append_dropWhile, List.reverse_reverse,
      List.takeWhile_append_dropWhile]
  case refine_2 =>
    intro c hc
    rw [List.mem_append, List.mem_reverse] at hc
    cases hc
    case inl hc => exact List.mem_takeWhile_imp hc
    case inr hc => exact List.mem_takeWhile_imp hc

theorem dropSign_split (cs : List Char) :
    ∃ sign ∈ [[], ['+'], ['-']], cs = sign ++ dropSign cs := by
  unfold dropSign
  split
  case h_1 => exact ⟨['+'], by simp, rfl⟩
  case h_2 => exact ⟨['-'], by simp, rfl⟩
  case h_3 => exact ⟨[], by simp, rfl⟩

theorem dropBase_split (cs : List Char) :
    ∃ base ∈ [[], ['0', 'x'], ['0', 'X'], ['0', 'x', '_'], ['0', 'X', '_']],
      cs = base ++ dropBase cs := by
  unfold dropBase
  split
  case h_1 => exact ⟨['0', 'x', '_'], by simp, rfl⟩
  case h_2 => exact ⟨['0', 'X', '_'], by simp, rfl⟩
  case h_3 => exact ⟨['0', 'x'], by simp, rfl⟩
  case h_4 => exact ⟨['0', 'X'], by simp, rfl⟩
  case h_5 => exact ⟨[], by simp, rfl⟩

theorem dropSign_append {sign : List Char} (hs : sign ∈ [[], ['+'], ['-']])
    (hn : ∀ c ∈ cs.head?, c ≠ '+' ∧ c ≠ '-') : dropSign (sign ++ cs) = cs := by
  simp only [List.mem_cons, List.not_mem_nil, or_false] at hs
  rcases hs with rfl | rfl | rfl
  case inl =>
    cases cs
    case nil       => rfl
    case cons c cs =>
      have hc := hn c rfl
      simp [dropSign, hc.left, hc.right]
  case inr.inl => rfl
  case inr.inr => rfl

-- The digits begin with a digit, and an `x` follows none.
theorem dropBase_append {base : List Char}
    (hb : base ∈ [[], ['0', 'x'], ['0', 'X'], ['0', 'x', '_'], ['0', 'X', '_']]) {c : Char}
    (hc : c ≠ '_') (hx : ∀ d ∈ cs.head?, d ≠ 'x' ∧ d ≠ 'X') :
    dropBase (base ++ c :: cs) = c :: cs := by
  simp only [List.mem_cons, List.not_mem_nil, or_false] at hb
  rcases hb with rfl | rfl | rfl | rfl | rfl
  case inl =>
    cases cs
    case nil       => simp [dropBase]
    case cons d ds =>
      have hd := hx d rfl
      simp [dropBase, hd.left, hd.right]
  case inr.inl             => simp [dropBase, hc]
  case inr.inr.inl         => simp [dropBase, hc]
  case inr.inr.inr.inl     => rfl
  case inr.inr.inr.inr     => rfl

-- The text without its white space begins and ends with something else.
theorem mid_head {sign base digits : List Char} (hs : sign ∈ [[], ['+'], ['-']])
    (hb : base ∈ [[], ['0', 'x'], ['0', 'X'], ['0', 'x', '_'], ['0', 'X', '_']]) {d : Char}
    {ds : List Char} (hd : digits = d :: ds) (hn : isIntSpace d = false) :
    ∃ c as, sign ++ (base ++ digits) = c :: as ∧ isIntSpace c = false := by
  simp only [List.mem_cons, List.not_mem_nil, or_false] at hs
  rcases hs with rfl | rfl | rfl
  case inl =>
    simp only [List.mem_cons, List.not_mem_nil, or_false] at hb
    rcases hb with rfl | hb
    case inl => exact ⟨d, ds, hd, hn⟩
    case inr => rcases hb with rfl | rfl | rfl | rfl <;> exact ⟨'0', _, rfl, by decide⟩
  case inr.inl => exact ⟨'+', _, rfl, by decide⟩
  case inr.inr => exact ⟨'-', _, rfl, by decide⟩

theorem map_sign {sign : List Char} (hs : sign ∈ [[], ['+'], ['-']]) :
    sign.map asciiDigit = sign := by
  simp only [List.mem_cons, List.not_mem_nil, or_false] at hs
  rcases hs with rfl | rfl | rfl
  case inl     => rfl
  case inr.inl => decide
  case inr.inr => decide

theorem sign_of_map {sign : List Char} (hs : sign.map asciiDigit ∈ [[], ['+'], ['-']]) :
    sign ∈ [[], ['+'], ['-']] := by
  simp only [List.mem_cons, List.not_mem_nil, or_false, List.map_eq_nil_iff,
    List.map_eq_singleton_iff] at hs ⊢
  rcases hs with h | ⟨c, h, hc⟩ | ⟨c, h, hc⟩
  case inl     => exact .inl h
  case inr.inl => exact .inr <| .inl <| h.trans <| by rw [eq_of_asciiDigit hc (by decide)]
  case inr.inr => exact .inr <| .inr <| h.trans <| by rw [eq_of_asciiDigit hc (by decide)]

theorem spaces_map {cs : List Char} :
    (∀ c ∈ cs.map asciiDigit, isIntSpace c = true) ↔ ∀ c ∈ cs, isIntSpace c = true := by
  simp [isIntSpace_asciiDigit]

-- Neither a sign nor an `x` is read among the digits.
theorem ne_of_hex {c d : Char} (hc : c ∈ hexDigits) (hd : d ∉ hexDigits) : c ≠ d := by
  rintro rfl
  exact hd hc

theorem Digits.map_ascii (h : Digits cs) :
    ∃ c ds, cs.map asciiDigit = c :: ds ∧ c ∈ hexDigits ∧
      ∀ d ∈ ds.head?, d ≠ 'x' ∧ d ≠ 'X' := by
  cases cs
  case nil       => cases h
  case cons c cs =>
    have ⟨hc, hcs⟩ := digits_cons_iff.mp h
    refine ⟨asciiDigit c, cs.map asciiDigit, rfl, hc, ?_⟩
    rcases hcs with rfl | hcs | ⟨ds, rfl, _⟩
    case inl     => simp
    case inr.inl =>
      have ⟨d, ds, he, hd⟩ := hcs.head
      subst he
      simpa using ⟨ne_of_hex hd (by decide), ne_of_hex hd (by decide)⟩
    case inr.inr =>
      have hu : asciiDigit '_' = '_' := asciiDigit_of_ascii (by decide)
      simp [hu]

theorem base_head {base : List Char}
    (hb : base ∈ [[], ['0', 'x'], ['0', 'X'], ['0', 'x', '_'], ['0', 'X', '_']]) {c : Char}
    (hc : c ∈ hexDigits) : ∃ d ds, base ++ c :: cs = d :: ds ∧ d ∈ hexDigits := by
  simp only [List.mem_cons, List.not_mem_nil, or_false] at hb
  rcases hb with rfl | hb
  case inl => exact ⟨c, cs, rfl, hc⟩
  case inr => rcases hb with rfl | rfl | rfl | rfl <;> exact ⟨'0', _, rfl, by decide⟩

theorem IntLiteral.isInt16_text (l : IntLiteral) : isInt16 l.text = true := by
  have hsp := spaces_map.mpr l.spaces
  rw [List.map_append] at hsp
  have hlead : ∀ c ∈ l.lead.map asciiDigit, isIntSpace c = true :=
    fun c hc => hsp c (List.mem_append_left _ hc)
  have htrail : ∀ c ∈ l.trail.map asciiDigit, isIntSpace c = true :=
    fun c hc => hsp c (List.mem_append_right _ hc)
  have ⟨c, ds, hds, hc, hx⟩ := l.spelt.map_ascii
  have ⟨init, d, hinit, hd⟩ := l.spelt.last
  have ⟨e, es, he, hes⟩ := mid_head l.signed l.based hds (not_intSpace_of_hex hc)
  have hlast : l.sign ++ (l.base.map asciiDigit ++ l.digits.map asciiDigit) =
      (l.sign ++ (l.base.map asciiDigit ++ init.map asciiDigit)) ++ [asciiDigit d] := by
    simp [hinit]
  have hstrip := stripInt_append hlead htrail he hes hlast (not_intSpace_of_hex hd)
  have hmap : l.text.map asciiDigit = l.lead.map asciiDigit ++
      (l.sign ++ (l.base.map asciiDigit ++ l.digits.map asciiDigit) ++ l.trail.map asciiDigit) := by
    simp [text, map_sign l.signed]
  have ⟨f, fs, hf, hfs⟩ :
      ∃ f fs, l.base.map asciiDigit ++ c :: ds = f :: fs ∧ f ∈ hexDigits :=
    base_head l.based hc
  have hsign : ∀ c ∈ (l.base.map asciiDigit ++ l.digits.map asciiDigit).head?, c ≠ '+' ∧ c ≠ '-' := by
    rw [hds, hf]
    simpa using ⟨ne_of_hex hfs (by decide), ne_of_hex hfs (by decide)⟩
  rw [isInt16, hmap, hstrip, dropSign_append l.signed hsign, hds,
    dropBase_append l.based (ne_of_hex hc (by decide)) hx, ← hds, digitsOk_map_iff]
  exact .inl l.spelt

theorem exists_literal_of_isInt16 (h : isInt16 cs = true) :
    ∃ l : IntLiteral, l.text = cs := by
  have ⟨lead, trail, hcs, hspaces⟩ := stripInt_split (cs.map asciiDigit)
  have ⟨sign, hsign, hcore⟩ := dropSign_split (stripInt (cs.map asciiDigit))
  have ⟨base, hbase, hrest⟩ := dropBase_split (dropSign (stripInt (cs.map asciiDigit)))
  rw [hcore, hrest] at hcs
  have ⟨l₁, r₁, h₁, hlead, hr₁⟩ := List.map_eq_append_iff.mp hcs
  have ⟨m, l₅, h₂, hm, htrail⟩ := List.map_eq_append_iff.mp hr₁
  have ⟨l₂, r₂, h₃, hs, hr₂⟩ := List.map_eq_append_iff.mp hm
  have ⟨l₃, l₄, h₄, hb, hd⟩ := List.map_eq_append_iff.mp hr₂
  have hdigits : Digits l₄ := by
    rw [isInt16, ← hd, digitsOk_map_iff] at h
    simpa using h
  refine ⟨⟨l₁, l₂, l₃, l₄, l₅, ?_, ?_, hb ▸ hbase, hdigits⟩, ?_⟩
  case refine_1 =>
    rw [← spaces_map, List.map_append, hlead, htrail]
    exact hspaces
  case refine_2 => exact sign_of_map (hs ▸ hsign)
  case refine_3 => rw [IntLiteral.text, h₁, h₂, h₃, h₄]

theorem sign_not_hex {sign : List Char} (hs : sign ∈ [[], ['+'], ['-']]) (hn : sign ≠ []) :
    ∃ c ∈ sign, c ∉ hexDigits := by
  simp only [List.mem_cons, List.not_mem_nil, or_false, hn, false_or] at hs
  rcases hs with rfl | rfl
  case inl => exact ⟨'+', by simp, by decide⟩
  case inr => exact ⟨'-', by simp, by decide⟩

theorem base_not_hex {base : List Char}
    (hb : base.map asciiDigit ∈
      [[], ['0', 'x'], ['0', 'X'], ['0', 'x', '_'], ['0', 'X', '_']]) (hn : base ≠ []) :
    ∃ c ∈ base, c ∉ hexDigits := by
  have hx : ∃ d ∈ base.map asciiDigit, d ∉ hexDigits := by
    simp only [List.mem_cons, List.not_mem_nil, or_false, List.map_eq_nil_iff, hn, false_or] at hb
    rcases hb with h | h | h | h
    case inl         => exact ⟨'x', by simp [h], by decide⟩
    case inr.inl     => exact ⟨'X', by simp [h], by decide⟩
    case inr.inr.inl => exact ⟨'x', by simp [h], by decide⟩
    case inr.inr.inr => exact ⟨'X', by simp [h], by decide⟩
  obtain ⟨d, hd, hh⟩ := hx
  obtain ⟨c, hc, he⟩ := List.mem_map.mp hd
  exact ⟨d, eq_of_asciiDigit he hh ▸ hc, hh⟩

-- Each decoration leaves a character that is not a digit of base 16.
theorem IntLiteral.decorated_iff (l : IntLiteral) :
    l.Decorated ↔ ∃ c ∈ l.text, c ∉ hexDigits := by
  constructor
  case mp  =>
    intro h
    rcases h with h | h | h | h | ⟨c, hc, h⟩ | h
    case inl                 =>
      have ⟨c, hc⟩ := List.exists_mem_of_ne_nil _ h
      have hs := l.spaces c (List.mem_append_left _ hc)
      refine ⟨c, by simp [text, hc], fun hx => ?_⟩
      simp [not_intSpace_of_hex hx] at hs
    case inr.inl             =>
      have ⟨c, hc, hx⟩ := sign_not_hex l.signed h
      exact ⟨c, by simp [text, hc], hx⟩
    case inr.inr.inl         =>
      have ⟨c, hc, hx⟩ := base_not_hex l.based h
      exact ⟨c, by simp [text, hc], hx⟩
    case inr.inr.inr.inl     => exact ⟨'_', by simp [text, h], by decide⟩
    case inr.inr.inr.inr.inl =>
      refine ⟨c, by simp [text, hc], fun hx => ?_⟩
      have ha := hex_ascii hx
      omega
    case inr.inr.inr.inr.inr =>
      have ⟨c, hc⟩ := List.exists_mem_of_ne_nil _ h
      have hs := l.spaces c (List.mem_append_right _ hc)
      refine ⟨c, by simp [text, hc], fun hx => ?_⟩
      simp [not_intSpace_of_hex hx] at hs
  case mpr =>
    intro ⟨c, hc, hx⟩
    simp only [text, List.mem_append] at hc
    rcases hc with hc | (hc | hc | hc) | hc
    case inl             => exact .inl (List.ne_nil_of_mem hc)
    case inr.inl.inl     => exact .inr <| .inl (List.ne_nil_of_mem hc)
    case inr.inl.inr.inl => exact .inr <| .inr <| .inl (List.ne_nil_of_mem hc)
    case inr.inl.inr.inr =>
      cases l.spelt.mem c hc
      case inl hu => exact .inr <| .inr <| .inr <| .inl (hu ▸ hc)
      case inr hd => exact .inr <| .inr <| .inr <| .inr <| .inl ⟨c, hc, hd.ascii hx⟩
    case inr.inr         => exact .inr <| .inr <| .inr <| .inr <| .inr (List.ne_nil_of_mem hc)

def IntLiteral.plain (digits : List Char) (h : Digits digits) : IntLiteral where
  lead   := []
  sign   := []
  base   := []
  digits := digits
  trail  := []
  spaces := by simp
  signed := by simp
  based  := by simp
  spelt  := h

theorem IntLiteral.plain_text {digits : List Char} (h : Digits digits) :
    (plain digits h).text = digits := by
  simp [plain, text]

-- The exact language of `int(.., 16)`.
theorem isInt16_iff : isInt16 cs = true ↔ ∃ l : IntLiteral, l.text = cs := by
  constructor
  case mp  => exact exists_literal_of_isInt16
  case mpr =>
    rintro ⟨l, rfl⟩
    exact l.isInt16_text

end Literals

end Text
