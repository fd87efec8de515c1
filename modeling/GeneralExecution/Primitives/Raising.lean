import GeneralExecution.Primitives.Checks

-- Which errors a computation can fail with, by the way in which it is composed.

namespace Except

variable {ε α β : Type} {p : ε → Prop}

def Raises (p : ε → Prop) (x : Except ε α) : Prop :=
  ∃ e, x = .error e ∧ p e

@[simp]
theorem raises_ok {a : α} : ¬Raises p (.ok a : Except ε α) := by
  rintro ⟨e, he, _⟩
  cases he

@[simp]
theorem raises_pure {a : α} : ¬Raises p (pure a : Except ε α) :=
  raises_ok

@[simp]
theorem raises_error {e : ε} : Raises p (.error e : Except ε α) ↔ p e := by
  constructor
  case mp =>
    rintro ⟨_, he, hp⟩
    exact Except.error.inj he ▸ hp
  case mpr => exact fun hp => ⟨e, rfl, hp⟩

theorem raises_bind {x : Except ε α} {f : α → Except ε β} :
    Raises p (x >>= f) ↔ Raises p x ∨ ∃ a, x = .ok a ∧ Raises p (f a) := by
  cases x
  case error e => simp
  case ok a    => simp

-- A step before steps that fail alike, whatever it has computed.
theorem raises_bind_of {x : Except ε α} {f : α → Except ε β} {c : Prop}
    (h : ∀ a, x = .ok a → (Raises p (f a) ↔ c)) :
    Raises p (x >>= f) ↔ Raises p x ∨ (∃ a, x = .ok a) ∧ c := by
  rw [raises_bind]
  apply or_congr_right
  constructor
  case mp  => exact fun ⟨a, ha, hf⟩ => ⟨⟨a, ha⟩, (h a ha).mp hf⟩
  case mpr => exact fun ⟨⟨a, ha⟩, hc⟩ => ⟨a, ha, (h a ha).mpr hc⟩

@[simp]
theorem raises_map {x : Except ε α} {f : α → β} : Raises p (f <$> x) ↔ Raises p x := by
  cases x
  case error e => exact raises_error.trans raises_error.symm
  case ok a    => exact iff_of_false raises_ok raises_ok

@[simp]
theorem raises_ensure {c : Prop} [Decidable c] {e : ε} : Raises p (ensure c e) ↔ ¬c ∧ p e := by
  unfold ensure
  split
  case isTrue hc  => exact iff_of_false raises_ok (not_and_of_not_left _ (not_not.mpr hc))
  case isFalse hc => rw [raises_error, and_iff_right hc]

@[simp]
theorem raises_ofOption {e : ε} {o : Option α} : Raises p (ofOption e o) ↔ o = none ∧ p e := by
  cases o
  case none   => simp [ofOption]
  case some a => simp [ofOption]

-- A computation that cannot fail in this way.

theorem not_raises_bind {x : Except ε α} {f : α → Except ε β} (hx : ¬Raises p x)
    (hf : ∀ a, x = .ok a → ¬Raises p (f a)) : ¬Raises p (x >>= f) := by
  rw [raises_bind]
  rintro (h | ⟨a, ha, h⟩)
  · exact hx h
  · exact hf a ha h

theorem not_raises_mapM {f : α → Except ε β} {as : List α} (h : ∀ a ∈ as, ¬Raises p (f a)) :
    ¬Raises p (as.mapM f) := by
  induction as
  case nil => exact raises_pure
  case cons a as ih =>
    rw [List.mapM_cons]
    apply not_raises_bind (h a List.mem_cons_self)
    intro b _
    apply not_raises_bind (ih fun a' ha' => h a' (List.mem_cons_of_mem a ha'))
    exact fun _ _ => raises_pure

-- Of a run over the elements of a list, the first failure counts.
theorem raises_foldlM {f : β → α → Except ε β} {b : β} {as : List α} :
    Raises p (as.foldlM f b) ↔
      ∃ before a after b', as = before ++ a :: after ∧ before.foldlM f b = .ok b' ∧
        Raises p (f b' a) := by
  induction as generalizing b
  case nil => simp
  case cons a as ih =>
    rw [List.foldlM_cons, raises_bind]
    constructor
    case mp =>
      rintro (h | ⟨b₁, hb, h⟩)
      · exact ⟨[], a, as, b, rfl, rfl, h⟩
      · have ⟨before, a', after, b', ha, hf, hr⟩ := ih.mp h
        refine ⟨a :: before, a', after, b', by rw [ha, List.cons_append], ?_, hr⟩
        rw [List.foldlM_cons, hb, ok_bind, hf]
    case mpr =>
      rintro ⟨before, a', after, b', ha, hf, hr⟩
      cases before
      case nil =>
        obtain ⟨rfl, rfl⟩ := List.cons.inj ha
        exact .inl (Except.ok.inj hf ▸ hr)
      case cons c before =>
        obtain ⟨rfl, rfl⟩ := List.cons.inj ha
        rw [List.foldlM_cons] at hf
        have ⟨b₁, hb, hf⟩ := bind_eq_ok.mp hf
        exact .inr ⟨b₁, hb, ih.mpr ⟨before, a', after, b', rfl, hf, hr⟩⟩

theorem mapM_eq_ok_iff {f : α → Except ε β} {as : List α} {bs : List β} :
    as.mapM f = .ok bs ↔ List.Forall₂ (fun a b => f a = .ok b) as bs := by
  induction as generalizing bs
  case nil => cases bs <;> simp [pure, Except.pure]
  case cons a as ih =>
    rw [List.mapM_cons]
    simp only [bind_eq_ok, pure_eq_ok]
    constructor
    case mp =>
      rintro ⟨b, hb, bs', hbs, rfl⟩
      exact .cons hb (ih.mp hbs)
    case mpr =>
      intro h
      cases h
      case cons b bs' hb hbs => exact ⟨b, hb, bs', ih.mpr hbs, rfl⟩

theorem map_mapM {f : α → Except ε β} {g : β → α} {as : List α} {bs : List β} (h : as.mapM f = .ok bs)
    (hg : ∀ a b, f a = .ok b → g b = a) : bs.map g = as := by
  have hf := mapM_eq_ok_iff.mp h
  clear h
  induction hf
  case nil            => rfl
  case cons hab _ ih => rw [List.map_cons, hg _ _ hab, ih]

-- Reading back what has been written.
theorem exists_mapM_map {f : α → Except ε β} {g : β → α} {as : List α} (hf : ∀ b, f (g b) = .ok b)
    (h : ∀ a ∈ as, ∃ b, a = g b) : ∃ bs, as.mapM f = .ok bs ∧ bs.map g = as := by
  induction as
  case nil          => exact ⟨[], rfl, rfl⟩
  case cons a as ih =>
    rw [List.forall_mem_cons] at h
    obtain ⟨⟨b, rfl⟩, h⟩ := h
    obtain ⟨bs, hbs, rfl⟩ := ih h
    exact ⟨b :: bs, mapM_eq_ok_iff.mpr <| .cons (hf b) (mapM_eq_ok_iff.mp hbs), rfl⟩

-- The results of a list in another order.
theorem mapM_perm {f : α → Except ε β} {as as' : List α} {bs : List β} (hp : as.Perm as') (h : as.mapM f = .ok bs) :
    ∃ bs', as'.mapM f = .ok bs' ∧ bs'.Perm bs := by
  have ⟨bs', hbs, hperm⟩ := List.perm_comp_forall₂ hp.symm (mapM_eq_ok_iff.mp h)
  exact ⟨bs', mapM_eq_ok_iff.mpr hbs, hperm⟩

theorem exists_mapM_forall {f : α → Except ε β} {q : β → Prop} {as : List α} :
    (∃ bs, as.mapM f = .ok bs ∧ ∀ b ∈ bs, q b) ↔ ∀ a ∈ as, ∃ b, f a = .ok b ∧ q b := by
  induction as
  case nil => simp [pure, Except.pure]
  case cons a as ih =>
    rw [List.forall_mem_cons, ← ih]
    simp only [List.mapM_cons, bind_eq_ok, pure_eq_ok]
    constructor
    case mp =>
      rintro ⟨_, ⟨b, hb, bs, hbs, rfl⟩, hq⟩
      rw [List.forall_mem_cons] at hq
      exact ⟨⟨b, hb, hq.left⟩, bs, hbs, hq.right⟩
    case mpr =>
      rintro ⟨⟨b, hb, hq⟩, bs, hbs, hqs⟩
      exact ⟨b :: bs, ⟨b, hb, bs, hbs, rfl⟩, List.forall_mem_cons.mpr ⟨hq, hqs⟩⟩

-- A run whose steps all succeed, and what they preserve of the elements taken so far.
theorem exists_foldlM {f : β → α → Except ε β} {P : List α → β → Prop}
    (step : ∀ done b a, P done b → ∃ b', f b a = .ok b' ∧ P (done ++ [a]) b') {done : List α} {b : β}
    (h : P done b) (as : List α) : ∃ b', as.foldlM f b = .ok b' ∧ P (done ++ as) b' := by
  induction as generalizing done b
  case nil => exact ⟨b, rfl, by rwa [List.append_nil]⟩
  case cons a as ih =>
    have ⟨b₁, h₁, hp₁⟩ := step done b a h
    have ⟨b₂, h₂, hp₂⟩ := ih hp₁
    rw [List.append_assoc] at hp₂
    exact ⟨b₂, by rw [List.foldlM_cons, h₁, ok_bind, h₂], hp₂⟩

end Except
