import GeneralExecution.Primitives.Program

namespace Program

variable {σ ε α β : Type}

-- One statement that only reads.
def query (f : σ → α) : Program σ ε α :=
  .transaction (return f (← get))

@[simp]
theorem query_run (f : σ → α) (s : σ) : (query f : Program σ ε α).run s = (.ok (f s), s) :=
  rfl

theorem Respects.query {D : Discipline σ} {f : σ → α} {s : σ} {made : List (σ × σ)}
    {post : List (σ × σ) → Except ε α → σ → Prop}
    (h : ∀ s₁ s₂, D.inv s₁ → D.rely s s₁ → D.inv s₂ → D.rely s₁ s₂ →
      post (made ++ [(s₁, s₁)]) (.ok (f s₁)) s₂) :
    (query f).Respects D post made s :=
  fun s₁ hi hg => ⟨hi, D.idle s₁, fun s₂ hi₂ hg₂ => h s₁ s₂ hi hg hi₂ hg₂⟩

end Program

-- One access, with the call that has made it and the store before and after it.
structure Event (ℓ σ : Type) where
  label  : ℓ
  before : σ
  after  : σ

-- The accesses lead from one store to another, each from where the last one has ended.
inductive History {ℓ σ : Type} (s₀ : σ) : List (Event ℓ σ) → σ → Prop
  | nil : History s₀ [] s₀
  | snoc {es s} (l : ℓ) (s' : σ) : History s₀ es s → History s₀ (es ++ [⟨l, s, s'⟩]) s'

namespace History

variable {ℓ σ : Type} {s₀ s s' : σ} {es es' : List (Event ℓ σ)} {e e' : Event ℓ σ}

-- What each access keeps is kept from the end of one access to the end of the run.
theorem kept {R : σ → σ → Prop} (hr : ∀ s, R s s) (ht : ∀ {s₁ s₂ s₃}, R s₁ s₂ → R s₂ s₃ → R s₁ s₃)
    (h : History s₀ es s) (hR : ∀ e ∈ es, R e.before e.after) : R s₀ s := by
  induction h
  case nil => exact hr s₀
  case snoc es s l s' h ih =>
    have hm : ∀ e ∈ es, R e.before e.after := fun e he => hR e (List.mem_append_left _ he)
    exact ht (ih hm) <| hR ⟨l, s, s'⟩ (by simp)

theorem kept_after {R : σ → σ → Prop} (hr : ∀ s, R s s)
    (ht : ∀ {s₁ s₂ s₃}, R s₁ s₂ → R s₂ s₃ → R s₁ s₃)
    (h : History s₀ es s) (hR : ∀ e ∈ es, R e.before e.after) (he : e ∈ es) : R e.after s := by
  induction h
  case nil => simp at he
  case snoc es s l s' h ih =>
    have hm : ∀ e ∈ es, R e.before e.after := fun e he => hR e (List.mem_append_left _ he)
    rcases List.mem_append.mp he with he | he
    · exact ht (ih hm he) <| hR ⟨l, s, s'⟩ (by simp)
    · obtain rfl := List.mem_singleton.mp he
      exact hr s'

-- Of two accesses, the later one starts from where the earlier one has led.
theorem pairwise {R : σ → σ → Prop} (hr : ∀ s, R s s)
    (ht : ∀ {s₁ s₂ s₃}, R s₁ s₂ → R s₂ s₃ → R s₁ s₃)
    (h : History s₀ es s) (hR : ∀ e ∈ es, R e.before e.after) :
    es.Pairwise fun e e' => R e.after e'.before := by
  induction h
  case nil => exact .nil
  case snoc es s l s' h ih =>
    have hm : ∀ e ∈ es, R e.before e.after := fun e he => hR e (List.mem_append_left _ he)
    refine List.pairwise_append.mpr ⟨ih hm, List.pairwise_singleton _ _, fun e he e' he' => ?_⟩
    obtain rfl := List.mem_singleton.mp he'
    exact h.kept_after hr ht hm he

theorem before_mem_prefix (h : History s₀ es s) (he : e ∈ es) :
    ∃ es', es' ++ [e] <+: es ∧ History s₀ es' e.before := by
  induction h
  case nil => simp at he
  case snoc es s l s' h ih =>
    rcases List.mem_append.mp he with he | he
    · have ⟨es', hp, hh⟩ := ih he
      exact ⟨es', hp.trans (List.prefix_append _ _), hh⟩
    · obtain rfl := List.mem_singleton.mp he
      exact ⟨es, List.prefix_refl _, h⟩

end History

namespace Program

variable {ℓ σ ε α β : Type} {l : ℓ}

-- The same call over a store that keeps the history of its accesses.
def logged (l : ℓ) : Program σ ε α → Program (σ × List (Event ℓ σ)) ε α
  | done r     => done r
  | atomic w n => atomic (fun x => (w x.1, x.2 ++ [⟨l, x.1, w x.1⟩])) fun x => (n x.1).logged l

theorem logged_bind (p : Program σ ε α) (f : α → Program σ ε β) :
    (p >>= f).logged l = p.logged l >>= fun a => (f a).logged l := by
  induction p
  case done r        => cases r <;> rfl
  case atomic w n ih => exact congrArg (atomic _) <| funext fun x => ih x.1

theorem logged_run (p : Program σ ε α) (s : σ) (es : List (Event ℓ σ)) :
    (p.logged l).run (s, es) =
      ((p.run s).1, (p.run s).2, es ++ (p.trace s).map fun m => ⟨l, m.1, m.2⟩) := by
  induction p generalizing s es
  case done r        => simp [logged, trace]
  case atomic w n ih => simp [logged, run, trace, ih]

-- A call that ends with its label and with what it has returned or raised.
def answered (l : ℓ) (p : Program σ ε α) : Program σ ε (ℓ × Except ε α) := do
  return (l, ← p.attempt)

theorem answered_run (p : Program σ ε α) (s : σ) :
    (p.answered l).run s = (.ok (l, (p.run s).1), (p.run s).2) := by
  rw [answered, bind_run, attempt_run]
  rfl

theorem answered_trace (p : Program σ ε α) (s : σ) : (p.answered l).trace s = p.trace s := by
  induction p generalizing s
  case done r        => cases r <;> rfl
  case atomic w n ih => exact congrArg ((s, w s) :: ·) (ih s (w s))

theorem logged_trace (p : Program σ ε α) (s : σ) (es : List (Event ℓ σ)) :
    ((p.logged l).trace (s, es)).map (fun m => (m.1.1, m.2.1)) = p.trace s := by
  induction p generalizing s es
  case done r        => rfl
  case atomic w n ih => exact congrArg ((s, w s) :: ·) (ih s (w s) _)

section Respects

variable {D : Discipline σ} {p : Program σ ε α} {made : List (σ × σ)} {s : σ}
variable {post post' : List (σ × σ) → Except ε α → σ → Prop}

theorem Respects.answered {post : List (σ × σ) → Except ε (ℓ × Except ε α) → σ → Prop}
    (h : p.Respects D (fun made r s => post made (.ok (l, r)) s) made s) :
    (p.answered l).Respects D post made s := by
  induction p generalizing made s
  case done r => cases r <;> exact h
  case atomic w n ih =>
    intro s' hi hg
    have ⟨h₁, h₂, h₃⟩ := h s' hi hg
    exact ⟨h₁, h₂, ih s' h₃⟩

theorem Respects.map {f : α → β} {post : List (σ × σ) → Except ε β → σ → Prop}
    (h : p.Respects D (fun made r s => post made (r.map f) s) made s) :
    (p >>= fun a => pure (f a)).Respects D post made s := by
  induction p generalizing made s
  case done r => cases r <;> exact h
  case atomic w n ih =>
    intro s' hi hg
    have ⟨h₁, h₂, h₃⟩ := h s' hi hg
    exact ⟨h₁, h₂, ih s' h₃⟩

theorem Respects.extends (h : p.Respects D post made s) :
    p.Respects D (fun made' r s => made <+: made' ∧ post made' r s) made s := by
  induction p generalizing made s
  case done r => exact fun s' hi hg => ⟨List.prefix_refl _, h s' hi hg⟩
  case atomic w n ih =>
    intro s' hi hg
    have ⟨h₁, h₂, h₃⟩ := h s' hi hg
    refine ⟨h₁, h₂, (ih s' h₃).mono fun made' r s _ ⟨hp, hpost⟩ => ⟨?_, hpost⟩⟩
    exact (List.prefix_append _ _).trans hp

theorem Respects.both (h : p.Respects D post made s) (h' : p.Respects D post' made s) :
    p.Respects D (fun made r s => post made r s ∧ post' made r s) made s := by
  induction p generalizing made s
  case done r => exact fun s' hi hg => ⟨h s' hi hg, h' s' hi hg⟩
  case atomic w n ih =>
    intro s' hi hg
    have ⟨h₁, h₂, h₃⟩ := h s' hi hg
    have ⟨_, _, h₃'⟩ := h' s' hi hg
    exact ⟨h₁, h₂, ih s' h₃ h₃'⟩

-- A call that has an access to make has made one when it ends.
theorem Respects.opens (h : p.Respects D post [] s) (hp : ∃ w n, p = .atomic w n) :
    p.Respects D (fun made r s => made ≠ [] ∧ post made r s) [] s := by
  obtain ⟨w, n, rfl⟩ := hp
  intro s' hi hg
  have ⟨h₁, h₂, h₃⟩ := h s' hi hg
  refine ⟨h₁, h₂, h₃.extends.mono fun made r s _ ⟨hp, hpost⟩ => ⟨fun hn => ?_, hpost⟩⟩
  subst hn
  simp at hp

-- What a call does that makes its first access to a store that is ready for it.
theorem Respects.later {ready : σ → Prop} (h : p.Respects D post [] s)
    (hr : ∀ s', D.inv s' → D.rely s s' → ready s' → p.Respects D post' [] s') :
    p.Respects D (fun made r s => post made r s ∧
      ∀ m ∈ made.head?, ready m.1 → post' made r s) [] s := by
  cases p
  case done r => exact fun s' hi hg => ⟨h s' hi hg, by simp⟩
  case atomic w n =>
    intro s' hi hg
    have ⟨h₁, h₂, h₃⟩ := h s' hi hg
    refine ⟨h₁, h₂, ?_⟩
    by_cases hready : ready s'
    case pos =>
      have ⟨_, _, hn⟩ := hr s' hi hg hready s' hi (D.refl s')
      exact (h₃.both hn).mono fun _ _ _ _ ⟨hp, hp'⟩ => ⟨hp, fun _ _ _ => hp'⟩
    case neg =>
      refine h₃.extends.mono fun made' r s _ ⟨hp, hpost⟩ => ⟨hpost, fun m hm hm' => ?_⟩
      have hm' : made'.head? = some (s', w s') := by
        have ⟨more, he⟩ := hp
        simp [← he]
      cases hm'.symm.trans hm
      contradiction

end Respects

end Program

namespace Config

variable {ℓ σ ε α : Type} {l : ℓ} {p : Program σ ε α}
variable {c : Config (σ × List (Event ℓ σ)) ε α}

theorem perform_logged_store : (c.perform (p.logged l)).store.1 = (p.run c.store.1).2 :=
  congrArg (fun x => x.2.1) <| Program.logged_run p c.store.1 c.store.2

theorem perform_logged_returned :
    ∃ a ∈ (c.perform (p.logged l)).returned, a.result = (p.run c.store.1).1 := by
  refine ⟨_, List.mem_append_right _ (List.mem_singleton_self _), ?_⟩
  exact congrArg Prod.fst <| Program.logged_run p c.store.1 c.store.2

end Config

-- What the calls of each label have to guarantee, and what all of them may rely on.
structure Protocol (ℓ σ : Type) where
  inv   : σ → Prop
  rely  : σ → σ → Prop
  guar  : ℓ → σ → σ → Prop
  refl  : ∀ s, rely s s
  trans : ∀ {s₁ s₂ s₃}, rely s₁ s₂ → rely s₂ s₃ → rely s₁ s₃
  idle  : ∀ l s, guar l s s
  agree : ∀ {l s s'}, guar l s s' → rely s s'

namespace Protocol

variable {ℓ σ ε α : Type} {P : Protocol ℓ σ} {l : ℓ} {s₀ : σ}

def of (P : Protocol ℓ σ) (l : ℓ) : Discipline σ where
  inv   := P.inv
  rely  := P.rely
  guar  := P.guar l
  refl  := P.refl
  trans := P.trans
  idle  := P.idle l

-- An access of a history is made by its call, from a store that keeps the invariant.
structure Admits (P : Protocol ℓ σ) (e : Event ℓ σ) : Prop where
  before : P.inv e.before
  guar   : P.guar e.label e.before e.after

structure Recorded (P : Protocol ℓ σ) (s₀ : σ) (x : σ × List (Event ℓ σ)) : Prop where
  inv     : P.inv x.1
  history : History s₀ x.2 x.1
  admits  : ∀ e ∈ x.2, P.Admits e

-- What holds before the first access, and is kept by each one, holds at the end of a history.
theorem Recorded.induct {motive : σ → List (Event ℓ σ) → Prop} {x : σ × List (Event ℓ σ)}
    (h : P.Recorded s₀ x) (nil : motive s₀ [])
    (snoc : ∀ s es l s', P.Recorded s₀ (s, es) → P.Admits ⟨l, s, s'⟩ → motive s es →
      motive s' (es ++ [⟨l, s, s'⟩])) : motive x.1 x.2 := by
  obtain ⟨_, hh, ha⟩ := h
  generalize x.1 = s at hh
  generalize x.2 = es at hh ha
  induction hh
  case nil => exact nil
  case snoc es s l s' hh ih =>
    have hes : ∀ e ∈ es, P.Admits e := fun e he => ha e (List.mem_append_left _ he)
    have hl : P.Admits ⟨l, s, s'⟩ := ha _ (by simp)
    exact snoc s es l s' ⟨hl.before, hh, hes⟩ hl (ih hes)

-- The history up to an access.
theorem Recorded.before {x : σ × List (Event ℓ σ)} {e : Event ℓ σ} (h : P.Recorded s₀ x)
    (he : e ∈ x.2) : ∃ es, es ++ [e] <+: x.2 ∧ P.Recorded s₀ (e.before, es) := by
  have ⟨es, hp, hh⟩ := h.history.before_mem_prefix he
  refine ⟨es, hp, (h.admits e he).before, hh, fun e' he' => h.admits e' ?_⟩
  exact hp.subset (List.mem_append_left _ he')

def logged (P : Protocol ℓ σ) (s₀ : σ) : Discipline (σ × List (Event ℓ σ)) where
  inv        := P.Recorded s₀
  rely x y   := P.rely x.1 y.1 ∧ x.2 <+: y.2
  guar x y   := P.rely x.1 y.1 ∧ x.2 <+: y.2
  refl x     := ⟨P.refl x.1, List.prefix_refl _⟩
  trans h h' := ⟨P.trans h.left h'.left, h.right.trans h'.right⟩
  idle x     := ⟨P.refl x.1, List.prefix_refl _⟩

theorem logged_mutual : (P.logged s₀).Mutual :=
  fun _ _ h => h

-- The stores of the accesses, without the history.
def stores (made : List ((σ × List (Event ℓ σ)) × (σ × List (Event ℓ σ)))) : List (σ × σ) :=
  made.map fun m => (m.1.1, m.2.1)

theorem stores_append {made made' : List ((σ × List (Event ℓ σ)) × (σ × List (Event ℓ σ)))} :
    stores (made ++ made') = stores made ++ stores made' :=
  List.map_append

theorem stores_trace (p : Program σ ε α) (x : σ × List (Event ℓ σ)) :
    stores ((p.logged l).trace x) = p.trace x.1 :=
  p.logged_trace x.1 x.2

-- An access of a call is in the history from then on.
structure InHistory (P : Protocol ℓ σ) (s₀ : σ) (l : ℓ) (x : σ × List (Event ℓ σ))
    (m : (σ × List (Event ℓ σ)) × (σ × List (Event ℓ σ))) : Prop where
  recorded : P.Recorded s₀ m.1
  kept     : m.1.2 <+: x.2
  event    : ⟨l, m.1.1, m.2.1⟩ ∈ x.2

structure LoggedPost (P : Protocol ℓ σ) (s₀ : σ) (l : ℓ)
    (post : List (σ × σ) → Except ε α → σ → Prop)
    (made : List ((σ × List (Event ℓ σ)) × (σ × List (Event ℓ σ)))) (r : Except ε α)
    (x : σ × List (Event ℓ σ)) : Prop where
  post      : post (stores made) r x.1
  inHistory : ∀ m ∈ made, P.InHistory s₀ l x m

theorem InHistory.mono {x y : σ × List (Event ℓ σ)}
    {m : (σ × List (Event ℓ σ)) × (σ × List (Event ℓ σ))} (h : P.InHistory s₀ l x m)
    (hp : x.2 <+: y.2) : P.InHistory s₀ l y m where
  recorded := h.recorded
  kept     := h.kept.trans hp
  event    := hp.subset h.event

theorem respects_logged {p : Program σ ε α} {post : List (σ × σ) → Except ε α → σ → Prop}
    {made : List ((σ × List (Event ℓ σ)) × (σ × List (Event ℓ σ)))} {x : σ × List (Event ℓ σ)}
    (h : p.Respects (P.of l) post (stores made) x.1) (hm : ∀ m ∈ made, P.InHistory s₀ l x m) :
    (p.logged l).Respects (P.logged s₀) (P.LoggedPost s₀ l post) made x := by
  induction p generalizing made x
  case done r =>
    exact fun y hi hg => ⟨h y.1 hi.inv hg.left, fun m hm' => (hm m hm').mono hg.right⟩
  case atomic w n ih =>
    intro y hi hg
    have ⟨h₁, h₂, h₃⟩ := h y.1 hi.inv hg.left
    have hp : y.2 <+: y.2 ++ [⟨l, y.1, w y.1⟩] := List.prefix_append _ _
    refine ⟨⟨h₁, hi.history.snoc l (w y.1), fun e he => ?_⟩, ⟨P.agree h₂, hp⟩, ih y.1 ?_ ?_⟩
    · rcases List.mem_append.mp he with he | he
      · exact hi.admits e he
      · obtain rfl := List.mem_singleton.mp he
        exact ⟨hi.inv, h₂⟩
    · simpa [stores] using h₃
    · intro m hm'
      rcases List.mem_append.mp hm' with hm' | hm'
      · exact (hm m hm').mono <| hg.right.trans hp
      · obtain rfl := List.mem_singleton.mp hm'
        exact ⟨hi, hp, by simp⟩

-- The calls of a run that keeps its history.
def LoggedStarts (Starts : ℓ → Program σ ε α → Prop)
    (p : Program (σ × List (Event ℓ σ)) ε α) : Prop :=
  ∃ l q, Starts l q ∧ p = q.logged l

-- The stores of the accesses set what the accesses set.
theorem sets_stores {flag : σ → Prop}
    {made : List ((σ × List (Event ℓ σ)) × (σ × List (Event ℓ σ)))} :
    Config.Sets flag (stores made) ↔ Config.Sets (fun x => flag x.1) made := by
  constructor
  · rintro ⟨_, hm, hf⟩
    obtain ⟨m, hm', rfl⟩ := List.mem_map.mp hm
    exact ⟨m, hm', hf⟩
  · rintro ⟨m, hm, hf⟩
    exact ⟨_, List.mem_map_of_mem hm, hf⟩

-- What a call of some label has done when it returns.
def LabelledPost (P : Protocol ℓ σ) (s₀ : σ) (post : ℓ → List (σ × σ) → Except ε α → σ → Prop)
    (made : List ((σ × List (Event ℓ σ)) × (σ × List (Event ℓ σ)))) (r : Except ε α)
    (x : σ × List (Event ℓ σ)) : Prop :=
  ∃ l, P.LoggedPost s₀ l (post l) made r x

section

variable {Starts : ℓ → Program σ ε α → Prop}
variable {post : ℓ → List (σ × σ) → Except ε α → σ → Prop}

theorem logged_respects
    (hs : ∀ l q, Starts l q → ∀ s, P.inv s → q.Respects (P.of l) (post l) [] s)
    (p : Program (σ × List (Event ℓ σ)) ε α) (hp : LoggedStarts Starts p)
    (x : σ × List (Event ℓ σ)) (hx : (P.logged s₀).inv x) :
    p.Respects (P.logged s₀) (P.LabelledPost s₀ post) [] x := by
  obtain ⟨l, q, hq, rfl⟩ := hp
  exact (respects_logged (hs l q hq x.1 hx.inv) (by simp)).mono fun _ _ _ _ hp => ⟨l, hp⟩

theorem logged_sound {c : Config (σ × List (Event ℓ σ)) ε α}
    (hs : ∀ l q, Starts l q → ∀ s, P.inv s → q.Respects (P.of l) (post l) [] s) (hi : P.inv s₀)
    (h : Config.Reachable (LoggedStarts Starts) (.initial (s₀, [])) c) :
    c.Sound (P.logged s₀) (P.LabelledPost s₀ post) (s₀, []) :=
  h.sound logged_mutual (logged_respects hs) ⟨hi, .nil, by simp⟩

end

section Clients

variable {call : ℓ → Program σ ε α} {post : ℓ → List (σ × σ) → Except ε α → σ → Prop}
variable {c : Config (σ × List (Event ℓ σ)) ε (ℓ × Except ε α)}

-- The calls of any number of clients, each known by its label.
def Clients (call : ℓ → Program σ ε α) (l : ℓ) (p : Program σ ε (ℓ × Except ε α)) : Prop :=
  p = (call l).answered l

-- What a call with this label has done that has ended before the run is where it is.
structure Answered (P : Protocol ℓ σ) (s₀ : σ)
    (post : ℓ → List (σ × σ) → Except ε α → σ → Prop) (l : ℓ) (r : Except ε α)
    (made : List ((σ × List (Event ℓ σ)) × (σ × List (Event ℓ σ))))
    (x : σ × List (Event ℓ σ)) : Prop where
  post      : ∃ s, P.inv s ∧ P.rely s x.1 ∧ post l (stores made) r s
  inHistory : ∀ m ∈ made, P.InHistory s₀ l x m

-- What every call has done that has ended.
def AnsweredPost (P : Protocol ℓ σ) (s₀ : σ)
    (post : ℓ → List (σ × σ) → Except ε α → σ → Prop) :=
  P.LabelledPost s₀ fun l made (r : Except ε (ℓ × Except ε α)) s =>
    ∀ a, r = .ok a → a.1 = l ∧ post l made a.2 s

theorem clients_respects (hs : ∀ l s, P.inv s → (call l).Respects (P.of l) (post l) [] s)
    (p : Program (σ × List (Event ℓ σ)) ε (ℓ × Except ε α)) (hp : LoggedStarts (Clients call) p)
    (x : σ × List (Event ℓ σ)) (hx : (P.logged s₀).inv x) :
    p.Respects (P.logged s₀) (P.AnsweredPost s₀ post) [] x := by
  refine logged_respects (fun l q hq s hs' => ?_) p hp x hx
  subst hq
  refine .answered <| (hs l s hs').mono fun made r s _ hp a ha => ?_
  cases ha
  exact ⟨rfl, hp⟩

theorem clients_sound (hs : ∀ l s, P.inv s → (call l).Respects (P.of l) (post l) [] s)
    (hi : P.inv s₀)
    (h : Config.Reachable (LoggedStarts (Clients call)) (.initial (s₀, [])) c) :
    c.Sound (P.logged s₀) (P.AnsweredPost s₀ post) (s₀, []) :=
  h.sound logged_mutual (clients_respects hs) ⟨hi, .nil, by simp⟩

theorem answered_of_returned (hs : ∀ l s, P.inv s → (call l).Respects (P.of l) (post l) [] s)
    (hi : P.inv s₀)
    (h : Config.Reachable (LoggedStarts (Clients call)) (.initial (s₀, [])) c) {r : Except ε α}
    {made : List ((σ × List (Event ℓ σ)) × (σ × List (Event ℓ σ)))}
    (hr : ⟨.ok (l, r), made⟩ ∈ c.returned) : P.Answered s₀ post l r made c.store := by
  have ⟨x, hx, hg, l', hp⟩ := (clients_sound hs hi h).returned _ hr
  have ⟨hl, hpost⟩ := hp.post _ rfl
  subst hl
  exact ⟨⟨x.1, hx.inv, hg.left, hpost⟩, fun m hm => (hp.inHistory m hm).mono hg.right⟩

-- A run in which a call is in flight, with what is left of it and the accesses that it has made.
structure InFlight (call : ℓ → Program σ ε α) (s₀ : σ) (l : ℓ) (p : Program σ ε α)
    (made : List ((σ × List (Event ℓ σ)) × (σ × List (Event ℓ σ))))
    (c : Config (σ × List (Event ℓ σ)) ε (ℓ × Except ε α)) : Prop where
  reached : Config.Reachable (LoggedStarts (Clients call)) (.initial (s₀, [])) c
  running : ∃ rs, c.running = ⟨(p.answered l).logged l, made⟩ :: rs

section

variable {p : Program σ ε α} {s s' : σ} {r : Except ε α}
variable {made : List ((σ × List (Event ℓ σ)) × (σ × List (Event ℓ σ)))}

-- The run goes on with one more call, which runs alone.
theorem exists_performed (h : Config.Reachable (LoggedStarts (Clients call)) (.initial (s₀, [])) c)
    (hs : c.store.1 = s) (hr : (call l).run s = (r, s')) :
    ∃ c' made', Config.Reachable (LoggedStarts (Clients call)) (.initial (s₀, [])) c' ∧
      c'.store.1 = s' ∧ c'.running = c.running ∧ c'.returned = c.returned ++ [⟨.ok (l, r), made'⟩] ∧
      c'.store.2 = c.store.2 ++ ((call l).trace s).map fun m => ⟨l, m.1, m.2⟩ := by
  subst hs
  let p := ((call l).answered l).logged l
  have hrun : p.run c.store = (.ok (l, r), (s', c.store.2 ++
      (((call l).answered l).trace c.store.1).map fun m => ⟨l, m.1, m.2⟩)) := by
    rw [Program.logged_run, Program.answered_run, hr]
  refine ⟨c.perform p, p.trace c.store, h.trans <| Config.reachable_perform ⟨l, _, rfl, rfl⟩, ?_, rfl,
    ?_, ?_⟩
  case refine_1 => rw [Config.perform, hrun]
  case refine_2 => rw [Config.perform, hrun]
  case refine_3 => rw [Config.perform, hrun, Program.answered_trace]

-- A call starts.
theorem exists_inFlight (h : Config.Reachable (LoggedStarts (Clients call)) (.initial (s₀, [])) c)
    (l : ℓ) : ∃ c', InFlight call s₀ l (call l) [] c' ∧ c'.store = c.store :=
  ⟨_, ⟨h.tail <| .start ⟨l, _, rfl, rfl⟩, c.running, rfl⟩, rfl⟩

-- A call makes the first part of its accesses.
theorem reachable_pause {β : Type} {Starts : Program (σ × List (Event ℓ σ)) ε (ℓ × Except ε α) → Prop}
    {first : Program σ ε β} {rest : β → Program σ ε α} {b : β} {es : List (Event ℓ σ)}
    {rs : List (Call (σ × List (Event ℓ σ)) ε (ℓ × Except ε α))}
    {ds : List (Return (σ × List (Event ℓ σ)) ε (ℓ × Except ε α))}
    (h : first.run s = (.ok b, s')) :
    ∃ es' made', Config.Reachable Starts
      ⟨(s, es), ⟨((first >>= rest).answered l).logged l, made⟩ :: rs, ds⟩
      ⟨(s', es'), ⟨((rest b).answered l).logged l, made'⟩ :: rs, ds⟩ ∧
        stores made' = stores made ++ first.trace s := by
  induction first generalizing s es made
  case done r =>
    cases h
    exact ⟨es, made, .refl, (List.append_nil _).symm⟩
  case atomic w n ih =>
    obtain ⟨es', made', hreach, hmade⟩ :=
      @ih s (w s) (made ++ [((s, es), (w s, es ++ [⟨l, s, w s⟩]))]) (es ++ [⟨l, s, w s⟩]) h
    refine ⟨es', made', .head (@Config.Step.access _ _ _ Starts (s, es) [] rs ds _ _ made) hreach, ?_⟩
    rw [hmade, stores_append, List.append_assoc]
    rfl

namespace InFlight

-- The call makes the first part of its accesses.
theorem pause {β : Type} {first : Program σ ε β} {rest : β → Program σ ε α} {b : β}
    (h : InFlight call s₀ l (first >>= rest) made c) (hs : c.store.1 = s)
    (hr : first.run s = (.ok b, s')) :
    ∃ c' made', InFlight call s₀ l (rest b) made' c' ∧ c'.store.1 = s' ∧
      stores made' = stores made ++ first.trace s := by
  subst hs
  obtain ⟨rs, hrunning⟩ := h.running
  obtain ⟨es, made', hreach, hmade⟩ := @reachable_pause _ _ _ _ l _ _ made β
    (LoggedStarts (Clients call)) first rest b c.store.2 rs c.returned hr
  rw [← hrunning] at hreach
  exact ⟨_, made', ⟨h.reached.trans hreach, rs, rfl⟩, rfl, hmade⟩

-- Another call runs alone meanwhile.
theorem perform {l' : ℓ} (h : InFlight call s₀ l p made c) (hs : c.store.1 = s)
    (hr : (call l').run s = (r, s')) :
    ∃ c', InFlight call s₀ l p made c' ∧ c'.store.1 = s' := by
  obtain ⟨c', _, hreached, hstore, hrunning, _⟩ := exists_performed h.reached hs hr
  exact ⟨c', ⟨hreached, hrunning ▸ h.running⟩, hstore⟩

-- The call makes the rest of its accesses and returns.
theorem finish (h : InFlight call s₀ l p made c) (hs : c.store.1 = s) (hr : p.run s = (r, s')) :
    ∃ c' made', Config.Reachable (LoggedStarts (Clients call)) (.initial (s₀, [])) c' ∧
      c'.store.1 = s' ∧ ⟨.ok (l, r), made'⟩ ∈ c'.returned ∧
      stores made' = stores made ++ p.trace s := by
  subst hs
  obtain ⟨rs, hrunning⟩ := h.running
  let q := (p.answered l).logged l
  have hrun : q.run c.store = (.ok (l, r), (s', c.store.2 ++
      ((p.answered l).trace c.store.1).map fun m => ⟨l, m.1, m.2⟩)) := by
    rw [Program.logged_run, Program.answered_run, hr]
  have hreach := @Config.reachable_run _ _ _ (LoggedStarts (Clients call)) q c.store rs c.returned made
  rw [← hrunning, hrun] at hreach
  refine ⟨_, made ++ q.trace c.store, h.reached.trans hreach, rfl, ?_, ?_⟩
  case refine_1 => exact List.mem_append_right _ (List.mem_singleton_self _)
  case refine_2 => rw [stores_append, stores_trace, Program.answered_trace]

end InFlight

end

end Clients

end Protocol
