import GeneralExecution.Primitives.History

-- Entries that are kept under keys. An operation makes the next entry of its key, or is refused.

structure KeyedLog (κ ο ε α : Type) where
  key  : ο → κ
  next : Option α → ο → Except ε α

namespace KeyedLog

variable {κ ο ε α : Type} {L : KeyedLog κ ο ε α} {k : κ} {o : ο} {os : List ο} {a : α} {e : ε}
variable {os' : List ο} {es : List (ο × α)}

-- The entries of one key, each with the operation that has made it.
inductive Grown (L : KeyedLog κ ο ε α) (k : κ) : List (ο × α) → Prop
  | nil : Grown L k []
  | append {es : List (ο × α)} {o : ο} {a : α} : Grown L k es → L.key o = k → L.next (es.getLast?.map Prod.snd) o = .ok a →
      Grown L k (es ++ [(o, a)])

namespace Grown

-- What relates each entry to the one that it is made from relates any two entries.
theorem pairwise {R : ο × α → ο × α → Prop} (ht : ∀ {x y z}, R x y → R y z → R x z)
    (h : L.Grown k es)
    (hR : ∀ x ∈ es, ∀ o a, L.key o = k → L.next (some x.2) o = .ok a → R x (o, a)) :
    es.Pairwise R := by
  induction h
  case nil => exact .nil
  case append es o a hes hk hn ih =>
    have hes' : es.Pairwise R := ih fun x hx => hR x (List.mem_append_left _ hx)
    refine List.pairwise_append.mpr ⟨hes', List.pairwise_singleton _ _, fun x hx y hy => ?_⟩
    obtain rfl := List.mem_singleton.mp hy
    cases es using List.reverseRecOn
    case nil                     => simp at hx
    case append_singleton es z _ =>
      rw [List.getLast?_concat] at hn
      have hlast : R z (o, a) := hR z (by simp) o a hk hn
      rcases List.mem_append.mp hx with hx | hx
      · exact ht ((List.pairwise_append.mp hes').right.right x hx z (List.mem_singleton_self _)) hlast
      · obtain rfl := List.mem_singleton.mp hx
        exact hlast

-- What holds of the first entry, and is kept from each entry to the next one, holds of all entries.
theorem induct {motive : ο × α → Prop}
    (first : ∀ o a, L.key o = k → L.next none o = .ok a → motive (o, a))
    (more : ∀ o a o' a', L.key o' = k → motive (o, a) → L.next (some a) o' = .ok a' →
      motive (o', a'))
    (h : L.Grown k es) : ∀ x ∈ es, motive x := by
  induction h
  case nil => simp
  case append es o a hes hk hn ih =>
    rw [List.forall_mem_append]
    refine ⟨ih, List.forall_mem_singleton.mpr ?_⟩
    cases hl : es.getLast?
    case none        => exact first o a hk (by simpa [hl] using hn)
    case some x      =>
      exact more x.1 x.2 o a hk (ih x (List.mem_of_getLast? hl)) (by simpa [hl] using hn)

end Grown

variable [DecidableEq κ]

-- What an operation adds to the entries of `k`.
def grow (L : KeyedLog κ ο ε α) (k : κ) (es : List (ο × α)) (o : ο) : List (ο × α) :=
  if L.key o = k then
    match L.next (es.getLast?.map Prod.snd) o with
    | .ok a    => es ++ [(o, a)]
    | .error _ => es
  else es

def entries (L : KeyedLog κ ο ε α) (k : κ) (os : List ο) : List (ο × α) :=
  os.foldl (L.grow k) []

-- The entry of `k` after the operations.
def entry (L : KeyedLog κ ο ε α) (k : κ) (os : List ο) : Option α :=
  (L.entries k os).getLast?.map Prod.snd

theorem entries_concat : L.entries k (os ++ [o]) = L.grow k (L.entries k os) o :=
  List.foldl_append

@[simp]
theorem entry_nil : L.entry k [] = none :=
  rfl

theorem grow_grown (h : L.Grown k es) : L.Grown k (L.grow k es o) := by
  unfold grow
  split
  case isFalse    => exact h
  case isTrue hk  =>
    split
    case h_1 hn => exact h.append hk hn
    case h_2    => exact h

theorem entries_grown : L.Grown k (L.entries k os) := by
  induction os using List.reverseRecOn
  case nil                      => exact .nil
  case append_singleton os o ih =>
    rw [entries_concat]
    exact grow_grown ih

theorem prefix_grow : es <+: L.grow k es o := by
  unfold grow
  split
  case isFalse => exact List.prefix_refl _
  case isTrue  =>
    split
    case h_1 => exact List.prefix_append _ _
    case h_2 => exact List.prefix_refl _

-- Nothing is taken out of the entries.
theorem entries_mono (h : os <+: os') : L.entries k os <+: L.entries k os' := by
  obtain ⟨more, rfl⟩ := h
  induction more using List.reverseRecOn
  case nil                       => rw [List.append_nil]
  case append_singleton more o ih =>
    rw [← List.append_assoc, entries_concat]
    exact ih.trans prefix_grow

-- The entry that an operation makes.
theorem grow_of_ok (hk : L.key o = k) (h : L.next (es.getLast?.map Prod.snd) o = .ok a) :
    L.grow k es o = es ++ [(o, a)] := by
  rw [grow, if_pos hk, h]

theorem grow_of_ne (hk : L.key o ≠ k) : L.grow k es o = es :=
  if_neg hk

theorem mem_entries (h : os ++ [o] <+: os') (hn : L.next (L.entry (L.key o) os) o = .ok a) :
    (o, a) ∈ L.entries (L.key o) os' := by
  refine (entries_mono h).subset ?_
  rw [entries_concat, grow_of_ok rfl hn]
  exact List.mem_append_right _ (List.mem_singleton_self _)

section Histories

variable {ℓ σ : Type} {P : Protocol ℓ σ} {s₀ s s' : σ}
variable {x : σ × List (Event ℓ σ)} {ev : Event ℓ σ} {look : σ → κ → Option α} {operation? : ℓ → Option ο}

-- What an access does to the entries of a store, if it changes the store.
def Advances (L : KeyedLog κ ο ε α) (look : σ → κ → Option α) (s s' : σ) : Option ο → Prop
  | none   => look s' = look s
  | some o => s' ≠ s → ∃ a, L.next (look s (L.key o)) o = .ok a ∧
      ∀ k, look s' k = if L.key o = k then some a else look s k

theorem Advances.refl {o : Option ο} : L.Advances look s s o := by
  cases o
  case none   => rfl
  case some o => exact fun h => absurd rfl h

-- What relates each entry to the one that is made of it relates the entries of one key.
theorem Advances.grows {R : α → α → Prop} {o : Option ο} (hr : ∀ a, R a a)
    (hR : ∀ o a a', L.next (some a) o = .ok a' → R a a') (h : L.Advances look s s' o)
    (ha : look s k = some a) : ∃ a', look s' k = some a' ∧ R a a' := by
  by_cases he : s' = s
  case pos => exact ⟨a, he ▸ ha, hr a⟩
  case neg =>
    cases o
    case none   => exact ⟨a, (congrFun (show look s' = look s from h) k).trans ha, hr a⟩
    case some o =>
      obtain ⟨a', hn, hlook⟩ := h he
      by_cases hk : L.key o = k
      case pos =>
        subst hk
        rw [ha] at hn
        exact ⟨a', (hlook _).trans (if_pos rfl), hR o a a' hn⟩
      case neg => exact ⟨a, ((hlook k).trans (if_neg hk)).trans ha, hr a⟩

-- What a call has done that has asked for an operation, in one access.
structure Performed (L : KeyedLog κ ο ε α) (look : σ → κ → Option α) (o : ο) (s s' : σ)
    (r : Except ε α) : Prop where
  result   : r = L.next (look s (L.key o)) o
  accepted : ∀ a, r = .ok a → ∀ k, look s' k = if L.key o = k then some a else look s k
  refused  : ∀ e, r = .error e → s' = s

theorem Performed.advances {r : Except ε α} (h : L.Performed look o s s' r) :
    L.Advances look s s' (some o) := by
  intro hne
  cases r
  case ok a    => exact ⟨a, h.result.symm, h.accepted a rfl⟩
  case error e => exact absurd (h.refused e rfl) hne

variable [DecidableEq σ]

-- The operations of a history that have changed the store.
def operations (operation? : ℓ → Option ο) (es : List (Event ℓ σ)) : List ο :=
  es.filterMap fun e => if e.after = e.before then none else operation? e.label

theorem operations_concat {es : List (Event ℓ σ)} {e : Event ℓ σ} (he : e.after ≠ e.before)
    (ho : operation? e.label = some o) :
    operations operation? (es ++ [e]) = operations operation? es ++ [o] := by
  rw [operations, List.filterMap_append, operations]
  simp [he, ho]

theorem operations_concat_of_none {es : List (Event ℓ σ)} {e : Event ℓ σ}
    (h : e.after = e.before ∨ operation? e.label = none) :
    operations operation? (es ++ [e]) = operations operation? es := by
  rw [operations, List.filterMap_append, operations]
  rcases h with h | h <;> simp [h]

theorem operations_mono {es es' : List (Event ℓ σ)} (h : es <+: es') :
    operations operation? es <+: operations operation? es' :=
  h.filterMap _

-- A store whose accesses advance its entries holds what the operations of its history have made.
theorem entry_of_recorded (h : P.Recorded s₀ x) (h₀ : ∀ k, look s₀ k = none)
    (hg : ∀ l s s', P.guar l s s' → L.Advances look s s' (operation? l)) (k : κ) :
    look x.1 k = L.entry k (operations operation? x.2) := by
  refine h.induct (motive := fun s es => look s k = L.entry k (operations operation? es))
    (h₀ k) fun s es l s' _ hl ih => ?_
  have hadv := hg l s s' hl.guar
  by_cases he : s' = s
  case pos =>
    rw [operations_concat_of_none (.inl he), he]
    exact ih
  case neg =>
    cases ho : operation? l
    case none =>
      rw [ho] at hadv
      rw [operations_concat_of_none (.inr ho), show look s' = look s from hadv]
      exact ih
    case some o =>
      rw [ho] at hadv
      obtain ⟨a, hn, hlook⟩ := hadv he
      rw [operations_concat he ho, hlook k, entry, entries_concat]
      by_cases hk : L.key o = k
      case pos =>
        rw [if_pos hk, grow_of_ok hk, List.getLast?_concat]
        · rfl
        · rw [← hn, hk, ih]
          rfl
      case neg =>
        rw [if_neg hk, grow_of_ne hk]
        exact ih

-- An access has found what the operations before it have made.
theorem exists_linearized (h : P.Recorded s₀ x) (h₀ : ∀ k, look s₀ k = none)
    (hg : ∀ l s s', P.guar l s s' → L.Advances look s s' (operation? l)) (he : ev ∈ x.2) :
    ∃ es, es ++ [ev] <+: x.2 ∧ ∀ k, look ev.before k = L.entry k (operations operation? es) := by
  obtain ⟨es, hp, hes⟩ := h.before he
  exact ⟨es, hp, entry_of_recorded hes h₀ hg⟩

-- What an access has made stays.
theorem mem_entries_of_event {es : List (Event ℓ σ)} (hp : es ++ [ev] <+: x.2)
    (hne : ev.after ≠ ev.before) (ho : operation? ev.label = some o)
    (hn : L.next (L.entry (L.key o) (operations operation? es)) o = .ok a) :
    (o, a) ∈ L.entries (L.key o) (operations operation? x.2) := by
  refine mem_entries ?_ hn
  rw [← operations_concat hne ho]
  exact operations_mono hp

-- A call has asked for an operation at one point of a history: it has got the entry that the
-- operation makes there, and the entry stays.
structure Linearized (L : KeyedLog κ ο ε α) (operation? : ℓ → Option ο) (es : List (Event ℓ σ))
    (ev : Event ℓ σ) (o : ο) (r : Except ε α) : Prop where
  result   : ∃ es', es' ++ [ev] <+: es ∧
    r = L.next (L.entry (L.key o) (operations operation? es')) o
  accepted : ∀ a, r = .ok a → ∃ o', (o', a) ∈ L.entries (L.key o) (operations operation? es) ∧
    (ev.after ≠ ev.before → o' = o)
  refused  : ∀ e, r = .error e → ev.after = ev.before

theorem Performed.linearized {r : Except ε α} (hp : L.Performed look o ev.before ev.after r)
    (h : P.Recorded s₀ x) (h₀ : ∀ k, look s₀ k = none)
    (hg : ∀ l s s', P.guar l s s' → L.Advances look s s' (operation? l)) (he : ev ∈ x.2)
    (ho : operation? ev.label = some o) : L.Linearized operation? x.2 ev o r := by
  obtain ⟨es, hes, hlook⟩ := exists_linearized h h₀ hg he
  constructor
  case result  => exact ⟨es, hes, by rw [hp.result, hlook]⟩
  case refused => exact hp.refused
  case accepted =>
    intro a hr
    by_cases hne : ev.after = ev.before
    case pos =>
      have ha := hp.accepted a hr (L.key o)
      rw [if_pos rfl, hne, hlook, entry, Option.map_eq_some_iff] at ha
      obtain ⟨y, hy, rfl⟩ := ha
      refine ⟨y.1, ?_, fun hn => absurd hne hn⟩
      refine (entries_mono (operations_mono ?_)).subset (List.mem_of_getLast? hy)
      exact (List.prefix_append _ _).trans hes
    case neg =>
      refine ⟨o, mem_entries_of_event hes hne ho ?_, fun _ => rfl⟩
      rw [← hlook, ← hp.result, hr]

end Histories

end KeyedLog
