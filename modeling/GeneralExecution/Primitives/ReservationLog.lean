import Mathlib

-- An append-only log in which things are reserved and released again. What is held at a point is not
-- stored, it follows from the log up to that point.

namespace ReservationLog

inductive Entry (α β : Type)
  | reserve (a : α)
  | release (b : β)
deriving DecidableEq

namespace Entry

variable {α β : Type}

def reserved? : Entry α β → Option α
  | reserve a => some a
  | release _ => none

def released? : Entry α β → Option β
  | reserve _ => none
  | release b => some b

end Entry

variable {α β ι : Type}

theorem filter_eq_singleton {γ : Type} {l : List γ} {a : γ} {p : γ → Bool} (hn : l.Nodup)
    (ha : a ∈ l) (hp : ∀ x ∈ l, p x = true ↔ x = a) : l.filter p = [a] := by
  induction l
  case nil => simp at ha
  case cons x xs ih =>
    have ⟨hx, hn⟩ := List.nodup_cons.mp hn
    have hxs : ∀ y ∈ xs, p y = true ↔ y = a := fun y hy => hp y (by simp [hy])
    rcases List.mem_cons.mp ha with rfl | ha
    · rw [List.filter_cons_of_pos ((hp a (by simp)).mpr rfl), List.filter_eq_nil_iff.mpr]
      exact fun y hy h => hx <| (hxs y hy).mp h ▸ hy
    · rw [List.filter_cons_of_neg (by rw [hp x (by simp)]; exact fun h => hx (h ▸ ha)), ih hn ha hxs]

theorem nodup_map_append {f : α → ι} {l : List α} {a : α} (h : (l.map f).Nodup)
    (ha : f a ∉ l.map f) : ((l ++ [a]).map f).Nodup := by
  simpa using List.Nodup.concat ha h

def reserved (log : List (Entry α β)) : List α :=
  log.filterMap Entry.reserved?

def released (log : List (Entry α β)) : List β :=
  log.filterMap Entry.released?

@[simp]
theorem reserved_nil : reserved ([] : List (Entry α β)) = [] :=
  rfl

@[simp]
theorem released_nil : released ([] : List (Entry α β)) = [] :=
  rfl

@[simp]
theorem reserved_append (l₁ l₂ : List (Entry α β)) :
    reserved (l₁ ++ l₂) = reserved l₁ ++ reserved l₂ :=
  List.filterMap_append

@[simp]
theorem released_append (l₁ l₂ : List (Entry α β)) :
    released (l₁ ++ l₂) = released l₁ ++ released l₂ :=
  List.filterMap_append

@[simp]
theorem reserved_reserve (a : α) (log : List (Entry α β)) :
    reserved (.reserve a :: log) = a :: reserved log :=
  rfl

@[simp]
theorem reserved_release (b : β) (log : List (Entry α β)) :
    reserved (.release b :: log) = reserved log :=
  rfl

@[simp]
theorem released_reserve (a : α) (log : List (Entry α β)) :
    released (.reserve a :: log) = released log :=
  rfl

@[simp]
theorem released_release (b : β) (log : List (Entry α β)) :
    released (.release b :: log) = b :: released log :=
  rfl

theorem mem_reserved {log : List (Entry α β)} {a : α} : a ∈ reserved log ↔ .reserve a ∈ log := by
  simp only [reserved, List.mem_filterMap]
  constructor
  · rintro ⟨_ | _, hm, h⟩ <;> simp_all [Entry.reserved?]
  · exact fun h => ⟨_, h, rfl⟩

theorem mem_released {log : List (Entry α β)} {b : β} : b ∈ released log ↔ .release b ∈ log := by
  simp only [released, List.mem_filterMap]
  constructor
  · rintro ⟨_ | _, hm, h⟩ <;> simp_all [Entry.released?]
  · exact fun h => ⟨_, h, rfl⟩

-- Whatever relates each reservation to all earlier ones relates them pairwise.
theorem pairwise_reserved {R : α → α → Prop} {log : List (Entry α β)}
    (h : ∀ log₁ a log₂, log = log₁ ++ .reserve a :: log₂ → ∀ a' ∈ reserved log₁, R a' a) :
    (reserved log).Pairwise R := by
  induction log using List.reverseRecOn
  case nil => exact .nil
  case append_singleton log e ih =>
    have hlog := ih fun log₁ a log₂ hl => h log₁ a (log₂ ++ [e]) (by simp [hl])
    cases e
    case release b => simpa using hlog
    case reserve a =>
      rw [reserved_append]
      refine List.pairwise_append.mpr ⟨hlog, List.pairwise_singleton _ _, fun a' ha' x hx => ?_⟩
      rw [List.mem_singleton.mp hx]
      exact h log a [] rfl a' ha'

-- How a release names what it releases, and when it fits what it names.
structure Scheme (α β ι : Type) where
  name : α → ι
  ref  : β → ι
  fits : α → β → Prop

namespace Scheme

variable [DecidableEq ι] (S : Scheme α β ι)

def active (log : List (Entry α β)) : List α :=
  (reserved log).filter fun a => S.name a ∉ (released log).map S.ref

-- Every reservation has a new name, and every release names something that is held.
inductive Wf : List (Entry α β) → Prop
  | nil : Wf []
  | reserve {log a} : Wf log → S.name a ∉ (reserved log).map S.name → Wf (log ++ [.reserve a])
  | release {log a b} :
    Wf log → a ∈ S.active log → S.ref b = S.name a → S.fits a b → Wf (log ++ [.release b])

variable {S} {log log₁ log₂ : List (Entry α β)} {a a' : α} {b : β}

theorem mem_active : a ∈ S.active log ↔ a ∈ reserved log ∧ S.name a ∉ (released log).map S.ref := by
  simp [active]

theorem active_sublist : (S.active log).Sublist (reserved log) :=
  List.filter_sublist

theorem active_release :
    S.active (log ++ [.release b]) = (S.active log).filter fun a => S.name a ≠ S.ref b := by
  simp only [active, reserved_append, reserved_release, reserved_nil, List.append_nil,
    released_append, released_release, released_nil, List.map_append, List.map_cons, List.map_nil,
    List.filter_filter, List.mem_append, List.mem_singleton, not_or, Bool.decide_and]
  exact List.filter_congr fun a _ => Bool.and_comm _ _

namespace Wf

theorem of_append (h : S.Wf (log₁ ++ log₂)) : S.Wf log₁ := by
  induction log₂ using List.reverseRecOn
  case nil => simpa using h
  case append_singleton log₂ e ih =>
    rw [← List.append_assoc] at h
    generalize hl : log₁ ++ log₂ ++ [e] = l at h
    cases h
    case nil              => simp at hl
    case reserve hw _     => exact ih <| (List.append_inj' hl rfl).left ▸ hw
    case release hw _ _ _ => exact ih <| (List.append_inj' hl rfl).left ▸ hw

theorem exists_reserved (h : S.Wf log) (hb : b ∈ released log) :
    ∃ a ∈ reserved log, S.ref b = S.name a ∧ S.fits a b := by
  induction h
  case nil => simp at hb
  case reserve ih =>
    have ⟨a, ha, hf⟩ := ih (by simpa using hb)
    exact ⟨a, by simp [ha], hf⟩
  case release a b' hw ha hn hf ih =>
    simp only [released_append, released_release, released_nil, List.mem_append,
      List.mem_singleton] at hb
    rcases hb with hb | rfl
    · have ⟨a, ha, hf⟩ := ih hb
      exact ⟨a, by simp [ha], hf⟩
    · exact ⟨a, by simp [active_sublist.mem ha], hn, hf⟩

theorem ref_mem (h : S.Wf log) (hb : b ∈ released log) : S.ref b ∈ (reserved log).map S.name := by
  have ⟨a, ha, hn, _⟩ := h.exists_reserved hb
  exact hn ▸ List.mem_map_of_mem ha

-- A new name is not the name of an earlier release either.
theorem not_released (h : S.Wf log) (hf : S.name a ∉ (reserved log).map S.name) :
    S.name a ∉ (released log).map S.ref := by
  intro hm
  have ⟨b, hb, hn⟩ := List.mem_map.mp hm
  exact hf <| hn ▸ h.ref_mem hb

theorem active_reserve (h : S.Wf log) (hf : S.name a ∉ (reserved log).map S.name) :
    S.active (log ++ [.reserve a]) = S.active log ++ [a] := by
  simp only [active, reserved_append, reserved_reserve, reserved_nil, released_append,
    released_reserve, released_nil, List.append_nil, List.filter_append]
  rw [List.filter_singleton, decide_eq_true (h.not_released hf), cond_true]

theorem names_nodup (h : S.Wf log) : ((reserved log).map S.name).Nodup := by
  induction h
  case nil           => simp
  case release ih    => simpa using ih
  case reserve hf ih =>
    rw [reserved_append]
    exact nodup_map_append ih hf

theorem refs_nodup (h : S.Wf log) : ((released log).map S.ref).Nodup := by
  induction h
  case nil        => simp
  case reserve ih => simpa using ih
  case release ha hn _ ih =>
    rw [released_append]
    exact nodup_map_append ih (hn ▸ (mem_active.mp ha).right)

theorem name_inj (h : S.Wf log) (ha : a ∈ reserved log) (ha' : a' ∈ reserved log)
    (hn : S.name a = S.name a') : a = a' :=
  List.inj_on_of_nodup_map h.names_nodup ha ha' hn

-- A release names exactly one of the earlier reservations.
theorem existsUnique_reserved (h : S.Wf (log₁ ++ .release b :: log₂)) :
    ∃ a ∈ reserved log₁, (S.ref b = S.name a ∧ S.fits a b) ∧
      ∀ a' ∈ reserved log₁, S.ref b = S.name a' → a' = a := by
  rw [List.append_cons] at h
  have hw := h.of_append
  have ⟨a, ha, hf⟩ := hw.exists_reserved (b := b) (by simp)
  replace ha : a ∈ reserved log₁ := by simpa using ha
  exact ⟨a, ha, hf, fun a' ha' hn =>
    hw.name_inj (by simp [ha']) (by simp [ha]) (hn.symm.trans hf.left)⟩

-- Two releases of one reservation are the same entry of the log.
theorem release_inj (h : S.Wf log) {b b' : β} (hb : b ∈ released log) (hb' : b' ∈ released log)
    (hn : S.ref b = S.ref b') : b = b' :=
  List.inj_on_of_nodup_map h.refs_nodup hb hb' hn

end Wf

end Scheme

end ReservationLog
