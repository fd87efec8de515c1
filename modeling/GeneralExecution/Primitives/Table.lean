import Mathlib

-- A table of which some columns are unique, as a primary key and the other unique columns are.
@[ext]
structure Table (ρ κ : Type) (uniques : List (ρ → κ)) where
  rows   : List ρ
  unique : ∀ c ∈ uniques, (rows.map c).Nodup

namespace Table

variable {ρ κ : Type} {uniques : List (ρ → κ)}

instance [DecidableEq ρ] : DecidableEq (Table ρ κ uniques) :=
  fun _ _ => decidable_of_iff _ Table.ext_iff.symm

def empty : Table ρ κ uniques where
  rows   := []
  unique := by simp

variable [DecidableEq κ]

-- The row with the value `k` in a unique column.
def select (t : Table ρ κ uniques) (column : ρ → κ) (k : κ) : Option ρ :=
  t.rows.find? (column · = k)

-- An insertion is rejected when it repeats the value of a unique column.
def insert? (t : Table ρ κ uniques) (r : ρ) : Option (Table ρ κ uniques) :=
  if h : ∀ c ∈ uniques, c r ∉ t.rows.map c then
    some {
      rows   := t.rows ++ [r]
      unique := fun c hc => by simpa using List.Nodup.concat (h c hc) (t.unique c hc) }
  else
    none

-- An update of columns that are not unique.
def update (t : Table ρ κ uniques) (p : ρ → Bool) (f : ρ → ρ)
    (h : ∀ c ∈ uniques, ∀ r, c (f r) = c r) : Table ρ κ uniques where
  rows       := t.rows.map fun r => if p r then f r else r
  unique c hc := by
    have hm : c ∘ (fun r => if p r then f r else r) = c :=
      funext fun r => by by_cases hp : p r = true <;> simp [hp, h c hc]
    simpa [hm] using t.unique c hc

-- The number of rows that an update touches.
def count (t : Table ρ κ uniques) (p : ρ → Bool) : Nat :=
  t.rows.countP p

variable {t t' : Table ρ κ uniques} {c : ρ → κ} {k : κ} {r : ρ}

@[simp]
theorem select_empty : (empty : Table ρ κ uniques).select c k = none :=
  rfl

theorem select_eq_some (hc : c ∈ uniques) : t.select c k = some r ↔ r ∈ t.rows ∧ c r = k := by
  constructor
  · exact fun h => ⟨List.mem_of_find?_eq_some h, by simpa using List.find?_some h⟩
  · rintro ⟨hm, rfl⟩
    cases hs : t.select c (c r)
    case none => exact absurd (List.find?_eq_none.mp hs r hm) (by simp)
    case some r' =>
      have hk : c r' = c r := by simpa using List.find?_some hs
      rw [List.inj_on_of_nodup_map (t.unique c hc) (List.mem_of_find?_eq_some hs) hm hk]

theorem select_eq_none : t.select c k = none ↔ ∀ r ∈ t.rows, c r ≠ k := by
  simp [select]

theorem insert?_eq_some :
    t.insert? r = some t' ↔ (∀ c ∈ uniques, t.select c (c r) = none) ∧ t'.rows = t.rows ++ [r] := by
  have hn : (∀ c ∈ uniques, t.select c (c r) = none) ↔ ∀ c ∈ uniques, c r ∉ t.rows.map c := by
    simp [select_eq_none]
  rw [hn, insert?]
  split
  case isTrue h  => rw [Option.some.injEq, Table.ext_iff, eq_comm, and_iff_right h]
  case isFalse h => exact iff_of_false nofun fun h' => h h'.left

theorem insert?_of_fresh (h : ∀ c ∈ uniques, t.select c (c r) = none) :
    ∃ t', t.insert? r = some t' := by
  have hn : ∀ c ∈ uniques, c r ∉ t.rows.map c := by
    simpa [select_eq_none] using h
  exact ⟨_, dif_pos hn⟩

theorem select_insert (h : t.insert? r = some t') (hc : c ∈ uniques) :
    t'.select c k = if c r = k then some r else t.select c k := by
  have ⟨hn, hr⟩ := insert?_eq_some.mp h
  by_cases hk : c r = k
  case pos =>
    rw [if_pos hk, select_eq_some hc, hr]
    simp [hk]
  case neg =>
    rw [if_neg hk, select, hr, List.find?_append]
    simp [hk, select]

theorem select_update {p : ρ → Bool} {f : ρ → ρ} {h : ∀ c ∈ uniques, ∀ r, c (f r) = c r}
    (hc : c ∈ uniques) :
    (t.update p f h).select c k = (t.select c k).map fun r => if p r then f r else r := by
  have hm : (fun r => decide (c r = k)) ∘ (fun r => if p r then f r else r) =
      fun r => decide (c r = k) :=
    funext fun r => by by_cases hp : p r = true <;> simp [hp, h c hc]
  simp only [select, update, List.find?_map, hm]

-- An update of one row.
theorem select_update_one {p : ρ → Bool} {f : ρ → ρ} {h : ∀ c ∈ uniques, ∀ r, c (f r) = c r}
    (hc : c ∈ uniques) (hr : t.select c k = some r) (hp : ∀ r' ∈ t.rows, p r' = true ↔ r' = r)
    (k' : κ) :
    (t.update p f h).select c k' = if k = k' then some (f r) else t.select c k' := by
  have ⟨hm, hk⟩ := (select_eq_some hc).mp hr
  rw [select_update hc]
  by_cases he : k = k'
  case pos =>
    subst he
    rw [hr, if_pos rfl, Option.map_some, if_pos ((hp r hm).mpr rfl)]
  case neg =>
    rw [if_neg he]
    cases hs : t.select c k'
    case none    => rfl
    case some r' =>
      have ⟨hm', hk'⟩ := (select_eq_some hc).mp hs
      have hne : p r' ≠ true := fun hpr => he <| by rw [← hk, ← hk', (hp r' hm').mp hpr]
      rw [Option.map_some, if_neg hne]

omit [DecidableEq κ] in
theorem mem_update_one {p : ρ → Bool} {f : ρ → ρ} {h : ∀ c ∈ uniques, ∀ r, c (f r) = c r} {r' : ρ}
    (hp : ∀ r' ∈ t.rows, p r' = true ↔ r' = r) (hm : r' ∈ (t.update p f h).rows) :
    r' ∈ t.rows ∨ r' = f r := by
  obtain ⟨x, hx, rfl⟩ := List.mem_map.mp hm
  split
  case isTrue hpx  => exact .inr (congrArg f ((hp x hx).mp hpx))
  case isFalse     => exact .inl hx

-- At most one row has a given value in a unique column.
theorem count_eq_one {p : ρ → Bool} (hc : c ∈ uniques) (hp : ∀ r, p r = true → c r = k) :
    t.count p = 1 ↔ ∃ r, t.select c k = some r ∧ p r = true := by
  have hle : t.rows.countP p ≤ (t.rows.map c).count k := by
    rw [List.count, List.countP_map]
    exact List.countP_mono_left fun r _ h => by simp [hp r h]
  have hle' := List.nodup_iff_count_le_one.mp (t.unique c hc) k
  have hpos : 0 < t.rows.countP p ↔ ∃ r, t.select c k = some r ∧ p r = true := by
    rw [List.countP_pos_iff]
    constructor
    · exact fun ⟨r, hm, h⟩ => ⟨r, (select_eq_some hc).mpr ⟨hm, hp r h⟩, h⟩
    · exact fun ⟨r, hs, h⟩ => ⟨r, ((select_eq_some hc).mp hs).left, h⟩
  rw [← hpos, count]
  omega

end Table
