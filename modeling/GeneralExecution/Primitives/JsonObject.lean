import GeneralExecution.Primitives.Json

-- Objects as dictionaries: the last member of a name counts, and sorting the members by name, as
-- `sort_keys` does, leaves the dictionary the same.

namespace Json

variable {α β : Type}

def lookup (k : String) : List (String × α) → Option α
  | []             => none
  | (k', v) :: kvs => (lookup k kvs).or (if k' = k then some v else none)

def get? : Json → String → Option Json
  | obj kvs, k => lookup k kvs
  | _,       _ => none

def string? (j : Json) (k : String) : Option String :=
  match j.get? k with
  | some (str s) => some s
  | _            => none

def isObj : Json → Bool
  | obj _ => true
  | _     => false

def keys : Json → List String
  | obj kvs => kvs.map Prod.fst
  | _       => []

def sortMembers (kvs : List (String × α)) : List (String × α) :=
  kvs.mergeSort fun a b => a.1 ≤ b.1

theorem sortMembers_perm (kvs : List (String × α)) : (sortMembers kvs).Perm kvs :=
  List.mergeSort_perm _ _

-- The object without a member.
def erase (k : String) : Json → Json
  | obj kvs => obj (kvs.filter (·.1 ≠ k))
  | j       => j

theorem pairwise_sortMembers (kvs : List (String × α)) :
    (sortMembers kvs).Pairwise fun a b => decide (a.1 ≤ b.1) = true := by
  refine List.pairwise_mergeSort (fun a b c hab hbc => ?_) (fun a b => ?_) kvs
  · simp only [decide_eq_true_eq] at hab hbc ⊢
    exact le_trans hab hbc
  · simpa using le_total a.1 b.1

theorem sortMembers_sortMembers (kvs : List (String × α)) :
    sortMembers (sortMembers kvs) = sortMembers kvs :=
  List.mergeSort_of_pairwise <| pairwise_sortMembers kvs

-- The names order the members of a dictionary completely.
theorem eq_sortMembers_of_perm {kvs sorted : List (String × α)} (hn : (kvs.map Prod.fst).Nodup)
    (hs : sorted.Pairwise fun a b => decide (a.1 ≤ b.1) = true) (hp : sorted.Perm kvs) :
    sorted = sortMembers kvs := by
  refine List.Perm.eq_of_pairwise (fun a b ha hb hab hba => ?_) hs (pairwise_sortMembers kvs)
    (hp.trans (sortMembers_perm kvs).symm)
  have hk : a.1 = b.1 := le_antisymm (of_decide_eq_true hab) (of_decide_eq_true hba)
  have hb' : b ∈ kvs := (sortMembers_perm kvs).mem_iff.mp hb
  exact List.inj_on_of_nodup_map hn (hp.mem_iff.mp ha) hb' hk

theorem sortMembers_of_perm {kvs kvs' : List (String × α)} (hn : (kvs'.map Prod.fst).Nodup)
    (hp : kvs.Perm kvs') : sortMembers kvs = sortMembers kvs' :=
  eq_sortMembers_of_perm hn (pairwise_sortMembers kvs) ((sortMembers_perm kvs).trans hp)

theorem sortMembers_filter {kvs : List (String × α)} (hn : (kvs.map Prod.fst).Nodup)
    (p : String × α → Bool) : (sortMembers kvs).filter p = sortMembers (kvs.filter p) := by
  have hn' : ((kvs.filter p).map Prod.fst).Nodup := hn.sublist (List.filter_sublist.map _)
  exact eq_sortMembers_of_perm hn' ((pairwise_sortMembers kvs).sublist List.filter_sublist)
    ((sortMembers_perm kvs).filter p)

theorem lookup_mem {k : String} {kvs : List (String × α)} {v : α} (h : lookup k kvs = some v) :
    (k, v) ∈ kvs := by
  induction kvs
  case nil => simp [lookup] at h
  case cons m kvs ih =>
    obtain ⟨k', v'⟩ := m
    simp only [lookup, Option.or_eq_some_iff] at h
    rcases h with h | ⟨_, h⟩
    · exact List.mem_cons_of_mem _ <| ih h
    · split at h <;> simp_all

theorem lookup_of_mem {k : String} {kvs : List (String × α)} {v : α}
    (hn : (kvs.map Prod.fst).Nodup) (h : (k, v) ∈ kvs) : lookup k kvs = some v := by
  induction kvs
  case nil => simp at h
  case cons m kvs ih =>
    simp only [List.map_cons, List.nodup_cons] at hn
    simp only [lookup, Option.or_eq_some_iff]
    rcases List.mem_cons.mp h with rfl | h
    · refine .inr ⟨?_, if_pos rfl⟩
      cases hl : lookup k kvs
      case none   => rfl
      case some w => exact absurd (List.mem_map_of_mem (lookup_mem hl)) hn.left
    · exact .inl <| ih hn.right h

theorem lookup_perm {k : String} {kvs kvs' : List (String × α)} (hp : kvs.Perm kvs')
    (hn : (kvs.map Prod.fst).Nodup) : lookup k kvs = lookup k kvs' := by
  have hn' : (kvs'.map Prod.fst).Nodup := (hp.map _).nodup_iff.mp hn
  ext v
  constructor <;> intro h
  · exact lookup_of_mem hn' <| hp.mem_iff.mp <| lookup_mem h
  · exact lookup_of_mem hn <| hp.mem_iff.mpr <| lookup_mem h

theorem lookup_sortMembers {k : String} {kvs : List (String × α)}
    (hn : (kvs.map Prod.fst).Nodup) : lookup k (sortMembers kvs) = lookup k kvs :=
  lookup_perm (sortMembers_perm kvs) ((sortMembers_perm kvs).map _ |>.nodup_iff.mpr hn)

-- The members that a dictionary of these members keeps: of each name the last one.
def latest : List (String × α) → List (String × α)
  | []       => []
  | m :: kvs => if m.1 ∈ kvs.map Prod.fst then latest kvs else m :: latest kvs

theorem mem_keys_latest {k : String} {kvs : List (String × α)} :
    k ∈ (latest kvs).map Prod.fst ↔ k ∈ kvs.map Prod.fst := by
  induction kvs
  case nil => rfl
  case cons m kvs ih =>
    rw [latest]
    split
    case isTrue hm =>
      rw [ih, List.map_cons, List.mem_cons]
      exact ⟨.inr, fun h => h.elim (fun he => he ▸ hm) id⟩
    case isFalse => rw [List.map_cons, List.map_cons, List.mem_cons, List.mem_cons, ih]

theorem latest_nodup (kvs : List (String × α)) : ((latest kvs).map Prod.fst).Nodup := by
  induction kvs
  case nil => exact List.nodup_nil
  case cons m kvs ih =>
    rw [latest]
    split
    case isTrue     => exact ih
    case isFalse hm => exact List.nodup_cons.mpr ⟨fun h => hm (mem_keys_latest.mp h), ih⟩

theorem lookup_eq_none {k : String} {kvs : List (String × α)} :
    lookup k kvs = none ↔ k ∉ kvs.map Prod.fst := by
  induction kvs
  case nil => simp [lookup]
  case cons m kvs ih =>
    rw [lookup, Option.or_eq_none_iff, ih, List.map_cons, List.mem_cons, not_or, and_comm]
    simp [eq_comm]

theorem lookup_latest (k : String) (kvs : List (String × α)) :
    lookup k (latest kvs) = lookup k kvs := by
  induction kvs
  case nil => rfl
  case cons m kvs ih =>
    rw [latest, lookup]
    split
    case isFalse   => rw [lookup, ih]
    case isTrue hm =>
      rw [ih]
      by_cases he : m.1 = k
      case neg => rw [if_neg he, Option.or_none]
      case pos =>
        -- The earlier member of the name is not seen.
        cases hl : lookup k kvs
        case none   => exact absurd (he ▸ hm) (lookup_eq_none.mp hl)
        case some v => rfl

-- Dictionaries that answer alike have the same members.
theorem perm_of_lookup {kvs kvs' : List (String × α)} (hn : (kvs.map Prod.fst).Nodup)
    (hn' : (kvs'.map Prod.fst).Nodup) (h : ∀ k, lookup k kvs = lookup k kvs') : kvs.Perm kvs' := by
  rw [List.perm_ext_iff_of_nodup (.of_map _ hn) (.of_map _ hn')]
  intro ⟨k, v⟩
  constructor
  case mp  => exact fun hm => lookup_mem <| h k ▸ lookup_of_mem hn hm
  case mpr => exact fun hm => lookup_mem <| (h k).symm ▸ lookup_of_mem hn' hm

theorem lookup_map (f : α → β) (k : String) (kvs : List (String × α)) :
    lookup k (kvs.map fun m => (m.1, f m.2)) = (lookup k kvs).map f := by
  induction kvs
  case nil => rfl
  case cons m kvs ih =>
    simp only [List.map_cons, lookup, ih]
    cases lookup k kvs <;> simp [apply_ite]

theorem mem_keys_sortMembers {k : String} {kvs : List (String × Json)} :
    k ∈ (obj (sortMembers kvs)).keys ↔ k ∈ kvs.map Prod.fst :=
  (sortMembers_perm kvs).map _ |>.mem_iff

end Json
