import Mathlib.Data.List.Nodup
import Mathlib.Data.List.Sort

-- What sorting makes of two orders of one list.

namespace List

variable {α β : Type} [LinearOrder β] {f : α → β} {as bs : List α}

theorem pairwise_sortBy (f : α → β) (as : List α) :
    (as.mergeSort fun a b => f a ≤ f b).Pairwise fun a b => f a ≤ f b := by
  have h : (as.mergeSort fun a b => f a ≤ f b).Pairwise fun a b => decide (f a ≤ f b) = true :=
    pairwise_mergeSort
      (fun a b c hab hbc => by simpa using le_trans (of_decide_eq_true hab) (of_decide_eq_true hbc))
      (fun a b => by simpa using le_total (f a) (f b)) as
  simpa using h

theorem sortBy_eq_of_perm (hn : (as.map f).Nodup) (hp : as.Perm bs) :
    (as.mergeSort fun a b => f a ≤ f b) = bs.mergeSort fun a b => f a ≤ f b := by
  have ha := mergeSort_perm as fun a b => f a ≤ f b
  refine Perm.eq_of_pairwise ?_ (pairwise_sortBy f as) (pairwise_sortBy f bs)
    (ha.trans <| hp.trans (mergeSort_perm ..).symm)
  intro a b hma hmb hab hba
  have hb : b ∈ as := hp.mem_iff.mpr <| (mergeSort_perm ..).mem_iff.mp hmb
  exact inj_on_of_nodup_map hn (ha.mem_iff.mp hma) hb (le_antisymm hab hba)

theorem sortBy_eq_of_injective (hf : Function.Injective f) (hp : as.Perm bs) :
    (as.mergeSort fun a b => f a ≤ f b) = bs.mergeSort fun a b => f a ≤ f b := by
  have ha := mergeSort_perm as fun a b => f a ≤ f b
  apply Perm.eq_of_pairwise _ (pairwise_sortBy f as) (pairwise_sortBy f bs)
    (ha.trans <| hp.trans (mergeSort_perm ..).symm)
  exact fun a b _ _ hab hba => hf (le_antisymm hab hba)

variable {xs ys : List β}

theorem pairwise_sort (xs : List β) : xs.mergeSort.Pairwise (· ≤ ·) :=
  pairwise_sortBy id xs

theorem sort_eq_of_perm (hp : xs.Perm ys) : xs.mergeSort = ys.mergeSort :=
  Perm.eq_of_pairwise (fun _ _ _ _ => le_antisymm) (pairwise_sort xs) (pairwise_sort ys)
    ((mergeSort_perm ..).trans <| hp.trans (mergeSort_perm ..).symm)

end List
