import Mathlib.Data.List.Forall2
import Mathlib.Data.List.Induction

-- A log in which every entry names the hash of the entry before it.

structure HashChain (ε δ : Type) where
  genesis  : δ
  previous : ε → δ
  hash     : ε → δ

namespace HashChain

variable {ε δ : Type} {C : HashChain ε δ} {as bs : List ε} {a b : ε}

def head (C : HashChain ε δ) : List ε → δ
  | []      => C.genesis
  | [a]     => C.hash a
  | _ :: as => C.head as

@[simp]
theorem head_append_singleton (as : List ε) (a : ε) : C.head (as ++ [a]) = C.hash a := by
  induction as with
  | nil         => rfl
  | cons b bs ih =>
    cases bs with
    | nil      => rfl
    | cons _ _ => exact ih

-- Where a log has begun only matters until it has an entry.
theorem head_restart (g : δ) (a : ε) (as : List ε) :
    ({ C with genesis := g } : HashChain ε δ).head (a :: as) = C.head (a :: as) := by
  induction as generalizing a with
  | nil          => rfl
  | cons b bs ih => exact ih b

theorem head_cons (a : ε) (as : List ε) :
    C.head (a :: as) = ({ C with genesis := C.hash a } : HashChain ε δ).head as := by
  cases as with
  | nil       => rfl
  | cons b bs => exact (head_restart (C.hash a) b bs).symm

inductive Linked (C : HashChain ε δ) : List ε → Prop
  | nil : C.Linked []
  | append {as : List ε} {a : ε} :
      C.Linked as → C.previous a = C.head as → C.Linked (as ++ [a])

namespace Linked

theorem of_append (h : C.Linked (as ++ [a])) : C.Linked as ∧ C.previous a = C.head as := by
  generalize hl : as ++ [a] = l at h
  cases h with
  | nil           => simp at hl
  | append has ha =>
    have ⟨h₁, h₂⟩ := List.append_inj' hl rfl
    cases h₁
    cases h₂
    exact ⟨has, ha⟩

-- The head tells the whole log: if equal hashes make two entries alike, and no entry hashes to the
-- genesis, then two logs of one head are alike, entry by entry.
theorem forall₂_of_head_eq {R : ε → ε → Prop} (ha : C.Linked as) (hb : C.Linked bs)
    (hgenesis : ∀ a ∈ as ++ bs, C.hash a ≠ C.genesis)
    (halike : ∀ a ∈ as, ∀ b ∈ bs, C.hash a = C.hash b → R a b)
    (hprevious : ∀ a b, R a b → C.previous a = C.previous b) (hhead : C.head as = C.head bs) :
    List.Forall₂ R as bs := by
  induction as using List.reverseRecOn generalizing bs with
  | nil =>
    cases bs using List.reverseRecOn with
    | nil                   => exact .nil
    | append_singleton bs b =>
      rw [head_append_singleton] at hhead
      exact absurd hhead.symm (hgenesis b (by simp))
  | append_singleton as a ih =>
    cases bs using List.reverseRecOn with
    | nil                   =>
      rw [head_append_singleton] at hhead
      exact absurd hhead (hgenesis a (by simp))
    | append_singleton bs b =>
      have ⟨has, hpa⟩ := ha.of_append
      have ⟨hbs, hpb⟩ := hb.of_append
      rw [head_append_singleton, head_append_singleton] at hhead
      have hr := halike a (by simp) b (by simp) hhead
      have hsame : C.head as = C.head bs := hpa ▸ hpb ▸ hprevious a b hr
      have hsub : (as ++ bs).Sublist ((as ++ [a]) ++ (bs ++ [b])) :=
        (List.sublist_append_left as [a]).append (List.sublist_append_left bs [b])
      refine List.rel_append ?_ (.cons hr .nil)
      apply ih has hbs
      case hgenesis => exact fun x hx => hgenesis x (hsub.subset hx)
      case halike   => exact fun x hx y hy => halike x (by simp [hx]) y (by simp [hy])
      case hhead    => exact hsame

end Linked

end HashChain
