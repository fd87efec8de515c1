import GeneralExecution.Objects.Canonical
import GeneralExecution.Primitives.Sorting

namespace GeneralExecution

-- A value up to what its canonical text forgets: whether a sequence is a tuple, and the order of a
-- mapping.
inductive Plain
  | none
  | bool (b : Bool)
  | int (n : Int)
  | str (s : String)
  | list (xs : List Plain)
  | dict (find : String → Option Plain)

-- Tuples become lists, sets the list of their elements by their canonical texts, and mappings what
-- they give for a name.
mutual

def plain : PyValue → Plain
  | .none     => .none
  | .bool b   => .bool b
  | .int n    => .int n
  | .str s    => .str s
  | .list xs  => .list (plains xs)
  | .tuple xs => .list (plains xs)
  | .set xs   =>
    .list <| ((keyedPlains xs).mergeSort fun a b => a.1 ≤ b.1).map Prod.snd
  | .dict kvs => .dict fun k => Json.lookup k (plainMembers kvs)

def plains : List PyValue → List Plain
  | []      => []
  | x :: xs => plain x :: plains xs

def keyedPlains : List PyValue → List (String × Plain)
  | []      => []
  | x :: xs => (canonicalJson x, plain x) :: keyedPlains xs

def plainMembers : List (String × PyValue) → List (String × Plain)
  | []            => []
  | (k, v) :: kvs => (k, plain v) :: plainMembers kvs

end

-- A mapping has each of its names once.
mutual

def Proper : PyValue → Prop
  | .list xs | .tuple xs | .set xs => AllProper xs
  | .dict kvs => (kvs.map Prod.fst).Nodup ∧ AllMembersProper kvs
  | _         => True

def AllProper : List PyValue → Prop
  | []      => True
  | x :: xs => Proper x ∧ AllProper xs

def AllMembersProper : List (String × PyValue) → Prop
  | []            => True
  | (_, v) :: kvs => Proper v ∧ AllMembersProper kvs

end

-- What a decoded text leaves of the order of its members.
mutual

def forget : Json → Plain
  | .null    => .none
  | .bool b  => .bool b
  | .int n   => .int n
  | .str s   => .str s
  | .arr xs  => .list (forgetAll xs)
  | .obj kvs => .dict fun k => Json.lookup k (forgetMembers kvs)

def forgetAll : List Json → List Plain
  | []      => []
  | x :: xs => forget x :: forgetAll xs

def forgetMembers : List (String × Json) → List (String × Plain)
  | []            => []
  | (k, v) :: kvs => (k, forget v) :: forgetMembers kvs

end

theorem plains_eq_map (xs : List PyValue) : plains xs = xs.map plain := by
  induction xs
  case nil          => rfl
  case cons x xs ih => rw [plains, ih, List.map_cons]

theorem keyedPlains_eq_map (xs : List PyValue) :
    keyedPlains xs = xs.map fun x => (canonicalJson x, plain x) := by
  induction xs
  case nil          => rfl
  case cons x xs ih => rw [keyedPlains, ih, List.map_cons]

theorem plainMembers_eq_map (kvs : List (String × PyValue)) :
    plainMembers kvs = kvs.map fun m => (m.1, plain m.2) := by
  induction kvs
  case nil           => rfl
  case cons m kvs ih => rw [plainMembers, ih, List.map_cons]

theorem allProper_iff {xs : List PyValue} : AllProper xs ↔ ∀ x ∈ xs, Proper x := by
  induction xs
  case nil          => simp [AllProper]
  case cons x xs ih => rw [AllProper, ih, List.forall_mem_cons]

theorem allMembersProper_iff {kvs : List (String × PyValue)} :
    AllMembersProper kvs ↔ ∀ m ∈ kvs, Proper m.2 := by
  induction kvs
  case nil           => simp [AllMembersProper]
  case cons m kvs ih => rw [AllMembersProper, ih, List.forall_mem_cons]

theorem forgetAll_eq_map (xs : List Json) : forgetAll xs = xs.map forget := by
  induction xs
  case nil          => rfl
  case cons x xs ih => rw [forgetAll, ih, List.map_cons]

theorem forgetMembers_eq_map (kvs : List (String × Json)) :
    forgetMembers kvs = kvs.map fun m => (m.1, forget m.2) := by
  induction kvs
  case nil           => rfl
  case cons m kvs ih => rw [forgetMembers, ih, List.map_cons]

-- The elements of a set in the order of their texts, before and after they are normalized.
theorem normalizeAll_sorted (xs : List PyValue) :
    (normalizeAll xs).mergeSort (fun a b => a.dumps ≤ b.dumps) =
      (xs.mergeSort fun a b => canonicalJson a ≤ canonicalJson b).map normalize := by
  rw [normalizeAll_eq_map]
  exact (List.map_mergeSort (f := normalize) fun _ _ _ _ => rfl).symm

theorem keyedPlains_sorted (xs : List PyValue) :
    ((keyedPlains xs).mergeSort fun a b => a.1 ≤ b.1).map Prod.snd =
      (xs.mergeSort fun a b => canonicalJson a ≤ canonicalJson b).map plain := by
  have h := List.map_mergeSort (f := fun x => (canonicalJson x, plain x)) (l := xs)
    (r := fun a b => canonicalJson a ≤ canonicalJson b) (s := fun a b => a.1 ≤ b.1)
    fun _ _ _ _ => rfl
  rw [keyedPlains_eq_map, ← h, List.map_map]
  rfl

mutual

theorem plain_eq_forget : ∀ v, Proper v → plain v = forget (normalize v)
  | .none, _ | .bool _, _ | .int _, _ | .str _, _ => rfl
  | .list xs, h | .tuple xs, h => by
    rw [plain, normalize, forget, forgetAll_eq_map, normalizeAll_eq_map, plains_eq_map,
      List.map_map]
    exact congrArg _ (List.map_congr_left (items_eq_forget xs h))
  | .set xs, h => by
    rw [plain, normalize, forget, forgetAll_eq_map, normalizeAll_sorted, keyedPlains_sorted,
      List.map_map]
    apply congrArg _ (List.map_congr_left _)
    exact fun x hx => items_eq_forget xs h x ((List.mergeSort_perm ..).mem_iff.mp hx)
  | .dict kvs, h => by
    have hn : ((normalizeMembers kvs).map Prod.fst).Nodup := by
      simpa [normalizeMembers_eq_map, Function.comp_def] using h.1
    rw [plain, normalize, forget]
    congr 1
    funext k
    rw [forgetMembers_eq_map, Json.lookup_map, Json.lookup_sortMembers hn, normalizeMembers_eq_map,
      Json.lookup_map, plainMembers_eq_map, Json.lookup_map, Option.map_map]
    cases hl : Json.lookup k kvs
    case none   => rfl
    case some v => exact congrArg some (members_eq_forget kvs h.2 (k, v) (Json.lookup_mem hl))

theorem items_eq_forget : ∀ xs, AllProper xs → ∀ x ∈ xs, plain x = forget (normalize x)
  | [], _, _, hx => absurd hx List.not_mem_nil
  | y :: xs, h, x, hx => by
    cases List.mem_cons.mp hx
    case inl he => exact he ▸ plain_eq_forget y h.1
    case inr hx => exact items_eq_forget xs h.2 x hx

theorem members_eq_forget : ∀ kvs, AllMembersProper kvs →
    ∀ m ∈ kvs, plain m.2 = forget (normalize m.2)
  | [], _, _, hm => absurd hm List.not_mem_nil
  | (k, v) :: kvs, h, m, hm => by
    cases List.mem_cons.mp hm
    case inl he => exact he ▸ plain_eq_forget v h.1
    case inr hm => exact members_eq_forget kvs h.2 m hm

end

-- The objects of a canonical text have their members by name.
mutual

def Sorted : Json → Prop
  | .arr xs  => AllSorted xs
  | .obj kvs =>
    (kvs.map Prod.fst).Nodup ∧ (kvs.Pairwise fun a b => decide (a.1 ≤ b.1) = true) ∧
      AllMembersSorted kvs
  | _        => True

def AllSorted : List Json → Prop
  | []      => True
  | x :: xs => Sorted x ∧ AllSorted xs

def AllMembersSorted : List (String × Json) → Prop
  | []            => True
  | (_, v) :: kvs => Sorted v ∧ AllMembersSorted kvs

end

theorem allSorted_iff {xs : List Json} : AllSorted xs ↔ ∀ x ∈ xs, Sorted x := by
  induction xs
  case nil          => simp [AllSorted]
  case cons x xs ih => rw [AllSorted, ih, List.forall_mem_cons]

theorem allMembersSorted_iff {kvs : List (String × Json)} :
    AllMembersSorted kvs ↔ ∀ m ∈ kvs, Sorted m.2 := by
  induction kvs
  case nil           => simp [AllMembersSorted]
  case cons m kvs ih => rw [AllMembersSorted, ih, List.forall_mem_cons]

mutual

theorem sorted_normalize : ∀ v, Proper v → Sorted (normalize v)
  | .none, _ | .bool _, _ | .int _, _ | .str _, _ => trivial
  | .list xs, h | .tuple xs, h => by
    rw [normalize, Sorted, allSorted_iff, normalizeAll_eq_map, List.forall_mem_map]
    exact sorted_items xs h
  | .set xs, h => by
    rw [normalize, Sorted, allSorted_iff]
    intro x hx
    rw [(List.mergeSort_perm ..).mem_iff, normalizeAll_eq_map] at hx
    have ⟨y, hy, he⟩ := List.mem_map.mp hx
    exact he ▸ sorted_items xs h y hy
  | .dict kvs, h => by
    have hn : ((normalizeMembers kvs).map Prod.fst).Nodup := by
      simpa [normalizeMembers_eq_map, Function.comp_def] using h.1
    have hp := Json.sortMembers_perm (normalizeMembers kvs)
    refine ⟨(hp.map _).nodup_iff.mpr hn, Json.pairwise_sortMembers _, ?_⟩
    rw [allMembersSorted_iff]
    intro m hm
    rw [hp.mem_iff, normalizeMembers_eq_map] at hm
    have ⟨m', hm', he⟩ := List.mem_map.mp hm
    exact he ▸ sorted_members kvs h.2 m' hm'

theorem sorted_items : ∀ xs, AllProper xs → ∀ x ∈ xs, Sorted (normalize x)
  | [], _, _, hx => absurd hx List.not_mem_nil
  | y :: xs, h, x, hx => by
    cases List.mem_cons.mp hx
    case inl he => exact he ▸ sorted_normalize y h.1
    case inr hx => exact sorted_items xs h.2 x hx

theorem sorted_members : ∀ kvs, AllMembersProper kvs → ∀ m ∈ kvs, Sorted (normalize m.2)
  | [], _, _, hm => absurd hm List.not_mem_nil
  | (k, v) :: kvs, h, m, hm => by
    cases List.mem_cons.mp hm
    case inl he => exact he ▸ sorted_normalize v h.1
    case inr hm => exact sorted_members kvs h.2 m hm

end

-- With their members by name, values that answer alike are the same.
mutual

theorem forget_injective : ∀ j j', Sorted j → Sorted j' → forget j = forget j' → j = j'
  | .null, j', _, _, h => by cases j' <;> simp_all [forget]
  | .bool _, j', _, _, h => by cases j' <;> simp_all [forget]
  | .int _, j', _, _, h => by cases j' <;> simp_all [forget]
  | .str _, j', _, _, h => by cases j' <;> simp_all [forget]
  | .arr xs, j', hs, hs', h => by
    cases j'
    case arr xs' =>
      rw [forget, forget, Plain.list.injEq] at h
      exact congrArg _ (forgetAll_injective xs xs' hs hs' h)
    all_goals simp [forget] at h
  | .obj kvs, j', hs, hs', h => by
    cases j'
    case obj kvs' =>
      rw [forget, forget, Plain.dict.injEq] at h
      have hl (k : String) : Json.lookup k kvs = Json.lookup k kvs' := by
        have hk := congrFun h k
        rw [forgetMembers_eq_map, forgetMembers_eq_map, Json.lookup_map, Json.lookup_map] at hk
        cases hv : Json.lookup k kvs
        case none => simpa [hv, eq_comm] using hk
        case some v =>
          cases hv' : Json.lookup k kvs'
          case none    => simp [hv, hv'] at hk
          case some v' =>
            rw [hv, hv'] at hk
            have hm' := allMembersSorted_iff.mp hs'.2.2 _ (Json.lookup_mem hv')
            exact congrArg some <| forgetMembers_injective kvs hs.2.2 _ (Json.lookup_mem hv) v' hm'
              (Option.some.inj hk)
      have hp := Json.perm_of_lookup hs.1 hs'.1 hl
      rw [Json.eq_sortMembers_of_perm hs'.1 hs.2.1 hp]
      exact congrArg _ (Json.eq_sortMembers_of_perm hs'.1 hs'.2.1 (.refl kvs')).symm
    all_goals simp [forget] at h

theorem forgetAll_injective : ∀ xs xs', AllSorted xs → AllSorted xs' →
    forgetAll xs = forgetAll xs' → xs = xs'
  | [], [], _, _, _ => rfl
  | [], _ :: _, _, _, h => by cases h
  | _ :: _, [], _, _, h => by cases h
  | x :: xs, x' :: xs', hs, hs', h => by
    have ⟨hx, hxs⟩ := List.cons.inj h
    rw [forget_injective x x' hs.1 hs'.1 hx, forgetAll_injective xs xs' hs.2 hs'.2 hxs]

theorem forgetMembers_injective : ∀ kvs, AllMembersSorted kvs → ∀ m ∈ kvs, ∀ j', Sorted j' →
    forget m.2 = forget j' → m.2 = j'
  | [], _, _, hm => absurd hm List.not_mem_nil
  | (k, v) :: kvs, hs, m, hm => by
    cases List.mem_cons.mp hm
    case inl he => exact he ▸ fun j' => forget_injective v j' hs.1
    case inr hm => exact forgetMembers_injective kvs hs.2 m hm

end

theorem canonicalJson_inj {v w : PyValue} :
    canonicalJson v = canonicalJson w ↔ normalize v = normalize w :=
  Json.dumps_injective.eq_iff

-- The text of a value is the same in every order in which its sets and mappings are gone through.

theorem canonicalJson_set_of_perm {xs ys : List PyValue} (h : xs.Perm ys) :
    canonicalJson (.set xs) = canonicalJson (.set ys) := by
  rw [canonicalJson_inj, normalize, normalize, normalizeAll_eq_map, normalizeAll_eq_map]
  exact congrArg _ (List.sortBy_eq_of_injective Json.dumps_injective (h.map normalize))

theorem canonicalJson_dict_of_perm {kvs kvs' : PyDict} (hn : (kvs'.map Prod.fst).Nodup)
    (h : kvs.Perm kvs') : canonicalJson (.dict kvs) = canonicalJson (.dict kvs') := by
  rw [canonicalJson_inj, normalize, normalize, normalizeMembers_eq_map, normalizeMembers_eq_map]
  apply congrArg _ (Json.sortMembers_of_perm _ (h.map _))
  simpa [Function.comp_def] using hn

-- The canonical text is a canonical form of the values up to `plain`.
theorem canonicalJson_canonical (v w : PyValue) (hv : Proper v) (hw : Proper w) :
    (canonicalJson v = canonicalJson w ↔ plain v = plain w) ∧
      (∀ xs ys, xs.Perm ys → canonicalJson (.set xs) = canonicalJson (.set ys)) ∧
      (∀ kvs kvs' : PyDict, (kvs'.map Prod.fst).Nodup → kvs.Perm kvs' →
        canonicalJson (.dict kvs) = canonicalJson (.dict kvs')) ∧
      (Json.loads (canonicalJson v)).map (fun j => canonicalJson (ofJson j)) =
        some (canonicalJson v) := by
  refine ⟨?_, fun _ _ => canonicalJson_set_of_perm, fun _ _ => canonicalJson_dict_of_perm, ?_⟩
  · rw [canonicalJson_inj, plain_eq_forget v hv, plain_eq_forget w hw]
    constructor
    case mp  => exact congrArg forget
    case mpr => exact forget_injective _ _ (sorted_normalize v hv) (sorted_normalize w hw)
  · rw [loads_canonicalJson, Option.map_some, canonicalJson, normalize_ofJson_normalize]
    rfl

theorem canonicalJson_canonical_reordered :
    let v := PyValue.dict [("a", .set [.int 2, .int 1]), ("b", .tuple [])]
    let w := PyValue.dict [("b", .list []), ("a", .list [.int 1, .int 2])]
    (canonicalJson v = canonicalJson w ↔ plain v = plain w) ∧
      (Json.loads (canonicalJson v)).map (fun j => canonicalJson (ofJson j)) =
        some (canonicalJson v) := by
  intro v w
  have hv : Proper v := by simp [v, Proper, AllMembersProper, AllProper]
  have hw : Proper w := by simp [w, Proper, AllMembersProper, AllProper]
  have h := canonicalJson_canonical v w hv hw
  exact ⟨h.1, h.2.2.2⟩

end GeneralExecution
