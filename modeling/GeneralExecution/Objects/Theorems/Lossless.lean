import GeneralExecution.Objects.Fields

namespace GeneralExecution

-- The value that `json.loads` makes of a text: an object is a dictionary, in which of each name the
-- last member counts.
mutual

def parsed : Json → PyValue
  | .null    => .none
  | .bool b  => .bool b
  | .int n   => .int n
  | .str s   => .str s
  | .arr xs  => .list (parsedAll xs)
  | .obj kvs => .dict (parsedMembers kvs)

def parsedAll : List Json → List PyValue
  | []      => []
  | x :: xs => parsed x :: parsedAll xs

def parsedMembers : List (String × Json) → PyDict
  | []            => []
  | (k, v) :: kvs =>
    if k ∈ kvs.map Prod.fst then parsedMembers kvs else (k, parsed v) :: parsedMembers kvs

end

theorem parsedAll_eq_map (xs : List Json) : parsedAll xs = xs.map parsed := by
  induction xs
  case nil          => rfl
  case cons x xs ih => rw [parsedAll, ih, List.map_cons]

theorem parsedMembers_eq (kvs : List (String × Json)) :
    parsedMembers kvs = (Json.latest kvs).map fun m => (m.1, parsed m.2) := by
  induction kvs
  case nil => rfl
  case cons m kvs ih =>
    rw [parsedMembers, Json.latest]
    split
    case isTrue  => exact ih
    case isFalse => rw [ih, List.map_cons]

-- The member of the decoded object holds the value.
def Holds (data : Json) (k : String) (w : PyValue) : Prop :=
  ∃ v, data.get? k = some v ∧ normalize (parsed v) = normalize w

-- An object of exactly these members is written like the dictionary of them.
theorem normalize_parsed {data : Json} {fields : PyDict} (ho : data.isObj = true)
    (hd : distinctKeys fields = true) (hk : data.keys ⊆ fields.map Prod.fst)
    (hv : ∀ m ∈ fields, Holds data m.1 m.2) :
    normalize (parsed data) = normalize (.dict fields) := by
  cases data
  case obj kvs =>
    have hkvs : (parsedMembers kvs).map Prod.fst = (Json.latest kvs).map Prod.fst := by
      simp [parsedMembers_eq]
    have hn : ((normalizeMembers (parsedMembers kvs)).map Prod.fst).Nodup := by
      apply normalizeMembers_nodup
      rw [distinctKeys, hkvs]
      exact decide_eq_true <| Json.latest_nodup kvs
    have hl (k : String) : Json.lookup k (normalizeMembers (parsedMembers kvs)) =
        Json.lookup k (normalizeMembers fields) := by
      rw [normalizeMembers_eq_map, normalizeMembers_eq_map, Json.lookup_map, Json.lookup_map,
        parsedMembers_eq, Json.lookup_map, Json.lookup_latest, Option.map_map]
      by_cases hm : k ∈ fields.map Prod.fst
      case pos =>
        obtain ⟨⟨_, w⟩, hw, rfl⟩ := List.mem_map.mp hm
        obtain ⟨v, hg, he⟩ := hv _ hw
        rw [Json.lookup_of_mem (of_decide_eq_true hd) hw, show Json.lookup _ kvs = some v from hg]
        exact congrArg some he
      case neg =>
        rw [Json.lookup_eq_none.mpr hm, Json.lookup_eq_none.mpr fun h => hm (hk h)]
        rfl
    have hp := Json.perm_of_lookup hn (normalizeMembers_nodup hd) hl
    rw [parsed, normalize, normalize, Json.sortMembers_of_perm (normalizeMembers_nodup hd) hp]
  all_goals cases ho

-- What is read of a value is written like the value.
def Lossless {α : Type} [ToPy α] (read : Json → Py α) : Prop :=
  ∀ j a, read j = .ok a → normalize (parsed j) = normalize (toPy a)

namespace Lossless

variable {α : Type} [ToPy α] {read : Json → Py α}
variable {cls : ErrorClass} {message unsupported invalid : String}

theorem string : Lossless (Typed.string cls message) := by
  intro j s h
  cases j
  case str => exact congrArg Json.str (Except.ok.inj h)
  all_goals cases h

theorem member : Lossless (Typed.member cls unsupported invalid) := by
  intro j s h
  cases j
  case str => exact congrArg Json.str (Except.ok.inj h)
  all_goals cases h

theorem nat : Lossless (Typed.nat cls message) := by
  intro j n h
  cases j
  case int i =>
    rw [Typed.nat] at h
    split at h
    case isTrue     => simp at h
    case isFalse hi =>
      have he : (i.toNat : Int) = i := Int.toNat_of_nonneg (by omega)
      rw [← Except.pure_eq_ok.mp h]
      exact congrArg Json.int he.symm
  all_goals cases h

theorem list (hr : Lossless read) : Lossless (Typed.list cls message read) := by
  intro j as h
  cases j
  case arr xs =>
    change xs.mapM read = .ok as at h
    change Json.arr (normalizeAll (parsedAll xs)) = Json.arr (normalizeAll (as.map toPy))
    rw [parsedAll_eq_map, normalizeAll_eq_map, normalizeAll_eq_map]
    induction xs generalizing as
    case nil =>
      cases h
      rfl
    case cons x xs ih =>
      simp only [List.mapM_cons, Except.bind_eq_ok, Except.pure_eq_ok] at h
      obtain ⟨a, ha, as, has, he⟩ := h
      have hi := Json.arr.inj (ih as has)
      rw [← he, List.map_cons, List.map_cons, List.map_cons, List.map_cons, hi, hr x a ha]
  all_goals cases h

theorem opt (hr : Lossless read) : Lossless (Read.opt read) := by
  intro j o h
  unfold Read.opt at h
  split at h
  case h_1 =>
    rw [← Except.pure_eq_ok.mp h]
    rfl
  case h_2 =>
    simp only [Except.bind_eq_ok, Except.pure_eq_ok] at h
    obtain ⟨a, ha, he⟩ := h
    rw [← he]
    exact hr j a ha

-- The member that was read.
theorem get {data : Json} {k : String} {a : α} (hr : Lossless read)
    (h : Field.get read data k = .ok a) : Holds data k (toPy a) := by
  rw [Field.get] at h
  split at h
  case h_1 j hj => exact ⟨j, hj, hr j a h⟩
  case h_2      => simp at h

-- A record is read losslessly when each of its fields is, of an object with exactly these fields.
theorem record {β : Type} [AsDict β] {b : β} {data : Json} {label : String} {expected : List String}
    {u : Unit} (hx : Typed.exactFields cls label expected data = .ok u)
    (hk : (asdict b).map Prod.fst = expected) (hd : distinctKeys (asdict b) = true)
    (hv : ∀ m ∈ asdict b, Holds data m.1 m.2) : normalize (parsed data) = normalize (toPy b) := by
  simp only [Typed.exactFields, Except.bind_eq_ok, Py.require_eq_ok] at hx
  obtain ⟨_, ho, hs, _⟩ := hx
  exact normalize_parsed ho hd (hk ▸ hs) hv

end Lossless

theorem PyLiteral.spelling_of_parse {α : Type} [PyLiteral α] {s : String} {a : α}
    (h : PyLiteral.parse? s = some a) : PyLiteral.spelling a = s := by
  have hs := List.find?_some h
  exact of_decide_eq_true hs

theorem PyLiteral.toPy_of_parse {α : Type} [PyLiteral α] {s : String} {a : α}
    (h : PyLiteral.parse? s = some a) : toPy s = toPy a :=
  congrArg PyValue.str (PyLiteral.spelling_of_parse h).symm

end GeneralExecution
