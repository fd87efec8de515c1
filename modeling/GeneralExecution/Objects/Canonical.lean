import GeneralExecution.Primitives.JsonObject
import GeneralExecution.Primitives.JsonParser
import GeneralExecution.Primitives.Text

namespace GeneralExecution

-- The values that are digested: what `dataclasses.asdict` and the wire modules produce.
inductive PyValue
  | none
  | bool (b : Bool)
  | int (n : Int)
  | str (s : String)
  | list (xs : List PyValue)
  | tuple (xs : List PyValue)
  | set (xs : List PyValue)
  | dict (kvs : List (String × PyValue))

abbrev PyDict := List (String × PyValue)

class ToPy (α : Type) where
  toPy : α → PyValue

export ToPy (toPy)

-- `dataclasses.asdict`
class AsDict (α : Type) where
  asdict : α → PyDict

export AsDict (asdict)

instance {α : Type} [AsDict α] : ToPy α :=
  ⟨fun a => .dict (asdict a)⟩

instance : ToPy PyValue := ⟨id⟩

instance : ToPy Bool := ⟨.bool⟩

instance : ToPy Int := ⟨.int⟩

instance : ToPy Nat := ⟨fun n => .int n⟩

instance : ToPy String := ⟨.str⟩

instance {α : Type} [ToPy α] : ToPy (Option α) where
  toPy
    | .none   => .none
    | .some a => toPy a

-- A tuple of a frozen record.
instance {α : Type} [ToPy α] : ToPy (List α) :=
  ⟨fun xs => .tuple (xs.map toPy)⟩

instance {α β : Type} [ToPy α] [ToPy β] : ToPy (α × β) :=
  ⟨fun x => .tuple [toPy x.1, toPy x.2]⟩

-- A `Literal` of strings.
class PyLiteral (α : Type) where
  spelling       : α → String
  values         : List α
  parse_spelling : ∀ a, values.find? (fun b => spelling b = spelling a) = some a

def PyLiteral.parse? {α : Type} [PyLiteral α] (s : String) : Option α :=
  values.find? fun a => spelling a = s

instance {α : Type} [PyLiteral α] : ToPy α :=
  ⟨fun a => .str (PyLiteral.spelling a)⟩

-- A decoded text as a value. No text of this system names a member of an object twice.
mutual

def ofJson : Json → PyValue
  | .null    => .none
  | .bool b  => .bool b
  | .int n   => .int n
  | .str s   => .str s
  | .arr xs  => .list (ofJsons xs)
  | .obj kvs => .dict (ofMembers kvs)

def ofJsons : List Json → List PyValue
  | []      => []
  | x :: xs => ofJson x :: ofJsons xs

def ofMembers : List (String × Json) → PyDict
  | []            => []
  | (k, v) :: kvs => (k, ofJson v) :: ofMembers kvs

end

mutual

def normalize : PyValue → Json
  | .none     => .null
  | .bool b   => .bool b
  | .int n    => .int n
  | .str s    => .str s
  | .list xs  => .arr (normalizeAll xs)
  | .tuple xs => .arr (normalizeAll xs)
  | .set xs   => .arr <| (normalizeAll xs).mergeSort fun a b => a.dumps ≤ b.dumps
  | .dict kvs => .obj (Json.sortMembers (normalizeMembers kvs))

def normalizeAll : List PyValue → List Json
  | []      => []
  | x :: xs => normalize x :: normalizeAll xs

def normalizeMembers : List (String × PyValue) → List (String × Json)
  | []            => []
  | (k, v) :: kvs => (k, normalize v) :: normalizeMembers kvs

end

def canonicalJson (v : PyValue) : String :=
  (normalize v).dumps

-- `hashlib.sha256(text.encode("utf-8")).hexdigest()`. Nothing is assumed of it but the form of its
-- results; where a result relies on two digests being different, it says of which values.
class Sha256 where
  hexdigest    : String → String
  length       : ∀ text, (hexdigest text).toList.length = 64
  mem_lowerHex : ∀ text, ∀ c ∈ (hexdigest text).toList, c ∈ Text.lowerHex

-- A digest of that form, which tells apart the texts whose ranks differ modulo 16.
@[reducible]
def Sha256.ofRank (rank : Option Json → Nat) : Sha256 where
  hexdigest text      :=
    .ofList <| List.replicate 64 <| Text.lowerHex.getD (rank (Json.loads text) % 16) '0'
  length _            := by simp
  mem_lowerHex _ _ hc := by
    rw [String.toList_ofList] at hc
    exact (List.mem_replicate.mp hc).right ▸ Text.getD_mem_lowerHex (Nat.mod_lt _ (by decide))

@[reducible]
def Sha256.blind : Sha256 :=
  ofRank fun _ => 0

section Digests

variable [Sha256]

def sha256Digest (v : PyValue) : String :=
  "sha256:" ++ Sha256.hexdigest (canonicalJson v)

-- `text.split(":", 1)[1]`
def afterColon (cs : List Char) : List Char :=
  (cs.dropWhile (· ≠ ':')).drop 1

def stableId (tag : String) (v : PyValue) : String :=
  tag ++ "-" ++ .ofList ((afterColon (sha256Digest v).toList).take 24)

end Digests

-- The check of a digest that the records share: `value.startswith("sha256:")`, a length of 71, and
-- a rest that `int(.., 16)` reads.
def IsSha256 (s : String) : Prop :=
  "sha256:".toList <+: s.toList ∧ s.length = 71 ∧ Text.isInt16 (s.toList.drop 7) = true

instance (s : String) : Decidable (IsSha256 s) :=
  inferInstanceAs <| Decidable (_ ∧ _ ∧ _)

-- `re.fullmatch(r"sha256:[0-9a-f]{64}", value)`, which some modules ask for instead.
def IsLowerSha256 (s : String) : Prop :=
  ∃ digits, s.toList = "sha256:".toList ++ digits ∧ digits.length = 64 ∧
    ∀ c ∈ digits, c ∈ Text.lowerHex

instance (s : String) : Decidable (IsLowerSha256 s) :=
  decidable_of_iff
    ("sha256:".toList <+: s.toList ∧ (s.toList.drop 7).length = 64 ∧
      ∀ c ∈ s.toList.drop 7, c ∈ Text.lowerHex) <| by
    constructor
    · rintro ⟨⟨digits, h⟩, hl, hc⟩
      rw [← h, show 7 = "sha256:".toList.length from rfl, List.drop_left] at hl hc
      exact ⟨digits, h.symm, hl, hc⟩
    · rintro ⟨digits, h, hl, hc⟩
      rw [h, show 7 = "sha256:".toList.length from rfl, List.drop_left]
      exact ⟨List.prefix_append _ _, hl, hc⟩

theorem normalizeAll_eq_map (xs : List PyValue) : normalizeAll xs = xs.map normalize := by
  induction xs
  case nil          => rfl
  case cons x xs ih => rw [normalizeAll, ih, List.map_cons]

theorem normalizeMembers_eq_map (kvs : List (String × PyValue)) :
    normalizeMembers kvs = kvs.map fun m => (m.1, normalize m.2) := by
  induction kvs
  case nil           => rfl
  case cons m kvs ih => rw [normalizeMembers, ih, List.map_cons]

theorem normalizeAll_ofJsons {xs : List Json} (h : ∀ x ∈ xs, normalize (ofJson x) = x) :
    normalizeAll (ofJsons xs) = xs := by
  induction xs
  case nil          => rfl
  case cons x xs ih => rw [ofJsons, normalizeAll, h x (by simp), ih fun y hy => h y (by simp [hy])]

theorem normalizeMembers_ofMembers {kvs : List (String × Json)}
    (h : ∀ m ∈ kvs, normalize (ofJson m.2) = m.2) : normalizeMembers (ofMembers kvs) = kvs := by
  induction kvs
  case nil => rfl
  case cons m kvs ih =>
    obtain ⟨k, v⟩ := m
    rw [ofMembers, normalizeMembers, h (k, v) (by simp), ih fun m hm => h m (by simp [hm])]

-- Decoding a canonical text and normalizing the result again changes nothing.
mutual

@[simp]
theorem normalize_ofJson_normalize : ∀ v, normalize (ofJson (normalize v)) = normalize v
  | .none | .bool _ | .int _ | .str _ => rfl
  | .list xs | .tuple xs => by
    rw [normalize, ofJson, normalize, normalizeAll_ofJsons (mem_normalizeAll xs)]
  | .set xs => by
    rw [normalize, ofJson, normalize, normalizeAll_ofJsons fun x hx =>
      mem_normalizeAll xs x ((List.mergeSort_perm _ _).mem_iff.mp hx)]
  | .dict kvs => by
    rw [normalize, ofJson, normalize, normalizeMembers_ofMembers fun m hm =>
      mem_normalizeMembers kvs m ((Json.sortMembers_perm _).mem_iff.mp hm), Json.sortMembers_sortMembers]

theorem mem_normalizeAll : ∀ xs, ∀ x ∈ normalizeAll xs, normalize (ofJson x) = x
  | [], _, h => by simp [normalizeAll] at h
  | y :: xs, x, h => by
    rcases List.mem_cons.mp h with rfl | h
    · exact normalize_ofJson_normalize y
    · exact mem_normalizeAll xs x h

theorem mem_normalizeMembers : ∀ kvs, ∀ m ∈ normalizeMembers kvs, normalize (ofJson m.2) = m.2
  | [], _, h => by simp [normalizeMembers] at h
  | (k, v) :: kvs, m, h => by
    rcases List.mem_cons.mp h with rfl | h
    · exact normalize_ofJson_normalize v
    · exact mem_normalizeMembers kvs m h

end

@[simp]
theorem loads_canonicalJson (v : PyValue) : Json.loads (canonicalJson v) = some (normalize v) :=
  Json.loads_dumps _

-- No member is given twice. This is a boolean so that `rfl` proves it of a dictionary whose names
-- are literals.
def distinctKeys (kvs : PyDict) : Bool :=
  decide (kvs.map Prod.fst).Nodup

theorem normalizeMembers_nodup {kvs : PyDict} (hd : distinctKeys kvs = true) :
    ((normalizeMembers kvs).map Prod.fst).Nodup := by
  simpa [normalizeMembers_eq_map, Function.comp_def, distinctKeys] using hd

theorem normalize_get? {kvs : PyDict} (hd : distinctKeys kvs = true) (k : String) :
    (normalize (.dict kvs)).get? k = (Json.lookup k kvs).map normalize := by
  rw [normalize, Json.get?, Json.lookup_sortMembers (normalizeMembers_nodup hd),
    normalizeMembers_eq_map, Json.lookup_map]

theorem normalize_erase {kvs : PyDict} (hd : distinctKeys kvs = true) (k : String) :
    (normalize (.dict kvs)).erase k = normalize (.dict (kvs.filter (·.1 ≠ k))) := by
  rw [normalize, normalize, Json.erase, Json.sortMembers_filter (normalizeMembers_nodup hd),
    normalizeMembers_eq_map, normalizeMembers_eq_map, List.filter_map]
  rfl

theorem mem_normalize_keys {kvs : PyDict} {k : String} :
    k ∈ (normalize (.dict kvs)).keys ↔ k ∈ kvs.map Prod.fst := by
  rw [normalize, Json.mem_keys_sortMembers, normalizeMembers_eq_map]
  simp

section Digests

variable [Sha256]

theorem sha256Digest_toList (v : PyValue) :
    (sha256Digest v).toList =
      "sha256:".toList ++ (Sha256.hexdigest (canonicalJson v)).toList := by
  simp [sha256Digest]

theorem isSha256_sha256Digest (v : PyValue) : IsSha256 (sha256Digest v) := by
  have hl := Sha256.length (canonicalJson v)
  have hh := Sha256.mem_lowerHex (canonicalJson v)
  refine ⟨?_, ?_, ?_⟩
  · rw [sha256Digest_toList]
    exact List.prefix_append _ _
  · rw [← String.length_toList, sha256Digest_toList, List.length_append, hl]
    rfl
  · rw [sha256Digest_toList, show 7 = "sha256:".toList.length from rfl, List.drop_left]
    refine Text.isInt16_of_hex hh fun h => ?_
    rw [h] at hl
    exact absurd hl (by decide)

theorem isLowerSha256_sha256Digest (v : PyValue) : IsLowerSha256 (sha256Digest v) :=
  ⟨_, sha256Digest_toList v, Sha256.length _, Sha256.mem_lowerHex _⟩

omit [Sha256] in
theorem IsSha256.ne_empty {s : String} (h : IsSha256 s) : s ≠ "" := by
  rintro rfl
  simpa using h.right.left

theorem sha256Digest_ne_empty (v : PyValue) : sha256Digest v ≠ "" :=
  (isSha256_sha256Digest v).ne_empty

theorem sha256Digest_not_blank (v : PyValue) : ¬Text.Blank (sha256Digest v) := by
  have ⟨cs, h⟩ := (isSha256_sha256Digest v).left
  exact Text.not_blank_of_head h.symm (by decide)

@[simp]
theorem sha256Digest_ofJson_normalize (v : PyValue) :
    sha256Digest (ofJson (normalize v)) = sha256Digest v := by
  simp [sha256Digest, canonicalJson]

theorem stableId_toList (p : String) (v : PyValue) :
    (stableId p v).toList =
      p.toList ++ '-' :: (Sha256.hexdigest (canonicalJson v)).toList.take 24 := by
  simp [stableId, sha256Digest_toList, afterColon]

theorem stableId_not_blank {p : String} {c : Char} {cs : List Char} (h : p.toList = c :: cs)
    (hc : Text.isSpace c = false) (v : PyValue) : ¬Text.Blank (stableId p v) :=
  Text.not_blank_of_head (by rw [stableId_toList, h, List.cons_append]) hc

end Digests

section Ranks

variable {rank : Option Json → Nat} {v w : PyValue}

theorem Sha256.ofRank_hexdigest (v : PyValue) :
    ((Sha256.ofRank rank).hexdigest (canonicalJson v)).toList =
      List.replicate 64 (Text.lowerHex.getD (rank (normalize v) % 16) '0') := by
  show (String.ofList _).toList = _
  rw [String.toList_ofList, loads_canonicalJson]

theorem Sha256.ofRank_inj {n m : Nat}
    (h : Text.lowerHex.getD (n % 16) '0' = Text.lowerHex.getD (m % 16) '0') : n % 16 = m % 16 :=
  Text.getD_lowerHex_inj (Nat.mod_lt _ (by decide)) (Nat.mod_lt _ (by decide)) h

theorem sha256Digest_ne_of_rank (h : rank (normalize v) % 16 ≠ rank (normalize w) % 16) :
    let _ := Sha256.ofRank rank
    sha256Digest v ≠ sha256Digest w := by
  intro _ he
  have := congrArg String.toList he
  rw [sha256Digest_toList, sha256Digest_toList, List.append_cancel_left_eq,
    Sha256.ofRank_hexdigest, Sha256.ofRank_hexdigest, List.replicate_inj] at this
  exact h <| Sha256.ofRank_inj <| by simpa using this

theorem stableId_ne_of_rank (tag : String) (h : rank (normalize v) % 16 ≠ rank (normalize w) % 16) :
    let _ := Sha256.ofRank rank
    stableId tag v ≠ stableId tag w := by
  intro _ he
  have := congrArg String.toList he
  rw [stableId_toList, stableId_toList, List.append_cancel_left_eq, List.cons_inj_right,
    Sha256.ofRank_hexdigest, Sha256.ofRank_hexdigest, List.take_replicate, List.take_replicate,
    List.replicate_inj] at this
  exact h <| Sha256.ofRank_inj <| by simpa using this

end Ranks

end GeneralExecution
