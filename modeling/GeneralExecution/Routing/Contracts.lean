import GeneralExecution.Objects.Errors

-- `value.strip()`
def Text.stripped (s : String) : String :=
  .ofList (strip s.toList)

theorem Text.strip_of_not_space {cs : List Char} (h : ∀ c ∈ cs, isSpace c = false) :
    strip cs = cs := by
  have hd : ∀ l : List Char, (∀ c ∈ l, isSpace c = false) → dropSpace l = l := by
    intro l hl
    cases l
    case nil       => rfl
    case cons c cs => exact dropSpace_cons_of_not (hl c (by simp))
  rw [strip, hd cs h, hd cs.reverse (by simpa using h), List.reverse_reverse]

theorem Text.strip_eq (cs : List Char) : strip cs = (dropSpace cs).rdropWhile isSpace :=
  rfl

-- Only the back of what the first pass leaves is cut off by the second.
theorem Text.strip_strip (cs : List Char) : strip (strip cs) = strip cs := by
  have hd : dropSpace (strip cs) = strip cs := by
    rw [dropSpace, List.dropWhile_eq_self_iff]
    intro hl
    have hp : strip cs <+: dropSpace cs := List.rdropWhile_prefix ..
    have hlen : 0 < (dropSpace cs).length := hl.trans_le hp.length_le
    have hhead : (strip cs)[0] = (dropSpace cs)[0] := hp.getElem hl
    rw [hhead]
    exact List.dropWhile_get_zero_not isSpace cs hlen
  conv_lhs => rw [strip_eq, hd, strip_eq, List.rdropWhile_idempotent]
  exact (strip_eq cs).symm

@[simp]
theorem Text.stripped_stripped (s : String) : stripped (stripped s) = stripped s := by
  simp only [stripped, String.toList_ofList, strip_strip]

namespace GeneralExecution.Guard

-- The checks of the modules that look at the stripped text of a value.

def Stripped (value : Bool × List String) : Prop :=
  (∀ item ∈ value.2, ¬Text.Blank item) ∧ (value.1 = true ∨ value.2 ≠ []) ∧
    (value.2.map Text.stripped).Nodup

instance : DecidablePred Stripped :=
  fun _ => inferInstanceAs <| Decidable (_ ∧ _ ∧ _)

-- `_unique`, of values that come with whether they may be empty.
def stripped (cls : ErrorClass) (xs : List (String × Bool × List String)) :
    Py (PLift (∀ x ∈ xs, Stripped x.2)) :=
  each cls Stripped (fun name value =>
    if ∀ item ∈ value.2, ¬Text.Blank item then
      if value.1 = true ∨ value.2 ≠ [] then name ++ " must not contain duplicates"
      else name ++ " cannot be empty"
    else name ++ " must be a non-empty string") xs

theorem stripped_of {cls : ErrorClass} {xs : List (String × Bool × List String)}
    (h : ∀ x ∈ xs, Stripped x.2) : stripped cls xs = .ok ⟨h⟩ :=
  each_of h

def StrippedSha256 (value : String) : Prop :=
  IsSha256 (Text.stripped value)

instance : DecidablePred StrippedSha256 :=
  fun value => inferInstanceAs <| Decidable (IsSha256 (Text.stripped value))

def strippedSha256Message (name value : String) : String :=
  if Text.Blank value then name ++ " must be a non-empty string"
  else sha256Message (name ++ " must be sha256:<64-hex>") (name ++ " must contain hexadecimal digest")
    (Text.stripped value)

-- `_digest`
def strippedSha256 (cls : ErrorClass) (xs : List (String × String)) :
    Py (PLift (∀ x ∈ xs, StrippedSha256 x.2)) :=
  each cls StrippedSha256 strippedSha256Message xs

theorem strippedSha256_of {cls : ErrorClass} {xs : List (String × String)}
    (h : ∀ x ∈ xs, StrippedSha256 x.2) : strippedSha256 cls xs = .ok ⟨h⟩ :=
  each_of h

variable [Sha256]

-- A digest has no white space to strip.
theorem stripped_sha256Digest (v : PyValue) : Text.stripped (sha256Digest v) = sha256Digest v := by
  have hp : ∀ c ∈ "sha256:".toList, Text.isSpace c = false := by
    have ha : "sha256:".toList.all (Text.isSpace · = false) = true := by decide
    exact fun c hc => of_decide_eq_true <| List.all_eq_true.mp ha c hc
  have hs : ∀ c ∈ (sha256Digest v).toList, Text.isSpace c = false := by
    rw [sha256Digest_toList]
    intro c hc
    cases List.mem_append.mp hc
    case inl h => exact hp c h
    case inr h => exact (Text.hex_facts c <| Sha256.mem_lowerHex _ c h).left
  rw [Text.stripped, Text.strip_of_not_space hs, String.ofList_toList]

theorem stripped_stableId {tag : String} (ht : tag.toList.all (Text.isSpace · = false) = true)
    (v : PyValue) : Text.stripped (stableId tag v) = stableId tag v := by
  have hs : ∀ c ∈ (stableId tag v).toList, Text.isSpace c = false := by
    rw [stableId_toList]
    intro c hc
    rw [List.mem_append, List.mem_cons] at hc
    rcases hc with hc | rfl | hc
    · exact of_decide_eq_true <| List.all_eq_true.mp ht c hc
    · decide
    · exact (Text.hex_facts c <| Sha256.mem_lowerHex _ c <| List.mem_of_mem_take hc).left
  rw [Text.stripped, Text.strip_of_not_space hs, String.ofList_toList]

theorem strippedSha256_sha256Digest (v : PyValue) : StrippedSha256 (sha256Digest v) := by
  rw [StrippedSha256, stripped_sha256Digest]
  exact isSha256_sha256Digest v

end GeneralExecution.Guard
