import GeneralExecution.Primitives.Sorting
import GeneralExecution.Routing.Theorems.Ready

namespace GeneralExecution

theorem mem_combinations {α : Type} {as combo : List α} {n : Nat} :
    combo ∈ combinations n as ↔ combo.Sublist as ∧ combo.length = n := by
  induction n, as using combinations.induct generalizing combo with
  | case1 as =>
    rw [combinations, List.mem_singleton, List.length_eq_zero_iff]
    exact ⟨fun h => ⟨h ▸ List.nil_sublist as, h⟩, And.right⟩
  | case2 n =>
    rw [combinations, List.sublist_nil]
    refine iff_of_false List.not_mem_nil ?_
    rintro ⟨hc, hl⟩
    rw [hc] at hl
    cases hl
  | case3 n a as ih₁ ih₂ =>
    rw [combinations, List.mem_append, List.mem_map, ih₂]
    constructor
    case mp  =>
      intro h
      cases h
      case inl h =>
        obtain ⟨rest, hrest, he⟩ := h
        obtain ⟨hs, hl⟩ := ih₁.mp hrest
        subst he
        exact ⟨hs.cons_cons a, congrArg (· + 1) hl⟩
      case inr h => exact ⟨h.left.cons a, h.right⟩
    case mpr =>
      rintro ⟨hs, hl⟩
      cases hs
      case cons hs           => exact .inr ⟨hs, hl⟩
      case cons_cons rest hs => exact .inl ⟨rest, ih₁.mpr ⟨hs, Nat.succ.inj hl⟩, rfl⟩

def totalCost (combo : List CapabilityProjection) : Nat :=
  (combo.map (·.costRank)).sum

def sortedIds (combo : List CapabilityProjection) : List String :=
  (combo.map (·.candidateId)).mergeSort

-- A set of candidates that offers everything that is required.
structure IsCover (required : List String) (candidates cover : List CapabilityProjection) : Prop where
  nodup  : cover.Nodup
  subset : cover ⊆ candidates
  covers : Covers required cover

-- The best cover: of the smallest size, then of the smallest cost, then of the first identifiers.
structure MinimumCover (required : List String) (candidates selected : List CapabilityProjection) :
    Prop extends IsCover required candidates selected where
  fewest   : ∀ cover, IsCover required candidates cover → selected.length ≤ cover.length
  cheapest : ∀ cover, IsCover required candidates cover → cover.length = selected.length →
    totalCost selected ≤ totalCost cover
  first    : ∀ cover, IsCover required candidates cover → cover.length = selected.length →
    totalCost cover = totalCost selected →
      cover.Perm selected ∨ sortedIds selected < sortedIds cover

variable {required : List String} {candidates candidates' : List CapabilityProjection}
variable {cover selected selected' combo combo' : List CapabilityProjection}

theorem IsCover.perm (h : IsCover required candidates cover) (hp : candidates.Perm candidates') :
    IsCover required candidates' cover :=
  ⟨h.nodup, List.Subset.trans h.subset hp.subset, h.covers⟩

theorem Covers.perm (h : Covers required combo) (hp : combo.Perm combo') : Covers required combo' := by
  intro id hid
  have ⟨c, hc, hk⟩ := h id hid
  exact ⟨c, hp.subset hc, hk⟩

theorem comboKey_perm (hp : combo.Perm combo') : comboKey combo = comboKey combo' := by
  have hcost := (hp.map (·.costRank)).sum_eq
  have hids := List.sort_eq_of_perm (hp.map (·.candidateId))
  rw [comboKey, hcost, hids, comboKey]

theorem MinimumCover.perm (h : MinimumCover required candidates selected)
    (hp : candidates.Perm candidates') : MinimumCover required candidates' selected where
  toIsCover := h.toIsCover.perm hp
  fewest cover hc   := h.fewest cover (hc.perm hp.symm)
  cheapest cover hc := h.cheapest cover (hc.perm hp.symm)
  first cover hc    := h.first cover (hc.perm hp.symm)

-- There is only one best cover.
theorem MinimumCover.unique (h : MinimumCover required candidates selected)
    (h' : MinimumCover required candidates selected') : selected.Perm selected' := by
  have hl : selected.length = selected'.length :=
    Nat.le_antisymm (h.fewest _ h'.toIsCover) (h'.fewest _ h.toIsCover)
  have hc : totalCost selected = totalCost selected' :=
    Nat.le_antisymm (h.cheapest _ h'.toIsCover hl.symm) (h'.cheapest _ h.toIsCover hl)
  cases h.first _ h'.toIsCover hl.symm hc.symm
  case inl hp => exact hp.symm
  case inr hlt =>
    cases h'.first _ h.toIsCover hl hc
    case inl hp   => exact hp
    case inr hlt' => exact absurd hlt' (lt_asymm hlt)

section Search

-- The search goes through the sizes and stops at the first that has a cover.
theorem covering_cases (required : List String) (candidates : List CapabilityProjection) :
    (covering required candidates = [] ∧
        ∀ combo, combo.Sublist candidates → combo ≠ [] → ¬Covers required combo) ∨
      ∃ n, covering required candidates =
          (combinations (n + 1) candidates).filter (Covers required ·) ∧
        covering required candidates ≠ [] ∧
        ∀ combo, combo.Sublist candidates → combo ≠ [] → Covers required combo →
          n + 1 ≤ combo.length := by
  let sizes := fun n => (combinations (n + 1) candidates).filter (Covers required ·)
  have hc : covering required candidates =
      (((List.range candidates.length).find? fun n => sizes n ≠ []).map sizes).getD [] := by
    rw [covering, List.find?_map]
    rfl
  have hmem : ∀ {n : Nat} {combo}, combo.Sublist candidates → combo.length = n + 1 →
      Covers required combo → sizes n ≠ [] := by
    intro n combo hs hl hcov
    exact List.ne_nil_of_mem <|
      List.mem_filter.mpr ⟨mem_combinations.mpr ⟨hs, hl⟩, decide_eq_true hcov⟩
  rw [hc]
  cases hf : (List.range candidates.length).find? fun n => sizes n ≠ []
  case none   =>
    refine .inl ⟨rfl, fun combo hs hne hcov => ?_⟩
    have hpos := List.length_pos_iff.mpr hne
    have hlt : combo.length - 1 < candidates.length := by
      have hle := hs.length_le
      omega
    have hno := List.find?_range_eq_none.mp hf _ hlt
    have hsize := hmem hs (n := combo.length - 1) (by omega) hcov
    simp [hsize] at hno
  case some n =>
    obtain ⟨hn, _, hmin⟩ := List.find?_range_eq_some.mp hf
    refine .inr ⟨n, rfl, of_decide_eq_true hn, fun combo hs hne hcov => ?_⟩
    have hpos := List.length_pos_iff.mpr hne
    by_contra hlt
    have hsize := hmem hs (n := combo.length - 1) (by omega) hcov
    have hno := hmin (combo.length - 1) (by omega)
    simp [hsize] at hno

theorem IsCover.exists_sublist (h : IsCover required candidates cover) :
    ∃ combo : List CapabilityProjection, combo.Sublist candidates ∧ combo.Perm cover := by
  have ⟨combo, hp, hs⟩ := h.nodup.subperm h.subset
  exact ⟨combo, hs, hp⟩

theorem Covers.ne_nil (h : Covers required combo) (hr : required ≠ []) : combo ≠ [] := by
  have ⟨id, hid⟩ := List.exists_mem_of_ne_nil _ hr
  have ⟨c, hc, _⟩ := h id hid
  exact List.ne_nil_of_mem hc

-- No combination is left over, and the best of them is a best cover.
theorem argmin_covering_eq_none (hr : required ≠ [])
    (h : (covering required candidates).argmin comboKey = none) :
    ∀ cover, ¬IsCover required candidates cover := by
  intro cover hcover
  have ⟨combo, hs, hp⟩ := hcover.exists_sublist
  have hcov := hcover.covers.perm hp.symm
  rw [List.argmin_eq_none] at h
  cases covering_cases required candidates
  case inl hn => exact hn.right combo hs (hcov.ne_nil hr) hcov
  case inr hn =>
    have ⟨_, _, hne, _⟩ := hn
    exact hne h

theorem IsCover.perm_of_sortedIds (hn : (candidates.map (·.candidateId)).Nodup)
    (h : IsCover required candidates cover) (h' : IsCover required candidates selected)
    (hids : sortedIds cover = sortedIds selected) : cover.Perm selected := by
  have hp : (cover.map (·.candidateId)).Perm (selected.map (·.candidateId)) :=
    (List.mergeSort_perm ..).symm.trans <| .trans (.of_eq hids) (List.mergeSort_perm ..)
  have hinj := List.inj_on_of_nodup_map hn
  refine (List.perm_ext_iff_of_nodup h.nodup h'.nodup).mpr fun c => ?_
  constructor
  case mp  =>
    intro hc
    have ⟨c', hc', he⟩ := List.mem_map.mp <| hp.subset (List.mem_map_of_mem hc)
    exact hinj (h'.subset hc') (h.subset hc) he ▸ hc'
  case mpr =>
    intro hc
    have ⟨c', hc', he⟩ := List.mem_map.mp <| hp.symm.subset (List.mem_map_of_mem hc)
    exact hinj (h.subset hc') (h'.subset hc) he ▸ hc'

theorem argmin_covering_eq_some (hr : required ≠ []) (hn : (candidates.map (·.candidateId)).Nodup)
    (h : (covering required candidates).argmin comboKey = some selected) :
    MinimumCover required candidates selected := by
  have hm := List.argmin_mem h
  have ⟨n, heq, hmin⟩ : ∃ n, covering required candidates =
        (combinations (n + 1) candidates).filter (Covers required ·) ∧
      ∀ combo, combo.Sublist candidates → combo ≠ [] → Covers required combo →
        n + 1 ≤ combo.length := by
    cases covering_cases required candidates
    case inl hc => exact absurd hc.left (List.ne_nil_of_mem hm)
    case inr hc =>
      have ⟨n, heq, _, hmin⟩ := hc
      exact ⟨n, heq, hmin⟩
  have hsel := hm
  rw [heq, List.mem_filter, mem_combinations] at hsel
  have ⟨⟨hs, hl⟩, hcov⟩ := hsel
  -- Every cover of the size has a combination with the same key.
  have hkey : ∀ cover, IsCover required candidates cover → cover.length = selected.length →
      comboKey selected ≤ comboKey cover := by
    intro cover hcover hlen
    have ⟨combo, hsub, hp⟩ := hcover.exists_sublist
    rw [← comboKey_perm hp]
    refine List.le_of_mem_argmin ?_ h
    rw [heq, List.mem_filter, mem_combinations]
    exact ⟨⟨hsub, hp.length_eq.trans <| hlen.trans hl⟩, decide_eq_true (hcover.covers.perm hp.symm)⟩
  have hselected : IsCover required candidates selected :=
    ⟨(List.Nodup.of_map _ hn).sublist hs, hs.subset, of_decide_eq_true hcov⟩
  constructor
  case toIsCover => exact hselected
  case fewest    =>
    intro cover hcover
    have ⟨combo, hsub, hp⟩ := hcover.exists_sublist
    have hc := hcover.covers.perm hp.symm
    have hle := hmin combo hsub (hc.ne_nil hr) hc
    rw [hl, ← hp.length_eq]
    exact hle
  case cheapest  =>
    intro cover hcover hlen
    have hle := hkey cover hcover hlen
    rw [comboKey, comboKey, Prod.Lex.toLex_le_toLex] at hle
    exact hle.elim le_of_lt fun hle => le_of_eq hle.left
  case first     =>
    intro cover hcover hlen hcost
    have hle := hkey cover hcover hlen
    rw [comboKey, comboKey, Prod.Lex.toLex_le_toLex] at hle
    have hids := hle.elim (fun hlt => absurd hcost (ne_of_gt hlt)) And.right
    cases lt_or_eq_of_le hids
    case inl hlt => exact .inr hlt
    case inr heq => exact .inl (hcover.perm_of_sortedIds hn hselected heq.symm)

end Search

section Selection

variable {projection registry authority : Option String} {uncovered : List String}

theorem IsCover.of_perm (h : IsCover required candidates cover) (hp : cover.Perm selected) :
    IsCover required candidates selected :=
  ⟨hp.nodup_iff.mp h.nodup, List.Subset.trans hp.symm.subset h.subset, h.covers.perm hp⟩

theorem MinimumCover.of_perm (h : MinimumCover required candidates selected)
    (hp : selected.Perm selected') : MinimumCover required candidates selected' := by
  have hl := hp.length_eq
  have hcost : totalCost selected = totalCost selected' :=
    (hp.map CapabilityProjection.costRank).sum_eq
  have hids : sortedIds selected = sortedIds selected' := List.sort_eq_of_perm (hp.map _)
  constructor
  case toIsCover => exact h.toIsCover.of_perm hp
  case fewest    => exact hl ▸ h.fewest
  case cheapest  => exact hl ▸ hcost ▸ h.cheapest
  case first     =>
    intro cover hc hlen hcov
    rw [← hids]
    exact (h.first cover hc (hlen.trans hl.symm) (hcov.trans hcost.symm)).imp_left fun h => h.trans hp

-- What the selection does once its arguments are checked.
theorem selectCandidates_cases (hr : required ≠ [])
    (h : selectCandidates required candidates projection registry authority =
      .ok (selected, uncovered)) :
    (candidates.map (·.candidateId)).Nodup ∧
      match (covering required candidates).argmin comboKey with
      | none       =>
        selected = [] ∧
          uncovered = Typed.difference required (candidates.flatMap (·.capabilityIds))
      | some combo =>
        selected = (combo.mergeSort fun a b => a.candidateId ≤ b.candidateId) ∧ uncovered = [] := by
  simp only [selectCandidates, if_neg hr, Except.bind_eq_ok, Py.require_eq_ok, exists_const] at h
  obtain ⟨hn, _, _, h⟩ := h
  refine ⟨hn, ?_⟩
  cases hm : (covering required candidates).argmin comboKey
  case none       =>
    rw [hm] at h
    cases h
    exact ⟨rfl, rfl⟩
  case some combo =>
    rw [hm] at h
    cases h
    exact ⟨rfl, rfl⟩

-- The best of the covers, sorted, does not depend on the order of the candidates.
theorem argmin_covering_perm (hr : required ≠ []) (hn : (candidates.map (·.candidateId)).Nodup)
    (hp : candidates.Perm candidates') :
    ((covering required candidates).argmin comboKey).map
        (fun combo => combo.mergeSort fun a b => a.candidateId ≤ b.candidateId) =
      ((covering required candidates').argmin comboKey).map
        (fun combo => combo.mergeSort fun a b => a.candidateId ≤ b.candidateId) := by
  have hn' : (candidates'.map (·.candidateId)).Nodup := (hp.map _).nodup_iff.mp hn
  cases h : (covering required candidates).argmin comboKey <;>
    cases h' : (covering required candidates').argmin comboKey
  case none.none => rfl
  case none.some =>
    have hm := argmin_covering_eq_some hr hn' h'
    exact absurd (hm.toIsCover.perm hp.symm) (argmin_covering_eq_none hr h _)
  case some.none =>
    have hm := argmin_covering_eq_some hr hn h
    exact absurd (hm.toIsCover.perm hp) (argmin_covering_eq_none hr h' _)
  case some.some =>
    have hm := argmin_covering_eq_some hr hn h
    have hm' := (argmin_covering_eq_some hr hn' h').perm hp.symm
    have hids := List.Nodup.map_on (f := (·.candidateId))
      (fun a ha b hb => List.inj_on_of_nodup_map hn (hm.subset ha) (hm.subset hb)) hm.nodup
    exact congrArg some <| List.sortBy_eq_of_perm hids (hm.unique hm')

theorem dedup_bound_perm {f : CapabilityProjection → String} (hp : candidates.Perm candidates')
    (expected : Option String) :
    ((candidates.map f).dedup.length = 1 ↔ (candidates'.map f).dedup.length = 1) ∧
      ((candidates.map f).dedup.map some = [expected] ↔
        (candidates'.map f).dedup.map some = [expected]) := by
  have hd := (hp.map f).dedup
  have hs := hd.map some
  refine ⟨by rw [hd.length_eq], fun h => ?_, fun h => ?_⟩
  case refine_1 => exact List.perm_singleton.mp (h ▸ hs.symm)
  case refine_2 => exact List.perm_singleton.mp (h ▸ hs)

theorem selectCandidates_perm (hp : candidates.Perm candidates') :
    selectCandidates required candidates projection registry authority =
      selectCandidates required candidates' projection registry authority := by
  by_cases hr : required = []
  case pos => rw [selectCandidates, if_pos hr, selectCandidates, if_pos hr]
  case neg =>
    have hn := (hp.map fun c => c.candidateId).nodup_iff
    obtain ⟨hl₁, he₁⟩ := dedup_bound_perm (f := (·.projectionId)) hp projection
    obtain ⟨hl₂, he₂⟩ := dedup_bound_perm (f := (·.registryRevisionDigest)) hp registry
    obtain ⟨hl₃, he₃⟩ := dedup_bound_perm (f := (·.authorityRefDigest)) hp authority
    have hl := and_congr hl₁ (and_congr hl₂ hl₃)
    have he := and_congr he₁ (and_congr he₂ he₃)
    rw [selectCandidates, selectCandidates, if_neg hr, if_neg hr]
    simp only [Py.require_congr hn, Py.require_congr hl, Py.require_congr he]
    by_cases hnodup : (candidates.map (·.candidateId)).Nodup
    case neg =>
      simp only [Py.require_of_not (hn.not.mp hnodup)]
      rfl
    case pos =>
      have hbest := argmin_covering_perm hr hnodup hp
      have hd : Typed.difference required (candidates.flatMap (·.capabilityIds)) =
          Typed.difference required (candidates'.flatMap (·.capabilityIds)) :=
        Typed.difference_perm (hp.flatMap_right _)
      cases h : (covering required candidates).argmin comboKey <;>
        cases h' : (covering required candidates').argmin comboKey
      case none.none => rw [hd]
      case none.some => simp [h, h'] at hbest
      case some.none => simp [h, h'] at hbest
      case some.some =>
        rw [h, h'] at hbest
        have hsorted := Option.some.inj hbest
        simp only [hsorted]

theorem isCover_nil (h : required = []) : IsCover required candidates [] := by
  refine ⟨List.nodup_nil, List.nil_subset _, ?_⟩
  intro id hid
  rw [h] at hid
  cases hid

theorem minimumCover_nil (h : required = []) : MinimumCover required candidates [] where
  toIsCover := isCover_nil h
  fewest _ _     := Nat.zero_le _
  cheapest _ _ _ := Nat.zero_le _
  first _ _ hl _ := .inl <| .of_eq <| List.length_eq_zero_iff.mp hl

-- What a selection selects, and what it reports as uncovered.
structure SelectsMinimum (required : List String) (candidates selected : List CapabilityProjection)
    (uncovered : List String) : Prop where
  covered   : (∃ cover, IsCover required candidates cover) →
    MinimumCover required candidates selected ∧ uncovered = []
  uncovered : (∀ cover, ¬IsCover required candidates cover) →
    selected = [] ∧ ∀ id, id ∈ uncovered ↔ id ∈ required ∧ ∀ c ∈ candidates, id ∉ c.capabilityIds

-- The selection is a smallest cover, whatever the order of the candidates.
theorem selectCandidates_minimumCover
    (h : selectCandidates required candidates projection registry authority =
      .ok (selected, uncovered)) :
    SelectsMinimum required candidates selected uncovered ∧
      ∀ candidates', candidates.Perm candidates' →
        selectCandidates required candidates' projection registry authority =
          .ok (selected, uncovered) := by
  refine ⟨?_, fun candidates' hp => selectCandidates_perm hp ▸ h⟩
  by_cases hr : required = []
  case pos =>
    rw [selectCandidates, if_pos hr] at h
    cases h
    exact ⟨fun _ => ⟨minimumCover_nil hr, rfl⟩, fun hno => absurd (isCover_nil hr) (hno [])⟩
  case neg =>
    obtain ⟨hn, h⟩ := selectCandidates_cases hr h
    cases hm : (covering required candidates).argmin comboKey
    case none       =>
      rw [hm] at h
      have hno := argmin_covering_eq_none hr hm
      have hex : ¬∃ cover, IsCover required candidates cover := not_exists.mpr hno
      refine ⟨fun hc => absurd hc hex, fun _ => ⟨h.left, fun id => ?_⟩⟩
      rw [h.right, Typed.difference, (List.mergeSort_perm ..).mem_iff, List.mem_dedup,
        List.mem_filter]
      simp
    case some combo =>
      rw [hm] at h
      have hbest := argmin_covering_eq_some hr hn hm
      have hp : combo.Perm selected := h.left ▸ (List.mergeSort_perm ..).symm
      exact ⟨fun _ => ⟨hbest.of_perm hp, h.right⟩, fun hno => absurd hbest.toIsCover (hno combo)⟩

theorem selectCandidates_minimumCover_ready :
    let _ := Sha256.blind
    SelectsMinimum readyRequest.requiredCapabilityIds [readyProjection] [readyProjection] [] :=
  let _ := Sha256.blind
  (selectCandidates_minimumCover select_ready).left

end Selection

end GeneralExecution
