import GeneralExecution.Primitives.Sorting
import GeneralExecution.Routing.AbundantResource

namespace GeneralExecution

variable {envelope : AbundantResourceAuthorityEnvelope} {o : ResourceOffer}
variable {offers offers' done : List ResourceOffer} {rejections : List ResourceRejection}

-- What the parallelism of some offers adds up to.
def totalParallelism (offers : List ResourceOffer) : Nat :=
  (offers.map ResourceOffer.maxParallelism).sum

-- The offers that an envelope can admit, if there is room for them.
structure Admissible (envelope : AbundantResourceAuthorityEnvelope) (o : ResourceOffer) : Prop where
  available    : o.available
  abundant     : o.economics ∈ ResourceEconomics.abundant
  free         : o.incrementalCostCentsPerInvocation = 0
  noFallback   : o.automaticPaidFallback = false
  allowed      : o.resourceId ∈ envelope.allowedResourceIds
  capabilities : o.capabilities ⊆ envelope.allowedCapabilities

theorem resourceReasons_eq_nil : resourceReasons envelope o = [] ↔ Admissible envelope o := by
  have hpaid : o.economics ∈ ResourceEconomics.abundant → o.economics ≠ .paid := by
    intro h hp
    rw [hp] at h
    exact absurd h (by decide)
  simp only [resourceReasons, List.append_eq_nil_iff, ite_eq_left_iff, ite_eq_right_iff,
    List.cons_ne_nil, imp_false, not_not, not_and]
  constructor
  case mp  =>
    intro ⟨⟨⟨⟨⟨⟨hid, ha⟩, hc⟩, he⟩, hz⟩, hf⟩, _⟩
    exact ⟨ha, he, hz, Bool.eq_false_iff.mpr hf, hid, hc⟩
  case mpr =>
    intro h
    exact ⟨⟨⟨⟨⟨⟨h.allowed, h.available⟩, h.capabilities⟩, h.abundant⟩, h.free⟩,
      Bool.eq_false_iff.mp h.noFallback⟩,
      fun hp => absurd hp (hpaid h.abundant)⟩

-- The offers of smaller id.
def before (o : ResourceOffer) (offers : List ResourceOffer) : List ResourceOffer :=
  offers.filter fun o' => o'.resourceId < o.resourceId

theorem before_append_of_lt {o o' : ResourceOffer} (h : o.resourceId < o'.resourceId)
    (offers : List ResourceOffer) : before o (offers ++ [o']) = before o offers := by
  have hn : ¬o'.resourceId < o.resourceId := not_lt_of_gt h
  rw [before, List.filter_append, List.filter_cons_of_neg (by rwa [decide_eq_true_eq]),
    List.filter_nil, List.append_nil, before]

theorem before_eq_self (h : ∀ o' ∈ offers, o'.resourceId < o.resourceId) :
    before o offers = offers :=
  List.filter_eq_self.mpr fun o' ho' => decide_eq_true (h o' ho')

theorem totalParallelism_perm (hp : offers.Perm offers') :
    totalParallelism offers = totalParallelism offers' :=
  (hp.map _).sum_eq

-- What the second loop has done once it has been through the offers `done`.
structure ParallelismBudget.Bounds (total : Nat) (rejections : List ResourceRejection)
    (done : List ResourceOffer) (s : ParallelismBudget) : Prop where
  budget  : s.admittedParallelism + s.remaining = total
  sum     : s.admittedParallelism = totalParallelism s.bounded
  given   : s.bounded.Sublist done
  split   :
    (s.bounded.map ResourceOffer.resourceId ++ s.rejected.map ResourceRejection.resourceId).Perm
      (rejections.map ResourceRejection.resourceId ++ done.map ResourceOffer.resourceId)
  maximal :
    ∀ o ∈ done, o ∉ s.bounded → total < totalParallelism (before o s.bounded) + o.maxParallelism

namespace ParallelismBudget

variable {s : ParallelismBudget} {total : Nat}

-- The turn takes the offer if it fits into what remains and rejects it otherwise.
theorem step_cases (s : ParallelismBudget) (o : ResourceOffer) :
    (s.remaining < o.maxParallelism ∧ ∃ reason, s.step o = s.reject o reason) ∨
      (o.maxParallelism ≤ s.remaining ∧ s.step o = {
        remaining           := s.remaining - o.maxParallelism
        bounded             := s.bounded ++ [o]
        admittedParallelism := s.admittedParallelism + o.maxParallelism
        rejected            := s.rejected }) := by
  have hpos := o.positive
  simp only [step]
  split
  case isTrue h  => exact .inl ⟨by omega, _, rfl⟩
  case isFalse h =>
    split
    case isTrue hg  => exact .inl ⟨by omega, _, rfl⟩
    case isFalse hg =>
      have hm : min o.maxParallelism s.remaining = o.maxParallelism := by omega
      rw [hm]
      exact .inr ⟨by omega, rfl⟩

theorem Bounds.step (h : s.Bounds total rejections done)
    (hlt : ∀ o' ∈ done, o'.resourceId < o.resourceId) :
    (s.step o).Bounds total rejections (done ++ [o]) := by
  have hb := before_eq_self (o := o) fun o' ho' => hlt o' (h.given.subset ho')
  have hbudget := h.budget
  have hsum := h.sum
  cases step_cases s o
  case inl hr =>
    have ⟨hover, reason, he⟩ := hr
    rw [he]
    constructor
    case budget  => exact h.budget
    case sum     => exact h.sum
    case given   => exact h.given.trans (List.sublist_append_left ..)
    case split   => simpa [reject] using h.split.append_right [o.resourceId]
    case maximal =>
      intro o' ho' hn
      cases List.mem_append.mp ho'
      case inl ho' => exact h.maximal o' ho' hn
      case inr ho' =>
        rw [List.mem_singleton.mp ho', reject, hb]
        omega
  case inr ht =>
    have ⟨hfits, he⟩ := ht
    rw [he]
    constructor
    case budget  => simp only; omega
    case sum     => simp [totalParallelism, hsum]
    case given   => exact h.given.append (List.Sublist.refl _)
    case split   =>
      have hp := h.split.append_right [o.resourceId]
      simp only [List.map_append, List.append_assoc] at hp ⊢
      exact (List.perm_append_comm.append_left _).trans hp
    case maximal =>
      intro o' ho' hn
      simp only [List.mem_append, List.mem_singleton, not_or] at ho' hn
      have ho' := ho'.resolve_right hn.right
      rw [before_append_of_lt (hlt o' ho')]
      exact h.maximal o' ho' hn.left

theorem Bounds.run (h : s.Bounds total rejections done)
    (hlt : (done ++ offers).Pairwise fun a b => a.resourceId < b.resourceId) :
    (offers.foldl ParallelismBudget.step s).Bounds total rejections (done ++ offers) := by
  induction offers generalizing done s with
  | nil            => simpa using h
  | cons o rest ih =>
    rw [List.append_cons] at hlt ⊢
    have hp := (List.pairwise_append.mp hlt).left
    have hs := h.step fun o' ho' => (List.pairwise_append.mp hp).right.right o' ho' o (by simp)
    exact ih hs hlt

end ParallelismBudget

theorem boundParallelism_bounds
    (hlt : offers.Pairwise fun a b => a.resourceId < b.resourceId) :
    (boundParallelism envelope offers).Bounds envelope.maxTotalParallelism
      (rejectedOffers envelope offers)
      (offers.filter fun o => resourceReasons envelope o = []) := by
  have h : ParallelismBudget.Bounds envelope.maxTotalParallelism (rejectedOffers envelope offers) []
      { remaining := envelope.maxTotalParallelism, rejected := rejectedOffers envelope offers } :=
    ⟨Nat.zero_add _, rfl, List.Sublist.refl [], by simp, by simp⟩
  exact h.run (hlt.sublist List.filter_sublist)

theorem sorted_by_resourceId (hn : (offers.map ResourceOffer.resourceId).Nodup) :
    (offers.mergeSort fun a b => a.resourceId ≤ b.resourceId).Pairwise
      fun a b => a.resourceId < b.resourceId := by
  have hp := List.mergeSort_perm offers fun a b => a.resourceId ≤ b.resourceId
  have hd := List.pairwise_map.mp <| (hp.map ResourceOffer.resourceId).nodup_iff.mpr hn
  exact (List.pairwise_sortBy ResourceOffer.resourceId offers).imp₂
    (fun _ _ hle hne => lt_of_le_of_ne hle hne) hd

-- The first loop rejects or keeps every offer.
theorem rejectedOffers_split (envelope : AbundantResourceAuthorityEnvelope)
    (offers : List ResourceOffer) :
    ((rejectedOffers envelope offers).map ResourceRejection.resourceId ++
      (offers.filter fun o => resourceReasons envelope o = []).map ResourceOffer.resourceId).Perm
        (offers.map ResourceOffer.resourceId) := by
  have hp := List.filter_append_perm (fun o => decide (resourceReasons envelope o ≠ [])) offers
  simpa [rejectedOffers, Function.comp_def] using hp.map ResourceOffer.resourceId

-- The offers that a decision admits.
def AbundantResourceAdmission.admittedOf (d : AbundantResourceAdmission)
    (offers : List ResourceOffer) : List ResourceOffer :=
  offers.filter fun o => o.resourceId ∈ d.admittedResourceIds

-- A decision loses no offer, stays within the envelope and leaves out only what does not fit.
structure Allots (envelope : AbundantResourceAuthorityEnvelope) (offers : List ResourceOffer)
    (d : AbundantResourceAdmission) : Prop where
  partition  :
    (d.admittedResourceIds ++ d.rejected.map ResourceRejection.resourceId).Perm
      (offers.map ResourceOffer.resourceId)
  sum        : d.admittedParallelism = totalParallelism (d.admittedOf offers)
  budget     : d.admittedParallelism ≤ envelope.maxTotalParallelism
  admissible : ∀ o ∈ d.admittedOf offers, Admissible envelope o
  maximal    :
    ∀ o ∈ offers, o.resourceId ∈ d.rejected.map ResourceRejection.resourceId →
      Admissible envelope o →
        envelope.maxTotalParallelism - totalParallelism (before o (d.admittedOf offers)) <
          o.maxParallelism

variable {d : AbundantResourceAdmission}

theorem Allots.of_bounds {s : ParallelismBudget} {sorted : List ResourceOffer}
    (hn : (offers.map ResourceOffer.resourceId).Nodup) (hp : sorted.Perm offers)
    (h : s.Bounds envelope.maxTotalParallelism (rejectedOffers envelope sorted)
      (sorted.filter fun o => resourceReasons envelope o = []))
    (hadm : d.admittedResourceIds = s.bounded.map ResourceOffer.resourceId)
    (hrej : d.rejected.Perm s.rejected) (hsum : d.admittedParallelism = s.admittedParallelism) :
    Allots envelope offers d := by
  have hpart : (d.admittedResourceIds ++ d.rejected.map ResourceRejection.resourceId).Perm
      (offers.map ResourceOffer.resourceId) := by
    rw [hadm]
    refine ((hrej.map _).append_left _).trans <| h.split.trans ?_
    exact (rejectedOffers_split envelope sorted).trans (hp.map _)
  have hdone : ∀ o ∈ s.bounded, o ∈ offers ∧ Admissible envelope o := by
    intro o ho
    have ⟨hmem, hr⟩ := List.mem_filter.mp (h.given.subset ho)
    exact ⟨hp.mem_iff.mp hmem, resourceReasons_eq_nil.mp (of_decide_eq_true hr)⟩
  have hmem : ∀ o, o ∈ d.admittedOf offers ↔ o ∈ s.bounded := by
    intro o
    rw [AbundantResourceAdmission.admittedOf, List.mem_filter, decide_eq_true_eq, hadm]
    constructor
    case mp  =>
      intro ⟨ho, hid⟩
      have ⟨o', ho', he⟩ := List.mem_map.mp hid
      exact List.inj_on_of_nodup_map hn (hdone o' ho').left ho he ▸ ho'
    case mpr => exact fun ho => ⟨(hdone o ho).left, List.mem_map_of_mem ho⟩
  have hbounded : (d.admittedOf offers).Perm s.bounded := by
    have hoffers := hn.of_map
    have hsorted := hp.nodup_iff.mpr hoffers
    refine (List.perm_ext_iff_of_nodup (hoffers.filter _) ?_).mpr hmem
    exact (hsorted.filter _).sublist h.given
  constructor
  case partition  => exact hpart
  case sum        => rw [hsum, h.sum, totalParallelism_perm hbounded]
  case budget     =>
    have hb := h.budget
    omega
  case admissible => exact fun o ho => (hdone o <| (hmem o).mp ho).right
  case maximal    =>
    intro o ho hid hadmissible
    have hd := List.disjoint_of_nodup_append (hpart.nodup_iff.mpr hn)
    have hout : o ∉ s.bounded := fun hb => hd (hadm ▸ List.mem_map_of_mem hb) hid
    have hr : decide (resourceReasons envelope o = []) = true :=
      decide_eq_true (resourceReasons_eq_nil.mpr hadmissible)
    have hm := h.maximal o (List.mem_filter.mpr ⟨hp.mem_iff.mpr ho, hr⟩) hout
    rw [before, totalParallelism_perm (hbounded.filter _)]
    rw [before] at hm
    have hpos := o.positive
    omega

section

variable [Sha256]

theorem admitAbundantResources_perm (hn : (offers.map ResourceOffer.resourceId).Nodup)
    (hp : offers.Perm offers') :
    admitAbundantResources envelope offers' = admitAbundantResources envelope offers := by
  simp only [admitAbundantResources, List.sortBy_eq_of_perm hn hp]
  rw [Py.require_congr (hp.map ResourceOffer.resourceId).nodup_iff]

theorem verifyAbundantResourceAdmission_of (h : admitAbundantResources envelope offers = .ok d) :
    verifyAbundantResourceAdmission envelope offers (normalize (toPy d)) = true := by
  simp [verifyAbundantResourceAdmission, h, canonicalJson, normalize_ofJson_normalize]

-- The offers are admitted the same way in every order.
theorem admitAbundantResources_admits (envelope : AbundantResourceAuthorityEnvelope)
    (hn : (offers.map ResourceOffer.resourceId).Nodup) :
    ∃ d, admitAbundantResources envelope offers = .ok d ∧ Allots envelope offers d ∧
      ∀ offers', offers.Perm offers' →
        admitAbundantResources envelope offers' = .ok d ∧
          verifyAbundantResourceAdmission envelope offers' (normalize (toPy d)) = true := by
  have h : ∃ d, admitAbundantResources envelope offers = .ok d ∧ Allots envelope offers d := by
    rw [admitAbundantResources, Py.require_of hn]
    refine ⟨_, rfl, ?_⟩
    apply Allots.of_bounds hn (List.mergeSort_perm ..)
    case h    => exact boundParallelism_bounds (sorted_by_resourceId hn)
    case hadm => rfl
    case hrej => exact List.mergeSort_perm ..
    case hsum => rfl
  have ⟨d, hd, hadmits⟩ := h
  refine ⟨d, hd, hadmits, ?_⟩
  intro offers' hp
  have hd' := (admitAbundantResources_perm hn hp).trans hd
  exact ⟨hd', verifyAbundantResourceAdmission_of hd'⟩

end

def sharedEnvelope : AbundantResourceAuthorityEnvelope where
  envelopeId          := "envelope"
  authorityRef        := "authority"
  allowedResourceIds  := ["large", "small"]
  allowedCapabilities := ["build"]
  maxTotalParallelism := 3
  schema              := rfl
  nonempty            := by decide
  unique              := by decide
  positive            := by decide
  noAuthority         := rfl

def offerOf (resourceId : String) (maxParallelism : Nat) (h₁ : ¬Text.Blank resourceId)
    (h₂ : 1 ≤ maxParallelism) : ResourceOffer where
  resourceId                        := resourceId
  capabilities                      := ["build"]
  maxParallelism                    := maxParallelism
  economics                         := .ownedLocal
  incrementalCostCentsPerInvocation := 0
  automaticPaidFallback             := false
  available                         := true
  evidenceRefs                      := ["evidence"]
  schema                            := rfl
  nonempty                          := by simpa using h₁
  unique                            := by decide
  positive                          := h₂
  noAuthority                       := rfl
  free _                            := rfl

theorem admitAbundantResources_admits_small :
    let _ := Sha256.blind
    let offers := [offerOf "small" 2 (by decide) (by decide), offerOf "large" 4 (by decide) (by decide)]
    ∃ d, admitAbundantResources sharedEnvelope offers = .ok d ∧ Allots sharedEnvelope offers d ∧
      verifyAbundantResourceAdmission sharedEnvelope offers.reverse (normalize (toPy d)) = true := by
  intro _ offers
  have hn : (offers.map ResourceOffer.resourceId).Nodup := by decide
  have ⟨d, hd, ha, hall⟩ := admitAbundantResources_admits sharedEnvelope hn
  exact ⟨d, hd, ha, (hall _ offers.reverse_perm.symm).right⟩

end GeneralExecution
