import Mathlib.Data.Prod.Lex
import GeneralExecution.Objects.Theorems.Operations
import GeneralExecution.Primitives.Sorting

namespace GeneralExecution

variable [Sha256] {spec : ExecutionSpec} {mode : ExecutionMode} {runner : RunnerCapabilities}

-- The key by which the planner sorts.
def planKey (runner : RunnerCapabilities) : String ×ₗ String :=
  toLex (runner.runnerId, runner.digest)

theorem runnerLe_eq : runnerLe = fun a b => decide (planKey a ≤ planKey b) := by
  funext a b
  simp [runnerLe, planKey, Prod.Lex.toLex_le_toLex]

theorem planKey_nodup (runners : List RunnerCapabilities)
    (h : (runners.map RunnerCapabilities.runnerId).Nodup) : (runners.map planKey).Nodup := by
  apply List.Nodup.of_map fun key => (ofLex key).1
  rwa [List.map_map]

-- A runner that offers the mode and all required capabilities.
def Offers (runner : RunnerCapabilities) (spec : ExecutionSpec) (mode : ExecutionMode) : Prop :=
  mode ∈ runner.modes ∧ ∀ c ∈ spec.requiredCapabilities, c ∈ runner.capabilities

omit [Sha256] in
theorem compatible_iff : compatible spec mode runner = true ↔ Offers runner spec mode := by
  rw [compatible, decide_eq_true_eq]
  rfl

def LeastOffer (registry : RunnerRegistry) (spec : ExecutionSpec) (mode : ExecutionMode)
    (runner : RunnerCapabilities) : Prop :=
  Offers runner spec mode ∧
    ∀ other ∈ registry.runners, Offers other spec mode → runner.runnerId ≤ other.runnerId

-- What a plan binds, be it deferred or assigned.
omit [Sha256] in
theorem deferred_bothOrNeither : (none : Option String).isNone ↔ (none : Option String).isNone :=
  .rfl

omit [Sha256] in
theorem deferred_deferred :
    (none : Option String).isNone ↔ (some DeferralReason.noCompatibleRunner).isSome := by
  simp

theorem assigned_bothOrNeither (chosen : RunnerCapabilities) :
    (some chosen.runnerId).isNone ↔ (some chosen.digest).isNone := by
  simp

omit [Sha256] in
theorem assigned_assigned (chosen : RunnerCapabilities) :
    (some chosen.runnerId).isNone ↔ (none : Option DeferralReason).isSome := by
  simp

-- The plan by the candidates in their order.
def planOf (spec : ExecutionSpec) (registryDigest : String) (mode : ExecutionMode) :
    List RunnerCapabilities → DispatchPlan
  | [] => {
      specId                 := spec.specId
      specDigest             := spec.digest
      registryDigest         := registryDigest
      mode                   := mode
      runnerId               := none
      runnerCapabilityDigest := none
      deferralReason         := some .noCompatibleRunner
      bothOrNeither          := deferred_bothOrNeither
      deferredOrAssigned     := deferred_deferred }
  | chosen :: _ => {
      specId                 := spec.specId
      specDigest             := spec.digest
      registryDigest         := registryDigest
      mode                   := mode
      runnerId               := some chosen.runnerId
      runnerCapabilityDigest := some chosen.digest
      deferralReason         := none
      bothOrNeither          := assigned_bothOrNeither chosen
      deferredOrAssigned     := assigned_assigned chosen }

theorem planOf_deferred {digest : String} {candidates : List RunnerCapabilities} :
    (planOf spec digest mode candidates).deferralReason.isSome ↔ candidates = [] := by
  cases candidates
  case nil  => exact iff_of_true rfl rfl
  case cons => exact iff_of_false nofun nofun

namespace RunnerRegistry

variable {registry : RunnerRegistry} {runners : List RunnerCapabilities}

-- The same runners in another order.
def reorder (registry : RunnerRegistry) (runners : List RunnerCapabilities)
    (h : registry.runners.Perm runners) : RunnerRegistry where
  runners       := runners
  schemaVersion := registry.schemaVersion
  uniqueIds     := (h.map _).nodup_iff.mp registry.uniqueIds

def candidates (registry : RunnerRegistry) (spec : ExecutionSpec) (mode : ExecutionMode) :
    List RunnerCapabilities :=
  (registry.runners.filter (compatible spec mode)).mergeSort runnerLe

theorem mem_candidates :
    runner ∈ registry.candidates spec mode ↔
      runner ∈ registry.runners ∧ compatible spec mode runner = true := by
  rw [candidates, (List.mergeSort_perm ..).mem_iff, List.mem_filter]

theorem candidates_nodup :
    ((registry.runners.filter (compatible spec mode)).map planKey).Nodup := by
  apply planKey_nodup
  exact registry.uniqueIds.sublist (List.filter_sublist.map _)

-- The first candidate has the least id.
theorem runnerId_le_of_candidates {rest : List RunnerCapabilities}
    (h : registry.candidates spec mode = runner :: rest) {other : RunnerCapabilities}
    (ho : other ∈ registry.candidates spec mode) : runner.runnerId ≤ other.runnerId := by
  have hs := List.pairwise_sortBy planKey (registry.runners.filter (compatible spec mode))
  rw [← runnerLe_eq] at hs
  rw [candidates] at h ho
  rw [h] at hs ho
  cases List.mem_cons.mp ho
  case inl he => exact he ▸ le_refl _
  case inr hr =>
    have hle := (List.pairwise_cons.mp hs).1 other hr
    exact (Prod.Lex.monotone_fst _ _ hle)

theorem planExecution_eq :
    planExecution spec registry mode =
      planOf spec registry.digest mode (registry.candidates spec mode) := by
  rw [planExecution, candidates]
  cases (registry.runners.filter (compatible spec mode)).mergeSort runnerLe
  case nil  => rfl
  case cons => rfl

theorem deferred_iff :
    (planExecution spec registry mode).deferralReason.isSome ↔
      ∀ r ∈ registry.runners, ¬Offers r spec mode := by
  rw [planExecution_eq, planOf_deferred, List.eq_nil_iff_forall_not_mem]
  simp only [mem_candidates, compatible_iff, not_and]

theorem assigned_least (hd : (planExecution spec registry mode).deferralReason = none) :
    ∃ r ∈ registry.runners, LeastOffer registry spec mode r ∧
      (planExecution spec registry mode).runnerId = some r.runnerId ∧
      (planExecution spec registry mode).runnerCapabilityDigest = some r.digest := by
  rw [planExecution_eq] at hd ⊢
  cases hc : registry.candidates spec mode
  case nil => rw [hc] at hd; cases hd
  case cons chosen rest =>
    have ⟨hm, ho⟩ := mem_candidates.mp (hc ▸ List.mem_cons_self)
    refine ⟨chosen, hm, ⟨compatible_iff.mp ho, ?_⟩, rfl, rfl⟩
    intro other hm' ho'
    exact runnerId_le_of_candidates hc (mem_candidates.mpr ⟨hm', compatible_iff.mpr ho'⟩)

variable (h : registry.runners.Perm runners)

theorem candidates_reorder :
    (registry.reorder runners h).candidates spec mode = registry.candidates spec mode := by
  rw [candidates, candidates, runnerLe_eq]
  exact (List.sortBy_eq_of_perm candidates_nodup (h.filter _)).symm

theorem digest_reorder : (registry.reorder runners h).digest = registry.digest := by
  rw [digest, digest, reorder, List.sortBy_eq_of_perm registry.uniqueIds h]

theorem planExecution_reorder :
    planExecution spec (registry.reorder runners h) mode = planExecution spec registry mode := by
  rw [planExecution_eq, planExecution_eq, candidates_reorder, digest_reorder]

theorem verifyPlan_reorder (plan : DispatchPlan) :
    verifyPlan spec (registry.reorder runners h) plan = verifyPlan spec registry plan := by
  rw [verifyPlan, verifyPlan, planExecution_reorder]

theorem bindSession_reorder (plan : DispatchPlan) (attempt : Nat) :
    bindSession spec (registry.reorder runners h) plan attempt =
      bindSession spec registry plan attempt := by
  rw [bindSession, bindSession, verifyPlan_reorder]

theorem verifyStaticBinding_reorder (plan : DispatchPlan) (session : ExecutionSession)
    (runner : RunnerCapabilities) :
    verifyStaticBinding spec (registry.reorder runners h) plan session runner =
      verifyStaticBinding spec registry plan session runner := by
  have hm : runner ∈ (registry.reorder runners h).runners ↔ runner ∈ registry.runners :=
    h.mem_iff.symm
  simp only [verifyStaticBinding, verifyPlan_reorder, digest_reorder, hm]

theorem buildDispatchRequest_reorder (plan : DispatchPlan) (session : ExecutionSession)
    (runner : RunnerCapabilities) (invocationId : String) :
    buildDispatchRequest spec (registry.reorder runners h) plan session runner invocationId =
      buildDispatchRequest spec registry plan session runner invocationId := by
  rw [buildDispatchRequest, buildDispatchRequest, verifyStaticBinding_reorder, digest_reorder]

theorem verifyDispatchRequest_reorder (plan : DispatchPlan) (session : ExecutionSession)
    (runner : RunnerCapabilities) (request : AdapterDispatchRequest) :
    verifyDispatchRequest spec (registry.reorder runners h) plan session runner request =
      verifyDispatchRequest spec registry plan session runner request := by
  rw [verifyDispatchRequest, verifyDispatchRequest, buildDispatchRequest_reorder]

end RunnerRegistry

-- What a plan depends on: the set of runners, not the order in which they are registered.
theorem registryOrder_irrelevant (spec : ExecutionSpec) (mode : ExecutionMode)
    (registry : RunnerRegistry) (runners : List RunnerCapabilities)
    (h : registry.runners.Perm runners) :
    let reordered := registry.reorder runners h
    let plan := planExecution spec reordered mode
    plan = planExecution spec registry mode ∧
      (plan.deferralReason.isSome ↔ ∀ r ∈ registry.runners, ¬Offers r spec mode) ∧
      (plan.deferralReason = none →
        ∃ r ∈ registry.runners, LeastOffer registry spec mode r ∧
          plan.runnerId = some r.runnerId ∧ plan.runnerCapabilityDigest = some r.digest) ∧
      (∀ plan, verifyPlan spec reordered plan = verifyPlan spec registry plan) ∧
      (∀ plan attempt, bindSession spec reordered plan attempt =
        bindSession spec registry plan attempt) ∧
      (∀ plan session runner invocationId,
        buildDispatchRequest spec reordered plan session runner invocationId =
          buildDispatchRequest spec registry plan session runner invocationId) ∧
      ∀ plan session runner request,
        verifyDispatchRequest spec reordered plan session runner request =
          verifyDispatchRequest spec registry plan session runner request := by
  intro reordered plan
  have hp : plan = planExecution spec registry mode := RunnerRegistry.planExecution_reorder h
  rw [hp]
  refine ⟨rfl, RunnerRegistry.deferred_iff, RunnerRegistry.assigned_least, ?_, ?_, ?_, ?_⟩
  · exact RunnerRegistry.verifyPlan_reorder h
  · exact RunnerRegistry.bindSession_reorder h
  · exact RunnerRegistry.buildDispatchRequest_reorder h
  · exact RunnerRegistry.verifyDispatchRequest_reorder h

def secondRunner : RunnerCapabilities :=
  { referenceRunner with runnerId := "reference-runner-2", nonempty := by decide }

def twoRunners : RunnerRegistry where
  runners   := [secondRunner, referenceRunner]
  uniqueIds := by decide

omit [Sha256] in
theorem registryOrder_irrelevant_two : let _ := Sha256.blind
    let reordered := twoRunners.reorder [referenceRunner, secondRunner] (.swap ..)
    let plan := planExecution referenceSpec reordered .readOnly
    plan = planExecution referenceSpec twoRunners .readOnly ∧
      (plan.deferralReason.isSome ↔ ∀ r ∈ twoRunners.runners, ¬Offers r referenceSpec .readOnly) := by
  intro _ reordered plan
  have h := registryOrder_irrelevant referenceSpec .readOnly twoRunners
    [referenceRunner, secondRunner] (.swap ..)
  exact ⟨h.1, h.2.1⟩

end GeneralExecution
