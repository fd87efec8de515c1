import GeneralExecution.Routing.Theorems.Selections

namespace GeneralExecution

section

variable [Sha256] {envelope : UnattendedAuthorityEnvelope} {work : UnattendedWorkItem}
variable {executors : List ExecutorCapability} {usage : ControllerUsage} {predicate : String}
variable {e : ExecutorCapability} {lineage : Option InternalLineageBinding}
variable {routing : Option ProviderRoutingAuthority} {resources : List ProviderResource}

theorem routeSelected_unbound {ws : WorkSparseControllerDecision}
    {s : CapabilitySubstitutionDecision} {id : String} {d : SymbioticRouteDecision}
    (h : routeSelected work ws s id lineage routing resources [] = .ok d) :
    d.readyForExistingAdmission = true ∧ d.selectedExecutorId = some id := by
  cases h
  exact ⟨rfl, rfl⟩

-- Without provider bindings, the executor that the Work-Sparse selection dispatches is ready for
-- admission exactly when the substitution selects it too.
theorem composeSymbioticRoute_ready_iff (hd : (executors.map (·.executorId)).Nodup)
    (hw : (decideWorkSparseRoute envelope work executors usage).disposition = .dispatch)
    (he : e ∈ executors)
    (hid : (decideWorkSparseRoute envelope work executors usage).selectedExecutorId =
      some e.executorId) :
    (∃ d, composeSymbioticRoute envelope work executors predicate usage lineage routing resources [] =
        .ok d ∧ d.readyForExistingAdmission = true ∧ d.selectedExecutorId = some e.executorId) ↔
      SelectorsAgree envelope executors usage predicate e := by
  have ⟨e', he', hid'⟩ := decideWorkSparseRoute_dispatch rfl hw
  have hee : e' = e :=
    List.inj_on_of_nodup_map hd he'.given he <| Option.some.inj (hid'.symm.trans hid)
  subst hee
  constructor
  case mp =>
    intro ⟨d, h, hr, hsel⟩
    have ⟨e'', s, he'', ha, h⟩ := composeSymbioticRoute_ready h hr
    have hid : e''.executorId = e'.executorId := 
      Option.some.inj <| (routeSelected_unbound h).right.symm.trans hsel
    exact List.inj_on_of_nodup_map hd he''.given he hid ▸ ha
  case mpr =>
    intro ha
    have ⟨s, h⟩ := ha.compose hd hw hid he'.toAdmits lineage routing resources []
    exact ⟨_, h.trans rfl, rfl, rfl⟩

end

theorem routed_nonempty :
    ∀ x ∈ [("envelope_id", "envelope"), ("authority_ref", "authority")], ¬Text.Blank x.2 := by
  decide

theorem routed_unique :
    ∀ x ∈ [("allowed_repositories", false, ["repository"]), ("allowed_actions", false, ["action"]),
      ("forbidden_actions", true, [])], Guard.Stripped x.2 := by
  decide

theorem routed_disjoint :
    ∀ a ∈ ["action"].map Text.stripped, a ∉ ([] : List String).map Text.stripped := by
  decide

def routedEnvelope : UnattendedAuthorityEnvelope where
  envelopeId          := "envelope"
  authorityRef        := "authority"
  allowedRepositories := ["repository"]
  allowedActions      := ["action"]
  forbiddenActions    := []
  version             := rfl
  nonempty            := routed_nonempty
  unique              := routed_unique
  disjoint            := routed_disjoint
  noAuthority         := rfl

def routedWork : UnattendedWorkItem where
  workId               := "work"
  objective            := "objective"
  repository           := "repository"
  sourceRevision       := "revision"
  authorityRef         := "authority"
  requiredCapabilities := ["code"]
  requestedActions     := ["action"]
  version              := rfl
  nonempty             := by decide
  unique               := by decide
  optional             := by simp [Guard.NoneBlank]

theorem unpaid_free : false = false → 0 = 0 :=
  fun _ => rfl

def codingExecutor : ExecutorCapability where
  executorId   := "coding"
  capabilities := ["code"]
  costRank     := 1
  version      := rfl
  nonempty     := by decide
  unique       := by decide
  noAuthority  := rfl
  free         := unpaid_free

-- It is cheaper, and cannot do the work.
def writingExecutor : ExecutorCapability where
  executorId   := "writing"
  capabilities := ["prose"]
  costRank     := 0
  version      := rfl
  nonempty     := by decide
  unique       := by decide
  noAuthority  := rfl
  free         := unpaid_free

theorem decide_codingExecutor [Sha256] {executors : List ExecutorCapability}
    (h : executors = [codingExecutor] ∨ executors = [codingExecutor, writingExecutor]) :
    decideWorkSparseRoute routedEnvelope routedWork executors {} =
      finalizeDecision routedWork routedEnvelope .dispatch
        ["cheapest_admissible_executor", "work_sparse_preference"] codingExecutor := by
  rcases h with rfl | rfl <;>
    simp [decideWorkSparseRoute, routedEnvelope, routedWork, codingExecutor, writingExecutor,
      Typed.difference, budgetRejection]

theorem composeSymbioticRoute_disagrees : let _ := Sha256.blind
    let executors := [codingExecutor, writingExecutor]
    let ws := decideWorkSparseRoute routedEnvelope routedWork executors {}
    (executors.map (·.executorId)).Nodup ∧ ws.disposition = .dispatch ∧
      ws.selectedExecutorId = some codingExecutor.executorId ∧
      composeSymbioticRoute routedEnvelope routedWork executors "tests" {} none none [] [] =
        .error ⟨.holisticSymbiosisError,
          "Work-Sparse and capability substitution selected different executors"⟩ := by
  intro _ executors ws
  have hws : ws = _ := decide_codingExecutor (.inr rfl)
  have hp : ¬Text.Blank "tests" := by decide
  refine ⟨by decide, by rw [hws]; rfl, by rw [hws]; rfl, ?_⟩
  simp only [composeSymbioticRoute, Py.check_of hp]
  change decideWorkSparseRoute routedEnvelope routedWork executors {} = _ at hws
  rw [hws]
  rfl

theorem selectorsAgree_codingExecutor :
    SelectorsAgree routedEnvelope [codingExecutor] {} "tests" codingExecutor := by
  constructor
  case predicate    => decide
  case distinct     => decide
  case authorityRef => decide
  case unpadded     => decide
  case least        =>
    intro e h
    rw [List.mem_singleton.mp h.given]

theorem composeSymbioticRoute_ready_codingExecutor : let _ := Sha256.blind
    ∃ d, composeSymbioticRoute routedEnvelope routedWork [codingExecutor] "tests" {} none none [] [] =
        .ok d ∧ d.readyForExistingAdmission = true ∧
      d.selectedExecutorId = some codingExecutor.executorId := by
  intro _
  have hws := decide_codingExecutor (.inl rfl)
  refine (composeSymbioticRoute_ready_iff (by decide) ?_ (List.mem_singleton_self _) ?_).mpr
    selectorsAgree_codingExecutor
  all_goals rw [hws]; rfl

end GeneralExecution
