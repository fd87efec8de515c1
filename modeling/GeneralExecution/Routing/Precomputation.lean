import GeneralExecution.Objects.Fields
import GeneralExecution.Routing.Contracts

namespace GeneralExecution

structure PredictiveTask where
  taskId                      : String
  evidencePredicate           : String
  dependsOn                   : List String := []
  sharedStateKeys             : List String := []
  sideEffectFree              : Bool := true
  irreversible                : Bool := false
  requiresAuthority           : Bool := false
  requiresObservedGateOutcome : Bool := false
  nonempty :
    ∀ x ∈ [("task_id", taskId), ("evidence_predicate", evidencePredicate)], ¬Text.Blank x.2
  unique :
    ∀ x ∈ [("depends_on", true, dependsOn), ("shared_state_keys", true, sharedStateKeys)],
      Guard.Stripped x.2

namespace PredictiveTask

-- `why`, sorted
def refusals (t : PredictiveTask) : List String :=
  (if t.irreversible then ["irreversible"] else []) ++
  (if t.requiresAuthority then ["requires_authority"] else []) ++
  (if t.requiresObservedGateOutcome then ["requires_observed_gate_outcome"] else []) ++
  (if t.sideEffectFree then [] else ["side_effectful"])

def Eligible (t : PredictiveTask) : Prop :=
  t.refusals = []

instance : DecidablePred Eligible :=
  fun t => inferInstanceAs <| Decidable (t.refusals = [])

def sortById (tasks : List PredictiveTask) : List PredictiveTask :=
  tasks.mergeSort fun a b => a.taskId ≤ b.taskId

end PredictiveTask

open PredictiveTask

@[ext]
structure PredictivePrecomputationPlan where
  currentGateRef     : String
  selectedTaskIds    : List String
  deferredTaskIds    : List String
  waves              : List (List String)
  reasons            : List (String × List String)
  authorityCreated   : Bool := false
  executionTriggered : Bool := false
  schemaVersion      : String := "ge.predictive-precomputation-plan.v1"
  nonempty           : ∀ x ∈ [("current_gate_ref", currentGateRef)], ¬Text.Blank x.2
  inert              : authorityCreated = false ∧ executionTriggered = false

-- `ready`
def readyTasks (satisfied : List String) (remaining : List PredictiveTask) : List PredictiveTask :=
  sortById <| remaining.filter fun t => t.dependsOn ⊆ satisfied

-- The tasks that share no state with those before them.
def packWave : List PredictiveTask → List String → List PredictiveTask
  | [],      _        => []
  | t :: ts, usedKeys =>
    if ∃ key ∈ t.sharedStateKeys, key ∈ usedKeys then packWave ts usedKeys
    else t :: packWave ts (t.sharedStateKeys ++ usedKeys)

def nextWave (ready : List PredictiveTask) : List PredictiveTask :=
  if packWave ready [] = [] then ready.take 1 else packWave ready []

theorem packWave_sublist (ready : List PredictiveTask) (usedKeys : List String) :
    (packWave ready usedKeys).Sublist ready := by
  induction ready generalizing usedKeys with
  | nil          => exact .slnil
  | cons t ts ih =>
    rw [packWave]
    split
    case isTrue  => exact (ih usedKeys).cons t
    case isFalse => exact (ih _).cons_cons t

theorem nextWave_sublist (ready : List PredictiveTask) : (nextWave ready).Sublist ready := by
  unfold nextWave
  split
  case isTrue  => exact ready.take_sublist 1
  case isFalse => exact packWave_sublist ready []

theorem nextWave_ne_nil {ready : List PredictiveTask} (h : ready ≠ []) : nextWave ready ≠ [] := by
  unfold nextWave
  split
  case isTrue     => simpa using h
  case isFalse hw => exact hw

-- The tasks that are left after a wave.
def leftAfter (wave remaining : List PredictiveTask) : List PredictiveTask :=
  remaining.filter fun t => t.taskId ∉ wave.map PredictiveTask.taskId

theorem readyTasks_subset (satisfied : List String) (remaining : List PredictiveTask) :
    readyTasks satisfied remaining ⊆ remaining := by
  intro t ht
  exact (List.mem_filter.mp <| (List.mergeSort_perm ..).mem_iff.mp ht).left

theorem leftAfter_lt {satisfied : List String} {remaining : List PredictiveTask}
    (h : readyTasks satisfied remaining ≠ []) :
    (leftAfter (nextWave (readyTasks satisfied remaining)) remaining).length < remaining.length := by
  have ⟨t, ht⟩ := List.exists_mem_of_ne_nil _ (nextWave_ne_nil h)
  have hr := readyTasks_subset _ _ <| (nextWave_sublist _).subset ht
  refine List.length_filter_lt_length_iff_exists.mpr ⟨t, hr, ?_⟩
  simpa using ⟨t, ht, rfl⟩

-- `while remaining`: the waves, and the tasks that no wave takes.
def planWaves (satisfied : List String) (remaining : List PredictiveTask) :
    List (List PredictiveTask) × List PredictiveTask :=
  let ready := readyTasks satisfied remaining
  if ready = [] then ([], remaining)
  else
    let wave := nextWave ready
    let (waves, rest) :=
      planWaves (satisfied ++ wave.map PredictiveTask.taskId) (leftAfter wave remaining)
    (wave :: waves, rest)
termination_by remaining.length
decreasing_by exact leftAfter_lt ‹_›

def unknownDependencies (known : List String) (t : PredictiveTask) : List String :=
  Typed.difference t.dependsOn known

def checkDependencies (known : List String) (tasks : List PredictiveTask) : Py Unit :=
  match tasks.find? fun t => unknownDependencies known t ≠ [] with
  | none   => return ()
  | some t =>
    Py.raise .predictiveSovereignError
      ("task " ++ t.taskId ++ " has unknown dependencies: " ++
        Typed.quoted (unknownDependencies known t))

-- `reasons.get(task_id, ())`
def reasonsFor (tasks rest : List PredictiveTask) (taskId : String) : List String :=
  match tasks.find? fun t => t.taskId = taskId with
  | none   => []
  | some t =>
    if ¬t.Eligible then t.refusals
    else if taskId ∈ rest.map PredictiveTask.taskId then ["dependency_not_precomputable"]
    else []

def buildPrecomputationPlan (currentGateRef : String) (tasks : List PredictiveTask)
    (alreadyMaterialized : List String) : Py PredictivePrecomputationPlan := do
  let ⟨h⟩ ← Guard.nonempty .predictiveSovereignError [("current_gate_ref", currentGateRef)]
  let _ ← Guard.stripped .predictiveSovereignError
    [("already_materialized", true, alreadyMaterialized)]
  let materialized := alreadyMaterialized.map Text.stripped
  let ids := tasks.map PredictiveTask.taskId
  Py.require ids.Nodup .predictiveSovereignError "task_id values must be unique"
  checkDependencies (ids ++ materialized) tasks
  let (waves, rest) := planWaves materialized (tasks.filter fun t => t.Eligible)
  let selected := waves.flatten.map PredictiveTask.taskId
  let deferred := Typed.difference ids selected
  return {
    currentGateRef
    selectedTaskIds := selected
    deferredTaskIds := deferred
    waves           := waves.map (·.map PredictiveTask.taskId)
    reasons         := deferred.map fun taskId => (taskId, reasonsFor tasks rest taskId)
    nonempty        := h
    inert           := unset₂ }

end GeneralExecution
