import GeneralExecution.Primitives.Sorting
import GeneralExecution.Routing.Precomputation
import GeneralExecution.Routing.Theorems.MinimumCover

namespace GeneralExecution

open PredictiveTask

variable {tasks tasks' remaining remaining' rest wave ready ts : List PredictiveTask}
variable {satisfied usedKeys : List String} {waves : List (List PredictiveTask)}

-- Two tasks share no state.
def Apart (t t' : PredictiveTask) : Prop :=
  t.sharedStateKeys.Disjoint t'.sharedStateKeys

-- Every dependency of a task is given or in one of the waves.
def Supported (satisfied : List String) (waves : List (List PredictiveTask)) (t : PredictiveTask) :
    Prop :=
  ∀ d ∈ t.dependsOn, d ∈ satisfied ∨ ∃ wave ∈ waves, d ∈ wave.map PredictiveTask.taskId

-- Waves that can be run one after the other.
inductive Runs : List String → List (List PredictiveTask) → Prop
  | nil {satisfied : List String} : Runs satisfied []
  | cons {satisfied : List String} {wave : List PredictiveTask}
      {waves : List (List PredictiveTask)} :
      wave ≠ [] → wave.Pairwise Apart → (∀ t ∈ wave, t.dependsOn ⊆ satisfied) →
      Runs (satisfied ++ wave.map PredictiveTask.taskId) waves → Runs satisfied (wave :: waves)

theorem packWave_apart (ready : List PredictiveTask) (usedKeys : List String) :
    (packWave ready usedKeys).Pairwise Apart ∧
      ∀ t ∈ packWave ready usedKeys, t.sharedStateKeys.Disjoint usedKeys := by
  induction ready generalizing usedKeys with
  | nil          => exact ⟨.nil, by simp [packWave]⟩
  | cons t ts ih =>
    rw [packWave]
    split
    case isTrue     => exact ih usedKeys
    case isFalse hk =>
      obtain ⟨hp, hd⟩ := ih (t.sharedStateKeys ++ usedKeys)
      have hall : ∀ t' ∈ packWave ts (t.sharedStateKeys ++ usedKeys),
          t'.sharedStateKeys.Disjoint t.sharedStateKeys ∧ t'.sharedStateKeys.Disjoint usedKeys := by
        intro t' ht'
        exact List.disjoint_append_right.mp (hd t' ht')
      constructor
      case left  => exact .cons (fun t' ht' => (hall t' ht').left.symm) hp
      case right =>
        intro t' ht'
        cases ht'
        case head     => exact fun key hkey hused => hk ⟨key, hkey, hused⟩
        case tail ht' => exact (hall t' ht').right

theorem nextWave_apart (ready : List PredictiveTask) : (nextWave ready).Pairwise Apart := by
  unfold nextWave
  split
  case isTrue  =>
    cases ready
    case nil  => exact .nil
    case cons => exact List.pairwise_singleton ..
  case isFalse => exact (packWave_apart ready []).left

theorem mem_readyTasks {t : PredictiveTask} :
    t ∈ readyTasks satisfied remaining ↔ t ∈ remaining ∧ t.dependsOn ⊆ satisfied := by
  rw [readyTasks, sortById, (List.mergeSort_perm ..).mem_iff, List.mem_filter, decide_eq_true_eq]

theorem planWaves_nil (h : readyTasks satisfied remaining = []) :
    planWaves satisfied remaining = ([], remaining) := by
  rw [planWaves, if_pos h]

theorem planWaves_cons (h : readyTasks satisfied remaining ≠ []) :
    planWaves satisfied remaining =
      let wave := nextWave (readyTasks satisfied remaining)
      let next := planWaves (satisfied ++ wave.map PredictiveTask.taskId) (leftAfter wave remaining)
      (wave :: next.1, next.2) := by
  rw [planWaves, if_neg h]

-- The loop keeps what a turn of it keeps.
theorem planWaves_induct {motive : List String → List PredictiveTask →
      List (List PredictiveTask) → List PredictiveTask → Prop}
    (stop : ∀ satisfied remaining, readyTasks satisfied remaining = [] →
      motive satisfied remaining [] remaining)
    (turn : ∀ satisfied remaining wave waves rest, readyTasks satisfied remaining ≠ [] →
      wave = nextWave (readyTasks satisfied remaining) →
      motive (satisfied ++ wave.map PredictiveTask.taskId) (leftAfter wave remaining) waves rest →
      motive satisfied remaining (wave :: waves) rest)
    (satisfied : List String) (remaining : List PredictiveTask) :
    motive satisfied remaining (planWaves satisfied remaining).1
      (planWaves satisfied remaining).2 := by
  induction satisfied, remaining using planWaves.induct with
  | case1 satisfied remaining ready h =>
    rw [planWaves_nil h]
    exact stop satisfied remaining h
  | case2 satisfied remaining ready h wave _ _ _ ih =>
    rw [planWaves_cons h]
    exact turn satisfied remaining _ _ _ h rfl ih

theorem planWaves_runs (satisfied : List String) (remaining : List PredictiveTask) :
    Runs satisfied (planWaves satisfied remaining).1 := by
  apply planWaves_induct (motive := fun satisfied _ waves _ => Runs satisfied waves)
  case stop => exact fun _ _ _ => .nil
  case turn =>
    intro satisfied remaining wave waves rest hr hw hruns
    refine .cons ?_ ?_ ?_ hruns
    case refine_1 => exact hw ▸ nextWave_ne_nil hr
    case refine_2 => exact hw ▸ nextWave_apart _
    case refine_3 =>
      intro t ht
      rw [hw] at ht
      exact (mem_readyTasks.mp <| (nextWave_sublist _).subset ht).right

theorem Runs.before {pre post : List (List PredictiveTask)}
    (h : Runs satisfied (pre ++ wave :: post)) : ∀ t ∈ wave, Supported satisfied pre t := by
  induction pre generalizing satisfied with
  | nil             =>
    cases h with
    | cons _ _ hd _ => exact fun t ht d hdep => .inl (hd t ht hdep)
  | cons first pre ih =>
    cases h with
    | cons _ _ _ hruns =>
      intro t ht d hdep
      cases ih hruns t ht d hdep
      case inl hd =>
        cases List.mem_append.mp hd
        case inl hd => exact .inl hd
        case inr hd => exact .inr ⟨first, List.mem_cons_self, hd⟩
      case inr hd =>
        have ⟨w, hw, hd⟩ := hd
        exact .inr ⟨w, .tail _ hw, hd⟩

theorem Runs.apart (h : Runs satisfied waves) : ∀ wave ∈ waves, wave ≠ [] ∧ wave.Pairwise Apart := by
  induction h with
  | nil                 => simp
  | cons hne hap _ _ ih =>
    intro wave hw
    cases hw
    case head    => exact ⟨hne, hap⟩
    case tail hw => exact ih wave hw

-- What has to hold of a set of tasks that takes every free task it supports.
def Takes (tasks : List PredictiveTask) (materialized : List String) (S : Set String) : Prop :=
  ∀ t ∈ tasks, t.Eligible → (∀ d ∈ t.dependsOn, d ∈ materialized ∨ d ∈ S) → t.taskId ∈ S

theorem Runs.taken {materialized : List String} {S : Set String} (h : Runs satisfied waves)
    (ht : Takes tasks materialized S) (hw : ∀ t ∈ waves.flatten, t ∈ tasks ∧ t.Eligible)
    (hs : ∀ d ∈ satisfied, d ∈ materialized ∨ d ∈ S) : ∀ t ∈ waves.flatten, t.taskId ∈ S := by
  induction h with
  | nil => simp
  | @cons satisfied wave waves _ _ hd _ ih =>
    rw [List.flatten_cons] at hw ⊢
    have hwave : ∀ t ∈ wave, t.taskId ∈ S := by
      intro t htw
      have ⟨hmem, he⟩ := hw t (List.mem_append_left _ htw)
      exact ht t hmem he fun d hdep => hs d (hd t htw hdep)
    have hrest := ih (fun t htw => hw t (List.mem_append_right _ htw)) <| by
      intro d hdep
      cases List.mem_append.mp hdep
      case inl hd => exact hs d hd
      case inr hd =>
        have ⟨t, htw, he⟩ := List.mem_map.mp hd
        exact .inr (he ▸ hwave t htw)
    intro t htw
    cases List.mem_append.mp htw
    case inl htw => exact hwave t htw
    case inr htw => exact hrest t htw

-- What no wave takes lacks a dependency.
theorem planWaves_rest (satisfied : List String) (remaining : List PredictiveTask) :
    ∀ t ∈ (planWaves satisfied remaining).2,
      ¬t.dependsOn ⊆ satisfied ++ (planWaves satisfied remaining).1.flatten.map PredictiveTask.taskId := by
  apply planWaves_induct (motive := fun satisfied _ waves rest =>
    ∀ t ∈ rest, ¬t.dependsOn ⊆ satisfied ++ waves.flatten.map PredictiveTask.taskId)
  case stop =>
    intro satisfied remaining hr t ht hd
    have hmem : t ∈ readyTasks satisfied remaining := mem_readyTasks.mpr ⟨ht, by simpa using hd⟩
    rw [hr] at hmem
    cases hmem
  case turn =>
    intro satisfied remaining wave waves rest _ _ ih t ht
    have hn := ih t ht
    rwa [List.append_assoc, ← List.map_append, ← List.flatten_cons] at hn

theorem leftAfter_perm (hn : (remaining.map PredictiveTask.taskId).Nodup) (hw : wave.Nodup)
    (hs : wave ⊆ remaining) : (wave ++ leftAfter wave remaining).Perm remaining := by
  have hinj := List.inj_on_of_nodup_map hn
  have hp : wave.Perm (remaining.filter fun t => t.taskId ∈ wave.map PredictiveTask.taskId) := by
    refine (List.perm_ext_iff_of_nodup hw ((List.Nodup.of_map _ hn).filter _)).mpr fun t => ?_
    rw [List.mem_filter, decide_eq_true_eq]
    constructor
    case mp  => exact fun ht => ⟨hs ht, List.mem_map_of_mem ht⟩
    case mpr =>
      intro ⟨ht, hid⟩
      have ⟨t', ht', he⟩ := List.mem_map.mp hid
      exact hinj (hs ht') ht he ▸ ht'
  refine (hp.append_right _).trans ?_
  have hf := List.filter_append_perm
    (fun t => decide (t.taskId ∈ wave.map PredictiveTask.taskId)) remaining
  refine .trans (.of_eq ?_) hf
  rw [leftAfter]
  congr 2
  funext t
  exact decide_not

theorem nextWave_nodup (hn : (remaining.map PredictiveTask.taskId).Nodup) :
    (nextWave (readyTasks satisfied remaining)).Nodup := by
  refine List.Nodup.sublist (nextWave_sublist _) ?_
  rw [readyTasks, sortById, (List.mergeSort_perm ..).nodup_iff]
  exact (List.Nodup.of_map _ hn).filter _

-- Every task is in one wave or in none.
theorem planWaves_split (satisfied : List String) (remaining : List PredictiveTask) :
    (remaining.map PredictiveTask.taskId).Nodup →
      ((planWaves satisfied remaining).1.flatten ++ (planWaves satisfied remaining).2).Perm
        remaining := by
  apply planWaves_induct (motive := fun _ remaining waves rest =>
    (remaining.map PredictiveTask.taskId).Nodup → (waves.flatten ++ rest).Perm remaining)
  case stop => exact fun _ _ _ _ => .refl _
  case turn =>
    intro satisfied remaining wave waves rest _ hw ih hn
    have hsub : wave ⊆ remaining := by
      rw [hw]
      exact List.Subset.trans (nextWave_sublist _).subset (readyTasks_subset _ _)
    have hp := leftAfter_perm hn (hw ▸ nextWave_nodup hn) hsub
    have hleft : ((leftAfter wave remaining).map PredictiveTask.taskId).Nodup :=
      hn.sublist (List.filter_sublist.map _)
    rw [List.flatten_cons, List.append_assoc]
    exact ((ih hleft).append_left wave).trans hp

section Orders

theorem readyTasks_perm (hn : (remaining.map PredictiveTask.taskId).Nodup)
    (hp : remaining.Perm remaining') :
    readyTasks satisfied remaining = readyTasks satisfied remaining' := by
  have hf : ((remaining.filter fun t => t.dependsOn ⊆ satisfied).map PredictiveTask.taskId).Nodup :=
    hn.sublist (List.filter_sublist.map _)
  exact List.sortBy_eq_of_perm hf (hp.filter _)

theorem planWaves_perm (satisfied : List String) (remaining : List PredictiveTask) :
    (remaining.map PredictiveTask.taskId).Nodup → ∀ remaining', remaining.Perm remaining' →
      (planWaves satisfied remaining).1 = (planWaves satisfied remaining').1 ∧
        (planWaves satisfied remaining).2.Perm (planWaves satisfied remaining').2 := by
  apply planWaves_induct (motive := fun satisfied remaining waves rest =>
    (remaining.map PredictiveTask.taskId).Nodup → ∀ remaining', remaining.Perm remaining' →
      waves = (planWaves satisfied remaining').1 ∧ rest.Perm (planWaves satisfied remaining').2)
  case stop =>
    intro satisfied remaining hr hn remaining' hp
    rw [readyTasks_perm hn hp] at hr
    rw [planWaves_nil hr]
    exact ⟨rfl, hp⟩
  case turn =>
    intro satisfied remaining wave waves rest hr hw ih hn remaining' hp
    rw [readyTasks_perm hn hp] at hr hw
    have hleft : ((leftAfter wave remaining).map PredictiveTask.taskId).Nodup :=
      hn.sublist (List.filter_sublist.map _)
    have ⟨hwaves, hrest⟩ := ih hleft (leftAfter wave remaining') (hp.filter _)
    rw [planWaves_cons hr, ← hw]
    exact ⟨congrArg (wave :: ·) hwaves, hrest⟩

theorem find?_taskId_perm {taskId : String} (hn : (tasks.map PredictiveTask.taskId).Nodup)
    (hp : tasks.Perm tasks') :
    (tasks.find? fun t => t.taskId = taskId) = tasks'.find? fun t => t.taskId = taskId := by
  have hinj := List.inj_on_of_nodup_map hn
  cases h : tasks.find? fun t => t.taskId = taskId <;>
    cases h' : tasks'.find? fun t => t.taskId = taskId
  case none.none => rfl
  case none.some t =>
    have hid := List.find?_some h'
    have hno := List.find?_eq_none.mp h t (hp.symm.subset (List.mem_of_find?_eq_some h'))
    exact absurd hid hno
  case some.none t =>
    have hid := List.find?_some h
    have hno := List.find?_eq_none.mp h' t (hp.subset (List.mem_of_find?_eq_some h))
    exact absurd hid hno
  case some.some t t' =>
    have hid : t.taskId = taskId := by simpa using List.find?_some h
    have hid' : t'.taskId = taskId := by simpa using List.find?_some h'
    have ht' := hp.symm.subset (List.mem_of_find?_eq_some h')
    exact congrArg some <| hinj (List.mem_of_find?_eq_some h) ht' (hid.trans hid'.symm)

theorem reasonsFor_perm {rest' : List PredictiveTask} (hn : (tasks.map PredictiveTask.taskId).Nodup)
    (hp : tasks.Perm tasks') (hr : rest.Perm rest') :
    reasonsFor tasks rest = reasonsFor tasks' rest' := by
  funext taskId
  have hmem := (hr.map PredictiveTask.taskId).mem_iff (a := taskId)
  rw [reasonsFor, reasonsFor, find?_taskId_perm hn hp]
  simp only [hmem]

theorem checkDependencies_eq_ok {known : List String} :
    checkDependencies known tasks = .ok () ↔ ∀ t ∈ tasks, t.dependsOn ⊆ known := by
  unfold checkDependencies unknownDependencies
  split
  case h_1 h =>
    rw [List.find?_eq_none] at h
    refine iff_of_true rfl fun t ht => ?_
    simpa [Typed.difference_eq_nil] using h t ht
  case h_2 t h =>
    have hno := List.find?_some h
    refine iff_of_false (by simp) fun hall => ?_
    have hd := Typed.difference_eq_nil.mpr <| hall t (List.mem_of_find?_eq_some h)
    simp [hd] at hno

end Orders

section Plans

variable {currentGateRef : String} {alreadyMaterialized materialized : List String}
variable {plan : PredictivePrecomputationPlan}

-- A task without an effect, an authority or a gate of its own.
structure Free (t : PredictiveTask) : Prop where
  sideEffectFree : t.sideEffectFree = true
  reversible     : t.irreversible = false
  authorityFree  : t.requiresAuthority = false
  gateFree       : t.requiresObservedGateOutcome = false

theorem free_iff {t : PredictiveTask} : Free t ↔ t.Eligible := by
  unfold PredictiveTask.Eligible PredictiveTask.refusals
  constructor
  case mp  => exact fun h => by simp [h.sideEffectFree, h.reversible, h.authorityFree, h.gateFree]
  case mpr =>
    intro h
    simp only [List.append_eq_nil_iff, ite_eq_right_iff, ite_eq_left_iff, List.cons_ne_nil, imp_false,
      Bool.not_eq_true, Bool.not_eq_false] at h
    have ⟨⟨⟨hi, ha⟩, hg⟩, hs⟩ := h
    exact ⟨hs, hi, ha, hg⟩

-- What a plan is: waves that can be run one after the other, of exactly the tasks of the least set
-- that takes every free task whose dependencies it has.
structure Precomputes (tasks : List PredictiveTask) (materialized : List String)
    (steps : List (List PredictiveTask)) (plan : PredictivePrecomputationPlan) : Prop where
  waves     : plan.waves = steps.map (·.map PredictiveTask.taskId)
  given     : steps.flatten ⊆ tasks
  apart     : ∀ wave ∈ steps, wave ≠ [] ∧ wave.Pairwise Apart
  before    : ∀ pre wave post, steps = pre ++ wave :: post →
    ∀ t ∈ wave, Supported materialized pre t
  selected  : plan.selectedTaskIds = plan.waves.flatten ∧ plan.selectedTaskIds.Nodup
  takes     : ∀ t ∈ tasks, Free t →
    (∀ d ∈ t.dependsOn, d ∈ materialized ∨ d ∈ plan.selectedTaskIds) →
      t.taskId ∈ plan.selectedTaskIds
  least     : ∀ S : Set String,
    (∀ t ∈ tasks, Free t → (∀ d ∈ t.dependsOn, d ∈ materialized ∨ d ∈ S) → t.taskId ∈ S) →
      ∀ id ∈ plan.selectedTaskIds, id ∈ S
  deferred  : plan.deferredTaskIds.Nodup ∧ ∀ id, id ∈ plan.deferredTaskIds ↔
    id ∈ tasks.map PredictiveTask.taskId ∧ id ∉ plan.selectedTaskIds

-- What a plan is made of.
structure Builds (currentGateRef : String) (tasks : List PredictiveTask) (materialized : List String)
    (plan : PredictivePrecomputationPlan) : Prop where
  gate     : plan.currentGateRef = currentGateRef
  unique   : (tasks.map PredictiveTask.taskId).Nodup
  known    : ∀ t ∈ tasks, t.dependsOn ⊆ tasks.map PredictiveTask.taskId ++ materialized
  waves    : plan.waves =
    (planWaves materialized (tasks.filter fun t => t.Eligible)).1.map (·.map PredictiveTask.taskId)
  selected : plan.selectedTaskIds =
    (planWaves materialized (tasks.filter fun t => t.Eligible)).1.flatten.map PredictiveTask.taskId
  deferred : plan.deferredTaskIds =
    Typed.difference (tasks.map PredictiveTask.taskId) plan.selectedTaskIds
  reasons  : plan.reasons = plan.deferredTaskIds.map fun taskId =>
    (taskId, reasonsFor tasks (planWaves materialized (tasks.filter fun t => t.Eligible)).2 taskId)
  version  : plan.schemaVersion = "ge.predictive-precomputation-plan.v1"

theorem buildPrecomputationPlan_eq_ok :
    buildPrecomputationPlan currentGateRef tasks alreadyMaterialized = .ok plan ↔
      Guard.Stripped (true, alreadyMaterialized) ∧
        Builds currentGateRef tasks (alreadyMaterialized.map Text.stripped) plan := by
  constructor
  case mp  =>
    intro h
    simp only [buildPrecomputationPlan, Except.bind_eq_ok, Except.pure_eq_ok, Py.require_eq_ok,
      exists_const] at h
    obtain ⟨_, _, ⟨hs⟩, _, hn, _, hd, h⟩ := h
    subst h
    refine ⟨hs ("already_materialized", true, alreadyMaterialized) List.mem_cons_self, ?_⟩
    exact ⟨rfl, hn, checkDependencies_eq_ok.mp hd, rfl, rfl, rfl, rfl, rfl⟩
  case mpr =>
    rintro ⟨hs, hb⟩
    have hg : ∀ x ∈ [("current_gate_ref", currentGateRef)], ¬Text.Blank x.2 := hb.gate ▸ plan.nonempty
    have hm : ∀ x ∈ [("already_materialized", true, alreadyMaterialized)], Guard.Stripped x.2 := by
      simpa using hs
    simp only [buildPrecomputationPlan, Except.bind_eq_ok, Except.pure_eq_ok, Py.require_eq_ok,
      exists_const]
    refine ⟨_, Guard.nonempty_of hg, _, Guard.stripped_of hm, hb.unique, (),
      checkDependencies_eq_ok.mpr hb.known, ?_⟩
    apply PredictivePrecomputationPlan.ext
    case currentGateRef     => exact hb.gate.symm
    case selectedTaskIds    => exact hb.selected.symm
    case deferredTaskIds    => rw [hb.deferred, hb.selected]
    case waves              => exact hb.waves.symm
    case reasons            => rw [hb.reasons, hb.deferred, hb.selected]
    case authorityCreated   => exact plan.inert.left.symm
    case executionTriggered => exact plan.inert.right.symm
    case schemaVersion      => exact hb.version.symm

theorem Builds.perm (h : Builds currentGateRef tasks materialized plan) (hp : tasks.Perm tasks') :
    Builds currentGateRef tasks' materialized plan := by
  have hids := hp.map PredictiveTask.taskId
  have hf : (tasks.filter fun t => t.Eligible).Perm (tasks'.filter fun t => t.Eligible) := hp.filter _
  have hn : ((tasks.filter fun t => t.Eligible).map PredictiveTask.taskId).Nodup :=
    h.unique.sublist (List.filter_sublist.map _)
  have ⟨hwaves, hrest⟩ := planWaves_perm materialized _ hn _ hf
  constructor
  case gate     => exact h.gate
  case unique   => exact hids.nodup_iff.mp h.unique
  case known    =>
    intro t ht
    exact List.Subset.trans (h.known t (hp.symm.subset ht)) (hids.append_right _).subset
  case waves    => rw [h.waves, hwaves]
  case selected => rw [h.selected, hwaves]
  case deferred => rw [h.deferred, Typed.difference_perm_left hids]
  case reasons  => rw [h.reasons, reasonsFor_perm h.unique hp hrest]
  case version  => exact h.version

theorem Builds.precomputes (h : Builds currentGateRef tasks materialized plan) :
    ∃ waves, Precomputes tasks materialized waves plan := by
  have hn : ((tasks.filter fun t => t.Eligible).map PredictiveTask.taskId).Nodup :=
    h.unique.sublist (List.filter_sublist.map _)
  have hsplit := planWaves_split materialized _ hn
  have hruns := planWaves_runs materialized (tasks.filter fun t => t.Eligible)
  have hrest := planWaves_rest materialized (tasks.filter fun t => t.Eligible)
  have hw := h.waves
  have hs := h.selected
  generalize planWaves materialized (tasks.filter fun t => t.Eligible) = planned at hsplit hruns hrest hw hs
  have ⟨waves, rest⟩ := planned
  simp only at hsplit hruns hrest hw hs
  have hmem : ∀ t ∈ waves.flatten, t ∈ tasks ∧ t.Eligible := by
    intro t ht
    simpa using hsplit.subset (List.mem_append_left _ ht)
  refine ⟨waves, ?_⟩
  constructor
  case waves    => exact hw
  case given    => exact fun t ht => (hmem t ht).left
  case apart    => exact hruns.apart
  case before   =>
    intro pre wave post he
    exact (he ▸ hruns).before
  case selected =>
    constructor
    case left  => rw [hs, hw, List.map_flatten]
    case right =>
      rw [hs]
      have hall := (hsplit.map PredictiveTask.taskId).nodup_iff.mpr hn
      exact hall.sublist ((List.sublist_append_left _ _).map _)
  case takes    =>
    intro t ht hfree hd
    rw [hs] at hd ⊢
    have hin : t ∈ waves.flatten ++ rest :=
      hsplit.symm.subset (by simpa using ⟨ht, free_iff.mp hfree⟩)
    cases List.mem_append.mp hin
    case inl hin => exact List.mem_map_of_mem hin
    case inr hin => exact absurd (fun d hdep => List.mem_append.mpr (hd d hdep)) (hrest t hin)
  case least    =>
    intro S hS id hid
    rw [hs] at hid
    have ⟨t, ht, he⟩ := List.mem_map.mp hid
    have htakes : Takes tasks materialized S := fun t ht hel => hS t ht (free_iff.mpr hel)
    exact he ▸ hruns.taken htakes hmem (fun d hd => .inl hd) t ht
  case deferred =>
    rw [h.deferred]
    constructor
    case left  => exact (List.mergeSort_perm ..).nodup_iff.mpr (List.nodup_dedup _)
    case right =>
      intro id
      rw [Typed.difference, (List.mergeSort_perm ..).mem_iff, List.mem_dedup, List.mem_filter,
        decide_eq_true_eq]

-- A plan takes what can be precomputed, wave by wave, whatever the order of the tasks.
theorem buildPrecomputationPlan_precomputes
    (hm : ∀ m ∈ alreadyMaterialized, Text.stripped m = m)
    (h : buildPrecomputationPlan currentGateRef tasks alreadyMaterialized = .ok plan) :
    (∃ waves, Precomputes tasks alreadyMaterialized waves plan) ∧
      ∀ tasks', tasks.Perm tasks' →
        buildPrecomputationPlan currentGateRef tasks' alreadyMaterialized = .ok plan := by
  have ⟨hs, hb⟩ := buildPrecomputationPlan_eq_ok.mp h
  refine ⟨?_, fun tasks' hp => buildPrecomputationPlan_eq_ok.mpr ⟨hs, hb.perm hp⟩⟩
  have hmat : alreadyMaterialized.map Text.stripped = alreadyMaterialized :=
    (List.map_congr_left hm).trans (List.map_id' _)
  rw [hmat] at hb
  exact hb.precomputes

def firstTask : PredictiveTask where
  taskId            := "first"
  evidencePredicate := "evidence"
  nonempty          := by decide
  unique            := by decide

def secondTask : PredictiveTask where
  taskId            := "second"
  evidencePredicate := "evidence"
  dependsOn         := ["first"]
  nonempty          := by decide
  unique            := by decide

theorem planWaves_second :
    planWaves [] [secondTask, firstTask] = ([[firstTask], [secondTask]], []) := by
  have h₁ : readyTasks [] [secondTask, firstTask] = [firstTask] := by
    simp [readyTasks, sortById, firstTask, secondTask]
  have h₂ : readyTasks ["first"] [secondTask] = [secondTask] := by
    simp [readyTasks, sortById, secondTask]
  have h₃ : readyTasks ["first", "second"] [] = [] := by simp [readyTasks, sortById]
  rw [planWaves_cons (by simp [h₁]), h₁]
  change ([firstTask] :: (planWaves ["first"] [secondTask]).1, (planWaves ["first"] [secondTask]).2) = _
  rw [planWaves_cons (by simp [h₂]), h₂]
  change ([firstTask] :: [secondTask] :: (planWaves ["first", "second"] []).1,
    (planWaves ["first", "second"] []).2) = _
  rw [planWaves_nil h₃]

theorem buildPrecomputationPlan_precomputes_second :
    ∃ plan, plan.waves = [["first"], ["second"]] ∧ plan.deferredTaskIds = [] ∧
      ∃ waves, Precomputes [secondTask, firstTask] [] waves plan := by
  let plan : PredictivePrecomputationPlan := {
    currentGateRef  := "gate"
    selectedTaskIds := ["first", "second"]
    deferredTaskIds := []
    waves           := [["first"], ["second"]]
    reasons         := []
    nonempty        := by decide
    inert           := ⟨rfl, rfl⟩ }
  have hw : planWaves [] ([secondTask, firstTask].filter fun t => t.Eligible) =
      ([[firstTask], [secondTask]], []) := planWaves_second
  have hb : Builds "gate" [secondTask, firstTask] [] plan := by
    constructor
    case gate     => rfl
    case unique   => decide
    case known    => simp [firstTask, secondTask]
    case waves    => rw [hw]; rfl
    case selected => rw [hw]; rfl
    case deferred => simp [plan, Typed.difference, firstTask, secondTask]
    case reasons  => rfl
    case version  => rfl
  have h : buildPrecomputationPlan "gate" [secondTask, firstTask] [] = .ok plan :=
    buildPrecomputationPlan_eq_ok.mpr ⟨by decide, hb⟩
  have hm : ∀ m ∈ ([] : List String), Text.stripped m = m := by simp
  exact ⟨plan, rfl, rfl, (buildPrecomputationPlan_precomputes hm h).left⟩

end Plans

end GeneralExecution
