import GeneralExecution.Objects.Fields

namespace GeneralExecution

inductive PortfolioRole
  | active
  | secondary
  | passive
deriving DecidableEq

instance : PyLiteral PortfolioRole where
  spelling
    | .active    => "active"
    | .secondary => "secondary"
    | .passive   => "passive"
  values           := [.active, .secondary, .passive]
  parse_spelling a := by cases a <;> rfl

-- The states of checkpoints and of transition rules are the same.
inductive PortfolioLifecycleState
  | ready
  | running
  | verifying
  | complete
  | waitingExternal
  | rework
  | diRequired
  | humanGate
  | failed
  | passive
deriving DecidableEq

instance : PyLiteral PortfolioLifecycleState where
  spelling
    | .ready           => "ready"
    | .running         => "running"
    | .verifying       => "verifying"
    | .complete        => "complete"
    | .waitingExternal => "waiting_external"
    | .rework          => "rework"
    | .diRequired      => "di_required"
    | .humanGate       => "human_gate"
    | .failed          => "failed"
    | .passive         => "passive"
  values := [.ready, .running, .verifying, .complete, .waitingExternal, .rework, .diRequired,
    .humanGate, .failed, .passive]
  parse_spelling a := by cases a <;> rfl

inductive BlockerKind
  | externalDependency
  | time
  | infrastructure
  | evidence
  | authorization
  | authority
  | unknown
deriving DecidableEq

instance : PyLiteral BlockerKind where
  spelling
    | .externalDependency => "external_dependency"
    | .time               => "time"
    | .infrastructure     => "infrastructure"
    | .evidence           => "evidence"
    | .authorization      => "authorization"
    | .authority          => "authority"
    | .unknown            => "unknown"
  values := [.externalDependency, .time, .infrastructure, .evidence, .authorization, .authority,
    .unknown]
  parse_spelling a := by cases a <;> rfl

inductive WakeKind
  | atOrAfter
  | eventReceived
  | evidencePredicateSatisfied
deriving DecidableEq

instance : PyLiteral WakeKind where
  spelling
    | .atOrAfter                  => "at_or_after"
    | .eventReceived              => "event_received"
    | .evidencePredicateSatisfied => "evidence_predicate_satisfied"
  values           := [.atOrAfter, .eventReceived, .evidencePredicateSatisfied]
  parse_spelling a := by cases a <;> rfl

@[ext]
structure PortfolioBlocker where
  kind          : BlockerKind
  detail        : String
  evidenceRefs  : List String
  schemaVersion : String := "ge.portfolio-blocker.v1"
  version       : schemaVersion = "ge.portfolio-blocker.v1"
  nonempty      : ∀ x ∈ [("blocker.detail", detail)], ¬Text.Blank x.2
  unique        : ∀ x ∈ [("blocker.evidence_refs", evidenceRefs)], Guard.UniqueNonempty x.2

instance : DecidableEq PortfolioBlocker :=
  fun _ _ => decidable_of_iff _ PortfolioBlocker.ext_iff.symm

namespace PortfolioBlocker

def new (kind detail : String) (evidenceRefs : List String) (schemaVersion : String) :
    Py PortfolioBlocker := do
  let ⟨h₁⟩ ← Py.check (schemaVersion = "ge.portfolio-blocker.v1") .portfolioStateError
    "unsupported portfolio blocker schema"
  let kind ← Py.ofOption .portfolioStateError "unsupported blocker kind" (PyLiteral.parse? kind)
  let ⟨h₂⟩ ← Guard.nonempty .portfolioStateError [("blocker.detail", detail)]
  let ⟨h₃⟩ ← Guard.uniqueNonempty .portfolioStateError [("blocker.evidence_refs", evidenceRefs)]
  return { kind, detail, evidenceRefs, schemaVersion, version := h₁, nonempty := h₂, unique := h₃ }

theorem new_eq (b : PortfolioBlocker) :
    new (PyLiteral.spelling b.kind) b.detail b.evidenceRefs b.schemaVersion = .ok b := by
  simp only [new, Py.check_of b.version, Py.ofOption, PyLiteral.parse?, PyLiteral.parse_spelling,
    Except.ofOption, Guard.nonempty_of b.nonempty, Guard.uniqueNonempty_of b.unique, Except.ok_bind]
  rfl

instance : AsDict PortfolioBlocker where
  asdict b := [
    ("kind", toPy b.kind),
    ("detail", toPy b.detail),
    ("evidence_refs", toPy b.evidenceRefs),
    ("schema_version", toPy b.schemaVersion)]

end PortfolioBlocker

@[ext]
structure WakeCondition where
  kind          : WakeKind
  value         : String
  schemaVersion : String := "ge.wake-condition.v1"
  version       : schemaVersion = "ge.wake-condition.v1"
  nonempty      : ∀ x ∈ [("wake_condition.value", value)], ¬Text.Blank x.2

instance : DecidableEq WakeCondition :=
  fun _ _ => decidable_of_iff _ WakeCondition.ext_iff.symm

namespace WakeCondition

def new (kind value schemaVersion : String) : Py WakeCondition := do
  let ⟨h₁⟩ ← Py.check (schemaVersion = "ge.wake-condition.v1") .portfolioStateError
    "unsupported wake condition schema"
  let kind ← Py.ofOption .portfolioStateError "unsupported wake condition kind"
    (PyLiteral.parse? kind)
  let ⟨h₂⟩ ← Guard.nonempty .portfolioStateError [("wake_condition.value", value)]
  return { kind, value, schemaVersion, version := h₁, nonempty := h₂ }

theorem new_eq (w : WakeCondition) :
    new (PyLiteral.spelling w.kind) w.value w.schemaVersion = .ok w := by
  simp only [new, Py.check_of w.version, Py.ofOption, PyLiteral.parse?, PyLiteral.parse_spelling,
    Except.ofOption, Guard.nonempty_of w.nonempty, Except.ok_bind]
  rfl

instance : AsDict WakeCondition where
  asdict w := [
    ("kind", toPy w.kind),
    ("value", toPy w.value),
    ("schema_version", toPy w.schemaVersion)]

end WakeCondition

def PortfolioBlocker.key (b : PortfolioBlocker) : BlockerKind × String × List String :=
  (b.kind, b.detail, b.evidenceRefs)

-- `blocker.kind in {"authorization", "authority"}`
def PortfolioBlocker.IsAuthority (b : PortfolioBlocker) : Prop :=
  b.kind = .authorization ∨ b.kind = .authority

instance : DecidablePred PortfolioBlocker.IsAuthority :=
  fun _ => inferInstanceAs <| Decidable (_ ∨ _)

-- What an entry in the active slot has to satisfy in its state.
structure ActiveOk (state : PortfolioLifecycleState) (authorityBoundary : Option String)
    (blockers : List PortfolioBlocker) (wakeCondition : Option WakeCondition) : Prop where
  notPassive : state ≠ .passive
  waits      : wakeCondition.isSome → state = .waitingExternal
  blocked    : state = .waitingExternal → blockers ≠ []
  bounded    : state = .humanGate → Text.Truthy authorityBoundary
  stopped    : state = .humanGate → ∃ b ∈ blockers, b.IsAuthority

-- The entry's role fixes what else it carries.
def RoleOk (role : PortfolioRole) (state : PortfolioLifecycleState)
    (authorityBoundary : Option String) (blockers : List PortfolioBlocker)
    (wakeCondition : Option WakeCondition) : Prop :=
  match role with
  | .active    => ActiveOk state authorityBoundary blockers wakeCondition
  | .secondary => state = .ready ∧ blockers = [] ∧ wakeCondition.isNone
  | .passive   => state = .passive ∧ blockers ≠ [] ∧ wakeCondition.isSome

section Roles

variable (state : PortfolioLifecycleState) (authorityBoundary : Option String)
variable (blockers : List PortfolioBlocker) (wakeCondition : Option WakeCondition)

instance : Decidable (ActiveOk state authorityBoundary blockers wakeCondition) :=
  decidable_of_iff
    (state ≠ .passive ∧ (wakeCondition.isSome → state = .waitingExternal) ∧
      (state = .waitingExternal → blockers ≠ []) ∧
      (state = .humanGate → Text.Truthy authorityBoundary) ∧
      (state = .humanGate → ∃ b ∈ blockers, b.IsAuthority))
    ⟨fun ⟨h₁, h₂, h₃, h₄, h₅⟩ => ⟨h₁, h₂, h₃, h₄, h₅⟩, fun ⟨h₁, h₂, h₃, h₄, h₅⟩ => ⟨h₁, h₂, h₃, h₄, h₅⟩⟩

instance (role : PortfolioRole) :
    Decidable (RoleOk role state authorityBoundary blockers wakeCondition) :=
  match role with
  | .active    => inferInstanceAs <| Decidable (ActiveOk ..)
  | .secondary => inferInstanceAs <| Decidable (_ ∧ _ ∧ _)
  | .passive   => inferInstanceAs <| Decidable (_ ∧ _ ∧ _)

def roleMessage (role : PortfolioRole) : String :=
  match role with
  | .active =>
    if state = .passive then "active entry cannot use passive state"
    else if wakeCondition.isSome ∧ state ≠ .waitingExternal then
      "active wake condition is valid only while waiting_external"
    else if state = .waitingExternal ∧ blockers = [] then
      "waiting_external active entry requires a blocker"
    else if ¬Text.Truthy authorityBoundary then
      "human_gate active entry requires authority_boundary"
    else "human_gate active entry requires authorization/authority blocker"
  | .secondary =>
    if state ≠ .ready then "secondary entry must remain ready"
    else if blockers ≠ [] then "secondary entry cannot carry blockers"
    else "secondary entry cannot carry wake condition"
  | .passive =>
    if state ≠ .passive then "passive entry must use passive state"
    else if blockers = [] then "passive entry requires at least one blocker"
    else "passive entry requires an explicit wake condition"

end Roles

@[ext]
structure PortfolioEntry where
  workId            : String
  role              : PortfolioRole
  state             : PortfolioLifecycleState
  objective         : String
  activeGate        : String
  nextActionRef     : String
  sourceRevision    : String
  evidenceRequired  : List String
  authorityBoundary : Option String
  authorityRef      : Option String
  blockers          : List PortfolioBlocker
  wakeCondition     : Option WakeCondition
  checkpointRef     : Option String
  schemaVersion     : String := "ge.portfolio-entry.v1"
  version           : schemaVersion = "ge.portfolio-entry.v1"
  nonempty :
    ∀ x ∈ [("work_id", workId), ("objective", objective), ("active_gate", activeGate),
      ("next_action_ref", nextActionRef), ("source_revision", sourceRevision)], ¬Text.Blank x.2
  unique : ∀ x ∈ [("evidence_required", evidenceRequired)], Guard.UniqueNonempty x.2
  optional :
    ∀ x ∈ [("authority_boundary", authorityBoundary), ("authority_ref", authorityRef),
      ("checkpoint_ref", checkpointRef)], Guard.NoneBlank x.2
  blockersUnique : (blockers.map PortfolioBlocker.key).Nodup
  roleOk         : RoleOk role state authorityBoundary blockers wakeCondition

instance : DecidableEq PortfolioEntry :=
  fun _ _ => decidable_of_iff _ PortfolioEntry.ext_iff.symm

namespace PortfolioEntry

def new (workId role state objective activeGate nextActionRef sourceRevision : String)
    (evidenceRequired : List String) (authorityBoundary authorityRef : Option String)
    (blockers : List PortfolioBlocker) (wakeCondition : Option WakeCondition)
    (checkpointRef : Option String) (schemaVersion : String) : Py PortfolioEntry := do
  let ⟨h₁⟩ ← Py.check (schemaVersion = "ge.portfolio-entry.v1") .portfolioStateError
    "unsupported portfolio entry schema"
  let role ← Py.ofOption .portfolioStateError "unsupported portfolio role" (PyLiteral.parse? role)
  let state ← Py.ofOption .portfolioStateError "unsupported portfolio lifecycle state"
    (PyLiteral.parse? state)
  let ⟨h₂⟩ ← Guard.nonempty .portfolioStateError
    [("work_id", workId), ("objective", objective), ("active_gate", activeGate),
      ("next_action_ref", nextActionRef), ("source_revision", sourceRevision)]
  let ⟨h₃⟩ ← Guard.uniqueNonempty .portfolioStateError [("evidence_required", evidenceRequired)]
  let ⟨h₄⟩ ← Guard.optionalNonempty .portfolioStateError
    [("authority_boundary", authorityBoundary), ("authority_ref", authorityRef),
      ("checkpoint_ref", checkpointRef)]
  let ⟨h₅⟩ ← Py.check (blockers.map PortfolioBlocker.key).Nodup .portfolioStateError
    "blockers must not contain duplicates"
  let ⟨h₆⟩ ← Py.check (RoleOk role state authorityBoundary blockers wakeCondition)
    .portfolioStateError (roleMessage state authorityBoundary blockers wakeCondition role)
  return {
    workId, role, state, objective, activeGate, nextActionRef, sourceRevision, evidenceRequired,
    authorityBoundary, authorityRef, blockers, wakeCondition, checkpointRef, schemaVersion,
    version := h₁, nonempty := h₂, unique := h₃, optional := h₄, blockersUnique := h₅,
    roleOk := h₆ }

theorem new_eq (e : PortfolioEntry) :
    new e.workId (PyLiteral.spelling e.role) (PyLiteral.spelling e.state) e.objective e.activeGate
      e.nextActionRef e.sourceRevision e.evidenceRequired e.authorityBoundary e.authorityRef
      e.blockers e.wakeCondition e.checkpointRef e.schemaVersion = .ok e := by
  simp only [new, Py.check_of e.version, Py.ofOption, PyLiteral.parse?, PyLiteral.parse_spelling,
    Except.ofOption, Guard.nonempty_of e.nonempty, Guard.uniqueNonempty_of e.unique,
    Guard.optionalNonempty_of e.optional, Py.check_of e.blockersUnique, Py.check_of e.roleOk,
    Except.ok_bind]
  rfl

-- `replace(entry, ...)` of the fields that a transition may change.
def replace (e : PortfolioEntry) (role : PortfolioRole) (state : PortfolioLifecycleState)
    (nextActionRef : String) (authorityBoundary authorityRef : Option String)
    (blockers : List PortfolioBlocker) (wakeCondition : Option WakeCondition) : Py PortfolioEntry :=
  new e.workId (PyLiteral.spelling role) (PyLiteral.spelling state) e.objective e.activeGate
    nextActionRef e.sourceRevision e.evidenceRequired authorityBoundary authorityRef blockers
    wakeCondition e.checkpointRef e.schemaVersion

instance : AsDict PortfolioEntry where
  asdict e := [
    ("work_id", toPy e.workId),
    ("role", toPy e.role),
    ("state", toPy e.state),
    ("objective", toPy e.objective),
    ("active_gate", toPy e.activeGate),
    ("next_action_ref", toPy e.nextActionRef),
    ("source_revision", toPy e.sourceRevision),
    ("evidence_required", toPy e.evidenceRequired),
    ("authority_boundary", toPy e.authorityBoundary),
    ("authority_ref", toPy e.authorityRef),
    ("blockers", toPy e.blockers),
    ("wake_condition", toPy e.wakeCondition),
    ("checkpoint_ref", toPy e.checkpointRef),
    ("schema_version", toPy e.schemaVersion)]

end PortfolioEntry

-- The slots of a portfolio.
structure SlotsOk (active secondary : PortfolioEntry) (passive : List PortfolioEntry) : Prop where
  inActive    : active.role = .active
  inSecondary : secondary.role = .secondary
  inPassive   : ∀ entry ∈ passive, entry.role = .passive
  sorted      : (passive.map PortfolioEntry.workId).Pairwise (· ≤ ·)
  unique      : (active.workId :: secondary.workId :: passive.map PortfolioEntry.workId).Nodup

instance (active secondary : PortfolioEntry) (passive : List PortfolioEntry) :
    Decidable (SlotsOk active secondary passive) :=
  decidable_of_iff
    (active.role = .active ∧ secondary.role = .secondary ∧ (∀ entry ∈ passive, entry.role = .passive) ∧
      (passive.map PortfolioEntry.workId).Pairwise (· ≤ ·) ∧
      (active.workId :: secondary.workId :: passive.map PortfolioEntry.workId).Nodup)
    ⟨fun ⟨h₁, h₂, h₃, h₄, h₅⟩ => ⟨h₁, h₂, h₃, h₄, h₅⟩, fun ⟨h₁, h₂, h₃, h₄, h₅⟩ => ⟨h₁, h₂, h₃, h₄, h₅⟩⟩

def slotsMessage (active secondary : PortfolioEntry) (passive : List PortfolioEntry) : String :=
  if active.role ≠ .active then "active slot requires role=active"
  else if secondary.role ≠ .secondary then "secondary slot requires role=secondary"
  else if ∃ entry ∈ passive, entry.role ≠ .passive then "passive slots require role=passive"
  else if ¬(passive.map PortfolioEntry.workId).Pairwise (· ≤ ·) then
    "passive entries must be sorted by work_id for canonical state"
  else "portfolio work_id values must be unique"

@[ext]
structure PortfolioState where
  portfolioId         : String
  generation          : Nat
  active              : PortfolioEntry
  secondary           : PortfolioEntry
  passive             : List PortfolioEntry
  previousStateDigest : Option String
  schemaVersion       : String := "ge.portfolio-state.v1"
  version             : schemaVersion = "ge.portfolio-state.v1"
  nonempty            : ∀ x ∈ [("portfolio_id", portfolioId)], ¬Text.Blank x.2
  slots               : SlotsOk active secondary passive
  genesis             : previousStateDigest.isNone ↔ generation = 0
  isSha256 : ∀ x ∈ [("previous_state_digest", previousStateDigest)], Guard.OptionalSha256 x.2

instance : DecidableEq PortfolioState :=
  fun _ _ => decidable_of_iff _ PortfolioState.ext_iff.symm

namespace PortfolioState

def new (portfolioId : String) (generation : Nat) (active secondary : PortfolioEntry)
    (passive : List PortfolioEntry) (previousStateDigest : Option String)
    (schemaVersion : String) : Py PortfolioState := do
  let ⟨h₁⟩ ← Py.check (schemaVersion = "ge.portfolio-state.v1") .portfolioStateError
    "unsupported portfolio state schema"
  let ⟨h₂⟩ ← Guard.nonempty .portfolioStateError [("portfolio_id", portfolioId)]
  let ⟨h₃⟩ ← Py.check (SlotsOk active secondary passive) .portfolioStateError
    (slotsMessage active secondary passive)
  let ⟨h₄⟩ ← Py.check (previousStateDigest.isNone ↔ generation = 0) .portfolioStateError <|
    if generation = 0 then "generation zero cannot have previous_state_digest"
    else "generation > 0 requires previous_state_digest"
  let ⟨h₅⟩ ← Guard.optionalSha256 .portfolioStateError
    [("previous_state_digest", previousStateDigest)]
  return {
    portfolioId, generation, active, secondary, passive, previousStateDigest, schemaVersion,
    version := h₁, nonempty := h₂, slots := h₃, genesis := h₄, isSha256 := h₅ }

theorem new_eq (s : PortfolioState) :
    new s.portfolioId s.generation s.active s.secondary s.passive s.previousStateDigest
      s.schemaVersion = .ok s := by
  simp only [new, Py.check_of s.version, Guard.nonempty_of s.nonempty, Py.check_of s.slots,
    Py.check_of s.genesis, Guard.optionalSha256_of s.isSha256, Except.ok_bind]
  rfl

instance : AsDict PortfolioState where
  asdict s := [
    ("portfolio_id", toPy s.portfolioId),
    ("generation", toPy s.generation),
    ("active", toPy s.active),
    ("secondary", toPy s.secondary),
    ("passive", toPy s.passive),
    ("previous_state_digest", toPy s.previousStateDigest),
    ("schema_version", toPy s.schemaVersion)]

end PortfolioState

def blockerFromDict (data : Json) : Py PortfolioBlocker := do
  Typed.exactFields .portfolioStateError "portfolio blocker"
    ["kind", "detail", "evidence_refs", "schema_version"] data
  PortfolioBlocker.new
    (← Field.get (Typed.member .portfolioStateError "unsupported blocker kind"
      "invalid portfolio blocker") data "kind")
    (← Field.get (Typed.nonempty .portfolioStateError "blocker.detail") data "detail")
    (← Field.get (Typed.strings .portfolioStateError "blocker.evidence_refs") data "evidence_refs")
    (← Field.get (Typed.string .portfolioStateError "unsupported portfolio blocker schema") data
      "schema_version")

def wakeFromDict (data : Json) : Py WakeCondition := do
  Typed.exactFields .portfolioStateError "wake condition" ["kind", "value", "schema_version"] data
  WakeCondition.new
    (← Field.get (Typed.member .portfolioStateError "unsupported wake condition kind"
      "invalid wake condition") data "kind")
    (← Field.get (Typed.nonempty .portfolioStateError "wake_condition.value") data "value")
    (← Field.get (Typed.string .portfolioStateError "unsupported wake condition schema") data
      "schema_version")

-- `wake_condition must be an object or null`
def Read.wakeCondition : Json → Py (Option WakeCondition)
  | .null    => return none
  | .obj kvs => return some (← wakeFromDict (.obj kvs))
  | _        => Py.raise .portfolioStateError "wake_condition must be an object or null"

def entryFromDict (data : Json) : Py PortfolioEntry := do
  Typed.exactFields .portfolioStateError "portfolio entry"
    ["work_id", "role", "state", "objective", "active_gate", "next_action_ref", "source_revision",
      "evidence_required", "authority_boundary", "authority_ref", "blockers", "wake_condition",
      "checkpoint_ref", "schema_version"] data
  PortfolioEntry.new
    (← Field.get (Typed.nonempty .portfolioStateError "work_id") data "work_id")
    (← Field.get (Typed.member .portfolioStateError "unsupported portfolio role"
      "invalid portfolio entry") data "role")
    (← Field.get (Typed.member .portfolioStateError "unsupported portfolio lifecycle state"
      "invalid portfolio entry") data "state")
    (← Field.get (Typed.nonempty .portfolioStateError "objective") data "objective")
    (← Field.get (Typed.nonempty .portfolioStateError "active_gate") data "active_gate")
    (← Field.get (Typed.nonempty .portfolioStateError "next_action_ref") data "next_action_ref")
    (← Field.get (Typed.nonempty .portfolioStateError "source_revision") data "source_revision")
    (← Field.get (Typed.strings .portfolioStateError "evidence_required") data "evidence_required")
    (← Field.get (Read.opt <| Typed.nonempty .portfolioStateError "authority_boundary") data
      "authority_boundary")
    (← Field.get (Read.opt <| Typed.nonempty .portfolioStateError "authority_ref") data
      "authority_ref")
    (← Field.get (Typed.list .portfolioStateError "blockers must be a list" blockerFromDict) data
      "blockers")
    (← Field.get Read.wakeCondition data "wake_condition")
    (← Field.get (Read.opt <| Typed.nonempty .portfolioStateError "checkpoint_ref") data
      "checkpoint_ref")
    (← Field.get (Typed.string .portfolioStateError "unsupported portfolio entry schema") data
      "schema_version")

def portfolioStateFromDict (data : Json) : Py PortfolioState := do
  Typed.exactFields .portfolioStateError "portfolio state"
    ["portfolio_id", "generation", "active", "secondary", "passive", "previous_state_digest",
      "schema_version"] data
  PortfolioState.new
    (← Field.get (Typed.nonempty .portfolioStateError "portfolio_id") data "portfolio_id")
    (← Field.get (Typed.nat .portfolioStateError "generation") data "generation")
    (← Field.get entryFromDict data "active")
    (← Field.get entryFromDict data "secondary")
    (← Field.get (Typed.list .portfolioStateError "passive must be a list" entryFromDict) data
      "passive")
    (← Field.get (Read.opt <| Typed.sha256 .portfolioStateError "previous_state_digest") data
      "previous_state_digest")
    (← Field.get (Typed.string .portfolioStateError "unsupported portfolio state schema") data
      "schema_version")

def serializePortfolioState (state : PortfolioState) : String :=
  canonicalJson (toPy state)

def deserializePortfolioState (payload : String) : Py PortfolioState := do
  let data ← Py.ofOption .portfolioStateError "portfolio state is not valid JSON" <|
    Json.loads payload
  portfolioStateFromDict data

section Digests

variable [Sha256]

def WakeCondition.digest (w : WakeCondition) : String :=
  sha256Digest (toPy w)

def PortfolioState.digest (s : PortfolioState) : String :=
  sha256Digest (toPy s)

end Digests

end GeneralExecution
