import GeneralExecution.Objects.Theorems.Lossless
import GeneralExecution.Portfolio.Checkpoint

namespace GeneralExecution

-- The truth value of a value.
def PyValue.truthy : PyValue → Bool
  | .none | .bool false | .int 0 | .str "" | .list [] | .tuple [] | .set [] | .dict [] => false
  | _ => true

def PyValue.isNone : PyValue → Bool
  | .none => true
  | _     => false

-- `StopOk` of whatever is given as the stop and as its boundary.
def UntypedStopOk (stateAfter : PortfolioLifecycleState) (nextTransitionRefs : List String)
    (authorityStop authorityBoundary : PyValue) : Prop :=
  if authorityStop.truthy then
    authorityBoundary.truthy ∧ stateAfter = .humanGate ∧ nextTransitionRefs = []
  else
    authorityBoundary.isNone ∧
      (nextTransitionRefs = [] → stateAfter = .complete ∨ stateAfter = .failed)

instance (stateAfter : PortfolioLifecycleState) (nextTransitionRefs : List String)
    (authorityStop authorityBoundary : PyValue) :
    Decidable (UntypedStopOk stateAfter nextTransitionRefs authorityStop authorityBoundary) := by
  unfold UntypedStopOk
  infer_instance

def untypedStopMessage (stateAfter : PortfolioLifecycleState)
    (authorityStop authorityBoundary : PyValue) : String :=
  if authorityStop.truthy then
    if ¬authorityBoundary.truthy then "authority_stop requires authority_boundary"
    else if stateAfter ≠ .humanGate then "authority_stop requires state_after=human_gate"
    else "authority_stop cannot declare automatic next transitions"
  else if ¬authorityBoundary.isNone then "authority_boundary is valid only for authority_stop"
  else "nonterminal checkpoint requires next_transition_refs"

-- A checkpoint as its constructor takes it, which does not look at the types of the two authority
-- fields: a decoded checkpoint holds there whatever the text has.
structure UntypedCheckpoint where
  portfolioId          : String
  portfolioGeneration  : Nat
  portfolioStateDigest : String
  workId               : String
  role                 : PortfolioRole
  stateBefore          : PortfolioLifecycleState
  stateAfter           : PortfolioLifecycleState
  actionRef            : String
  sourceRevision       : String
  observedAt           : String
  summary              : String
  evidence             : List CheckpointEvidence
  canonicalRefs        : List String
  uncertainties        : List String
  nextTransitionRefs   : List String
  authorityStop        : PyValue
  authorityBoundary    : PyValue
  schemaVersion        : String
  version              : schemaVersion = "ge.execution-checkpoint.v1"
  nonempty :
    ∀ x ∈ [("portfolio_id", portfolioId), ("work_id", workId), ("action_ref", actionRef),
      ("source_revision", sourceRevision), ("observed_at", observedAt), ("summary", summary)],
      ¬Text.Blank x.2
  isSha256 : ∀ x ∈ [("portfolio_state_digest", portfolioStateDigest)], IsSha256 x.2
  evident  : evidence ≠ []
  distinct : (evidence.map CheckpointEvidence.identity).Nodup
  refs     : ∀ x ∈ [("canonical_refs", canonicalRefs)], Guard.UniqueNonempty x.2
  hasRefs  : canonicalRefs ≠ []
  unique :
    ∀ x ∈ [("uncertainties", uncertainties), ("next_transition_refs", nextTransitionRefs)],
      Guard.UniqueNonempty x.2
  stop    : UntypedStopOk stateAfter nextTransitionRefs authorityStop authorityBoundary
  passive : role = .passive → stateAfter = .passive

namespace UntypedCheckpoint

def new (portfolioId : String) (portfolioGeneration : Nat)
    (portfolioStateDigest workId role stateBefore stateAfter actionRef sourceRevision observedAt
      summary : String)
    (evidence : List CheckpointEvidence)
    (canonicalRefs uncertainties nextTransitionRefs : List String)
    (authorityStop authorityBoundary : PyValue) (schemaVersion : String) :
    Py UntypedCheckpoint := do
  let ⟨h₁⟩ ← Py.check (schemaVersion = "ge.execution-checkpoint.v1") .executionCheckpointError
    "unsupported execution checkpoint schema"
  let ⟨h₂⟩ ← Guard.nonempty .executionCheckpointError
    [("portfolio_id", portfolioId), ("work_id", workId), ("action_ref", actionRef),
      ("source_revision", sourceRevision), ("observed_at", observedAt), ("summary", summary)]
  let ⟨h₃⟩ ← Guard.sha256 .executionCheckpointError
    [("portfolio_state_digest", portfolioStateDigest)]
  let role ← Py.ofOption .executionCheckpointError "unsupported checkpoint role"
    (PyLiteral.parse? role)
  let stateBefore ← Py.ofOption .executionCheckpointError "unsupported checkpoint state"
    (PyLiteral.parse? stateBefore)
  let stateAfter ← Py.ofOption .executionCheckpointError "unsupported checkpoint state"
    (PyLiteral.parse? stateAfter)
  let ⟨h₄⟩ ← Py.check (evidence ≠ []) .executionCheckpointError
    "checkpoint requires admitted evidence"
  let ⟨h₅⟩ ← Py.check (evidence.map CheckpointEvidence.identity).Nodup .executionCheckpointError
    "checkpoint evidence must not contain duplicates"
  let ⟨h₆⟩ ← Guard.uniqueNonempty .executionCheckpointError [("canonical_refs", canonicalRefs)]
  let ⟨h₇⟩ ← Py.check (canonicalRefs ≠ []) .executionCheckpointError
    "checkpoint requires at least one canonical_ref"
  let ⟨h₈⟩ ← Guard.uniqueNonempty .executionCheckpointError
    [("uncertainties", uncertainties), ("next_transition_refs", nextTransitionRefs)]
  let ⟨h₉⟩ ← Py.check (UntypedStopOk stateAfter nextTransitionRefs authorityStop authorityBoundary)
    .executionCheckpointError (untypedStopMessage stateAfter authorityStop authorityBoundary)
  let ⟨h₁₀⟩ ← Py.check (role = .passive → stateAfter = .passive) .executionCheckpointError
    "passive checkpoint cannot claim non-passive state"
  return {
    portfolioId, portfolioGeneration, portfolioStateDigest, workId, role, stateBefore, stateAfter,
    actionRef, sourceRevision, observedAt, summary, evidence, canonicalRefs, uncertainties,
    nextTransitionRefs, authorityStop, authorityBoundary, schemaVersion, version := h₁,
    nonempty := h₂, isSha256 := h₃, evident := h₄, distinct := h₅, refs := h₆, hasRefs := h₇,
    unique := h₈, stop := h₉, passive := h₁₀ }

theorem new_eq (c : UntypedCheckpoint) :
    new c.portfolioId c.portfolioGeneration c.portfolioStateDigest c.workId
      (PyLiteral.spelling c.role) (PyLiteral.spelling c.stateBefore)
      (PyLiteral.spelling c.stateAfter) c.actionRef c.sourceRevision c.observedAt c.summary
      c.evidence c.canonicalRefs c.uncertainties c.nextTransitionRefs c.authorityStop
      c.authorityBoundary c.schemaVersion = .ok c := by
  simp only [new, Py.check_of c.version, Guard.nonempty_of c.nonempty, Guard.sha256_of c.isSha256,
    Py.ofOption, PyLiteral.parse?, PyLiteral.parse_spelling, Except.ofOption,
    Py.check_of c.evident, Py.check_of c.distinct, Guard.uniqueNonempty_of c.refs,
    Py.check_of c.hasRefs, Guard.uniqueNonempty_of c.unique, Py.check_of c.stop,
    Py.check_of c.passive, Except.ok_bind]
  rfl

instance : AsDict UntypedCheckpoint where
  asdict c := [
    ("portfolio_id", toPy c.portfolioId),
    ("portfolio_generation", toPy c.portfolioGeneration),
    ("portfolio_state_digest", toPy c.portfolioStateDigest),
    ("work_id", toPy c.workId),
    ("role", toPy c.role),
    ("state_before", toPy c.stateBefore),
    ("state_after", toPy c.stateAfter),
    ("action_ref", toPy c.actionRef),
    ("source_revision", toPy c.sourceRevision),
    ("observed_at", toPy c.observedAt),
    ("summary", toPy c.summary),
    ("evidence", toPy c.evidence),
    ("canonical_refs", toPy c.canonicalRefs),
    ("uncertainties", toPy c.uncertainties),
    ("next_transition_refs", toPy c.nextTransitionRefs),
    ("authority_stop", toPy c.authorityStop),
    ("authority_boundary", toPy c.authorityBoundary),
    ("schema_version", toPy c.schemaVersion)]

end UntypedCheckpoint

-- The value as it was decoded.
def Read.any (data : Json) : Py PyValue :=
  return parsed data

def untypedCheckpointFromDict (data : Json) : Py UntypedCheckpoint := do
  Typed.exactFields .executionCheckpointError "execution checkpoint"
    ["portfolio_id", "portfolio_generation", "portfolio_state_digest", "work_id", "role",
      "state_before", "state_after", "action_ref", "source_revision", "observed_at", "summary",
      "evidence", "canonical_refs", "uncertainties", "next_transition_refs", "authority_stop",
      "authority_boundary", "schema_version"] data
  UntypedCheckpoint.new
    (← Field.get (Typed.nonempty .executionCheckpointError "portfolio_id") data "portfolio_id")
    (← Field.get (Typed.nat .executionCheckpointError "portfolio_generation") data
      "portfolio_generation")
    (← Field.get (Typed.sha256 .executionCheckpointError "portfolio_state_digest") data
      "portfolio_state_digest")
    (← Field.get (Typed.nonempty .executionCheckpointError "work_id") data "work_id")
    (← Field.get (Typed.member .executionCheckpointError "unsupported checkpoint role"
      "invalid execution checkpoint") data "role")
    (← Field.get (Typed.member .executionCheckpointError "unsupported checkpoint state"
      "invalid execution checkpoint") data "state_before")
    (← Field.get (Typed.member .executionCheckpointError "unsupported checkpoint state"
      "invalid execution checkpoint") data "state_after")
    (← Field.get (Typed.nonempty .executionCheckpointError "action_ref") data "action_ref")
    (← Field.get (Typed.nonempty .executionCheckpointError "source_revision") data
      "source_revision")
    (← Field.get (Typed.nonempty .executionCheckpointError "observed_at") data "observed_at")
    (← Field.get (Typed.nonempty .executionCheckpointError "summary") data "summary")
    (← Field.get (Typed.list .executionCheckpointError "evidence must be a list" evidenceFromDict)
      data "evidence")
    (← Field.get (Typed.strings .executionCheckpointError "canonical_refs") data "canonical_refs")
    (← Field.get (Typed.strings .executionCheckpointError "uncertainties") data "uncertainties")
    (← Field.get (Typed.strings .executionCheckpointError "next_transition_refs") data
      "next_transition_refs")
    (← Field.get Read.any data "authority_stop")
    (← Field.get Read.any data "authority_boundary")
    (← Field.get (Typed.string .executionCheckpointError "unsupported execution checkpoint schema")
      data "schema_version")

def deserializeUntypedCheckpoint (payload : String) : Py UntypedCheckpoint := do
  let data ← Py.ofOption .executionCheckpointError "execution checkpoint is not valid JSON" <|
    Json.loads payload
  untypedCheckpointFromDict data

-- A checkpoint with a flag and an optional text there is one of them.

theorem untypedStopOk_iff {stateAfter : PortfolioLifecycleState} {nextTransitionRefs : List String}
    {authorityStop : Bool} {authorityBoundary : Option String} :
    UntypedStopOk stateAfter nextTransitionRefs (toPy authorityStop) (toPy authorityBoundary) ↔
      StopOk stateAfter nextTransitionRefs authorityStop authorityBoundary := by
  have hs : (toPy authorityStop).truthy = authorityStop := by cases authorityStop <;> rfl
  have hb : (toPy authorityBoundary).truthy = true ↔ Text.Truthy authorityBoundary := by
    cases authorityBoundary
    case none => simp [toPy, PyValue.truthy, Text.Truthy]
    case some s =>
      by_cases h : s = ""
      case pos => simp [h, toPy, PyValue.truthy, Text.Truthy]
      case neg => simp [h, toPy, PyValue.truthy, Text.Truthy]
  have hn : (toPy authorityBoundary).isNone = authorityBoundary.isNone := by
    cases authorityBoundary <;> rfl
  rw [UntypedStopOk, StopOk, hs, hb, hn]

end GeneralExecution
