import GeneralExecution.Portfolio.State

namespace GeneralExecution

@[ext]
structure CheckpointEvidence where
  kind          : String
  locator       : String
  digest        : String
  schemaVersion : String := "ge.checkpoint-evidence.v1"
  version       : schemaVersion = "ge.checkpoint-evidence.v1"
  nonempty      : ∀ x ∈ [("evidence.kind", kind), ("evidence.locator", locator)], ¬Text.Blank x.2
  isSha256      : ∀ x ∈ [("evidence.digest", digest)], IsSha256 x.2

instance : DecidableEq CheckpointEvidence :=
  fun _ _ => decidable_of_iff _ CheckpointEvidence.ext_iff.symm

namespace CheckpointEvidence

def new (kind locator digest schemaVersion : String) : Py CheckpointEvidence := do
  let ⟨h₁⟩ ← Py.check (schemaVersion = "ge.checkpoint-evidence.v1") .executionCheckpointError
    "unsupported checkpoint evidence schema"
  let ⟨h₂⟩ ← Guard.nonempty .executionCheckpointError
    [("evidence.kind", kind), ("evidence.locator", locator)]
  let ⟨h₃⟩ ← Guard.sha256 .executionCheckpointError [("evidence.digest", digest)]
  return { kind, locator, digest, schemaVersion, version := h₁, nonempty := h₂, isSha256 := h₃ }

theorem new_eq (e : CheckpointEvidence) :
    new e.kind e.locator e.digest e.schemaVersion = .ok e := by
  simp only [new, Py.check_of e.version, Guard.nonempty_of e.nonempty, Guard.sha256_of e.isSha256,
    Except.ok_bind]
  rfl

def identity (e : CheckpointEvidence) : String × String × String :=
  (e.kind, e.locator, e.digest)

instance : AsDict CheckpointEvidence where
  asdict e := [
    ("kind", toPy e.kind),
    ("locator", toPy e.locator),
    ("digest", toPy e.digest),
    ("schema_version", toPy e.schemaVersion)]

end CheckpointEvidence

-- A stop for authority names its boundary and no next transition; any other checkpoint names the next
-- transition unless its state is terminal.
def StopOk (stateAfter : PortfolioLifecycleState) (nextTransitionRefs : List String)
    (authorityStop : Bool) (authorityBoundary : Option String) : Prop :=
  if authorityStop then
    Text.Truthy authorityBoundary ∧ stateAfter = .humanGate ∧ nextTransitionRefs = []
  else
    authorityBoundary.isNone ∧
      (nextTransitionRefs = [] → stateAfter = .complete ∨ stateAfter = .failed)

instance (stateAfter : PortfolioLifecycleState) (nextTransitionRefs : List String)
    (authorityStop : Bool) (authorityBoundary : Option String) :
    Decidable (StopOk stateAfter nextTransitionRefs authorityStop authorityBoundary) := by
  unfold StopOk
  infer_instance

def stopMessage (stateAfter : PortfolioLifecycleState) (authorityStop : Bool)
    (authorityBoundary : Option String) : String :=
  if authorityStop then
    if ¬Text.Truthy authorityBoundary then "authority_stop requires authority_boundary"
    else if stateAfter ≠ .humanGate then "authority_stop requires state_after=human_gate"
    else "authority_stop cannot declare automatic next transitions"
  else if authorityBoundary.isSome then "authority_boundary is valid only for authority_stop"
  else "nonterminal checkpoint requires next_transition_refs"

@[ext]
structure ExecutionCheckpoint where
  portfolioId          : String
  portfolioGeneration  : Nat
  portfolioStateDigest : String
  workId               : String
  role                 : PortfolioRole
  stateBefore          : PortfolioLifecycleState
  stateAfter           : PortfolioLifecycleState
  actionRef            : String
  sourceRevision       : String
  observedAt           : String
  summary              : String
  evidence             : List CheckpointEvidence
  canonicalRefs        : List String
  uncertainties        : List String
  nextTransitionRefs   : List String
  authorityStop        : Bool
  authorityBoundary    : Option String
  schemaVersion        : String := "ge.execution-checkpoint.v1"
  version              : schemaVersion = "ge.execution-checkpoint.v1"
  nonempty :
    ∀ x ∈ [("portfolio_id", portfolioId), ("work_id", workId), ("action_ref", actionRef),
      ("source_revision", sourceRevision), ("observed_at", observedAt), ("summary", summary)],
      ¬Text.Blank x.2
  isSha256 : ∀ x ∈ [("portfolio_state_digest", portfolioStateDigest)], IsSha256 x.2
  evident  : evidence ≠ []
  distinct : (evidence.map CheckpointEvidence.identity).Nodup
  refs     : ∀ x ∈ [("canonical_refs", canonicalRefs)], Guard.UniqueNonempty x.2
  hasRefs  : canonicalRefs ≠ []
  unique :
    ∀ x ∈ [("uncertainties", uncertainties), ("next_transition_refs", nextTransitionRefs)],
      Guard.UniqueNonempty x.2
  stop    : StopOk stateAfter nextTransitionRefs authorityStop authorityBoundary
  passive : role = .passive → stateAfter = .passive

instance : DecidableEq ExecutionCheckpoint :=
  fun _ _ => decidable_of_iff _ ExecutionCheckpoint.ext_iff.symm

namespace ExecutionCheckpoint

def new (portfolioId : String) (portfolioGeneration : Nat)
    (portfolioStateDigest workId role stateBefore stateAfter actionRef sourceRevision observedAt
      summary : String)
    (evidence : List CheckpointEvidence)
    (canonicalRefs uncertainties nextTransitionRefs : List String) (authorityStop : Bool)
    (authorityBoundary : Option String) (schemaVersion : String) : Py ExecutionCheckpoint := do
  let ⟨h₁⟩ ← Py.check (schemaVersion = "ge.execution-checkpoint.v1") .executionCheckpointError
    "unsupported execution checkpoint schema"
  let ⟨h₂⟩ ← Guard.nonempty .executionCheckpointError
    [("portfolio_id", portfolioId), ("work_id", workId), ("action_ref", actionRef),
      ("source_revision", sourceRevision), ("observed_at", observedAt), ("summary", summary)]
  let ⟨h₃⟩ ← Guard.sha256 .executionCheckpointError
    [("portfolio_state_digest", portfolioStateDigest)]
  let role ← Py.ofOption .executionCheckpointError "unsupported checkpoint role"
    (PyLiteral.parse? role)
  let stateBefore ← Py.ofOption .executionCheckpointError "unsupported checkpoint state"
    (PyLiteral.parse? stateBefore)
  let stateAfter ← Py.ofOption .executionCheckpointError "unsupported checkpoint state"
    (PyLiteral.parse? stateAfter)
  let ⟨h₄⟩ ← Py.check (evidence ≠ []) .executionCheckpointError
    "checkpoint requires admitted evidence"
  let ⟨h₅⟩ ← Py.check (evidence.map CheckpointEvidence.identity).Nodup .executionCheckpointError
    "checkpoint evidence must not contain duplicates"
  let ⟨h₆⟩ ← Guard.uniqueNonempty .executionCheckpointError [("canonical_refs", canonicalRefs)]
  let ⟨h₇⟩ ← Py.check (canonicalRefs ≠ []) .executionCheckpointError
    "checkpoint requires at least one canonical_ref"
  let ⟨h₈⟩ ← Guard.uniqueNonempty .executionCheckpointError
    [("uncertainties", uncertainties), ("next_transition_refs", nextTransitionRefs)]
  let ⟨h₉⟩ ← Py.check (StopOk stateAfter nextTransitionRefs authorityStop authorityBoundary)
    .executionCheckpointError (stopMessage stateAfter authorityStop authorityBoundary)
  let ⟨h₁₀⟩ ← Py.check (role = .passive → stateAfter = .passive) .executionCheckpointError
    "passive checkpoint cannot claim non-passive state"
  return {
    portfolioId, portfolioGeneration, portfolioStateDigest, workId, role, stateBefore, stateAfter,
    actionRef, sourceRevision, observedAt, summary, evidence, canonicalRefs, uncertainties,
    nextTransitionRefs, authorityStop, authorityBoundary, schemaVersion, version := h₁,
    nonempty := h₂, isSha256 := h₃, evident := h₄, distinct := h₅, refs := h₆, hasRefs := h₇,
    unique := h₈, stop := h₉, passive := h₁₀ }

theorem new_eq (c : ExecutionCheckpoint) :
    new c.portfolioId c.portfolioGeneration c.portfolioStateDigest c.workId
      (PyLiteral.spelling c.role) (PyLiteral.spelling c.stateBefore)
      (PyLiteral.spelling c.stateAfter) c.actionRef c.sourceRevision c.observedAt c.summary
      c.evidence c.canonicalRefs c.uncertainties c.nextTransitionRefs c.authorityStop
      c.authorityBoundary c.schemaVersion = .ok c := by
  simp only [new, Py.check_of c.version, Guard.nonempty_of c.nonempty, Guard.sha256_of c.isSha256,
    Py.ofOption, PyLiteral.parse?, PyLiteral.parse_spelling, Except.ofOption,
    Py.check_of c.evident, Py.check_of c.distinct, Guard.uniqueNonempty_of c.refs,
    Py.check_of c.hasRefs, Guard.uniqueNonempty_of c.unique, Py.check_of c.stop,
    Py.check_of c.passive, Except.ok_bind]
  rfl

instance : AsDict ExecutionCheckpoint where
  asdict c := [
    ("portfolio_id", toPy c.portfolioId),
    ("portfolio_generation", toPy c.portfolioGeneration),
    ("portfolio_state_digest", toPy c.portfolioStateDigest),
    ("work_id", toPy c.workId),
    ("role", toPy c.role),
    ("state_before", toPy c.stateBefore),
    ("state_after", toPy c.stateAfter),
    ("action_ref", toPy c.actionRef),
    ("source_revision", toPy c.sourceRevision),
    ("observed_at", toPy c.observedAt),
    ("summary", toPy c.summary),
    ("evidence", toPy c.evidence),
    ("canonical_refs", toPy c.canonicalRefs),
    ("uncertainties", toPy c.uncertainties),
    ("next_transition_refs", toPy c.nextTransitionRefs),
    ("authority_stop", toPy c.authorityStop),
    ("authority_boundary", toPy c.authorityBoundary),
    ("schema_version", toPy c.schemaVersion)]

end ExecutionCheckpoint

-- `CheckpointEvidence(**obj)` of an object with exactly its fields, which is how each decoder of an
-- evidence ends.
def evidenceOfFields (data : Json) : Py CheckpointEvidence := do
  CheckpointEvidence.new
    (← Field.get (Typed.nonempty .executionCheckpointError "evidence.kind") data "kind")
    (← Field.get (Typed.nonempty .executionCheckpointError "evidence.locator") data "locator")
    (← Field.get (Typed.sha256 .executionCheckpointError "evidence.digest") data "digest")
    (← Field.get (Typed.string .executionCheckpointError "unsupported checkpoint evidence schema")
      data "schema_version")

def evidenceFromDict (data : Json) : Py CheckpointEvidence := do
  Typed.exactFields .executionCheckpointError "checkpoint evidence"
    ["kind", "locator", "digest", "schema_version"] data
  evidenceOfFields data

def checkpointFromDict (data : Json) : Py ExecutionCheckpoint := do
  Typed.exactFields .executionCheckpointError "execution checkpoint"
    ["portfolio_id", "portfolio_generation", "portfolio_state_digest", "work_id", "role",
      "state_before", "state_after", "action_ref", "source_revision", "observed_at", "summary",
      "evidence", "canonical_refs", "uncertainties", "next_transition_refs", "authority_stop",
      "authority_boundary", "schema_version"] data
  ExecutionCheckpoint.new
    (← Field.get (Typed.nonempty .executionCheckpointError "portfolio_id") data "portfolio_id")
    (← Field.get (Typed.nat .executionCheckpointError "portfolio_generation") data
      "portfolio_generation")
    (← Field.get (Typed.sha256 .executionCheckpointError "portfolio_state_digest") data
      "portfolio_state_digest")
    (← Field.get (Typed.nonempty .executionCheckpointError "work_id") data "work_id")
    (← Field.get (Typed.member .executionCheckpointError "unsupported checkpoint role"
      "invalid execution checkpoint") data "role")
    (← Field.get (Typed.member .executionCheckpointError "unsupported checkpoint state"
      "invalid execution checkpoint") data "state_before")
    (← Field.get (Typed.member .executionCheckpointError "unsupported checkpoint state"
      "invalid execution checkpoint") data "state_after")
    (← Field.get (Typed.nonempty .executionCheckpointError "action_ref") data "action_ref")
    (← Field.get (Typed.nonempty .executionCheckpointError "source_revision") data
      "source_revision")
    (← Field.get (Typed.nonempty .executionCheckpointError "observed_at") data "observed_at")
    (← Field.get (Typed.nonempty .executionCheckpointError "summary") data "summary")
    (← Field.get (Typed.list .executionCheckpointError "evidence must be a list" evidenceFromDict)
      data "evidence")
    (← Field.get (Typed.strings .executionCheckpointError "canonical_refs") data "canonical_refs")
    (← Field.get (Typed.strings .executionCheckpointError "uncertainties") data "uncertainties")
    (← Field.get (Typed.strings .executionCheckpointError "next_transition_refs") data
      "next_transition_refs")
    (← Field.get Typed.bool data "authority_stop")
    (← Field.get (Read.opt Read.string) data "authority_boundary")
    (← Field.get (Typed.string .executionCheckpointError "unsupported execution checkpoint schema")
      data "schema_version")

def serializeCheckpoint (checkpoint : ExecutionCheckpoint) : String :=
  canonicalJson (toPy checkpoint)

def deserializeCheckpoint (payload : String) : Py ExecutionCheckpoint := do
  let data ← Py.ofOption .executionCheckpointError "execution checkpoint is not valid JSON" <|
    Json.loads payload
  checkpointFromDict data

section Digests

variable [Sha256]

def ExecutionCheckpoint.digest (c : ExecutionCheckpoint) : String :=
  sha256Digest (toPy c)

def ExecutionCheckpoint.checkpointId (c : ExecutionCheckpoint) : String :=
  stableId "gec" (toPy c)

end Digests

end GeneralExecution
