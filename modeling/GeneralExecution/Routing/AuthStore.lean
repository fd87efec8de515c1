import GeneralExecution.Objects.Fields
import GeneralExecution.Primitives.History
import GeneralExecution.Primitives.Table
import GeneralExecution.Routing.AuthLease

namespace GeneralExecution

inductive AuthObservationOutcome
  | authSuccess
  | authUncertain
  | authRejected
  | authChallenge
deriving DecidableEq

instance : PyLiteral AuthObservationOutcome where
  spelling
    | .authSuccess   => "AUTH_SUCCESS"
    | .authUncertain => "AUTH_UNCERTAIN"
    | .authRejected  => "AUTH_REJECTED"
    | .authChallenge => "AUTH_CHALLENGE"
  values           := [.authSuccess, .authUncertain, .authRejected, .authChallenge]
  parse_spelling o := by cases o <;> rfl

inductive QueueStatus
  | queued
  | drained
deriving DecidableEq

instance : PyLiteral QueueStatus where
  spelling
    | .queued  => "queued"
    | .drained => "drained"
  values           := [.queued, .drained]
  parse_spelling s := by cases s <;> rfl

-- `_parse_time` in a constructor, which keeps that the time can be read.
def checkAuthTime [IsoFormat] (value field : String) :
    Py (PLift ((authTime value field).isOk = true)) :=
  match authTime value field with
  | .ok _    => .ok ⟨rfl⟩
  | .error e => .error e

theorem checkAuthTime_of [IsoFormat] {value field : String}
    (h : (authTime value field).isOk = true) : checkAuthTime value field = .ok ⟨h⟩ := by
  unfold checkAuthTime
  generalize authTime value field = time at h
  cases time
  case ok    => rfl
  case error => cases h

-- The message of `_digest`.
def authDigestMessage (name value : String) : String :=
  if Text.Blank value then name ++ " must be a non-empty string"
  else sha256Message (name ++ " must be sha256:<64-hex>")
    (name ++ " must contain 64 hexadecimal characters") (Text.stripped value)

structure ProviderAuthObservation [IsoFormat] where
  providerId           : String
  surface              : AuthSurface
  outcome              : AuthObservationOutcome
  observedAt           : String
  evidenceRef          : String
  evidenceDigest       : String
  humanInteraction     : Bool := false
  credentialsPersisted : Bool := false
  cookiesPersisted     : Bool := false
  tokensPersisted      : Bool := false
  authorityCreated     : Bool := false
  schemaVersion        : String := "ge.provider-auth-observation.v1"
  version              : schemaVersion = "ge.provider-auth-observation.v1"
  nonempty :
    ∀ x ∈ [("provider_id", providerId), ("evidence_ref", evidenceRef)], ¬Text.Blank x.2
  observed    : (authTime observedAt "observed_at").isOk = true
  isSha256    : ∀ x ∈ [("evidence_digest", evidenceDigest)], Guard.StrippedSha256 x.2
  noSecrets   : credentialsPersisted = false ∧ cookiesPersisted = false ∧ tokensPersisted = false
  noAuthority : authorityCreated = false

def ProviderAuthObservation.new [IsoFormat] (providerId : String) (surface : AuthSurface)
    (outcome : AuthObservationOutcome) (observedAt evidenceRef evidenceDigest : String)
    (humanInteraction credentialsPersisted cookiesPersisted tokensPersisted authorityCreated : Bool)
    (schemaVersion : String) : Py ProviderAuthObservation := do
  let ⟨h₁⟩ ← Py.check (schemaVersion = "ge.provider-auth-observation.v1") .persistentAuthLeaseError
    "unsupported auth observation schema"
  Py.require (¬Text.Blank providerId) .persistentAuthLeaseError
    "provider_id must be a non-empty string"
  let ⟨h₂⟩ ← checkAuthTime observedAt "observed_at"
  let ⟨h₃⟩ ← Guard.nonempty .persistentAuthLeaseError
    [("provider_id", providerId), ("evidence_ref", evidenceRef)]
  let ⟨h₄⟩ ← authDigest [("evidence_digest", evidenceDigest)]
  let ⟨h₅⟩ ← Py.check
    (credentialsPersisted = false ∧ cookiesPersisted = false ∧ tokensPersisted = false)
    .persistentAuthLeaseError "auth observation cannot persist credentials, cookies, or tokens"
  let ⟨h₆⟩ ← Py.check (authorityCreated = false) .persistentAuthLeaseError
    "auth observation cannot create authority"
  return {
    providerId, surface, outcome, observedAt, evidenceRef, evidenceDigest, humanInteraction,
    credentialsPersisted, cookiesPersisted, tokensPersisted, authorityCreated, schemaVersion,
    version := h₁, nonempty := h₃, observed := h₂, isSha256 := h₄, noSecrets := h₅,
    noAuthority := h₆ }

namespace ProviderAuthLease

def new [IsoFormat] (providerId : String) (surface : AuthSurface) (state : AuthLeaseState)
    (generation : Nat) (lastObservedAt lastEvidenceRef lastEvidenceDigest : String)
    (previousLeaseDigest : Option String)
    (credentialsPersisted cookiesPersisted tokensPersisted authorityCreated : Bool)
    (schemaVersion : String) : Py ProviderAuthLease := do
  let ⟨h₁⟩ ← Py.check (schemaVersion = "ge.provider-auth-lease.v1") .persistentAuthLeaseError
    "unsupported auth lease schema"
  Py.require (¬Text.Blank providerId) .persistentAuthLeaseError
    "provider_id must be a non-empty string"
  let ⟨h₂⟩ ← checkAuthTime lastObservedAt "last_observed_at"
  let ⟨h₃⟩ ← Guard.nonempty .persistentAuthLeaseError
    [("provider_id", providerId), ("last_evidence_ref", lastEvidenceRef)]
  let ⟨h₄⟩ ← authDigest [("last_evidence_digest", lastEvidenceDigest)]
  let ⟨h₅⟩ ← Py.check (generation = 0 ↔ previousLeaseDigest = none) .persistentAuthLeaseError <|
    if generation = 0 then "generation-zero auth lease cannot have predecessor"
    else "nonzero auth lease generation requires predecessor"
  let ⟨h₆⟩ ← Py.check (∀ d ∈ previousLeaseDigest, Guard.StrippedSha256 d)
    .persistentAuthLeaseError <|
    authDigestMessage "previous_lease_digest" (previousLeaseDigest.getD "")
  let ⟨h₇⟩ ← Py.check
    (credentialsPersisted = false ∧ cookiesPersisted = false ∧ tokensPersisted = false)
    .persistentAuthLeaseError "auth lease cannot persist credentials, cookies, or tokens"
  let ⟨h₈⟩ ← Py.check (authorityCreated = false) .persistentAuthLeaseError
    "auth lease cannot create authority"
  return {
    providerId, surface, state, generation, lastObservedAt, lastEvidenceRef, lastEvidenceDigest,
    previousLeaseDigest, credentialsPersisted, cookiesPersisted, tokensPersisted,
    authorityCreated, schemaVersion, version := h₁, nonempty := h₃, observed := h₂,
    isSha256 := h₄, genesis := h₅, previous := h₆,
    noSecrets := h₇, noAuthority := h₈ }

theorem new_eq [IsoFormat] (l : ProviderAuthLease) :
    new l.providerId l.surface l.state l.generation l.lastObservedAt l.lastEvidenceRef
      l.lastEvidenceDigest l.previousLeaseDigest l.credentialsPersisted l.cookiesPersisted
      l.tokensPersisted l.authorityCreated l.schemaVersion = .ok l := by
  have hp : ¬Text.Blank l.providerId := l.nonempty ("provider_id", l.providerId) (by simp)
  simp only [new, Py.check_of l.version, Py.require_of hp, checkAuthTime_of l.observed,
    Guard.nonempty_of l.nonempty, authDigest_of l.isSha256, Py.check_of l.genesis,
    Py.check_of l.previous, Py.check_of l.noSecrets, Py.check_of l.noAuthority, Except.ok_bind]
  rfl

end ProviderAuthLease

-- `_state_for_outcome`
def stateForOutcome : AuthObservationOutcome → AuthLeaseState
  | .authSuccess                  => .authAvailable
  | .authUncertain                => .authSuspect
  | .authRejected | .authChallenge => .humanReauthRequired

def initializeAuthLease [IsoFormat] (observation : ProviderAuthObservation) :
    Py ProviderAuthLease :=
  ProviderAuthLease.new observation.providerId observation.surface
    (stateForOutcome observation.outcome) 0 observation.observedAt observation.evidenceRef
    observation.evidenceDigest none false false false false "ge.provider-auth-lease.v1"

def applyAuthObservation [Sha256] [IsoFormat] (current : ProviderAuthLease)
    (observation : ProviderAuthObservation) : Py ProviderAuthLease := do
  Py.require (observation.providerId = current.providerId) .persistentAuthLeaseError
    "auth observation provider mismatch"
  Py.require (observation.surface = current.surface) .persistentAuthLeaseError
    "auth observation surface mismatch"
  let observed ← authTime observation.observedAt "observed_at"
  let last     ← authTime current.lastObservedAt "last_observed_at"
  Py.require (last ≤ observed) .persistentAuthLeaseError
    "auth observation cannot move backwards in time"
  ProviderAuthLease.new current.providerId current.surface (stateForOutcome observation.outcome)
    (current.generation + 1) observation.observedAt observation.evidenceRef
    observation.evidenceDigest (some current.digest) false false false false
    "ge.provider-auth-lease.v1"

namespace ProviderAuthQueueItem

def new (queueId providerId workId repository authorityRef sourceRevision : String)
    (requestedActions requiredCapabilities : List String) (priority : Nat)
    (credentialsPersisted cookiesPersisted tokensPersisted authorityCreated : Bool)
    (schemaVersion : String) : Py ProviderAuthQueueItem := do
  let ⟨h₁⟩ ← Py.check (schemaVersion = "ge.provider-auth-queue-item.v1") .persistentAuthLeaseError
    "unsupported provider queue item schema"
  let ⟨h₂⟩ ← Guard.nonempty .persistentAuthLeaseError
    [("queue_id", queueId), ("provider_id", providerId), ("work_id", workId),
      ("repository", repository), ("authority_ref", authorityRef),
      ("source_revision", sourceRevision)]
  let ⟨h₃⟩ ← Guard.stripped .persistentAuthLeaseError
    [("requested_actions", false, requestedActions),
      ("required_capabilities", false, requiredCapabilities)]
  let ⟨h₄⟩ ← Py.check
    (credentialsPersisted = false ∧ cookiesPersisted = false ∧ tokensPersisted = false)
    .persistentAuthLeaseError "provider queue cannot contain auth secrets"
  let ⟨h₅⟩ ← Py.check (authorityCreated = false) .persistentAuthLeaseError
    "provider queue item cannot create authority"
  return {
    queueId, providerId, workId, repository, authorityRef, sourceRevision, requestedActions,
    requiredCapabilities, priority, credentialsPersisted, cookiesPersisted, tokensPersisted,
    authorityCreated, schemaVersion, version := h₁, nonempty := h₂, unique := h₃,
    noSecrets := h₄, noAuthority := h₅ }

theorem new_eq (i : ProviderAuthQueueItem) :
    new i.queueId i.providerId i.workId i.repository i.authorityRef i.sourceRevision
      i.requestedActions i.requiredCapabilities i.priority i.credentialsPersisted
      i.cookiesPersisted i.tokensPersisted i.authorityCreated i.schemaVersion = .ok i := by
  simp only [new, Py.check_of i.version, Guard.nonempty_of i.nonempty,
    Guard.stripped_of i.unique, Py.check_of i.noSecrets, Py.check_of i.noAuthority, Except.ok_bind]
  rfl

instance : AsDict ProviderAuthQueueItem where
  asdict i := [
    ("queue_id", toPy i.queueId),
    ("provider_id", toPy i.providerId),
    ("work_id", toPy i.workId),
    ("repository", toPy i.repository),
    ("authority_ref", toPy i.authorityRef),
    ("source_revision", toPy i.sourceRevision),
    ("requested_actions", toPy i.requestedActions),
    ("required_capabilities", toPy i.requiredCapabilities),
    ("priority", toPy i.priority),
    ("credentials_persisted", toPy i.credentialsPersisted),
    ("cookies_persisted", toPy i.cookiesPersisted),
    ("tokens_persisted", toPy i.tokensPersisted),
    ("authority_created", toPy i.authorityCreated),
    ("schema_version", toPy i.schemaVersion)]

end ProviderAuthQueueItem

-- The evidence that a record of this status has.
def DrainEvidence (status : QueueStatus) (evidenceRef evidenceDigest : Option String) : Prop :=
  match status with
  | .queued  => evidenceRef = none ∧ evidenceDigest = none
  | .drained => ¬Text.Blank (evidenceRef.getD "") ∧ Guard.StrippedSha256 (evidenceDigest.getD "")

instance (status : QueueStatus) (evidenceRef evidenceDigest : Option String) :
    Decidable (DrainEvidence status evidenceRef evidenceDigest) := by
  unfold DrainEvidence
  cases status <;> infer_instance

def drainEvidenceMessage (status : QueueStatus) (evidenceRef evidenceDigest : Option String) :
    String :=
  match status with
  | .queued  => "queued record cannot claim drain evidence"
  | .drained =>
    if Text.Blank (evidenceRef.getD "") then "drain_evidence_ref must be a non-empty string"
    else authDigestMessage "drain_evidence_digest" (evidenceDigest.getD "")

structure ProviderAuthQueueRecord where
  item                : ProviderAuthQueueItem
  status              : QueueStatus := .queued
  drainEvidenceRef    : Option String := none
  drainEvidenceDigest : Option String := none
  schemaVersion       : String := "ge.provider-auth-queue-record.v1"
  version             : schemaVersion = "ge.provider-auth-queue-record.v1"
  evidence            : DrainEvidence status drainEvidenceRef drainEvidenceDigest

namespace ProviderAuthQueueRecord

def new (item : ProviderAuthQueueItem) (status : QueueStatus)
    (drainEvidenceRef drainEvidenceDigest : Option String) (schemaVersion : String) :
    Py ProviderAuthQueueRecord := do
  let ⟨h₁⟩ ← Py.check (schemaVersion = "ge.provider-auth-queue-record.v1")
    .persistentAuthLeaseError "unsupported provider queue record schema"
  let ⟨h₂⟩ ← Py.check (DrainEvidence status drainEvidenceRef drainEvidenceDigest)
    .persistentAuthLeaseError <| drainEvidenceMessage status drainEvidenceRef drainEvidenceDigest
  return {
    item, status, drainEvidenceRef, drainEvidenceDigest, schemaVersion, version := h₁,
    evidence := h₂ }

theorem new_eq (r : ProviderAuthQueueRecord) :
    new r.item r.status r.drainEvidenceRef r.drainEvidenceDigest r.schemaVersion = .ok r := by
  simp only [new, Py.check_of r.version, Py.check_of r.evidence, Except.ok_bind]
  rfl

instance : AsDict ProviderAuthQueueRecord where
  asdict r := [
    ("item", toPy r.item),
    ("status", toPy r.status),
    ("drain_evidence_ref", toPy r.drainEvidenceRef),
    ("drain_evidence_digest", toPy r.drainEvidenceDigest),
    ("schema_version", toPy r.schemaVersion)]

end ProviderAuthQueueRecord

-- Reading what is stored.

def authLeaseFromDict [IsoFormat] (data : Json) : Py ProviderAuthLease :=
  Py.wrap [.typeError, .valueError] .persistentAuthLeaseError
    "invalid provider auth lease document" do
      Field.kwargs
        ["provider_id", "surface", "state", "generation", "last_observed_at", "last_evidence_ref",
          "last_evidence_digest"]
        ["previous_lease_digest", "credentials_persisted", "cookies_persisted", "tokens_persisted",
          "authority_created", "schema_version"] data
      ProviderAuthLease.new
        (← Field.get Read.string data "provider_id")
        (← Field.get (Read.literal "unsupported auth lease surface") data "surface")
        (← Field.get (Read.literal "unsupported auth lease state") data "state")
        (← Field.get (Read.nat "generation must be a non-negative integer") data "generation")
        (← Field.get Read.string data "last_observed_at")
        (← Field.get Read.string data "last_evidence_ref")
        (← Field.get Read.string data "last_evidence_digest")
        (← Field.getD (Read.opt Read.string) none data "previous_lease_digest")
        (← Field.getD Typed.bool false data "credentials_persisted")
        (← Field.getD Typed.bool false data "cookies_persisted")
        (← Field.getD Typed.bool false data "tokens_persisted")
        (← Field.getD Typed.bool false data "authority_created")
        (← Field.getD Read.string "ge.provider-auth-lease.v1" data "schema_version")

def queueItemFromDict (data : Json) : Py ProviderAuthQueueItem :=
  Py.wrap [.typeError, .valueError] .persistentAuthLeaseError
    "invalid provider auth queue item" do
      Field.kwargs
        ["queue_id", "provider_id", "work_id", "repository", "authority_ref", "source_revision",
          "requested_actions", "required_capabilities"]
        ["priority", "credentials_persisted", "cookies_persisted", "tokens_persisted",
          "authority_created", "schema_version"] data
      ProviderAuthQueueItem.new
        (← Field.get Read.string data "queue_id")
        (← Field.get Read.string data "provider_id")
        (← Field.get Read.string data "work_id")
        (← Field.get Read.string data "repository")
        (← Field.get Read.string data "authority_ref")
        (← Field.get Read.string data "source_revision")
        (← Field.get (Read.list Read.string) data "requested_actions")
        (← Field.get (Read.list Read.string) data "required_capabilities")
        (← Field.getD (Read.nat "priority must be a non-negative integer") 100 data "priority")
        (← Field.getD Typed.bool false data "credentials_persisted")
        (← Field.getD Typed.bool false data "cookies_persisted")
        (← Field.getD Typed.bool false data "tokens_persisted")
        (← Field.getD Typed.bool false data "authority_created")
        (← Field.getD Read.string "ge.provider-auth-queue-item.v1" data "schema_version")

-- `ProviderAuthQueueRecord(**payload)`, of which the item has been read.
def queueRecordOfFields (item : ProviderAuthQueueItem) (data : Json) :
    Py ProviderAuthQueueRecord := do
  Field.kwargs ["item"]
    ["status", "drain_evidence_ref", "drain_evidence_digest", "schema_version"] data
  ProviderAuthQueueRecord.new item
    (← Field.getD (Read.literal "unsupported provider queue status") .queued data "status")
    (← Field.getD (Read.opt Read.string) none data "drain_evidence_ref")
    (← Field.getD (Read.opt Read.string) none data "drain_evidence_digest")
    (← Field.getD Read.string "ge.provider-auth-queue-record.v1" data "schema_version")

def queueRecordFromDict (data : Json) : Py ProviderAuthQueueRecord := do
  let itemData ← Py.ofOption .persistentAuthLeaseError "provider queue record requires item" <|
    (data.get? "item").filter Json.isObj
  let item ← queueItemFromDict itemData
  Py.wrap [.typeError, .valueError] .persistentAuthLeaseError
    "invalid provider auth queue record" <| queueRecordOfFields item data

structure AuthLeaseRow where
  providerId  : String
  surface     : String
  generation  : Nat
  leaseDigest : String
  leaseJson   : String
deriving DecidableEq

-- `PRIMARY KEY(provider_id, surface)`
def AuthLeaseRow.primaryKey (row : AuthLeaseRow) : String × String :=
  (row.providerId, row.surface)

structure AuthQueueRow where
  queueId      : String
  providerId   : String
  status       : String
  recordDigest : String
  recordJson   : String
deriving DecidableEq

-- The tables `provider_auth_leases` and `provider_auth_queue`.
structure ProviderAuthState where
  leases : Table AuthLeaseRow (String × String) [AuthLeaseRow.primaryKey]
  queue  : Table AuthQueueRow String [AuthQueueRow.queueId]
deriving DecidableEq

abbrev AuthTransaction (α : Type) :=
  Statements ProviderAuthState PyError α

abbrev AuthProgram (α : Type) :=
  Program ProviderAuthState PyError α

namespace ProviderAuthState

def empty : ProviderAuthState where
  leases := .empty
  queue  := .empty

def leaseRow? (s : ProviderAuthState) (providerId surface : String) : Option AuthLeaseRow :=
  s.leases.select AuthLeaseRow.primaryKey (providerId, surface)

def queueRow? (s : ProviderAuthState) (queueId : String) : Option AuthQueueRow :=
  s.queue.select AuthQueueRow.queueId queueId

-- `SELECT … FROM provider_auth_leases`, of one provider or of all.
def leaseRows (providerId : Option String) (s : ProviderAuthState) : List AuthLeaseRow :=
  match providerId with
  | none    => s.leases.rows.mergeSort fun a b => toLex a.primaryKey ≤ toLex b.primaryKey
  | some id => (s.leases.rows.filter (·.providerId = id)).mergeSort fun a b => a.surface ≤ b.surface

-- `SELECT … FROM provider_auth_queue WHERE provider_id = ? AND status = 'queued'`
def queuedRows (providerId : String) (s : ProviderAuthState) : List AuthQueueRow :=
  s.queue.rows.filter fun row => row.providerId = providerId ∧ row.status = "queued"

end ProviderAuthState

variable [Sha256]

def ProviderAuthQueueItem.digest (i : ProviderAuthQueueItem) : String :=
  sha256Digest (toPy i)

def ProviderAuthQueueRecord.digest (r : ProviderAuthQueueRecord) : String :=
  sha256Digest (toPy r)

-- The row that a record is stored in.
def authQueueRow (record : ProviderAuthQueueRecord) : AuthQueueRow where
  queueId      := record.item.queueId
  providerId   := record.item.providerId
  status       := PyLiteral.spelling record.status
  recordDigest := record.digest
  recordJson   := canonicalJson (toPy record)

-- `_decode_queue`
def decodeQueue (row : AuthQueueRow) : Py ProviderAuthQueueRecord := do
  let data ← Py.ofOption .persistentAuthLeaseError "stored provider queue record is invalid JSON" <|
    Json.loads row.recordJson
  let record ← queueRecordFromDict data
  Py.require
    (record.item.queueId = row.queueId ∧ record.item.providerId = row.providerId ∧
      PyLiteral.spelling record.status = row.status ∧ record.digest = row.recordDigest)
    .persistentAuthLeaseError "stored provider queue metadata mismatch"
  return record

variable [IsoFormat]

-- The row that a lease is stored in.
def authLeaseRow (lease : ProviderAuthLease) : AuthLeaseRow where
  providerId  := lease.providerId
  surface     := PyLiteral.spelling lease.surface
  generation  := lease.generation
  leaseDigest := lease.digest
  leaseJson   := canonicalJson (toPy lease)

-- `_decode_lease`
def decodeLease (row : AuthLeaseRow) : Py ProviderAuthLease := do
  let data ← Py.ofOption .persistentAuthLeaseError "stored auth lease is not valid JSON" <|
    Json.loads row.leaseJson
  let lease ← authLeaseFromDict data
  Py.require
    (lease.providerId = row.providerId ∧ PyLiteral.spelling lease.surface = row.surface ∧
      lease.generation = row.generation ∧ lease.digest = row.leaseDigest)
    .persistentAuthLeaseError "stored auth lease metadata mismatch"
  return lease

namespace SqliteProviderAuthStateStore

-- The rows that the update of an observation applies to.
def observed (current : ProviderAuthLease) (row : AuthLeaseRow) : Bool :=
  row.providerId = current.providerId ∧ row.surface = PyLiteral.spelling current.surface ∧
    row.generation = current.generation ∧ row.leaseDigest = current.digest

def observedRow (next : ProviderAuthLease) (row : AuthLeaseRow) : AuthLeaseRow :=
  { row with
    generation  := next.generation
    leaseDigest := next.digest
    leaseJson   := canonicalJson (toPy next) }

theorem observedRow_unique (next : ProviderAuthLease) :
    ∀ c ∈ [AuthLeaseRow.primaryKey], ∀ row, c (observedRow next row) = c row := by
  simp [observedRow, AuthLeaseRow.primaryKey]

def observeStatements (observation : ProviderAuthObservation) :
    AuthTransaction ProviderAuthLease := do
  let s ← get
  match s.leaseRow? observation.providerId (PyLiteral.spelling observation.surface) with
  | none =>
    let nextLease ← (initializeAuthLease observation : Py _)
    let leases ← Py.ofOption .integrityError "UNIQUE constraint failed" <|
      s.leases.insert? (authLeaseRow nextLease)
    set { s with leases := leases }
    return nextLease
  | some row =>
    let current ← (decodeLease row : Py _)
    let nextLease ← (applyAuthObservation current observation : Py _)
    set { s with
      leases := s.leases.update (observed current) (observedRow nextLease)
        (observedRow_unique nextLease) }
    Py.require (s.leases.count (observed current) = 1) .persistentAuthLeaseError
      "provider auth lease compare-and-swap conflict"
    return nextLease

def observe (observation : ProviderAuthObservation) : AuthProgram ProviderAuthLease :=
  .transaction (observeStatements observation)

def loadLeases (providerId : Option String) : AuthProgram (List ProviderAuthLease) := do
  let providerId ← match providerId with
    | none    => pure none
    | some id => some <$> (authNonempty id "provider_id" : Py _)
  let rows ← Program.query (ProviderAuthState.leaseRows providerId)
  (rows.mapM decodeLease : Py _)

def enqueueStatements (item : ProviderAuthQueueItem) : AuthTransaction ProviderAuthQueueRecord := do
  let record ← (ProviderAuthQueueRecord.new item .queued none none
    "ge.provider-auth-queue-record.v1" : Py _)
  let s ← get
  match s.queueRow? item.queueId with
  | some row =>
    let existing ← (decodeQueue row : Py _)
    Py.require (existing.item = item) .persistentAuthLeaseError
      "queue_id already bound to a different provider work item"
    return existing
  | none =>
    let queue ← Py.ofOption .integrityError "UNIQUE constraint failed" <|
      s.queue.insert? (authQueueRow record)
    set { s with queue := queue }
    return record

def enqueue (item : ProviderAuthQueueItem) : AuthProgram ProviderAuthQueueRecord :=
  .transaction (enqueueStatements item)

def queued (providerId : String) : AuthProgram (List ProviderAuthQueueItem) := do
  let providerId ← (authNonempty providerId "provider_id" : Py _)
  let rows ← Program.query (ProviderAuthState.queuedRows providerId)
  let records ← (rows.mapM decodeQueue : Py _)
  return (records.mergeSort fun a b => a.item.key ≤ b.item.key).map ProviderAuthQueueRecord.item

-- The rows that the update of a drain applies to.
def drainable (queueId : String) (current : ProviderAuthQueueRecord) (row : AuthQueueRow) : Bool :=
  row.queueId = queueId ∧ row.status = "queued" ∧ row.recordDigest = current.digest

def drainedRow (next : ProviderAuthQueueRecord) (row : AuthQueueRow) : AuthQueueRow :=
  { row with
    status       := PyLiteral.spelling next.status
    recordDigest := next.digest
    recordJson   := canonicalJson (toPy next) }

omit [IsoFormat] in
theorem drainedRow_unique (next : ProviderAuthQueueRecord) :
    ∀ c ∈ [AuthQueueRow.queueId], ∀ row, c (drainedRow next row) = c row := by
  simp [drainedRow]

def markDrainedStatements (queueId expectedItemDigest evidenceRef evidenceDigest : String) :
    AuthTransaction ProviderAuthQueueRecord := do
  let s ← get
  let row ← Py.ofOption .persistentAuthLeaseError "provider queue item does not exist" <|
    s.queueRow? queueId
  let current ← (decodeQueue row : Py _)
  Py.require (current.item.digest = expectedItemDigest) .persistentAuthLeaseError
    "provider queue item digest mismatch"
  if current.status = .drained then return current
  else do
    let nextRecord ← (ProviderAuthQueueRecord.new current.item .drained (some evidenceRef)
      (some evidenceDigest) "ge.provider-auth-queue-record.v1" : Py _)
    set { s with
      queue := s.queue.update (drainable queueId current) (drainedRow nextRecord)
        (drainedRow_unique nextRecord) }
    Py.require (s.queue.count (drainable queueId current) = 1) .persistentAuthLeaseError
      "provider queue compare-and-swap conflict"
    return nextRecord

def markDrained (queueId expectedItemDigest evidenceRef evidenceDigest : String) :
    AuthProgram ProviderAuthQueueRecord := do
  let queueId ← (authNonempty queueId "queue_id" : Py _)
  let _ ← (authDigest [("expected_item_digest", expectedItemDigest)] : Py _)
  let _ ← (authNonempty evidenceRef "evidence_ref" : Py _)
  let _ ← (authDigest [("evidence_digest", evidenceDigest)] : Py _)
  .transaction (markDrainedStatements queueId expectedItemDigest evidenceRef evidenceDigest)

def planDrain (providerId : String) (maxItems : Int) (now : Option String)
    (evidenceStaleAfterSeconds : Option Int) : AuthProgram ProviderDrainPlan := do
  let leases ← loadLeases (some providerId)
  let items ← queued providerId
  (planProviderDrain providerId leases items maxItems now evidenceStaleAfterSeconds : Py _)

end SqliteProviderAuthStateStore

end GeneralExecution
