import GeneralExecution.Objects.Time
import GeneralExecution.Routing.Contracts

namespace GeneralExecution

inductive AuthSurface
  | connectorApi
  | cloudBrowser
deriving DecidableEq

instance : PyLiteral AuthSurface where
  spelling
    | .connectorApi => "connector_api"
    | .cloudBrowser => "cloud_browser"
  values           := [.connectorApi, .cloudBrowser]
  parse_spelling s := by cases s <;> rfl

-- `ranked_surface`
def AuthSurface.rank : AuthSurface → Nat
  | .connectorApi => 0
  | .cloudBrowser => 1

inductive AuthLeaseState
  | authAvailable
  | authSuspect
  | humanReauthRequired
deriving DecidableEq

instance : PyLiteral AuthLeaseState where
  spelling
    | .authAvailable       => "AUTH_AVAILABLE"
    | .authSuspect         => "AUTH_SUSPECT"
    | .humanReauthRequired => "HUMAN_REAUTH_REQUIRED"
  values           := [.authAvailable, .authSuspect, .humanReauthRequired]
  parse_spelling s := by cases s <;> rfl

inductive AuthPathDisposition
  | useAuth
  | probeAuth
  | humanReauthRequired
  | conditionWait
deriving DecidableEq

instance : PyLiteral AuthPathDisposition where
  spelling
    | .useAuth             => "USE_AUTH"
    | .probeAuth           => "PROBE_AUTH"
    | .humanReauthRequired => "HUMAN_REAUTH_REQUIRED"
    | .conditionWait       => "CONDITION_WAIT"
  values           := [.useAuth, .probeAuth, .humanReauthRequired, .conditionWait]
  parse_spelling d := by cases d <;> rfl

-- `_digest`
def authDigest (xs : List (String × String)) : Py (PLift (∀ x ∈ xs, Guard.StrippedSha256 x.2)) :=
  Guard.each .persistentAuthLeaseError Guard.StrippedSha256
    (fun name value =>
      if Text.Blank value then name ++ " must be a non-empty string"
      else sha256Message (name ++ " must be sha256:<64-hex>")
        (name ++ " must contain 64 hexadecimal characters") (Text.stripped value)) xs

theorem authDigest_of {xs : List (String × String)} (h : ∀ x ∈ xs, Guard.StrippedSha256 x.2) :
    authDigest xs = .ok ⟨h⟩ :=
  Guard.each_of h

-- `_nonempty`, which returns the stripped text.
def authNonempty (value field : String) : Py String := do
  Py.require (¬Text.Blank value) .persistentAuthLeaseError (field ++ " must be a non-empty string")
  return Text.stripped value

-- The last microsecond of the year 9999, from the first one of the year 1.
def Datetime.maxInstant : Int :=
  315537897599999999

-- `_parse_time`: the point in time, in microseconds.
def authTime [IsoFormat] (value field : String) : Py Int := do
  let raw ← authNonempty value field
  let parsed ← Py.ofOption .persistentAuthLeaseError (field ++ " must be ISO-8601")
    (IsoFormat.fromisoformat? (replaceZulu raw.toList))
  Py.require parsed.Aware .persistentAuthLeaseError (field ++ " must include timezone")
  -- `parsed.astimezone(timezone.utc)`
  Py.require (0 ≤ parsed.instant ∧ parsed.instant ≤ Datetime.maxInstant) .overflowError
    "date value out of range"
  return parsed.instant

-- `timedelta.total_seconds() >= seconds`: the seconds are rounded to 53 binary digits, ties to even.
def reachesSeconds (microseconds seconds : Nat) : Bool :=
  let scale   := 2 ^ (52 - Nat.log2 (microseconds / 1000000))
  let scaled  := microseconds * scale / 1000000
  let rest    := microseconds * scale % 1000000
  let rounded := if 1000000 < 2 * rest ∨ (2 * rest = 1000000 ∧ scaled % 2 = 1) then scaled + 1
    else scaled
  seconds * scale ≤ rounded

@[ext]
structure ProviderAuthLease [IsoFormat] where
  providerId           : String
  surface              : AuthSurface
  state                : AuthLeaseState
  generation           : Nat
  lastObservedAt       : String
  lastEvidenceRef      : String
  lastEvidenceDigest   : String
  previousLeaseDigest  : Option String := none
  credentialsPersisted : Bool := false
  cookiesPersisted     : Bool := false
  tokensPersisted      : Bool := false
  authorityCreated     : Bool := false
  schemaVersion        : String := "ge.provider-auth-lease.v1"
  version              : schemaVersion = "ge.provider-auth-lease.v1"
  nonempty :
    ∀ x ∈ [("provider_id", providerId), ("last_evidence_ref", lastEvidenceRef)], ¬Text.Blank x.2
  observed    : (authTime lastObservedAt "last_observed_at").isOk = true
  isSha256    : ∀ x ∈ [("last_evidence_digest", lastEvidenceDigest)], Guard.StrippedSha256 x.2
  genesis     : generation = 0 ↔ previousLeaseDigest = none
  previous    : ∀ d ∈ previousLeaseDigest, Guard.StrippedSha256 d
  noSecrets   : credentialsPersisted = false ∧ cookiesPersisted = false ∧ tokensPersisted = false
  noAuthority : authorityCreated = false

instance [IsoFormat] : AsDict ProviderAuthLease where
  asdict l := [
    ("provider_id", toPy l.providerId),
    ("surface", toPy l.surface),
    ("state", toPy l.state),
    ("generation", toPy l.generation),
    ("last_observed_at", toPy l.lastObservedAt),
    ("last_evidence_ref", toPy l.lastEvidenceRef),
    ("last_evidence_digest", toPy l.lastEvidenceDigest),
    ("previous_lease_digest", toPy l.previousLeaseDigest),
    ("credentials_persisted", toPy l.credentialsPersisted),
    ("cookies_persisted", toPy l.cookiesPersisted),
    ("tokens_persisted", toPy l.tokensPersisted),
    ("authority_created", toPy l.authorityCreated),
    ("schema_version", toPy l.schemaVersion)]

def effectiveAuthState [IsoFormat] (lease : ProviderAuthLease) (now : Option String)
    (evidenceStaleAfterSeconds : Option Int) : Py AuthLeaseState :=
  match evidenceStaleAfterSeconds with
  | none         => return lease.state
  | some seconds =>
    if lease.state ≠ .authAvailable then return lease.state
    else do
      Py.require (0 ≤ seconds) .persistentAuthLeaseError
        "evidence_stale_after_seconds must be a non-negative integer"
      let now ← Py.ofOption .persistentAuthLeaseError
        "now is required when freshness threshold is used" now
      let current  ← authTime now "now"
      let observed ← authTime lease.lastObservedAt "last_observed_at"
      let age := current - observed
      Py.require (0 ≤ age) .persistentAuthLeaseError "now cannot precede auth observation"
      return if reachesSeconds age.toNat seconds.toNat then .authSuspect else .authAvailable

-- The human action of a record that may require one.
def checkHumanAction (required : Bool) (actionRef : Option String) (message : String) : Py Unit :=
  if required then do
    let _ ← Guard.nonempty .persistentAuthLeaseError [("human_action_ref", actionRef.getD "")]
  else
    Py.require (actionRef = none) .persistentAuthLeaseError message

-- The lease that a decision binds.
def checkSelectedLease (surface : Option AuthSurface) (leaseDigest : Option String) : Py Unit :=
  match surface, leaseDigest with
  | none, none          => return
  | none, some _        =>
    Py.raise .persistentAuthLeaseError "decision without selected surface cannot bind a lease"
  | some _, none        =>
    Py.raise .persistentAuthLeaseError "selected auth surface requires lease digest"
  | some _, some digest => do
    let _ ← authDigest [("selected_lease_digest", digest)]

@[ext]
structure ProviderAuthPathDecision where
  providerId               : String
  disposition              : AuthPathDisposition
  selectedSurface          : Option AuthSurface
  selectedLeaseDigest      : Option String
  reasons                  : List String
  humanInteractionRequired : Bool
  humanActionRef           : Option String := none
  credentialsPersisted     : Bool := false
  cookiesPersisted         : Bool := false
  tokensPersisted          : Bool := false
  authorityCreated         : Bool := false
  executionTriggered       : Bool := false
  protocolVersion          : String := "0.1.0"
  schemaVersion            : String := "ge.provider-auth-path-decision.v1"
  decisionDigest           : String := ""
deriving DecidableEq

namespace ProviderAuthPathDecision

-- `__post_init__`
def checked (d : ProviderAuthPathDecision) : Py ProviderAuthPathDecision := do
  let _ ← Guard.nonempty .persistentAuthLeaseError [("provider_id", d.providerId)]
  checkSelectedLease d.selectedSurface d.selectedLeaseDigest
  checkHumanAction d.humanInteractionRequired d.humanActionRef
    "non-human auth path cannot carry human_action_ref"
  Py.require
    (d.credentialsPersisted = false ∧ d.cookiesPersisted = false ∧ d.tokensPersisted = false)
    .persistentAuthLeaseError "auth path cannot persist authentication secrets"
  Py.require (d.authorityCreated = false) .persistentAuthLeaseError
    "auth path cannot create authority"
  Py.require (d.executionTriggered = false) .persistentAuthLeaseError
    "auth path decision cannot claim execution"
  return d

-- `_auth_decision_payload`
def payload (d : ProviderAuthPathDecision) : PyValue :=
  .dict [
    ("provider_id", toPy d.providerId),
    ("disposition", toPy d.disposition),
    ("selected_surface", toPy d.selectedSurface),
    ("selected_lease_digest", toPy d.selectedLeaseDigest),
    ("reasons", toPy d.reasons),
    ("human_interaction_required", toPy d.humanInteractionRequired),
    ("human_action_ref", toPy d.humanActionRef),
    ("credentials_persisted", toPy d.credentialsPersisted),
    ("cookies_persisted", toPy d.cookiesPersisted),
    ("tokens_persisted", toPy d.tokensPersisted),
    ("authority_created", toPy d.authorityCreated),
    ("execution_triggered", toPy d.executionTriggered),
    ("protocol_version", toPy d.protocolVersion),
    ("schema_version", toPy d.schemaVersion)]

end ProviderAuthPathDecision

@[ext]
structure ProviderAuthQueueItem where
  queueId              : String
  providerId           : String
  workId               : String
  repository           : String
  authorityRef         : String
  sourceRevision       : String
  requestedActions     : List String
  requiredCapabilities : List String
  priority             : Nat := 100
  credentialsPersisted : Bool := false
  cookiesPersisted     : Bool := false
  tokensPersisted      : Bool := false
  authorityCreated     : Bool := false
  schemaVersion        : String := "ge.provider-auth-queue-item.v1"
  version              : schemaVersion = "ge.provider-auth-queue-item.v1"
  nonempty :
    ∀ x ∈ [("queue_id", queueId), ("provider_id", providerId), ("work_id", workId),
      ("repository", repository), ("authority_ref", authorityRef),
      ("source_revision", sourceRevision)], ¬Text.Blank x.2
  unique :
    ∀ x ∈ [("requested_actions", false, requestedActions),
      ("required_capabilities", false, requiredCapabilities)], Guard.Stripped x.2
  noSecrets   : credentialsPersisted = false ∧ cookiesPersisted = false ∧ tokensPersisted = false
  noAuthority : authorityCreated = false

instance : DecidableEq ProviderAuthQueueItem :=
  fun _ _ => decidable_of_iff _ ProviderAuthQueueItem.ext_iff.symm

@[ext]
structure ProviderDrainPlan where
  providerId               : String
  authDecisionDigest       : String
  disposition              : AuthPathDisposition
  queueDepth               : Nat
  selectedQueueIds         : List String
  humanInteractionRequired : Bool
  humanActionRef           : Option String := none
  credentialsPersisted     : Bool := false
  cookiesPersisted         : Bool := false
  tokensPersisted          : Bool := false
  authorityCreated         : Bool := false
  executionTriggered       : Bool := false
  protocolVersion          : String := "0.1.0"
  schemaVersion            : String := "ge.provider-auth-drain-plan.v1"
  planDigest               : String := ""
deriving DecidableEq

namespace ProviderDrainPlan

-- `__post_init__`
def checked (p : ProviderDrainPlan) : Py ProviderDrainPlan := do
  let _ ← Guard.nonempty .persistentAuthLeaseError [("provider_id", p.providerId)]
  let _ ← authDigest [("auth_decision_digest", p.authDecisionDigest)]
  let _ ← Guard.stripped .persistentAuthLeaseError
    [("selected_queue_ids", true, p.selectedQueueIds)]
  Py.require (p.selectedQueueIds.length ≤ p.queueDepth) .persistentAuthLeaseError
    "drain plan cannot select more than queue depth"
  Py.require (p.disposition = .useAuth ∨ p.selectedQueueIds = []) .persistentAuthLeaseError
    "only USE_AUTH drain plans may select queued work"
  checkHumanAction p.humanInteractionRequired p.humanActionRef
    "non-human drain plan cannot carry human_action_ref"
  Py.require
    (p.credentialsPersisted = false ∧ p.cookiesPersisted = false ∧ p.tokensPersisted = false)
    .persistentAuthLeaseError "drain plan cannot persist auth secrets"
  Py.require (p.authorityCreated = false) .persistentAuthLeaseError
    "drain plan cannot create authority"
  Py.require (p.executionTriggered = false) .persistentAuthLeaseError
    "drain plan cannot claim execution"
  return p

-- `_drain_payload`
def payload (p : ProviderDrainPlan) : PyValue :=
  .dict [
    ("provider_id", toPy p.providerId),
    ("auth_decision_digest", toPy p.authDecisionDigest),
    ("disposition", toPy p.disposition),
    ("queue_depth", toPy p.queueDepth),
    ("selected_queue_ids", toPy p.selectedQueueIds),
    ("human_interaction_required", toPy p.humanInteractionRequired),
    ("human_action_ref", toPy p.humanActionRef),
    ("credentials_persisted", toPy p.credentialsPersisted),
    ("cookies_persisted", toPy p.cookiesPersisted),
    ("tokens_persisted", toPy p.tokensPersisted),
    ("authority_created", toPy p.authorityCreated),
    ("execution_triggered", toPy p.executionTriggered),
    ("protocol_version", toPy p.protocolVersion),
    ("schema_version", toPy p.schemaVersion)]

end ProviderDrainPlan

variable [Sha256] [IsoFormat]

def ProviderAuthLease.digest (l : ProviderAuthLease) : String :=
  sha256Digest (toPy l)

-- `_finalize_auth_path`
def finalizeAuthPath (providerId : String) (disposition : AuthPathDisposition)
    (reasons : List String) (lease : Option ProviderAuthLease) : Py ProviderAuthPathDecision := do
  let human := decide (disposition = .humanReauthRequired)
  let provisional ← ProviderAuthPathDecision.checked {
    providerId, disposition, reasons,
    selectedSurface          := lease.map ProviderAuthLease.surface,
    selectedLeaseDigest      := lease.map ProviderAuthLease.digest,
    humanInteractionRequired := human,
    humanActionRef           :=
      if human then some ("auth://" ++ providerId ++ "/reauthenticate") else none }
  ProviderAuthPathDecision.checked
    { provisional with decisionDigest := sha256Digest provisional.payload }

-- The key by which leases are sorted.
def ProviderAuthLease.key (l : ProviderAuthLease) : ℕ ×ₗ String :=
  toLex (l.surface.rank, l.providerId)

-- The leases of a state, the preferred surface first.
def leasesIn (state : AuthLeaseState) (states : List (ProviderAuthLease × AuthLeaseState)) :
    List ProviderAuthLease :=
  ((states.filter fun x => x.2 = state).map Prod.fst).mergeSort fun a b => a.key ≤ b.key

def withState (now : Option String) (evidenceStaleAfterSeconds : Option Int)
    (lease : ProviderAuthLease) : Py (ProviderAuthLease × AuthLeaseState) := do
  let state ← effectiveAuthState lease now evidenceStaleAfterSeconds
  return (lease, state)

-- The choice among the leases of a provider that has some.
def authPathAmong (providerId : String) (available suspect : List ProviderAuthLease)
    (rejected : Bool) : Py ProviderAuthPathDecision :=
  match available, suspect with
  | selected :: _, _  =>
    finalizeAuthPath providerId .useAuth
      ["provider_auth_evidence_available",
        if selected.surface = .connectorApi then "connector_first"
        else "reuse_existing_browser_session"]
      (some selected)
  | [], selected :: _ =>
    finalizeAuthPath providerId .probeAuth
      ["authentication_evidence_stale_or_uncertain", "probe_before_human_reauthentication"]
      (some selected)
  | [], []            =>
    if rejected then
      finalizeAuthPath providerId .humanReauthRequired
        ["provider_rejected_or_challenged_authentication"] none
    else
      finalizeAuthPath providerId .conditionWait ["provider_auth_state_unresolved"] none

-- `[lease for lease in leases if lease.provider_id == provider_id]`
def leasesOf (providerId : String) (leases : List ProviderAuthLease) : List ProviderAuthLease :=
  leases.filter fun lease => lease.providerId = providerId

def selectProviderAuthPath (providerId : String) (leases : List ProviderAuthLease)
    (now : Option String) (evidenceStaleAfterSeconds : Option Int) :
    Py ProviderAuthPathDecision := do
  let providerId ← authNonempty providerId "provider_id"
  let relevant := leasesOf providerId leases
  if relevant = [] then
    finalizeAuthPath providerId .humanReauthRequired
      ["no_authenticated_provider_capability_evidence"] none
  else
    -- The states are computed for the available leases and once more for the suspect ones.
    let states ← relevant.mapM (withState now evidenceStaleAfterSeconds)
    authPathAmong providerId (leasesIn .authAvailable states) (leasesIn .authSuspect states)
      (relevant.any fun lease => lease.state = .humanReauthRequired)

-- The key by which items are sorted.
def ProviderAuthQueueItem.key (item : ProviderAuthQueueItem) : ℕ ×ₗ String :=
  toLex (item.priority, item.queueId)

-- The items of a provider in the order in which they are drained.
def queueOf (providerId : String) (items : List ProviderAuthQueueItem) :
    List ProviderAuthQueueItem :=
  (items.filter fun item => item.providerId = providerId).mergeSort fun a b => a.key ≤ b.key

def planProviderDrain (providerId : String) (leases : List ProviderAuthLease)
    (queuedItems : List ProviderAuthQueueItem) (maxItems : Int) (now : Option String)
    (evidenceStaleAfterSeconds : Option Int) : Py ProviderDrainPlan := do
  Py.require (0 ≤ maxItems) .persistentAuthLeaseError "max_items must be a non-negative integer"
  let auth ← selectProviderAuthPath providerId leases now evidenceStaleAfterSeconds
  let relevant := queueOf providerId queuedItems
  let selected :=
    if auth.disposition = .useAuth then
      (relevant.take maxItems.toNat).map ProviderAuthQueueItem.queueId
    else []
  let provisional ← ProviderDrainPlan.checked {
    providerId,
    authDecisionDigest       := auth.decisionDigest,
    disposition              := auth.disposition,
    queueDepth               := relevant.length,
    selectedQueueIds         := selected,
    humanInteractionRequired := auth.humanInteractionRequired,
    humanActionRef           := auth.humanActionRef }
  ProviderDrainPlan.checked { provisional with planDigest := sha256Digest provisional.payload }

end GeneralExecution
