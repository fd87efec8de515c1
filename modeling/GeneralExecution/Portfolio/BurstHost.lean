import GeneralExecution.Portfolio.AutonomousBurst
import GeneralExecution.Portfolio.Runtime

namespace Json

-- The members of a dictionary that is made of these: a name keeps its first place and its last value.
def dictItems (members : List (String × Json)) : List (String × Json) :=
  (members.map Prod.fst).reverse.dedup.reverse.filterMap fun k => (lookup k members).map (k, ·)

-- What `json.loads` makes of the objects of a text, at any depth.
mutual

def asDicts : Json → Json
  | obj members => obj (dictItems (asDictsMembers members))
  | arr xs      => arr (asDictsAll xs)
  | j           => j

def asDictsAll : List Json → List Json
  | []      => []
  | x :: xs => asDicts x :: asDictsAll xs

def asDictsMembers : List (String × Json) → List (String × Json)
  | []                => []
  | (k, j) :: members => (k, asDicts j) :: asDictsMembers members

end

end Json

namespace GeneralExecution

-- `PurePosixPath`
namespace PosixPath

-- The names between the slashes. Empty ones and dots are left out.
def names (path : String) : List String :=
  ((path.toList.splitOn '/').map String.ofList).filter fun name => name ≠ "" ∧ name ≠ "."

def isAbsolute (path : String) : Bool :=
  path.toList.head? = some '/'

-- Two slashes are kept, three or more are one.
def root (path : String) : String :=
  if "//".toList <+: path.toList ∧ ¬"///".toList <+: path.toList then "//" else "/"

def parts (path : String) : List String :=
  if isAbsolute path then root path :: names path else names path

def name (path : String) : String :=
  (names path).getLast?.getD ""

-- What follows the last dot of the name, with the dot, unless the name begins or ends there.
def suffix (path : String) : String :=
  let reversed := (name path).toList.reverse
  let rest     := reversed.dropWhile (· ≠ '.')
  let final    := reversed.takeWhile (· ≠ '.')
  if final = [] ∨ rest.length ≤ 1 then "" else .ofList ('.' :: final.reverse)

end PosixPath

-- `_FORBIDDEN_KEYS`
def forbiddenKeys : List String :=
  ["secret", "password", "token", "credential", "private_key", "private-key", "api_key", "api-key"]

def CredentialShaped (key : String) : Prop :=
  ∃ term ∈ forbiddenKeys, term.toList <:+: Text.lower key.toList

instance : DecidablePred CredentialShaped :=
  fun _ => inferInstanceAs <| Decidable (∃ _ ∈ _, _)

-- `_reject_credential_shaped`
mutual

def rejectCredentialShaped (path : String) : Json → Py Unit
  | .obj members => rejectMembers path members
  | .arr xs      => rejectElements path 0 xs
  | _            => return

def rejectMembers (path : String) : List (String × Json) → Py Unit
  | []                      => return
  | (key, child) :: members => do
    Py.require (¬CredentialShaped key) .persistentBurstHostError
      ("credential-shaped key forbidden: " ++ path ++ "." ++ key)
    rejectCredentialShaped (path ++ "." ++ key) child
    rejectMembers path members

def rejectElements (path : String) (index : Nat) : List Json → Py Unit
  | []          => return
  | child :: xs => do
    rejectCredentialShaped (path ++ "[" ++ toString index ++ "]") child
    rejectElements path (index + 1) xs

end

-- `_digest`
def checkBurstDigests (xs : List (String × String)) : Py (PLift (∀ x ∈ xs, IsLowerSha256 x.2)) :=
  Guard.each .persistentBurstHostError IsLowerSha256
    (fun name _ => name ++ " must be sha256:<64-hex>") xs

structure PersistentBurstEventRef where
  path          : String
  contentDigest : String
  schemaVersion : String := "ge.persistent-burst-event-ref.v1"
  version       : schemaVersion = "ge.persistent-burst-event-ref.v1"
  nonempty      : ∀ x ∈ [("path", path)], ¬Text.Blank x.2
  isSha256      : ∀ x ∈ [("content_digest", contentDigest)], IsLowerSha256 x.2
  relative      : PosixPath.isAbsolute path = false ∧ ".." ∉ PosixPath.parts path
  located       :
    (PosixPath.parts path).length = 2 ∧ (PosixPath.parts path).head? = some "burst-events"
  json          : PosixPath.suffix path = ".json"

namespace PersistentBurstEventRef

def new (path contentDigest schemaVersion : String) : Py PersistentBurstEventRef := do
  let ⟨h₁⟩ ← Py.check (schemaVersion = "ge.persistent-burst-event-ref.v1")
    .persistentBurstHostError "unsupported burst event-ref schema"
  let ⟨h₂⟩ ← Guard.nonempty .persistentBurstHostError [("path", path)]
  let ⟨h₃⟩ ← checkBurstDigests [("content_digest", contentDigest)]
  let ⟨h₄⟩ ← Py.check (PosixPath.isAbsolute path = false ∧ ".." ∉ PosixPath.parts path)
    .persistentBurstHostError "burst event path must be safe and relative"
  let ⟨h₅⟩ ← Py.check
    ((PosixPath.parts path).length = 2 ∧ (PosixPath.parts path).head? = some "burst-events")
    .persistentBurstHostError "burst event path must be burst-events/<event-id>.json"
  let ⟨h₆⟩ ← Py.check (PosixPath.suffix path = ".json") .persistentBurstHostError
    "burst event path must end in .json"
  return {
    path, contentDigest, schemaVersion, version := h₁, nonempty := h₂, isSha256 := h₃,
    relative := h₄, located := h₅, json := h₆ }

instance : AsDict PersistentBurstEventRef where
  asdict r := [
    ("path", toPy r.path),
    ("content_digest", toPy r.contentDigest),
    ("schema_version", toPy r.schemaVersion)]

-- `persistent_burst_event_ref_from_dict`
def fromDict (data : Json) : Py PersistentBurstEventRef := do
  Typed.exactFields .persistentBurstHostError "burst event ref"
    ["path", "content_digest", "schema_version"] data
  new
    (← Field.get (Typed.nonempty .persistentBurstHostError "path") data "path")
    (← Field.get (Typed.sha256 .persistentBurstHostError "content_digest") data "content_digest")
    (← Field.get (Typed.string .persistentBurstHostError "unsupported burst event-ref schema") data
      "schema_version")

end PersistentBurstEventRef

structure PersistentBurstManifest where
  burstId                  : String
  portfolioId              : String
  sourceKind               : BurstTriggerKind
  expectedStartGeneration  : Nat
  expectedStartStateDigest : String
  maxTransitions           : Nat
  eventRefs                : List PersistentBurstEventRef
  createdAt                : String
  authorityCreated         : Bool := false
  schemaVersion            : String := "ge.persistent-burst-manifest.v1"
  version                  : schemaVersion = "ge.persistent-burst-manifest.v1"
  nonempty                 :
    ∀ x ∈ [("burst_id", burstId), ("portfolio_id", portfolioId), ("created_at", createdAt)],
      ¬Text.Blank x.2
  isSha256                 :
    ∀ x ∈ [("expected_start_state_digest", expectedStartStateDigest)], IsLowerSha256 x.2
  bounded                  : 1 ≤ maxTransitions ∧ maxTransitions ≤ 32
  hasEvents                : eventRefs ≠ []
  fits                     : eventRefs.length ≤ maxTransitions
  unique                   : (eventRefs.map PersistentBurstEventRef.path).Nodup
  inert                    : authorityCreated = false

namespace PersistentBurstManifest

def new (burstId portfolioId : String) (sourceKind : BurstTriggerKind)
    (expectedStartGeneration : Nat) (expectedStartStateDigest : String) (maxTransitions : Nat)
    (eventRefs : List PersistentBurstEventRef) (createdAt : String) (authorityCreated : Bool)
    (schemaVersion : String) : Py PersistentBurstManifest := do
  let ⟨h₁⟩ ← Py.check (schemaVersion = "ge.persistent-burst-manifest.v1")
    .persistentBurstHostError "unsupported burst manifest schema"
  let ⟨h₂⟩ ← Guard.nonempty .persistentBurstHostError
    [("burst_id", burstId), ("portfolio_id", portfolioId), ("created_at", createdAt)]
  let ⟨h₃⟩ ← checkBurstDigests [("expected_start_state_digest", expectedStartStateDigest)]
  let ⟨h₄⟩ ← Py.check (1 ≤ maxTransitions ∧ maxTransitions ≤ 32) .persistentBurstHostError
    "max_transitions must be between 1 and 32"
  let ⟨h₅⟩ ← Py.check (eventRefs ≠ []) .persistentBurstHostError
    "burst manifest requires event_refs"
  let ⟨h₆⟩ ← Py.check (eventRefs.length ≤ maxTransitions) .persistentBurstHostError
    "event_refs exceed the bounded max_transitions"
  let ⟨h₇⟩ ← Py.check (eventRefs.map PersistentBurstEventRef.path).Nodup
    .persistentBurstHostError "burst event paths must be unique"
  let ⟨h₈⟩ ← Py.check (authorityCreated = false) .persistentBurstHostError
    "burst manifest cannot create authority"
  return {
    burstId, portfolioId, sourceKind, expectedStartGeneration, expectedStartStateDigest,
    maxTransitions, eventRefs, createdAt, authorityCreated, schemaVersion, version := h₁,
    nonempty := h₂, isSha256 := h₃, bounded := h₄, hasEvents := h₅, fits := h₆, unique := h₇,
    inert := h₈ }

instance : AsDict PersistentBurstManifest where
  asdict m := [
    ("burst_id", toPy m.burstId),
    ("portfolio_id", toPy m.portfolioId),
    ("source_kind", toPy m.sourceKind),
    ("expected_start_generation", toPy m.expectedStartGeneration),
    ("expected_start_state_digest", toPy m.expectedStartStateDigest),
    ("max_transitions", toPy m.maxTransitions),
    ("event_refs", toPy m.eventRefs),
    ("created_at", toPy m.createdAt),
    ("authority_created", toPy m.authorityCreated),
    ("schema_version", toPy m.schemaVersion)]

-- `persistent_burst_manifest_from_dict`
def fromDict (data : Json) : Py PersistentBurstManifest := do
  Typed.exactFields .persistentBurstHostError "burst manifest"
    ["burst_id", "portfolio_id", "source_kind", "expected_start_generation",
      "expected_start_state_digest", "max_transitions", "event_refs", "created_at",
      "authority_created", "schema_version"] data
  let eventRefs ← Field.get (Typed.list .persistentBurstHostError "event_refs must be a list"
    PersistentBurstEventRef.fromDict) data "event_refs"
  new
    (← Field.get (Typed.nonempty .persistentBurstHostError "burst_id") data "burst_id")
    (← Field.get (Typed.nonempty .persistentBurstHostError "portfolio_id") data "portfolio_id")
    (← Field.get (Read.literal "unsupported burst source_kind") data "source_kind")
    (← Field.get (Typed.nat .persistentBurstHostError "expected_start_generation") data
      "expected_start_generation")
    (← Field.get (Typed.sha256 .persistentBurstHostError "expected_start_state_digest") data
      "expected_start_state_digest")
    (← Field.get (Typed.nat .persistentBurstHostError "max_transitions") data "max_transitions")
    eventRefs
    (← Field.get (Typed.nonempty .persistentBurstHostError "created_at") data "created_at")
    (← Field.get Typed.bool data "authority_created")
    (← Field.get (Typed.string .persistentBurstHostError "unsupported burst manifest schema") data
      "schema_version")

end PersistentBurstManifest

structure PersistentBurstStep where
  index              : Nat
  eventPath          : String
  eventContentDigest : String
  eventId            : String
  eventReportDigest  : String
  status             : String
  preGeneration      : Nat
  postGeneration     : Nat
  preStateDigest     : String
  postStateDigest    : String
  humanRequired      : Bool
  schemaVersion      : String := "ge.persistent-burst-step.v1"

-- `__post_init__`
def PersistentBurstStep.checked (s : PersistentBurstStep) : Py PersistentBurstStep := do
  let _ ← Guard.nonempty .persistentBurstHostError
    [("event_path", s.eventPath), ("event_id", s.eventId), ("status", s.status)]
  let _ ← checkBurstDigests
    [("event_content_digest", s.eventContentDigest), ("event_report_digest", s.eventReportDigest),
      ("pre_state_digest", s.preStateDigest), ("post_state_digest", s.postStateDigest)]
  Py.require (s.preGeneration ≤ s.postGeneration) .persistentBurstHostError
    "burst step cannot move generation backwards"
  return s

inductive BurstExecutionDisposition
  | completed
  | stopped
  | startStateMismatch
  | transitionBudgetExhausted
deriving DecidableEq

structure PersistentBurstExecutionReport where
  burstId            : String
  manifestDigest     : String
  portfolioId        : String
  sourceKind         : BurstTriggerKind
  disposition        : BurstExecutionDisposition
  stopReason         : String
  initialGeneration  : Nat
  finalGeneration    : Nat
  initialStateDigest : String
  finalStateDigest   : String
  steps              : List PersistentBurstStep
  authorityCreated   : Bool := false
  schemaVersion      : String := "ge.persistent-burst-execution.v1"

-- `__post_init__`
def PersistentBurstExecutionReport.checked (r : PersistentBurstExecutionReport) :
    Py PersistentBurstExecutionReport := do
  let _ ← Guard.nonempty .persistentBurstHostError
    [("burst_id", r.burstId), ("portfolio_id", r.portfolioId), ("stop_reason", r.stopReason)]
  let _ ← checkBurstDigests
    [("manifest_digest", r.manifestDigest), ("initial_state_digest", r.initialStateDigest),
      ("final_state_digest", r.finalStateDigest)]
  Py.require (r.initialGeneration ≤ r.finalGeneration) .persistentBurstHostError
    "burst report generation moved backwards"
  Py.require (r.authorityCreated = false) .persistentBurstHostError
    "burst execution cannot create authority"
  return r

-- What the loader of an event returns. Bytes that are UTF-8 are the text that they encode; of other
-- bytes only their digest matters.
inductive LoadedEvent
  | text (text : String)
  | undecodable (contentDigest : String)
  | other

abbrev EventLoader :=
  String → Py LoadedEvent

-- `_CONTINUABLE_STATES`
def continuableStates : List PortfolioLifecycleState :=
  [.ready, .running, .verifying, .rework]

-- `_TERMINAL_STATE_REASONS`
def terminalStateReason : PortfolioLifecycleState → Option String
  | .humanGate       => some "HUMAN_GATE"
  | .waitingExternal => some "WAITING_EXTERNAL"
  | .passive         => some "PASSIVE_WAIT"
  | .complete        => some "CEILING_REACHED"
  | .failed          => some "FAILED"
  | .diRequired      => some "DI_REQUIRED"
  | _                => none

-- `str.upper()` of a text in ASCII.
def upper (text : String) : String :=
  .ofList (text.toList.map Char.toUpper)

-- Why a burst stops after an event that has led to a state, if it does.
def burstStop (result : PersistentRuntimeEventReport) (state : PortfolioState) :
    Option (BurstExecutionDisposition × String) :=
  if result.status ≠ "committed" then some (.stopped, "NON_COMMITTED_" ++ upper result.status)
  else if result.humanRequired ∨ state.active.state = .humanGate then some (.stopped, "HUMAN_GATE")
  else
    match terminalStateReason state.active.state with
    | some reason =>
      some (if state.active.state = .complete then .completed else .stopped, reason)
    | none        =>
      if state.active.state ∈ continuableStates then none
      else
        some (.stopped,
          "UNSUPPORTED_ACTIVE_STATE_" ++ upper (PyLiteral.spelling state.active.state))

instance : AsDict PersistentRuntimeEventReport where
  asdict r := [
    ("event_id", toPy r.eventId),
    ("operation", toPy r.operation),
    ("status", toPy r.status),
    ("portfolio_id", toPy r.portfolioId),
    ("pre_generation", toPy r.preGeneration),
    ("post_generation", toPy r.postGeneration),
    ("pre_state_digest", toPy r.preStateDigest),
    ("post_state_digest", toPy r.postStateDigest),
    ("checkpoint_digest", toPy r.checkpointDigest),
    ("human_required", toPy r.humanRequired),
    ("requested_action_ref", toPy r.requestedActionRef)]

variable [Sha256]

def PersistentRuntimeEventReport.digest (r : PersistentRuntimeEventReport) : String :=
  sha256Digest (toPy r)

def PersistentBurstManifest.digest (m : PersistentBurstManifest) : String :=
  sha256Digest (toPy m)

-- `_content_digest` of the bytes of a text.
def contentDigest (text : String) : String :=
  "sha256:" ++ Sha256.hexdigest text

-- `trigger_digest_from_event`
def triggerDigestFromEvent (payload : Json) : Py (Option String) := do
  PersistentRuntime.exact "persistent event" ["schema_version", "event_id", "operation", "body"]
    payload
  Py.require (Field.hasSchema payload "ge.persistent-runtime-event.v1") .persistentRuntimeError
    "unsupported persistent event schema"
  let operation ← Field.get
    (Typed.string .persistentRuntimeError "unsupported persistent operation") payload "operation"
  if operation = "bootstrap" then return none
  else do
    Py.require (operation = "transition") .persistentRuntimeError
      "unsupported persistent operation"
    let body ← Field.get pure payload "body"
    PersistentRuntime.exact "transition body" ["policy", "contract", "trigger", "observation"] body
    let trigger ← Field.get PersistentRuntime.trigger body "trigger"
    let eventId ← Field.get
      (Typed.string .persistentRuntimeError "event_id does not bind trigger") payload "event_id"
    Py.require (trigger.eventId = eventId) .persistentRuntimeError "event_id does not bind trigger"
    return some trigger.digest

-- The payload that a reference stands for, its id and the digest of its trigger.
structure BurstEvent where
  payload       : Json
  eventId       : String
  triggerDigest : String

-- The payload of the text that the loader returns for a reference.
def loadBurstPayload (load : EventLoader) (eventRef : PersistentBurstEventRef) : Py Json := do
  let mismatch := "event content digest mismatch: " ++ eventRef.path
  let invalid  := "event is not valid UTF-8 JSON: " ++ eventRef.path
  match ← load eventRef.path with
  | .other              =>
    Py.raise .persistentBurstHostError "event loader must return bytes"
  | .undecodable digest => do
    Py.require (digest = eventRef.contentDigest) .persistentBurstHostError mismatch
    Py.raise .persistentBurstHostError invalid
  | .text text          => do
    Py.require (contentDigest text = eventRef.contentDigest) .persistentBurstHostError mismatch
    Py.ofOption .persistentBurstHostError invalid ((Json.loads text).map Json.asDicts)

-- What the host checks of an event before it is processed.
def loadBurstEvent (manifest : PersistentBurstManifest) (load : EventLoader)
    (seenEventIds : List String) (eventRef : PersistentBurstEventRef) : Py BurstEvent := do
  let payload ← loadBurstPayload load eventRef
  rejectCredentialShaped "$" payload
  Py.require payload.isObj .attributeError "object has no attribute 'get'"
  Py.require (Field.hasSchema payload "ge.persistent-runtime-event.v1") .persistentBurstHostError
    "burst contains unsupported event schema"
  let operation ← Field.getD
    (Typed.string .persistentBurstHostError
      "native burst manifest may contain transition events only") "" payload "operation"
  Py.require (operation = "transition") .persistentBurstHostError
    "native burst manifest may contain transition events only"
  let eventId ← Field.getD (Typed.nonempty .persistentBurstHostError "event_id") "" payload
    "event_id"
  let _ ← Guard.nonempty .persistentBurstHostError [("event_id", eventId)]
  Py.require (PosixPath.name eventRef.path = eventId ++ ".json") .persistentBurstHostError
    "event path filename must match event_id"
  Py.require (eventId ∉ seenEventIds) .persistentBurstHostError
    "burst event_id values must be unique"
  let body ← Py.ofOption .persistentBurstHostError "transition event body must be an object" <|
    (payload.get? "body").filter Json.isObj
  let portfolioId ← Py.ofOption .persistentBurstHostError "burst event portfolio mismatch" <|
    ((body.get? "contract").filter Json.isObj).bind (·.get? "portfolio_id")
  let portfolioId ← Typed.string .persistentBurstHostError "burst event portfolio mismatch"
    portfolioId
  Py.require (portfolioId = manifest.portfolioId) .persistentBurstHostError
    "burst event portfolio mismatch"
  let triggerDigest ← triggerDigestFromEvent payload
  let triggerDigest ← Py.ofOption .persistentBurstHostError
    "transition event did not yield authenticated trigger digest" triggerDigest
  return { payload, eventId, triggerDigest }

-- `_report`
def burstReport (manifest : PersistentBurstManifest) (initial final : PortfolioState)
    (steps : List PersistentBurstStep) (disposition : BurstExecutionDisposition)
    (stopReason : String) : Py PersistentBurstExecutionReport :=
  PersistentBurstExecutionReport.checked {
    burstId            := manifest.burstId
    manifestDigest     := manifest.digest
    portfolioId        := manifest.portfolioId
    sourceKind         := manifest.sourceKind
    disposition        := disposition
    stopReason         := stopReason
    initialGeneration  := initial.generation
    finalGeneration    := final.generation
    initialStateDigest := initial.digest
    finalStateDigest   := final.digest
    steps              := steps }

-- The inputs of a burst that do not come with its manifest.
structure BurstGates where
  load             : EventLoader
  coreRequirement  : CoreVerificationRequirement
  coreVerification : CoreVerificationReceipt
  coreReport       : CoreRehearsalReport

def burstStep (index : Nat) (eventRef : PersistentBurstEventRef)
    (result : PersistentRuntimeEventReport) : Py PersistentBurstStep :=
  PersistentBurstStep.checked {
    index              := index
    eventPath          := eventRef.path
    eventContentDigest := eventRef.contentDigest
    eventId            := result.eventId
    eventReportDigest  := result.digest
    status             := result.status
    preGeneration      := result.preGeneration
    postGeneration     := result.postGeneration
    preStateDigest     := result.preStateDigest
    postStateDigest    := result.postStateDigest
    humanRequired      := result.humanRequired }

-- The events from an index on, after the steps that have been made.
def burstFrom (manifest : PersistentBurstManifest) (gates : BurstGates) (initial : PortfolioState) :
    Nat → List PersistentBurstEventRef → List String → List PersistentBurstStep → PortfolioState →
      PortfolioCall PersistentBurstExecutionReport
  | _,     [],                    _,            steps, state =>
    burstReport manifest initial state steps .stopped "MANIFEST_EXHAUSTED_REQUIRES_FRESH_EVIDENCE"
  | index, eventRef :: eventRefs, seenEventIds, steps, state => do
    if manifest.maxTransitions ≤ index then
      burstReport manifest initial state steps .transitionBudgetExhausted "MAX_TRANSITIONS_REACHED"
    else do
      let event ← (loadBurstEvent manifest gates.load seenEventIds eventRef : Py _)
      let result ← processPersistentRuntimeEvent event.payload (some event.triggerDigest)
        (some gates.coreRequirement) (some gates.coreVerification) (some gates.coreReport)
      let step ← (burstStep index eventRef result : Py _)
      let (state, _, _) ← recoverPortfolioAfterRestart manifest.portfolioId
      Py.require (state.generation = result.postGeneration ∧ state.digest = result.postStateDigest)
        .persistentBurstHostError "fresh durable recovery disagrees with event report"
      match burstStop result state with
      | some (disposition, reason) =>
        burstReport manifest initial state (steps ++ [step]) disposition reason
      | none                       =>
        burstFrom manifest gates initial (index + 1) eventRefs (event.eventId :: seenEventIds)
          (steps ++ [step]) state

def executePersistentBurst (manifest : PersistentBurstManifest) (gates : BurstGates) :
    PortfolioCall PersistentBurstExecutionReport := do
  let (state, _, _) ← recoverPortfolioAfterRestart manifest.portfolioId
  if state.generation = manifest.expectedStartGeneration ∧
      state.digest = manifest.expectedStartStateDigest then
    burstFrom manifest gates state 0 manifest.eventRefs [] [] state
  else
    burstReport manifest state state [] .startStateMismatch "START_STATE_MISMATCH"

end GeneralExecution
