import GeneralExecution.Objects.Fields
import GeneralExecution.Objects.Models

namespace GeneralExecution

def artifactToDict (artifact : ArtifactRef) : PyDict := [
  ("name", toPy artifact.name),
  ("uri", toPy artifact.uri),
  ("digest", toPy artifact.digest)]

def artifactFromDict (data : Json) : Py ArtifactRef := do
  ArtifactRef.new
    (← Field.get Read.string data "name")
    (← Field.get Read.string data "uri")
    (← Field.get Read.string data "digest")

def artifactsToList (artifacts : List ArtifactRef) : PyValue :=
  .list <| artifacts.map fun item => .dict (artifactToDict item)

def specToDict (spec : ExecutionSpec) : PyDict := [
  ("schema_version", toPy spec.schemaVersion),
  ("producer", toPy spec.producer),
  ("producer_revision", toPy spec.producerRevision),
  ("task_kind", toPy spec.taskKind),
  ("objective", toPy spec.objective),
  ("source_revision", toPy spec.sourceRevision),
  ("required_capabilities", toPy spec.requiredCapabilities),
  ("allowed_scopes", toPy spec.allowedScopes),
  ("forbidden_actions", toPy spec.forbiddenActions),
  ("evidence_requirements", toPy spec.evidenceRequirements),
  ("inputs", artifactsToList spec.inputs),
  ("authority_ref", (spec.authorityRef.map fun a => PyValue.dict (artifactToDict a)).getD .none),
  ("metadata", toPy spec.metadata)]

-- `read(data) if data else None`
def Read.ifTruthy {α : Type} (read : Json → Py α) : Json → Py (Option α)
  | .null | .bool false | .int 0 | .str "" | .arr [] | .obj [] => return none
  | j                                                          => return some (← read j)

def specFromDict (data : Json) : Py ExecutionSpec := do
  Py.require (Field.hasSchemaOrNone data "ge.execution-spec.v1") .valueError
    "unsupported execution spec schema"
  ExecutionSpec.new
    (← Field.get Read.string data "producer")
    (← Field.get Read.string data "producer_revision")
    (← Field.get Read.string data "task_kind")
    (← Field.get Read.string data "objective")
    (← Field.get Read.string data "source_revision")
    (← Field.getD (Read.list Read.string) [] data "required_capabilities")
    (← Field.getD (Read.list Read.string) [] data "allowed_scopes")
    (← Field.getD (Read.list Read.string) [] data "forbidden_actions")
    (← Field.getD (Read.list Read.string) [] data "evidence_requirements")
    (← Field.getD (Read.list artifactFromDict) [] data "inputs")
    (← Field.getD (Read.ifTruthy artifactFromDict) none data "authority_ref")
    (← Field.getD (Read.list (Read.pair Read.string Read.string)) [] data "metadata")

def resultToDict (result : ResultEnvelope) : PyDict := [
  ("schema_version", toPy result.schemaVersion),
  ("session_id", toPy result.sessionId),
  ("spec_id", toPy result.specId),
  ("spec_digest", toPy result.specDigest),
  ("runner_id", toPy result.runnerId),
  ("attempt", toPy result.attempt),
  ("status", toPy result.status),
  ("output_artifacts", artifactsToList result.outputArtifacts),
  ("evidence", artifactsToList result.evidence),
  ("summary", toPy result.summary)]

-- `result_to_dict(result) if result else None`
def resultToDict? (result : Option ResultEnvelope) : PyValue :=
  (result.map fun r => PyValue.dict (resultToDict r)).getD .none

def resultFromDict (data : Json) : Py ResultEnvelope := do
  Py.require (Field.hasSchemaOrNone data "ge.result-envelope.v1") .valueError
    "unsupported result envelope schema"
  ResultEnvelope.new
    (← Field.get Read.string data "session_id")
    (← Field.get Read.string data "spec_id")
    (← Field.get Read.string data "spec_digest")
    (← Field.get Read.string data "runner_id")
    (← Field.get (Read.nat "attempt must be >= 1") data "attempt")
    (← Field.get Read.string data "status")
    (← Field.getD (Read.list artifactFromDict) [] data "output_artifacts")
    (← Field.getD (Read.list artifactFromDict) [] data "evidence")
    (← Field.getD Read.string "" data "summary")

@[simp]
theorem artifactFromDict_normalize (a : ArtifactRef) :
    artifactFromDict (normalize (.dict (artifactToDict a))) = .ok a := by
  have hd : distinctKeys (artifactToDict a) = true := rfl
  simp only [artifactFromDict, Field.get, normalize_get? hd]
  simp [artifactToDict, Json.lookup]

@[simp]
theorem list_artifactsToList (as : List ArtifactRef) :
    Read.list artifactFromDict (normalize (artifactsToList as)) = .ok as :=
  Read.list_normalize fun a _ => artifactFromDict_normalize a

@[simp]
theorem ifTruthy_artifact (o : Option ArtifactRef) :
    Read.ifTruthy artifactFromDict (normalize
      ((o.map fun a => PyValue.dict (artifactToDict a)).getD .none)) = .ok o := by
  cases o
  case none => rfl
  case some a =>
    have h := artifactFromDict_normalize a
    simp only [Option.map_some, Option.getD_some]
    unfold Read.ifTruthy
    split
    case h_6 hj => simp [hj, artifactFromDict, Field.get, Json.get?, Json.lookup] at h
    case h_7    => simp [h, pure, Except.pure]
    all_goals simp_all [normalize]

@[simp]
theorem specFromDict_normalize {s s' : ExecutionSpec} :
    specFromDict (normalize (.dict (specToDict s))) = .ok s' ↔
      s.schemaVersion = "ge.execution-spec.v1" ∧ s' = s := by
  have hd : distinctKeys (specToDict s) = true := rfl
  simp only [specFromDict, Py.require, Except.ensure, Field.get, Field.getD, Field.hasSchemaOrNone,
    normalize_get? hd]
  by_cases h : s.schemaVersion = "ge.execution-spec.v1"
  case pos => simp [specToDict, Json.lookup, h, ExecutionSpec.new_eq s h, eq_comm]
  case neg => simp [specToDict, Json.lookup, h]

@[simp]
theorem resultFromDict_normalize {r r' : ResultEnvelope} :
    resultFromDict (normalize (.dict (resultToDict r))) = .ok r' ↔
      r.schemaVersion = "ge.result-envelope.v1" ∧ r' = r := by
  have hd : distinctKeys (resultToDict r) = true := rfl
  simp only [resultFromDict, Py.require, Except.ensure, Field.get, Field.getD,
    Field.hasSchemaOrNone, normalize_get? hd]
  by_cases h : r.schemaVersion = "ge.result-envelope.v1"
  case pos => simp [resultToDict, Json.lookup, h, ResultEnvelope.new_eq r h, eq_comm]
  case neg => simp [resultToDict, Json.lookup, h]

@[simp]
theorem optResultFromDict_normalize {o o' : Option ResultEnvelope} :
    Read.opt resultFromDict (normalize (resultToDict? o)) = .ok o' ↔
      (∀ r ∈ o, r.schemaVersion = "ge.result-envelope.v1") ∧ o' = o := by
  cases o
  case none => simp [resultToDict?, normalize, Read.opt, @eq_comm _ none]
  case some r =>
    have hn : normalize (.dict (resultToDict r)) ≠ .null := by simp [normalize]
    rw [resultToDict?, Option.map_some, Option.getD_some, Read.opt_normalize hn, Except.map_eq_ok]
    simp only [resultFromDict_normalize, Option.mem_some]
    constructor
    · rintro ⟨_, ⟨h, rfl⟩, rfl⟩
      exact ⟨fun _ e => e ▸ h, rfl⟩
    · rintro ⟨h, rfl⟩
      exact ⟨r, ⟨h r rfl, rfl⟩, rfl⟩

end GeneralExecution
