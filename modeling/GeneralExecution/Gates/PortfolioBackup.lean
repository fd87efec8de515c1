import GeneralExecution.Objects.Time

namespace GeneralExecution

inductive BackupHealth
  | green
  | degraded
  | failed
deriving DecidableEq

instance : PyLiteral BackupHealth where
  spelling
    | .green    => "GREEN"
    | .degraded => "DEGRADED"
    | .failed   => "FAILED"
  values           := [.green, .degraded, .failed]
  parse_spelling h := by cases h <;> rfl

structure BackupRepositorySpec where
  repositoryId  : String
  sourceUrl     : String
  destinationId : String
  critical      : Bool := true
deriving DecidableEq

structure BackupPolicy where
  mirrorMaxAgeMinutes        : Int := 60
  snapshotMaxAgeHours        : Int := 24
  restoreRehearsalMaxAgeDays : Int := 7
  mirror   : 1 ≤ mirrorMaxAgeMinutes ∧ mirrorMaxAgeMinutes ≤ 60
  snapshot : 1 ≤ snapshotMaxAgeHours ∧ snapshotMaxAgeHours ≤ 24
  restore  : 1 ≤ restoreRehearsalMaxAgeDays ∧ restoreRehearsalMaxAgeDays ≤ 7

def BackupPolicy.new (mirrorMaxAgeMinutes snapshotMaxAgeHours restoreRehearsalMaxAgeDays : Int) :
    Py BackupPolicy := do
  let ⟨h₁⟩ ← Py.check (1 ≤ mirrorMaxAgeMinutes ∧ mirrorMaxAgeMinutes ≤ 60) .backupContractError
    "mirror_max_age_minutes must be in 1..60"
  let ⟨h₂⟩ ← Py.check (1 ≤ snapshotMaxAgeHours ∧ snapshotMaxAgeHours ≤ 24) .backupContractError
    "snapshot_max_age_hours must be in 1..24"
  let ⟨h₃⟩ ← Py.check (1 ≤ restoreRehearsalMaxAgeDays ∧ restoreRehearsalMaxAgeDays ≤ 7)
    .backupContractError "restore_rehearsal_max_age_days must be in 1..7"
  return {
    mirrorMaxAgeMinutes, snapshotMaxAgeHours, restoreRehearsalMaxAgeDays, mirror := h₁,
    snapshot := h₂, restore := h₃ }

structure ProviderScheduleBinding where
  provider       : String
  scheduleRef    : String
  cadenceMinutes : Int
  enabled        : Bool
  controlRef     : String
  bound          : provider ≠ "" ∧ scheduleRef ≠ "" ∧ controlRef ≠ ""
  cadence        : 1 ≤ cadenceMinutes ∧ cadenceMinutes ≤ 60

def ProviderScheduleBinding.new (provider scheduleRef : String) (cadenceMinutes : Int)
    (enabled : Bool) (controlRef : String) : Py ProviderScheduleBinding := do
  let ⟨h₁⟩ ← Py.check (provider ≠ "" ∧ scheduleRef ≠ "" ∧ controlRef ≠ "") .backupContractError
    "schedule binding requires provider, schedule_ref and control_ref"
  let ⟨h₂⟩ ← Py.check (1 ≤ cadenceMinutes ∧ cadenceMinutes ≤ 60) .backupContractError
    "backup schedule cadence must be <= 60 minutes"
  return {
    provider, scheduleRef, cadenceMinutes, enabled, controlRef, bound := h₁, cadence := h₂ }

@[ext]
structure RepositoryBackupObservation where
  repositoryId              : String
  sourceHead                : String
  mirrorHead                : String
  observedAt                : Datetime
  lastVerifiedMirrorAt      : Datetime
  lastImmutableSnapshotAt   : Datetime
  lastCleanRestoreAt        : Datetime
  mirrorIntegrityOk         : Bool
  immutableSnapshotVerified : Bool
  recoveryCapsulePresent    : Bool
  aware :
    ∀ x ∈ [("observed_at", observedAt), ("last_verified_mirror_at", lastVerifiedMirrorAt),
      ("last_immutable_snapshot_at", lastImmutableSnapshotAt),
      ("last_clean_restore_at", lastCleanRestoreAt)], x.2.Aware
deriving DecidableEq

def RepositoryBackupObservation.new (repositoryId sourceHead mirrorHead : String)
    (observedAt lastVerifiedMirrorAt lastImmutableSnapshotAt lastCleanRestoreAt : Datetime)
    (mirrorIntegrityOk immutableSnapshotVerified recoveryCapsulePresent : Bool) :
    Py RepositoryBackupObservation := do
  let ⟨h⟩ ← Guard.each .backupContractError Datetime.Aware
    (fun name _ => name ++ " must be timezone-aware")
    [("observed_at", observedAt), ("last_verified_mirror_at", lastVerifiedMirrorAt),
      ("last_immutable_snapshot_at", lastImmutableSnapshotAt),
      ("last_clean_restore_at", lastCleanRestoreAt)]
  return {
    repositoryId, sourceHead, mirrorHead, observedAt, lastVerifiedMirrorAt,
    lastImmutableSnapshotAt, lastCleanRestoreAt, mirrorIntegrityOk, immutableSnapshotVerified,
    recoveryCapsulePresent, aware := h }

structure RepositoryBackupAssessment where
  repositoryId : String
  health       : BackupHealth
  reasons      : List String
deriving DecidableEq

structure PortfolioBackupAssessment where
  health                : BackupHealth
  repositories          : List RepositoryBackupAssessment
  unattendedLaunchReady : Bool
  terminalReady         : Bool
deriving DecidableEq

-- `_age_seconds`, in microseconds.
def ageMicroseconds (now earlier : Datetime) : Py Int := do
  Py.require now.Aware .backupContractError "now must be timezone-aware"
  return now.instant - earlier.instant

def seconds (n : Int) : Int :=
  n * 1000000

-- The reasons that make a repository fail, and not only degrade.
def hardReasons : List String :=
  ["mirror_integrity_failed", "immutable_snapshot_unverified", "recovery_capsule_missing"]

def assessRepositoryBackup (spec : BackupRepositorySpec)
    (observation : RepositoryBackupObservation) (policy : BackupPolicy) (now : Datetime) :
    Py RepositoryBackupAssessment := do
  Py.require (spec.repositoryId = observation.repositoryId) .backupContractError
    "repository observation identity mismatch"
  let mirrorAge   ← ageMicroseconds now observation.lastVerifiedMirrorAt
  let snapshotAge ← ageMicroseconds now observation.lastImmutableSnapshotAt
  let restoreAge  ← ageMicroseconds now observation.lastCleanRestoreAt
  let checks : List (Bool × String) := [
    (observation.sourceHead = observation.mirrorHead, "mirror_head_mismatch"),
    (observation.mirrorIntegrityOk, "mirror_integrity_failed"),
    (mirrorAge ≤ seconds (policy.mirrorMaxAgeMinutes * 60), "mirror_stale"),
    (snapshotAge ≤ seconds (policy.snapshotMaxAgeHours * 3600), "immutable_snapshot_stale"),
    (observation.immutableSnapshotVerified, "immutable_snapshot_unverified"),
    (restoreAge ≤ seconds (policy.restoreRehearsalMaxAgeDays * 86400), "clean_restore_stale"),
    (observation.recoveryCapsulePresent, "recovery_capsule_missing")]
  let reasons := (checks.filter fun c => !c.1).map Prod.snd
  let health  :=
    if ∃ reason ∈ reasons, reason ∈ hardReasons then BackupHealth.failed
    else if reasons ≠ [] then .degraded
    else .green
  return { repositoryId := spec.repositoryId, health, reasons }

-- `obs_by_id.get(repository_id)`: a later observation of a repository replaces the earlier ones.
def obsById (observations : List RepositoryBackupObservation) (repositoryId : String) :
    Option RepositoryBackupObservation :=
  observations.reverse.find? fun o => o.repositoryId = repositoryId

-- The body of the loop over the specs.
def assessSpec (observations : List RepositoryBackupObservation) (policy : BackupPolicy)
    (now : Datetime) (spec : BackupRepositorySpec) : Py RepositoryBackupAssessment :=
  match obsById observations spec.repositoryId with
  | none             => return ⟨spec.repositoryId, .failed, ["observation_missing"]⟩
  | some observation => assessRepositoryBackup spec observation policy now

def assessPortfolioBackup (specs : List BackupRepositorySpec)
    (observations : List RepositoryBackupObservation) (policy : BackupPolicy)
    (schedule : Option ProviderScheduleBinding) (now : Datetime) :
    Py PortfolioBackupAssessment := do
  let results ← specs.mapM (assessSpec observations policy now)
  let unattended :=
    schedule.any fun s => s.enabled && decide (s.cadenceMinutes ≤ policy.mirrorMaxAgeMinutes)
  let health :=
    if ¬unattended then .failed
    else if ∃ item ∈ results, item.health = .failed then .failed
    else if ∃ item ∈ results, item.health = .degraded then .degraded
    else BackupHealth.green
  return {
    health, repositories := results, unattendedLaunchReady := unattended,
    terminalReady := health = .green && unattended }

end GeneralExecution
