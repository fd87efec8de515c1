import GeneralExecution.Gates.PortfolioBackup
import GeneralExecution.Primitives.Raising

namespace GeneralExecution

-- The times of an observation that have to be recent, and how old each one may be.
def BackupPolicy.times (policy : BackupPolicy) (o : RepositoryBackupObservation) :
    List (Datetime × Int) :=
  [(o.lastVerifiedMirrorAt, seconds (policy.mirrorMaxAgeMinutes * 60)),
    (o.lastImmutableSnapshotAt, seconds (policy.snapshotMaxAgeHours * 3600)),
    (o.lastCleanRestoreAt, seconds (policy.restoreRehearsalMaxAgeDays * 86400))]

namespace RepositoryBackupObservation

structure Intact (o : RepositoryBackupObservation) : Prop where
  heads     : o.sourceHead = o.mirrorHead
  integrity : o.mirrorIntegrityOk = true
  snapshot  : o.immutableSnapshotVerified = true
  capsule   : o.recoveryCapsulePresent = true

def WithinAge (policy : BackupPolicy) (now : Datetime) (o : RepositoryBackupObservation) : Prop :=
  ∀ x ∈ policy.times o, now.instant - x.1.instant ≤ x.2

def NotAhead (policy : BackupPolicy) (now : Datetime) (o : RepositoryBackupObservation) : Prop :=
  ∀ x ∈ policy.times o, x.1.instant ≤ now.instant

structure Verified (policy : BackupPolicy) (now : Datetime) (o : RepositoryBackupObservation) :
    Prop where
  intact    : o.Intact
  notAhead  : o.NotAhead policy now
  withinAge : o.WithinAge policy now

-- What the assessment asks of an observation: nothing of it is about the future.
structure Passes (policy : BackupPolicy) (now : Datetime) (o : RepositoryBackupObservation) :
    Prop where
  aware     : now.Aware
  intact    : o.Intact
  withinAge : o.WithinAge policy now

end RepositoryBackupObservation

theorem RepositoryBackupObservation.withinAge_iff {o : RepositoryBackupObservation}
    {policy : BackupPolicy} {now : Datetime} :
    o.WithinAge policy now ↔
      now.instant - o.lastVerifiedMirrorAt.instant ≤ seconds (policy.mirrorMaxAgeMinutes * 60) ∧
      now.instant - o.lastImmutableSnapshotAt.instant ≤
        seconds (policy.snapshotMaxAgeHours * 3600) ∧
      now.instant - o.lastCleanRestoreAt.instant ≤
        seconds (policy.restoreRehearsalMaxAgeDays * 86400) := by
  simp only [WithinAge, BackupPolicy.times, List.forall_mem_cons]
  simp

section Assess

variable {spec : BackupRepositorySpec} {o : RepositoryBackupObservation} {policy : BackupPolicy}
variable {now : Datetime}

theorem ageMicroseconds_of (h : now.Aware) (earlier : Datetime) :
    ageMicroseconds now earlier = .ok (now.instant - earlier.instant) := by
  rw [ageMicroseconds, Py.require_of h]
  rfl

theorem aware_of_ageMicroseconds {earlier : Datetime} {age : Int}
    (h : ageMicroseconds now earlier = .ok age) : now.Aware := by
  simp only [ageMicroseconds, Except.bind_eq_ok, Py.require_eq_ok] at h
  obtain ⟨_, hn, _⟩ := h
  exact hn

theorem health_green_iff {reasons : List String} :
    (if ∃ reason ∈ reasons, reason ∈ hardReasons then BackupHealth.failed
      else if reasons ≠ [] then .degraded else .green) = .green ↔ reasons = [] := by
  cases reasons
  case nil            => simp
  case cons reason rs => split <;> simp

theorem assessRepositoryBackup_green (hid : spec.repositoryId = o.repositoryId) :
    (∃ a, assessRepositoryBackup spec o policy now = .ok a ∧ a.health = .green) ↔
      o.Passes policy now := by
  constructor
  case mp =>
    rintro ⟨a, ha, hg⟩
    have hn : now.Aware := by
      simp only [assessRepositoryBackup, Except.bind_eq_ok] at ha
      obtain ⟨_, _, _, hage, _⟩ := ha
      exact aware_of_ageMicroseconds hage
    simp only [assessRepositoryBackup, Py.require_of hid, ageMicroseconds_of hn, Except.ok_bind,
      Except.pure_eq_ok] at ha
    rw [← ha, health_green_iff, List.map_eq_nil_iff, List.filter_eq_nil_iff] at hg
    simp only [List.forall_mem_cons, Bool.not_eq_true, Bool.not_eq_false', decide_eq_true_eq] at hg
    obtain ⟨hheads, hmirror, hm, hs, hsnapshot, hr, hcapsule, _⟩ := hg
    exact {
      aware     := hn
      intact    := ⟨hheads, hmirror, hsnapshot, hcapsule⟩
      withinAge := RepositoryBackupObservation.withinAge_iff.mpr ⟨hm, hs, hr⟩ }
  case mpr =>
    intro h
    obtain ⟨hm, hs, hr⟩ := RepositoryBackupObservation.withinAge_iff.mp h.withinAge
    simp only [assessRepositoryBackup, Py.require_of hid, ageMicroseconds_of h.aware,
      Except.ok_bind, Except.pure_eq_ok]
    refine ⟨_, rfl, ?_⟩
    rw [health_green_iff, List.map_eq_nil_iff, List.filter_eq_nil_iff]
    simp only [List.forall_mem_cons, Bool.not_eq_true, Bool.not_eq_false', decide_eq_true_eq]
    exact ⟨h.intact.heads, h.intact.integrity, hm, hs, h.intact.snapshot, hr, h.intact.capsule,
      by simp⟩

theorem obsById_eq_some {observations : List RepositoryBackupObservation} {id : String}
    (h : obsById observations id = some o) : o ∈ observations ∧ o.repositoryId = id := by
  constructor
  case left  => exact List.mem_reverse.mp (List.mem_of_find?_eq_some h)
  case right => simpa using List.find?_some h

theorem exists_obsById {observations : List RepositoryBackupObservation} {id : String}
    (ho : o ∈ observations) (hid : o.repositoryId = id) : ∃ o', obsById observations id = some o' := by
  rw [← Option.isSome_iff_exists, obsById, List.find?_isSome]
  exact ⟨o, List.mem_reverse.mpr ho, by simpa using hid⟩

end Assess

section Portfolio

variable (specs : List BackupRepositorySpec) (observations : List RepositoryBackupObservation)
variable (policy : BackupPolicy) (schedule : Option ProviderScheduleBinding) (now : Datetime)

def Scheduled : Prop :=
  ∃ s, schedule = some s ∧ s.enabled = true ∧ s.cadenceMinutes ≤ policy.mirrorMaxAgeMinutes

-- What the report looks at: of each repository, the last observation.
structure PortfolioPasses : Prop where
  scheduled : Scheduled policy schedule
  latest :
    ∀ spec ∈ specs, ∃ o, obsById observations spec.repositoryId = some o ∧ o.Passes policy now

-- What a green report says.
structure PortfolioVerified : Prop where
  scheduled : Scheduled policy schedule
  observed  : ∀ spec ∈ specs, ∃ o ∈ observations, o.repositoryId = spec.repositoryId
  verified :
    ∀ spec ∈ specs, ∀ o ∈ observations, o.repositoryId = spec.repositoryId → o.Verified policy now

variable {specs observations policy schedule now}

theorem unattended_iff :
    (schedule.any fun s =>
      s.enabled && decide (s.cadenceMinutes ≤ policy.mirrorMaxAgeMinutes)) = true ↔
      Scheduled policy schedule := by
  cases schedule <;> simp [Scheduled]

theorem assessSpec_green {spec : BackupRepositorySpec} :
    (∃ a, assessSpec observations policy now spec = .ok a ∧ a.health = .green) ↔
      ∃ o, obsById observations spec.repositoryId = some o ∧ o.Passes policy now := by
  unfold assessSpec
  cases ho : obsById observations spec.repositoryId
  case none   => simp
  case some o =>
    rw [assessRepositoryBackup_green (obsById_eq_some ho).right.symm]
    simp

theorem portfolioHealth_green_iff {unattended : Bool}
    {results : List RepositoryBackupAssessment} :
    (if ¬unattended then BackupHealth.failed
      else if ∃ item ∈ results, item.health = .failed then .failed
      else if ∃ item ∈ results, item.health = .degraded then .degraded
      else .green) = .green ↔ unattended = true ∧ ∀ item ∈ results, item.health = .green := by
  by_cases hu : unattended = true
  case neg => simp [hu]
  case pos =>
    rw [if_neg (not_not.mpr hu)]
    by_cases hf : ∃ item ∈ results, item.health = .failed
    case pos =>
      have ⟨item, hi, hfailed⟩ := hf
      rw [if_pos hf, iff_false_left nofun]
      exact fun h => nomatch hfailed.symm.trans (h.right item hi)
    case neg =>
      rw [if_neg hf]
      by_cases hd : ∃ item ∈ results, item.health = .degraded
      case pos =>
        have ⟨item, hi, hdegraded⟩ := hd
        rw [if_pos hd, iff_false_left nofun]
        exact fun h => nomatch hdegraded.symm.trans (h.right item hi)
      case neg =>
        rw [if_neg hd, iff_true_left rfl]
        refine ⟨hu, fun item hi => ?_⟩
        cases hh : item.health
        case green    => rfl
        case degraded => exact absurd ⟨item, hi, hh⟩ hd
        case failed   => exact absurd ⟨item, hi, hh⟩ hf

-- A report is green if and only if nothing speaks against it.
theorem assessPortfolioBackup_green :
    (∃ report, assessPortfolioBackup specs observations policy schedule now = .ok report ∧
      report.health = .green) ↔ PortfolioPasses specs observations policy schedule now := by
  constructor
  case mp =>
    rintro ⟨report, hok, hg⟩
    simp only [assessPortfolioBackup, Except.bind_eq_ok, Except.pure_eq_ok] at hok
    obtain ⟨results, hresults, hreport⟩ := hok
    rw [← hreport, portfolioHealth_green_iff, unattended_iff] at hg
    constructor
    case scheduled => exact hg.left
    case latest =>
      intro spec hspec
      exact assessSpec_green.mp (Except.exists_mapM_forall.mp ⟨results, hresults, hg.right⟩ spec hspec)
  case mpr =>
    intro h
    obtain ⟨results, hresults, hg⟩ := Except.exists_mapM_forall.mpr fun spec hspec =>
      assessSpec_green.mpr (h.latest spec hspec)
    simp only [assessPortfolioBackup, Except.bind_eq_ok, Except.pure_eq_ok]
    refine ⟨_, ⟨results, hresults, rfl⟩, ?_⟩
    exact portfolioHealth_green_iff.mpr ⟨unattended_iff.mpr h.scheduled, hg⟩

theorem terminalReady_iff_green {report : PortfolioBackupAssessment}
    (h : assessPortfolioBackup specs observations policy schedule now = .ok report) :
    report.terminalReady = true ↔ report.health = .green := by
  simp only [assessPortfolioBackup, Except.bind_eq_ok, Except.pure_eq_ok] at h
  obtain ⟨results, _, hreport⟩ := h
  rw [← hreport, Bool.and_eq_true, decide_eq_true_eq, and_iff_left_iff_imp]
  intro hg
  exact (portfolioHealth_green_iff.mp hg).left

end Portfolio

section Claims

variable (specs : List BackupRepositorySpec) (observations : List RepositoryBackupObservation)
variable (policy : BackupPolicy) (schedule : Option ProviderScheduleBinding) (now : Datetime)

def GreenSound : Prop :=
  ∀ report, assessPortfolioBackup specs observations policy schedule now = .ok report →
    report.health = .green ∨ report.terminalReady = true →
      PortfolioVerified specs observations policy schedule now

-- No observation that the report passes over is worse than the one it looks at, and that one does
-- not run ahead of the clock.
structure NothingHidden : Prop where
  latest :
    ∀ spec ∈ specs, ∀ o, obsById observations spec.repositoryId = some o → o.NotAhead policy now
  earlier :
    ∀ spec ∈ specs, ∀ o ∈ observations, o.repositoryId = spec.repositoryId →
      obsById observations spec.repositoryId ≠ some o → o.Verified policy now

variable {specs observations policy schedule now}

theorem not_greenSound {spec : BackupRepositorySpec} {o : RepositoryBackupObservation}
    (hp : PortfolioPasses specs observations policy schedule now) (hspec : spec ∈ specs)
    (ho : o ∈ observations) (hid : o.repositoryId = spec.repositoryId)
    (hv : ¬o.Verified policy now) : ¬GreenSound specs observations policy schedule now := by
  intro h
  have ⟨report, hok, hg⟩ := assessPortfolioBackup_green.mpr hp
  exact hv ((h report hok (.inl hg)).verified spec hspec o ho hid)

end Claims

def referenceBackupSpec : BackupRepositorySpec where
  repositoryId  := "owner/repository"
  sourceUrl     := "https://github.com/owner/repository.git"
  destinationId := "gitlab://backup/owner/repository"

def hourlyPolicy : BackupPolicy where
  mirror   := by decide
  snapshot := by decide
  restore  := by decide

def hourlySchedule : ProviderScheduleBinding where
  provider       := "gitlab"
  scheduleRef    := "schedule://portfolio-backup/hourly"
  cadenceMinutes := 60
  enabled        := true
  controlRef     := "backup-control"
  bound          := by decide
  cadence        := by decide

-- An observation whose mirror has been verified at an hour of the day.
def mirroredAt (hour : Nat) (integrity : Bool) : RepositoryBackupObservation where
  repositoryId              := "owner/repository"
  sourceHead                := "head"
  mirrorHead                := "head"
  observedAt                := .hour 12
  lastVerifiedMirrorAt      := .hour hour
  lastImmutableSnapshotAt   := .hour 12
  lastCleanRestoreAt        := .hour 12
  mirrorIntegrityOk         := integrity
  immutableSnapshotVerified := true
  recoveryCapsulePresent    := true
  aware                     := by simp [Datetime.Aware, Datetime.hour]

theorem mirroredAt_passes {hour : Nat} (h : 12 ≤ hour) :
    (mirroredAt hour true).Passes hourlyPolicy (.hour 12) where
  aware     := rfl
  intact    := ⟨rfl, rfl, rfl, rfl⟩
  withinAge := by
    rw [RepositoryBackupObservation.withinAge_iff]
    simp only [mirroredAt, hourlyPolicy, Datetime.instant, Datetime.hour, seconds]
    refine ⟨?_, by decide, by decide⟩
    push_cast
    simp only [Option.getD_some]
    omega

theorem portfolioPasses_of_latest {observations : List RepositoryBackupObservation} {hour : Nat}
    (h : 12 ≤ hour)
    (hl : obsById observations referenceBackupSpec.repositoryId = some (mirroredAt hour true)) :
    PortfolioPasses [referenceBackupSpec] observations hourlyPolicy (some hourlySchedule)
      (.hour 12) where
  scheduled := ⟨hourlySchedule, rfl, rfl, by decide⟩
  latest    := by
    intro spec hspec
    rw [List.mem_singleton.mp hspec]
    exact ⟨_, hl, mirroredAt_passes h⟩

end GeneralExecution
