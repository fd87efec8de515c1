import GeneralExecution.Activation.Admission
import GeneralExecution.Activation.Executor

namespace GeneralExecution

-- What an authority that a launch carries has been checked for.
structure LaunchAuthority (order : ExecutionLaunchOrder) (authenticatedActor : String)
    (authority : LaunchAuthorityBinding) : Prop where
  bound  : order.authority = some authority
  actor  : order.requiredAuthorityScopes ≠ [] → authority.actor = authenticatedActor
  scopes : ∀ scope ∈ order.requiredAuthorityScopes, scope ∈ authority.grantedScopes

-- The executor of an order is available.
def ExecutionLaunchOrder.Executable (order : ExecutionLaunchOrder) : Prop :=
  ∃ binding, order.executorBinding = some binding ∧ order.executor = some binding.executor ∧
    binding.availability = .available

section Disposition

variable {order : ExecutionLaunchOrder} {actor : String}

theorem authorityRefusal_ne_admitted {refusal : LaunchDisposition × String}
    (h : order.authorityRefusal actor = some refusal) : refusal.1 ≠ .admitted := by
  unfold ExecutionLaunchOrder.authorityRefusal at h
  split at h
  case isTrue  => cases h
  case isFalse =>
    split at h
    case h_1 =>
      cases h
      simp
    case h_2 =>
      simp only at h
      split at h
      case isTrue  =>
        cases h
        simp
      case isFalse =>
        have ⟨_, h⟩ := Option.ite_none_right_eq_some.mp h
        cases h
        simp

theorem authorityRefusal_eq_none (h : order.authorityRefusal actor = none)
    {authority : LaunchAuthorityBinding} (ha : order.authority = some authority) :
    LaunchAuthority order actor authority := by
  unfold ExecutionLaunchOrder.authorityRefusal at h
  split at h
  case isTrue hs =>
    exact {
      bound  := ha
      actor  := fun hn => absurd hs hn
      scopes := by simp [hs] }
  case isFalse =>
    simp only [ha] at h
    split at h
    case isTrue      => cases h
    case isFalse hac =>
      split at h
      case isTrue     => cases h
      case isFalse hm =>
        have hall := List.filter_eq_nil_iff.mp (not_not.mp hm)
        exact {
          bound  := ha
          actor  := fun _ => not_not.mp hac
          scopes := fun scope hs => by simpa using hall scope hs }

theorem executorDisposition_admitted (h : order.executorDisposition.1 = .admitted) :
    order.Executable := by
  unfold ExecutionLaunchOrder.executorDisposition at h
  split at h
  case h_1         => cases h
  case h_2 binding hb =>
    split at h
    case isTrue     => cases h
    case isFalse he =>
      split at h
      case isTrue     => cases h
      case isFalse hu =>
        refine ⟨binding, hb, (not_not.mp he).symm, ?_⟩
        cases ha : binding.availability
        case available   => rfl
        case unavailable => exact absurd ha hu

theorem disposition_admitted (h : (order.disposition actor).1 = .admitted) :
    order.authorityRefusal actor = none ∧ order.Executable := by
  unfold ExecutionLaunchOrder.disposition at h
  split at h
  case isTrue  => cases h
  case isFalse =>
    split at h
    case isTrue  => cases h
    case isFalse =>
      split at h
      case isTrue  => cases h
      case isFalse =>
        cases hr : order.authorityRefusal actor
        case none         =>
          rw [hr, Option.getD_none] at h
          exact ⟨rfl, executorDisposition_admitted h⟩
        case some refusal =>
          rw [hr, Option.getD_some] at h
          exact absurd h (authorityRefusal_ne_admitted hr)

end Disposition

section Receipts

variable [Sha256] {order : ExecutionLaunchOrder} {receipt : ExecutionLaunchReceipt}

-- What a receipt and an activation intent say of their order.
structure ExecutionLaunchReceipt.Of (receipt : ExecutionLaunchReceipt)
    (order : ExecutionLaunchOrder) : Prop where
  owner        : receipt.owner = order.owner
  repository   : receipt.repository = order.repository
  executor     : receipt.executor = order.executor
  orderDigest  : receipt.orderDigest = order.digest
  authorityRef : receipt.authorityRef = order.authority.map LaunchAuthorityBinding.authorityRef
  authorityBindingDigest :
    receipt.authorityBindingDigest = order.authority.map LaunchAuthorityBinding.digest

structure ExecutorActivationIntent.Of (intent : ExecutorActivationIntent)
    (order : ExecutionLaunchOrder) : Prop where
  owner        : order.owner = some intent.owner
  repository   : order.repository = some intent.repository
  executor     : order.executor = some intent.executor
  orderDigest  : intent.orderDigest = order.digest
  authorityRef : intent.authorityRef = order.authority.map LaunchAuthorityBinding.authorityRef
  authorityBindingDigest :
    intent.authorityBindingDigest = order.authority.map LaunchAuthorityBinding.digest

theorem ExecutionLaunchOrder.receipt_eq_ok {disposition : LaunchDisposition} {reason : String}
    (h : order.receipt disposition reason = .ok receipt) :
    receipt.disposition = disposition ∧ receipt.Of order := by
  simp only [ExecutionLaunchOrder.receipt, ExecutionLaunchReceipt.new, Except.bind_eq_ok, Except.pure_eq_ok,
    Py.ofOption_eq_ok, PyLiteral.parse?, PyLiteral.parse_spelling, Option.some.injEq] at h
  obtain ⟨_, _, disposition', hd, _, _, _, _, _, _, _, _, _, _, hr⟩ := h
  subst hr
  exact ⟨hd.symm, rfl, rfl, rfl, rfl, rfl, rfl⟩

omit [Sha256] in
theorem getD_of_truthy {o : Option String} (h : Text.Truthy o) : o = some (o.getD "") := by
  have ⟨s, hs, _⟩ := h.exists
  rw [hs, Option.getD_some]

theorem prepareExecutorActivation_of (ho : receipt.Of order)
    {capability : ExecutorActivationCapability} {intent : ExecutorActivationIntent}
    (h : prepareExecutorActivation receipt capability = .ok intent) : intent.Of order := by
  simp only [prepareExecutorActivation, Except.bind_eq_ok, Py.require_eq_ok] at h
  obtain ⟨_, _, _, _, _, ht, _, _, h⟩ := h
  simp only [List.forall_mem_cons] at ht
  obtain ⟨_, _, howner, hrepository, hexecutor, _⟩ := ht
  simp only [ExecutorActivationIntent.new, Except.bind_eq_ok, Except.pure_eq_ok] at h
  obtain ⟨_, _, _, _, _, _, _, _, _, _, hi⟩ := h
  rw [← hi]
  exact {
    owner                  := ho.owner ▸ getD_of_truthy howner
    repository             := ho.repository ▸ getD_of_truthy hrepository
    executor               := ho.executor ▸ getD_of_truthy hexecutor
    orderDigest            := ho.orderDigest
    authorityRef           := ho.authorityRef
    authorityBindingDigest := ho.authorityBindingDigest }

theorem admitExecutionLaunchOrder_eq_ok {digest actor : String}
    (h : admitExecutionLaunchOrder order digest actor = .ok receipt) :
    receipt.disposition = (order.disposition actor).1 ∧ receipt.Of order := by
  simp only [admitExecutionLaunchOrder, Except.bind_eq_ok, Py.require_eq_ok] at h
  obtain ⟨_, _, _, _, _, _, h⟩ := h
  exact ExecutionLaunchOrder.receipt_eq_ok h

-- From the order over its receipt to the intent: what the digest of an authority stands for.
theorem admitted_launchAuthority {digest actor : String}
    (h : admitExecutionLaunchOrder order digest actor = .ok receipt)
    (ha : receipt.disposition = .admitted) {bindingDigest : String}
    (hb : receipt.authorityBindingDigest = some bindingDigest) :
    ∃ authority, authority.digest = bindingDigest ∧ LaunchAuthority order actor authority ∧
      receipt.authorityRef = some authority.authorityRef ∧ order.Executable ∧
      ∀ capability intent, prepareExecutorActivation receipt capability = .ok intent →
        intent.authorityBindingDigest = some bindingDigest ∧
        intent.authorityRef = some authority.authorityRef ∧ intent.Of order := by
  have ⟨hd, ho⟩ := admitExecutionLaunchOrder_eq_ok h
  have ⟨hr, hx⟩ := disposition_admitted (hd.symm.trans ha)
  have ⟨authority, hauthority, hdigest⟩ := Option.map_eq_some_iff.mp
    (ho.authorityBindingDigest.symm.trans hb)
  have href {o : Option String} (h : o = order.authority.map LaunchAuthorityBinding.authorityRef) :
      o = some authority.authorityRef := by
    rw [h, hauthority, Option.map_some]
  refine ⟨authority, hdigest, authorityRefusal_eq_none hr hauthority, href ho.authorityRef, hx, ?_⟩
  intro capability intent hi
  have hio := prepareExecutorActivation_of ho hi
  refine ⟨?_, href hio.authorityRef, hio⟩
  rw [hio.authorityBindingDigest, hauthority, Option.map_some, hdigest]

theorem ExecutionLaunchOrder.exists_receipt {disposition : LaunchDisposition} {reason : String}
    (hr : ¬Text.Blank reason)
    (ho : order.owner.isSome ∧ order.repository.isSome ∧ order.executor.isSome) :
    ∃ receipt, order.receipt disposition reason = .ok receipt := by
  have hnonempty {identity : PyValue} :
      ∀ x ∈ [("receipt_id", stableId "gelr" identity), ("order_id", order.orderId),
        ("disposition_reason", reason), ("workstream_id", order.workstreamId)],
        ¬Text.Blank x.2 := by
    have hw : ¬Text.Blank order.workstreamId := order.nonempty _ List.mem_cons_self
    have ho : ¬Text.Blank order.orderId := stableId_not_blank rfl rfl _
    simp [hr, hw, ho, stableId_not_blank (p := "gelr") rfl rfl]
  have hoptional :
      ∀ x ∈ [("authority_binding_digest", order.authority.map LaunchAuthorityBinding.digest),
        ("executor_binding_digest", order.executorBinding.map LaunchExecutorBinding.digest)],
        OptionalLowerSha256 x.2 := by
    have hd {v : PyValue} : IsLowerSha256 (sha256Digest v) := isLowerSha256_sha256Digest v
    simp [OptionalLowerSha256, LaunchAuthorityBinding.digest, LaunchExecutorBinding.digest, hd]
  have hidentity :
      LaunchIdentity disposition order.owner order.repository order.executor
        (if disposition = .admitted then some order.launchId else none)
        (if disposition = .admitted then some order.dispatchIdentity else none) := by
    have hl : order.launchId ≠ "" := Text.ne_empty_of_not_blank (stableId_not_blank rfl rfl _)
    have hi : order.dispatchIdentity ≠ "" :=
      Text.ne_empty_of_not_blank (stableId_not_blank rfl rfl _)
    by_cases hd : disposition = .admitted
    case pos => simp [LaunchIdentity, hd, Text.truthy_some, hl, hi, ho]
    case neg => simp [LaunchIdentity, hd]
  have hdigest : IsLowerSha256 order.digest := isLowerSha256_sha256Digest _
  simp only [ExecutionLaunchOrder.receipt, ExecutionLaunchReceipt.new, Py.ofOption,
    Except.ofOption, PyLiteral.parse?, PyLiteral.parse_spelling, Except.ok_bind,
    Guard.nonempty_of hnonempty, Py.check_of hdigest, Guard.each_of hoptional,
    Py.check_of hidentity]
  rw [Py.check_of rfl, Except.ok_bind, Py.check_of ⟨rfl, rfl⟩, Except.ok_bind]
  exact ⟨_, rfl⟩

theorem exists_admitted (order : ExecutionLaunchOrder) (actor : String) (ha : ¬Text.Blank actor)
    (hd : order.disposition actor = (.admitted, "launch_admitted"))
    (ho : order.owner.isSome ∧ order.repository.isSome ∧ order.executor.isSome) :
    ∃ receipt, admitExecutionLaunchOrder order order.digest actor = .ok receipt ∧
      receipt.disposition = .admitted := by
  have hdigest : IsLowerSha256 order.digest := isLowerSha256_sha256Digest _
  have hreason : ¬Text.Blank "launch_admitted" := by decide
  have ⟨receipt, hr⟩ : ∃ receipt, order.receipt .admitted "launch_admitted" = .ok receipt :=
    ExecutionLaunchOrder.exists_receipt hreason ho
  refine ⟨receipt, ?_, (ExecutionLaunchOrder.receipt_eq_ok hr).left⟩
  rw [admitExecutionLaunchOrder, Py.require_of hdigest, Except.ok_bind, Py.require_of ha,
    Except.ok_bind, Py.require_of rfl, Except.ok_bind, hd]
  exact hr

end Receipts

section Fixtures

def operatorAuthority : LaunchAuthorityBinding where
  actor             := "operator"
  authorityRef      := "authority://operator"
  authorityBoundary := "local execution"
  grantedScopes     := ["candidate_write"]
  version           := rfl
  nonempty          := by decide
  canonical         := by decide

def colonyExecutor [Sha256] : LaunchExecutorBinding where
  executor       := "build_colony"
  availability   := .available
  evidenceRef    := "executor://build_colony/capability"
  evidenceDigest := sha256Digest .none
  version        := rfl
  nonempty       := by decide
  isSha256       := isLowerSha256_sha256Digest _

-- An order of the operator, with the scopes that it requires.
def operatorOrder [Sha256] (scopes : List String)
    (h : ∀ x ∈ [("required_authority_scopes", scopes)], CanonicalScopes x.2) :
    ExecutionLaunchOrder where
  workstreamId            := "elg01"
  owner                   := some "engineering"
  repository              := some "lab/colony"
  executor                := some "build_colony"
  objective               := "Exercise the launch"
  orderRef                := "order://elg01"
  sourceRevision          := none
  requiredAuthorityScopes := scopes
  authority               := some operatorAuthority
  executorBinding         := some colonyExecutor
  version                 := rfl
  nonempty                := by decide
  optional                := by decide
  named                   := by
    refine ⟨by decide, ?_⟩
    simp [Text.IsRepository, or_imp, forall_and]
  canonical               := h

theorem admitted_launchAuthority_operator :
    letI := Sha256.blind
    LaunchAuthority (operatorOrder ["candidate_write"] (by decide)) "operator" operatorAuthority := by
  let := Sha256.blind
  let order := operatorOrder ["candidate_write"] (by decide)
  have ⟨receipt, h, ha⟩ := exists_admitted order "operator" (by decide) rfl ⟨rfl, rfl, rfl⟩
  have hb : receipt.authorityBindingDigest = some operatorAuthority.digest :=
    (admitExecutionLaunchOrder_eq_ok h).right.authorityBindingDigest
  have ⟨authority, _, hauthority, _⟩ := admitted_launchAuthority h ha hb
  have he : operatorAuthority = authority := Option.some.inj hauthority.bound
  exact he ▸ hauthority

-- Where no scope is required, nobody has asked who the actor of the authority is.
theorem admitted_of_other_actor :
    letI := Sha256.blind
    let order := operatorOrder [] (by decide)
    ∃ receipt, admitExecutionLaunchOrder order order.digest "visitor" = .ok receipt ∧
      receipt.disposition = .admitted ∧
      receipt.authorityBindingDigest = some operatorAuthority.digest ∧
      order.authority = some operatorAuthority ∧ operatorAuthority.actor ≠ "visitor" := by
  let := Sha256.blind
  let order := operatorOrder [] (by decide)
  have ⟨receipt, h, ha⟩ := exists_admitted order "visitor" (by decide) rfl ⟨rfl, rfl, rfl⟩
  exact ⟨receipt, h, ha, (admitExecutionLaunchOrder_eq_ok h).right.authorityBindingDigest, rfl,
    by decide⟩

end Fixtures

end GeneralExecution
