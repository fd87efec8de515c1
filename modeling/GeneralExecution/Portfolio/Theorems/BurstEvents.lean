import GeneralExecution.Portfolio.BurstHost
import GeneralExecution.Portfolio.Theorems.EventReports

namespace GeneralExecution

theorem Field.get_eq_ok {α : Type} {read : Json → Py α} {data : Json} {k : String} {a : α} :
    Field.get read data k = .ok a ↔ ∃ j, data.get? k = some j ∧ read j = .ok a := by
  rw [Field.get]
  cases data.get? k
  case none   => simp [Py.raise]
  case some j => simp

theorem Typed.string_eq_ok {cls : ErrorClass} {message text : String} {j : Json} :
    Typed.string cls message j = .ok text ↔ j = .str text := by
  cases j <;> simp [Typed.string, Py.raise]

section Credentials

-- A name of a member of some object in a value, at any depth.
inductive NamesMember : Json → String → Prop
  | member {members j} : (k, j) ∈ members → NamesMember (.obj members) k
  | under {members k' j} : (k', j) ∈ members → NamesMember j k → NamesMember (.obj members) k
  | element {xs j} : j ∈ xs → NamesMember j k → NamesMember (.arr xs) k

variable {k : String}

theorem namesMember_obj {members : List (String × Json)} :
    NamesMember (.obj members) k ↔ ∃ m ∈ members, m.1 = k ∨ NamesMember m.2 k := by
  constructor
  · intro h
    cases h
    case member j hm     => exact ⟨_, hm, .inl rfl⟩
    case under k' j hm h => exact ⟨_, hm, .inr h⟩
  · rintro ⟨⟨k', j⟩, hm, rfl | h⟩
    · exact .member hm
    · exact .under hm h

theorem namesMember_arr {xs : List Json} :
    NamesMember (.arr xs) k ↔ ∃ j ∈ xs, NamesMember j k := by
  constructor
  · intro h
    cases h
    case element j hj h => exact ⟨j, hj, h⟩
  · rintro ⟨j, hj, h⟩
    exact .element hj h

-- What the guard accepts has no credential-shaped name at any depth, and it rejects nothing else.
mutual

theorem rejectCredentialShaped_eq_ok (path : String) (j : Json) :
    rejectCredentialShaped path j = .ok () ↔ ∀ k, NamesMember j k → ¬CredentialShaped k := by
  cases j
  case obj members =>
    rw [rejectCredentialShaped, rejectMembers_eq_ok path members]
    simp only [namesMember_obj]
    constructor
    · rintro h k ⟨m, hm, rfl | hn⟩
      · exact (h m hm).left
      · exact (h m hm).right k hn
    · exact fun h m hm => ⟨h m.1 ⟨m, hm, .inl rfl⟩, fun k hn => h k ⟨m, hm, .inr hn⟩⟩
  case arr xs      =>
    rw [rejectCredentialShaped, rejectElements_eq_ok path 0 xs]
    simp only [namesMember_arr]
    exact ⟨fun h k ⟨j, hj, hn⟩ => h j hj k hn, fun h j hj k hn => h k ⟨j, hj, hn⟩⟩
  all_goals exact iff_of_true rfl fun k h => by cases h

theorem rejectMembers_eq_ok (path : String) (members : List (String × Json)) :
    rejectMembers path members = .ok () ↔
      ∀ m ∈ members, ¬CredentialShaped m.1 ∧ ∀ k, NamesMember m.2 k → ¬CredentialShaped k := by
  cases members
  case nil            => exact iff_of_true rfl (by simp)
  case cons m members =>
    obtain ⟨key, child⟩ := m
    simp only [rejectMembers, Except.bind_eq_ok, Py.require_eq_ok, List.forall_mem_cons,
      rejectCredentialShaped_eq_ok (path ++ "." ++ key) child, rejectMembers_eq_ok path members,
      exists_const, and_assoc]

theorem rejectElements_eq_ok (path : String) (index : Nat) (xs : List Json) :
    rejectElements path index xs = .ok () ↔
      ∀ j ∈ xs, ∀ k, NamesMember j k → ¬CredentialShaped k := by
  cases xs
  case nil           => exact iff_of_true rfl (by simp)
  case cons child xs =>
    simp only [rejectElements, Except.bind_eq_ok, List.forall_mem_cons,
      rejectCredentialShaped_eq_ok (path ++ "[" ++ toString index ++ "]") child,
      rejectElements_eq_ok path (index + 1) xs, exists_const]

end

end Credentials

open Portfolios

section Loading

variable [Sha256] {payload : Json} {body : TransitionBody} {manifest : PersistentBurstManifest}
variable {load : EventLoader} {seen : List String} {ref : PersistentBurstEventRef}
variable {event : BurstEvent}

namespace PersistentRuntime

omit [Sha256] in
theorem envelope_eq_ok {eventId operation : String} {data : Json}
    (h : envelope payload = .ok (eventId, operation, data)) :
    payload.get? "event_id" = some (.str eventId) ∧ payload.get? "body" = some data := by
  simp only [envelope, Except.bind_eq_ok, Py.require_eq_ok, Except.pure_eq_ok, exists_const,
    Field.get_eq_ok, Typed.nonempty, Typed.string_eq_ok, Prod.mk.injEq] at h
  obtain ⟨_, _, _, _, ⟨_, hid, rfl⟩, _, _, _, _, _, _, ⟨_, hbody, rfl⟩, rfl, rfl, rfl⟩ := h
  exact ⟨hid, hbody⟩

omit [Sha256] in
theorem contract_portfolioId {data : Json} {c : TriggerContract} (h : contract data = .ok c) :
    data.get? "portfolio_id" = some (.str c.portfolioId) := by
  simp only [contract, TriggerContract.new, Except.bind_eq_ok, Except.pure_eq_ok, Field.get_eq_ok,
    Typed.string_eq_ok] at h
  obtain ⟨_, _, _, _, _, _, _, ⟨_, hid, rfl⟩, _, _, _, _, _, _, _, _, rfl⟩ := h
  exact hid

-- What a transition event tells that the host looks at before it is processed.
structure Tells (payload : Json) (eventId portfolioId digest : String) : Prop where
  eventId       : payload.get? "event_id" = some (.str eventId)
  contract      : ∃ body c, payload.get? "body" = some body ∧ body.get? "contract" = some c ∧
    c.get? "portfolio_id" = some (.str portfolioId)
  triggerDigest : ∃ body j t, payload.get? "body" = some body ∧ body.get? "trigger" = some j ∧
    trigger j = .ok t ∧ t.digest = digest

theorem Asks.eq_of_tells {eventId portfolioId digest : String} (h : Asks payload body)
    (hs : Tells payload eventId portfolioId digest) :
    body.trigger.eventId = eventId ∧ body.contract.portfolioId = portfolioId ∧
      body.trigger.digest = digest := by
  obtain ⟨eventId', _, data, henvelope, hbody⟩ := h
  have ⟨hid, hdata⟩ := envelope_eq_ok henvelope
  simp only [transitionBody, Except.bind_eq_ok, Py.require_eq_ok, Except.pure_eq_ok, exists_const,
    Field.get_eq_ok] at hbody
  obtain ⟨_, _, _, _, c, ⟨j, hj, hc⟩, t, ⟨j', hj', ht⟩, _, _, heventId, _, rfl⟩ := hbody
  obtain ⟨body₁, j₁, hb₁, hj₁, hp⟩ := hs.contract
  obtain ⟨body₂, j₂, t₂, hb₂, hj₂, ht₂, hd⟩ := hs.triggerDigest
  cases hdata.symm.trans hb₁
  cases hdata.symm.trans hb₂
  cases hj.symm.trans hj₁
  cases hj'.symm.trans hj₂
  cases ht.symm.trans ht₂
  refine ⟨?_, ?_, hd⟩
  case refine_1 =>
    have he := hid.symm.trans hs.eventId
    simp only [Option.some.injEq, Json.str.injEq] at he
    exact heventId.trans he
  case refine_2 =>
    have he := (contract_portfolioId hc).symm.trans hp
    simpa using he

end PersistentRuntime

theorem triggerDigestFromEvent_eq_ok {digest : String}
    (h : triggerDigestFromEvent payload = .ok (some digest)) :
    ∃ body j t, payload.get? "body" = some body ∧ body.get? "trigger" = some j ∧
      PersistentRuntime.trigger j = .ok t ∧ t.digest = digest := by
  simp only [triggerDigestFromEvent, Except.bind_eq_ok, Field.get_eq_ok] at h
  obtain ⟨_, _, _, _, operation, _, h⟩ := h
  by_cases hb : operation = "bootstrap"
  case pos =>
    rw [if_pos hb] at h
    cases h
  case neg =>
    rw [if_neg hb] at h
    simp only [Except.bind_eq_ok, Py.require_eq_ok, Except.pure_eq_ok, exists_const, Field.get_eq_ok]
      at h
    obtain ⟨_, _, ⟨j, hbody, rfl⟩, _, _, t, ⟨j', hj', ht⟩, _, _, _, hd⟩ := h
    exact ⟨j, j', t, hbody, hj', ht, Option.some.inj hd⟩

-- The event that a reference of a manifest stands for.
structure LoadsEvent (manifest : PersistentBurstManifest) (load : EventLoader)
    (ref : PersistentBurstEventRef) (event : BurstEvent) : Prop where
  text  : ∃ text, load ref.path = .ok (.text text) ∧ contentDigest text = ref.contentDigest ∧
    (Json.loads text).map Json.asDicts = some event.payload
  inert : ∀ k, NamesMember event.payload k → ¬CredentialShaped k
  named : PosixPath.name ref.path = event.eventId ++ ".json"
  tells : PersistentRuntime.Tells event.payload event.eventId manifest.portfolioId event.triggerDigest

theorem loadBurstPayload_eq_ok (h : loadBurstPayload load ref = .ok payload) :
    ∃ text, load ref.path = .ok (.text text) ∧ contentDigest text = ref.contentDigest ∧
      (Json.loads text).map Json.asDicts = some payload := by
  simp only [loadBurstPayload, Except.bind_eq_ok] at h
  obtain ⟨raw, hraw, h⟩ := h
  cases raw
  case text text          =>
    simp only [Except.bind_eq_ok, Py.require_eq_ok, exists_const, Py.ofOption_eq_ok] at h
    exact ⟨text, hraw, h⟩
  case undecodable digest =>
    simp only [Except.bind_eq_ok, Py.require_eq_ok] at h
    obtain ⟨_, _, h⟩ := h
    cases h
  case other              => cases h

theorem loadBurstEvent_eq_ok (h : loadBurstEvent manifest load seen ref = .ok event) :
    LoadsEvent manifest load ref event ∧ event.eventId ∉ seen := by
  simp only [loadBurstEvent, Except.bind_eq_ok, Py.require_eq_ok, Py.ofOption_eq_ok,
    Except.pure_eq_ok, exists_const] at h
  obtain ⟨payload, hpayload, _, hinert, _, _, _, _, _, eventId, hid, ⟨hn⟩, _, hnamed, hfresh, body,
    hbody, j, hj, portfolioId, hp, rfl, _, hdigest, digest, rfl, rfl⟩ := h
  refine ⟨⟨loadBurstPayload_eq_ok hpayload, (rejectCredentialShaped_eq_ok "$" payload).mp hinert, hnamed,
    ?_⟩, hfresh⟩
  constructor
  case eventId       =>
    rw [Field.getD] at hid
    cases hg : payload.get? "event_id"
    case none   =>
      rw [hg] at hid
      cases hid
      exact absurd (by decide) (hn ("event_id", "") (by simp))
    case some j =>
      rw [hg] at hid
      exact congrArg some (Typed.string_eq_ok.mp hid)
  case contract      =>
    obtain ⟨hbody, _⟩ := Option.filter_eq_some_iff.mp hbody
    obtain ⟨c, hc, hj⟩ := Option.bind_eq_some_iff.mp hj
    obtain ⟨hc, _⟩ := Option.filter_eq_some_iff.mp hc
    rw [Typed.string_eq_ok.mp hp] at hj
    exact ⟨body, c, hbody, hc, hj⟩
  case triggerDigest => exact triggerDigestFromEvent_eq_ok hdigest

end Loading

section Processing

variable [Sha256] {s : Portfolios} {id eventId : String} {made : List (Portfolios × Portfolios)}
variable {policy : TransitionPolicy} {o bound : ResumeTickObservation} {D : Discipline Portfolios}
variable {requirement : CoreVerificationRequirement} {event : ExternalTriggerEvidence}
variable {body : TransitionBody} {gates : TransitionGates}
variable {post : List (Portfolios × Portfolios) → Py PersistentRuntimeEventReport → Portfolios → Prop}

omit [Sha256] in
theorem gained_of_quiet (h : ∀ m ∈ made, m.2 = m.1) :
    Accesses.gained (progress id) made = 0 :=
  Accesses.gained_still fun m hm => by rw [h m hm]

theorem Consumed.gained_le {result : ResumeTickResult} (h : Consumed id made result) :
    Accesses.gained (progress id) made ≤ 1 := by
  rw [h.gained]
  split <;> simp

-- A tick commits once at most, also when it raises.
theorem Ticked.gained_le {r : Py ResumeTickResult} (ho : o.portfolioId = id)
    (h : Ticked id policy (some o) requirement made r) :
    Accesses.gained (progress id) made ≤ 1 := by
  cases r
  case ok result => exact (h.consumed ho).gained_le
  case error e   =>
    cases h
    case refused hm => exact (gained_of_quiet hm).trans_le zero_le_one
    case unconfirmed made s₃ s₄ s₅ cur latest t receipt o' he _ hm ht hc _ _ =>
      cases he
      have hid := ht.portfolioId.symm.trans ho
      have h₁ := hc.current.progress
      have h₂ := hc.holds.progress
      rw [hid] at h₁
      rw [hc.portfolioId, hid] at h₂
      rw [Accesses.gained_append, gained_of_quiet hm, Accesses.gained_cons, h₁, h₂, hc.generation,
        @gained_of_quiet id [(s₅, s₅)] (by simp)]
      omega

theorem Delivered.gained_le {r : Py ResumeTickResult} (hid : bound.portfolioId = id)
    (h : Delivered id policy event bound requirement made r) :
    Accesses.gained (progress id) made ≤ 1 := by
  cases r
  case ok result => exact (h.consumed hid).gained_le
  case error e   =>
    cases h
    case refused hm => exact (gained_of_quiet hm).trans_le zero_le_one
    case ticked s₁ s₂ s₃ s₄ made hb _ ht =>
      have ⟨hbinds, _⟩ := bindStatements_eq_ok hb
      have hstill : ∀ m ∈ [(s₁, s₁), (s₂, s₃), (s₄, s₄)], progress id m.2 = progress id m.1 := by
        simp [progress, head?, hbinds.heads]
      rw [Accesses.gained_append, Accesses.gained_still hstill, Nat.zero_add]
      exact ht.gained_le hid

-- What a transition has done when its report is returned.
inductive TransitionReported (id : String) (report : PersistentRuntimeEventReport) :
    List (Portfolios × Portfolios) → Prop
  | reads {s₁ s₂ before latest after latest' made result} : s₁.Holds before latest →
    before.portfolioId = id → Consumed id made result → s₂.Holds after latest' →
    after.portfolioId = id → report.Reads before after latest' result.disposition →
    TransitionReported id report ((s₁, s₁) :: made ++ [(s₂, s₂)])

theorem TransitionReported.gained_le {report : PersistentRuntimeEventReport}
    (h : TransitionReported id report made) : Accesses.gained (progress id) made ≤ 1 := by
  cases h
  case reads s₁ s₂ before latest after latest' made result hh hp hc hh' hp' hr =>
    rw [Accesses.gained_append, Accesses.gained_cons, Nat.sub_self, Nat.zero_add,
      @gained_of_quiet _ [(s₂, s₂)] (by simp)]
    exact hc.gained_le

theorem transitionEvent_respects_reported (hD : PortfolioDiscipline D) (hm : D.Mutual)
    (hl : ∀ bound, AdmittedBody body gates bound → LetsDeliver D body.policy body.trigger bound
      gates.coreRequirement gates.coreVerification)
    (ho : ∀ more r s', TransitionReported body.contract.portfolioId r more →
      post (made ++ more) (.ok r) s')
    (he : ∀ more e s', Accesses.gained (progress body.contract.portfolioId) more ≤ 1 →
      post (made ++ more) (.error e) s') :
    (transitionEvent eventId body gates).Respects D post made s := by
  have hquiet (made' : List (Portfolios × Portfolios)) (e : PyError) (s' : Portfolios)
      (hq : Quiet made made') : post made' (.error e) s' := by
    obtain ⟨more, rfl, hmore⟩ := hq
    exact he more e s' ((gained_of_quiet hmore).trans_le zero_le_one)
  refine .bind <| recoverPortfolio_respects hD.consistent
    (fun s₁ s₂ before latest hi hr hh hp hi₂ hr₂ => ?_) fun made' e s₁ s₂ hq _ _ _ _ _ =>
      hquiet made' e s₂ hq
  refine .bind <| consumeExternalTrigger_respects hD hm hl
    (fun bound more result s₃ ha _ _ hd => ?_) fun e s' _ _ => hquiet _ e s' (.single s₁)
  have hg := hd.gained_le ha.portfolioId
  have hg' : Accesses.gained (progress body.contract.portfolioId) ((s₁, s₁) :: more) ≤ 1 := by
    rwa [Accesses.gained_cons, Nat.sub_self, Nat.zero_add]
  rw [List.append_assoc, List.singleton_append]
  cases result
  case error e   => exact he _ e s₃ hg'
  case ok result =>
    refine .bind <| recoverPortfolio_respects hD.consistent
      (fun s₄ s₅ after latest' hi₄ hr₄ hh' hp' hi₅ hr₅ => ?_) fun made' e s₁ s₂ hq _ _ _ _ _ => ?_
    case refine_2 =>
      obtain ⟨quiet, rfl, hq⟩ := hq
      rw [List.append_assoc]
      refine he _ e s₂ ?_
      rwa [Accesses.gained_append, gained_of_quiet hq]
    refine Program.Respects.lift fun s₆ hi₆ hr₆ => ?_
    rw [List.append_assoc]
    cases hchecked : PersistentRuntimeEventReport.checked _
    case error e =>
      refine he _ e s₆ ?_
      rwa [Accesses.gained_append, @gained_of_quiet _ [(s₄, s₄)] (by simp)]
    case ok r    =>
      have hr := PersistentRuntimeEventReport.checked_eq_ok hchecked
      subst hr
      exact ho _ _ s₆ <| .reads hh hp (hd.consumed ha.portfolioId) hh' hp'
        ⟨rfl, rfl, rfl, rfl, rfl, rfl, rfl⟩

-- A payload with a trigger digest is processed as the transition that it asks for, or not at all.
theorem processPersistentRuntimeEvent_respects_reported {payload : Json} {digest : String}
    {verification : CoreVerificationReceipt} {coreReport : CoreRehearsalReport}
    (hD : PortfolioDiscipline D) (hm : D.Mutual)
    (hl : ∀ body bound, PersistentRuntime.Asks payload body →
      AdmittedBody body ⟨digest, requirement, verification, coreReport⟩ bound →
        LetsDeliver D body.policy body.trigger bound requirement verification)
    (hid : ∀ body, PersistentRuntime.Asks payload body → body.contract.portfolioId = id)
    (ho : ∀ more r s', TransitionReported id r more → post (made ++ more) (.ok r) s')
    (he : ∀ more e s', Accesses.gained (progress id) more ≤ 1 → post (made ++ more) (.error e) s') :
    (processPersistentRuntimeEvent payload (some digest) (some requirement) (some verification)
      (some coreReport)).Respects D post made s := by
  have hnil (e : PyError) (s' : Portfolios) : post made (.error e) s' := by
    have h := he [] e s' (by simp [Accesses.gained])
    rwa [List.append_nil] at h
  refine .lift_bind (fun envelope henvelope => ?_) fun e s₁ _ _ _ => hnil e s₁
  obtain ⟨eventId, operation, data⟩ := envelope
  by_cases hop : operation = "bootstrap"
  case pos =>
    simp only [if_pos hop]
    refine .lift_bind (fun _ hn => ?_) fun e s₁ _ _ _ => hnil e s₁
    cases Py.require_eq_ok.mp hn
  case neg =>
    simp only [if_neg hop]
    refine .lift_bind (fun _ _ => ?_) fun e s₁ _ _ _ => hnil e s₁
    refine .lift_bind (fun body hbody => ?_) fun e s₁ _ _ _ => hnil e s₁
    have hasks : PersistentRuntime.Asks payload body := ⟨eventId, operation, data, henvelope, hbody⟩
    have hbody := hid body hasks
    exact transitionEvent_respects_reported hD hm (fun bound => hl body bound hasks)
      (hbody.symm ▸ ho) (hbody.symm ▸ he)

end Processing

end GeneralExecution
