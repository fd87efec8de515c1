import GeneralExecution.Portfolio.Theorems.BurstEvents
import GeneralExecution.Portfolio.Theorems.EventWire

namespace Json

theorem dictItems_of_nodup {members : List (String × Json)} (h : (members.map Prod.fst).Nodup) :
    dictItems members = members := by
  have hnames : (members.map Prod.fst).reverse.dedup.reverse = members.map Prod.fst := by
    rw [List.dedup_eq_self.mpr (List.nodup_reverse.mpr h), List.reverse_reverse]
  have hlookup : ∀ m ∈ members, (lookup m.1 members).map (m.1, ·) = some m :=
    fun m hm => by rw [lookup_of_mem h hm]; rfl
  rw [dictItems, hnames, List.filterMap_map]
  exact (List.filterMap_congr hlookup).trans List.filterMap_some

theorem asDictsAll_of {xs : List Json} (h : ∀ j ∈ xs, asDicts j = j) : asDictsAll xs = xs := by
  induction xs
  case nil          => rfl
  case cons j xs ih =>
    have ⟨hj, hxs⟩ := List.forall_mem_cons.mp h
    rw [asDictsAll, hj, ih hxs]

theorem asDictsMembers_of {members : List (String × Json)} (h : ∀ m ∈ members, asDicts m.2 = m.2) :
    asDictsMembers members = members := by
  induction members
  case nil               => rfl
  case cons m members ih =>
    obtain ⟨k, j⟩ := m
    have ⟨hj, hmembers⟩ := List.forall_mem_cons.mp h
    rw [asDictsMembers, ih hmembers, show asDicts j = j from hj]

end Json

namespace GeneralExecution

open Portfolios

section Payloads

-- The names of the members of a value's dictionaries, at any depth.
mutual

def memberNames : PyValue → List String
  | .list xs  => memberNamesAll xs
  | .tuple xs => memberNamesAll xs
  | .set xs   => memberNamesAll xs
  | .dict kvs => memberNamesOf kvs
  | _         => []

def memberNamesAll : List PyValue → List String
  | []      => []
  | x :: xs => memberNames x ++ memberNamesAll xs

def memberNamesOf : List (String × PyValue) → List String
  | []            => []
  | (k, v) :: kvs => k :: (memberNames v ++ memberNamesOf kvs)

end

-- No dictionary of a value gives a member twice.
mutual

def distinctNames : PyValue → Bool
  | .list xs  => distinctNamesAll xs
  | .tuple xs => distinctNamesAll xs
  | .set xs   => distinctNamesAll xs
  | .dict kvs => distinctKeys kvs && distinctNamesOf kvs
  | _         => true

def distinctNamesAll : List PyValue → Bool
  | []      => true
  | x :: xs => distinctNames x && distinctNamesAll xs

def distinctNamesOf : List (String × PyValue) → Bool
  | []            => true
  | (_, v) :: kvs => distinctNames v && distinctNamesOf kvs

end

mutual

theorem memberNames_of_normalize {k : String} (v : PyValue) (h : NamesMember (normalize v) k) :
    k ∈ memberNames v := by
  cases v
  case list xs  => exact memberNamesAll_of_normalize xs (namesMember_arr.mp h)
  case tuple xs => exact memberNamesAll_of_normalize xs (namesMember_arr.mp h)
  case set xs   =>
    obtain ⟨j, hj, hn⟩ := namesMember_arr.mp h
    exact memberNamesAll_of_normalize xs ⟨j, List.mem_mergeSort.mp hj, hn⟩
  case dict kvs =>
    obtain ⟨m, hm, hn⟩ := namesMember_obj.mp h
    exact memberNamesOf_of_normalize kvs ⟨m, (Json.sortMembers_perm _).mem_iff.mp hm, hn⟩
  all_goals cases h

theorem memberNamesAll_of_normalize {k : String} (xs : List PyValue)
    (h : ∃ j ∈ normalizeAll xs, NamesMember j k) : k ∈ memberNamesAll xs := by
  cases xs
  case nil       => simp [normalizeAll] at h
  case cons x xs =>
    obtain ⟨j, hj, hn⟩ := h
    rw [memberNamesAll, List.mem_append]
    rcases List.mem_cons.mp hj with rfl | hj
    · exact .inl <| memberNames_of_normalize x hn
    · exact .inr <| memberNamesAll_of_normalize xs ⟨j, hj, hn⟩

theorem memberNamesOf_of_normalize {k : String} (kvs : List (String × PyValue))
    (h : ∃ m ∈ normalizeMembers kvs, m.1 = k ∨ NamesMember m.2 k) : k ∈ memberNamesOf kvs := by
  cases kvs
  case nil        => simp [normalizeMembers] at h
  case cons m kvs =>
    obtain ⟨k', v⟩ := m
    obtain ⟨m, hm, hn⟩ := h
    rw [memberNamesOf, List.mem_cons, List.mem_append]
    rcases List.mem_cons.mp hm with rfl | hm
    · exact hn.imp Eq.symm fun hn => .inl <| memberNames_of_normalize v hn
    · exact .inr <| .inr <| memberNamesOf_of_normalize kvs ⟨m, hm, hn⟩

end

mutual

theorem asDicts_normalize (v : PyValue) (h : distinctNames v = true) :
    (normalize v).asDicts = normalize v := by
  cases v
  case list xs  => exact congrArg Json.arr <| Json.asDictsAll_of <| asDicts_normalizeAll xs h
  case tuple xs => exact congrArg Json.arr <| Json.asDictsAll_of <| asDicts_normalizeAll xs h
  case set xs   =>
    refine congrArg Json.arr <| Json.asDictsAll_of fun j hj => ?_
    exact asDicts_normalizeAll xs h j (List.mem_mergeSort.mp hj)
  case dict kvs =>
    have ⟨hd, hkvs⟩ := Bool.and_eq_true_iff.mp h
    rw [normalize, Json.asDicts, Json.asDictsMembers_of fun m hm => ?_, Json.dictItems_of_nodup ?_]
    · exact ((Json.sortMembers_perm _).map _).nodup_iff.mpr (normalizeMembers_nodup hd)
    · exact asDicts_normalizeMembers kvs hkvs m ((Json.sortMembers_perm _).mem_iff.mp hm)
  all_goals rfl

theorem asDicts_normalizeAll (xs : List PyValue) (h : distinctNamesAll xs = true) :
    ∀ j ∈ normalizeAll xs, j.asDicts = j := by
  cases xs
  case nil       => simp [normalizeAll]
  case cons x xs =>
    have ⟨hx, hxs⟩ := Bool.and_eq_true_iff.mp h
    exact List.forall_mem_cons.mpr ⟨asDicts_normalize x hx, asDicts_normalizeAll xs hxs⟩

theorem asDicts_normalizeMembers (kvs : List (String × PyValue)) (h : distinctNamesOf kvs = true) :
    ∀ m ∈ normalizeMembers kvs, m.2.asDicts = m.2 := by
  cases kvs
  case nil        => simp [normalizeMembers]
  case cons m kvs =>
    obtain ⟨k, v⟩ := m
    have ⟨hv, hkvs⟩ := Bool.and_eq_true_iff.mp h
    exact List.forall_mem_cons.mpr ⟨asDicts_normalize v hv, asDicts_normalizeMembers kvs hkvs⟩

end

end Payloads

section Loading

open PersistentRuntime

variable {eventId operation : String} {body : TransitionBody}

-- The members of an event and of its body.

theorem payload_get? {fields : PyDict} (k : String) :
    (payload eventId operation fields).get? k = (Json.lookup k [
      ("schema_version", toPy "ge.persistent-runtime-event.v1"), ("event_id", toPy eventId),
      ("operation", toPy operation), ("body", .dict fields)]).map normalize :=
  normalize_get? rfl k

theorem body_get? (k : String) :
    (normalize (.dict (asdict body))).get? k = (Json.lookup k (asdict body)).map normalize :=
  normalize_get? rfl k

variable [Sha256] {manifest : PersistentBurstManifest} {load : EventLoader} {seen : List String}
variable {ref : PersistentBurstEventRef}

theorem triggerDigestFromEvent_payload (h : Sendable eventId body) :
    triggerDigestFromEvent (payload eventId "transition" (asdict body)) =
      .ok (some body.trigger.digest) := by
  have hschema : Field.hasSchema (payload eventId "transition" (asdict body))
      "ge.persistent-runtime-event.v1" = true := by
    rw [Field.hasSchema, payload_get?]
    rfl
  simp only [triggerDigestFromEvent, Except.bind_eq_ok, Field.get_eq_ok]
  refine ⟨(), exact_normalize rfl, (), Py.require_of hschema _ _, "transition", ⟨_, payload_get? _, rfl⟩, ?_⟩
  rw [if_neg (by decide)]
  simp only [Except.bind_eq_ok, Py.require_eq_ok, Except.pure_eq_ok, exists_const, Field.get_eq_ok]
  exact ⟨trivial, _, ⟨_, payload_get? _, rfl⟩, (), exact_normalize rfl, body.trigger,
    ⟨_, body_get? _, trigger_normalize _⟩, eventId, ⟨_, payload_get? _, rfl⟩, h.eventId, rfl⟩

-- What a burst takes from the text of a transition event.
theorem loadBurstEvent_payload (h : Sendable eventId body) (hid : ¬Text.Blank eventId)
    (hl : loadBurstPayload load ref = .ok (payload eventId "transition" (asdict body)))
    (hk : ∀ k, NamesMember (payload eventId "transition" (asdict body)) k → ¬CredentialShaped k)
    (hn : PosixPath.name ref.path = eventId ++ ".json") (hs : eventId ∉ seen)
    (hp : body.contract.portfolioId = manifest.portfolioId) :
    loadBurstEvent manifest load seen ref = .ok {
      payload       := payload eventId "transition" (asdict body)
      eventId       := eventId
      triggerDigest := body.trigger.digest } := by
  have hschema : Field.hasSchema (payload eventId "transition" (asdict body))
      "ge.persistent-runtime-event.v1" = true := by
    rw [Field.hasSchema, payload_get?]
    rfl
  have hbody : ((payload eventId "transition" (asdict body)).get? "body").filter Json.isObj =
      some (normalize (.dict (asdict body))) := by
    rw [payload_get?]
    rfl
  have hportfolio : (normalize (toPy body.contract)).get? "portfolio_id" =
      some (.str body.contract.portfolioId) :=
    normalize_get? (show distinctKeys (asdict body.contract) = true from rfl) _
  have hcontract : (((normalize (.dict (asdict body))).get? "contract").filter Json.isObj).bind
      (·.get? "portfolio_id") = some (.str body.contract.portfolioId) := by
    rw [body_get?]
    exact hportfolio
  have hstring : Typed.string .persistentBurstHostError "burst event portfolio mismatch"
      (.str body.contract.portfolioId) = .ok body.contract.portfolioId := rfl
  have hoperation : Field.getD (Typed.string .persistentBurstHostError
      "native burst manifest may contain transition events only") ""
      (payload eventId "transition" (asdict body)) "operation" = .ok "transition" := by
    rw [Field.getD, payload_get?]
    rfl
  have heventId : Field.getD (Typed.nonempty .persistentBurstHostError "event_id") ""
      (payload eventId "transition" (asdict body)) "event_id" = .ok eventId := by
    rw [Field.getD, payload_get?]
    rfl
  simp only [loadBurstEvent, Except.bind_eq_ok, Py.require_eq_ok, Py.ofOption_eq_ok,
    Except.pure_eq_ok, exists_const]
  exact ⟨_, hl, (), (rejectCredentialShaped_eq_ok "$" _).mpr hk, rfl, hschema, _, hoperation, rfl, _,
    heventId, _, Guard.nonempty_of (List.forall_mem_singleton.mpr hid), hn, hs, _, hbody, _, hcontract, _,
    hstring, hp, _, triggerDigestFromEvent_payload h, _, rfl, rfl⟩

end Loading

section Reports

variable {step : PersistentBurstStep}

theorem PersistentBurstStep.checked_of
    (hn : ∀ x ∈ [("event_path", step.eventPath), ("event_id", step.eventId), ("status", step.status)],
      ¬Text.Blank x.2)
    (hd : ∀ x ∈ [("event_content_digest", step.eventContentDigest),
      ("event_report_digest", step.eventReportDigest), ("pre_state_digest", step.preStateDigest),
      ("post_state_digest", step.postStateDigest)], IsLowerSha256 x.2)
    (hg : step.preGeneration ≤ step.postGeneration) : step.checked = .ok step := by
  have hdigests : checkBurstDigests [("event_content_digest", step.eventContentDigest),
      ("event_report_digest", step.eventReportDigest), ("pre_state_digest", step.preStateDigest),
      ("post_state_digest", step.postStateDigest)] = .ok ⟨hd⟩ := Guard.each_of hd
  simp only [checked, Guard.nonempty_of hn, hdigests, Py.require_of hg, Except.ok_bind]
  rfl

theorem PersistentBurstExecutionReport.checked_of {report : PersistentBurstExecutionReport}
    (hn : ∀ x ∈ [("burst_id", report.burstId), ("portfolio_id", report.portfolioId),
      ("stop_reason", report.stopReason)], ¬Text.Blank x.2)
    (hd : ∀ x ∈ [("manifest_digest", report.manifestDigest),
      ("initial_state_digest", report.initialStateDigest),
      ("final_state_digest", report.finalStateDigest)], IsLowerSha256 x.2)
    (hg : report.initialGeneration ≤ report.finalGeneration) (ha : report.authorityCreated = false) :
    report.checked = .ok report := by
  have hdigests : checkBurstDigests [("manifest_digest", report.manifestDigest),
      ("initial_state_digest", report.initialStateDigest),
      ("final_state_digest", report.finalStateDigest)] = .ok ⟨hd⟩ := Guard.each_of hd
  simp only [checked, Guard.nonempty_of hn, hdigests, Py.require_of hg, Py.require_of ha,
    Except.ok_bind]
  rfl

variable [Sha256] {manifest : PersistentBurstManifest} {initial final : PortfolioState}
variable {steps : List PersistentBurstStep} {disposition : BurstExecutionDisposition} {reason : String}

theorem isLowerSha256_contentDigest (text : String) : IsLowerSha256 (contentDigest text) :=
  ⟨_, String.toList_append .., Sha256.length text, Sha256.mem_lowerHex text⟩

theorem burstReport_of (hr : ¬Text.Blank reason) (hg : initial.generation ≤ final.generation) :
    ∃ report, burstReport manifest initial final steps disposition reason = .ok report ∧
      report.steps = steps := by
  have hb := manifest.nonempty ("burst_id", manifest.burstId) (by simp)
  have hp := manifest.nonempty ("portfolio_id", manifest.portfolioId) (by simp)
  refine ⟨_, PersistentBurstExecutionReport.checked_of ?_ ?_ hg rfl, rfl⟩
  case refine_1 =>
    simp only [List.mem_cons, List.not_mem_nil, or_false, forall_eq_or_imp, forall_eq]
    exact ⟨hb, hp, hr⟩
  case refine_2 =>
    simp only [List.mem_cons, List.not_mem_nil, or_false, forall_eq_or_imp, forall_eq]
    exact ⟨isLowerSha256_sha256Digest _, isLowerSha256_sha256Digest _, isLowerSha256_sha256Digest _⟩

end Reports

end GeneralExecution
