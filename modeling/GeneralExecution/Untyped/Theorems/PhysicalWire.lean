import GeneralExecution.Untyped.PhysicalWire

namespace GeneralExecution.Untyped

-- What none of the handlers around the physical decoders catches.
def Escaping : PyError → Prop :=
  PyError.Uncaught [.keyError, .typeError, .valueError]

namespace Escaping

variable {message : String}

@[simp]
theorem not_keyError : ¬Escaping ⟨.keyError, message⟩ := by
  simp [Escaping, PyError.Uncaught, ErrorClass.IsA]

@[simp]
theorem not_typeError : ¬Escaping ⟨.typeError, message⟩ := by
  simp [Escaping, PyError.Uncaught, ErrorClass.IsA]

@[simp]
theorem not_valueError : ¬Escaping ⟨.valueError, message⟩ := by
  simp [Escaping, PyError.Uncaught, ErrorClass.IsA]

@[simp]
theorem not_adapterError : ¬Escaping ⟨.adapterError, message⟩ := by
  simp [Escaping, PyError.Uncaught, ErrorClass.IsA, ErrorClass.parent]

@[simp]
theorem not_physicalOutcomeCodecError : ¬Escaping ⟨.physicalOutcomeCodecError, message⟩ := by
  simp [Escaping, PyError.Uncaught, ErrorClass.IsA, ErrorClass.parent]

@[simp]
theorem attributeError : Escaping ⟨.attributeError, message⟩ := by
  simp [Escaping, PyError.Uncaught, ErrorClass.IsA, ErrorClass.parent]

@[simp]
theorem overflowError : Escaping ⟨.overflowError, message⟩ := by
  simp [Escaping, PyError.Uncaught, ErrorClass.IsA, ErrorClass.parent]

theorem uncaught_adapterError {e : PyError} (h : Escaping e) :
    e.Uncaught [.keyError, .typeError, .valueError, .adapterError] := by
  intro c hc
  simp only [List.mem_cons, List.not_mem_nil, or_false] at hc
  obtain rfl | rfl | rfl | rfl := hc
  case inr.inr.inr => exact fun ha => h .valueError (by simp) (ErrorClass.isA_valueError ha rfl)
  all_goals exact h _ (by simp)

end Escaping

open Except (Raises raises_bind not_raises_bind not_raises_mapM raises_pure)

-- The parts of a value that its decoders find in it.

namespace Value

def has (data : Value) (k : String) : Prop :=
  (data.member? k).isSome = true

-- A number beyond the range of the format, such as `1e400`, reads as an infinity.
def infiniteAt (data : Value) (k : String) : Prop :=
  ∃ negative, data.member? k = some (.float (.infinite negative))

theorem isDict_of_member? {data v : Value} {k : String} (h : data.member? k = some v) :
    data.isDict = true := by
  cases data
  case dict => rfl
  all_goals cases h

@[simp]
theorem get_eq_ok {data v d : Value} {k : String} :
    data.get k d = .ok v ↔ data.isDict = true ∧ (data.member? k).getD d = v := by
  simp [get]

@[simp]
theorem raises_get {data d : Value} {k : String} :
    Raises Escaping (data.get k d) ↔ data.isDict = false := by
  simp [get]

@[simp]
theorem index_eq_ok {data v : Value} {k : String} :
    data.index k = .ok v ↔ data.member? k = some v := by
  unfold index
  split
  case isTrue  => exact Py.ofOption_eq_ok
  case isFalse hd => exact iff_of_false (by simp) fun h => hd (isDict_of_member? h)

@[simp]
theorem not_raises_index {data : Value} {k : String} : ¬Raises Escaping (data.index k) := by
  unfold index
  split
  case isTrue  => simp
  case isFalse => simp

@[simp]
theorem not_raises_iter {v : Value} : ¬Raises Escaping v.iter := by
  cases v
  all_goals simp [iter]

@[simp]
theorem not_raises_unpackPair {v : Value} : ¬Raises Escaping v.unpackPair := by
  apply not_raises_bind not_raises_iter
  intro items _
  split
  case h_1 => exact raises_pure
  case h_2 => simp

end Value

theorem raises_wrap_escaping {α : Type} {classes : List ErrorClass} {message : String} {x : Py α}
    (h : ∀ e : PyError, Escaping e → e.Uncaught classes) :
    Raises Escaping (Py.wrap classes .physicalOutcomeCodecError message x) ↔ Raises Escaping x := by
  rw [Py.raises_wrap Escaping.not_physicalOutcomeCodecError]
  exact exists_congr fun e => and_congr_right fun _ => and_iff_right_of_imp (h e)

-- What none of the handlers catches, or is not an error of this codec.
def Undeclared : PyError → Prop :=
  PyError.Uncaught [.physicalOutcomeCodecError]

@[simp]
theorem Undeclared.not_codecError {message : String} :
    ¬Undeclared ⟨.physicalOutcomeCodecError, message⟩ := by
  simp [Undeclared, PyError.Uncaught, ErrorClass.IsA]

@[simp]
theorem Undeclared.valueError {message : String} : Undeclared ⟨.valueError, message⟩ := by
  simp [Undeclared, PyError.Uncaught, ErrorClass.IsA, ErrorClass.parent]

@[simp]
theorem Undeclared.unicodeEncodeError {message : String} :
    Undeclared ⟨.unicodeEncodeError, message⟩ := by
  simp [Undeclared, PyError.Uncaught, ErrorClass.IsA, ErrorClass.parent]

theorem raises_wrapUnlessCodec {α : Type} {message : String} {x : Py α} :
    Raises Undeclared (wrapUnlessCodec message x) ↔ Raises Escaping x := by
  cases x
  case ok      => exact iff_of_false Except.raises_ok Except.raises_ok
  case error e =>
    rw [Except.raises_error]
    by_cases hc : e.cls.IsA .physicalOutcomeCodecError
    case pos =>
      rw [wrapUnlessCodec, if_pos hc, Except.raises_error]
      apply iff_of_false
      · exact fun h => h _ (by simp) hc
      · exact fun h => h .valueError (by simp) (ErrorClass.isA_valueError hc rfl)
    case neg =>
      rw [wrapUnlessCodec, if_neg hc, Py.raises_wrap Undeclared.not_codecError,
        Except.raises_error]
      apply and_iff_left
      simpa [Undeclared, PyError.Uncaught] using hc

section Constructors

variable {name uri digest : PyText}

-- The constructors raise nothing but `ValueError`.

@[simp]
theorem not_raises_checkAll {α : Type} {q : α → Prop} [DecidablePred q]
    {text : String → α → String} {xs : List (String × α)} :
    ¬Raises Escaping (checkAll q text xs) := by
  unfold checkAll
  split
  case h_1 => simp
  case h_2 => exact Except.raises_ok

@[simp]
theorem ArtifactRef.not_raises_new : ¬Raises Escaping (ArtifactRef.new name uri digest) := by
  simp [ArtifactRef.new, raises_bind, checkNonempty]

end Constructors

variable {data : Value} {k : String}

@[simp]
theorem raises_items : Raises Escaping (items data k) ↔ data.isDict = false := by
  simp [items, raises_bind]

@[simp]
theorem raises_hasSchema? {schema : String} :
    Raises Escaping (hasSchema? data schema) ↔ data.isDict = false := by
  simp [hasSchema?]

variable [Builtins]

@[simp]
theorem Value.raises_toInt {v : Value} :
    Raises Escaping v.toInt ↔ ∃ negative, v = .float (.infinite negative) := by
  cases v
  case float x =>
    cases x
    all_goals simp [toInt]
  all_goals simp [toInt]

@[simp]
theorem not_raises_text : ¬Raises Escaping (text data k) := by
  apply not_raises_bind Value.not_raises_index
  exact fun _ _ => raises_pure

@[simp]
theorem exists_text : (∃ t, text data k = .ok t) ↔ data.has k := by
  simp [text, Value.has, Option.isSome_iff_exists]

@[simp]
theorem raises_text? : Raises Escaping (text? data k) ↔ data.isDict = false := by
  rw [text?, raises_bind, Value.raises_get]
  apply or_iff_left
  rintro ⟨v, _, hv⟩
  split at hv
  case isTrue  => exact raises_pure hv
  case isFalse => simp at hv

@[simp]
theorem exists_text? : (∃ t, text? data k = .ok t) ↔ data.isDict = true := by
  constructor
  case mp =>
    rintro ⟨t, ht⟩
    have ⟨v, hv, _⟩ := Except.bind_eq_ok.mp ht
    exact (Value.get_eq_ok.mp hv).1
  case mpr =>
    intro hd
    have hg : data.get k .none = .ok ((data.member? k).getD .none) := Value.get_eq_ok.mpr ⟨hd, rfl⟩
    rw [text?, hg, Except.ok_bind]
    split
    case isTrue     => exact ⟨none, rfl⟩
    case isFalse hn =>
      cases h : data.member? k
      case none   => exact absurd (h ▸ rfl) hn
      case some v => exact ⟨some v.toStr, by simp [text, Value.index_eq_ok.mpr h]⟩

@[simp]
theorem raises_integer : Raises Escaping (integer data k) ↔ data.infiniteAt k := by
  rw [integer, raises_bind, or_iff_right Value.not_raises_index, Value.infiniteAt]
  simp only [Value.index_eq_ok, Value.raises_toInt]
  constructor
  case mp  => exact fun ⟨v, hv, negative, hn⟩ => ⟨negative, hn ▸ hv⟩
  case mpr => exact fun ⟨negative, hv⟩ => ⟨_, hv, negative, rfl⟩

@[simp]
theorem raises_texts : Raises Escaping (texts data k) ↔ data.isDict = false := by
  simp [texts]

@[simp]
theorem not_raises_artifactFromDict : ¬Raises Escaping (artifactFromDict data) := by
  simp [artifactFromDict, raises_bind]

@[simp]
theorem raises_artifacts : Raises Escaping (artifacts data k) ↔ data.isDict = false := by
  rw [artifacts, raises_bind, raises_items]
  apply or_iff_left
  exact fun ⟨_, _, h⟩ => not_raises_mapM (fun _ _ => not_raises_artifactFromDict) h

@[simp]
theorem raises_metadataFromDict :
    Raises Escaping (metadataFromDict data) ↔ data.isDict = false := by
  rw [metadataFromDict, raises_bind, raises_items]
  apply or_iff_left
  exact fun ⟨_, _, h⟩ => not_raises_mapM (fun _ _ => by simp) h

@[simp]
theorem not_raises_artifactFromDict? : ¬Raises Escaping (artifactFromDict? data) := by
  unfold artifactFromDict?
  split
  case isTrue  => simp
  case isFalse => exact raises_pure

@[simp]
theorem raises_specFromDict : Raises Escaping (specFromDict data) ↔ data.isDict = false := by
  cases hd : data.isDict
  case false => simp [specFromDict, raises_bind, hd]
  case true =>
    simp [specFromDict, raises_bind, ExecutionSpec.new, checkNonempty, checkUnique, hd]

-- The members of an object are read one after the other, and what none of the handlers catches is
-- raised by a number of attempts that is infinite, or by what should be an object and is not.

def ResultEscapes (data : Value) : Prop :=
  data.isDict = false ∨
  hasSchema? data "ge.result-envelope.v1" = .ok true ∧
    (∀ k ∈ ["session_id", "spec_id", "spec_digest", "runner_id"], data.has k) ∧
    data.infiniteAt "attempt"

theorem resultFromDict_escapes : Raises Escaping (resultFromDict data) ↔ ResultEscapes data := by
  rw [ResultEscapes]
  cases hd : data.isDict
  case false => simp [resultFromDict, raises_bind, hd]
  case true =>
    simp [resultFromDict, raises_bind, ResultEnvelope.new, checkNonempty, and_assoc, hd]

def RequestEscapes (data : Value) : Prop :=
  data.isDict = false ∨
  hasSchema data "ge.adapter-dispatch.v1" = true ∧
    (∀ k ∈ ["invocation_id", "session_id", "spec_id", "spec_digest", "plan_id", "plan_digest",
      "registry_digest", "runner_id", "runner_capability_digest", "mode"], data.has k) ∧
    (data.infiniteAt "attempt" ∨
      (∃ n, integer data "attempt" = .ok n) ∧
      (∀ k ∈ ["provider", "adapter", "adapter_version"], data.has k) ∧
      ∃ spec, data.member? "spec" = some spec ∧ spec.isDict = false)

@[simp]
theorem requestFromDict_escapes : Raises Escaping (requestFromDict data) ↔ RequestEscapes data := by
  rw [RequestEscapes]
  cases hd : data.isDict
  case false => simp [requestFromDict, raises_bind, hd, hasSchema]
  case true =>
    simp [requestFromDict, raises_bind, AdapterDispatchRequest.new, and_assoc, hd, hasSchema]

def AuthorizationEscapes (data : Value) : Prop :=
  hasSchema data "ge.physical-authorization.v1" = true ∧
    ∃ request, data.member? "request" = some request ∧
      (RequestEscapes request ∨
        (∃ r, requestFromDict request = .ok r) ∧ data.infiniteAt "physical_attempt")

def OptionalResultEscapes (data : Value) : Prop :=
  data.isNone = false ∧ ResultEscapes data

@[simp]
theorem resultFromDict?_escapes :
    Raises Escaping (resultFromDict? data) ↔ OptionalResultEscapes data := by
  unfold resultFromDict? OptionalResultEscapes
  cases data.isNone
  case false => simp [resultFromDict_escapes]
  case true  => simp

def ObservationEscapes (data : Value) : Prop :=
  hasSchema data "ge.physical-observation.v1" = true ∧
    OptionalResultEscapes ((data.member? "result").getD .none)

def ReceiptEscapes (data : Value) : Prop :=
  hasSchema data "ge.physical-receipt.v1" = true ∧
    (∀ k ∈ ["authorization_id", "authorization_digest", "invocation_id", "request_digest"],
      data.has k) ∧
    data.infiniteAt "physical_attempt"

theorem physicalAuthorizationFromDict_escapes :
    Raises Escaping (physicalAuthorizationFromDict data) ↔ AuthorizationEscapes data := by
  rw [AuthorizationEscapes, physicalAuthorizationFromDict, raises_bind,
    raises_wrap_escaping fun _ => Escaping.uncaught_adapterError]
  cases hd : data.isDict
  case false => simp [hasSchema, hd]
  case true  => simp [raises_bind, PhysicalAttemptAuthorization.new, hd]

theorem physicalObservationFromDict_escapes :
    Raises Escaping (physicalObservationFromDict data) ↔ ObservationEscapes data := by
  rw [ObservationEscapes, physicalObservationFromDict, raises_bind,
    raises_wrap_escaping fun _ he => he]
  cases hd : data.isDict
  case false => simp [hasSchema, hd]
  case true  => simp [raises_bind, PhysicalObservation.new, hd]

theorem physicalReceiptFromDict_escapes :
    Raises Escaping (physicalReceiptFromDict data) ↔ ReceiptEscapes data := by
  rw [ReceiptEscapes, physicalReceiptFromDict, raises_bind, raises_wrap_escaping fun _ he => he]
  cases hd : data.isDict
  case false => simp [hasSchema, hd]
  case true  => simp [raises_bind, PhysicalReceipt.new, and_assoc, hd]

def PartsEscape (data : Value) : Prop :=
  ∃ authorization, data.member? "authorization" = some authorization ∧
    (AuthorizationEscapes authorization ∨
      (∃ a, physicalAuthorizationFromDict authorization = .ok a) ∧
      ∃ observation, data.member? "observation" = some observation ∧
        (ObservationEscapes observation ∨
          (∃ o, physicalObservationFromDict observation = .ok o) ∧
          ∃ receipt, data.member? "receipt" = some receipt ∧
            (ReceiptEscapes receipt ∨
              (∃ r, physicalReceiptFromDict receipt = .ok r) ∧
              OptionalResultEscapes ((data.member? "result").getD .none))))

theorem outcomeParts_escapes (hd : data.isDict = true) :
    Raises Escaping (outcomeParts data) ↔ PartsEscape data := by
  simp [outcomeParts, raises_bind, physicalAuthorizationFromDict_escapes,
    physicalObservationFromDict_escapes, physicalReceiptFromDict_escapes, PartsEscape, hd]

section Verification

variable {a : PhysicalAttemptAuthorization} {o : PhysicalObservation}

omit [Builtins]

theorem request_digestible (h : a.toDict.Digestible) : a.request.toDict.Digestible :=
  digestible_record.mp h _ (.tail _ (.head _))

theorem invocationId_noSurrogate (h : a.toDict.Digestible) : a.request.invocationId.NoSurrogate :=
  Value.digestible_str.mp <| digestible_record.mp (request_digestible h) _ (.tail _ (.head _))

theorem transportStatus_noSurrogate : o.transportStatus.NoSurrogate := by
  have ⟨s, _, hs⟩ := List.mem_map.mp o.status_mem
  exact hs ▸ PyText.noSurrogate_ofString s

-- The texts of an outcome that are digested, and are not what a digest gives.
@[mk_iff]
structure Written (a : PhysicalAttemptAuthorization) (o : PhysicalObservation) : Prop where
  authorization        : a.toDict.Digestible
  providerInvocationId : (optional o.providerInvocationId).Digestible
  result               : (resultToDict? o.result).Digestible
  failureCode          : (optional o.failureCode).Digestible
  detailDigest         : (optional o.detailDigest).Digestible

variable [Sha256]

@[simp]
theorem sha256Digest_undeclared {v : Value} :
    Raises Undeclared (sha256Digest v) ↔ ¬v.Digestible :=
  sha256Digest_raises (fun _ => Undeclared.valueError) fun _ => Undeclared.unicodeEncodeError

@[simp]
theorem stableId_undeclared {v : Value} {tag : String} :
    Raises Undeclared (stableId tag v) ↔ ¬v.Digestible :=
  stableId_raises (fun _ => Undeclared.valueError) fun _ => Undeclared.unicodeEncodeError

theorem noSurrogate_of_responseDigest {provider failure detail : Option PyText} {status d : PyText}
    {result : Option ResultEnvelope}
    (h : responseDigest a provider status result failure detail = .ok d) : d.NoSurrogate := by
  have ⟨_, _, h⟩ := Except.bind_eq_ok.mp h
  have ⟨_, _, h⟩ := Except.bind_eq_ok.mp h
  have ⟨_, _, h⟩ := Except.bind_eq_ok.mp h
  exact noSurrogate_of_sha256Digest h

theorem observation_raises :
    Raises Undeclared (verifyObservationAgainstAuthorization a o) ↔ ¬Written a o := by
  by_cases ha : a.toDict.Digestible
  case pos =>
    have ⟨i, hi⟩ := (exists_stableId "gea").mpr ha
    have ⟨d, hd⟩ := exists_sha256Digest.mpr ha
    have ⟨r, hr⟩ := exists_sha256Digest.mpr (request_digestible ha)
    have hi' := noSurrogate_of_stableId hi
    have hd' := noSurrogate_of_sha256Digest hd
    have hr' := noSurrogate_of_sha256Digest hr
    have hv := invocationId_noSurrogate ha
    have ht := transportStatus_noSurrogate (o := o)
    simp only [verifyObservationAgainstAuthorization, responseDigest, hi, hd, hr, Except.ok_bind]
    simp [digestible_record, hi', hd', hr', hv, ht, written_iff, ha, PyText.noSurrogate_ofString]
  case neg =>
    apply iff_of_true _ fun h => ha h.authorization
    simp [verifyObservationAgainstAuthorization, responseDigest, raises_bind, ha]

-- An observation that agrees with its authorization repeats digests, so it has one itself.
theorem observation_digestible (hw : Written a o)
    (h : verifyObservationAgainstAuthorization a o = .ok true) : o.toDict.Digestible := by
  have ⟨expected, he, h⟩ := Except.bind_eq_ok.mp h
  have ⟨i, hi, h⟩ := Except.bind_eq_ok.mp h
  have ⟨r, hr, h⟩ := Except.bind_eq_ok.mp h
  have h := Except.ok.inj h
  simp only [Bool.and_eq_true, decide_eq_true_eq] at h
  obtain ⟨⟨⟨⟨ha, hv⟩, hq⟩, hp⟩, _⟩ := h
  simp [PhysicalObservation.toDict, digestible_record, ha, hv, hq, hp,
    noSurrogate_of_stableId hi, noSurrogate_of_sha256Digest hr, noSurrogate_of_responseDigest he,
    invocationId_noSurrogate hw.authorization, transportStatus_noSurrogate, hw.result,
    hw.providerInvocationId, hw.failureCode, hw.detailDigest, PyText.noSurrogate_ofString]

theorem receipt_not_raises {receipt : PhysicalReceipt} (hw : Written a o)
    (h : verifyObservationAgainstAuthorization a o = .ok true) :
    ¬Raises Undeclared (verifyReceipt a o receipt) := by
  have ha := hw.authorization
  have hr := request_digestible ha
  have ho := observation_digestible hw h
  unfold verifyReceipt
  apply not_raises_bind (by simp [ha])
  intro i _
  apply not_raises_bind (by simp [ha])
  intro d _
  apply not_raises_bind (by simp [hr])
  intro r _
  split
  case isTrue  => simp [ho]
  case isFalse => exact raises_pure

theorem verifyIntrinsicOutcome_raises {b : PhysicalOutcomeBundle} :
    Raises Undeclared (verifyIntrinsicOutcome b) ↔
      b.observation.result = b.result ∧ ¬Written b.authorization b.observation := by
  by_cases hb : b.observation.result = b.result
  case neg =>
    rw [verifyIntrinsicOutcome, if_neg hb]
    exact iff_of_false raises_pure fun h => hb h.1
  case pos =>
    rw [verifyIntrinsicOutcome, if_pos hb, raises_bind, observation_raises, and_iff_right hb]
    apply or_iff_left_of_imp
    rintro ⟨c, hc, h⟩ hw
    cases c
    case false => exact raises_pure h
    case true =>
      revert h
      apply not_raises_bind (receipt_not_raises hw hc)
      intro c' _
      cases c'
      case false => exact raises_pure
      case true =>
        simp only [if_true]
        split
        case isFalse => exact raises_pure
        case isTrue =>
          split
          case h_1      => exact raises_pure
          case h_2 r hr =>
            have hd : r.toDict.Digestible := by simpa [hb, hr, resultToDict?] using hw.result
            simp [hd]

theorem serialize_not_raises {b : PhysicalOutcomeBundle} {c : Bool}
    (h : verifyIntrinsicOutcome b = .ok c) : ¬Raises Undeclared (serializePhysicalOutcome b) := by
  unfold serializePhysicalOutcome
  rw [h, Except.ok_bind]
  apply not_raises_bind (by simp)
  exact fun _ _ => by simp [canonicalJson, b.finite_toDict]

end Verification

variable [Sha256]

def OutcomeEscapes (data : Value) : Prop :=
  hasSchema data physicalOutcomeWireSchema = true ∧
    (PartsEscape data ∨
      ∃ b, outcomeParts data = .ok b ∧ b.observation.result = b.result ∧
        ¬Written b.authorization b.observation)

theorem physicalOutcomeFromDict_escapes :
    Raises Undeclared (physicalOutcomeFromDict data) ↔ OutcomeEscapes data := by
  rw [OutcomeEscapes, physicalOutcomeFromDict]
  cases hs : hasSchema data physicalOutcomeWireSchema
  case false => simp [raises_bind]
  case true =>
    have hd : data.isDict = true := by
      rw [hasSchema, Bool.and_eq_true] at hs
      exact hs.1
    simp [raises_bind, raises_wrapUnlessCodec, outcomeParts_escapes hd,
      verifyIntrinsicOutcome_raises]

theorem physicalOutcomeFromDict_verified {b : PhysicalOutcomeBundle}
    (h : physicalOutcomeFromDict data = .ok b) : verifyIntrinsicOutcome b = .ok true := by
  have ⟨_, _, h⟩ := Except.bind_eq_ok.mp h
  have ⟨b', _, h⟩ := Except.bind_eq_ok.mp h
  have ⟨c, hc, h⟩ := Except.bind_eq_ok.mp h
  have ⟨_, ht, h⟩ := Except.bind_eq_ok.mp h
  rw [← Except.ok.inj h, hc, Py.require_eq_ok.mp ht]

theorem deserializePhysicalOutcome_failsClosed {payload : PyText} :
    Py.FailsClosed .physicalOutcomeCodecError (deserializePhysicalOutcome payload) ↔
      ¬Unreadable payload ∧
        ∀ data, Builtins.loads payload = .ok data → ¬OutcomeEscapes data := by
  have hl : ∀ c ∈ [ErrorClass.typeError, .jsonDecodeError, .valueError, .recursionError],
      ¬c.IsA .physicalOutcomeCodecError := by
    decide
  have hc (data : Value) : Raises Undeclared (do
      let outcome ← physicalOutcomeFromDict data
      Py.require ((← serializePhysicalOutcome outcome) = payload) .physicalOutcomeCodecError
        "physical outcome payload is not canonical"
      return outcome) ↔ OutcomeEscapes data := by
    rw [raises_bind, physicalOutcomeFromDict_escapes]
    apply or_iff_left
    rintro ⟨b, hb, h⟩
    revert h
    apply not_raises_bind (serialize_not_raises (physicalOutcomeFromDict_verified hb))
    exact fun _ _ => by simp
  rw [Py.failsClosed_iff, deserializePhysicalOutcome, raises_bind, raises_loads hl]
  simp only [loads_eq_ok, not_or, not_exists, not_and]
  exact and_congr_right fun _ => forall₂_congr fun data _ => not_congr (hc data)

end GeneralExecution.Untyped
