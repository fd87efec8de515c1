import GeneralExecution.Portfolio.Theorems.EventWire
import GeneralExecution.Portfolio.UntypedCheckpoint

namespace GeneralExecution

open Lossless (record string member nat)

-- What is read is written like what it was read of.

theorem texts_lossless {cls cls' : ErrorClass} {message message' : String} :
    Lossless (Typed.list cls message (Typed.string cls' message')) :=
  string.list

theorem readString_lossless : Lossless Read.string := by
  intro j s h
  cases j
  case str => exact congrArg Json.str (Except.ok.inj h)
  all_goals cases h

theorem bool_lossless : Lossless Typed.bool := by
  intro j b h
  cases j
  case bool => exact congrArg Json.bool (Except.ok.inj h)
  all_goals cases h

theorem any_lossless : Lossless Read.any := by
  intro j v h
  rw [← Except.pure_eq_ok.mp h]
  rfl

theorem blockerFromDict_lossless : Lossless blockerFromDict := by
  intro data b h
  simp only [blockerFromDict, PortfolioBlocker.new, Except.bind_eq_ok, Except.pure_eq_ok,
    Py.ofOption_eq_ok] at h
  have ⟨_, hx, _, hkind, _, hdetail, _, hrefs, _, hversion, _, _, _, hp, _, _, _, _, he⟩ := h
  subst he
  apply record hx rfl rfl
  simp only [asdict, List.forall_mem_cons]
  exact ⟨PyLiteral.toPy_of_parse hp ▸ member.get hkind, string.get hdetail,
    texts_lossless.get hrefs, string.get hversion, List.forall_mem_nil _⟩

theorem wakeFromDict_lossless : Lossless wakeFromDict := by
  intro data w h
  simp only [wakeFromDict, WakeCondition.new, Except.bind_eq_ok, Except.pure_eq_ok,
    Py.ofOption_eq_ok] at h
  have ⟨_, hx, _, hkind, _, hvalue, _, hversion, _, _, _, hp, _, _, he⟩ := h
  subst he
  apply record hx rfl rfl
  simp only [asdict, List.forall_mem_cons]
  exact ⟨PyLiteral.toPy_of_parse hp ▸ member.get hkind, string.get hvalue, string.get hversion,
    List.forall_mem_nil _⟩

theorem wakeCondition_lossless : Lossless Read.wakeCondition := by
  intro j o h
  cases j
  case null =>
    rw [← Except.pure_eq_ok.mp h]
    rfl
  case obj kvs =>
    simp only [Read.wakeCondition, Except.bind_eq_ok, Except.pure_eq_ok] at h
    obtain ⟨w, hw, he⟩ := h
    rw [← he]
    exact wakeFromDict_lossless _ w hw
  all_goals cases h

theorem entryFromDict_lossless : Lossless entryFromDict := by
  intro data e h
  simp only [entryFromDict, PortfolioEntry.new, Except.bind_eq_ok, Except.pure_eq_ok,
    Py.ofOption_eq_ok] at h
  have ⟨_, hx, _, hid, _, hrole, _, hstate, _, hobjective, _, hgate, _, hnext, _, hsource, _,
    hevidence, _, hboundary, _, href, _, hblockers, _, hwake, _, hcheckpoint, _, hversion, _, _,
    _, hprole, _, hpstate, _, _, _, _, _, _, _, _, _, _, he⟩ := h
  subst he
  apply record hx rfl rfl
  simp only [asdict, List.forall_mem_cons]
  exact ⟨string.get hid, PyLiteral.toPy_of_parse hprole ▸ member.get hrole,
    PyLiteral.toPy_of_parse hpstate ▸ member.get hstate, string.get hobjective, string.get hgate,
    string.get hnext, string.get hsource, texts_lossless.get hevidence, string.opt.get hboundary,
    string.opt.get href, blockerFromDict_lossless.list.get hblockers,
    wakeCondition_lossless.get hwake, string.opt.get hcheckpoint, string.get hversion,
    List.forall_mem_nil _⟩

theorem portfolioStateFromDict_lossless : Lossless portfolioStateFromDict := by
  intro data s h
  simp only [portfolioStateFromDict, PortfolioState.new, Except.bind_eq_ok, Except.pure_eq_ok] at h
  obtain ⟨_, hx, _, hid, _, hgen, _, hactive, _, hsecondary, _, hpassive, _, hprevious, _, hversion,
    _, _, _, _, _, _, _, _, _, _, he⟩ := h
  subst he
  apply record hx rfl rfl
  simp only [asdict, List.forall_mem_cons]
  exact ⟨string.get hid, nat.get hgen, entryFromDict_lossless.get hactive,
    entryFromDict_lossless.get hsecondary, entryFromDict_lossless.list.get hpassive,
    string.opt.get hprevious, string.get hversion, List.forall_mem_nil _⟩

-- Each of the decoders of an evidence ends alike.
theorem evidenceOfFields_lossless {cls : ErrorClass} {label : String} {data : Json}
    {e : CheckpointEvidence} {u : Unit}
    (hx : Typed.exactFields cls label ["kind", "locator", "digest", "schema_version"] data = .ok u)
    (h : evidenceOfFields data = .ok e) : normalize (parsed data) = normalize (toPy e) := by
  simp only [evidenceOfFields, CheckpointEvidence.new, Except.bind_eq_ok, Except.pure_eq_ok] at h
  obtain ⟨_, hkind, _, hlocator, _, hdigest, _, hversion, _, _, _, _, _, _, he⟩ := h
  subst he
  apply record hx rfl rfl
  simp only [asdict, List.forall_mem_cons]
  exact ⟨string.get hkind, string.get hlocator, string.get hdigest, string.get hversion,
    List.forall_mem_nil _⟩

theorem evidenceFromDict_lossless : Lossless evidenceFromDict := by
  intro data e h
  have ⟨_, hx, he⟩ := Except.bind_eq_ok.mp h
  exact evidenceOfFields_lossless hx he

theorem checkpointFromDict_lossless : Lossless checkpointFromDict := by
  intro data c h
  simp only [checkpointFromDict, ExecutionCheckpoint.new, Except.bind_eq_ok, Except.pure_eq_ok,
    Py.ofOption_eq_ok] at h
  have ⟨_, hx, _, hid, _, hgen, _, hdigest, _, hwork, _, hrole, _, hbefore, _, hafter, _, haction,
    _, hsource, _, hobserved, _, hsummary, _, hevidence, _, hcanonical, _, huncertain, _, hnext, _,
    hstop, _, hboundary, _, hversion, _, _, _, _, _, _, _, hprole, _, hpbefore, _, hpafter, _, _, _,
    _, _, _, _, _, _, _, _, _, _, _, he⟩ := h
  subst he
  apply record hx rfl rfl
  simp only [asdict, List.forall_mem_cons]
  exact ⟨string.get hid, nat.get hgen, string.get hdigest, string.get hwork,
    PyLiteral.toPy_of_parse hprole ▸ member.get hrole,
    PyLiteral.toPy_of_parse hpbefore ▸ member.get hbefore,
    PyLiteral.toPy_of_parse hpafter ▸ member.get hafter, string.get haction, string.get hsource,
    string.get hobserved, string.get hsummary, evidenceFromDict_lossless.list.get hevidence,
    texts_lossless.get hcanonical, texts_lossless.get huncertain, texts_lossless.get hnext,
    bool_lossless.get hstop, readString_lossless.opt.get hboundary, string.get hversion,
    List.forall_mem_nil _⟩

theorem untypedCheckpointFromDict_lossless : Lossless untypedCheckpointFromDict := by
  intro data c h
  simp only [untypedCheckpointFromDict, UntypedCheckpoint.new, Except.bind_eq_ok,
    Except.pure_eq_ok, Py.ofOption_eq_ok] at h
  obtain ⟨_, hx, _, hid, _, hgen, _, hdigest, _, hwork, _, hrole, _, hbefore, _, hafter, _, haction,
    _, hsource, _, hobserved, _, hsummary, _, hevidence, _, hcanonical, _, huncertain, _, hnext, _,
    hstop, _, hboundary, _, hversion, _, _, _, _, _, _, _, hprole, _, hpbefore, _, hpafter, _, _, _,
    _, _, _, _, _, _, _, _, _, _, _, he⟩ := h
  subst he
  apply record hx rfl rfl
  simp only [asdict, List.forall_mem_cons]
  exact ⟨string.get hid, nat.get hgen, string.get hdigest, string.get hwork,
    PyLiteral.toPy_of_parse hprole ▸ member.get hrole,
    PyLiteral.toPy_of_parse hpbefore ▸ member.get hbefore,
    PyLiteral.toPy_of_parse hpafter ▸ member.get hafter, string.get haction, string.get hsource,
    string.get hobserved, string.get hsummary, evidenceFromDict_lossless.list.get hevidence,
    texts_lossless.get hcanonical, texts_lossless.get huncertain, texts_lossless.get hnext,
    any_lossless.get hstop, any_lossless.get hboundary, string.get hversion,
    List.forall_mem_nil _⟩

theorem ruleFromDict_lossless : Lossless ruleFromDict := by
  intro data r h
  simp only [ruleFromDict, TransitionRule.new, Except.bind_eq_ok, Except.pure_eq_ok,
    Py.ofOption_eq_ok] at h
  have ⟨_, hx, _, hid, _, hfrom, _, hevent, _, hto, _, hnext, _, heffect, _, hevidence, _, hmode,
    _, hboundary, _, hversion, _, _, _, _, _, hpfrom, _, hpto, _, hpevent, _, hpeffect, _, hpmode,
    _, _, _, _, _, _, he⟩ := h
  subst he
  apply record hx rfl rfl
  simp only [asdict, List.forall_mem_cons]
  exact ⟨string.get hid, PyLiteral.toPy_of_parse hpfrom ▸ member.get hfrom,
    PyLiteral.toPy_of_parse hpevent ▸ member.get hevent,
    PyLiteral.toPy_of_parse hpto ▸ member.get hto, string.get hnext,
    PyLiteral.toPy_of_parse hpeffect ▸ member.get heffect, texts_lossless.get hevidence,
    PyLiteral.toPy_of_parse hpmode ▸ member.get hmode, string.opt.get hboundary,
    string.get hversion, List.forall_mem_nil _⟩

theorem transitionPolicyFromDict_lossless : Lossless transitionPolicyFromDict := by
  intro data p h
  simp only [transitionPolicyFromDict, TransitionPolicy.new, Except.bind_eq_ok,
    Except.pure_eq_ok] at h
  obtain ⟨_, hx, _, hid, _, hrevision, _, hrules, _, hdefault, _, hversion, _, _, _, _, _, _, _, _,
    _, _, _, _, _, _, he⟩ := h
  subst he
  apply record hx rfl rfl
  simp only [asdict, List.forall_mem_cons]
  exact ⟨string.get hid, string.get hrevision, ruleFromDict_lossless.list.get hrules,
    string.get hdefault, string.get hversion, List.forall_mem_nil _⟩

namespace PersistentRuntime

theorem checkpointEvidence_lossless : Lossless checkpointEvidence := by
  intro data e h
  have ⟨_, hx, he⟩ := Except.bind_eq_ok.mp h
  exact evidenceOfFields_lossless hx he

theorem authorityGrant_lossless : Lossless authorityGrant := by
  intro data o h
  unfold authorityGrant at h
  split at h
  case h_1 =>
    rw [← Except.pure_eq_ok.mp h]
    rfl
  case h_2 =>
    simp only [exact, TransitionAuthorityGrant.new, Except.bind_eq_ok, Except.pure_eq_ok] at h
    obtain ⟨_, hx, _, hpolicy, _, hrule, _, hboundary, _, href, _, hauthority, _, hversion, g,
      ⟨_, _, _, _, _, _, _, _, hg⟩, he⟩ := h
    subst he hg
    apply record hx rfl rfl
    simp only [asdict, List.forall_mem_cons]
    exact ⟨string.get hpolicy, string.get hrule, string.get hboundary, string.get href,
      string.get hauthority, string.get hversion, List.forall_mem_nil _⟩

theorem wakeAdmission_lossless : Lossless wakeAdmission := by
  intro data o h
  unfold wakeAdmission at h
  split at h
  case h_1 =>
    rw [← Except.pure_eq_ok.mp h]
    rfl
  case h_2 =>
    simp only [exact, PassiveWakeAdmission.new, Except.bind_eq_ok, Except.pure_eq_ok] at h
    obtain ⟨_, hx, _, hid, _, hgen, _, hstate, _, hwork, _, hwake, _, hpolicy, _, hrule, _, hevidence,
      _, hnext, _, hgrant, _, hversion, a, ⟨_, _, _, _, _, _, _, _, _, _, _, _, ha⟩, he⟩ := h
    subst he ha
    apply record hx rfl rfl
    simp only [asdict, List.forall_mem_cons]
    exact ⟨string.get hid, nat.get hgen, string.get hstate, string.get hwork, string.get hwake,
      string.get hpolicy, string.get hrule, checkpointEvidence_lossless.list.get hevidence,
      string.get hnext, authorityGrant_lossless.get hgrant, string.get hversion,
      List.forall_mem_nil _⟩

theorem observation_lossless : Lossless observation := by
  intro data o h
  simp only [observation, exact, ResumeTickObservation.new, Except.bind_eq_ok,
    Except.pure_eq_ok] at h
  obtain ⟨_, hx, _, hid, _, hgen, _, hstate, _, hpolicy, _, hevent, _, hevidence, _, haction, _,
    hobserved, _, hsummary, _, hrefs, _, huncertain, _, hwake, _, hgrant, _, hversion, _, _, _, _,
    _, _, _, _, _, _, _, _, _, _, _, _, he⟩ := h
  subst he
  apply record hx rfl rfl
  simp only [asdict, List.forall_mem_cons]
  exact ⟨string.get hid, nat.get hgen, string.get hstate, string.get hpolicy, string.get hevent,
    checkpointEvidence_lossless.list.get hevidence, string.get haction, string.get hobserved,
    string.get hsummary, texts_lossless.get hrefs, texts_lossless.get huncertain,
    wakeAdmission_lossless.get hwake, authorityGrant_lossless.get hgrant, string.get hversion,
    List.forall_mem_nil _⟩

-- `_observation(json.loads(text))`
def observationOfText (text : String) : Py ResumeTickObservation := do
  let data ← Py.ofOption .valueError "invalid JSON" <| Json.loads text
  observation data

end PersistentRuntime

-- A checkpoint whose authority fields have their types.
def ExecutionCheckpoint.untyped (c : ExecutionCheckpoint) : UntypedCheckpoint :=
  { c with
    authorityStop     := toPy c.authorityStop
    authorityBoundary := toPy c.authorityBoundary
    stop              := untypedStopOk_iff.mpr c.stop }

theorem ExecutionCheckpoint.toPy_untyped (c : ExecutionCheckpoint) : toPy c.untyped = toPy c :=
  rfl

theorem Field.get_any {α : Type} [ToPy α] {read : Json → Py α} {data : Json} {k : String} {a : α}
    (hr : ∀ j a, read j = .ok a → parsed j = toPy a) (h : Field.get read data k = .ok a) :
    Field.get Read.any data k = .ok (toPy a) := by
  unfold Field.get at h ⊢
  cases hj : data.get? k
  case none   => simp [hj] at h
  case some j =>
    rw [hj] at h
    exact congrArg Except.ok (hr j a h)

theorem parsed_of_bool (j : Json) (b : Bool) (h : Typed.bool j = .ok b) : parsed j = toPy b := by
  cases j
  case bool => exact congrArg PyValue.bool (Except.ok.inj h)
  all_goals cases h

theorem parsed_of_opt_string (j : Json) (o : Option String) (h : Read.opt Read.string j = .ok o) :
    parsed j = toPy o := by
  cases j
  case null =>
    rw [← Except.pure_eq_ok.mp h]
    rfl
  case str s =>
    rw [← Except.pure_eq_ok.mp h]
    rfl
  all_goals cases h

-- The decoder takes a checkpoint for what it is, and takes others too.
theorem untypedCheckpointFromDict_of_typed {data : Json} {c : ExecutionCheckpoint}
    (h : checkpointFromDict data = .ok c) : untypedCheckpointFromDict data = .ok c.untyped := by
  simp only [checkpointFromDict, ExecutionCheckpoint.new, Except.bind_eq_ok, Except.pure_eq_ok,
    Py.ofOption_eq_ok] at h
  have ⟨_, hx, _, hid, _, hgen, _, hdigest, _, hwork, _, hrole, _, hbefore, _, hafter, _, haction,
    _, hsource, _, hobserved, _, hsummary, _, hevidence, _, hcanonical, _, huncertain, _, hnext, _,
    hstop, _, hboundary, _, hversion, _, _, _, _, _, _, _, hprole, _, hpbefore, _, hpafter, _, _, _,
    _, _, _, _, _, _, _, _, _, _, _, he⟩ := h
  have hrole' := PyLiteral.spelling_of_parse hprole
  have hbefore' := PyLiteral.spelling_of_parse hpbefore
  have hafter' := PyLiteral.spelling_of_parse hpafter
  have hstop' := Field.get_any parsed_of_bool hstop
  have hboundary' := Field.get_any parsed_of_opt_string hboundary
  have hc := UntypedCheckpoint.new_eq c.untyped
  subst he hrole' hbefore' hafter'
  simp only [untypedCheckpointFromDict, hx, hid, hgen, hdigest, hwork, hrole, hbefore, hafter,
    haction, hsource, hobserved, hsummary, hevidence, hcanonical, huncertain, hnext, hstop',
    hboundary', hversion, Except.ok_bind]
  exact hc

-- What is accepted of a text is written like the object that the text is of: nothing is dropped,
-- filled in or rewritten.
def KeepsText {α : Type} [ToPy α] (deserialize : String → Py α) : Prop :=
  ∀ text a, deserialize text = .ok a →
    ∃ data, Json.loads text = some data ∧ canonicalJson (toPy a) = canonicalJson (parsed data)

structure LosslessCodec {α : Type} [ToPy α] (serialize : α → String) (deserialize : String → Py α)
    (digest : α → String) : Prop where
  canonical : ∀ a, serialize a = canonicalJson (toPy a)
  readBack  : ∀ a, ∃ a', deserialize (serialize a) = .ok a' ∧ a' = a ∧ digest a' = digest a
  keeps     : KeepsText deserialize

section Texts

variable {α : Type} [ToPy α] {fromDict : Json → Py α} {cls : ErrorClass} {message : String}
variable {digest : α → String}

theorem KeepsText.of_fromDict (hl : Lossless fromDict) :
    KeepsText (fun text => do fromDict (← Py.ofOption cls message (Json.loads text))) := by
  intro text a h
  simp only [Except.bind_eq_ok, Py.ofOption_eq_ok] at h
  obtain ⟨data, hd, ha⟩ := h
  exact ⟨data, hd, congrArg Json.dumps (hl data a ha).symm⟩

theorem LosslessCodec.of_fromDict (hn : ∀ a, fromDict (normalize (toPy a)) = .ok a)
    (hl : Lossless fromDict) :
    LosslessCodec (fun a => canonicalJson (toPy a))
      (fun text => do fromDict (← Py.ofOption cls message (Json.loads text))) digest where
  canonical _ := rfl
  readBack a  := by
    refine ⟨a, ?_, rfl, rfl⟩
    rw [loads_canonicalJson, Py.ofOption, Except.ofOption, Except.ok_bind, hn]
  keeps := .of_fromDict hl

end Texts

-- Portfolios, checkpoints, policies and observations are read back with their digests, and no
-- decoder changes what it accepts; this also holds of checkpoints with authority fields of any type.
theorem codecs_lossless [Sha256] :
    LosslessCodec serializePortfolioState deserializePortfolioState PortfolioState.digest ∧
      LosslessCodec serializeCheckpoint deserializeCheckpoint ExecutionCheckpoint.digest ∧
      KeepsText deserializeUntypedCheckpoint ∧
      LosslessCodec serializeTransitionPolicy deserializeTransitionPolicy
        TransitionPolicy.digest ∧
      LosslessCodec (fun o => canonicalJson (toPy o)) PersistentRuntime.observationOfText
        ResumeTickObservation.digest := by
  refine ⟨?_, ?_, ?_, ?_, ?_⟩
  case refine_1 =>
    exact .of_fromDict portfolioStateFromDict_normalize portfolioStateFromDict_lossless
  case refine_2 => exact .of_fromDict checkpointFromDict_normalize checkpointFromDict_lossless
  case refine_3 => exact .of_fromDict untypedCheckpointFromDict_lossless
  case refine_4 =>
    exact .of_fromDict transitionPolicyFromDict_normalize transitionPolicyFromDict_lossless
  case refine_5 =>
    exact .of_fromDict PersistentRuntime.observation_normalize
      PersistentRuntime.observation_lossless

end GeneralExecution
