import GeneralExecution.Objects.Theorems.Ledger
import GeneralExecution.Objects.Theorems.Operations

namespace GeneralExecution

theorem mem_filterMap_append {α β : Type} {f : α → Option β} {as : List α} {a : α} {b : β} :
    b ∈ (as ++ [a]).filterMap f ↔ b ∈ as.filterMap f ∨ f a = some b := by
  simp

theorem nodup_filterMap_append {α β : Type} {f : α → Option β} {as : List α} {a : α}
    (h : (as.filterMap f).Nodup) (hn : ∀ b, f a = some b → b ∉ as.filterMap f) :
    ((as ++ [a]).filterMap f).Nodup := by
  rw [List.filterMap_append]
  cases hf : f a with
  | none   => simpa [hf] using h
  | some b => simpa [hf] using List.Nodup.concat (hn b hf) h

-- If each element yields one hit exactly when it is mapped to `c`, there are as many hits as `c`s.
theorem countP_flatMap_eq_count {α β γ : Type} [DecidableEq γ] {f : α → Option γ}
    {w : α → List β} {p : β → Bool} {as : List α} {c : γ}
    (h : ∀ a ∈ as, (w a).countP p = if f a = some c then 1 else 0) :
    (as.flatMap w).countP p = (as.filterMap f).count c := by
  induction as with
  | nil          => rfl
  | cons a as ih =>
    rw [List.flatMap_cons, List.countP_append, h a (by simp), ih fun b hb => h b (by simp [hb])]
    cases hf : f a with
    | none   => simp [hf]
    | some b =>
      rw [List.filterMap_cons_some hf, List.count_cons, Nat.add_comm]
      simp

-- What a ledger is built with, each recording with the record that it has returned.
inductive LedgerOperation
  | append (eventType : String) (payload : PyValue)
  | physical (bundle : PhysicalOutcomeBundle) (record : PhysicalAttemptRecord)
  | duplicate (duplicate : DuplicatePhysicalAttempt)
  | capacity (transition : CapacityTransition) (state : RunnerCapacityState)
      (record : CapacityTransitionRecord)

section

variable [Sha256] {ledger ledger' : ExecutionLedger} {eventType : String} {payload : PyValue}
variable {events : List (String × PyValue)} {bundle other : PhysicalOutcomeBundle}
variable {record : PhysicalAttemptRecord} {transition transition' : CapacityTransition}
variable {state state' : RunnerCapacityState} {capacityRecord : CapacityTransitionRecord}
variable {ops : List LedgerOperation} {d : String}

-- An operation that has been performed on a ledger.
inductive Performs : LedgerOperation → ExecutionLedger → ExecutionLedger → Prop
  | append {ledger ledger' : ExecutionLedger} {eventType : String} {payload : PyValue} :
      appendEvent ledger eventType payload = .ok ledger' →
      Performs (.append eventType payload) ledger ledger'
  | physical {ledger ledger' : ExecutionLedger} {bundle : PhysicalOutcomeBundle}
      {record : PhysicalAttemptRecord} :
      recordPhysicalAttempt ledger bundle = .ok (ledger', record) →
      Performs (.physical bundle record) ledger ledger'
  | duplicate {ledger ledger' : ExecutionLedger} {duplicate : DuplicatePhysicalAttempt} :
      recordDuplicatePhysicalAttempt ledger duplicate = .ok ledger' →
      Performs (.duplicate duplicate) ledger ledger'
  | capacity {ledger ledger' : ExecutionLedger} {transition : CapacityTransition}
      {state : RunnerCapacityState} {record : CapacityTransitionRecord} :
      recordCapacityTransition ledger transition state = .ok (ledger', record) →
      Performs (.capacity transition state record) ledger ledger'

-- The ledgers that come of the empty one, by any operations in any order.
inductive Built : List LedgerOperation → ExecutionLedger → Prop
  | empty : Built [] {}
  | perform {ops : List LedgerOperation} {op : LedgerOperation} {ledger ledger' : ExecutionLedger} :
      Built ops ledger → Performs op ledger ledger' → Built (ops ++ [op]) ledger'

theorem appendEvent_eq_ok :
    appendEvent ledger eventType payload = .ok ledger' ↔
      ¬Text.Blank eventType ∧
        ledger' = { events := ledger.events ++ [ledgerEvent ledger eventType payload] } := by
  simp only [appendEvent, Except.bind_eq_ok, Py.require_eq_ok, exists_const, Except.pure_eq_ok]
  exact and_congr_right fun _ => eq_comm

-- A longer ledger that is accepted if the shorter one is.
structure Extends (ledger ledger' : ExecutionLedger) : Prop where
  events   : ledger.events <+: ledger'.events
  verified : verifyLedger ledger = true → verifyLedger ledger' = true

theorem Extends.trans {ledger'' : ExecutionLedger} (h : Extends ledger ledger')
    (h' : Extends ledger' ledger'') : Extends ledger ledger'' :=
  ⟨h.events.trans h'.events, fun hv => h'.verified (h.verified hv)⟩

theorem appendEvent_extends (h : appendEvent ledger eventType payload = .ok ledger') :
    Extends ledger ledger' := by
  have ⟨_, he⟩ := appendEvent_eq_ok.mp h
  rw [he]
  constructor
  case events   => exact List.prefix_append ..
  case verified =>
    intro hv
    refine verifyEvents_append.mpr ⟨hv, ?_⟩
    exact ⟨by simp [ledgerEvent], head_eq ledger, rfl⟩

def LedgerEvent.content (event : LedgerEvent) : String × PyValue :=
  (event.eventType, event.payload)

-- The events that a ledger has gained, and what they carry.
structure Gains (ledger ledger' : ExecutionLedger) (gained : List (String × PyValue)) : Prop
    extends Extends ledger ledger' where
  carries :
    ∃ added, ledger'.events = ledger.events ++ added ∧ added.map LedgerEvent.content = gained

theorem appendEvent_gains (h : appendEvent ledger eventType payload = .ok ledger') :
    Gains ledger ledger' [(eventType, payload)] := by
  refine ⟨appendEvent_extends h, ?_⟩
  have ⟨_, he⟩ := appendEvent_eq_ok.mp h
  exact ⟨_, congrArg ExecutionLedger.events he, rfl⟩

theorem appendEvents_gains (h : appendEvents ledger events = .ok ledger') :
    Gains ledger ledger' events := by
  induction events generalizing ledger with
  | nil            =>
    have he : ledger = ledger' := Except.ok.inj h
    rw [← he]
    exact ⟨⟨List.prefix_rfl, id⟩, [], by simp, rfl⟩
  | cons e rest ih =>
    have ⟨middle, hm, hr⟩ := Except.bind_eq_ok.mp h
    have h₁ := appendEvent_gains hm
    have h₂ := ih hr
    have ⟨added₁, he₁, hc₁⟩ := h₁.carries
    have ⟨added₂, he₂, hc₂⟩ := h₂.carries
    refine ⟨h₁.toExtends.trans h₂.toExtends, added₁ ++ added₂, ?_, ?_⟩
    case refine_1 => rw [he₂, he₁, List.append_assoc]
    case refine_2 => rw [List.map_append, hc₁, hc₂, List.singleton_append]

-- A record that is verified stays so.

theorem verifyPhysicalAttemptRecord_extends (hx : Extends ledger ledger')
    (h : verifyPhysicalAttemptRecord ledger bundle record = true) :
    verifyPhysicalAttemptRecord ledger' bundle record = true := by
  simp only [verifyPhysicalAttemptRecord, decide_eq_true_eq] at h ⊢
  have ⟨hv, ha, ho, hl, hlo, hhi, hlen, hall, hhead⟩ := h
  have ⟨more, hmore⟩ := hx.events
  have hslice : (ledger'.events.drop record.firstEventIndex.toNat).take
        (record.lastEventIndex + 1 - record.firstEventIndex).toNat =
      (ledger.events.drop record.firstEventIndex.toNat).take
        (record.lastEventIndex + 1 - record.firstEventIndex).toNat := by
    rw [← hmore, List.drop_append_of_le_length (by omega),
      List.take_append_of_le_length (by rw [List.length_drop]; omega)]
  have hle := hx.events.length_le
  rw [hslice]
  exact ⟨hx.verified hv, ha, ho, hl, hlo, by omega, hlen, hall, hhead⟩

theorem verifyCapacityTransitionRecord_extends (hx : Extends ledger ledger')
    (h : verifyCapacityTransitionRecord ledger transition state capacityRecord = true) :
    verifyCapacityTransitionRecord ledger' transition state capacityRecord = true := by
  simp only [verifyCapacityTransitionRecord, Bool.and_eq_true] at h ⊢
  have ⟨⟨hv, hlo⟩, hevent⟩ := h
  refine ⟨⟨hx.verified hv, hlo⟩, ?_⟩
  cases he : ledger.events[capacityRecord.eventIndex.toNat]? with
  | none       =>
    rw [he] at hevent
    exact absurd hevent Bool.false_ne_true
  | some event =>
    rw [he] at hevent
    have ⟨more, hmore⟩ := hx.events
    have hlt := (List.getElem?_eq_some_iff.mp he).choose
    rw [← hmore, List.getElem?_append_left hlt, he]
    exact hevent

-- A record that is returned is verified.

omit [Sha256] in
theorem holds_content (event : LedgerEvent) :
    event.holds event.content.1 event.content.2 = true := by
  simp [LedgerEvent.holds, LedgerEvent.content]

omit [Sha256] in
theorem all_holds_content (added : List LedgerEvent) :
    ((added.zip (added.map LedgerEvent.content)).all fun x => x.1.holds x.2.1 x.2.2) = true := by
  induction added with
  | nil           => rfl
  | cons e es ih =>
    rw [List.map_cons, List.zip_cons_cons, List.all_cons, ih, Bool.and_true]
    exact holds_content e

theorem physicalPayloads_length (bundle : PhysicalOutcomeBundle) :
    (physicalPayloads bundle).length = 4 := by
  unfold physicalPayloads
  cases bundle.result <;> rfl

theorem recordPhysicalAttempt_eq_ok :
    recordPhysicalAttempt ledger bundle = .ok (ledger', record) ↔
      dispatched ledger bundle.authorization.digest = false ∧
        appendEvents ledger (physicalPayloads bundle) = .ok ledger' ∧ record = {
          authorizationId := bundle.authorization.authorizationId
          outcomeDigest   := bundle.digest
          firstEventIndex := ledger.events.length
          lastEventIndex  := ledger.events.length + 3
          recordedHead    := ledger'.head } := by
  simp only [recordPhysicalAttempt, Except.bind_eq_ok, Py.require_eq_ok, exists_const,
    Except.pure_eq_ok, Prod.mk.injEq, Bool.not_eq_true]
  refine and_congr_right fun _ => ?_
  constructor
  case mp  =>
    rintro ⟨_, hr, he, hrecord⟩
    cases he
    exact ⟨hr, hrecord.symm⟩
  case mpr =>
    rintro ⟨hr, hrecord⟩
    exact ⟨_, hr, rfl, hrecord.symm⟩

theorem recordPhysicalAttempt_verifies (hv : verifyLedger ledger = true)
    (h : recordPhysicalAttempt ledger bundle = .ok (ledger', record)) :
    verifyPhysicalAttemptRecord ledger' bundle record = true := by
  have ⟨_, happend, hrecord⟩ := recordPhysicalAttempt_eq_ok.mp h
  have hg := appendEvents_gains happend
  have ⟨added, he, hc⟩ := hg.carries
  have hlen : added.length = 4 := by
    rw [← physicalPayloads_length bundle, ← hc, List.length_map]
  have hslice : (ledger'.events.drop ledger.events.length).take 4 = added := by
    rw [he, List.drop_left, ← hlen, List.take_length]
  have hlast : added.getLast?.map LedgerEvent.eventHash = some ledger'.head := by
    have hne : added ≠ [] := List.ne_nil_of_length_pos (by omega)
    rw [ExecutionLedger.head, he, List.getLast?_append, List.getLast?_eq_getLast_of_ne_nil hne]
    rfl
  have hcount : ((ledger.events.length : Int) + 3 + 1 - ledger.events.length).toNat = 4 := by omega
  have hbound : (ledger.events.length : Int) + 3 < ledger'.events.length := by
    rw [he, List.length_append]
    omega
  have hall : ((added.zip (physicalPayloads bundle)).all fun x => x.1.holds x.2.1 x.2.2) = true := by
    rw [← hc]
    exact all_holds_content added
  rw [hrecord]
  simp only [verifyPhysicalAttemptRecord, decide_eq_true_eq, Int.toNat_natCast, hcount, hslice]
  exact ⟨hg.verified hv, trivial, trivial, trivial, Int.natCast_nonneg _, hbound, hlen, hall, hlast⟩

theorem verifyPhysicalAttemptRecord_digest
    (h : verifyPhysicalAttemptRecord ledger bundle record = true) :
    record.outcomeDigest = bundle.digest := by
  simp only [verifyPhysicalAttemptRecord, decide_eq_true_eq] at h
  exact h.right.right.left

theorem recordCapacityTransition_eq_ok :
    recordCapacityTransition ledger transition state = .ok (ledger', capacityRecord) ↔
      state.transitions.getLast? = some transition ∧
        (∀ event ∈ ledger.events,
          event.payload.names "transition_digest" transition.digest = false) ∧
          appendEvent ledger (capacityEventType transition) (capacityPayload transition state) =
            .ok ledger' ∧ capacityRecord = {
              transitionDigest := transition.digest
              stateDigest      := state.digest
              eventIndex       := ledger'.events.length - 1
              recordedHead     := ledger'.head } := by
  simp only [recordCapacityTransition, Except.bind_eq_ok, Py.require_eq_ok, exists_const,
    Except.pure_eq_ok, Prod.mk.injEq, Bool.not_eq_true]
  refine and_congr_right fun _ => and_congr_right fun _ => ?_
  constructor
  case mp  =>
    rintro ⟨_, hr, he, hrecord⟩
    cases he
    exact ⟨hr, hrecord.symm⟩
  case mpr =>
    rintro ⟨hr, hrecord⟩
    exact ⟨_, hr, rfl, hrecord.symm⟩

theorem recordCapacityTransition_verifies (hv : verifyLedger ledger = true)
    (h : recordCapacityTransition ledger transition state = .ok (ledger', capacityRecord)) :
    verifyCapacityTransitionRecord ledger' transition state capacityRecord = true := by
  have ⟨_, _, happend, hrecord⟩ := recordCapacityTransition_eq_ok.mp h
  have hx := appendEvent_extends happend
  have ⟨_, he⟩ := appendEvent_eq_ok.mp happend
  have hlen : ledger'.events.length = ledger.events.length + 1 := by simp [he]
  have hindex : ((ledger'.events.length : Int) - 1).toNat = ledger.events.length := by omega
  have hevent : ledger'.events[ledger.events.length]? =
      some (ledgerEvent ledger (capacityEventType transition) (capacityPayload transition state)) := by
    simp [he]
  have hhead : ledger'.head =
      (ledgerEvent ledger (capacityEventType transition) (capacityPayload transition state)).eventHash := by
    rw [ExecutionLedger.head, he, List.getLast?_concat]
  rw [hrecord]
  simp only [verifyCapacityTransitionRecord, hindex, hevent, Bool.and_eq_true, decide_eq_true_eq]
  refine ⟨⟨hx.verified hv, by omega⟩, trivial, trivial, ?_, hhead.symm⟩
  exact holds_content _

theorem verifyCapacityTransitionRecord_digests
    (h : verifyCapacityTransitionRecord ledger transition state capacityRecord = true) :
    capacityRecord.transitionDigest = transition.digest ∧
      capacityRecord.stateDigest = state.digest := by
  simp only [verifyCapacityTransitionRecord, Bool.and_eq_true] at h
  have ⟨_, hevent⟩ := h
  split at hevent
  case h_1 => exact absurd hevent Bool.false_ne_true
  case h_2 =>
    have hevent := of_decide_eq_true hevent
    exact ⟨hevent.left, hevent.right.left⟩

-- What a recording has written is found by the next one.

theorem dispatched_extends (hx : Extends ledger ledger') (h : dispatched ledger d = true) :
    dispatched ledger' d = true := by
  have ⟨event, he, hd⟩ := List.any_eq_true.mp h
  exact List.any_eq_true.mpr ⟨event, hx.events.subset he, hd⟩

theorem recordPhysicalAttempt_dispatched
    (h : recordPhysicalAttempt ledger bundle = .ok (ledger', record)) :
    dispatched ledger' bundle.authorization.digest = true := by
  have ⟨_, happend, _⟩ := recordPhysicalAttempt_eq_ok.mp h
  have ⟨added, he, hc⟩ := (appendEvents_gains happend).carries
  have hfirst : ("PHYSICAL_DISPATCH", PyValue.dict [
      ("authorization", toPy bundle.authorization),
      ("authorization_digest", toPy bundle.authorization.digest)]) ∈ physicalPayloads bundle :=
    List.mem_cons_self
  rw [← hc] at hfirst
  have ⟨event, hevent, hcontent⟩ := List.mem_map.mp hfirst
  have ⟨ht, hp⟩ := Prod.mk.inj hcontent
  refine List.any_eq_true.mpr ⟨event, by simp [he, hevent], ?_⟩
  simp [ht, hp, PyValue.names, PyValue.member?, Json.lookup, toPy]

-- What an operation writes, and what it records.

namespace LedgerOperation

def writes : LedgerOperation → List (String × PyValue)
  | append eventType payload    => [(eventType, payload)]
  | physical bundle _           => physicalPayloads bundle
  | duplicate d                 => [("DUPLICATE_PHYSICAL_ATTEMPT", .dict [
      ("duplicate", toPy d), ("duplicate_digest", toPy d.digest)])]
  | capacity transition state _ => [(capacityEventType transition, capacityPayload transition state)]

def authorization? : LedgerOperation → Option String
  | physical bundle _ => some bundle.authorization.digest
  | _                 => none

def transition? : LedgerOperation → Option String
  | capacity transition _ _ => some transition.digest
  | _                       => none

end LedgerOperation

open LedgerOperation

theorem Performs.gains {op : LedgerOperation} (h : Performs op ledger ledger') :
    Gains ledger ledger' op.writes := by
  cases h with
  | append happend => exact appendEvent_gains happend
  | physical hrec  => exact appendEvents_gains (recordPhysicalAttempt_eq_ok.mp hrec).right.left
  | duplicate hrec => exact appendEvent_gains hrec
  | capacity hrec  =>
    exact appendEvent_gains (recordCapacityTransition_eq_ok.mp hrec).right.right.left

-- Some event has recorded the transition of this digest.
def Moved (ledger : ExecutionLedger) (d : String) : Prop :=
  ∃ event ∈ ledger.events, event.payload.names "transition_digest" d = true

theorem recordCapacityTransition_moved
    (h : recordCapacityTransition ledger transition state = .ok (ledger', capacityRecord)) :
    Moved ledger' transition.digest := by
  have ⟨_, _, happend, _⟩ := recordCapacityTransition_eq_ok.mp h
  have ⟨_, he⟩ := appendEvent_eq_ok.mp happend
  refine ⟨ledgerEvent ledger (capacityEventType transition) (capacityPayload transition state),
    by simp [he], ?_⟩
  simp [ledgerEvent, capacityPayload, PyValue.names, PyValue.member?, Json.lookup, toPy]

-- What an operation records has not been recorded before it and is after it.

theorem Performs.new_authorization {op : LedgerOperation} (h : Performs op ledger ledger')
    (hd : op.authorization? = some d) :
    dispatched ledger d = false ∧ dispatched ledger' d = true := by
  cases h with
  | physical hrec =>
    cases hd
    exact ⟨(recordPhysicalAttempt_eq_ok.mp hrec).left, recordPhysicalAttempt_dispatched hrec⟩
  | append _ | duplicate _ | capacity _ => cases hd

theorem Performs.new_transition {op : LedgerOperation} (h : Performs op ledger ledger')
    (hd : op.transition? = some d) : ¬Moved ledger d ∧ Moved ledger' d := by
  cases h with
  | capacity hrec =>
    cases hd
    refine ⟨?_, recordCapacityTransition_moved hrec⟩
    intro ⟨event, hevent, hnames⟩
    have hnew := (recordCapacityTransition_eq_ok.mp hrec).right.left event hevent
    exact absurd hnames (Bool.eq_false_iff.mp hnew)
  | append _ | duplicate _ | physical _ => cases hd

-- What a run of operations keeps.
structure Kept (ops : List LedgerOperation) (ledger : ExecutionLedger) : Prop where
  verified       : verifyLedger ledger = true
  physical       : ∀ bundle record, .physical bundle record ∈ ops →
    verifyPhysicalAttemptRecord ledger bundle record = true
  capacity       : ∀ transition state record, .capacity transition state record ∈ ops →
    verifyCapacityTransitionRecord ledger transition state record = true
  authorizations : (ops.filterMap authorization?).Nodup
  dispatched     : ∀ d ∈ ops.filterMap authorization?, dispatched ledger d = true
  transitions    : (ops.filterMap transition?).Nodup
  moved          : ∀ d ∈ ops.filterMap transition?, Moved ledger d

theorem Kept.perform {op : LedgerOperation} (h : Kept ops ledger) (hp : Performs op ledger ledger') :
    Kept (ops ++ [op]) ledger' := by
  have hx := hp.gains.toExtends
  constructor
  case verified       => exact hx.verified h.verified
  case physical       =>
    intro bundle record hmem
    cases List.mem_append.mp hmem
    case inl hmem => exact verifyPhysicalAttemptRecord_extends hx (h.physical bundle record hmem)
    case inr hmem =>
      cases List.mem_singleton.mp hmem
      cases hp with
      | physical hrec => exact recordPhysicalAttempt_verifies h.verified hrec
  case capacity       =>
    intro transition state record hmem
    cases List.mem_append.mp hmem
    case inl hmem =>
      exact verifyCapacityTransitionRecord_extends hx (h.capacity transition state record hmem)
    case inr hmem =>
      cases List.mem_singleton.mp hmem
      cases hp with
      | capacity hrec => exact recordCapacityTransition_verifies h.verified hrec
  case authorizations =>
    refine nodup_filterMap_append h.authorizations fun d hd hold => ?_
    exact absurd (h.dispatched d hold) (Bool.eq_false_iff.mp (hp.new_authorization hd).left)
  case dispatched     =>
    intro d hd
    cases mem_filterMap_append.mp hd
    case inl hd => exact dispatched_extends hx (h.dispatched d hd)
    case inr hd => exact (hp.new_authorization hd).right
  case transitions    =>
    refine nodup_filterMap_append h.transitions fun d hd hold => ?_
    exact (hp.new_transition hd).left (h.moved d hold)
  case moved          =>
    intro d hd
    cases mem_filterMap_append.mp hd
    case inl hd =>
      have ⟨event, hevent, hnames⟩ := h.moved d hd
      exact ⟨event, hx.events.subset hevent, hnames⟩
    case inr hd => exact (hp.new_transition hd).right

theorem Built.kept (h : Built ops ledger) : Kept ops ledger := by
  induction h with
  | empty           => exact ⟨rfl, by simp, by simp, by simp, by simp, by simp, by simp⟩
  | perform _ hp ih => exact ih.perform hp

-- The events of the recording functions.
def recordingTypes : List String := [
  "PHYSICAL_DISPATCH", "PHYSICAL_OBSERVATION", "PHYSICAL_RECEIPT", "PHYSICAL_RESULT",
  "PHYSICAL_TERMINAL_FAILURE", "DUPLICATE_PHYSICAL_ATTEMPT", "CAPACITY_RESERVED",
  "CAPACITY_RELEASED"]

-- The run appends no event of such a type by itself.
def Foreign (ops : List LedgerOperation) : Prop :=
  ∀ eventType payload, .append eventType payload ∈ ops → eventType ∉ recordingTypes

def dispatchesOf (d : String) (event : String × PyValue) : Bool :=
  event.1 = "PHYSICAL_DISPATCH" ∧ event.2.names "authorization_digest" d

def movesOf (d : String) (event : String × PyValue) : Bool :=
  event.1 ∈ ["CAPACITY_RESERVED", "CAPACITY_RELEASED"] ∧ event.2.names "transition_digest" d

theorem Built.contents (h : Built ops ledger) :
    ledger.events.map LedgerEvent.content = ops.flatMap writes := by
  induction h with
  | empty           => rfl
  | perform _ hp ih =>
    have ⟨added, he, hc⟩ := hp.gains.carries
    rw [he, List.map_append, ih, hc, List.flatMap_append, List.flatMap_singleton]

theorem countP_dispatchesOf {op : LedgerOperation}
    (hf : ∀ eventType payload, op = .append eventType payload → eventType ∉ recordingTypes) :
    op.writes.countP (dispatchesOf d) = if op.authorization? = some d then 1 else 0 := by
  cases op with
  | append eventType payload    =>
    have ht : eventType ≠ "PHYSICAL_DISPATCH" := by
      intro he
      exact hf eventType payload rfl (he ▸ by decide)
    simp [writes, authorization?, dispatchesOf, ht]
  | physical bundle _           =>
    cases hr : bundle.result <;>
      simp [writes, authorization?, physicalPayloads, hr, dispatchesOf, PyValue.names,
        PyValue.member?, Json.lookup, toPy, List.countP_cons]
  | duplicate _                 => simp [writes, authorization?, dispatchesOf]
  | capacity transition state _ =>
    cases hc : transition.change <;>
      simp [writes, authorization?, capacityEventType, hc, dispatchesOf]

theorem countP_movesOf {op : LedgerOperation}
    (hf : ∀ eventType payload, op = .append eventType payload → eventType ∉ recordingTypes) :
    op.writes.countP (movesOf d) = if op.transition? = some d then 1 else 0 := by
  cases op with
  | append eventType payload    =>
    have ht : eventType ∉ ["CAPACITY_RESERVED", "CAPACITY_RELEASED"] := by
      intro he
      have hsub : ["CAPACITY_RESERVED", "CAPACITY_RELEASED"] ⊆ recordingTypes := by decide
      exact hf eventType payload rfl (hsub he)
    simp [writes, transition?, movesOf, ht]
  | physical bundle _           =>
    cases hr : bundle.result <;> simp [writes, transition?, physicalPayloads, hr, movesOf]
  | duplicate _                 => simp [writes, transition?, movesOf]
  | capacity transition state _ =>
    cases hc : transition.change <;>
      simp [writes, transition?, capacityEventType, capacityPayload, hc, movesOf, PyValue.names,
        PyValue.member?, Json.lookup, toPy, List.countP_cons]

-- What a ledger has recorded stays recorded, once, and as it was.
structure Permanent (ops : List LedgerOperation) (ledger : ExecutionLedger) : Prop where
  verified       : verifyLedger ledger = true
  physical       : ∀ bundle record, .physical bundle record ∈ ops →
    verifyPhysicalAttemptRecord ledger bundle record = true ∧
      ∀ other, other.digest ≠ bundle.digest →
        verifyPhysicalAttemptRecord ledger other record = false
  capacity       : ∀ transition state record, .capacity transition state record ∈ ops →
    verifyCapacityTransitionRecord ledger transition state record = true ∧
      ∀ transition' state', transition'.digest ≠ transition.digest ∨ state'.digest ≠ state.digest →
        verifyCapacityTransitionRecord ledger transition' state' record = false
  authorizations : (ops.filterMap authorization?).Nodup
  transitions    : (ops.filterMap transition?).Nodup
  recordedOnce   : Foreign ops → ∀ d,
    (ledger.events.map LedgerEvent.content).countP (dispatchesOf d) ≤ 1 ∧
      (ledger.events.map LedgerEvent.content).countP (movesOf d) ≤ 1

theorem built_permanent (h : Built ops ledger) : Permanent ops ledger := by
  have hk := h.kept
  constructor
  case verified       => exact hk.verified
  case physical       =>
    intro bundle record hmem
    have hv := hk.physical bundle record hmem
    refine ⟨hv, fun other hne => Bool.eq_false_iff.mpr fun ho => hne ?_⟩
    exact (verifyPhysicalAttemptRecord_digest ho).symm.trans (verifyPhysicalAttemptRecord_digest hv)
  case capacity       =>
    intro transition state record hmem
    have hv := hk.capacity transition state record hmem
    have ⟨ht, hs⟩ := verifyCapacityTransitionRecord_digests hv
    refine ⟨hv, fun transition' state' hne => Bool.eq_false_iff.mpr fun ho => ?_⟩
    have ⟨ht', hs'⟩ := verifyCapacityTransitionRecord_digests ho
    cases hne
    case inl hne => exact hne (ht'.symm.trans ht)
    case inr hne => exact hne (hs'.symm.trans hs)
  case authorizations => exact hk.authorizations
  case transitions    => exact hk.transitions
  case recordedOnce   =>
    intro hf d
    have hop : ∀ op ∈ ops, ∀ eventType payload, op = .append eventType payload →
        eventType ∉ recordingTypes := by
      intro op hmem eventType payload he
      exact hf eventType payload (he ▸ hmem)
    rw [h.contents, countP_flatMap_eq_count fun op hmem => countP_dispatchesOf (hop op hmem),
      countP_flatMap_eq_count fun op hmem => countP_movesOf (hop op hmem)]
    exact ⟨List.nodup_iff_count_le_one.mp hk.authorizations d,
      List.nodup_iff_count_le_one.mp hk.transitions d⟩

theorem exists_appendEvents (ledger : ExecutionLedger) (h : ∀ e ∈ events, ¬Text.Blank e.1) :
    ∃ ledger', appendEvents ledger events = .ok ledger' := by
  induction events generalizing ledger with
  | nil            => exact ⟨ledger, rfl⟩
  | cons e rest ih =>
    have he : appendEvent ledger e.1 e.2 = .ok
        { events := ledger.events ++ [ledgerEvent ledger e.1 e.2] } :=
      appendEvent_eq_ok.mpr ⟨h e (by simp), rfl⟩
    have ⟨ledger', hr⟩ := ih { events := ledger.events ++ [ledgerEvent ledger e.1 e.2] }
      fun e' he' => h e' (.tail _ he')
    exact ⟨ledger', Except.bind_eq_ok.mpr ⟨_, he, hr⟩⟩

theorem exists_recordPhysicalAttempt (ledger : ExecutionLedger) (bundle : PhysicalOutcomeBundle)
    (h : dispatched ledger bundle.authorization.digest = false) :
    ∃ ledger' record, recordPhysicalAttempt ledger bundle = .ok (ledger', record) := by
  have hall : ∀ t ∈ recordingTypes, ¬Text.Blank t := by decide
  have htypes : ∀ e ∈ physicalPayloads bundle, e.1 ∈ recordingTypes := by
    cases hr : bundle.result <;> simp [physicalPayloads, hr, recordingTypes]
  have ⟨ledger', happend⟩ := exists_appendEvents ledger fun e he => hall e.1 (htypes e he)
  exact ⟨ledger', _, recordPhysicalAttempt_eq_ok.mpr ⟨h, happend, rfl⟩⟩

end

theorem built_permanent_first :
    let _ := Sha256.blind
    ∃ ledger bundle record, Built [.physical bundle record] ledger ∧
      verifyPhysicalAttemptRecord ledger bundle record = true := by
  intro _
  have ⟨_, bundle, _⟩ := exists_failed (firstAttempt (referenceRequest "gei-1" (by decide)))
    requestOf_verified
  have ⟨ledger, record, hrec⟩ := exists_recordPhysicalAttempt {} bundle rfl
  have hb : Built [.physical bundle record] ledger := Built.empty.perform (.physical hrec)
  exact ⟨ledger, bundle, record, hb,
    ((built_permanent hb).physical bundle record (List.mem_singleton_self _)).left⟩

end GeneralExecution
