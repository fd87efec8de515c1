import GeneralExecution.Primitives.HashChain
import GeneralExecution.Objects.Ledger

namespace GeneralExecution

variable {ledger a b : ExecutionLedger} {event event' : LedgerEvent} {events : List LedgerEvent}
variable {eventType previous : String} {payload : PyValue} {n : Nat}

-- The events of a ledger, of which the first one names `previous`.
def ledgerChain (previous : String) : HashChain LedgerEvent String where
  genesis  := previous
  previous := LedgerEvent.previousHash
  hash     := LedgerEvent.eventHash

theorem head_eq (ledger : ExecutionLedger) : ledger.head = (ledgerChain genesis).head ledger.events := by
  unfold ExecutionLedger.head
  generalize ledger.events = events
  cases events using List.reverseRecOn with
  | nil                    => rfl
  | append_singleton es e =>
    rw [HashChain.head_append_singleton, List.getLast?_concat]
    rfl

theorem canonicalJson_eq_iff {v w : PyValue} :
    canonicalJson v = canonicalJson w ↔ normalize v = normalize w := by
  constructor
  case mp  =>
    intro h
    have hv := loads_canonicalJson v
    rw [h, loads_canonicalJson] at hv
    exact (Option.some.inj hv).symm
  case mpr => exact fun h => congrArg Json.dumps h

section

variable [Sha256]

-- What `verify_ledger` asks of an event that comes after `events`.
structure LedgerEvent.Follows (events : List LedgerEvent) (previous : String) (n : Nat)
    (event : LedgerEvent) : Prop where
  index    : event.index = n + events.length
  previous : event.previousHash = (ledgerChain previous).head events
  sealed   : event.eventHash = sha256Digest event.value

theorem verifyEvents_cons :
    verifyEvents previous n (event :: events) = true ↔
      event.Follows [] previous n ∧ verifyEvents event.eventHash (n + 1) events = true := by
  rw [verifyEvents]
  constructor
  case mp  =>
    intro h
    split_ifs at h with hi hs
    rw [not_or, not_not, not_not] at hi
    exact ⟨⟨hi.left, hi.right, not_not.mp hs⟩, h⟩
  case mpr =>
    intro ⟨hf, h⟩
    have hi : event.index = n := hf.index
    have hs : event.eventHash =
      eventHash event.index event.eventType event.previousHash event.payload := hf.sealed
    rw [if_neg (by simp [hi, hf.previous, HashChain.head, ledgerChain]), if_neg (not_not.mpr hs)]
    exact h

theorem verifyEvents_append :
    verifyEvents previous n (events ++ [event]) = true ↔
      verifyEvents previous n events = true ∧ event.Follows events previous n := by
  induction events generalizing previous n with
  | nil           =>
    rw [List.nil_append, verifyEvents_cons]
    simp [verifyEvents]
  | cons e es ih =>
    rw [List.cons_append, verifyEvents_cons, ih, verifyEvents_cons, and_assoc]
    refine and_congr_right fun _ => and_congr_right fun _ => ?_
    have hhead : (ledgerChain previous).head (e :: es) = (ledgerChain e.eventHash).head es :=
      HashChain.head_cons e es
    constructor
    case mp  =>
      intro h
      have hi := h.index
      exact ⟨by simp only [List.length_cons]; omega, hhead ▸ h.previous, h.sealed⟩
    case mpr =>
      intro h
      have hi := h.index
      simp only [List.length_cons] at hi
      exact ⟨by omega, hhead ▸ h.previous, h.sealed⟩

theorem linked_of_verifyEvents (h : verifyEvents previous n events = true) :
    (ledgerChain previous).Linked events ∧
      ∀ event ∈ events, event.eventHash = sha256Digest event.value := by
  induction events using List.reverseRecOn with
  | nil                       => exact ⟨.nil, by simp⟩
  | append_singleton es e ih =>
    have ⟨hes, he⟩ := verifyEvents_append.mp h
    have ⟨hlinked, hsealed⟩ := ih hes
    refine ⟨hlinked.append he.previous, ?_⟩
    intro event hevent
    cases List.mem_append.mp hevent
    case inl hevent => exact hsealed event hevent
    case inr hevent => exact List.mem_singleton.mp hevent ▸ he.sealed

-- Two events agree in what their hashes are made of, and in the hashes.
structure SameContent (e e' : LedgerEvent) : Prop where
  index        : e.index = e'.index
  eventType    : e.eventType = e'.eventType
  previousHash : e.previousHash = e'.previousHash
  payload      : canonicalJson e.payload = canonicalJson e'.payload
  eventHash    : e.eventHash = e'.eventHash

-- Two events agree in every field.
structure SameEvent (e e' : LedgerEvent) : Prop extends SameContent e e' where
  schemaVersion : e.schemaVersion = e'.schemaVersion

omit [Sha256] in
theorem SameContent.of_value (hv : canonicalJson event.value = canonicalJson event'.value)
    (hh : event.eventHash = event'.eventHash) : SameContent event event' := by
  have hd (e : LedgerEvent) : distinctKeys [
      ("schema_version", toPy "ge.ledger-event.v1"), ("index", toPy e.index),
      ("event_type", toPy e.eventType), ("previous_hash", toPy e.previousHash),
      ("payload", e.payload)] = true := rfl
  have hmember (k : String) : (normalize event.value).get? k = (normalize event'.value).get? k := by
    rw [canonicalJson_eq_iff.mp hv]
  have member (k : String) := ((normalize_get? (hd event) k).symm.trans (hmember k)).trans
    (normalize_get? (hd event') k)
  constructor
  case index        => simpa [Json.lookup, toPy, normalize] using member "index"
  case eventType    => simpa [Json.lookup, toPy, normalize] using member "event_type"
  case previousHash => simpa [Json.lookup, toPy, normalize] using member "previous_hash"
  case payload      =>
    have hp : normalize event.payload = normalize event'.payload := by
      simpa [Json.lookup] using member "payload"
    exact canonicalJson_eq_iff.mpr hp
  case eventHash    => exact hh

-- The digest tells the values apart, and none of them is the genesis.
structure Sha256.CollisionFree (values : List PyValue) : Prop where
  injective  : ∀ v ∈ values, ∀ w ∈ values,
    sha256Digest v = sha256Digest w → canonicalJson v = canonicalJson w
  notGenesis : ∀ v ∈ values, sha256Digest v ≠ genesis

theorem sameContent_of_head_eq (ha : verifyLedger a = true) (hb : verifyLedger b = true)
    (hc : Sha256.CollisionFree ((a.events ++ b.events).map LedgerEvent.value))
    (hh : a.head = b.head) : List.Forall₂ SameContent a.events b.events := by
  have ⟨hla, hsa⟩ := linked_of_verifyEvents ha
  have ⟨hlb, hsb⟩ := linked_of_verifyEvents hb
  have hseal : ∀ e ∈ a.events ++ b.events, e.eventHash = sha256Digest e.value := by
    intro e he
    cases List.mem_append.mp he
    case inl he => exact hsa e he
    case inr he => exact hsb e he
  apply hla.forall₂_of_head_eq hlb
  case hgenesis  =>
    intro e he
    have hne := hc.notGenesis e.value (List.mem_map_of_mem he)
    rw [← hseal e he] at hne
    exact hne
  case halike    =>
    intro e he e' he' hhash
    have hd : sha256Digest e.value = sha256Digest e'.value :=
      (hsa e he).symm.trans <| Eq.trans hhash (hsb e' he')
    have hmem := List.mem_map_of_mem (f := LedgerEvent.value) <|
      List.mem_append_left b.events he
    have hmem' := List.mem_map_of_mem (f := LedgerEvent.value) <|
      List.mem_append_right a.events he'
    exact .of_value (hc.injective _ hmem _ hmem' hd) hhash
  case hprevious => exact fun _ _ h => h.previousHash
  case hhead     => rwa [← head_eq, ← head_eq]

-- The head tells everything about the events but their schema versions, which are in no hash.
theorem ledgers_agree_iff (ha : verifyLedger a = true) (hb : verifyLedger b = true)
    (hc : Sha256.CollisionFree ((a.events ++ b.events).map LedgerEvent.value))
    (hh : a.head = b.head) :
    List.Forall₂ SameEvent a.events b.events ↔
      a.events.map LedgerEvent.schemaVersion = b.events.map LedgerEvent.schemaVersion := by
  have hall := sameContent_of_head_eq ha hb hc hh
  generalize a.events = as at hall
  generalize b.events = bs at hall
  induction hall with
  | nil                    => simp
  | cons hsame hrest ih =>
    rw [List.forall₂_cons, List.map_cons, List.map_cons, List.cons_eq_cons]
    exact and_congr ⟨fun h => h.schemaVersion, fun h => ⟨hsame, h⟩⟩ ih

-- A ledger of one event, of any schema version.
def startedLedger (schemaVersion : String) : ExecutionLedger where
  events := [{ ledgerEvent {} "STARTED" (.dict []) with schemaVersion }]

theorem startedLedger_verified (schemaVersion : String) :
    verifyLedger (startedLedger schemaVersion) = true := by
  have hf : LedgerEvent.Follows [] genesis 0 { ledgerEvent {} "STARTED" (.dict []) with schemaVersion } :=
    ⟨rfl, rfl, rfl⟩
  exact verifyEvents_cons.mpr ⟨hf, rfl⟩

theorem startedLedger_collisionFree (hg : ∀ v, sha256Digest v ≠ genesis) (s s' : String) :
    Sha256.CollisionFree
      (((startedLedger s).events ++ (startedLedger s').events).map LedgerEvent.value) := by
  have hvalue : ∀ v ∈ ((startedLedger s).events ++ (startedLedger s').events).map LedgerEvent.value,
      v = eventValue 0 "STARTED" genesis (.dict []) := by
    intro v hv
    simp only [startedLedger, List.cons_append, List.nil_append, List.map_cons, List.map_nil,
      List.mem_cons, List.not_mem_nil, or_false] at hv
    cases hv
    case inl hv => exact hv
    case inr hv => exact hv
  exact ⟨fun v hv w hw _ => by rw [hvalue v hv, hvalue w hw], fun v _ => hg v⟩

end

theorem ofRank_one_ne_genesis (v : PyValue) :
    let _ := Sha256.ofRank fun _ => 1
    sha256Digest v ≠ genesis := by
  intro _
  have h : sha256Digest v = "sha256:" ++ .ofList (List.replicate 64 '1') := rfl
  rw [h]
  decide

theorem ledgers_agree_iff_started :
    let _ := Sha256.ofRank fun _ => 1
    let ledger := startedLedger "ge.ledger-event.v1"
    List.Forall₂ SameEvent ledger.events ledger.events := by
  intro _ ledger
  have hc := startedLedger_collisionFree ofRank_one_ne_genesis "ge.ledger-event.v1"
    "ge.ledger-event.v1"
  exact (ledgers_agree_iff (startedLedger_verified _) (startedLedger_verified _) hc rfl).mpr rfl

-- An event of another schema version is accepted and changes no hash.
theorem foreignSchema_undetected :
    let _ := Sha256.ofRank fun _ => 1
    ∃ a b : ExecutionLedger, verifyLedger a = true ∧ verifyLedger b = true ∧
      Sha256.CollisionFree ((a.events ++ b.events).map LedgerEvent.value) ∧ a.head = b.head ∧
        ¬List.Forall₂ SameEvent a.events b.events := by
  intro _
  refine ⟨startedLedger "ge.ledger-event.v1", startedLedger "other", startedLedger_verified _,
    startedLedger_verified _, startedLedger_collisionFree ofRank_one_ne_genesis _ _, rfl, ?_⟩
  intro h
  cases h with
  | cons he _ => exact absurd he.schemaVersion (by decide)

end GeneralExecution
