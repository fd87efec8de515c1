import GeneralExecution.Stores.Theorems.Durable

namespace GeneralExecution

open RunnerCapacityState (Reachable verifyCapacityState_iff_reachable)

variable [Sha256] {runner runner' : RunnerCapabilities} {state cur new : RunnerCapacityState}
variable {s s' s₁ s₂ : Stores} {expected : String} {head : DurableCapacityHead}

namespace RunnerCapacityState

theorem initializeCapacityState_eq (h : GeneralExecution.boundTo state runner = true)
    (h' : GeneralExecution.boundTo state runner' = true) :
    initializeCapacityState runner = initializeCapacityState runner' := by
  simp only [GeneralExecution.boundTo, decide_eq_true_eq] at h h'
  simp [initializeCapacityState, ← h.left, ← h'.left, ← h.right.left, ← h'.right.left,
    ← h.right.right, ← h'.right.right]

-- Only the identity, the digest and the parallelism of a runner matter.
theorem Reachable.congr (h : Reachable runner state) (h' : Reachable runner' state)
    (hn : Reachable runner new) : Reachable runner' new :=
  have he := initializeCapacityState_eq h.boundTo h'.boundTo
  Reachable.initial.of_replay (he ▸ hn.replays)

-- The history of a state determines the state.
theorem Reachable.eq_of_transitions (h : Reachable runner state) (h' : Reachable runner new)
    (ht : state.transitions = new.transitions) : state = new :=
  Except.ok.inj <| h.replays.symm.trans <| ht ▸ h'.replays

theorem Reachable.runnerId_eq (h : Reachable runner state) : state.runnerId = runner.runnerId := by
  have hb := h.boundTo
  simp only [GeneralExecution.boundTo, decide_eq_true_eq] at hb
  exact hb.left

end RunnerCapacityState

-- What an accepted commit does.
structure Stores.Commits (s s' : Stores) (runner : RunnerCapabilities) (expected : String)
    (new cur : RunnerCapacityState) : Prop where
  current   : s.HoldsHead runner cur
  expected  : cur.digest = expected
  succeeds  : new.Succeeds cur
  supported : new.Supported
  verified  : verifyCapacityState new runner = true
  writes    : s.WritesHead s' new

-- What an accepted initialization does.
structure Stores.Initializes (s s' : Stores) (runner : RunnerCapabilities)
    (state : RunnerCapacityState) : Prop where
  supported : state.Supported
  verified  : verifyCapacityState state runner = true
  effect    : s.HoldsHead runner state ∧ s' = s ∨
    s.head? runner.runnerId = none ∧ s.WritesHead s' state

-- Heads are kept, and their histories only grow.
def Stores.HeadsAdvance (s s' : Stores) : Prop :=
  ∀ runner state, s.HoldsHead runner state →
    ∃ state', s'.HoldsHead runner state' ∧ state.transitions <+: state'.transitions

-- Every row is the head of a runner for which it replays.
def Stores.HeadsDecode (s : Stores) : Prop :=
  ∀ id row, s.head? id = some row → ∃ runner state, runner.runnerId = id ∧ s.HoldsHead runner state

namespace Stores

theorem HeadsAdvance.refl : s.HeadsAdvance s :=
  fun _ state h => ⟨state, h, List.prefix_rfl⟩

theorem HeadsAdvance.trans (h : s.HeadsAdvance s₁) (h' : s₁.HeadsAdvance s₂) :
    s.HeadsAdvance s₂ := by
  intro runner state hs
  have ⟨state₁, hs₁, hp₁⟩ := h runner state hs
  have ⟨state₂, hs₂, hp₂⟩ := h' runner state₁ hs₁
  exact ⟨state₂, hs₂, hp₁.trans hp₂⟩

theorem HeadsAdvance.of_heads (h : s'.capacityHeads = s.capacityHeads) : s.HeadsAdvance s' :=
  fun _ state hs => ⟨state, hs.congr (by rw [head?, head?, h]), List.prefix_rfl⟩

namespace Commits

theorem holds (h : s.Commits s' runner expected new cur) : s'.HoldsHead runner new :=
  h.writes.holds h.supported h.verified

theorem advance (h : s.Commits s' runner expected new cur) : s.HeadsAdvance s' := by
  intro runner' state hs
  have hn := verifyCapacityState_iff_reachable.mp h.verified
  by_cases hr : runner'.runnerId = new.runnerId
  case neg => exact ⟨state, h.writes.holds_of_ne hr |>.mpr hs, List.prefix_rfl⟩
  case pos =>
    obtain rfl := hs.unique h.current (hr.trans hn.runnerId_eq)
    have hv := verifyCapacityState_iff_reachable.mpr <| h.current.reachable.congr hs.reachable hn
    exact ⟨new, h.writes.holds h.supported hv, h.succeeds.isPrefix⟩

end Commits

namespace Initializes

theorem holds (h : s.Initializes s' runner state) : s'.HoldsHead runner state := by
  rcases h.effect with ⟨hs, rfl⟩ | ⟨_, hw⟩
  · exact hs
  · exact hw.holds h.supported h.verified

theorem advance (h : s.Initializes s' runner state) : s.HeadsAdvance s' := by
  have hn := verifyCapacityState_iff_reachable.mp h.verified
  rcases h.effect with ⟨_, rfl⟩ | ⟨hr, hw⟩
  · exact .refl
  · intro runner' state' hs
    refine ⟨state', hw.holds_of_ne (fun he => ?_) |>.mpr hs, List.prefix_rfl⟩
    have ⟨_, hr', _⟩ := hs
    rw [he, hn.runnerId_eq, hr] at hr'
    contradiction

end Initializes

theorem HeadsDecode.write (h : s.HeadsDecode) (hw : s.WritesHead s' state)
    (hs : s'.HoldsHead runner state) : s'.HeadsDecode := by
  intro id row hr
  by_cases hi : id = state.runnerId
  case pos => exact ⟨runner, state, hi ▸ hs.reachable.runnerId_eq.symm, hs⟩
  case neg =>
    rw [hw.head, if_neg hi] at hr
    have ⟨runner', state', hr', hs'⟩ := h id row hr
    exact ⟨runner', state', hr', (hw.holds_of_ne (hr' ▸ hi)).mpr hs'⟩

theorem HeadsDecode.commit (h : s.HeadsDecode) (hc : s.Commits s' runner expected new cur) :
    s'.HeadsDecode :=
  h.write hc.writes hc.holds

theorem HeadsDecode.initializes (h : s.HeadsDecode) (hi : s.Initializes s' runner state) :
    s'.HeadsDecode := by
  rcases hi.effect with ⟨_, rfl⟩ | ⟨_, hw⟩
  · exact h
  · exact h.write hw hi.holds

end Stores

-- How the calls of the store run among the calls of other clients.
section

variable {D : Discipline Stores} {made : List (Stores × Stores)}

omit [Sha256] in
theorem StoreCall.query_respects {α : Type} {f : Stores → α}
    {post : List (Stores × Stores) → Py α → Stores → Prop}
    (h : ∀ s₁ s₂, D.inv s₁ → D.rely s s₁ → D.inv s₂ → D.rely s₁ s₂ →
      post (made ++ [(s₁, s₁)]) (.ok (f s₁)) s₂) :
    (query f).Respects D post made s := by
  refine .transaction (fun s₁ s₂ a hi hg hq => ?_) fun s₁ s₂ e _ _ hq => ?_
  · simp only [Statements.bind_eq_ok, Statements.get_eq_ok, Statements.pure_eq_ok] at hq
    obtain ⟨_, _, ⟨rfl, rfl⟩, rfl, rfl⟩ := hq
    exact ⟨hi, D.idle _, fun s₂ hi₂ hg₂ => h s₁ s₂ hi hg hi₂ hg₂⟩
  · change Except.ok (f s₁, s₁) = _ at hq
    contradiction

namespace CapacityHeadStore

theorem commit_respects {post : List (Stores × Stores) → Py DurableCapacityHead → Stores → Prop}
    (ho : ∀ s₁ s₂ cur, D.inv s₁ → D.rely s s₁ → s₁.Commits s₂ runner expected new cur →
      D.inv s₂ ∧ D.guar s₁ s₂ ∧ ∀ s₃, D.inv s₃ → D.rely s₂ s₃ →
        post (made ++ [(s₁, s₂)]) (.ok (headOf new (snapshotDigest new))) s₃)
    (he : ∀ made' e s₁, Quiet made made' → D.inv s₁ → D.rely s s₁ → post made' (.error e) s₁) :
    (commit runner expected new).Respects D post made s := by
  refine .lift_bind (fun _ hv => ?_) fun e s₁ _ hi hg => he made e s₁ .refl hi hg
  replace hv := Py.require_eq_ok.mp hv
  refine .transaction (fun s₁ s₂ head hi hg hc => ?_) fun s₁ s₂ e hi hg _ hi' hg' =>
    he _ e s₂ (.single s₁) hi' (D.trans hg hg')
  have ⟨cur, h₁, h₂, h₃, h₄, h₅, h₆⟩ := commitStatements_eq_ok hc hv
  exact h₅ ▸ ho s₁ s₂ cur hi hg ⟨h₁, h₂, h₃, h₄, hv, h₆⟩

theorem initializeHead_respects
    {post : List (Stores × Stores) → Py DurableCapacityHead → Stores → Prop}
    (ho : ∀ s₁ s₂ head, D.inv s₁ → D.rely s s₁ → s₁.Initializes s₂ runner state →
      D.inv s₂ ∧ D.guar s₁ s₂ ∧ ∀ s₃, D.inv s₃ → D.rely s₂ s₃ →
        post (made ++ [(s₁, s₂)]) (.ok head) s₃)
    (he : ∀ made' e s₁, Quiet made made' → D.inv s₁ → D.rely s s₁ → post made' (.error e) s₁) :
    (initializeHead runner state).Respects D post made s := by
  refine .lift_bind (fun _ hv => ?_) fun e s₁ _ hi hg => he made e s₁ .refl hi hg
  replace hv := Py.require_eq_ok.mp hv
  refine .lift_bind (fun d hd => ?_) fun e s₁ _ hi hg => he made e s₁ .refl hi hg
  obtain ⟨_, digest⟩ := d
  obtain ⟨hs, _, _, rfl⟩ := deserializeCapacitySnapshot_serialize.mp hd
  refine .transaction (fun s₁ s₂ head hi hg hc => ?_) fun s₁ s₂ e hi hg _ hi' hg' =>
    he _ e s₂ (.single s₁) hi' (D.trans hg hg')
  exact ho s₁ s₂ head hi hg ⟨hs, hv, initializeStatements_eq_ok hc hv⟩

theorem load_respects
    {post : List (Stores × Stores) → Py (RunnerCapacityState × DurableCapacityHead) → Stores → Prop}
    (ho : ∀ s₁ s₂ state head, D.inv s₁ → D.rely s s₁ → s₁.HoldsHead runner state → D.inv s₂ →
      D.rely s₁ s₂ → post (made ++ [(s₁, s₁)]) (.ok (state, head)) s₂)
    (he : ∀ made' e s₁, Quiet made made' → D.inv s₁ → D.rely s s₁ → post made' (.error e) s₁) :
    (load runner).Respects D post made s := by
  refine .bind <| StoreCall.query_respects fun s₁ s₂ hi hg hi₂ hg₂ => ?_
  cases hr : s₁.head? runner.runnerId
  case none =>
    exact fun s₃ hi₃ hg₃ => he _ _ s₃ (.single s₁) hi₃ (D.trans hg <| D.trans hg₂ hg₃)
  case some row =>
    refine Program.Respects.lift fun s₃ hi₃ hg₃ => ?_
    cases hd : decodeHeadRow row runner
    case error e => exact he _ e s₃ (.single s₁) hi₃ (D.trans hg <| D.trans hg₂ hg₃)
    case ok r =>
      exact ho s₁ s₃ r.1 r.2 hi hg (.of_decode hr hd) hi₃ (D.trans hg₂ hg₃)

end CapacityHeadStore

end

-- Any number of clients of one store of capacity heads.
inductive HeadCall
  | initializeHead (runner : RunnerCapabilities) (state : RunnerCapacityState)
  | load (runner : RunnerCapabilities)
  | commit (runner : RunnerCapabilities) (expected : String) (new : RunnerCapacityState)

namespace HeadCall

-- A call, returning its arguments along with the head it is about.
def perform (call : HeadCall) : StoreCall (HeadCall × DurableCapacityHead) := do
  match call with
  | .initializeHead runner state  => return (call, ← CapacityHeadStore.initializeHead runner state)
  | .load runner                  => return (call, (← CapacityHeadStore.load runner).2)
  | .commit runner expected state => return (call, ← CapacityHeadStore.commit runner expected state)

def Starts (p : StoreCall (HeadCall × DurableCapacityHead)) : Prop :=
  ∃ call, p = perform call

def discipline : Discipline Stores :=
  .shared Stores.HeadsDecode Stores.HeadsAdvance (fun _ => .refl) .trans

-- What a call has done when it returns, and what is still so at `s`.
def Done (made : List (Stores × Stores)) (result : Py (HeadCall × DurableCapacityHead))
    (s : Stores) : Prop :=
  match result with
  | .error _ => ∀ m ∈ made, m.2 = m.1
  | .ok (.initializeHead runner state, _) =>
    ∃ s₁ s₂, made = [(s₁, s₂)] ∧ s₁.Initializes s₂ runner state ∧ s₂.HeadsAdvance s
  | .ok (.load _, _) => ∀ m ∈ made, m.2 = m.1
  | .ok (.commit runner expected new, _) =>
    ∃ s₁ s₂ cur, made = [(s₁, s₂)] ∧ s₁.Commits s₂ runner expected new cur ∧ s₂.HeadsAdvance s

theorem perform_respects (call : HeadCall) (s : Stores) :
    (perform call).Respects discipline Done [] s := by
  cases call
  case initializeHead runner state =>
    refine .bind <| CapacityHeadStore.initializeHead_respects (fun s₁ s₂ head hi hg h => ?_)
      fun made e s₁ hq hi hg => hq.of_nil
    refine ⟨hi.initializes h, h.advance, fun s₃ hi₃ hg₃ s₄ _ hg₄ => ?_⟩
    exact ⟨s₁, s₂, rfl, h, hg₃.trans hg₄⟩
  case load runner =>
    refine .bind <| CapacityHeadStore.load_respects (fun s₁ s₂ state head _ _ _ _ _ => ?_)
      fun made e s₁ hq hi hg => hq.of_nil
    exact fun s₃ _ _ => (Quiet.single s₁).of_nil
  case commit runner expected new =>
    refine .bind <| CapacityHeadStore.commit_respects (fun s₁ s₂ cur hi hg h => ?_)
      fun made e s₁ hq hi hg => hq.of_nil
    refine ⟨hi.commit h, h.advance, fun s₃ hi₃ hg₃ s₄ _ hg₄ => ?_⟩
    exact ⟨s₁, s₂, cur, rfl, h, hg₃.trans hg₄⟩

-- A call leaves the other tables as they are.
theorem perform_frame {D : Discipline Stores} {made : List (Stores × Stores)}
    {post : List (Stores × Stores) → Py (HeadCall × DurableCapacityHead) → Stores → Prop}
    (call : HeadCall)
    (hw : ∀ s₁ s₂, D.inv s₁ → s₂.dispatchIntents = s₁.dispatchIntents →
      s₂.observedOutcomes = s₁.observedOutcomes → s₁.HeadsAdvance s₂ → D.inv s₂ ∧ D.guar s₁ s₂)
    (ho : ∀ made' r s₁, D.inv s₁ → post made' (.ok r) s₁)
    (he : ∀ made' e s₁, Quiet made made' → D.inv s₁ → D.rely s s₁ → post made' (.error e) s₁) :
    (perform call).Respects D post made s := by
  cases call
  case initializeHead runner state =>
    refine .bind <| CapacityHeadStore.initializeHead_respects (fun s₁ s₂ head hi hg h => ?_) he
    have hf : s₂.dispatchIntents = s₁.dispatchIntents ∧ s₂.observedOutcomes = s₁.observedOutcomes := by
      rcases h.effect with ⟨_, rfl⟩ | ⟨_, hw⟩
      · exact ⟨rfl, rfl⟩
      · exact ⟨hw.intents, hw.outcomes⟩
    have ⟨h₁, h₂⟩ := hw s₁ s₂ hi hf.left hf.right h.advance
    exact ⟨h₁, h₂, fun s₃ _ _ s₄ hi₄ _ => ho _ _ s₄ hi₄⟩
  case load runner =>
    exact .bind <| CapacityHeadStore.load_respects
      (fun _ _ _ _ _ _ _ _ _ s₃ hi₃ _ => ho _ _ s₃ hi₃) he
  case commit runner expected new =>
    refine .bind <| CapacityHeadStore.commit_respects (fun s₁ s₂ cur hi hg h => ?_) he
    have ⟨h₁, h₂⟩ := hw s₁ s₂ hi h.writes.intents h.writes.outcomes h.advance
    exact ⟨h₁, h₂, fun s₃ _ _ s₄ hi₄ _ => ho _ _ s₄ hi₄⟩

end HeadCall

-- No two states that the history of `last` went through have the same digest.
def RunnerCapacityState.DigestsDistinct (last : RunnerCapacityState) (runner : RunnerCapabilities) :
    Prop :=
  ∀ s s', Reachable runner s → Reachable runner s' → s.transitions <+: last.transitions →
    s'.transitions <+: last.transitions → s.digest = s'.digest → s = s'

-- The call committed to the head of the runner with this id, expecting this digest.
def HeadCall.Committed (runnerId expected : String)
    (r : Return Stores PyError (HeadCall × DurableCapacityHead)) : Prop :=
  ∃ runner new head, r.result = .ok (.commit runner expected new, head) ∧ runner.runnerId = runnerId

-- What holds of one store of capacity heads in any run of its clients.
structure CapacityHeadsLinear (c : Config Stores PyError (HeadCall × DurableCapacityHead)) : Prop where
  decodes : ∀ id row, c.store.head? id = some row → ∃ runner state head, runner.runnerId = id ∧
    decodeHeadRow row runner = .ok (state, head) ∧ verifyCapacityState state runner = true
  kept : ∀ c', Config.Reachable HeadCall.Starts c c' → c.store.HeadsAdvance c'.store
  initialized : ∀ runner state head made,
    ⟨.ok (.initializeHead runner state, head), made⟩ ∈ c.returned →
      ∃ s₁ s₂ last, made = [(s₁, s₂)] ∧ (s₁.head? runner.runnerId = none ∨ s₂ = s₁) ∧
        s₂.HoldsHead runner state ∧ c.store.HoldsHead runner last ∧
        state.transitions <+: last.transitions
  commits : ∀ runner expected new head made,
    ⟨.ok (.commit runner expected new, head), made⟩ ∈ c.returned →
      ∃ s₁ s₂ cur last, made = [(s₁, s₂)] ∧ s₁.HoldsHead runner cur ∧ s₂.HoldsHead runner new ∧
        cur.digest = expected ∧ new.generation = cur.generation + 1 ∧
        c.store.HoldsHead runner last ∧ new.transitions <+: last.transitions
  atMostOne : ∀ runnerId expected,
    (∀ runner last, runner.runnerId = runnerId → c.store.HoldsHead runner last →
      last.DigestsDistinct runner) →
    c.returned.Pairwise fun a b =>
      ¬(HeadCall.Committed runnerId expected a ∧ HeadCall.Committed runnerId expected b)
  raised : ∀ e made, ⟨.error e, made⟩ ∈ c.returned → ∀ m ∈ made, m.2 = m.1

namespace HeadCall

variable {c c' : Config Stores PyError (HeadCall × DurableCapacityHead)}

theorem starts_respects (p : StoreCall (HeadCall × DurableCapacityHead)) (hp : Starts p) (s : Stores)
    (_ : discipline.inv s) : p.Respects discipline Done [] s := by
  obtain ⟨call, rfl⟩ := hp
  exact call.perform_respects s

theorem headsDecode_empty : Stores.empty.HeadsDecode := by
  simp [Stores.HeadsDecode, Stores.empty, Stores.head?]

theorem sound (h : Config.Reachable Starts (.initial .empty) c) :
    c.Sound discipline Done .empty :=
  h.sound Discipline.shared_mutual starts_respects headsDecode_empty

-- The head of a runner is past a generation.
def Past (i : String × Nat) (s : Stores) : Prop :=
  ∃ runner state, runner.runnerId = i.1 ∧ s.HoldsHead runner state ∧ i.2 < state.generation

theorem Past.advance {i : String × Nat} (h : Past i s) (hs : s.HeadsAdvance s') : Past i s' := by
  have ⟨runner, state, hr, hh, hg⟩ := h
  have ⟨state', hh', hp⟩ := hs runner state hh
  refine ⟨runner, state', hr, hh', ?_⟩
  have := hp.length_le
  rw [← state.counted, ← state'.counted] at this
  omega

-- A commit takes the head past the generation that it has read.
theorem commits_sets {made : List (Stores × Stores)} (h : s₁.Commits s₂ runner expected new cur)
    (hm : made = [(s₁, s₂)]) : Config.Sets (Past (runner.runnerId, cur.generation)) made := by
  refine ⟨(s₁, s₂), by simp [hm], ?_, ⟨runner, new, rfl, h.holds, ?_⟩⟩
  · rintro ⟨runner', state, hr, hs, hg⟩
    obtain rfl := hs.unique h.current hr
    exact absurd hg (Nat.lt_irrefl _)
  · exact h.succeeds.generation ▸ Nat.lt_succ_self _

theorem commits_of_returned {r : Return Stores PyError (HeadCall × DurableCapacityHead)}
    (hc : c.Sound discipline Done s) (hr : r ∈ c.returned)
    (he : r.result = .ok (.commit runner expected new, head)) :
    ∃ s₁ s₂ cur, r.made = [(s₁, s₂)] ∧ s₁.Commits s₂ runner expected new cur ∧
      s₂.HeadsAdvance c.store := by
  have ⟨s', _, hg, hd⟩ := hc.returned r hr
  rw [he] at hd
  have ⟨s₁, s₂, cur, hm, hcm, ha⟩ := hd
  exact ⟨s₁, s₂, cur, hm, hcm, ha.trans hg⟩

theorem atMostOne (h : Config.Reachable Starts (.initial .empty) c) (runnerId expected : String)
    (hd : ∀ runner last, runner.runnerId = runnerId → c.store.HoldsHead runner last →
      last.DigestsDistinct runner) :
    c.returned.Pairwise fun a b =>
      ¬(Committed runnerId expected a ∧ Committed runnerId expected b) := by
  have hc := sound h
  have hp := h.setters_pairwise Discipline.shared_mutual (fun i s s' hg (hp : Past i s) => hp.advance hg)
    starts_respects headsDecode_empty
  refine hp.imp_of_mem fun {a b} ha hb hn ⟨⟨ra, na, _, hra, hia⟩, ⟨rb, nb, _, hrb, hib⟩⟩ => ?_
  have ⟨a₁, a₂, ca, hma, hcma, hga⟩ := commits_of_returned hc ha hra
  have ⟨b₁, b₂, cb, hmb, hcmb, hgb⟩ := commits_of_returned hc hb hrb
  -- Both have read the same state, from which the head moves on once.
  have ⟨last, hl, hpa⟩ := hcma.advance.trans hga ra ca hcma.current
  have ⟨last', hl', hpb⟩ := hcmb.advance.trans hgb rb cb hcmb.current
  obtain rfl := hl.unique hl' (hia.trans hib.symm)
  have hcb' := hl'.reachable.congr hl.reachable hcmb.current.reachable
  have he : ca = cb := hd ra last hia hl ca cb hcma.current.reachable hcb' hpa hpb <|
    hcma.expected.trans hcmb.expected.symm
  have hsa := commits_sets hcma hma
  have hsb := commits_sets hcmb hmb
  rw [hia] at hsa
  rw [hib, ← he] at hsb
  exact hn (runnerId, ca.generation) ⟨hsa, hsb⟩

end HeadCall

theorem capacityHeads_linear {c : Config Stores PyError (HeadCall × DurableCapacityHead)}
    (h : Config.Reachable HeadCall.Starts (.initial .empty) c) : CapacityHeadsLinear c where
  decodes id row hr := by
    have ⟨runner, state, hid, hs⟩ := (HeadCall.sound h).inv id row hr
    have ⟨row', hr', hd⟩ := hs
    obtain rfl := Option.some.inj <| hr.symm.trans <| hid ▸ hr'
    exact ⟨runner, state, _, hid, hd, hs.verified⟩
  kept _ h' := h'.kept Discipline.shared_mutual HeadCall.starts_respects (HeadCall.sound h)
  initialized runner state head made hr := by
    have ⟨_, _, hg, s₁, s₂, hm, hi, ha⟩ := (HeadCall.sound h).returned _ hr
    have ⟨last, hl, hp⟩ := ha.trans hg runner state hi.holds
    refine ⟨s₁, s₂, last, hm, ?_, hi.holds, hl, hp⟩
    rcases hi.effect with ⟨_, he⟩ | ⟨hn, _⟩
    · exact .inr he
    · exact .inl hn
  commits runner expected new head made hr := by
    have ⟨s₁, s₂, cur, hm, hcm, ha⟩ := HeadCall.commits_of_returned (HeadCall.sound h) hr rfl
    have ⟨last, hl, hp⟩ := ha runner new hcm.holds
    exact ⟨s₁, s₂, cur, last, hm, hcm.current, hcm.holds, hcm.expected, hcm.succeeds.generation, hl,
      hp⟩
  atMostOne := HeadCall.atMostOne h
  raised e made hr := by
    have ⟨_, _, _, hd⟩ := (HeadCall.sound h).returned _ hr
    exact hd

omit [Sha256] in
theorem capacityHeads_linear_first : let _ := Sha256.blind
    ∃ c, Config.Reachable HeadCall.Starts (.initial .empty) c ∧
      c.store.HoldsHead referenceRunner
        (firstReserved referenceRunner (referenceRequest "gei-1" (by decide))) ∧
      CapacityHeadsLinear c := by
  intro _
  have ⟨s₁, s₂, _, _, hg, hr, hh, _⟩ := CapacityHeadStore.exists_firstReserved referenceRunner
    (referenceRequest "gei-1" (by decide))
  have h₁ : ∃ c, Config.Reachable HeadCall.Starts (.initial .empty) c ∧ c.store = s₁ :=
    Config.Reachable.perform ⟨_, .refl, rfl⟩ ⟨.initializeHead _ _, rfl⟩ <|
      Program.bind_run_ok.mpr ⟨_, _, hg, rfl⟩
  have ⟨c, hc, hs⟩ := Config.Reachable.perform h₁ ⟨.commit _ _ _, rfl⟩ <|
    Program.bind_run_ok.mpr ⟨_, _, hr, rfl⟩
  exact ⟨c, hc, hs ▸ hh, capacityHeads_linear hc⟩

end GeneralExecution
