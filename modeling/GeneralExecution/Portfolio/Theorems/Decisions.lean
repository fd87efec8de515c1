import GeneralExecution.Portfolio.Theorems.Ticks

namespace GeneralExecution

open Portfolios

variable [Sha256] {decision : HumanGateDecision} {providerActor decisionRef : String}
variable {state cur new : PortfolioState} {latest : Option ExecutionCheckpoint}
variable {receipt : HumanGateDecisionReceipt} {cp : ExecutionCheckpoint}

-- What a decision that has ended has done: the accesses that it has made, and what it has returned.
inductive Decided (decision : HumanGateDecision) (decisionRef : String) :
    List (Portfolios × Portfolios) → Py HumanGateDecisionResult → Prop
  | refused {made e} : (∀ m ∈ made, m.2 = m.1) → Decided decision decisionRef made (.error e)
  | committed {made s₃ s₄ s₅ cur latest new cp r} : (∀ m ∈ made, m.2 = m.1) →
    DecisionTransition cur latest decision decisionRef new cp →
    s₃.Commits s₄ cur latest new cp → s₅.Holds new (some cp) → r.state = new → r.checkpoint = cp →
    Decided decision decisionRef (made ++ [(s₃, s₄), (s₅, s₅)]) (.ok r)
  | unconfirmed {made s₃ s₄ s₅ cur latest new cp e} : (∀ m ∈ made, m.2 = m.1) →
    DecisionTransition cur latest decision decisionRef new cp →
    s₃.Commits s₄ cur latest new cp → s₄.Advances s₅ → ¬s₅.Holds new (some cp) →
    Decided decision decisionRef (made ++ [(s₃, s₄), (s₅, s₅)]) (.error e)

section Respects

variable {D : Discipline Portfolios} {made made' : List (Portfolios × Portfolios)}
variable {post : List (Portfolios × Portfolios) → Py HumanGateDecisionResult → Portfolios → Prop}
variable {s s₁ s₂ : Portfolios}

theorem confirmDecision_respects (hD : PortfolioDiscipline D) (hm : ∀ m ∈ made', m.2 = m.1)
    (ht : DecisionTransition cur latest decision decisionRef new cp)
    (hc : s₁.Commits s₂ cur latest new cp) (hr : D.rely s₂ s)
    (ho : ∀ s₃ r s', D.inv s' → D.rely s s' →
      Decided decision decisionRef (made' ++ [(s₁, s₂), (s₃, s₃)]) r →
        post (made ++ [(s₃, s₃)]) r s') :
    (confirmDecision cur.portfolioId receipt new cp).Respects D post made s := by
  refine .bind <| recoverPortfolio_respects hD.consistent
    (fun s₃ s₄ state₃ latest₃ hi₃ hr₃ hh hp₃ hi₄ hr₄ => ?_) fun made'' e s₃ s₄ _ hi₃ hr₃ hn _ _ => ?_
  · have ha : s₂.Advances s₃ := hD.advances _ _ (D.trans hr hr₃)
    refine .lift_bind (fun _ hreq => ?_) fun e s₅ hreq hi₅ hr₅ => ?_
    · have ⟨hs, hl⟩ := Py.require_eq_ok.mp hreq
      subst hs hl
      exact fun s₅ hi₅ hr₅ => ho s₃ _ s₅ hi₅ (D.trans hr₃ <| D.trans hr₄ hr₅)
        (.committed hm ht hc hh rfl rfl)
    · refine ho s₃ _ s₅ hi₅ (D.trans hr₃ <| D.trans hr₄ hr₅) (.unconfirmed hm ht hc ha fun hh' => ?_)
      have hpid := hp₃.trans hc.portfolioId.symm
      have ⟨hs, hl⟩ := hh.unique hh' hpid
      have hok : Py.require (state₃ = new ∧ latest₃ = some cp) .humanGateDecisionError
          "human gate decision cold recovery mismatch" = .ok () := Py.require_eq_ok.mpr ⟨hs, hl⟩
      rw [hok] at hreq
      contradiction
  · have ⟨row, hrow, _⟩ := (hD.advances _ _ (D.trans hr hr₃)).heads _ _ hc.holds.head
    rw [hc.portfolioId, hn] at hrow
    contradiction

-- What a decision does, whatever the other clients do in between.
theorem consumeHumanGateDecision_respects (hD : PortfolioDiscipline D)
    (hw : ∀ s₁ s₂ cur latest new cp, D.inv s₁ → D.rely s s₁ →
      DecisionTransition cur latest decision decisionRef new cp →
      s₁.Commits s₂ cur latest new cp → D.inv s₂ ∧ D.guar s₁ s₂)
    (hg : ∀ s₁ s₂, D.guar s₁ s₂ → D.rely s₁ s₂)
    (ho : ∀ more r s', D.inv s' → D.rely s s' → Decided decision decisionRef more r →
      post (made ++ more) r s') :
    (consumeHumanGateDecision decision providerActor decisionRef).Respects D post made s := by
  have hrefused (e : PyError) (s' : Portfolios) (hi : D.inv s') (hr : D.rely s s') :
      post made (.error e) s' := by
    have h := ho [] (.error e) s' hi hr (.refused (by simp))
    rwa [List.append_nil] at h
  refine .lift_bind (fun _ _ => ?_) fun e s₁ _ hi hr => hrefused e s₁ hi hr
  refine .lift_bind (fun _ _ => ?_) fun e s₁ _ hi hr => hrefused e s₁ hi hr
  refine .bind <| recoverPortfolio_respects hD.consistent
    (fun s₁ s₂ state latest hi hr hh hp hi₂ hr₂ => ?_) fun made' e s₁ s₂ hq hi hr _ hi₂ hr₂ => ?_
  · have hm : ∀ m ∈ [(s₁, s₁)], m.2 = m.1 := by simp
    refine .lift_bind (fun a ht => ?_) fun e s₃ _ hi₃ hr₃ =>
      ho [(s₁, s₁)] _ s₃ hi₃ (D.trans hr <| D.trans hr₂ hr₃) (.refused hm)
    have htrans := decisionTransition_eq_ok ht
    refine .bind <| PortfolioHeadStore.commit_respects hD.consistent
      (fun s₃ s₄ cur latest' hi₃ hr₃ hc he => ?_) fun made'' e s₃ hq hi₃ hr₃ => ?_
    · have ⟨hcur, hlatest⟩ := htrans.precedes.current_eq hh hc (hD.advances _ _ (D.trans hr₂ hr₃))
      subst hcur hlatest
      have ⟨hi₄, hg₄⟩ := hw s₃ s₄ state latest _ _ hi₃ (D.trans hr <| D.trans hr₂ hr₃) htrans hc
      refine ⟨hi₄, hg₄, fun s₅ _ hi₅ hr₅ => ?_⟩
      refine confirmDecision_respects hD hm htrans hc hr₅ fun s₆ r s₇ hi₇ hr₇ hd => ?_
      rw [List.append_assoc, List.append_assoc]
      exact ho _ r s₇ hi₇
        (D.trans hr <| D.trans hr₂ <| D.trans hr₃ <| D.trans (hg _ _ hg₄) <| D.trans hr₅ hr₇) hd
    · have ⟨more, hmore, hm'⟩ := hq
      subst hmore
      rw [List.append_assoc]
      refine ho _ _ s₃ hi₃ (D.trans hr <| D.trans hr₂ hr₃) (.refused ?_)
      exact fun m h => (List.mem_append.mp h).elim (hm m) (hm' m)
  · have ⟨more, hmore, hm⟩ := hq
    subst hmore
    exact ho more _ s₂ hi₂ (D.trans hr hr₂) (.refused hm)

end Respects

end GeneralExecution
