import Mathlib

-- The statements of a transaction.
abbrev Statements (σ ε α : Type) :=
  StateT σ (Except ε) α

namespace Statements

variable {σ ε α β : Type} {s s' : σ}

@[simp]
theorem bind_eq_ok {t : Statements σ ε α} {f : α → Statements σ ε β} {b : β} :
    (t >>= f) s = .ok (b, s') ↔ ∃ a s₁, t s = .ok (a, s₁) ∧ f a s₁ = .ok (b, s') := by
  change (t s >>= fun r => f r.1 r.2) = _ ↔ _
  cases t s <;> simp [bind, Except.bind, Prod.ext_iff]

@[simp]
theorem pure_eq_ok {a b : α} : (pure a : Statements σ ε α) s = .ok (b, s') ↔ a = b ∧ s = s' := by
  change Except.ok (a, s) = _ ↔ _
  simp

@[simp]
theorem get_eq_ok {s₁ : σ} : (get : Statements σ ε σ) s = .ok (s₁, s') ↔ s = s₁ ∧ s = s' := by
  change Except.ok (s, s) = _ ↔ _
  simp

@[simp]
theorem set_eq_ok {s₁ : σ} {u : PUnit} : (set s₁ : Statements σ ε PUnit) s = .ok (u, s') ↔ s₁ = s' := by
  change Except.ok (PUnit.unit, s₁) = _ ↔ _
  simp

@[simp]
theorem lift_eq_ok {x : Except ε α} {a : α} :
    (liftM x : Statements σ ε α) s = .ok (a, s') ↔ x = .ok a ∧ s = s' := by
  change (x >>= fun a => .ok (a, s)) = _ ↔ _
  cases x <;> simp [bind, Except.bind]

theorem lift_bind_eq_ok {x : Except ε α} {f : α → Statements σ ε β} {b : β} :
    ((liftM x : Statements σ ε α) >>= f) s = .ok (b, s') ↔ ∃ a, x = .ok a ∧ f a s = .ok (b, s') := by
  rw [bind_eq_ok]
  constructor
  · rintro ⟨a, s₁, hx, hf⟩
    have ⟨ha, hs⟩ := lift_eq_ok.mp hx
    exact ⟨a, ha, hs ▸ hf⟩
  · rintro ⟨a, h, hf⟩
    exact ⟨a, s, lift_eq_ok.mpr ⟨h, rfl⟩, hf⟩

theorem get_bind_eq_ok {f : σ → Statements σ ε β} {b : β} :
    ((get : Statements σ ε σ) >>= f) s = .ok (b, s') ↔ f s s = .ok (b, s') := by
  rw [bind_eq_ok]
  simp

theorem set_bind_eq_ok {s₁ : σ} {f : PUnit → Statements σ ε β} {b : β} :
    ((set s₁ : Statements σ ε PUnit) >>= f) s = .ok (b, s') ↔ f ⟨⟩ s₁ = .ok (b, s') := by
  rw [bind_eq_ok]
  exact ⟨fun ⟨_, _, h, hf⟩ => set_eq_ok.mp h ▸ hf, fun hf => ⟨⟨⟩, s₁, set_eq_ok.mpr rfl, hf⟩⟩

theorem get_bind {f : σ → Statements σ ε β} : ((get : Statements σ ε σ) >>= f) s = f s s :=
  rfl

theorem set_bind {s₁ : σ} {f : PUnit → Statements σ ε β} :
    ((set s₁ : Statements σ ε PUnit) >>= f) s = f ⟨⟩ s₁ :=
  rfl

theorem lift_bind {x : Except ε α} {f : α → Statements σ ε β} :
    ((liftM x : Statements σ ε α) >>= f) s = x >>= fun a => f a s := by
  cases x <;> rfl

end Statements

-- Calls of several clients over one shared store. A call is a sequence of atomic accesses to the
-- store, between which any other client may run, and ends with a value or an error.

inductive Program (σ ε α : Type)
  | done (r : Except ε α)
  | atomic (write : σ → σ) (next : σ → Program σ ε α)

namespace Program

variable {σ ε α β : Type}

protected def bind : Program σ ε α → (α → Program σ ε β) → Program σ ε β
  | done (.ok a),    f => f a
  | done (.error e), _ => done (.error e)
  | atomic w n,      f => atomic w fun s => (n s).bind f

protected def tryCatch : Program σ ε α → (ε → Program σ ε α) → Program σ ε α
  | done (.ok a),    _ => done (.ok a)
  | done (.error e), h => h e
  | atomic w n,      h => atomic w fun s => (n s).tryCatch h

instance : Monad (Program σ ε) where
  pure a := done (.ok a)
  bind   := Program.bind

instance : MonadExceptOf ε (Program σ ε) where
  throw e  := done (.error e)
  tryCatch := Program.tryCatch

instance : MonadLift (Except ε) (Program σ ε) where
  monadLift := done

-- The result of a call as a value, be it a value or an error.
def attempt (p : Program σ ε α) : Program σ ε (Except ε α) :=
  tryCatch (do return .ok (← p)) fun e => return .error e

-- A transaction runs all of its statements or, when one of them raises, none.
def transaction (t : StateT σ (Except ε) α) : Program σ ε α :=
  atomic
    (fun s => match t s with | .ok (_, s') => s' | .error _ => s)
    (fun s => match t s with | .ok (a, _) => done (.ok a) | .error e => done (.error e))

-- Running a call with no other client in between.
def run : Program σ ε α → σ → Except ε α × σ
  | done r,     s => (r, s)
  | atomic w n, s => (n s).run (w s)

@[simp]
theorem done_run (r : Except ε α) (s : σ) : (done r).run s = (r, s) :=
  rfl

@[simp]
theorem pure_run (a : α) (s : σ) : (pure a : Program σ ε α).run s = (.ok a, s) :=
  rfl

@[simp]
theorem throw_run (e : ε) (s : σ) : (throw e : Program σ ε α).run s = (.error e, s) :=
  rfl

@[simp]
theorem lift_run (x : Except ε α) (s : σ) : (liftM x : Program σ ε α).run s = (x, s) :=
  rfl

theorem bind_run (p : Program σ ε α) (f : α → Program σ ε β) (s : σ) :
    (p >>= f).run s =
      match p.run s with
      | (.ok a, s')    => (f a).run s'
      | (.error e, s') => (.error e, s') := by
  induction p generalizing s
  case done r          => cases r <;> rfl
  case atomic w n ih   => exact ih s (w s)

@[simp]
theorem bind_run_ok {p : Program σ ε α} {f : α → Program σ ε β} {s s'' : σ} {b : β} :
    (p >>= f).run s = (.ok b, s'') ↔
      ∃ a s', p.run s = (.ok a, s') ∧ (f a).run s' = (.ok b, s'') := by
  rw [bind_run]
  rcases p.run s with ⟨_ | a, s'⟩ <;> simp

-- What holds after a call that raises, and after the rest of one that does not, holds after both.
theorem bind_run_of {p : Program σ ε α} {f : α → Program σ ε β} {s : σ}
    {motive : Except ε β × σ → Prop}
    (error : ∀ e s', p.run s = (.error e, s') → motive (.error e, s'))
    (ok : ∀ a s', p.run s = (.ok a, s') → motive ((f a).run s')) : motive ((p >>= f).run s) := by
  rw [bind_run]
  cases h : p.run s with
  | mk r s' =>
    cases r with
    | error e => exact error e s' h
    | ok a    => exact ok a s' h

theorem bind_assoc {γ : Type} (p : Program σ ε α) (f : α → Program σ ε β) (g : β → Program σ ε γ) :
    (p >>= f) >>= g = p >>= fun a => f a >>= g := by
  induction p
  case done r        => cases r <;> rfl
  case atomic w n ih => exact congrArg (atomic w) (funext ih)

-- What is made of a call's value does not matter to the store.
theorem bind_pure_store (p : Program σ ε α) (f : α → β) (s : σ) :
    ((p >>= fun a => pure (f a)).run s).2 = (p.run s).2 := by
  rw [bind_run]
  rcases p.run s with ⟨_ | _, _⟩ <;> rfl

theorem tryCatch_run (p : Program σ ε α) (h : ε → Program σ ε α) (s : σ) :
    (tryCatch p h).run s =
      match p.run s with
      | (.ok a, s')    => (.ok a, s')
      | (.error e, s') => (h e).run s' := by
  induction p generalizing s
  case done r        => cases r <;> rfl
  case atomic w n ih => exact ih s (w s)

theorem attempt_run (p : Program σ ε α) (s : σ) :
    p.attempt.run s = (.ok (p.run s).1, (p.run s).2) := by
  rw [attempt, tryCatch_run, bind_run]
  rcases p.run s with ⟨_ | _, _⟩ <;> rfl

theorem transaction_run (t : StateT σ (Except ε) α) (s : σ) :
    (transaction t).run s =
      match t s with
      | .ok (a, s') => (.ok a, s')
      | .error e    => (.error e, s) := by
  cases h : t s <;> simp [transaction, run, h]

theorem transaction_run_ok {t : StateT σ (Except ε) α} {s s' : σ} {a : α} :
    (transaction t).run s = (.ok a, s') ↔ t s = .ok (a, s') := by
  rw [transaction_run]
  rcases t s with _ | ⟨_, _⟩ <;> simp

-- The accesses of a call that runs alone.
def trace : Program σ ε α → σ → List (σ × σ)
  | done _,     _ => []
  | atomic w n, s => (s, w s) :: (n s).trace (w s)

-- The accesses lead from one store to another.
def Leads : σ → List (σ × σ) → σ → Prop
  | s, [],               s' => s = s'
  | s, (s₁, s₂) :: made, s' => s = s₁ ∧ Leads s₂ made s'

theorem leads_trace (p : Program σ ε α) (s : σ) : Leads s (p.trace s) (p.run s).2 := by
  induction p generalizing s
  case done          => rfl
  case atomic w n ih => exact ⟨rfl, ih s (w s)⟩

theorem Leads.append {made made' : List (σ × σ)} {s s' : σ} (h : Leads s (made ++ made') s') :
    ∃ s₁, Leads s made s₁ ∧ Leads s₁ made' s' := by
  induction made generalizing s
  case nil            => exact ⟨s, rfl, h⟩
  case cons m made ih =>
    have ⟨s₁, h₁, h₂⟩ := ih h.right
    exact ⟨s₁, ⟨h.left, h₁⟩, h₂⟩

theorem Leads.quiet {made : List (σ × σ)} {s s' : σ} (h : Leads s made s')
    (hm : ∀ m ∈ made, m.2 = m.1) : s = s' := by
  induction made generalizing s
  case nil            => exact h
  case cons m made ih =>
    have ⟨hs, h⟩ := h
    have ⟨hq, hm⟩ := List.forall_mem_cons.mp hm
    exact hs.trans <| hq.symm.trans <| ih h hm

-- A call that runs alone and makes one write, which it reads again.
theorem Leads.commit {made : List (σ × σ)} {s s' s₁ s₂ s₃ : σ}
    (h : Leads s (made ++ [(s₁, s₂), (s₃, s₃)]) s') (hm : ∀ m ∈ made, m.2 = m.1) :
    s₁ = s ∧ s₃ = s₂ ∧ s' = s₂ := by
  have ⟨s₀, hquiet, hs₁, hs₂, hs'⟩ := h.append
  cases hquiet.quiet hm
  exact ⟨hs₁.symm, hs₂.symm, hs'.symm.trans hs₂.symm⟩

-- A transaction that raises is rolled back.
theorem transaction_rollback {t : StateT σ (Except ε) α} {s s' : σ} {e : ε}
    (h : (transaction t).run s = (.error e, s')) : s' = s := by
  rw [transaction_run] at h
  rcases ht : t s with _ | ⟨_, _⟩ <;> simp_all

-- A computation that makes no access, before a call that changes nothing when it raises.
theorem lift_bind_rollback {x : Except ε α} {f : α → Program σ ε β}
    (hf : ∀ a s s' e, (f a).run s = (.error e, s') → s' = s) {s s' : σ} {e : ε}
    (h : ((liftM x : Program σ ε α) >>= f).run s = (.error e, s')) : s' = s := by
  rw [bind_run, lift_run] at h
  cases x
  case ok a    => exact hf a s s' e h
  case error e => exact (congrArg Prod.snd h).symm

end Program

-- One call in flight: what is left of it and the accesses it has made so far, each with the store
-- before and after it.
structure Call (σ ε α : Type) where
  rest : Program σ ε α
  made : List (σ × σ)

-- A call that has returned or raised.
structure Return (σ ε α : Type) where
  result : Except ε α
  made   : List (σ × σ)

structure Config (σ ε α : Type) where
  store    : σ
  running  : List (Call σ ε α)
  returned : List (Return σ ε α)

namespace Config

variable {σ ε α : Type}

def initial (s : σ) : Config σ ε α where
  store    := s
  running  := []
  returned := []

-- The scheduler starts calls, lets any running call make its next access or return, and may drop a
-- call at any point, as a crashed client does.
inductive Step (Starts : Program σ ε α → Prop) : Config σ ε α → Config σ ε α → Prop
  | start {s rs ds p} : Starts p → Step Starts ⟨s, rs, ds⟩ ⟨s, ⟨p, []⟩ :: rs, ds⟩
  | access {s rs₁ rs₂ ds w n made} :
    Step Starts ⟨s, rs₁ ++ ⟨.atomic w n, made⟩ :: rs₂, ds⟩
      ⟨w s, rs₁ ++ ⟨n s, made ++ [(s, w s)]⟩ :: rs₂, ds⟩
  | return {s rs₁ rs₂ ds r made} :
    Step Starts ⟨s, rs₁ ++ ⟨.done r, made⟩ :: rs₂, ds⟩ ⟨s, rs₁ ++ rs₂, ds ++ [⟨r, made⟩]⟩
  | crash {s rs₁ rs₂ ds c} : Step Starts ⟨s, rs₁ ++ c :: rs₂, ds⟩ ⟨s, rs₁ ++ rs₂, ds⟩

abbrev Reachable (Starts : Program σ ε α → Prop) : Config σ ε α → Config σ ε α → Prop :=
  Relation.ReflTransGen (Step Starts)

-- A call that runs from its start to its end with no access of another call in between.
def perform (c : Config σ ε α) (p : Program σ ε α) : Config σ ε α where
  store    := (p.run c.store).2
  running  := c.running
  returned := c.returned ++ [⟨(p.run c.store).1, p.trace c.store⟩]

-- Calls that run one after the other.
def after (s : σ) (ps : List (Program σ ε α)) : Config σ ε α :=
  ps.foldl perform (initial s)

variable {Starts : Program σ ε α → Prop} {c : Config σ ε α} {p : Program σ ε α}

theorem reachable_run {s : σ} {rs : List (Call σ ε α)} {ds : List (Return σ ε α)}
    {made : List (σ × σ)} :
    Reachable Starts ⟨s, ⟨p, made⟩ :: rs, ds⟩
      ⟨(p.run s).2, rs, ds ++ [⟨(p.run s).1, made ++ p.trace s⟩]⟩ := by
  induction p generalizing s made
  case done r =>
    simpa [Program.trace] using
      Relation.ReflTransGen.single (@Step.return σ ε α Starts s [] rs ds r made)
  case atomic w n ih =>
    have hs : Step Starts ⟨s, ⟨.atomic w n, made⟩ :: rs, ds⟩
        ⟨w s, ⟨n s, made ++ [(s, w s)]⟩ :: rs, ds⟩ := @Step.access σ ε α Starts s [] rs ds w n made
    simpa [Program.trace, Program.run] using Relation.ReflTransGen.head hs (ih s)

-- A call that pauses between its first part and the rest.
theorem reachable_bind {β : Type} {first : Program σ ε β} {rest : β → Program σ ε α} {s s' : σ}
    {b : β} {rs : List (Call σ ε α)} {ds : List (Return σ ε α)} {made : List (σ × σ)}
    (h : first.run s = (.ok b, s')) :
    Reachable Starts ⟨s, ⟨first >>= rest, made⟩ :: rs, ds⟩
      ⟨s', ⟨rest b, made ++ first.trace s⟩ :: rs, ds⟩ := by
  induction first generalizing s made
  case done r =>
    cases h
    rw [Program.trace, List.append_nil]
    exact .refl
  case atomic w n ih =>
    have hs : Step Starts ⟨s, ⟨.atomic w n >>= rest, made⟩ :: rs, ds⟩
        ⟨w s, ⟨n s >>= rest, made ++ [(s, w s)]⟩ :: rs, ds⟩ :=
      @Step.access σ ε α Starts s [] rs ds w (fun s => n s >>= rest) made
    simpa [Program.trace] using Relation.ReflTransGen.head hs (ih s h)

theorem reachable_perform (hp : Starts p) : Reachable Starts c (c.perform p) :=
  .head (.start hp) (by simpa [perform] using @reachable_run σ ε α Starts p c.store c.running c.returned [])

theorem reachable_foldl {ps : List (Program σ ε α)} (hp : ∀ p ∈ ps, Starts p) :
    Reachable Starts c (ps.foldl perform c) := by
  induction ps generalizing c
  case nil          => exact .refl
  case cons p ps ih =>
    exact (reachable_perform <| hp p (by simp)).trans <| ih fun q hq => hp q (by simp [hq])

theorem reachable_after {s : σ} {ps : List (Program σ ε α)} (hp : ∀ p ∈ ps, Starts p) :
    Reachable Starts (.initial s) (after s ps) :=
  reachable_foldl hp

-- One more call, run alone.
theorem Reachable.perform {s s' : σ} {r : Except ε α} {c₀ : Config σ ε α}
    (h : ∃ c, Reachable Starts c₀ c ∧ c.store = s) (hp : Starts p) (hr : p.run s = (r, s')) :
    ∃ c, Reachable Starts c₀ c ∧ c.store = s' := by
  obtain ⟨c, hc, rfl⟩ := h
  exact ⟨c.perform p, hc.trans (reachable_perform hp), congrArg Prod.snd hr⟩

end Config

-- What one call may rely on and has to guarantee: every access of any client keeps `inv`, the others
-- move the store along `rely` between two accesses of the call, and the call along `guar`.
structure Discipline (σ : Type) where
  inv   : σ → Prop
  rely  : σ → σ → Prop
  guar  : σ → σ → Prop
  refl  : ∀ s, rely s s
  trans : ∀ {s₁ s₂ s₃}, rely s₁ s₂ → rely s₂ s₃ → rely s₁ s₃
  idle  : ∀ s, guar s s

namespace Discipline

variable {σ : Type}

-- Every call may rely on what every call has to guarantee.
def Mutual (D : Discipline σ) : Prop :=
  ∀ s s', D.guar s s' → D.rely s s'

def shared (inv : σ → Prop) (guar : σ → σ → Prop) (refl : ∀ s, guar s s)
    (trans : ∀ {s₁ s₂ s₃}, guar s₁ s₂ → guar s₂ s₃ → guar s₁ s₃) : Discipline σ where
  inv   := inv
  rely  := guar
  guar  := guar
  refl  := refl
  trans := trans
  idle  := refl

theorem shared_mutual {inv : σ → Prop} {guar : σ → σ → Prop} {refl : ∀ s, guar s s}
    {trans : ∀ {s₁ s₂ s₃}, guar s₁ s₂ → guar s₂ s₃ → guar s₁ s₃} :
    (shared inv guar refl trans).Mutual :=
  fun _ _ h => h

-- There are no other clients.
def alone (inv : σ → Prop) : Discipline σ where
  inv      := inv
  rely     := Eq
  guar _ _ := True
  refl _   := rfl
  trans    := Eq.trans
  idle _   := trivial

def and (D D' : Discipline σ) : Discipline σ where
  inv s       := D.inv s ∧ D'.inv s
  rely s s'   := D.rely s s' ∧ D'.rely s s'
  guar s s'   := D.guar s s' ∧ D'.guar s s'
  refl s      := ⟨D.refl s, D'.refl s⟩
  trans h h'  := ⟨D.trans h.left h'.left, D'.trans h.right h'.right⟩
  idle s      := ⟨D.idle s, D'.idle s⟩

theorem Mutual.and {D D' : Discipline σ} (h : D.Mutual) (h' : D'.Mutual) : (D.and D').Mutual :=
  fun s s' hg => ⟨h s s' hg.left, h' s s' hg.right⟩

end Discipline

-- The accesses that `made'` has beyond `made` change nothing.
def Quiet {σ : Type} (made made' : List (σ × σ)) : Prop :=
  ∃ more, made' = made ++ more ∧ ∀ m ∈ more, m.2 = m.1

namespace Quiet

variable {σ : Type} {made made' made'' : List (σ × σ)}

theorem refl : Quiet made made :=
  ⟨[], by simp⟩

theorem trans (h : Quiet made made') (h' : Quiet made' made'') : Quiet made made'' := by
  obtain ⟨l, rfl, hl⟩ := h
  obtain ⟨l', rfl, hl'⟩ := h'
  refine ⟨l ++ l', List.append_assoc .., fun m hm => ?_⟩
  exact (List.mem_append.mp hm).elim (hl m) (hl' m)

theorem single (s : σ) : Quiet made (made ++ [(s, s)]) :=
  ⟨_, rfl, by simp⟩

theorem of_nil (h : Quiet [] made) : ∀ m ∈ made, m.2 = m.1 := by
  obtain ⟨l, rfl, hl⟩ := h
  exact hl

theorem append {more : List (σ × σ)} (hm : ∀ m ∈ made', m.2 = m.1)
    (h : Quiet made (made ++ more)) : ∀ m ∈ made' ++ more, m.2 = m.1 := by
  obtain ⟨more', he, hm'⟩ := h
  obtain rfl := List.append_cancel_left he
  simp only [List.mem_append]
  exact fun m h => h.elim (hm m) (hm' m)

end Quiet

namespace Program

variable {σ ε α β : Type}

-- From store `s` on, whatever the other clients do within the discipline, the call keeps to the
-- discipline and returns only results that `post` allows.
def Respects (D : Discipline σ) (post : List (σ × σ) → Except ε α → σ → Prop) :
    Program σ ε α → List (σ × σ) → σ → Prop
  | done r,     made, s => ∀ s', D.inv s' → D.rely s s' → post made r s'
  | atomic w n, made, s =>
    ∀ s', D.inv s' → D.rely s s' →
      D.inv (w s') ∧ D.guar s' (w s') ∧ Respects D post (n s') (made ++ [(s', w s')]) (w s')

variable {D : Discipline σ} {post : List (σ × σ) → Except ε α → σ → Prop}

theorem Respects.stable {p : Program σ ε α} {made : List (σ × σ)} {s s' : σ}
    (h : p.Respects D post made s) (hg : D.rely s s') : p.Respects D post made s' := by
  cases p
  case done   => exact fun s'' hi hg' => h s'' hi (D.trans hg hg')
  case atomic => exact fun s'' hi hg' => h s'' hi (D.trans hg hg')

theorem Respects.mono {post' : List (σ × σ) → Except ε α → σ → Prop} {p : Program σ ε α}
    {made : List (σ × σ)} {s : σ} (h : p.Respects D post made s)
    (hp : ∀ made r s, D.inv s → post made r s → post' made r s) : p.Respects D post' made s := by
  induction p generalizing made s
  case done r        => exact fun s' hi hg => hp _ _ _ hi (h s' hi hg)
  case atomic w n ih =>
    intro s' hi hg
    have ⟨h₁, h₂, h₃⟩ := h s' hi hg
    exact ⟨h₁, h₂, ih s' h₃⟩

-- Whatever holds of every store the environment can reach from `s` may be assumed at `s`.
theorem Respects.intro {p : Program σ ε α} {made : List (σ × σ)} {s : σ}
    (h : ∀ s', D.inv s' → D.rely s s' → p.Respects D post made s') : p.Respects D post made s := by
  cases p
  case done   => exact fun s' hi hg => h s' hi hg s' hi (D.refl s')
  case atomic => exact fun s' hi hg => h s' hi hg s' hi (D.refl s')

theorem Respects.bind {p : Program σ ε α} {f : α → Program σ ε β} {made : List (σ × σ)} {s : σ}
    {post : List (σ × σ) → Except ε β → σ → Prop}
    (h : p.Respects D
      (fun made r s => match r with
        | .ok a    => (f a).Respects D post made s
        | .error e => post made (.error e) s) made s) :
    (p >>= f).Respects D post made s := by
  induction p generalizing made s
  case done r =>
    cases r
    case error => exact h
    case ok    => exact .intro h
  case atomic ih =>
    intro s' hi hg
    have ⟨h₁, h₂, h₃⟩ := h s' hi hg
    exact ⟨h₁, h₂, ih s' h₃⟩

theorem Respects.tryCatch {p : Program σ ε α} {f : ε → Program σ ε α} {made : List (σ × σ)} {s : σ}
    (h : p.Respects D
      (fun made r s => match r with
        | .ok a    => post made (.ok a) s
        | .error e => (f e).Respects D post made s) made s) :
    (MonadExceptOf.tryCatch p f).Respects D post made s := by
  induction p generalizing made s
  case done r =>
    cases r
    case ok    => exact h
    case error => exact .intro h
  case atomic ih =>
    intro s' hi hg
    have ⟨h₁, h₂, h₃⟩ := h s' hi hg
    exact ⟨h₁, h₂, ih s' h₃⟩

theorem Respects.attempt {p : Program σ ε α} {made : List (σ × σ)} {s : σ}
    {post : List (σ × σ) → Except ε (Except ε α) → σ → Prop}
    (h : p.Respects D (fun made r s => post made (.ok r) s) made s) :
    p.attempt.Respects D post made s := by
  induction p generalizing made s
  case done r => cases r <;> exact h
  case atomic w n ih =>
    intro s' hi hg
    have ⟨h₁, h₂, h₃⟩ := h s' hi hg
    exact ⟨h₁, h₂, ih s' h₃⟩

theorem Respects.lift {x : Except ε α} {made : List (σ × σ)} {s : σ}
    (h : ∀ s', D.inv s' → D.rely s s' → post made x s') :
    (liftM x : Program σ ε α).Respects D post made s :=
  h

theorem Respects.lift_bind {x : Except ε α} {f : α → Program σ ε β} {made : List (σ × σ)} {s : σ}
    {post : List (σ × σ) → Except ε β → σ → Prop}
    (ho : ∀ a, x = .ok a → (f a).Respects D post made s)
    (he : ∀ e s', x = .error e → D.inv s' → D.rely s s' → post made (.error e) s') :
    ((liftM x : Program σ ε α) >>= f).Respects D post made s := by
  refine .bind <| .lift fun s' hi hg => ?_
  cases hx : x
  case ok a    => exact ho a hx |>.stable hg
  case error e => exact he e s' hx hi hg

-- A transaction is one access: the one that its statements make, or none when they raise.
theorem Respects.transaction {t : StateT σ (Except ε) α} {made : List (σ × σ)} {s : σ}
    (ho : ∀ s₁ s₂ a, D.inv s₁ → D.rely s s₁ → t s₁ = .ok (a, s₂) →
      D.inv s₂ ∧ D.guar s₁ s₂ ∧
        ∀ s₃, D.inv s₃ → D.rely s₂ s₃ → post (made ++ [(s₁, s₂)]) (.ok a) s₃)
    (he : ∀ s₁ s₂ e, D.inv s₁ → D.rely s s₁ → t s₁ = .error e → D.inv s₂ → D.rely s₁ s₂ →
      post (made ++ [(s₁, s₁)]) (.error e) s₂) :
    (transaction t).Respects D post made s := by
  intro s₁ hi hg
  cases ht : t s₁
  case ok r =>
    obtain ⟨a, s₂⟩ := r
    have ⟨h₁, h₂, h₃⟩ := ho s₁ s₂ a hi hg ht
    simp only [ht]
    exact ⟨h₁, h₂, h₃⟩
  case error e =>
    simp only [ht]
    exact ⟨hi, D.idle s₁, fun s₂ hi₂ hg₂ => he s₁ s₂ e hi hg ht hi₂ hg₂⟩

-- The same from what the transaction does when it runs.
theorem Respects.transaction_run {t : StateT σ (Except ε) α} {made : List (σ × σ)} {s : σ}
    (h : ∀ s₁ s₂ r, D.inv s₁ → D.rely s s₁ → (Program.transaction t).run s₁ = (r, s₂) →
      D.inv s₂ ∧ D.guar s₁ s₂ ∧
        ∀ s₃, D.inv s₃ → D.rely s₂ s₃ → post (made ++ [(s₁, s₂)]) r s₃) :
    (Program.transaction t).Respects D post made s := by
  intro s₁ hi hg
  cases ht : t s₁
  case ok r =>
    obtain ⟨a, s₂⟩ := r
    have hr : (Program.transaction t).run s₁ = (.ok a, s₂) := transaction_run_ok.mpr ht
    simp only [ht]
    exact h s₁ s₂ (.ok a) hi hg hr
  case error e =>
    have hr : (Program.transaction t).run s₁ = (.error e, s₁) := by rw [Program.transaction_run, ht]
    simp only [ht]
    exact h s₁ s₁ (.error e) hi hg hr

-- What holds of a call among others holds of one that runs alone.
theorem Respects.run {p : Program σ ε α} {made : List (σ × σ)} {s : σ}
    (h : p.Respects D post made s) (hi : D.inv s) :
    D.inv (p.run s).2 ∧ post (made ++ p.trace s) (p.run s).1 (p.run s).2 := by
  induction p generalizing made s
  case done r        => exact ⟨hi, by simpa [trace] using h s hi (D.refl s)⟩
  case atomic w n ih =>
    have ⟨hi', _, hn⟩ := h s hi (D.refl s)
    simpa [trace, Program.run] using ih s hn hi'

theorem Respects.and {D' : Discipline σ} {post' : List (σ × σ) → Except ε α → σ → Prop}
    {p : Program σ ε α} {made : List (σ × σ)} {s : σ} (h : p.Respects D post made s)
    (h' : p.Respects D' post' made s) :
    p.Respects (D.and D') (fun made r s => post made r s ∧ post' made r s) made s := by
  induction p generalizing made s
  case done r => exact fun s' hi hg => ⟨h s' hi.left hg.left, h' s' hi.right hg.right⟩
  case atomic w n ih =>
    intro s' hi hg
    have ⟨h₁, h₂, h₃⟩ := h s' hi.left hg.left
    have ⟨h₁', h₂', h₃'⟩ := h' s' hi.right hg.right
    exact ⟨⟨h₁, h₁'⟩, ⟨h₂, h₂'⟩, ih s' h₃ h₃'⟩

-- Between two accesses of a call only other clients move the store.
structure Chained (D : Discipline σ) (made : List (σ × σ)) (s : σ) : Prop where
  rely : made.IsChain fun m m' => D.rely m.2 m'.1
  last : ∀ m ∈ made.getLast?, D.rely m.2 s
  guar : ∀ m ∈ made, D.guar m.1 m.2

theorem Chained.nil {s : σ} : Chained D [] s where
  rely := .nil
  last := by simp
  guar := by simp

theorem Chained.stable {made : List (σ × σ)} {s s' : σ} (h : Chained D made s)
    (hr : D.rely s s') : Chained D made s' :=
  { h with last := fun m hm => D.trans (h.last m hm) hr }

theorem Chained.access {made : List (σ × σ)} {s s' : σ} (h : Chained D made s)
    (hg : D.guar s s') : Chained D (made ++ [(s, s')]) s' where
  rely := by
    refine h.rely.append (.singleton _) fun m hm m' hm' => ?_
    cases Option.mem_some_iff.mp hm'
    exact h.last m hm
  last m hm := by
    simp only [List.getLast?_append, List.getLast?_singleton, Option.some_or, Option.mem_some_iff]
      at hm
    exact hm ▸ D.refl _
  guar m hm := by
    rcases List.mem_append.mp hm with hm | hm
    · exact h.guar m hm
    · cases List.mem_singleton.mp hm
      exact hg

theorem Respects.chained {p : Program σ ε α} {made : List (σ × σ)} {s : σ}
    (h : p.Respects D post made s) (hc : Chained D made s) :
    p.Respects D (fun made r s => post made r s ∧ Chained D made s) made s := by
  induction p generalizing made s
  case done r        => exact fun s' hi hr => ⟨h s' hi hr, hc.stable hr⟩
  case atomic w n ih =>
    intro s' hi hr
    have ⟨hi', hg, hn⟩ := h s' hi hr
    exact ⟨hi', hg, ih s' hn <| (hc.stable hr).access hg⟩

end Program

-- A quantity that never decreases, along the accesses of one call.

namespace Accesses

variable {σ : Type} {f : σ → Nat} {first last : σ × σ} {more : List (σ × σ)}

-- What the accesses themselves add to it.
def gained (f : σ → Nat) (made : List (σ × σ)) : Nat :=
  (made.map fun m => f m.2 - f m.1).sum

theorem gained_append {made made' : List (σ × σ)} :
    gained f (made ++ made') = gained f made + gained f made' := by
  simp [gained]

theorem gained_cons {m : σ × σ} {made : List (σ × σ)} :
    gained f (m :: made) = (f m.2 - f m.1) + gained f made := by
  simp [gained]

theorem gained_still {made : List (σ × σ)} (h : ∀ m ∈ made, f m.2 = f m.1) :
    gained f made = 0 := by
  induction made
  case nil            => rfl
  case cons m made ih =>
    have ⟨hm, hmade⟩ := List.forall_mem_cons.mp h
    rw [gained_cons, hm, Nat.sub_self, Nat.zero_add, ih hmade]

-- What the call finds at its end is what it has added to what it has found, exactly if no other
-- client has added to it in between.
theorem eq_gained_iff {P : σ → σ → Prop}
    (hr : (first :: more ++ [last]).IsChain fun m m' =>
      f m.2 ≤ f m'.1 ∧ (f m.2 = f m'.1 ↔ P m.2 m'.1))
    (hg : ∀ m ∈ first :: more ++ [last], f m.1 ≤ f m.2) :
    f first.1 + gained f (first :: more ++ [last]) ≤ f last.2 ∧
      (f last.2 = f first.1 + gained f (first :: more ++ [last]) ↔
        (first :: more ++ [last]).IsChain fun m m' => P m.2 m'.1) := by
  induction more generalizing first
  case nil =>
    have ⟨hle, hiff⟩ := List.isChain_pair.mp hr
    have h₁ := hg first (by simp)
    have h₂ := hg last (by simp)
    simp only [List.cons_append, List.nil_append, List.isChain_pair, ← hiff, gained, List.map_cons,
      List.map_nil, List.sum_cons, List.sum_nil]
    omega
  case cons m more ih =>
    have ⟨⟨hle, hiff⟩, hchain⟩ := List.isChain_cons_cons.mp hr
    have ⟨h₁, hg'⟩ := List.forall_mem_cons.mp hg
    have ⟨hle', hiff'⟩ := ih hchain hg'
    simp only [List.cons_append, List.isChain_cons_cons, gained_cons] at hle' hiff' ⊢
    rw [← hiff', ← hiff]
    have h₂ := hg m (by simp)
    omega

end Accesses

namespace Config

variable {σ ε α : Type} {D : Discipline σ} {post : List (σ × σ) → Except ε α → σ → Prop}
variable {Starts : Program σ ε α → Prop} {c c₁ c₂ : Config σ ε α} {s : σ}

-- What holds at every point of a run in which each call keeps to the discipline.
structure Sound (D : Discipline σ) (post : List (σ × σ) → Except ε α → σ → Prop) (s₀ : σ)
    (c : Config σ ε α) : Prop where
  inv      : D.inv c.store
  kept     : D.rely s₀ c.store
  running  : ∀ r ∈ c.running, r.rest.Respects D post r.made c.store
  returned : ∀ r ∈ c.returned, ∃ s, D.inv s ∧ D.rely s c.store ∧ post r.made r.result s

theorem Step.sound (hm : D.Mutual) (hs : ∀ p, Starts p → ∀ s, D.inv s → p.Respects D post [] s)
    (h : Step Starts c₁ c₂) (hc : c₁.Sound D post s) : c₂.Sound D post s := by
  obtain ⟨hi, hg, hr, hd⟩ := hc
  cases h
  case start p hp =>
    refine ⟨hi, hg, ?_, hd⟩
    simp only [List.mem_cons, forall_eq_or_imp]
    exact ⟨hs p hp _ hi, hr⟩
  case access st rs₁ rs₂ ds w n made =>
    have ⟨hi', hg', hn⟩ := hr ⟨.atomic w n, made⟩ (by simp) st hi (D.refl st)
    replace hg' := hm _ _ hg'
    refine ⟨hi', D.trans hg hg', ?_, ?_⟩
    · intro r hr'
      simp only [List.mem_append, List.mem_cons] at hr'
      rcases hr' with hr' | rfl | hr'
      · exact hr r (by simp [hr']) |>.stable hg'
      · exact hn
      · exact hr r (by simp [hr']) |>.stable hg'
    · intro r hr'
      have ⟨s', h₁, h₂, h₃⟩ := hd r hr'
      exact ⟨s', h₁, D.trans h₂ hg', h₃⟩
  case «return» st rs₁ rs₂ ds r made =>
    refine ⟨hi, hg, fun c hc => hr c (by simp at hc ⊢; tauto), ?_⟩
    intro d hd'
    simp only [List.mem_append, List.mem_singleton] at hd'
    rcases hd' with hd' | rfl
    · exact hd d hd'
    · exact ⟨st, hi, D.refl st, hr ⟨.done r, made⟩ (by simp) st hi (D.refl st)⟩
  case crash =>
    exact ⟨hi, hg, fun c hc => hr c (by simp at hc ⊢; tauto), hd⟩

-- Each step keeps to what a single access has to guarantee.
theorem Step.guar (hc : c₁.Sound D post s) (h : Step Starts c₁ c₂) :
    D.guar c₁.store c₂.store := by
  cases h
  case access st _ _ _ w n made =>
    exact (hc.running ⟨.atomic w n, made⟩ (by simp) st hc.inv (D.refl st)).right.left
  all_goals exact D.idle _

theorem Reachable.sound_of (hm : D.Mutual) (hs : ∀ p, Starts p → ∀ s, D.inv s → p.Respects D post [] s)
    (hc : c₁.Sound D post s) (h : Reachable Starts c₁ c₂) : c₂.Sound D post s := by
  induction h
  case refl          => exact hc
  case tail hstep ih => exact hstep.sound hm hs ih

theorem Reachable.sound (hm : D.Mutual) (hs : ∀ p, Starts p → ∀ s, D.inv s → p.Respects D post [] s)
    (hi : D.inv s) (h : Reachable Starts (.initial s) c) : c.Sound D post s :=
  h.sound_of hm hs ⟨hi, D.refl s, by simp [initial], by simp [initial]⟩

theorem Reachable.kept (hm : D.Mutual) (hs : ∀ p, Starts p → ∀ s, D.inv s → p.Respects D post [] s)
    (hc : c₁.Sound D post s) (h : Reachable Starts c₁ c₂) : D.rely c₁.store c₂.store :=
  (h.sound_of hm hs { hc with kept := D.refl c₁.store }).kept

-- The accesses of all calls that have not been dropped.
def made (c : Config σ ε α) : List (List (σ × σ)) :=
  c.running.map Call.made ++ c.returned.map Return.made

-- The accesses of one call include the one that sets `flag`.
def Sets (flag : σ → Prop) (made : List (σ × σ)) : Prop :=
  ∃ m ∈ made, ¬flag m.1 ∧ flag m.2

theorem sets_append {flag : σ → Prop} {m : σ × σ} {made : List (σ × σ)} :
    Sets flag (made ++ [m]) ↔ Sets flag made ∨ (¬flag m.1 ∧ flag m.2) := by
  simp [Sets, or_and_right, exists_or]

section Setters

open Classical

variable {flag : σ → Prop}

noncomputable def setters (flag : σ → Prop) (c : Config σ ε α) : Nat :=
  c.made.countP (Sets flag ·)

noncomputable def budget (flag : σ → Prop) (c : Config σ ε α) : Nat :=
  if flag c.store then 1 else 0

-- A flag that no access of the discipline takes back is set by at most one call.
theorem Step.setters_le_budget (hm : D.Mutual) (hf : ∀ s s', D.rely s s' → flag s → flag s')
    (h : Step Starts c₁ c₂) (hc : c₁.Sound D post s) (hb : c₁.setters flag ≤ c₁.budget flag) :
    c₂.setters flag ≤ c₂.budget flag := by
  simp only [setters, budget, made] at hb ⊢
  cases h
  case start => simpa [Sets] using hb
  case access st rs₁ rs₂ ds w n made =>
    have ⟨_, hg, _⟩ := hc.running ⟨.atomic w n, made⟩ (by simp) st hc.inv (D.refl st)
    replace hg := hm _ _ hg
    have hn : Sets flag (made ++ [(st, w st)]) ↔ Sets flag made ∨ (¬flag st ∧ flag (w st)) :=
      sets_append
    simp only [List.map_append, List.map_cons, List.countP_append, List.countP_cons,
      decide_eq_true_eq] at hb ⊢
    by_cases h₁ : flag st
    case pos => simpa [h₁, hf _ _ hg h₁, hn] using hb
    case neg =>
      by_cases hs : Sets flag made <;> by_cases h₂ : flag (w st) <;>
        simp only [h₁, h₂, hs, hn, not_false_eq_true, and_self, and_false, or_self, or_true,
          true_or, if_true, if_false] at hb ⊢ <;> omega
  case «return» =>
    simp only [List.map_append, List.map_cons, List.countP_append, List.countP_cons, List.map_nil,
      List.countP_nil] at hb ⊢
    omega
  case crash =>
    simp only [List.map_append, List.map_cons, List.countP_append, List.countP_cons] at hb ⊢
    omega

theorem Reachable.setters_le_one (hm : D.Mutual) (hf : ∀ s s', D.rely s s' → flag s → flag s')
    (hs : ∀ p, Starts p → ∀ s, D.inv s → p.Respects D post [] s) (hi : D.inv s)
    (h : Reachable Starts (.initial s) c) : c.setters flag ≤ 1 := by
  suffices hb : c.setters flag ≤ c.budget flag by
    simp only [budget] at hb
    split at hb <;> omega
  induction h
  case refl             => simp [setters, made, initial]
  case tail hr hstep ih => exact hstep.setters_le_budget hm hf (Reachable.sound hm hs hi hr) ih

theorem pairwise_of_setters_le_one (h : c.setters flag ≤ 1) :
    c.returned.Pairwise fun a b => ¬(Sets flag a.made ∧ Sets flag b.made) := by
  replace h : c.returned.countP (fun r => decide (Sets flag r.made)) ≤ 1 := by
    simp only [setters, made, List.countP_append, List.countP_map] at h
    exact Nat.le_trans (Nat.le_add_left _ _) h
  generalize c.returned = ds at h ⊢
  induction ds
  case nil => exact .nil
  case cons d ds ih =>
    rw [List.countP_cons] at h
    refine .cons ?_ (ih <| by omega)
    rintro b hb ⟨h₁, h₂⟩
    have := List.countP_pos_iff (p := fun r => decide (Sets flag r.made)).mpr
      ⟨b, hb, decide_eq_true h₂⟩
    simp only [h₁, decide_true, if_true] at h
    omega

-- The same for a family of flags.
theorem Reachable.setters_pairwise {ι : Type} {flag : ι → σ → Prop} (hm : D.Mutual)
    (hf : ∀ i s s', D.rely s s' → flag i s → flag i s')
    (hs : ∀ p, Starts p → ∀ s, D.inv s → p.Respects D post [] s) (hi : D.inv s)
    (h : Reachable Starts (.initial s) c) :
    c.returned.Pairwise fun a b => ∀ i, ¬(Sets (flag i) a.made ∧ Sets (flag i) b.made) := by
  rw [List.pairwise_iff_getElem]
  intro m n hl hl' hlt i
  have hp := pairwise_of_setters_le_one <| Reachable.setters_le_one hm (hf i) hs hi h
  exact List.pairwise_iff_getElem.mp hp m n hl hl' hlt

end Setters

end Config
