import Exira.Books.Accrual
import Exira.Lib.Splitting
import Exira.Pool.TopUps

/-!
# Splitting a purchase

Two runs that differ in one purchase: in the first, a wallet that holds tokens of a pool buys more; in the
second, a fresh wallet buys them, and claims whenever the first wallet does. The two funds are related by
`Ledger.Splits` all along, so as long as the first wallet buys with a settled position it does not matter
who made the purchase.
-/

namespace Exira

open Dividend

/-! ## The ledger of a pool -/

/-- What an event does to the ledger of a fund. -/
def Event.Books {ι : Type} [DecidableEq ι] (P : ℕ) (l l' : Ledger ι) : Event ι → Prop
  | .buy i n => l' = l.buy i n
  | .exit i => ∃ h, l.holdings.lookup i = some h ∧ l' = l.exit i h
  | .claim i => ∃ h, l.holdings.lookup i = some h ∧ l' = l.claim P i h
  | .distribute n => l' = l.distribute P n
  | _ => l' = l

/-- A step of a fund does to its ledger what the event says. -/
lemma Fund.Step.books {ι : Type} [DecidableEq ι] {P : ℕ} {f f' : Fund ι} {e : Event ι}
    (st : f.Step P e f') : e.Books P f.toLedger f'.toLedger := by
  cases st with
  | exit _ _ own => exact ⟨_, own, rfl⟩
  | claim own => exact ⟨_, own, rfl⟩
  | _ => rfl

variable {K : Type} [DecidableEq K]

/-- The event that an action is for the ledger of the pool at `p`, if it succeeds. -/
def Action.poolEvent (p : K) : Action K → Option (Event K)
  | .call _ (.buyPoolTokens a n) => if a.pool = p then some (.buy a.position n.toNat) else none
  | .call _ (.claimPoolReturns c) => if c.pool = p then some (.claim c.position) else none
  | .call _ (.distributePoolReturns a n) => if a.pool = p then some (.distribute n.toNat) else none
  | _ => none

/-- A pool's events are those of the actions on it. -/
lemma Action.poolEvent_eq_some {s : State K} {a : Action K} {p : K} {e : Event K} :
    a.poolEvent p = some e ↔ a.effect s = .own (.pool p) e := by
  refine ⟨?_, ?_⟩
  · intro h
    unfold Action.poolEvent at h
    split at h
    · rw [Option.ite_none_right_eq_some] at h
      obtain ⟨rfl, h⟩ := h
      cases h
      rfl
    · rw [Option.ite_none_right_eq_some] at h
      obtain ⟨rfl, h⟩ := h
      cases h
      rfl
    · rw [Option.ite_none_right_eq_some] at h
      obtain ⟨rfl, h⟩ := h
      cases h
      rfl
    · cases h
  · intro h
    unfold Action.effect at h
    split at h <;> cases h <;> exact if_pos rfl

variable [Addresses K]

/-- A successful action does to the ledger of a pool what its event says, if it has one. -/
lemma step_books {s s' : State K} {a : Action K} {p : K} {f : Fund K} (wf : s.Wf)
    (st : step s a = .ok s') (own : s.fund (.pool p) = some f) :
    ∃ f', s'.fund (.pool p) = some f' ∧
      (a.poolEvent p).elim (f'.toLedger = f.toLedger) (Event.Books PRECISION.toNat f.toLedger f'.toLedger) := by
  have after := step_fund wf st own
  cases h : a.poolEvent p with
  | some e =>
    obtain ⟨l, listed, -⟩ := Option.map_eq_some_iff.mp own
    have event : s.event (.pool p) a = some e := by
      rw [State.event, listed, Option.bind_some, Action.poolEvent_eq_some.mp h, Effect.on, if_pos rfl]
    rw [event] at after
    obtain ⟨f', own', es⟩ := after
    exact ⟨f', own', es.books⟩
  | none =>
    cases ev : s.event (.pool p) a with
    | none =>
      rw [ev] at after
      exact ⟨f, after, rfl⟩
    | some e =>
      rw [ev] at after
      obtain ⟨f', own', es⟩ := after
      refine ⟨f', own', ?_⟩
      cases State.event_raises ev with
      | deposit => exact es.books
      | burn => exact es.books
      | _ => simp [Action.poolEvent] at h

/-- A claim of a wallet is the event of its position. -/
lemma claimsPool_event {s s' : State K} {a : Action K} {p w : K} (wf : s.Wf)
    (claims : a.claimsPool p w = true) (st : step s a = .ok s') :
    a.poolEvent p = some (.claim (Client.position p w)) := by
  cases e : a.poolClaim with
  | none => simp [Action.claimsPool, e] at claims
  | some c =>
    simp only [Action.claimsPool, e, Option.any_some, decide_eq_true_eq] at claims
    obtain ⟨rfl, rfl⟩ := claims
    have place := poolClaim_position wf e st
    obtain ⟨now, rfl⟩ := Action.poolClaim_eq_some e
    rw [Action.poolEvent, if_pos rfl, place]
    rfl

/-- The gap that a purchase of `w` finds is that of its position. -/
lemma topUpGap_eq {s s' : State K} {a : Action K} {p w : K} (buys : a.buysPool p w = true)
    (st : step s a = .ok s') : topUpGap p (s, a) = s.gapAt p (Client.position p w) := by
  cases e : a.poolPurchase with
  | none => simp [Action.buysPool, e] at buys
  | some b =>
    simp only [Action.buysPool, e, Option.any_some, decide_eq_true_eq] at buys
    obtain ⟨rfl, rfl⟩ := buys
    obtain ⟨-, place⟩ := poolPurchase_inv e st
    simp only [topUpGap, e, Option.elim, if_true, place]
    rfl

omit [Addresses K] in
/-- The events of a pool, and the calls they come from. -/
lemma Action.poolEvent_cases {a : Action K} {p : K} {e : Event K} (h : a.poolEvent p = some e) :
    (∃ b n, a.poolPurchase = some b ∧ b.pool = p ∧ e = .buy b.position n) ∨
      (∃ c, a.poolClaim = some c ∧ c.pool = p ∧ e = .claim c.position) ∨ ∃ n, e = .distribute n := by
  unfold Action.poolEvent at h
  split at h
  · rw [Option.ite_none_right_eq_some] at h
    obtain ⟨rfl, h⟩ := h
    exact .inl ⟨_, _, rfl, rfl, (Option.some.inj h).symm⟩
  · rw [Option.ite_none_right_eq_some] at h
    obtain ⟨rfl, h⟩ := h
    exact .inr (.inl ⟨_, rfl, rfl, (Option.some.inj h).symm⟩)
  · rw [Option.ite_none_right_eq_some] at h
    exact .inr (.inr ⟨_, (Option.some.inj h.2).symm⟩)
  · cases h

/-! ## Two states -/

/-- Two states in which the pool at `p` is the same, but for the tokens of `w`: in the second they are
split between `w` and `w'`. The numbers count the claims of `w` in the first and of both in the second. -/
structure Twins (p w w' : K) (c c' : ℕ) (s s' : State K) : Prop where
  wf : s.Wf
  wf' : s'.Wf
  funds : ∃ f f', s.fund (.pool p) = some f ∧ s'.fund (.pool p) = some f' ∧
    f.Splits PRECISION.toNat (Client.position p w) (Client.position p w') c c' f'.toLedger

section
variable {p w w' : K} {c c' : ℕ} {s s' s₁ s₁' : State K} {a : Action K}

/-- The wallet claims in the first state. -/
lemma Twins.claim_whole (t : Twins p w w' c c' s s') (claims : a.claimsPool p w = true)
    (st : step s a = .ok s₁) : Twins p w w' (c + 1) c' s₁ s' := by
  obtain ⟨wf, wf', f, f', own, own', splits⟩ := t
  obtain ⟨f₁, own₁, books⟩ := step_books wf st own
  rw [claimsPool_event wf claims st] at books
  obtain ⟨h, held, e⟩ := books
  exact ⟨wf.step st, wf', f₁, f', own₁, own', e ▸ splits.claim_whole (by decide) held⟩

/-- The fresh wallet has nothing to claim in the first state. -/
lemma Twins.claim_fresh (t : Twins p w w' c c' s s') (claims : a.claimsPool p w' = true) :
    step s a ≠ .ok s₁ := by
  intro st
  obtain ⟨wf, -, f, f', own, -, splits⟩ := t
  obtain ⟨f₁, -, books⟩ := step_books wf st own
  rw [claimsPool_event wf claims st] at books
  obtain ⟨h, held, -⟩ := books
  exact nomatch held.symm.trans splits.free

/-- One of the wallets claims in the second state. -/
lemma Twins.claim_part (t : Twins p w w' c c' s s')
    (claims : a.claimsPool p w = true ∨ a.claimsPool p w' = true) (st : step s' a = .ok s₁') :
    Twins p w w' c (c' + 1) s s₁' := by
  obtain ⟨wf, wf', f, f', own, own', splits⟩ := t
  obtain ⟨f₁', own₁', books⟩ := step_books wf' st own'
  refine ⟨wf, wf'.step st, f, f₁', own, own₁', ?_⟩
  rcases claims with claims | claims
  · rw [claimsPool_event wf' claims st] at books
    obtain ⟨h, held, e⟩ := books
    exact e ▸ splits.claim_part (by decide) (.inl rfl) held
  · rw [claimsPool_event wf' claims st] at books
    obtain ⟨h, held, e⟩ := books
    exact e ▸ splits.claim_part (by decide) (.inr rfl) held

/-- Any other action, with success in both states. -/
lemma Twins.both (t : Twins p w w' c c' s s') (other : a.claimsPool p w = false)
    (other' : a.claimsPool p w' = false) (fresh : a.buysPool p w' = false)
    (settled : a.buysPool p w = true → topUpGap p (s, a) = 0 ∧ topUpGap p (s', a) = 0)
    (st : step s a = .ok s₁) (st' : step s' a = .ok s₁') : Twins p w w' c c' s₁ s₁' := by
  obtain ⟨wf, wf', f, f', own, own', splits⟩ := t
  obtain ⟨f₁, own₁, books⟩ := step_books wf st own
  obtain ⟨f₁', own₁', books'⟩ := step_books wf' st' own'
  refine ⟨wf.step st, wf'.step st', f₁, f₁', own₁, own₁', ?_⟩
  cases h : a.poolEvent p with
  | none =>
    rw [h] at books books'
    have e : f₁.toLedger = f.toLedger := books
    have e' : f₁'.toLedger = f'.toLedger := books'
    rw [e, e']
    exact splits
  | some ev =>
    rw [h] at books books'
    obtain ⟨b, n, e, rfl, rfl⟩ | ⟨d, e, rfl, rfl⟩ | ⟨n, rfl⟩ := Action.poolEvent_cases h
    · -- a purchase: by the split wallet, on both sides, or by another one
      have e₁ : f₁.toLedger = f.buy b.position n := books
      have e₁' : f₁'.toLedger = f'.buy b.position n := books'
      obtain ⟨-, place⟩ := poolPurchase_inv e st
      rw [e₁, e₁']
      by_cases same : b.investor = w
      · subst same
        have buys : a.buysPool b.pool b.investor = true := by simp [Action.buysPool, e]
        obtain ⟨gap, gap'⟩ := settled buys
        obtain ⟨h₀, h₁, -, held, held', -⟩ := splits.parts
        rw [topUpGap_eq buys st, State.gapAt_eq own held] at gap
        rw [topUpGap_eq buys st', State.gapAt_eq own' held'] at gap'
        rw [place]
        exact splits.buy_same held held' (Nat.le_of_sub_eq_zero gap) (Nat.le_of_sub_eq_zero gap') n
      · have ne' : b.investor ≠ w' := by
          rintro rfl
          simp [Action.buysPool, e] at fresh
        rw [place]
        exact splits.buy_other (position_ne same) (position_ne ne') n
    · -- a claim, by a wallet that is none of the two
      obtain ⟨h, held, e₁⟩ := books
      obtain ⟨h', held', e₁'⟩ := books'
      have place := poolClaim_position wf e st
      have ne : d.investor ≠ w := by
        rintro rfl
        simp [Action.claimsPool, e] at other
      have ne' : d.investor ≠ w' := by
        rintro rfl
        simp [Action.claimsPool, e] at other'
      rw [e₁, e₁']
      rw [place] at held held' ⊢
      exact splits.claim_other (position_ne ne) (position_ne ne') held held'
    · -- a distribution
      have e : f₁.toLedger = f.distribute _ n := books
      have e' : f₁'.toLedger = f'.distribute _ n := books'
      rw [e, e']
      exact splits.distribute n

end

/-! ## Two runs -/

omit [Addresses K] in
/-- The action is a claim of `w` or `w'` in the pool at `p`. -/
def Action.claimsBy (p w w' : K) (a : Action K) : Bool :=
  a.claimsPool p w || a.claimsPool p w'

/-- Which actions succeed, in order, but for the claims of `w` and `w'` in the pool at `p`. -/
def outcomes (p w w' : K) (xs : List (State K × Action K)) : List Bool :=
  (xs.filter fun x => !x.2.claimsBy p w w').map fun x => (x.1.errorOf x.2).isNone

omit [Addresses K] in
/-- The action `claim` after each claim of `w` in the pool at `p`. -/
def withClaims (p w : K) (claim : Action K) (as : List (Action K)) : List (Action K) :=
  as.flatMap fun a => if a.claimsPool p w then [a, claim] else [a]

omit [Addresses K] in
/-- The number of claims of `w` and `w'` in the pool at `p`. -/
def claimCount (p w w' : K) (h : List (State K × Action K)) : ℕ :=
  h.countP fun x => x.2.claimsBy p w w'

section
variable {p w w' : K} {c c' : ℕ} {s s' : State K} {a claim : Action K}

/-- A claim that goes through counts as one. -/
lemma claimCount_single {s₁ : State K} (claims : a.claimsBy p w w' = true) (st : step s a = .ok s₁) :
    claimCount p w w' (Runs.trace step s [a]) = 1 := by
  rw [Runs.trace_ok st]
  simp [Runs.trace, claimCount, claims]

omit [Addresses K] in
/-- Claims are counted part by part. -/
lemma claimCount_append (h h' : List (State K × Action K)) :
    claimCount p w w' (h ++ h') = claimCount p w w' h + claimCount p w w' h' :=
  List.countP_append

/-- Claims are counted action by action. -/
lemma claimCount_cons (as : List (Action K)) : claimCount p w w' (Runs.trace step s (a :: as))
    = claimCount p w w' (Runs.trace step s [a])
      + claimCount p w w' (Runs.trace step (Runs.next step s a) as) := by
  rw [Runs.trace_cons, claimCount_append]

/-- Outcomes are those of each part. -/
lemma outcomes_append (xs ys : List (State K × Action K)) :
    outcomes p w w' (xs ++ ys) = outcomes p w w' xs ++ outcomes p w w' ys := by
  simp [outcomes]

/-- A claim of the wallets has no outcome. -/
lemma outcomes_claim (claims : a.claimsBy p w w' = true) (as : List (Action K)) :
    outcomes p w w' (Runs.attempts step s (a :: as))
      = outcomes p w w' (Runs.attempts step (Runs.next step s a) as) := by
  simp [Runs.attempts_cons, outcomes, claims]

/-- Any other action has its outcome. -/
lemma outcomes_other (other : a.claimsBy p w w' = false) (as : List (Action K)) :
    outcomes p w w' (Runs.attempts step s (a :: as))
      = (s.errorOf a).isNone :: outcomes p w w' (Runs.attempts step (Runs.next step s a) as) := by
  simp [Runs.attempts_cons, outcomes, other]

/-- Every action but the wallets' claims has an outcome. -/
lemma outcomes_length (as : List (Action K)) :
    (outcomes p w w' (Runs.attempts step s as)).length = as.countP fun a => !a.claimsBy p w w' := by
  induction as generalizing s with
  | nil => rfl
  | cons a as ih =>
    cases h : a.claimsBy p w w' with
    | true =>
      rw [outcomes_claim h, ih]
      simp [h]
    | false =>
      rw [outcomes_other h, List.length_cons, ih]
      simp [h]

omit [Addresses K] in
/-- The added claims are none of the other actions. -/
lemma withClaims_countP (claims : claim.claimsPool p w' = true) :
    (withClaims p w claim [a]).countP (fun a => !a.claimsBy p w w')
      = [a].countP fun a => !a.claimsBy p w w' := by
  by_cases own : a.claimsPool p w = true
  · simp [withClaims, own, Action.claimsBy, claims]
  · simp [withClaims, own]

/-- A claim attempted in the first state. -/
lemma Twins.next_whole (t : Twins p w w' c c' s s') (claims : a.claimsBy p w w' = true) :
    ∃ d, d ≤ c + claimCount p w w' (Runs.trace step s [a]) ∧
      Twins p w w' d c' (Runs.next step s a) s' := by
  cases st : step s a with
  | error e =>
    rw [Runs.next_error st]
    exact ⟨c, Nat.le_add_right _ _, t⟩
  | ok s₁ =>
    rw [Runs.next_ok st, claimCount_single claims st]
    obtain own | fresh := Bool.or_eq_true_iff.mp claims
    · exact ⟨c + 1, Nat.le_refl _, t.claim_whole own st⟩
    · exact absurd st (t.claim_fresh fresh)

/-- A claim attempted in the second state. -/
lemma Twins.next_part (t : Twins p w w' c c' s s') (claims : a.claimsBy p w w' = true) :
    ∃ d, d ≤ c' + claimCount p w w' (Runs.trace step s' [a]) ∧
      Twins p w w' c d s (Runs.next step s' a) := by
  cases st : step s' a with
  | error e =>
    rw [Runs.next_error st]
    exact ⟨c', Nat.le_add_right _ _, t⟩
  | ok s₁ =>
    rw [Runs.next_ok st, claimCount_single claims st]
    exact ⟨c' + 1, Nat.le_refl _, t.claim_part (Bool.or_eq_true_iff.mp claims) st⟩

/-- Any other action, attempted in both states with the same outcome. -/
lemma Twins.next_both (t : Twins p w w' c c' s s') (other : a.claimsBy p w w' = false)
    (fresh : a.buysPool p w' = false) (alike : (s.errorOf a).isNone = (s'.errorOf a).isNone)
    (settled : ∀ x ∈ Runs.trace step s [a], x.2.buysPool p w = true → topUpGap p x = 0)
    (settled' : ∀ x ∈ Runs.trace step s' [a], x.2.buysPool p w = true → topUpGap p x = 0) :
    Twins p w w' c c' (Runs.next step s a) (Runs.next step s' a) := by
  obtain ⟨not_w, not_w'⟩ := Bool.or_eq_false_iff.mp other
  cases st : step s a with
  | error e =>
    cases st' : step s' a with
    | error e' =>
      rw [Runs.next_error st, Runs.next_error st']
      exact t
    | ok s₁' => simp [State.errorOf, st, st'] at alike
  | ok s₁ =>
    cases st' : step s' a with
    | error e' => simp [State.errorOf, st, st'] at alike
    | ok s₁' =>
      rw [Runs.next_ok st, Runs.next_ok st']
      rw [Runs.trace_ok st] at settled
      rw [Runs.trace_ok st'] at settled'
      refine t.both not_w not_w' fresh ?_ st st'
      exact fun buys => ⟨settled _ (.head _) buys, settled' _ (.head _) buys⟩

/-- An action in the first run, and what stands for it in the second. -/
lemma Twins.next (t : Twins p w w' c c' s s') (claims : claim.claimsPool p w' = true)
    (fresh : a.buysPool p w' = false)
    (alike : outcomes p w w' (Runs.attempts step s [a])
      = outcomes p w w' (Runs.attempts step s' (withClaims p w claim [a])))
    (settled : ∀ x ∈ Runs.trace step s [a], x.2.buysPool p w = true → topUpGap p x = 0)
    (settled' : ∀ x ∈ Runs.trace step s' (withClaims p w claim [a]),
      x.2.buysPool p w = true → topUpGap p x = 0) :
    ∃ d d', d ≤ c + claimCount p w w' (Runs.trace step s [a]) ∧
      d' ≤ c' + claimCount p w w' (Runs.trace step s' (withClaims p w claim [a])) ∧
      Twins p w w' d d' (Runs.next step s a) (Runs.run step s' (withClaims p w claim [a])) := by
  by_cases own : a.claimsPool p w = true
  · -- `w` claims: one step in the first run, two in the second
    have by_w : a.claimsBy p w w' = true := Bool.or_eq_true_iff.mpr (.inl own)
    have by_w' : claim.claimsBy p w w' = true := Bool.or_eq_true_iff.mpr (.inr claims)
    have twin : withClaims p w claim [a] = [a, claim] := by simp [withClaims, own]
    obtain ⟨d, le, t₁⟩ := t.next_whole by_w
    obtain ⟨d₁, le₁, t₂⟩ := t₁.next_part by_w
    obtain ⟨d₂, le₂, t₃⟩ := t₂.next_part by_w'
    rw [twin]
    refine ⟨d, d₂, le, ?_, t₃⟩
    rw [claimCount_cons]
    omega
  · have twin : withClaims p w claim [a] = [a] := by simp [withClaims, own]
    rw [twin] at alike settled' ⊢
    cases claiming : a.claimsBy p w w' with
    | true =>
      obtain ⟨d, le, t₁⟩ := t.next_whole claiming
      obtain ⟨d', le', t₂⟩ := t₁.next_part claiming
      exact ⟨d, d', le, le', t₂⟩
    | false =>
      rw [outcomes_other claiming, outcomes_other claiming] at alike
      have t₁ := t.next_both claiming fresh (List.head_eq_of_cons_eq alike) settled settled'
      exact ⟨c, c', Nat.le_add_right _ _, Nat.le_add_right _ _, t₁⟩

/-- The two runs stay related. -/
lemma Twins.run (claims : claim.claimsPool p w' = true) (as : List (Action K))
    (t : Twins p w w' c c' s s') (fresh : ∀ a ∈ as, a.buysPool p w' = false)
    (alike : outcomes p w w' (Runs.attempts step s as)
      = outcomes p w w' (Runs.attempts step s' (withClaims p w claim as)))
    (settled : ∀ x ∈ Runs.trace step s as, x.2.buysPool p w = true → topUpGap p x = 0)
    (settled' : ∀ x ∈ Runs.trace step s' (withClaims p w claim as),
      x.2.buysPool p w = true → topUpGap p x = 0) :
    ∃ d d', d ≤ c + claimCount p w w' (Runs.trace step s as) ∧
      d' ≤ c' + claimCount p w w' (Runs.trace step s' (withClaims p w claim as)) ∧
      Twins p w w' d d' (Runs.run step s as) (Runs.run step s' (withClaims p w claim as)) := by
  induction as generalizing c c' s s' with
  | nil => exact ⟨c, c', Nat.le_add_right _ _, Nat.le_add_right _ _, t⟩
  | cons a as ih =>
    have twin : withClaims p w claim (a :: as) = withClaims p w claim [a] ++ withClaims p w claim as := by
      simp [withClaims]
    rw [twin] at alike settled' ⊢
    rw [Runs.trace_cons, List.forall_mem_append] at settled
    rw [Runs.trace_append, List.forall_mem_append] at settled'
    -- the outcomes of the first action are those of what stands for it
    rw [← List.singleton_append, Runs.attempts_append, Runs.attempts_append, outcomes_append,
      outcomes_append] at alike
    have length : (outcomes p w w' (Runs.attempts step s [a])).length
        = (outcomes p w w' (Runs.attempts step s' (withClaims p w claim [a]))).length := by
      rw [outcomes_length, outcomes_length, withClaims_countP claims]
    obtain ⟨head, tail⟩ := List.append_inj alike length
    obtain ⟨d₁, d₁', le₁, le₁', t₁⟩ := t.next claims (fresh a (.head _)) head settled.1 settled'.1
    obtain ⟨d, d', le, le', t'⟩ := ih t₁ (fun b mem => fresh b (.tail _ mem)) tail settled.2 settled'.2
    refine ⟨d, d', ?_, ?_, ?_⟩
    · rw [claimCount_cons]
      omega
    · rw [Runs.trace_append, claimCount_append]
      omega
    · rw [Runs.run_append]
      exact t'

end

/-! ## A purchase, made by the holder or by a fresh wallet -/

/-- Two runs that differ in one purchase in a pool, of `amount` tokens after the actions `before`: in the
first it is made by `wallet`, in the second by `wallet'`, which then makes its `claim` after each claim of
`wallet`. -/
structure SplitPurchase (K : Type) where
  pool : K
  wallet : K
  wallet' : K
  before : List (Action K)
  after : List (Action K)
  time : Int64
  purchase : BuyPoolTokens K
  purchase' : BuyPoolTokens K
  amount : U64
  claim : ClaimPoolReturns K

namespace SplitPurchase
variable (x : SplitPurchase K)

omit [DecidableEq K] [Addresses K] in
/-- The purchase of the wallet. -/
def call : Action K :=
  .call x.time (.buyPoolTokens x.purchase x.amount)

omit [DecidableEq K] [Addresses K] in
/-- The purchase of the fresh wallet. -/
def call' : Action K :=
  .call x.time (.buyPoolTokens x.purchase' x.amount)

omit [DecidableEq K] [Addresses K] in
/-- The run in which the wallet buys. -/
def first : List (Action K) :=
  x.before ++ x.call :: x.after

omit [Addresses K] in
/-- The actions after the purchase, with the claims of the fresh wallet. -/
def after' : List (Action K) :=
  withClaims x.pool x.wallet (.call x.time (.claimPoolReturns x.claim)) x.after

omit [Addresses K] in
/-- The run in which the fresh wallet buys. -/
def second : List (Action K) :=
  x.before ++ x.call' :: x.after'

/-- The purchase goes through in both runs and is not the first one of the wallet, the other wallet is
fresh, and all actions but the claims of the two succeed in both runs or in none. -/
structure Valid (g : Genesis K) : Prop where
  buys : x.call.buysPool x.pool x.wallet = true
  buys' : x.call'.buysPool x.pool x.wallet' = true
  claims : x.claim.pool = x.pool ∧ x.claim.investor = x.wallet'
  bought : (g.run x.before).errorOf x.call = none
  bought' : (g.run x.before).errorOf x.call' = none
  holds : (g.run x.before).positions.lookup (Client.position x.pool x.wallet) ≠ none
  fresh : (g.run x.before).positions.lookup (Client.position x.pool x.wallet') = none
  once : ∀ a ∈ x.after, a.buysPool x.pool x.wallet' = false
  alike : outcomes x.pool x.wallet x.wallet' (g.attempts x.first)
    = outcomes x.pool x.wallet x.wallet' (g.attempts x.second)

end SplitPurchase

omit [Addresses K] in
/-- What the position of `w` in the pool at `p` claimed and is owed. -/
def State.entitledAt (s : State K) (p k : K) : ℕ :=
  match s.pools.lookup p, s.positions.lookup k with
  | some pool, some q => q.totalClaimed.toNat + q.owed pool.cumulativeUsdcPerToken
  | _, _ => 0

omit [Addresses K] in
/-- Every purchase of `w` in the pool at `p` finds its position settled, or makes it. -/
def SettledPurchases (p w : K) (h : List (State K × Action K)) : Prop :=
  ∀ x ∈ h, x.2.buysPool p w = true → topUpGap p x = 0

omit [Addresses K] in
/-- What a position claimed and is owed, by its holding. -/
lemma State.entitledAt_eq {s : State K} {p k : K} {f : Fund K} {h : Holding}
    (own : s.fund (.pool p) = some f) (held : f.holdings.lookup k = some h) :
    s.entitledAt p k = h.claimed + h.owed PRECISION.toNat f.index := by
  obtain ⟨pool, found, rfl⟩ := State.fund_pool_some own
  obtain ⟨q, there, -, rfl⟩ := View.lookup_holdings held
  have there : s.positions.lookup k = some q := there
  simp only [State.entitledAt, found, there]
  rfl

/-- A purchase that goes through is a purchase of the ledger. -/
lemma buysPool_books {s s' : State K} {a : Action K} {p w : K} (wf : s.Wf) {now : Int64}
    {b : BuyPoolTokens K} {n : U64} (call : a = .call now (.buyPoolTokens b n))
    (buys : a.buysPool p w = true) (st : step s a = .ok s') :
    ∃ f f', s.fund (.pool p) = some f ∧ s'.fund (.pool p) = some f' ∧
      f'.toLedger = f.buy (Client.position p w) n.toNat := by
  subst call
  simp only [Action.buysPool, Action.poolPurchase, Option.any_some, decide_eq_true_eq] at buys
  obtain ⟨rfl, rfl⟩ := buys
  obtain ⟨⟨pool, own⟩, place⟩ := poolPurchase_inv rfl st
  obtain ⟨f', own', books⟩ := step_books wf st (State.fund_pool own)
  rw [Action.poolEvent, if_pos rfl, place] at books
  exact ⟨_, f', State.fund_pool own, own', books⟩

/-- The purchase relates the two states after it. -/
lemma SplitPurchase.Valid.twins {g : Genesis K} {x : SplitPurchase K} (valid : x.Valid g)
    (settled : topUpGap x.pool (g.run x.before, x.call) = 0) :
    Twins x.pool x.wallet x.wallet' 0 0 (Runs.next step (g.run x.before) x.call)
      (Runs.next step (g.run x.before) x.call') := by
  have wf := g.run_wf x.before
  obtain ⟨s, st⟩ := State.errorOf_eq_none.mp valid.bought
  obtain ⟨s', st'⟩ := State.errorOf_eq_none.mp valid.bought'
  obtain ⟨f, f₁, own, own₁, books⟩ := buysPool_books wf rfl valid.buys st
  obtain ⟨f', f₂, own', own₂, books'⟩ := buysPool_books wf rfl valid.buys' st'
  cases own.symm.trans own'
  rw [Runs.next_ok st, Runs.next_ok st']
  refine ⟨wf.step st, wf.step st', f₁, f₂, own₁, own₂, ?_⟩
  rw [books, books']
  obtain ⟨q, held⟩ := Option.ne_none_iff_exists'.mp valid.holds
  have holding : f.holdings.lookup (Client.position x.pool x.wallet) = some q.holding := by
    rw [State.fund_holdings own]
    exact wf.holding_of held
  have free : f.holdings.lookup (Client.position x.pool x.wallet') = none := by
    rw [State.fund_holdings own, Option.eq_none_iff_forall_not_mem]
    intro h own'
    obtain ⟨q', held', -⟩ := View.lookup_holdings own'
    exact nomatch valid.fresh.symm.trans held'
  rw [topUpGap_eq valid.buys st, State.gapAt_eq own holding] at settled
  exact .start (g.fund_sound x.before own).ledger holding free (Nat.le_of_sub_eq_zero settled) _

/-- The two runs end in related states. -/
lemma SplitPurchase.Valid.run {g : Genesis K} {x : SplitPurchase K} (valid : x.Valid g)
    (settled : SettledPurchases x.pool x.wallet (g.history x.first))
    (settled' : SettledPurchases x.pool x.wallet (g.history x.second)) :
    ∃ d d', d ≤ claimCount x.pool x.wallet x.wallet' (g.history x.first) ∧
      d' ≤ claimCount x.pool x.wallet x.wallet' (g.history x.second) ∧
      Twins x.pool x.wallet x.wallet' d d' (g.run x.first) (g.run x.second) := by
  obtain ⟨s, st⟩ := State.errorOf_eq_none.mp valid.bought
  have alike := valid.alike
  have claims : (Action.call x.time (.claimPoolReturns x.claim)).claimsPool x.pool x.wallet' = true := by
    simpa [Action.claimsPool, Action.poolClaim] using valid.claims
  -- both runs from the purchase on
  simp only [first, second, g.run_append, g.history_append, g.attempts_append, outcomes_append,
    SettledPurchases, List.forall_mem_append, List.append_cancel_left_eq] at settled settled' alike ⊢
  rw [outcomes_other rfl, outcomes_other rfl] at alike
  injection alike with _ alike
  have here : (g.run x.before, x.call) ∈ Runs.trace step (g.run x.before) (x.call :: x.after) := by
    rw [Runs.trace_ok st]
    exact .head _
  have start := valid.twins (settled.2 _ here valid.buys)
  rw [Runs.trace_cons, List.forall_mem_append] at settled settled'
  obtain ⟨d, d', le, le', twins⟩ := start.run claims x.after valid.once alike settled.2.2 settled'.2.2
  refine ⟨d, d', ?_, ?_, twins⟩
  · rw [claimCount_append, claimCount_cons]
    omega
  · rw [claimCount_append, claimCount_cons, after']
    omega

/-- It makes no difference who buys, if the holder buys with settled positions only: what the holder claimed
and is owed in the first run, and what the two wallets claimed and are owed in the second, differ by at most
one unit for each of their claims, and two. -/
theorem split_purchase_neutral (g : Genesis K) (x : SplitPurchase K) (valid : x.Valid g)
    (settled : SettledPurchases x.pool x.wallet (g.history x.first))
    (settled' : SettledPurchases x.pool x.wallet (g.history x.second)) :
    |((g.run x.first).entitledAt x.pool (Client.position x.pool x.wallet) : ℤ)
        - ((g.run x.second).entitledAt x.pool (Client.position x.pool x.wallet)
          + (g.run x.second).entitledAt x.pool (Client.position x.pool x.wallet'))|
      ≤ claimCount x.pool x.wallet x.wallet' (g.history x.first)
        + claimCount x.pool x.wallet x.wallet' (g.history x.second) + 2 := by
  obtain ⟨d, d', le, le', -, -, f, f', own, own', splits⟩ := valid.run settled settled'
  obtain ⟨h, h₁, h₂, held, held₁, held₂, parts⟩ := splits.parts
  have entitled := State.entitledAt_eq own held
  have entitled₁ := State.entitledAt_eq own' held₁
  have entitled₂ := State.entitledAt_eq own' held₂
  rw [← splits.index] at entitled₁ entitled₂
  obtain ⟨upper, lower⟩ := parts.entitled (by decide)
  rw [← entitled, ← entitled₁, ← entitled₂] at upper lower
  rw [abs_le]
  omega

/-- Wallet 10 buys in pool 1 after `before`, or wallet 12 does in its place. -/
def demoSplit (before after : List (Action Addr)) (amount : U64) : SplitPurchase Addr where
  pool := Client.pool 1
  wallet := .wallet 10
  wallet' := .wallet 12
  before := Client.demoPool ++ before
  after := after
  time := 0
  purchase := Client.demo.poolPurchase 1 (.wallet 21) (.wallet 10)
  purchase' := Client.demo.poolPurchase 1 (.wallet 21) (.wallet 12)
  amount := amount
  claim := Client.poolClaim Client.demo.usdc (Client.pool 1) (Client.demo.usdcOf (Client.pool 1))
    (.wallet 12)

/-- The holder has claimed before the purchase, and claims again after a further distribution. -/
def demoSettledSplit : SplitPurchase Addr :=
  demoSplit
    [Client.demoBuy (.wallet 10) 60, Client.demoBuy (.wallet 11) 10, Client.demoDistribute 9,
      Client.demoClaim (.wallet 10)]
    [Client.demoDistribute 7, Client.demoClaim (.wallet 10), Client.demoBuy (.wallet 11) 5,
      Client.demoDistribute 3] 30

/-- One purchase of 30 is split from the holder's. -/
theorem split_purchase_neutral_demo :
    |((Genesis.blank.run demoSettledSplit.first).entitledAt (Client.pool 1)
          (Client.position (Client.pool 1) (.wallet 10)) : ℤ)
        - ((Genesis.blank.run demoSettledSplit.second).entitledAt (Client.pool 1)
            (Client.position (Client.pool 1) (.wallet 10))
          + (Genesis.blank.run demoSettledSplit.second).entitledAt (Client.pool 1)
            (Client.position (Client.pool 1) (.wallet 12)))| ≤ 2 + 3 + 2 := by
  have valid : demoSettledSplit.Valid Genesis.blank := by
    refine ⟨?_, ?_, ?_, ?_, ?_, ?_, ?_, ?_, ?_⟩ <;> decide +kernel
  have settled : SettledPurchases (Client.pool 1) (.wallet 10)
      (Genesis.blank.history demoSettledSplit.first) := by
    unfold SettledPurchases
    decide +kernel
  have settled' : SettledPurchases (Client.pool 1) (.wallet 10)
      (Genesis.blank.history demoSettledSplit.second) := by
    unfold SettledPurchases
    decide +kernel
  have claims : claimCount demoSettledSplit.pool demoSettledSplit.wallet demoSettledSplit.wallet'
      (Genesis.blank.history demoSettledSplit.first) = 2 := by decide +kernel
  have claims' : claimCount demoSettledSplit.pool demoSettledSplit.wallet demoSettledSplit.wallet'
      (Genesis.blank.history demoSettledSplit.second) = 3 := by decide +kernel
  have neutral := split_purchase_neutral Genesis.blank demoSettledSplit valid settled settled'
  rw [claims, claims'] at neutral
  exact neutral

/-- The holder has 1 token when 1 is distributed, and buys 99 more. -/
def demoStaleSplit : SplitPurchase Addr :=
  demoSplit [Client.demoBuy (.wallet 10) 1, Client.demoDistribute 1] [] 99

/-- No action of the run finds the vault of the pool at `p` short, and in the end it covers what the
positions are owed. -/
def VaultSuffices (g : Genesis Addr) (as : List (Action Addr)) (p : Addr) : Prop :=
  (∀ x ∈ g.attempts as, x.1.errorOf x.2 ≠ some (.exira .insufficientVaultBalance)) ∧
    ∀ pool ∈ (g.run as).pools.lookup p,
      (g.run as).sumPositions p (fun q => q.owed pool.cumulativeUsdcPerToken)
        ≤ (g.run as).bank.balance pool.usdcVault

/-- The holder's purchase inherits what was distributed before, and the fresh wallet's does not. -/
theorem split_purchase_not_neutral : ¬ ∀ (g : Genesis Addr) (x : SplitPurchase Addr), x.Valid g →
    VaultSuffices g x.first x.pool → VaultSuffices g x.second x.pool →
    |((g.run x.first).entitledAt x.pool (Client.position x.pool x.wallet) : ℤ)
        - ((g.run x.second).entitledAt x.pool (Client.position x.pool x.wallet)
          + (g.run x.second).entitledAt x.pool (Client.position x.pool x.wallet'))|
      ≤ claimCount x.pool x.wallet x.wallet' (g.history x.first)
        + claimCount x.pool x.wallet x.wallet' (g.history x.second) + 2 := by
  intro neutral
  have valid : demoStaleSplit.Valid Genesis.blank := by
    refine ⟨?_, ?_, ?_, ?_, ?_, ?_, ?_, ?_, ?_⟩ <;> decide +kernel
  have covered : VaultSuffices Genesis.blank demoStaleSplit.first (Client.pool 1) := by
    refine ⟨?_, ?_⟩ <;> decide +kernel
  have covered' : VaultSuffices Genesis.blank demoStaleSplit.second (Client.pool 1) := by
    refine ⟨?_, ?_⟩ <;> decide +kernel
  have le := neutral _ _ valid covered covered'
  revert le
  decide +kernel

end Exira
