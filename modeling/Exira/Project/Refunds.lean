import Exira.Access.Authority
import Exira.Progress

/-!
# Refunds while a project is funding

Until a project is activated its vault holds what it sold, and a position holds what its owner bought since
the last withdrawal. So every position can be withdrawn, whatever other investors do, and one that is bought
again after a withdrawal starts over.
-/

namespace Exira

open Dividend

/-! ## Funds -/

/-- What `i` bought since the last exit, after an event. -/
def Event.since {ι : Type} [DecidableEq ι] (i : ι) (n : ℕ) : Event ι → ℕ
  | .buy j m => if j = i then n + m else n
  | .exit j => if j = i then 0 else n
  | _ => n

namespace Fund

variable {ι : Type} [DecidableEq ι] {P : ℕ} {f f' : Fund ι} {e : Event ι} {i : ι}
  {tr : List (Fund ι × Event ι)}

/-- What `i` bought since the last exit. -/
def boughtSince (i : ι) (tr : List (Fund ι × Event ι)) : ℕ :=
  tr.foldl (fun n x => x.2.since i n) 0

/-- One more step. -/
lemma boughtSince_snoc (i : ι) (tr : List (Fund ι × Event ι)) (x : Fund ι × Event ι) :
    boughtSince i (tr ++ [x]) = x.2.since i (boughtSince i tr) :=
  List.foldl_append ..

/-- An event changes what a holder has by what the holder buys or withdraws. -/
lemma Step.held_since (st : f.Step P e f') (i : ι) :
    (f'.holdings.lookup i).elim 0 Holding.held
      = e.since i ((f.holdings.lookup i).elim 0 Holding.held) := by
  cases own : f.holdings.lookup i with
  | some h =>
    rw [st.lookup own]
    simp only [Option.elim]
    cases e with
    | buy j n =>
      simp only [Event.act, Event.since]
      split <;> rfl
    | exit j =>
      simp only [Event.act, Event.since]
      split <;> rfl
    | claim j =>
      simp only [Event.act, Event.since]
      split <;> rfl
    | _ => rfl
  | none =>
    cases own' : f'.holdings.lookup i with
    | some h =>
      -- the holding was opened by its first purchase
      obtain ⟨n, rfl, rfl⟩ := st.lookup_new own own'
      simp [Event.since]
    | none =>
      cases st with
      | @buy j n =>
        by_cases e : i = j
        · subst e
          cases (Finmap.lookup_insert _).symm.trans own'
        · exact (if_neg (Ne.symm e)).symm
      | @exit j h _ _ held =>
        refine (if_neg ?_).symm
        rintro rfl
        rw [own] at held
        cases held
      | _ => rfl

/-- A holder has what was bought since the last exit. -/
theorem Reaches.held_since (run : Reaches P tr f) (i : ι) :
    (f.holdings.lookup i).elim 0 Holding.held = boughtSince i tr := by
  induction run with
  | fresh new =>
    rw [new.holdings, Finmap.lookup_empty]
    rfl
  | step past st ih =>
    rw [boughtSince_snoc, ← ih]
    exact st.held_since i

/-- The vault of a project that is funding holds what was sold and what was deposited. -/
lemma Reaches.vault_funding (run : Reaches P tr f) (project : f.layer = .project)
    (funding : f.status = .funding) (kept : total (fun _ => Event.payouts) tr = 0) :
    f.vault = f.sold + total (fun _ => Event.deposits) tr := by
  obtain ⟨distributed, -, fee, settled⟩ := run.sound.funding project funding
  have paid : f.paid = 0 := Finmap.sum_eq_zero fun i h own => (settled i h own).2
  have books := run.vault
  rw [distributed, fee, paid, kept] at books
  exact books

end Fund

/-! ## What a wallet bought -/

variable {K : Type} [DecidableEq K]

/-- What the wallet `w` bought in the project at `p` since its last withdrawal, after an action. -/
def Action.since (p w : K) (n : ℕ) : Action K → ℕ
  | .call _ (.buyProjectTokens a m) => if a.project = p ∧ a.investor = w then n + m.toNat else n
  | .call _ (.withdrawInvestment a) => if a.project = p ∧ a.investor = w then 0 else n
  | _ => n

/-- What the wallet `w` bought in the project at `p` since its last withdrawal. -/
def boughtSince (p w : K) (h : List (State K × Action K)) : ℕ :=
  h.foldl (fun n x => x.2.since p w n) 0

/-- One more step. -/
lemma boughtSince_snoc (p w : K) (h : List (State K × Action K)) (x : State K × Action K) :
    boughtSince p w (h ++ [x]) = x.2.since p w (boughtSince p w h) :=
  List.foldl_append ..

variable [Addresses K] {s s' : State K} {p w : K}

/-- The event of an action for a project counts what the action counts. -/
lemma since_of_event (wf : s.Wf) {x : Action K} (st : step s x = .ok s') {l : Listing K}
    (own : s.view.listing (.project p) = some l) (n : ℕ) :
    (s.event (.project p) x).elim n (Event.since (Client.position p w) n) = x.since p w n := by
  have event : s.event (.project p) x = (x.effect s).on (.project p) l := by
    rw [State.event, own, Option.bind_some]
  rw [event]
  -- a position is its own wallet's
  have same : ∀ {a b : K}, Client.position p a = Client.position p b ↔ a = b := by
    intro a b
    exact ⟨fun e => (position_inj e).2, fun e => e ▸ rfl⟩
  cases x with
  | outside o =>
    cases o with
    | transfer =>
      simp only [Action.effect, Effect.on]
      split <;> rfl
    | mintTo =>
      simp only [Action.effect, Effect.on]
      split <;> rfl
    | burn =>
      simp only [Action.effect, Effect.on]
      split <;> rfl
    | _ => rfl
  | call now i =>
    have h := (step_call st).2
    cases i with
    | buyProjectTokens a m =>
      obtain ⟨done, -⟩ := buyProjectTokens_ok.mp h
      have done.made : a.position = Client.position a.project a.investor := (ensurePosition_ok done.made).1
      simp only [Action.effect, Effect.on, Target.project.injEq, Action.since]
      by_cases target : a.project = p
      · subst target
        simp only [done.made, if_true, Option.elim, Event.since, same, true_and]
      · simp only [target, if_false, Option.elim, false_and]
    | withdrawInvestment a =>
      obtain ⟨done, -⟩ := withdrawInvestment_ok.mp h
      have place := wf.position_place done.held done.placed
      simp only [Action.effect, Effect.on, Target.project.injEq, Action.since]
      by_cases target : a.project = p
      · subst target
        simp only [place, if_true, Option.elim, Event.since, same, true_and]
      · simp only [target, if_false, Option.elim, false_and]
    | _ =>
      simp only [Action.effect, Effect.on, Action.since, reduceCtorEq, if_false]
      repeat' split
      all_goals rfl

/-- An action before the project exists is none of its purchases and withdrawals. -/
lemma since_of_none {x : Action K} (st : step s x = .ok s') (free : s.projects.lookup p = none) (n : ℕ) :
    x.since p w n = n := by
  cases x with
  | outside => rfl
  | call now i =>
    have h := (step_call st).2
    cases i with
    | buyProjectTokens a m =>
      obtain ⟨done, -⟩ := buyProjectTokens_ok.mp h
      have own := done.own
      apply if_neg
      rintro ⟨rfl, -⟩
      rw [free] at own
      cases own
    | withdrawInvestment a =>
      obtain ⟨done, -⟩ := withdrawInvestment_ok.mp h
      have own := done.own
      apply if_neg
      rintro ⟨rfl, -⟩
      rw [free] at own
      cases own
    | _ => rfl

/-- The purchases and withdrawals of a wallet are those of its position in the fund. -/
lemma Genesis.boughtSince_eq (g : Genesis K) (as : List (Action K)) (p w : K) :
    boughtSince p w (g.history as)
      = Fund.boughtSince (Client.position p w) (fundHistory (.project p) (g.history as)) := by
  refine g.run_induction (I := fun h _ => boughtSince p w h
    = Fund.boughtSince (Client.position p w) (fundHistory (.project p) h)) rfl ?_ as
  intro h s x s' wf past st
  rw [fundHistory_snoc, boughtSince_snoc, past]
  cases own : s.projects.lookup p with
  | none =>
    have free : s.fund (.project p) = none := by
      rw [State.fund, View.fund_eq_none]
      exact Option.map_eq_none_iff.mpr own
    rw [free, Option.bind_none, Option.toList_none, List.append_nil]
    exact since_of_none st own _
  | some project =>
    rw [State.fund_project own, Option.bind_some]
    have since := since_of_event (w := w) wf st (State.listing_project own)
      (Fund.boughtSince (Client.position p w) (fundHistory (.project p) h))
    cases ev : s.event (.project p) x with
    | none =>
      rw [ev] at since
      rw [Option.map_none, Option.toList_none, List.append_nil]
      exact since.symm
    | some e =>
      rw [ev] at since
      rw [Option.map_some, Option.toList_some, Fund.boughtSince_snoc]
      exact since.symm

/-- The tokens of a position are what its owner bought since the last withdrawal. -/
theorem Genesis.tokensHeld_eq (g : Genesis K) (as : List (Action K)) {project : Project K}
    (own : (g.run as).projects.lookup p = some project) {q : InvestorPosition K}
    (held : (g.run as).positions.lookup (Client.position p w) = some q) :
    q.tokensHeld.toNat = boughtSince p w (g.history as) := by
  have since := (g.reaches as (State.fund_project own)).held_since (Client.position p w)
  have entry : ((g.run as).view.fundOf (.project p) project.listing).holdings.lookup
      (Client.position p w) = some q.holding := (g.run_wf as).holding_of held
  rw [entry, ← g.boughtSince_eq as p w] at since
  exact since

/-- In a project that is funding a position is what its owner bought since the last withdrawal, and nothing
else: as if the owner had made only these purchases. -/
theorem Genesis.funding_position (g : Genesis K) (as : List (Action K)) {project : Project K}
    (own : (g.run as).projects.lookup p = some project) (funding : project.status = .funding)
    {q : InvestorPosition K} (held : (g.run as).positions.lookup (Client.position p w) = some q) :
    q.holding = ⟨boughtSince p w (g.history as), 0, 0⟩ := by
  have sound := g.fund_sound as (State.fund_project own)
  obtain ⟨-, -, -, settled⟩ := sound.funding rfl funding
  obtain ⟨last, claimed⟩ := settled _ _ ((g.run_wf as).holding_of held)
  rw [← g.tokensHeld_eq as own held]
  exact congrArg₂ (Holding.mk q.tokensHeld.toNat) last claimed

/-! ## Receivers -/

/-- The owner of every position has an account for what the vault of its target holds. -/
def View.Received (v : View K) : Prop :=
  ∀ k q, v.positions.lookup k = some q → ∃ t l usdc x dest, t.key = q.target ∧
    v.listing t = some l ∧ v.bank.holder l.vault = some (usdc, x) ∧
    v.bank.holder dest = some (usdc, q.owner)

/-- A new position's owner has paid from such an account, and the others keep theirs. -/
lemma Move.received {v v' : View K} {e : Effect K} (wf : v.Wf) (all : v.Received) (mv : Move v e v') :
    v'.Received := by
  intro k q own
  -- accounts and listings stay, so what a position paid to is still there
  have old : ∀ q₀, v.positions.lookup k = some q₀ → q₀.target = q.target → q₀.owner = q.owner →
      ∃ t l usdc x dest, t.key = q.target ∧ v'.listing t = some l ∧
        v'.bank.holder l.vault = some (usdc, x) ∧ v'.bank.holder dest = some (usdc, q.owner) := by
    intro q₀ own₀ target owner
    obtain ⟨t, l, usdc, x, dest, key, listed, vault, held⟩ := all k q₀ own₀
    obtain ⟨l', listed', kept⟩ := mv.kept listed
    have ev := mv.evolves
    exact ⟨t, l', usdc, x, dest, key.trans target, listed', kept.vault ▸ ev.holder vault,
      owner ▸ ev.holder held⟩
  cases mv with
  | @buy t l k' w q' source dest b₀ b₁ b₂ n own₀ _ _ _ _ paid minted _ placed =>
    rw [Finmap.lookup_insert_ite] at own
    split at own
    · cases own
      obtain ⟨m, o, funds, vault⟩ := Token.Bank.transfer_holders paid
      have ev := (Evolves.transfer paid).trans (.mintTo minted)
      exact ⟨t, _, m, o, source, placed.target.symm, Function.update_self .., ev.holder vault,
        placed.owner ▸ ev.holder funds⟩
    · exact old q own rfl rfl
  | @exit t l k' w q' source dest m b₁ b₂ _ _ _ held =>
    rw [Finmap.lookup_insert_ite] at own
    split at own
    · next e =>
      cases own
      exact old q' (e ▸ held) rfl rfl
    · exact old q own rfl rfl
  | claim _ held _ _ _ _ _ placed =>
    rw [Finmap.lookup_insert_ite] at own
    split at own
    · next e =>
      cases own
      obtain ⟨target, owner⟩ := (wf.placed held).inj placed
      exact old _ (e ▸ held) (target.trans placed.target.symm) (owner.trans placed.owner.symm)
    · exact old q own rfl rfl
  | quiet => exact old q own rfl rfl
  | found => exact old q own rfl rfl
  | create => exact old q own rfl rfl
  | transfer => exact old q own rfl rfl
  | mintTo => exact old q own rfl rfl
  | burn => exact old q own rfl rfl
  | distribute => exact old q own rfl rfl
  | activate => exact old q own rfl rfl
  | close => exact old q own rfl rfl
  | payout => exact old q own rfl rfl

/-- The vaults of a run have received what was paid for tokens. -/
lemma Genesis.received (g : Genesis K) (as : List (Action K)) : (g.run as).view.Received := by
  refine g.run_induction (I := fun _ s => s.view.Received) ?_ ?_ as
  · intro k q own
    cases own
  · intro _ s x s' wf received st
    exact (step_acts wf st).move.received wf.view received

/-- The owner of a position of a project has an account for the refund. -/
lemma Genesis.refund_account (g : Genesis K) (as : List (Action K)) {project : Project K} {usdc k : K}
    (own : (g.run as).projects.lookup p = some project)
    (vault : (g.run as).bank.holder project.usdcVault = some (usdc, p)) {q : InvestorPosition K}
    (held : (g.run as).positions.lookup k = some q) (target : q.target = p) :
    ∃ dest, (g.run as).bank.holder dest = some (usdc, q.owner) := by
  obtain ⟨t, l, usdc', x, dest, key, own', vault', received⟩ := g.received as k q held
  have wf := (g.run_wf as).view
  have listed := State.listing_project own
  cases (wf.listed own').target_inj (wf.listed listed) (key.trans target)
  cases listed.symm.trans own'
  cases vault.symm.trans vault'
  exact ⟨dest, received⟩

end Exira
