import Exira.Client
import Exira.Errors

/-!
# The books of the tokens

The tokens sold are counted three times: by the project or pool, by its positions, and by the supply of
its mint. The three agree, up to what holders burn on their own, so the arithmetic of purchases and exits
never fails.
-/

namespace Exira

open Dividend

variable {K : Type} [DecidableEq K]

/-- The tokens held of a project are those of its fund's holdings. -/
lemma State.sum_held_project (s : State K) (p : K) (project : Project K) :
    s.sumPositions p (fun q => q.tokensHeld.toNat)
      = (s.view.fundOf (.project p) project.listing).holdings.sum Holding.held :=
  State.sumPositions_eq fun _ => rfl

/-- The tokens held of a pool are those of its fund's holdings. -/
lemma State.sum_held_pool (s : State K) (p : K) (pool : Pool K) :
    s.sumPositions p (fun q => q.tokensHeld.toNat)
      = (s.view.fundOf (.pool p) pool.listing).holdings.sum Holding.held :=
  State.sumPositions_eq fun _ => rfl

/-- The two arithmetic errors. -/
def ExiraError.Math (e : ExiraError) : Prop :=
  e = .mathOverflow ∨ e = .mathUnderflow

variable [Addresses K] {s : State K}

/-! ## Arithmetic of purchases and exits -/

/-- The tokens that a purchase adds to are within what the target has sold. -/
lemma View.Wf.purchase_held_le (wf : s.view.Wf) {t : Target K} {l : Listing K} {k w : K}
    {q : InvestorPosition K} (sound : (s.view.fundOf t l).Sound)
    (h : ensurePosition s k t.key w = .ok q) (cumulative : U128) :
    (openPosition q w t.key cumulative).tokensHeld.toNat ≤ l.sold := by
  have same : (openPosition q w t.key cumulative).tokensHeld = q.tokensHeld := by
    unfold openPosition
    split <;> rfl
  rw [same]
  obtain ⟨key, ⟨-, rfl⟩ | own⟩ := ensurePosition_ok h
  · exact Nat.zero_le _
  · obtain ⟨target, -⟩ := (wf.placed own).at_address key
    have own' := View.lookup_holdings_of (v := s.view) own
    rw [target] at own'
    exact sound.ledger.le_sold own'

/-- A purchase within the room left overflows neither the position nor the target. -/
lemma purchase_fits {target sold held n remaining : U64} (room : sold.toNat ≤ target.toNat)
    (within : held.toNat ≤ sold.toNat)
    (left : (target.checkedSub sold).okOr (Error.exira .mathUnderflow) = .ok remaining)
    (le : n ≤ remaining) : held.checkedAdd n ≠ none ∧ sold.checkedAdd n ≠ none := by
  rw [Option.okOr_eq_ok, BitVec.checkedSub_eq_some] at left
  have le := BitVec.le_def.mp le
  have bound := target.isLt
  refine ⟨?_, ?_⟩
  · rw [Ne, BitVec.checkedAdd_eq_none]
    omega
  · rw [Ne, BitVec.checkedAdd_eq_none]
    omega

/-- A difference of words that does not fall below zero. -/
lemma checkedSub_ne_none {a b : U64} (le : b.toNat ≤ a.toNat) : a.checkedSub b ≠ none := by
  rw [Ne, BitVec.checkedSub_eq_none]
  exact Nat.not_lt.mpr le

/-- A purchase of project tokens makes no error of arithmetic. -/
lemma buyProjectTokens_avoids (wf : s.Wf)
    (sound : ∀ t l, s.view.listing t = some l → (s.view.fundOf t l).Sound)
    (a : BuyProjectTokens K) (n : U64) :
    (buyProjectTokens s a n).Avoids (Error.In ExiraError.Math) := by
  unfold buyProjectTokens
  refine .bind avoids_load fun project own => ?_
  refine .bind avoids_load fun _ _ => ?_
  refine .bind avoids_load fun _ _ => ?_
  refine .bind avoids_load fun _ _ => ?_
  refine .bind avoids_load fun _ _ => ?_
  refine .bind avoids_ensureAssociatedToken fun _ _ => ?_
  refine .bind avoids_ensurePosition fun q ensured => ?_
  refine .bind avoids_noDuplicates fun _ _ => ?_
  refine .bind avoids_checkSeeds fun _ _ => ?_
  refine .bind (avoids_require nofun) fun _ _ => ?_
  refine .bind (avoids_require nofun) fun _ _ => ?_
  refine .bind avoids_checkToken fun _ _ => ?_
  refine .bind (avoids_require nofun) fun _ _ => ?_
  refine .bind (avoids_require nofun) fun _ _ => ?_
  have sound := sound _ _ (State.listing_project (load_eq_ok.mp own))
  have held := wf.view.purchase_held_le sound ensured project.cumulativeUsdcPerToken
  refine .bind (.okOr_some (checkedSub_ne_none sound.room)) fun remaining left => ?_
  refine .bind (avoids_require nofun) fun _ le => ?_
  obtain ⟨more, total⟩ := purchase_fits sound.room held left (require_eq_ok.mp le)
  refine .bind avoids_cpi fun _ _ => ?_
  refine .bind avoids_signWith fun _ _ => ?_
  refine .bind avoids_cpi fun _ _ => ?_
  refine .bind (.okOr_some more) fun _ _ => ?_
  exact .bind (.okOr_some total) fun _ _ => .ok _

/-- A purchase of pool tokens makes no error of arithmetic. -/
lemma buyPoolTokens_avoids (wf : s.Wf)
    (sound : ∀ t l, s.view.listing t = some l → (s.view.fundOf t l).Sound)
    (a : BuyPoolTokens K) (n : U64) :
    (buyPoolTokens s a n).Avoids (Error.In ExiraError.Math) := by
  unfold buyPoolTokens
  refine .bind avoids_load fun pool own => ?_
  refine .bind avoids_load fun _ _ => ?_
  refine .bind avoids_load fun _ _ => ?_
  refine .bind avoids_load fun _ _ => ?_
  refine .bind avoids_load fun _ _ => ?_
  refine .bind avoids_ensureAssociatedToken fun _ _ => ?_
  refine .bind avoids_ensurePosition fun q ensured => ?_
  refine .bind avoids_noDuplicates fun _ _ => ?_
  refine .bind avoids_checkSeeds fun _ _ => ?_
  refine .bind (avoids_require nofun) fun _ _ => ?_
  refine .bind (avoids_require nofun) fun _ _ => ?_
  refine .bind avoids_checkToken fun _ _ => ?_
  refine .bind (avoids_require nofun) fun _ _ => ?_
  refine .bind (avoids_require nofun) fun _ _ => ?_
  have sound := sound _ _ (State.listing_pool (load_eq_ok.mp own))
  have held := wf.view.purchase_held_le sound ensured pool.cumulativeUsdcPerToken
  refine .bind (.okOr_some (checkedSub_ne_none sound.room)) fun remaining left => ?_
  refine .bind (avoids_require nofun) fun _ le => ?_
  obtain ⟨more, total⟩ := purchase_fits sound.room held left (require_eq_ok.mp le)
  refine .bind avoids_cpi fun _ _ => ?_
  refine .bind avoids_signWith fun _ _ => ?_
  refine .bind avoids_cpi fun _ _ => ?_
  refine .bind (.okOr_some more) fun _ _ => ?_
  exact .bind (.okOr_some total) fun _ _ => .ok _

/-- A withdrawal makes no error of arithmetic. -/
lemma withdrawInvestment_avoids (wf : s.Wf)
    (sound : ∀ t l, s.view.listing t = some l → (s.view.fundOf t l).Sound)
    (a : WithdrawInvestment K) :
    (withdrawInvestment s a).Avoids (Error.In ExiraError.Math) := by
  unfold withdrawInvestment
  refine .bind avoids_load fun project own => ?_
  refine .bind avoids_load fun _ _ => ?_
  refine .bind avoids_load fun _ _ => ?_
  refine .bind avoids_load fun q held => ?_
  refine .bind avoids_load fun _ _ => ?_
  refine .bind avoids_load fun _ _ => ?_
  refine .bind avoids_load fun _ _ => ?_
  refine .bind avoids_noDuplicates fun _ _ => ?_
  refine .bind avoids_checkSeeds fun _ _ => ?_
  refine .bind (avoids_require nofun) fun _ _ => ?_
  refine .bind (avoids_require nofun) fun _ _ => ?_
  refine .bind avoids_checkSeeds fun _ seeds => ?_
  refine .bind (avoids_require nofun) fun _ _ => ?_
  refine .bind avoids_checkToken fun _ _ => ?_
  refine .bind avoids_checkToken fun _ _ => ?_
  refine .bind (avoids_require nofun) fun _ _ => ?_
  refine .bind (avoids_require nofun) fun _ _ => ?_
  refine .bind avoids_cpi fun _ _ => ?_
  refine .bind avoids_signWith fun _ _ => ?_
  refine .bind avoids_cpi fun _ _ => ?_
  have sound := sound _ _ (State.listing_project (load_eq_ok.mp own))
  have placed := wf.view.checkedPosition (load_eq_ok.mp held) (constraint_eq_ok.mp seeds)
  have own' := View.lookup_holdings_of (v := s.view) (load_eq_ok.mp held)
  rw [placed.target] at own'
  have le : q.tokensHeld.toNat ≤ project.tokensSold.toNat := sound.ledger.le_sold own'
  exact .bind (.okOr_some (checkedSub_ne_none le)) fun _ _ => .ok _

/-! ## The books -/

/-- In every reachable state the tokens sold of a project or a pool are the tokens of its positions, and
the supply of its mint with what holders burned outside, and within the target; no purchase and no exit
ends with an arithmetic error. -/
theorem token_books (g : Genesis K) (as : List (Action K)) :
    (∀ p project, (g.run as).projects.lookup p = some project →
      project.tokensSold.toNat = (g.run as).sumPositions p (fun q => q.tokensHeld.toNat) ∧
        project.tokensSold.toNat = (g.run as).bank.supply project.tokenMint
          + tally Event.burns (.project p) (g.history as) ∧
        project.tokensSold ≤ project.targetAmount) ∧
      (∀ p pool, (g.run as).pools.lookup p = some pool →
        pool.tokensSold.toNat = (g.run as).sumPositions p (fun q => q.tokensHeld.toNat) ∧
          pool.tokensSold.toNat = (g.run as).bank.supply pool.poolTokenMint
            + tally Event.burns (.pool p) (g.history as) ∧
          pool.tokensSold ≤ pool.targetAmount) ∧
      (∀ a n e, e.Math → buyProjectTokens (g.run as) a n ≠ .error (.exira e)) ∧
      (∀ a n e, e.Math → buyPoolTokens (g.run as) a n ≠ .error (.exira e)) ∧
      ∀ a e, e.Math → withdrawInvestment (g.run as) a ≠ .error (.exira e) := by
  have wf := g.run_wf as
  have sound : ∀ t l, (g.run as).view.listing t = some l → ((g.run as).view.fundOf t l).Sound :=
    fun t l own => g.fund_sound as (View.fund_eq own)
  refine ⟨?_, ?_, ?_, ?_, ?_⟩
  · intro p project own
    have run := g.reaches as (State.fund_project own)
    rw [State.sum_held_project _ _ project, run.sound.ledger.supply]
    exact ⟨rfl, run.supply.symm, run.sound.room⟩
  · intro p pool own
    have run := g.reaches as (State.fund_pool own)
    rw [State.sum_held_pool _ _ pool, run.sound.ledger.supply]
    exact ⟨rfl, run.supply.symm, run.sound.room⟩
  · intro a n e math
    exact avoids_ne (buyProjectTokens_avoids wf sound a n) math
  · intro a n e math
    exact avoids_ne (buyPoolTokens_avoids wf sound a n) math
  · intro a e math
    exact avoids_ne (withdrawInvestment_avoids wf sound a) math

/-- Holders of project 1 and of pool 1 burn some of their tokens. -/
def demoBurnt : List (Action Addr) :=
  Client.demoActive ++ [
    .call 0 (Client.demo.createPool 1 1000 (.wallet 21)),
    Client.demoBuy (.wallet 12) 20,
    .outside (.burn (associatedToken (.wallet 10) (.wallet 20)) (.wallet 20) (.wallet 10) 5),
    .outside (.burn (associatedToken (.wallet 12) (.wallet 21)) (.wallet 21) (.wallet 12) 3)]

/-- Burnt tokens stay in the books. -/
theorem token_books_demo :
    (∃ project : Project Addr,
      (Genesis.blank.run demoBurnt).projects.lookup (Client.project 1) = some project ∧
        project.tokensSold.toNat
          = (Genesis.blank.run demoBurnt).bank.supply project.tokenMint + 5) ∧
      (∃ pool : Pool Addr,
        (Genesis.blank.run demoBurnt).pools.lookup (Client.pool 1) = some pool ∧
          pool.tokensSold.toNat
            = (Genesis.blank.run demoBurnt).bank.supply pool.poolTokenMint + 3) ∧
      ∀ a n, buyPoolTokens (Genesis.blank.run demoBurnt) a n ≠ .error (.exira .mathOverflow) := by
  have project : ((Genesis.blank.run demoBurnt).projects.lookup (Client.project 1)).isSome := by
    decide +kernel
  have pool : ((Genesis.blank.run demoBurnt).pools.lookup (Client.pool 1)).isSome := by
    decide +kernel
  have in_project : tally Event.burns (.project (Client.project 1))
      (Genesis.blank.history demoBurnt) = 5 := by decide +kernel
  have in_pool : tally Event.burns (.pool (Client.pool 1))
      (Genesis.blank.history demoBurnt) = 3 := by decide +kernel
  obtain ⟨projects, pools, -, buys, -⟩ := token_books Genesis.blank demoBurnt
  obtain ⟨project, own⟩ := Option.isSome_iff_exists.mp project
  obtain ⟨pool, own'⟩ := Option.isSome_iff_exists.mp pool
  refine ⟨⟨project, own, ?_⟩, ⟨pool, own', ?_⟩, fun a n => buys a n _ (.inl rfl)⟩
  · have books := (projects _ project own).2.1
    rwa [in_project] at books
  · have books := (pools _ pool own').2.1
    rwa [in_pool] at books

end Exira
