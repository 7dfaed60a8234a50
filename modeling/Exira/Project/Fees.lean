import Exira.Project.Lifecycle
import Exira.Project.Withdrawals
import Exira.Standing

/-!
# Origination fees

The rate of a platform is bounded when it is initialized, so every fee fits, and a project that is sold out
can pay its own. A fund is activated at most once, and its fee is what that activation took; summed over all
projects, what the treasury got is what they have booked.
-/

namespace Exira

/-! ## Funds -/

/-- A measure of the fee of an activation; nothing for the other events. -/
def Event.activated {ι : Type} (ψ : ℕ → ℕ) : Event ι → ℕ
  | .activate fee => ψ fee
  | _ => 0

namespace Fund

variable {ι : Type} [DecidableEq ι] {P : ℕ} {f f' : Fund ι} {e : Event ι} {tr : List (Fund ι × Event ι)}

/-- A fund has no fee before its activation, and keeps it after that. -/
lemma Step.fee (sound : f.Sound) (st : f.Step P e f') : f'.fee = f.fee + e.activated id := by
  cases st with
  | activate layer status =>
    obtain ⟨-, -, zero, -⟩ := sound.funding layer status
    exact (Nat.zero_add _).symm.trans (congrArg (· + _) zero.symm)
  | _ => rfl

/-- One for a fund that is no longer for sale. -/
def opened (f : Fund ι) : ℕ :=
  if f.status = .funding then 0 else 1

/-- Only an activation ends the sale. -/
lemma Step.opened (st : f.Step P e f') : f'.opened = f.opened + e.activated 1 := by
  cases st with
  | activate _ status => simp [Fund.opened, Event.activated, status]
  | distribute repays =>
    cases kind : f.layer with
    | project => rcases repays kind with e | e <;> simp [Fund.opened, Event.activated, Layer.repaid, e]
    | pool => simp [Fund.opened, Event.activated, Layer.repaid]
  | close _ status => rcases status with e | e <;> simp [Fund.opened, Event.activated, e]
  | _ => rfl

end Fund

/-! ## Rates -/

/-- At this rate the fee of any target is computed without an overflow, loses nothing in the cast, and is the
share of the target, rounded down. -/
def FeeExact (feeBps : U16) : Prop :=
  ∀ target : U64, ∃ scaled fee, (target.setWidth 128).checkedMul (feeBps.setWidth 128) = some scaled ∧
    (scaled / 10000#128).toNat < 2 ^ 64 ∧ originationFee target feeBps = .ok fee ∧
    fee.toNat = target.toNat * feeBps.toNat / 10000 ∧ fee.toNat ≤ target.toNat

/-- A fee of at most 100 % is exact. -/
lemma feeExact_of_le {feeBps : U16} (le : feeBps.toNat ≤ MAX_FEE_BPS.toNat) : FeeExact feeBps := by
  intro target
  obtain ⟨fee, priced⟩ := originationFee_of target feeBps
  have value := originationFee_ok priced le
  have small := originationFee_le target.toNat le
  obtain ⟨scaled, product, cast⟩ := Except.bind_eq_ok.mp priced
  rw [Option.okOr_eq_ok] at product
  refine ⟨scaled, fee, product, ?_, priced, value, value.trans_le small⟩
  rw [BitVec.checkedMul_eq_some, BitVec.toNat_setWidth_widen _ (by decide),
    BitVec.toNat_setWidth_widen _ (by decide)] at product
  rw [BitVec.toNat_udiv, product]
  exact small.trans_lt target.isLt

/-! ## Activations -/

variable {K : Type} [DecidableEq K]

/-- The activation that an action is. -/
def Action.activation : Action K → Option (ActivateProject K)
  | .call _ (.activateProject a) => some a
  | _ => none

/-- The action activates the project at `p`. -/
def Action.activates (p : K) (x : Action K) : Bool :=
  x.activation.any fun a => a.project = p

variable [Addresses K] {s s' : State K} {x : Action K} {t : Target K}

omit [Addresses K] in
/-- An activation is an instruction of its project. -/
lemma activation_of_event {fee : ℕ} (e : s.event t x = some (.activate fee)) :
    ∃ a, x.activation = some a ∧ t = .project a.project ∧ fee = s.activationFee a := by
  cases State.event_raises e
  exact ⟨_, rfl, rfl, rfl⟩

omit [DecidableEq K] [Addresses K] in
/-- The action of an activation. -/
lemma Action.activation_eq {a : ActivateProject K} (act : x.activation = some a) :
    ∃ now, x = .call now (.activateProject a) := by
  unfold Action.activation at act
  split at act
  · cases act
    exact ⟨_, rfl⟩
  · cases act

omit [Addresses K] in
/-- Other actions, and activations of other projects, activate nothing. -/
lemma event_silent {ψ : ℕ → ℕ} (other : ∀ a, x.activation = some a → t ≠ .project a.project) :
    (s.event t x).elim 0 (Event.activated ψ) = 0 := by
  cases ev : s.event t x with
  | none => rfl
  | some e =>
    cases e with
    | activate fee =>
      obtain ⟨a, act, target, -⟩ := activation_of_event ev
      exact absurd target (other a act)
    | _ => rfl

/-- An activation is an event of its project. -/
lemma event_activation {a : ActivateProject K} {ψ : ℕ → ℕ} (act : x.activation = some a)
    (st : step s x = .ok s') :
    (s.event (.project a.project) x).elim 0 (Event.activated ψ) = ψ (s.activationFee a) := by
  obtain ⟨now, rfl⟩ := Action.activation_eq act
  obtain ⟨done, -⟩ := activateProject_ok.mp (step_call st).2
  rw [State.event, State.listing_project done.own, Option.bind_some, Action.effect, Effect.on, if_pos rfl]
  rfl

/-- What an event adds to a measure of its fund, an action adds to it. -/
lemma step_measure {μ : Fund K → ℕ} {φ : Event K → ℕ} (new : ∀ f : Fund K, f.Fresh → μ f = 0)
    (next : ∀ {f e f'}, f.Sound → f.Step PRECISION.toNat e f' → μ f' = μ f + φ e) (wf : s.Wf)
    (sound : ∀ f, s.fund t = some f → f.Sound) (st : step s x = .ok s') :
    (s'.fund t).elim 0 μ = (s.fund t).elim 0 μ + (s.event t x).elim 0 φ := by
  cases own : s.fund t with
  | none =>
    rw [State.event, View.fund_eq_none.mp own]
    cases own' : s'.fund t with
    | none => rfl
    | some f => exact new f (step_fund_new wf st own own')
  | some f =>
    have after := step_fund wf st own
    cases ev : s.event t x with
    | none =>
      rw [ev] at after
      rw [show s'.fund t = some f from after]
      rfl
    | some e =>
      rw [ev] at after
      obtain ⟨f', own', st'⟩ := after
      rw [own']
      exact next (sound f own) st'

/-! ## Fees that were moved -/

/-- What an activation moves to the account of the treasury. -/
def State.feeMoved (s : State K) (x : Action K) : ℤ :=
  x.activation.elim 0 fun a => (s.moved a.treasuryUsdcAta x).getD 0

/-- What the activations of a history moved to accounts of the treasury. -/
def movedFees (h : List (State K × Action K)) : ℤ :=
  (h.map fun y => y.1.feeMoved y.2).sum

/-- One more step adds the fee that it moves. -/
lemma movedFees_snoc (h : List (State K × Action K)) (y : State K × Action K) :
    movedFees (h ++ [y]) = movedFees h + y.1.feeMoved y.2 := by
  simp [movedFees]

/-- An activation moves the fee. -/
lemma feeMoved_eq (wf : s.Wf) (st : step s x = .ok s') :
    s.feeMoved x = x.activation.elim 0 fun a => (s.activationFee a : ℤ) := by
  cases act : x.activation with
  | none => rw [State.feeMoved, act]; rfl
  | some a =>
    obtain ⟨now, rfl⟩ := Action.activation_eq act
    have gain : s'.bank.balance a.treasuryUsdcAta
        = s.bank.balance a.treasuryUsdcAta + s.activationFee a := by
      have mv := (activateProject_acts wf (step_call st).2).move
      change s'.view.bank.balance _ = s.view.bank.balance _ + _
      generalize s'.view = v' at mv ⊢
      cases mv with
      | activate _ _ _ _ ne paid => exact paid.balance_dest ne.symm
    simp only [State.feeMoved, act, Option.elim, State.moved, st, Option.getD_some, gain]
    omega

/-- The fees that all projects have booked. -/
def State.feesCollected (s : State K) : ℕ :=
  s.projects.sum fun project => project.originationFeeCollected.toNat

/-- The fee that the project at `k` has booked. -/
def State.feeCollected (s : State K) (k : K) : ℕ :=
  (s.projects.lookup k).elim 0 fun project => project.originationFeeCollected.toNat

omit [Addresses K] in
/-- What a project booked is the fee of its fund. -/
lemma State.feeCollected_eq (s : State K) (k : K) :
    s.feeCollected k = (s.fund (.project k)).elim 0 Fund.fee := by
  unfold State.feeCollected
  cases own : s.projects.lookup k with
  | some project => rw [State.fund_project own]; rfl
  | none =>
    have free : s.view.listing (.project k) = none := by simp only [State.view, own, Option.map_none]
    rw [State.fund, View.fund_eq_none.mpr free]
    rfl

/-- An action adds to the booked fees what it moves. -/
lemma step_collected (wf : s.Wf) (sound : ∀ t f, s.fund t = some f → f.Sound) (st : step s x = .ok s') :
    (s'.feesCollected : ℤ) = s.feesCollected + s.feeMoved x := by
  have share : ∀ k, s'.feeCollected k
      = s.feeCollected k + (s.event (.project k) x).elim 0 (Event.activated id) := by
    intro k
    rw [State.feeCollected_eq, State.feeCollected_eq]
    exact step_measure (fun f new => new.fee) Fund.Step.fee wf (sound (.project k)) st
  rw [feeMoved_eq wf st]
  cases act : x.activation with
  | none =>
    -- no activation: every share of the sum stays
    have same : s'.feesCollected = s.feesCollected := by
      apply Finmap.sum_shares
      intro k
      have silent : ∀ a, x.activation = some a → Target.project k ≠ .project a.project := by
        rw [act]
        nofun
      have all := share k
      rwa [event_silent silent] at all
    rw [same]
    exact (Int.add_zero _).symm
  | some a =>
    -- an activation: one share of the sum grows
    have sum : s'.feesCollected + s.feeCollected a.project = s.feesCollected + s'.feeCollected a.project := by
      apply Finmap.sum_exchange
      intro k ne
      have silent : ∀ b, x.activation = some b → Target.project k ≠ .project b.project := by
        rintro b own ⟨⟩
        cases act.symm.trans own
        exact ne rfl
      have all := share k
      rwa [event_silent silent] at all
    have own := share a.project
    rw [event_activation act st] at own
    simp only [Option.elim, id] at own ⊢
    omega

/-! ## Fees that are booked -/

/-- The rate of the platform; zero before it is initialized. -/
def State.feeBps (s : State K) : ℕ :=
  (s.platforms.lookup Client.platform).elim 0 fun platform => platform.originationFeeBps.toNat

/-- The fee of a fund that was activated is the platform's share of the target. -/
def State.Billed (s : State K) : Prop :=
  ∀ k f, s.fund (.project k) = some f → f.status ≠ .funding →
    ∃ platform, s.platforms.lookup Client.platform = some platform ∧
      f.fee = f.target * platform.originationFeeBps.toNat / 10000

/-- The fee of an activation is the platform's share of the target. -/
lemma activationFee_of (wf : s.Wf) {a : ActivateProject K} (act : x.activation = some a)
    (st : step s x = .ok s') {f : Fund K} (own : s.fund (.project a.project) = some f) :
    ∃ platform, s.platforms.lookup Client.platform = some platform ∧
      s.activationFee a = f.target * platform.originationFeeBps.toNat / 10000 := by
  obtain ⟨now, rfl⟩ := Action.activation_eq act
  obtain ⟨done, -⟩ := activateProject_ok.mp (step_call st).2
  have found := done.own
  obtain ⟨place, known, -⟩ := wf.side.platform done.loaded
  cases (State.fund_project found).symm.trans own
  refine ⟨done.platform, known, ?_⟩
  rw [← place] at known
  simp only [State.activationFee, known, found]
  rfl

/-- Every action keeps the fees billed. -/
lemma State.Billed.step (billed : s.Billed) (wf : s.Wf) (sound : ∀ t f, s.fund t = some f → f.Sound)
    (st : step s x = .ok s') : s'.Billed := by
  intro k f' own' closed
  -- the platform stays, with its rate
  suffices before : ∃ platform, s.platforms.lookup Client.platform = some platform ∧
      f'.fee = f'.target * platform.originationFeeBps.toNat / 10000 by
    obtain ⟨platform, known, fee⟩ := before
    obtain ⟨platform', known', same⟩ := step_platforms wf st _ _ known
    exact ⟨platform', known', by rw [same.originationFeeBps, fee]⟩
  cases own : s.fund (.project k) with
  | none => exact absurd (step_fund_new wf st own own').status closed
  | some f =>
    have after := step_fund wf st own
    cases ev : s.event (.project k) x with
    | none =>
      rw [ev] at after
      have same : f = f' := Option.some.inj (after.symm.trans own')
      subst same
      exact billed k f own closed
    | some e =>
      rw [ev] at after
      obtain ⟨f₁, own₁, st'⟩ := after
      cases own₁.symm.trans own'
      have opened := st'.opened
      have fee := st'.fee (sound _ f own)
      rw [st'.target]
      cases e with
      | activate amount =>
        obtain ⟨a, act, target, rfl⟩ := activation_of_event ev
        cases target
        obtain ⟨platform, known, share⟩ := activationFee_of wf act st own
        cases st'
        exact ⟨platform, known, share⟩
      | _ =>
        have still : f.status ≠ .funding := by
          intro funding
          simp [Fund.opened, funding, closed, Event.activated] at opened
        obtain ⟨platform, known, before⟩ := billed k f own still
        exact ⟨platform, known, fee.trans before⟩

/-! ## Runs -/

namespace Genesis

variable (g : Genesis K) (as : List (Action K))

/-- What the activations moved is booked, and the fees are billed. -/
lemma fees : movedFees (g.history as) = (g.run as).feesCollected ∧ (g.run as).Billed := by
  refine g.reached_induction (I := fun h s => movedFees h = s.feesCollected ∧ s.Billed) ?_ ?_ as
  · refine ⟨rfl, ?_⟩
    intro k f own
    cases own
  · intro as x s' st ⟨moved, billed⟩
    have sound := fun t f => g.fund_sound (t := t) (f := f) as
    refine ⟨?_, billed.step (g.run_wf as) sound st⟩
    rw [movedFees_snoc, moved, step_collected (g.run_wf as) sound st]

/-- A project is activated once, when its sale ends. -/
lemma activations (p : K) : (g.history as).countP (fun y => y.2.activates p)
    = ((g.run as).fund (.project p)).elim 0 Fund.opened := by
  refine g.reached_induction (I := fun h s => h.countP (fun y => y.2.activates p)
    = (s.fund (.project p)).elim 0 Fund.opened) rfl ?_ as
  intro as x s' st count
  have new : ∀ f : Fund K, f.Fresh → f.opened = 0 := fun f new => if_pos new.status
  rw [step_measure new (fun _ => Fund.Step.opened) (g.run_wf as) (fun f => g.fund_sound as) st, ← count,
    List.countP_append, List.countP_singleton]
  congr 1
  cases act : x.activation with
  | none =>
    rw [event_silent (by rw [act]; nofun), Action.activates, act]
    rfl
  | some a =>
    by_cases e : a.project = p
    · subst e
      rw [event_activation act st, Action.activates, act]
      simp
    · rw [event_silent, Action.activates, act]
      · simp [e]
      · rintro b own ⟨⟩
        cases act.symm.trans own
        exact e rfl

/-- The booked fees are those of the projects whose sale has ended. -/
lemma feesCollected_eq : (g.run as).feesCollected = (g.run as).projects.sum fun project =>
    if project.status = .funding then 0
    else project.targetAmount.toNat * (g.run as).feeBps / 10000 := by
  apply Finmap.sum_congr
  intro k project own
  have fund := State.fund_project own
  split
  · next funding =>
    obtain ⟨-, -, zero, -⟩ := (g.fund_sound as fund).funding rfl funding
    exact zero
  · next closed =>
    obtain ⟨platform, known, fee⟩ := (g.fees as).2 k _ fund closed
    rw [State.feeBps, known]
    exact fee

/-- Activations pay to USDC accounts of the treasury. -/
lemma fee_account {y : State K × Action K} (mem : y ∈ g.history as) {a : ActivateProject K}
    (act : y.2.activation = some a) : ∃ platform, y.1.platforms.lookup Client.platform = some platform ∧
      y.1.bank.holder a.treasuryUsdcAta = some (platform.usdcMint, platform.treasury) := by
  obtain ⟨bs, -, -, from_run, s', st⟩ := Genesis.mem_history mem
  obtain ⟨now, e⟩ := Action.activation_eq act
  rw [e] at st
  obtain ⟨done, -⟩ := activateProject_ok.mp (step_call st).2
  obtain ⟨owner, mint⟩ := done.ata
  have wf : y.1.Wf := from_run ▸ g.run_wf bs
  refine ⟨done.platform, (wf.side.platform done.loaded).2.1, ?_⟩
  rw [Token.Bank.holder_eq done.found, mint, owner, done.treasury, done.usdc]

variable {g as}

/-- A project that is sold out can be activated, if nothing was paid out of its vault. -/
lemma activates {p : K} {project : Project K} (own : (g.run as).projects.lookup p = some project)
    (funding : project.status = .funding) (full : project.tokensSold = project.targetAmount)
    (undrawn : Undrawn p (g.history as)) :
    ∃ platform, (g.run as).platforms.lookup Client.platform = some platform ∧ ∀ dest now,
      (g.run as).bank.holder dest = some (platform.usdcMint, platform.treasury) →
      project.usdcVault ≠ dest → ∃ s', step (g.run as)
        (.call now (.activateProject (platform.client.activation p project dest))) = .ok s' := by
  have listed := State.listing_project own
  obtain ⟨platform, known, -⟩ := g.vault_usdc as listed
  have deployed := g.deployed as known
  have covered : project.targetAmount.toNat * platform.originationFeeBps.toNat / 10000
      ≤ (g.run as).bank.balance project.usdcVault := by
    have rate := ((g.run_wf as).side.platforms _ _ known).2
    have vault := (g.reaches as (State.fund_project own)).vault_funding rfl funding undrawn.payouts
    calc project.targetAmount.toNat * platform.originationFeeBps.toNat / 10000
      _ ≤ project.targetAmount.toNat := originationFee_le _ rate
      _ = project.tokensSold.toNat := by rw [full]
      _ ≤ (g.run as).bank.balance project.usdcVault := Nat.le.intro vault.symm
  refine ⟨platform, known, ?_⟩
  intro dest now funds apart
  exact activate_goes (g.run_wf as) (g.places as) deployed own (deployed.vault listed).2 funding full covered
    funds apart now

end Genesis

/-- Origination fees. A platform is initialized at a rate for which the fee of every target is exact. In every
reachable state: the platform has such a rate; a project that is sold out and was not paid out of can be
activated; no project was activated twice; activations paid to accounts of the treasury; and what they paid is
what all projects have booked, the shares of the targets of those whose sale has ended. -/
theorem origination_fees :
    (∀ (s s' : State K) now a orig perf hurdle,
      step s (.call now (.initializePlatform a orig perf hurdle)) = .ok s' →
        (s'.platforms.lookup a.platform).map Platform.originationFeeBps = some orig ∧ FeeExact orig) ∧
    ∀ (g : Genesis K) (as : List (Action K)),
      (∀ k platform, (g.run as).platforms.lookup k = some platform → FeeExact platform.originationFeeBps) ∧
      (∀ p project, (g.run as).projects.lookup p = some project → project.status = .funding →
        project.tokensSold = project.targetAmount → Undrawn p (g.history as) →
        ∃ platform, (g.run as).platforms.lookup Client.platform = some platform ∧ ∀ dest now,
          (g.run as).bank.holder dest = some (platform.usdcMint, platform.treasury) →
          project.usdcVault ≠ dest → ∃ s', step (g.run as)
            (.call now (.activateProject (platform.client.activation p project dest))) = .ok s') ∧
      (∀ p, (g.history as).countP (fun y => y.2.activates p) ≤ 1) ∧
      (∀ y ∈ g.history as, ∀ a, y.2.activation = some a →
        ∃ platform, y.1.platforms.lookup Client.platform = some platform ∧
          y.1.bank.holder a.treasuryUsdcAta = some (platform.usdcMint, platform.treasury)) ∧
      movedFees (g.history as) = (g.run as).feesCollected ∧
      (g.run as).feesCollected = (g.run as).projects.sum fun project =>
        if project.status = .funding then 0
        else project.targetAmount.toNat * (g.run as).feeBps / 10000 := by
  constructor
  · intro s s' now a orig perf hurdle st
    obtain ⟨done, rfl⟩ := initializePlatform_ok.mp (step_call st).2
    obtain ⟨rate, -, -⟩ := done.fees
    refine ⟨?_, feeExact_of_le (BitVec.le_def.mp rate)⟩
    rw [Finmap.lookup_insert]
    rfl
  · intro g as
    refine ⟨?_, ?_, ?_, fun y mem a act => g.fee_account as mem act, (g.fees as).1, g.feesCollected_eq as⟩
    · intro k platform known
      exact feeExact_of_le ((g.run_wf as).side.platforms k platform known).2
    · intro p project own funding full undrawn
      exact Genesis.activates own funding full undrawn
    · intro p
      rw [g.activations as p]
      cases (g.run as).fund (.project p) with
      | none => exact Nat.zero_le 1
      | some f =>
        simp only [Option.elim, Fund.opened]
        split <;> decide

/-- One activation moves one fee. -/
theorem origination_fees_demo : movedFees (Genesis.blank.history Client.demoActive) = 1 := by
  have booked : (Genesis.blank.run Client.demoActive).feesCollected = 1 := by decide +kernel
  obtain ⟨-, -, -, -, moved, -⟩ := origination_fees.2 Genesis.blank Client.demoActive
  rw [moved, booked]
  rfl

end Exira
