import Exira.Project.Arithmetic
import Exira.Project.Completion
import Exira.Project.Confluence
import Exira.Project.Fees
import Exira.Records.Provenance

/-!
# Winding up

No state of a project is a dead end. Whatever happened in a run, and even if the vault was emptied, one wallet
that has the whole target and all that is owed in USDC, and could hold a position, is enough to bring the project
to its end, as long as the treasury has a USDC account other than the vault: the project is sold out, activated,
everybody is paid what they are owed, and it is closed.
-/

namespace Exira

open Dividend Runs

variable {K : Type} [DecidableEq K] [Addresses K] {g : Genesis K} {as : List (Action K)}
  {p w src dest : K} {project : Project K} {platform : Platform K} {Q R : State K → Prop}

/-- Stages of a run, one after the other. -/
lemma Genesis.can_bind (can : Can step (g.run as) Q)
    (next : ∀ bs, Q (g.run (as ++ bs)) → Can step (g.run (as ++ bs)) R) : Can step (g.run as) R :=
  can.bind fun bs q => by
    have same := g.run_append as bs
    exact same ▸ next bs (same ▸ q)

/-- What a run can reach, it can reach from each of its states. -/
lemma Genesis.can_run (bs : List (Action K)) (q : Q (g.run (as ++ bs))) : Can step (g.run as) Q :=
  ⟨bs, (g.run_append as bs) ▸ q⟩

/-! ## One stage at a time -/

/-- A wallet can send USDC to a vault, which leaves all but the balances. -/
lemma Genesis.can_deposit {usdc vault o : K} {n : ℕ} (signs : canSign w = true)
    (funds : (g.run as).bank.holder src = some (usdc, w)) (receiver : (g.run as).bank.holder vault = some (usdc, o))
    (ne : src ≠ vault) (enough : n ≤ (g.run as).bank.balance src) :
    Can step (g.run as) fun s => ∃ b, s = { g.run as with bank := b } ∧
      b.balance vault = (g.run as).bank.balance vault + n := by
  have sound : (g.run as).bank.Sound := (g.run_wf as).view.sound
  have small : n < 2 ^ 64 := (enough.trans (sound.balance_le funds)).trans_lt (Token.Bank.supply_lt _ _)
  have value : (BitVec.ofNat 64 n).toNat = n := (BitVec.toNat_ofNat n 64).trans (Nat.mod_eq_of_lt small)
  obtain ⟨b, paid⟩ := Token.Bank.transfer_ok sound funds receiver (value.trans_le enough)
  have deposit : step (g.run as) (.outside (.transfer src vault w (.ofNat 64 n)))
      = .ok { g.run as with bank := b } := by
    simp only [step, handleOutside, Except.bind_eq_ok, constraint_eq_ok, cpi_eq_ok, exists_and_left, exists_const]
    exact ⟨b, ⟨signs, paid⟩, rfl⟩
  refine .next deposit ⟨b, rfl, ?_⟩
  rw [Token.Bank.transfer_balance_dest paid ne.symm, value]

omit [Addresses K] in
/-- The price of tokens goes to the vault. -/
lemma paid_in_kept {b₀ b₁ b₂ : Token.Bank K} {vault mint ata k : K} {n : U64}
    (paid : b₀.transfer src vault w n = .ok b₁) (made : b₁.mintTo mint ata k n = .ok b₂) (ne : src ≠ vault) :
    b₀.balance vault + b₀.balance src ≤ b₂.balance vault + b₂.balance src := by
  have sent := Token.Bank.transfer_balance_source paid ne
  have arrived := Token.Bank.transfer_balance_dest paid ne.symm
  have kept := Token.Bank.mintTo_balance made vault
  have left := Token.Bank.mintTo_balance made src
  omega

/-- A wallet can buy what is left of a project for sale. -/
lemma Genesis.can_sell_out (own : (g.run as).projects.lookup p = some project)
    (known : (g.run as).platforms.lookup Client.platform = some platform) (signs : canSign w = true)
    (free : (g.run as).Free p w) (funds : (g.run as).bank.holder src = some (platform.usdcMint, w))
    (enough : project.targetAmount.toNat ≤ (g.run as).bank.balance src) (funding : project.status = .funding) :
    Can step (g.run as) fun s => ∃ project', s.projects.lookup p = some project' ∧ project'.status = .funding ∧
      project'.tokensSold = project'.targetAmount ∧ project'.usdcVault = project.usdcVault ∧
      s.platforms.lookup Client.platform = some platform ∧
      project'.targetAmount.toNat ≤ s.bank.balance project.usdcVault + s.bank.balance src := by
  have listed := State.listing_project own
  have sound : ((g.run as).view.fundOf (.project p) project.listing).Sound :=
    g.fund_sound as (State.fund_project own)
  have room : project.tokensSold.toNat ≤ project.targetAmount.toNat := sound.room
  rcases room.eq_or_lt with full | left
  · exact .here ⟨project, own, funding, BitVec.eq_of_toNat_eq full, rfl, known, Nat.le_add_left_of_le enough⟩
  · have wf := g.run_wf as
    have deployed := g.deployed as known
    have minted := Nat.le.intro (g.reaches as (State.fund_project own)).supply
    have value : (project.targetAmount - project.tokensSold).toNat
        = project.targetAmount.toNat - project.tokensSold.toNat :=
      BitVec.toNat_sub_of_le (BitVec.le_def.mpr room)
    obtain ⟨s', st⟩ := buyProject_goes wf (g.places as) own sound minted (deployed.vault listed).2 signs free
      funding (n := project.targetAmount - project.tokensSold) (by omega) (by omega) funds (by omega) 0
    refine .next st ?_
    obtain ⟨done, rfl⟩ := buyProjectTokens_ok.mp (step_call st).2
    have same : done.project = project := Option.some.inj (done.own.symm.trans own)
    have total := done.sells
    rw [same] at total
    have founds := (ensureAssociatedToken_founds done.ensured).1
    have ne : project.usdcVault ≠ src := wf.view.vault_ne_holder listed (.refl _) funds signs
    have sum : done.sold.toNat
        = project.tokensSold.toNat + (project.targetAmount - project.tokensSold).toNat := total
    have full : done.sold.toNat = project.targetAmount.toNat := by omega
    rw [same]
    refine ⟨{ project with tokensSold := done.sold }, Finmap.lookup_insert _, funding, BitVec.eq_of_toNat_eq full,
      rfl, known, ?_⟩
    calc project.targetAmount.toNat
      _ ≤ (g.run as).bank.balance project.usdcVault + (g.run as).bank.balance src := Nat.le_add_left_of_le enough
      _ = done.opened.balance project.usdcVault + done.opened.balance src := by rw [founds.balance, founds.balance]
      _ ≤ done.bank.balance project.usdcVault + done.bank.balance src := paid_in_kept done.paid done.minted ne.symm

/-- A project that is sold out can be activated, once the fee is in its vault. -/
lemma Genesis.can_activate (own : (g.run as).projects.lookup p = some project)
    (known : (g.run as).platforms.lookup Client.platform = some platform) (signs : canSign w = true)
    (funds : (g.run as).bank.holder src = some (platform.usdcMint, w))
    (enough : project.targetAmount.toNat
      ≤ (g.run as).bank.balance project.usdcVault + (g.run as).bank.balance src)
    (funding : project.status = .funding) (full : project.tokensSold = project.targetAmount)
    (receiver : (g.run as).bank.holder dest = some (platform.usdcMint, platform.treasury))
    (apart : project.usdcVault ≠ dest) :
    Can step (g.run as) fun s => ∃ project', s.projects.lookup p = some project' ∧ project'.status = .active ∧
      s.platforms.lookup Client.platform = some platform := by
  have listed := State.listing_project own
  have vault : (g.run as).bank.holder project.usdcVault = some (platform.usdcMint, p) :=
    ((g.deployed as known).vault listed).2
  have ne : project.usdcVault ≠ src := (g.run_wf as).view.vault_ne_holder listed (.refl _) funds signs
  have fee := originationFee_le project.targetAmount.toNat ((g.run_wf as).side.platforms _ _ known).2
  refine Genesis.can_bind (Genesis.can_deposit signs funds vault ne.symm
    (n := project.targetAmount.toNat - (g.run as).bank.balance project.usdcVault) (by omega)) ?_
  rintro bs ⟨b, same, arrived⟩
  have own' : (g.run (as ++ bs)).projects.lookup p = some project := same ▸ own
  have known' : (g.run (as ++ bs)).platforms.lookup Client.platform = some platform := same ▸ known
  have covered : project.targetAmount.toNat * platform.originationFeeBps.toNat / 10000
      ≤ (g.run (as ++ bs)).bank.balance project.usdcVault := by
    rw [same]
    show _ ≤ b.balance _
    omega
  obtain ⟨s', st⟩ := activate_goes (g.run_wf (as ++ bs)) (g.places (as ++ bs)) (g.deployed (as ++ bs) known') own'
    (g.holder_later as bs vault) funding full covered (g.holder_later as bs receiver) apart 0
  refine .next st ?_
  obtain ⟨done, rfl⟩ := activateProject_ok.mp (step_call st).2
  exact ⟨_, Finmap.lookup_insert _, rfl, known'⟩

/-- The wallets that have a position of the project. -/
lemma State.Wf.owners {s : State K} (wf : s.Wf) (p : K) :
    ∃ ws : List K, ∀ w, w ∈ ws ↔ (s.positions.lookup (Client.position p w)).isSome := by
  refine ⟨s.positions.keys.toList.filterMap fun k => (s.positions.lookup k).bind fun q =>
    if k = Client.position p q.owner then some q.owner else none, ?_⟩
  intro w
  simp only [List.mem_filterMap, Option.bind_eq_some_iff, Option.ite_none_right_eq_some, Finset.mem_toList]
  constructor
  · rintro ⟨_, -, q, held, rfl, ⟨⟩⟩
    exact Option.isSome_iff_exists.mpr ⟨q, held⟩
  · intro there
    obtain ⟨q, held⟩ := Option.isSome_iff_exists.mp there
    have owner := (wf.position_of held).2
    exact ⟨_, Finmap.mem_keys.mpr (Finmap.mem_of_lookup_eq_some held), q, held, owner ▸ ⟨rfl, rfl⟩⟩

/-- Who claimed has what was owed, and is owed nothing any more. -/
lemma Claimed.collects {s u : State K} {usdc k : K} {ws : List K} {q : InvestorPosition K}
    (claimed : Claimed s p usdc project ws u) (wf : s.Wf) (own : s.projects.lookup p = some project)
    (held : s.positions.lookup k = some q) (target : q.target = p) (mem : q.owner ∈ ws) :
    ∃ q', u.positions.lookup k = some q' ∧
      q'.totalClaimed.toNat = q.totalClaimed.toNat + q.owed project.cumulativeUsdcPerToken ∧
      q'.owed project.cumulativeUsdcPerToken = 0 := by
  obtain rfl : k = Client.position p q.owner := target ▸ (wf.view.placed held).key
  have owed := State.owedTo_eq own held
  rcases Nat.eq_zero_or_pos (s.owedTo p q.owner) with zero | pos
  · rw [owed] at zero
    exact ⟨q, (claimed.position_of_not_mem (.inr (owed.trans zero))).trans held, by rw [zero, Nat.add_zero], zero⟩
  · obtain ⟨q₀, q', held', found, -, holding⟩ := claimed.settled _ mem pos
    cases held.symm.trans held'
    refine ⟨q', found, (congrArg Holding.claimed holding :), ?_⟩
    exact (congrArg (Holding.owed PRECISION.toNat _) holding).trans (Fund.owed_settle _ _ _)

/-- Everybody can be paid what they are owed, once the vault has it. -/
lemma Genesis.can_collect (own : (g.run as).projects.lookup p = some project)
    (known : (g.run as).platforms.lookup Client.platform = some platform) (signs : canSign w = true)
    (funds : (g.run as).bank.holder src = some (platform.usdcMint, w))
    (enough : (g.run as).sumPositions p (fun q => q.owed project.cumulativeUsdcPerToken)
      ≤ (g.run as).bank.balance project.usdcVault + (g.run as).bank.balance src) :
    Can step (g.run as) fun s => s.projects.lookup p = some project ∧
      s.platforms.lookup Client.platform = some platform ∧
      ∀ k q, (g.run as).positions.lookup k = some q → q.target = p → ∃ q', s.positions.lookup k = some q' ∧
        q'.totalClaimed.toNat = q.totalClaimed.toNat + q.owed project.cumulativeUsdcPerToken ∧
        q'.owed project.cumulativeUsdcPerToken = 0 := by
  have listed := State.listing_project own
  have vault : (g.run as).bank.holder project.usdcVault = some (platform.usdcMint, p) :=
    ((g.deployed as known).vault listed).2
  have ne : project.usdcVault ≠ src := (g.run_wf as).view.vault_ne_holder listed (.refl _) funds signs
  -- first the wallet fills the vault up to what is owed
  refine Genesis.can_bind (Genesis.can_deposit signs funds vault ne.symm
    (n := (g.run as).sumPositions p (fun q => q.owed project.cumulativeUsdcPerToken)
      - (g.run as).bank.balance project.usdcVault) (by omega)) ?_
  rintro bs ⟨b, same, arrived⟩
  have own' : (g.run (as ++ bs)).projects.lookup p = some project := same ▸ own
  have solvent : ((g.run (as ++ bs)).view.fundOf (.project p) project.listing).owedTotal PRECISION.toNat
      ≤ (g.run (as ++ bs)).bank.balance project.usdcVault := by
    rw [← State.sum_owed_project, same]
    show (g.run as).sumPositions p _ ≤ b.balance _
    omega
  -- then everybody claims
  obtain ⟨ws, owners⟩ := (g.run_wf (as ++ bs)).owners p
  have covers : Owners (g.run (as ++ bs)) p (ws.map fun w => (0, w)) := by
    intro c mem
    obtain ⟨w, there, rfl⟩ := List.mem_map.mp mem
    exact (owners w).mp there
  obtain ⟨claimed, -⟩ := g.claimed (as ++ bs) own' (g.holder_later as bs vault) solvent covers rfl
  refine Genesis.can_run _ ⟨claimed.projects ▸ own', ?_, ?_⟩
  · rw [claimed.others, same]
    exact known
  · intro k q held target
    have held' : (g.run (as ++ bs)).positions.lookup k = some q := same ▸ held
    obtain rfl : k = Client.position p q.owner := target ▸ ((g.run_wf as).view.placed held).key
    apply claimed.collects (g.run_wf (as ++ bs)) own' held' target
    have mem := (owners q.owner).mpr (Option.isSome_iff_exists.mpr ⟨q, held'⟩)
    exact List.mem_map.mpr ⟨(0, q.owner), List.mem_map_of_mem mem, rfl⟩

/-- A project that is not closed can be closed, which leaves its positions. -/
lemma Genesis.can_close (own : (g.run as).projects.lookup p = some project)
    (known : (g.run as).platforms.lookup Client.platform = some platform) (started : project.status ≠ .funding) :
    Can step (g.run as) fun s => s.projects.lookup p = some { project with status := .completed } ∧
      s.positions = (g.run as).positions := by
  have live := (g.fund_sound as (State.fund_project own)).live
  have close : ∀ status : project.status = .repaying ∨ project.status = .active, Can step (g.run as) fun s =>
      s.projects.lookup p = some { project with status := .completed } ∧ s.positions = (g.run as).positions := by
    intro status
    obtain ⟨s', st⟩ := closeProject_goes (g.run_wf as) (g.deployed as known) own status 0
    refine .next st ?_
    obtain ⟨done, rfl⟩ := closeProject_ok.mp (step_call st).2
    have own' := done.own
    cases own.symm.trans own'
    exact ⟨Finmap.lookup_insert _, rfl⟩
  cases status : project.status with
  | funding => exact absurd status started
  | cancelled => exact absurd status live
  | completed =>
    refine .here ⟨?_, rfl⟩
    rw [own, ← status]
  | active => exact close (.inr status)
  | repaying => exact close (.inl status)

/-- A project that has distributed nothing owes nothing, and nobody has claimed from it. -/
lemma Genesis.untouched (own : (g.run as).projects.lookup p = some project)
    (zero : project.totalDistributed.toNat = 0) {k : K} {q : InvestorPosition K}
    (held : (g.run as).positions.lookup k = some q) (target : q.target = p) :
    q.totalClaimed.toNat = 0 ∧ q.owed project.cumulativeUsdcPerToken = 0 := by
  have run := g.reaches as (State.fund_project own)
  subst target
  have le : q.totalClaimed.toNat + q.owed project.cumulativeUsdcPerToken ≤ project.totalDistributed.toNat :=
    run.claim_le_project rfl (by decide) (View.lookup_holdings_of held)
  omega

/-- A project for sale can be sold out, activated and closed. -/
lemma Genesis.funding_winds_up (own : (g.run as).projects.lookup p = some project)
    (known : (g.run as).platforms.lookup Client.platform = some platform) (signs : canSign w = true)
    (free : (g.run as).Free p w) (funds : (g.run as).bank.holder src = some (platform.usdcMint, w))
    (enough : project.targetAmount.toNat ≤ (g.run as).bank.balance src)
    (receiver : (g.run as).bank.holder dest = some (platform.usdcMint, platform.treasury))
    (apart : project.usdcVault ≠ dest) (funding : project.status = .funding) :
    Can step (g.run as) fun s => ∃ project', s.projects.lookup p = some project' ∧ project'.status = .completed ∧
      ∀ k q, (g.run as).positions.lookup k = some q → q.target = p → ∃ q', s.positions.lookup k = some q' ∧
        q'.totalClaimed.toNat = q.totalClaimed.toNat + q.owed project.cumulativeUsdcPerToken ∧
        q'.owed project'.cumulativeUsdcPerToken = 0 := by
  apply Genesis.can_bind (Genesis.can_sell_out own known signs free funds enough funding)
  rintro bs ⟨project₁, own₁, funding₁, full, vault, known₁, enough₁⟩
  refine Genesis.can_bind (Genesis.can_activate own₁ known₁ signs (g.holder_later as bs funds) (vault ▸ enough₁)
    funding₁ full (g.holder_later as bs receiver) (vault ▸ apart)) ?_
  rintro cs ⟨project₂, own₂, active, known₂⟩
  apply Genesis.can_bind (Genesis.can_close own₂ known₂ (active ▸ nofun))
  rintro ds ⟨own₃, positions⟩
  refine .here ⟨_, own₃, rfl, ?_⟩
  intro k q held target
  obtain ⟨q', held', terms⟩ := g.terms_later as (bs ++ cs) (κ := .position) held
  rw [← List.append_assoc] at held'
  have target' : q'.target = p := (congrArg InvestorPosition.target terms).trans target
  have distributed := ((g.fund_sound as (State.fund_project own)).funding rfl funding).1
  have distributed₂ := (g.fund_sound _ (State.fund_project own₂)).active active
  obtain ⟨claimed, owed⟩ := Genesis.untouched own distributed held target
  obtain ⟨claimed', owed'⟩ := Genesis.untouched own₂ distributed₂ held' target'
  refine ⟨q', positions ▸ held', ?_, owed'⟩
  rw [claimed, owed, claimed']

/-- From every reachable state, a project can be brought to its end with everybody paid what they are owed at the
start, if one wallet has a USDC account with the whole target and all that is owed, can open its position or has it,
and the treasury has a USDC account that is not the vault. -/
theorem project_winds_up (g : Genesis K) (as : List (Action K))
    (own : (g.run as).projects.lookup p = some project)
    (known : (g.run as).platforms.lookup Client.platform = some platform) (signs : canSign w = true)
    (free : (g.run as).Free p w) (funds : (g.run as).bank.holder src = some (platform.usdcMint, w))
    (enough : project.targetAmount.toNat
      + (g.run as).sumPositions p (fun q => q.owed project.cumulativeUsdcPerToken) ≤ (g.run as).bank.balance src)
    (receiver : (g.run as).bank.holder dest = some (platform.usdcMint, platform.treasury))
    (apart : project.usdcVault ≠ dest) :
    Can step (g.run as) fun s => ∃ project', s.projects.lookup p = some project' ∧ project'.status = .completed ∧
      ∀ k q, (g.run as).positions.lookup k = some q → q.target = p → ∃ q', s.positions.lookup k = some q' ∧
        q'.totalClaimed.toNat = q.totalClaimed.toNat + q.owed project.cumulativeUsdcPerToken ∧
        q'.owed project'.cumulativeUsdcPerToken = 0 := by
  by_cases funding : project.status = .funding
  · exact Genesis.funding_winds_up own known signs free funds (by omega) receiver apart funding
  · apply Genesis.can_bind (Genesis.can_collect own known signs funds (by omega))
    rintro bs ⟨own₁, known₁, collected⟩
    apply Genesis.can_bind (Genesis.can_close own₁ known₁ funding)
    rintro cs ⟨own₂, positions⟩
    exact .here ⟨_, own₂, rfl, positions ▸ collected⟩

/-- After the repayment the admin takes all that is in the vault. -/
def demoEmptied : List (Action Addr) :=
  demoDrawn ++ [.call 0 (Client.demo.withdrawProjectFunds 1 10 (.ata (.wallet 0) (.wallet 1)))]

/-- The emptied project can still be completed. -/
theorem project_winds_up_demo : Can step (Genesis.blank.run demoEmptied) fun s =>
    (s.projects.lookup (Client.project 1)).map Project.status = some .completed := by
  have known : ((Genesis.blank.run demoEmptied).platforms.lookup Client.platform).map
      (fun platform => (platform.usdcMint, platform.treasury))
      = some (Client.demo.usdc, Client.demo.treasury) := by decide +kernel
  have repaid : ((Genesis.blank.run demoEmptied).projects.lookup (Client.project 1)).map
      (fun project => (project.usdcVault, project.targetAmount, project.cumulativeUsdcPerToken))
      = some (Client.demo.usdcOf (Client.project 1), 100, 100000000000) := by decide +kernel
  have free : (Genesis.blank.run demoEmptied).Vacant (Client.position (Client.project 1) (.wallet 12)) := by
    decide +kernel
  have funds : (Genesis.blank.run demoEmptied).bank.holder (Client.demo.usdcOf (.wallet 12))
      = some (Client.demo.usdc, .wallet 12) := by decide +kernel
  have receiver : (Genesis.blank.run demoEmptied).bank.holder (Client.demo.usdcOf Client.demo.treasury)
      = some (Client.demo.usdc, Client.demo.treasury) := by decide +kernel
  have enough : 100 + (Genesis.blank.run demoEmptied).sumPositions (Client.project 1)
      (fun q => q.owed 100000000000)
        ≤ (Genesis.blank.run demoEmptied).bank.balance (Client.demo.usdcOf (.wallet 12)) := by
    decide +kernel
  have apart : Client.demo.usdcOf (Client.project 1) ≠ Client.demo.usdcOf Client.demo.treasury := by decide
  generalize demoEmptied = as at known repaid free funds receiver enough ⊢
  obtain ⟨platform, known, e⟩ := Option.map_eq_some_iff.mp known
  obtain ⟨usdc, treasury⟩ := Prod.mk.injEq .. ▸ e
  obtain ⟨project, own, e⟩ := Option.map_eq_some_iff.mp repaid
  simp only [Prod.mk.injEq] at e
  obtain ⟨vault, target, index⟩ := e
  rw [← usdc] at funds receiver
  rw [← treasury] at receiver apart
  obtain ⟨bs, project', own', done, -⟩ := project_winds_up Genesis.blank as own known rfl (.inl free) funds
    (by rw [target, index]; exact enough) receiver (vault ▸ apart)
  exact ⟨bs, (congrArg (Option.map Project.status) own').trans (congrArg some done)⟩

end Exira
