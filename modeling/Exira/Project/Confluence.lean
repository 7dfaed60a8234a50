import Exira.Project.Claims
import Exira.Project.Solvency

/-!
# Claims between distributions commute

While nothing but claims on a project happens, each claim is of one position, and what its owner is paid does
not depend on the others. `Claimed` describes the state after a sequence of claims by the owners who claimed
alone, so sequences with the same owners end in the same state.
-/

namespace Exira

open Dividend

/-! ## Funds -/

namespace Fund

variable {ι : Type} [DecidableEq ι] {P : ℕ} {f f' : Fund ι} {i : ι}

/-- A claim takes from the vault what it takes from the debt. -/
lemma Step.owedTotal_claim (st : f.Step P (.claim i) f') (covered : f.owedTotal P ≤ f.vault) :
    f'.owedTotal P ≤ f'.vault := by
  cases st with
  | @claim _ h own =>
    have sum := Finmap.sum_insert f.holdings i (h.settle P f.index) (Holding.owed P f.index)
    have settled : (h.settle P f.index).owed P f.index = 0 := by
      rw [Holding.owed, Holding.pending, Holding.settle, Nat.sub_self, Nat.mul_zero, Nat.zero_div]
    rw [own, Option.elim, settled] at sum
    simp only [owedTotal, Ledger.claim] at covered ⊢
    omega

/-- What a claim takes from the vault is counted as claimed. -/
lemma Step.vault_claim (sound : f.Sound) (st : f.Step P (.claim i) f') :
    f'.vault + f'.paid = f.vault + f.paid := by
  have books := st.vault sound
  cases st with
  | claim =>
    simp only [Ledger.claim, Event.payouts, Event.deposits] at books ⊢
    omega

end Fund

/-! ## Sequences of claims -/

variable {K : Type} [DecidableEq K] [Addresses K]

/-- What the wallet `w` is owed by the project at `p`. -/
def State.owedTo (s : State K) (p w : K) : ℕ :=
  match s.projects.lookup p, s.positions.lookup (Client.position p w) with
  | some project, some q => q.owed project.cumulativeUsdcPerToken
  | _, _ => 0

/-- The claims of some wallets, each at its time, with the derived accounts. -/
def projectClaims (usdc p vault : K) (cs : List (Int64 × K)) : List (Action K) :=
  cs.map fun c => .call c.1 (Client.claimProject usdc p vault c.2)

/-- The claims are of wallets that have a position. -/
def Owners (s : State K) (p : K) (cs : List (Int64 × K)) : Prop :=
  ∀ c ∈ cs, (s.positions.lookup (Client.position p c.2)).isSome

/-- The state `u` after the owed claims of the wallets `ws` on a project in the state `s`. -/
structure Claimed (s : State K) (p usdc : K) (project : Project K) (ws : List K) (u : State K) :
    Prop where
  others : u = { s with positions := u.positions, bank := u.bank }
  settled : ∀ w ∈ ws, 0 < s.owedTo p w → ∃ q q', s.positions.lookup (Client.position p w) = some q ∧
    u.positions.lookup (Client.position p w) = some q' ∧ Placed p w (Client.position p w) q' ∧
    q'.holding = q.holding.settle PRECISION.toNat project.cumulativeUsdcPerToken.toNat
  positions : ∀ k, (∀ w ∈ ws, 0 < s.owedTo p w → k ≠ Client.position p w) →
    u.positions.lookup k = s.positions.lookup k
  mints : u.bank.mints = s.bank.mints
  paid : ∀ w ∈ ws, 0 < s.owedTo p w → u.bank.holder (associatedToken w usdc) = some (usdc, w) ∧
    u.bank.balance (associatedToken w usdc)
      = s.bank.balance (associatedToken w usdc) + s.owedTo p w
  accounts : ∀ k, k ≠ project.usdcVault →
    (∀ w ∈ ws, 0 < s.owedTo p w → k ≠ associatedToken w usdc) →
    u.bank.accounts.lookup k = s.bank.accounts.lookup k
  holder : u.bank.holder project.usdcVault = s.bank.holder project.usdcVault
  vault : u.bank.balance project.usdcVault + (u.view.holdings p).sum Holding.claimed
    = s.bank.balance project.usdcVault + (s.view.holdings p).sum Holding.claimed

section
variable {s u u' : State K} {p w usdc : K} {project : Project K} {ws ws' : List K}

/-- What a wallet is owed is what its position is. -/
lemma State.owedTo_eq {q : InvestorPosition K} (own : s.projects.lookup p = some project)
    (held : s.positions.lookup (Client.position p w) = some q) :
    s.owedTo p w = q.owed project.cumulativeUsdcPerToken := by
  simp only [State.owedTo, own, held]

omit [DecidableEq K] in
/-- A position is its owner, its target and its holding. -/
lemma Placed.ext {k₀ k : K} {q q' : InvestorPosition K} (h : Placed k₀ w k q) (h' : Placed k₀ w k q')
    (same : q.holding = q'.holding) : q = q' := by
  obtain ⟨-, target, owner, bump, -⟩ := h
  obtain ⟨-, target', owner', bump', -⟩ := h'
  obtain ⟨o, t, n, l, c, b⟩ := q
  obtain ⟨o', t', n', l', c', b'⟩ := q'
  injection same with held last claimed
  obtain rfl : n = n' := BitVec.eq_of_toNat_eq held
  obtain rfl : l = l' := BitVec.eq_of_toNat_eq last
  obtain rfl : c = c' := BitVec.eq_of_toNat_eq claimed
  dsimp only at target owner bump target' owner' bump'
  subst target owner target' owner'
  rw [bump, bump']

/-- The state after some claims is fixed by the wallets that claimed. -/
theorem Claimed.unique (h : Claimed s p usdc project ws u) (h' : Claimed s p usdc project ws' u')
    (same : ∀ w, w ∈ ws ↔ w ∈ ws') : u = u' := by
  have positions : u.positions = u'.positions := by
    apply Finmap.ext_lookup
    intro k
    by_cases hit : ∃ w ∈ ws, 0 < s.owedTo p w ∧ k = Client.position p w
    · obtain ⟨w, mem, pos, rfl⟩ := hit
      obtain ⟨q₀, q, own, found, placed, holding⟩ := h.settled w mem pos
      obtain ⟨q₀', q', own', found', placed', holding'⟩ := h'.settled w ((same w).mp mem) pos
      cases own.symm.trans own'
      rw [found, found', placed.ext placed' (holding.trans holding'.symm)]
    · have miss : ∀ w ∈ ws, 0 < s.owedTo p w → k ≠ Client.position p w :=
        fun w mem pos e => hit ⟨w, mem, pos, e⟩
      rw [h.positions k miss, h'.positions k fun w mem => miss w ((same w).mpr mem)]
  have mints : u.bank.mints = u'.bank.mints := h.mints.trans h'.mints.symm
  have accounts : u.bank.accounts = u'.bank.accounts := by
    apply Finmap.ext_lookup
    intro k
    by_cases vault : k = project.usdcVault
    · subst vault
      apply Token.Bank.lookup_congr (h.holder.trans h'.holder.symm)
      have books := h.vault
      have books' := h'.vault
      have claimed : (u.view.holdings p).sum Holding.claimed
          = (u'.view.holdings p).sum Holding.claimed := by
        simp only [View.holdings, State.view, positions]
      omega
    · by_cases hit : ∃ w ∈ ws, 0 < s.owedTo p w ∧ k = associatedToken w usdc
      · obtain ⟨w, mem, pos, rfl⟩ := hit
        obtain ⟨holder, balance⟩ := h.paid w mem pos
        obtain ⟨holder', balance'⟩ := h'.paid w ((same w).mp mem) pos
        exact Token.Bank.lookup_congr (holder.trans holder'.symm) (balance.trans balance'.symm)
      · have miss : ∀ w ∈ ws, 0 < s.owedTo p w → k ≠ associatedToken w usdc :=
          fun w mem pos e => hit ⟨w, mem, pos, e⟩
        rw [h.accounts k vault miss, h'.accounts k vault fun w mem => miss w ((same w).mpr mem)]
  have bank : u.bank = u'.bank := by
    calc u.bank = ⟨u.bank.mints, u.bank.accounts⟩ := rfl
      _ = ⟨u'.bank.mints, u'.bank.accounts⟩ := by rw [mints, accounts]
      _ = u'.bank := rfl
  rw [h.others, h'.others, positions, bank]

/-- No claim yet. -/
lemma Claimed.refl : Claimed s p usdc project [] s where
  others := rfl
  settled := nofun
  positions := fun _ _ => rfl
  mints := rfl
  paid := nofun
  accounts := fun _ _ _ => rfl
  holder := rfl
  vault := rfl

/-- Only wallets that are owed something matter. -/
lemma Claimed.congr (h : Claimed s p usdc project ws u)
    (same : ∀ w, 0 < s.owedTo p w → (w ∈ ws ↔ w ∈ ws')) : Claimed s p usdc project ws' u where
  others := h.others
  settled := fun w mem pos => h.settled w ((same w pos).mpr mem) pos
  positions := fun k miss => h.positions k fun w mem pos => miss w ((same w pos).mp mem) pos
  mints := h.mints
  paid := fun w mem pos => h.paid w ((same w pos).mpr mem) pos
  accounts := fun k ne miss => h.accounts k ne fun w mem pos => miss w ((same w pos).mp mem) pos
  holder := h.holder
  vault := h.vault

/-- Claims leave the projects. -/
lemma Claimed.projects (h : Claimed s p usdc project ws u) : u.projects = s.projects := by
  rw [h.others]

/-- Who has not claimed has the position of the start. -/
lemma Claimed.position_of_not_mem (h : Claimed s p usdc project ws u)
    (fresh : w ∉ ws ∨ s.owedTo p w = 0) :
    u.positions.lookup (Client.position p w) = s.positions.lookup (Client.position p w) := by
  apply h.positions
  rintro w' mem pos e
  obtain ⟨-, rfl⟩ := position_inj e
  rcases fresh with fresh | zero
  · exact fresh mem
  · omega

/-- Who has not claimed is owed what it was. -/
lemma Claimed.owedTo_of_not_mem (h : Claimed s p usdc project ws u) (fresh : w ∉ ws) :
    u.owedTo p w = s.owedTo p w := by
  rw [State.owedTo, State.owedTo, h.projects, h.position_of_not_mem (.inl fresh)]

/-- Who has claimed, or was owed nothing, is owed nothing. -/
lemma Claimed.owedTo_eq_zero (h : Claimed s p usdc project ws u)
    (own : s.projects.lookup p = some project) (done : w ∈ ws ∨ s.owedTo p w = 0) :
    u.owedTo p w = 0 := by
  rcases Nat.eq_zero_or_pos (s.owedTo p w) with zero | pos
  · have same := h.position_of_not_mem (.inr zero)
    rwa [State.owedTo, h.projects, same]
  · have mem := done.resolve_right (by omega)
    obtain ⟨q, q', -, found, -, holding⟩ := h.settled w mem pos
    rw [State.owedTo_eq (h.projects ▸ own) found]
    change q'.holding.owed PRECISION.toNat project.cumulativeUsdcPerToken.toNat = 0
    rw [holding, Holding.owed, Holding.pending, Holding.settle, Nat.sub_self, Nat.mul_zero,
      Nat.zero_div]

/-- Owners stay owners. -/
lemma Claimed.owner (h : Claimed s p usdc project ws u)
    (owner : (s.positions.lookup (Client.position p w)).isSome) :
    ∃ q, u.positions.lookup (Client.position p w) = some q := by
  by_cases hit : w ∈ ws ∧ 0 < s.owedTo p w
  · obtain ⟨_, q', -, found, -⟩ := h.settled w hit.1 hit.2
    exact ⟨q', found⟩
  · have fresh : w ∉ ws ∨ s.owedTo p w = 0 := by
      by_cases mem : w ∈ ws
      · exact .inr (by_contra fun ne => hit ⟨mem, Nat.pos_of_ne_zero ne⟩)
      · exact .inl mem
    rw [h.position_of_not_mem fresh]
    exact Option.isSome_iff_exists.mp owner

/-- A claim on a project is an event of its fund. -/
lemma claimProject_event (wf : u.Wf) (own : u.projects.lookup p = some project) {now : Int64}
    (st : step u (.call now (Client.claimProject usdc p project.usdcVault w)) = .ok u') :
    ∃ f', u'.fund (.project p) = some f' ∧
      (u.view.fundOf (.project p) project.listing).Step PRECISION.toNat
        (.claim (Client.position p w)) f' := by
  have after := step_fund wf st (State.fund_project own)
  have event : u.event (.project p) (.call now (Client.claimProject usdc p project.usdcVault w))
      = some (.claim (Client.position p w)) := by
    simp [State.event, State.listing_project own, Action.effect, Effect.on, Client.claimProject]
  rwa [event] at after

/-- A claim that pays. -/
lemma Claimed.pay (h : Claimed s p usdc project ws u) (wf : u.Wf)
    (sound : (u.view.fundOf (.project p) project.listing).Sound)
    (own : s.projects.lookup p = some project) (fresh : w ∉ ws) (pos : 0 < s.owedTo p w)
    {now : Int64}
    (st : step u (.call now (Client.claimProject usdc p project.usdcVault w)) = .ok u') :
    Claimed s p usdc project (w :: ws) u' ∧
      u'.bank.balance project.usdcVault + s.owedTo p w = u.bank.balance project.usdcVault ∧
      u'.bank.balance (associatedToken w usdc)
        = u.bank.balance (associatedToken w usdc) + s.owedTo p w := by
  have own₁ : u.projects.lookup p = some project := h.projects ▸ own
  obtain ⟨f', own', event⟩ := claimProject_event wf own₁ st
  have books := event.vault_claim sound
  obtain ⟨done, rfl⟩ := claimProjectReturns_ok.mp (step_call st).2
  have same : done.project = project := Option.some.inj (done.own.symm.trans own₁)
  have placed := wf.view.checkedPosition done.held done.placed
  obtain ⟨owed, placed', holding⟩ := settlePosition_placed placed done.pays done.settled
  rw [same] at owed holding
  obtain ⟨founds, holder⟩ := ensureAssociatedToken_founds done.ensured
  obtain ⟨mints, frame⟩ := ensureAssociatedToken_frame done.ensured
  -- the wallet signs, so its account is no vault
  have ne : project.usdcVault ≠ associatedToken w usdc :=
    wf.view.vault_ne_holder (State.listing_project own₁) founds.toEvolves holder placed.signs
  have start : s.positions.lookup (Client.position p w) = some done.position :=
    (h.position_of_not_mem (.inl fresh)).symm.trans done.held
  have amount : done.owed.toNat = s.owedTo p w := by
    rw [State.owedTo_eq own start]
    exact owed
  -- the wallets paid before have other accounts
  have atas : ∀ w' ∈ ws, associatedToken w' usdc ≠ associatedToken w usdc := by
    intro w' mem e
    rw [(Addresses.associatedToken_inj e).1] at mem
    exact fresh mem
  have source := Token.Bank.transfer_balance_source done.paid ne
  have dest := Token.Bank.transfer_balance_dest done.paid ne.symm
  rw [founds.balance, amount] at source dest
  refine ⟨⟨?_, ?_, ?_, ?_, ?_, ?_, ?_, ?_⟩, source, dest⟩
  · -- only positions and the bank are written
    exact congrArg (fun v : State K => { v with
      positions := u.positions.insert (Client.position p w) done.position', bank := done.bank }) h.others
  · -- the positions of those who claimed are settled
    intro w' mem pos'
    by_cases e : w' = w
    · subst e
      exact ⟨done.position, done.position', start, Finmap.lookup_insert _, placed', holding⟩
    · obtain ⟨q₁, q₂, own₂, found₂, rest⟩ := h.settled w' (List.mem_of_ne_of_mem e mem) pos'
      refine ⟨q₁, q₂, own₂, ?_, rest⟩
      exact (Finmap.lookup_insert_of_ne _ (position_ne e)).trans found₂
  · -- the other positions are as before
    intro k miss
    have other := miss w (.head _) pos
    refine (Finmap.lookup_insert_of_ne _ other).trans ?_
    exact h.positions k fun w' mem => miss w' (.tail _ mem)
  · -- the mints
    exact ((Token.Bank.transfer_mints done.paid).trans mints).trans h.mints
  · -- the accounts of those who claimed
    intro w' mem pos'
    by_cases e : w' = w
    · subst e
      have kept := h.accounts (associatedToken w' usdc) ne.symm fun w₁ mem₁ _ => (atas w₁ mem₁).symm
      have balance : u.bank.balance (associatedToken w' usdc)
          = s.bank.balance (associatedToken w' usdc) := by
        simp only [Token.Bank.balance, kept]
      refine ⟨(Token.Bank.transfer_holder done.paid _).trans holder, ?_⟩
      rw [← balance]
      exact dest
    · have mem' := List.mem_of_ne_of_mem e mem
      obtain ⟨holder', balance'⟩ := h.paid w' mem' pos'
      have other := atas w' mem'
      obtain ⟨_, _, -, -, placed₂, -⟩ := h.settled w' mem' pos'
      have vault : associatedToken w' usdc ≠ project.usdcVault :=
        (wf.view.vault_ne_holder (State.listing_project own₁) (.refl _) holder' placed₂.signs).symm
      refine ⟨(Token.Bank.transfer_holder done.paid _).trans (founds.holder holder'), ?_⟩
      rw [← balance', ← founds.balance]
      exact Token.Bank.transfer_balance_ne done.paid vault other
  · -- the other token accounts but for the vault
    intro k vault miss
    have other := miss w (.head _) pos
    rw [← h.accounts k vault fun w' mem => miss w' (.tail _ mem), ← frame k other]
    exact Token.Bank.transfer_lookup_ne done.paid vault other
  · refine (Token.Bank.transfer_holder done.paid _).trans ?_
    rw [← h.holder]
    obtain ⟨usdc', x, -, there, -⟩ := (wf.view.listed (State.listing_project own₁)).vault
    exact (founds.holder there).trans there.symm
  · obtain ⟨project₁, own₃, rfl⟩ := State.fund_project_some own'
    cases own₁.symm.trans own₃
    rw [← h.vault]
    exact books

end

/-- A claim in a reachable state whose vault covers all that is owed pays, or nothing is owed. -/
lemma Genesis.claimProject_outcome (g : Genesis K) (as : List (Action K)) {p w usdc : K}
    {project : Project K} {q : InvestorPosition K}
    (own : (g.run as).projects.lookup p = some project)
    (held : (g.run as).positions.lookup (Client.position p w) = some q)
    (holder : (g.run as).bank.holder project.usdcVault = some (usdc, p))
    (solvent : ((g.run as).view.fundOf (.project p) project.listing).owedTotal PRECISION.toNat
      ≤ (g.run as).bank.balance project.usdcVault) (now : Int64) :
    ((g.run as).owedTo p w = 0 →
      step (g.run as) (.call now (Client.claimProject usdc p project.usdcVault w))
        = .error (.exira .nothingToClaim)) ∧
      (0 < (g.run as).owedTo p w → ∃ s',
        step (g.run as) (.call now (Client.claimProject usdc p project.usdcVault w)) = .ok s') := by
  have wf := g.run_wf as
  obtain ⟨settled, fits⟩ := g.claims_fit as own held
  obtain ⟨target, owner⟩ := wf.position_of held
  rw [State.owedTo_eq own held]
  constructor
  · intro zero
    exact claimProject_nothing wf own held holder settled zero now
  · intro pos
    have covered := (Fund.owed_le_owedTotal (P := PRECISION.toNat) (wf.holding_of held)).trans solvent
    obtain ⟨usdc', holder', goes⟩ := claimProject_ok wf own held target settled pos fits covered
    cases holder.symm.trans holder'
    rw [owner] at goes
    exact goes now

/-- After any claims of owners the state is the one that `Claimed` describes, and the vault still covers all
that is owed. -/
theorem Genesis.claimed (g : Genesis K) (as : List (Action K)) {p usdc : K} {project : Project K}
    (own : (g.run as).projects.lookup p = some project)
    (holder : (g.run as).bank.holder project.usdcVault = some (usdc, p))
    (solvent : ((g.run as).view.fundOf (.project p) project.listing).owedTotal PRECISION.toNat
      ≤ (g.run as).bank.balance project.usdcVault)
    {cs : List (Int64 × K)} (owners : Owners (g.run as) p cs) {u : State K}
    (reached : g.run (as ++ projectClaims usdc p project.usdcVault cs) = u) :
    Claimed (g.run as) p usdc project (cs.map Prod.snd) u ∧
      (u.view.fundOf (.project p) project.listing).owedTotal PRECISION.toNat
        ≤ u.bank.balance project.usdcVault := by
  induction cs using List.reverseRecOn generalizing u with
  | nil =>
    rw [projectClaims, List.map_nil, List.append_nil] at reached
    subst reached
    exact ⟨.refl, solvent⟩
  -- the last claim comes to a state where the ones before it were made
  | append_singleton cs c ih =>
    obtain ⟨now, w⟩ := c
    have owner := owners (now, w) (List.mem_append_right _ (.head _))
    obtain ⟨claimed, solvent'⟩ := ih (fun c mem => owners c (List.mem_append_left _ mem)) rfl
    rw [projectClaims, List.map_append, ← List.append_assoc, Genesis.run_append] at reached
    obtain ⟨q, held⟩ := claimed.owner owner
    have own' := claimed.projects ▸ own
    obtain ⟨nothing, pays⟩ :=
      g.claimProject_outcome _ own' held (claimed.holder.trans holder) solvent' now
    rw [List.map_append]
    by_cases done : w ∈ cs.map Prod.snd ∨ (g.run as).owedTo p w = 0
    · -- nothing is owed any more: the claim fails
      have st := nothing (claimed.owedTo_eq_zero own done)
      have same : Runs.next step (g.run (as ++ projectClaims usdc p project.usdcVault cs)) _ = u := reached
      rw [Runs.next_error st] at same
      subst same
      refine ⟨claimed.congr ?_, solvent'⟩
      intro w' pos
      rw [List.mem_append, List.map_singleton, List.mem_singleton]
      constructor
      · exact .inl
      · rintro (mem | rfl)
        · exact mem
        · exact done.resolve_right (by omega)
    · obtain ⟨fresh, owed⟩ := not_or.mp done
      have pos := Nat.pos_of_ne_zero owed
      obtain ⟨u', st⟩ := pays (claimed.owedTo_of_not_mem fresh ▸ pos)
      have same : Runs.next step (g.run (as ++ projectClaims usdc p project.usdcVault cs)) _ = u := reached
      rw [Runs.next_ok st] at same
      subst same
      have wf := g.run_wf (as ++ projectClaims usdc p project.usdcVault cs)
      have sound := g.fund_sound _ (State.fund_project own')
      obtain ⟨next, -⟩ := claimed.pay wf sound own fresh pos st
      obtain ⟨f', own₁, event⟩ := claimProject_event wf own' st
      obtain ⟨project₁, found, rfl⟩ := State.fund_project_some own₁
      cases own.symm.trans (next.projects ▸ found)
      refine ⟨next.congr ?_, event.owedTotal_claim solvent'⟩
      intro w' _
      rw [List.mem_append, List.map_singleton, List.mem_singleton, List.mem_cons, or_comm]

/-- Claims on a project whose vault covers all that is owed commute. In any sequence of claims of owners, the
first claim of an owner to whom something is owed at the start pays exactly that, and every other claim fails
since there is nothing to claim; and two sequences with the same owners end in the same state. -/
theorem project_claims_confluent (g : Genesis K) (as : List (Action K)) (p usdc : K)
    (project : Project K) (own : (g.run as).projects.lookup p = some project)
    (holder : (g.run as).bank.holder project.usdcVault = some (usdc, p))
    (covered : (g.run as).sumPositions p (fun q => q.owed project.cumulativeUsdcPerToken)
      ≤ (g.run as).bank.balance project.usdcVault) :
    (∀ cs now w u, Owners (g.run as) p (cs ++ [(now, w)]) →
      g.run (as ++ projectClaims usdc p project.usdcVault cs) = u →
      (w ∈ cs.map Prod.snd ∨ (g.run as).owedTo p w = 0 →
        step u (.call now (Client.claimProject usdc p project.usdcVault w))
            = .error (.exira .nothingToClaim) ∧
          Runs.next step u (.call now (Client.claimProject usdc p project.usdcVault w)) = u) ∧
      (w ∉ cs.map Prod.snd → 0 < (g.run as).owedTo p w → ∃ u',
        step u (.call now (Client.claimProject usdc p project.usdcVault w)) = .ok u' ∧
          u'.bank.balance project.usdcVault + (g.run as).owedTo p w
            = u.bank.balance project.usdcVault ∧
          u'.bank.balance (associatedToken w usdc)
            = u.bank.balance (associatedToken w usdc) + (g.run as).owedTo p w)) ∧
      ∀ cs cs', Owners (g.run as) p cs → Owners (g.run as) p cs' →
        (∀ w, w ∈ cs.map Prod.snd ↔ w ∈ cs'.map Prod.snd) →
        g.run (as ++ projectClaims usdc p project.usdcVault cs)
          = g.run (as ++ projectClaims usdc p project.usdcVault cs') := by
  have solvent := (State.sum_owed_project _ _ _).symm.trans_le covered
  constructor
  · rintro cs now w u owners rfl
    obtain ⟨claimed, solvent'⟩ :=
      g.claimed as own holder solvent (fun c mem => owners c (List.mem_append_left _ mem)) rfl
    obtain ⟨q, held⟩ := claimed.owner (owners (now, w) (List.mem_append_right _ (.head _)))
    have own' := claimed.projects ▸ own
    obtain ⟨nothing, pays⟩ :=
      g.claimProject_outcome _ own' held (claimed.holder.trans holder) solvent' now
    constructor
    · intro done
      have st := nothing (claimed.owedTo_eq_zero own done)
      exact ⟨st, Runs.next_error st⟩
    · intro fresh pos
      obtain ⟨u', st⟩ := pays (claimed.owedTo_of_not_mem fresh ▸ pos)
      have wf := g.run_wf (as ++ projectClaims usdc p project.usdcVault cs)
      have sound := g.fund_sound _ (State.fund_project own')
      exact ⟨u', st, (claimed.pay wf sound own fresh pos st).2⟩
  · intro cs cs' owners owners' same
    have claimed := (g.claimed as own holder solvent owners rfl).1
    exact claimed.unique (g.claimed as own holder solvent owners' rfl).1 same

/-- A claim made twice, and other times, end alike. -/
theorem project_claims_confluent_demo :
    Genesis.blank.run (demoDrawn ++ projectClaims Client.demo.usdc (Client.project 1)
        (Client.demo.usdcOf (Client.project 1)) [(0, .wallet 10), (1, .wallet 11), (2, .wallet 10)])
      = Genesis.blank.run (demoDrawn ++ projectClaims Client.demo.usdc (Client.project 1)
        (Client.demo.usdcOf (Client.project 1)) [(5, .wallet 11), (6, .wallet 10)]) := by
  have repaid : ((Genesis.blank.run demoDrawn).projects.lookup (Client.project 1)).map
      (fun project => (project.usdcVault, project.cumulativeUsdcPerToken))
      = some (Client.demo.usdcOf (Client.project 1), 100000000000) := by decide +kernel
  have holder : (Genesis.blank.run demoDrawn).bank.holder (Client.demo.usdcOf (Client.project 1))
      = some (Client.demo.usdc, Client.project 1) := by decide +kernel
  have covered : (Genesis.blank.run demoDrawn).sumPositions (Client.project 1)
      (fun q => q.owed 100000000000)
        ≤ (Genesis.blank.run demoDrawn).bank.balance (Client.demo.usdcOf (Client.project 1)) := by
    decide +kernel
  have held : ∀ w ∈ ([.wallet 10, .wallet 11] : List Addr), ((Genesis.blank.run
      demoDrawn).positions.lookup (Client.position (Client.project 1) w)).isSome := by
    decide +kernel
  generalize Client.demo.usdcOf (Client.project 1) = vault at repaid holder covered ⊢
  generalize demoDrawn = as at repaid holder covered held ⊢
  obtain ⟨project, own, e⟩ := Option.map_eq_some_iff.mp repaid
  obtain ⟨rfl, index⟩ := Prod.mk.injEq .. ▸ e
  have confluent := project_claims_confluent Genesis.blank as (Client.project 1)
    Client.demo.usdc project own holder (index ▸ covered)
  have owners : ∀ cs : List (Int64 × Addr),
      (∀ w ∈ cs.map Prod.snd, w ∈ ([.wallet 10, .wallet 11] : List Addr)) →
      Owners (Genesis.blank.run as) (Client.project 1) cs :=
    fun cs only c mem => held _ (only _ (List.mem_map_of_mem mem))
  exact confluent.2 _ _ (owners _ (by simp)) (owners _ (by simp)) (by simp [or_comm])

end Exira
