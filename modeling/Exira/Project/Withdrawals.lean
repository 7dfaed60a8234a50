import Exira.Project.Refunds

/-!
# Withdrawals in any order

What makes a withdrawal go through is the wallet's own: its position, and its account with the tokens of it.
Neither purchases nor withdrawals of others touch them, so withdrawals of a project that is for sale go through
in any order, between any purchases.
-/

namespace Exira

variable {K : Type} [DecidableEq K] [Addresses K] {s s' : State K} {p usdc : K} {project : Project K}

/-! ## Without payouts -/

/-- No payout of the project at `p` is in the history. -/
def Undrawn (p : K) (h : List (State K × Action K)) : Prop :=
  ∀ x ∈ h, ∀ now a n, x.2 = .call now (.withdrawProjectFunds a n) → a.project ≠ p

/-- The action takes a payout from a project. -/
def Action.draws : Action K → Bool
  | .call _ (.withdrawProjectFunds _ _) => true
  | _ => false

omit [DecidableEq K] [Addresses K] in
/-- No payout is in the history of actions that take none. -/
lemma Undrawn.of_quiet {h : List (State K × Action K)} (quiet : ∀ x ∈ h, x.2.draws = false) : Undrawn p h := by
  intro x mem now a n act
  have draws := quiet x mem
  rw [act] at draws
  cases draws

omit [Addresses K] in
/-- A payout is an instruction of its project. -/
lemma payout_of_event {x : Action K} {n : ℕ} (e : s.event (.project p) x = some (.payout n)) :
    ∃ now a m, x = .call now (.withdrawProjectFunds a m) ∧ a.project = p := by
  cases State.event_raises e
  exact ⟨_, _, _, rfl, rfl⟩

omit [Addresses K] in
/-- Nothing is paid out while the vault is not drawn on. -/
lemma Undrawn.payouts {h : List (State K × Action K)} (undrawn : Undrawn p h) :
    tally Event.payouts (.project p) h = 0 := by
  induction h with
  | nil => rfl
  | cons x h ih =>
    rw [tally_cons, ih fun y mem => undrawn y (.tail _ mem), Nat.add_zero]
    cases ev : x.1.event (.project p) x.2 with
    | none => rfl
    | some e =>
      cases e with
      | payout n =>
        obtain ⟨now, a, m, act, target⟩ := payout_of_event ev
        exact absurd target (undrawn x (.head _) now a m act)
      | _ => rfl

/-! ## Withdrawals that wait -/

/-- A withdrawal: the wallet, its account of the tokens that are burnt, and its account for the refund. -/
structure Withdrawal (K : Type) where
  wallet : K
  source : K
  dest : K

namespace Withdrawal

/-- The withdrawal from the project at `p`. -/
def action (usdc p : K) (project : Project K) (now : Int64) (r : Withdrawal K) : Action K :=
  .call now (.withdrawInvestment (Client.withdrawal usdc p project r.wallet r.source r.dest))

/-- The wallet has a position `q` with tokens, the tokens of it in one account, and an account for the
refund. -/
structure Ready (s : State K) (usdc p : K) (project : Project K) (r : Withdrawal K)
    (q : InvestorPosition K) : Prop where
  held : s.positions.lookup (Client.position p r.wallet) = some q
  pos : 0 < q.tokensHeld.toNat
  tokens : s.bank.holder r.source = some (project.tokenMint, r.wallet)
  enough : q.tokensHeld.toNat ≤ s.bank.balance r.source
  receiver : s.bank.holder r.dest = some (usdc, r.wallet)

variable {r : Withdrawal K} {q : InvestorPosition K}

/-- An instruction that the wallet neither signs nor pays for leaves its withdrawal ready. -/
lemma Ready.frame {i : Instruction K} (ready : r.Ready s usdc p project q) (frame : Frame s i s')
    (silent : r.wallet ∉ i.signers) (unspent : r.wallet ∉ i.spenders) :
    r.Ready s' usdc p project q where
  held := by
    rcases frame.positions with same | ⟨t, w, k, q', -, signs, place, -, wrote⟩
    · rw [same]
      exact ready.held
    · rw [wrote, Finmap.lookup_insert_of_ne]
      · exact ready.held
      · rw [place]
        intro e
        exact silent ((position_inj e).2 ▸ signs)
  pos := ready.pos
  tokens := frame.bank.holder ready.tokens
  enough := by
    refine ready.enough.trans ?_
    by_contra less
    exact unspent (frame.bank.debit ready.tokens (not_le.mp less))
  receiver := frame.bank.holder ready.receiver

end Withdrawal

/-! ## Other investors -/

/-- What may happen while the withdrawals `rs` are made: purchases by others, and the withdrawals. -/
inductive Interleaved (usdc p : K) (project : Project K) (rs : Set (Withdrawal K)) : Action K → Prop
  | buy {now a n} (other : ∀ r ∈ rs, a.investor ≠ r.wallet) :
    Interleaved usdc p project rs (.call now (.buyProjectTokens a n))
  | withdraw {now r} (mem : r ∈ rs) : Interleaved usdc p project rs (r.action usdc p project now)

/-- The project at `p` is for sale, with the mint and the vault of `project`. -/
def State.Selling (s : State K) (p : K) (project : Project K) : Prop :=
  ∃ project', s.projects.lookup p = some project' ∧ project'.status = .funding ∧
    project'.tokenMint = project.tokenMint ∧ project'.usdcVault = project.usdcVault

section
variable {rs : Set (Withdrawal K)} {x : Action K} {r : Withdrawal K} {q : InvestorPosition K}

omit [Addresses K] in
/-- Writing the tokens sold of any project keeps the project for sale. -/
lemma State.Selling.insert {s : State K} (selling : s.Selling p project) {k : K} {project₀ : Project K}
    (own : s.projects.lookup k = some project₀) (sold : U64)
    (wrote : s'.projects = s.projects.insert k { project₀ with tokensSold := sold }) :
    s'.Selling p project := by
  obtain ⟨project', own', selling⟩ := selling
  rw [State.Selling, wrote]
  by_cases e : p = k
  · subst e
    cases own.symm.trans own'
    exact ⟨_, Finmap.lookup_insert _, selling⟩
  · exact ⟨project', (Finmap.lookup_insert_of_ne _ e).trans own', selling⟩

/-- A project stays for sale. -/
lemma Interleaved.selling (between : Interleaved usdc p project rs x) (selling : s.Selling p project)
    (st : step s x = .ok s') : s'.Selling p project := by
  cases between with
  | buy =>
    obtain ⟨done, rfl⟩ := buyProjectTokens_ok.mp (step_call st).2
    exact selling.insert done.own done.sold rfl
  | withdraw =>
    obtain ⟨done, rfl⟩ := withdrawInvestment_ok.mp (step_call st).2
    exact selling.insert done.own done.sold rfl

/-- A withdrawal stays ready until it is made. -/
lemma Interleaved.ready (wf : s.Wf) (selling : s.Selling p project) (distinct : rs.InjOn Withdrawal.wallet)
    (between : Interleaved usdc p project rs x) (mem : r ∈ rs)
    (waits : ∀ now, x ≠ r.action usdc p project now) (ready : r.Ready s usdc p project q)
    (st : step s x = .ok s') : r.Ready s' usdc p project q := by
  cases between with
  | buy other =>
    have ne := (other r mem).symm
    exact ready.frame (step_frame wf st) (List.not_mem_cons_of_ne_of_not_mem ne List.not_mem_nil)
      (List.not_mem_cons_of_ne_of_not_mem ne List.not_mem_nil)
  | @withdraw now r' mem' =>
    have ne : r.wallet ≠ r'.wallet := by
      intro e
      cases distinct mem mem' e
      exact waits now rfl
    -- the project signs for its vault, and is no wallet
    have notProject : r.wallet ≠ p := by
      obtain ⟨project', own, -⟩ := selling
      have signs := (wf.view.placed ready.held).signs
      rw [(wf.position_of ready.held).2] at signs
      exact (wf.view.listed (State.listing_project own)).ne_key signs
    apply ready.frame (step_frame wf st) (List.not_mem_cons_of_ne_of_not_mem ne List.not_mem_nil)
    exact List.not_mem_cons_of_ne_of_not_mem ne
      (List.not_mem_cons_of_ne_of_not_mem notProject List.not_mem_nil)

/-- After purchases of others and withdrawals, the project is for sale, and who has not withdrawn yet still
can. -/
lemma Genesis.interleaved (g : Genesis K) {as cs : List (Action K)} (distinct : rs.InjOn Withdrawal.wallet)
    (selling : (g.run as).Selling p project) (between : ∀ x ∈ cs, Interleaved usdc p project rs x) :
    (g.run (as ++ cs)).Selling p project ∧ ∀ r q, r ∈ rs → r.Ready (g.run as) usdc p project q →
      (∀ now, r.action usdc p project now ∉ cs) → r.Ready (g.run (as ++ cs)) usdc p project q := by
  induction cs using List.reverseRecOn with
  | nil =>
    rw [List.append_nil]
    exact ⟨selling, fun _ _ _ ready _ => ready⟩
  | append_singleton cs x ih =>
    obtain ⟨selling', ready'⟩ := ih fun y mem => between y (List.mem_append_left _ mem)
    have last := between x (List.mem_append_right _ (.head _))
    rw [← List.append_assoc, Genesis.run_append]
    show State.Selling (Runs.next step (g.run (as ++ cs)) x) p project ∧ ∀ r q, r ∈ rs →
      r.Ready (g.run as) usdc p project q → (∀ now, r.action usdc p project now ∉ cs ++ [x]) →
        r.Ready (Runs.next step (g.run (as ++ cs)) x) usdc p project q
    have before : ∀ r q, r ∈ rs → r.Ready (g.run as) usdc p project q →
        (∀ now, r.action usdc p project now ∉ cs ++ [x]) → r.Ready (g.run (as ++ cs)) usdc p project q :=
      fun r q mem ready waits => ready' r q mem ready fun now done => waits now (List.mem_append_left _ done)
    cases st : step (g.run (as ++ cs)) x with
    | error e =>
      rw [Runs.next_error st]
      exact ⟨selling', before⟩
    | ok s' =>
      rw [Runs.next_ok st]
      refine ⟨last.selling selling' st, ?_⟩
      intro r q mem ready waits
      refine last.ready (g.run_wf _) selling' distinct mem ?_ (before r q mem ready waits) st
      rintro now rfl
      exact waits now (List.mem_append_right _ (.head _))

/-- None of these actions is a payout. -/
lemma Undrawn.interleaved {g : Genesis K} {as cs : List (Action K)} (undrawn : Undrawn p (g.history as))
    (between : ∀ x ∈ cs, Interleaved usdc p project rs x) : Undrawn p (g.history (as ++ cs)) := by
  intro x mem now a n act
  rw [Genesis.history_append] at mem
  rcases List.mem_append.mp mem with mem | mem
  · exact undrawn x mem now a n act
  · obtain ⟨bs, bs', rfl, -⟩ := Runs.mem_trace mem
    have last := between x.2 (List.mem_append_right _ (.head _))
    rw [act] at last
    cases last

/-- A ready withdrawal goes through, pays the tokens of the position, and leaves it without any. -/
theorem Genesis.withdraws (g : Genesis K) (as : List (Action K)) (selling : (g.run as).Selling p project)
    (vault : (g.run as).bank.holder project.usdcVault = some (usdc, p))
    (undrawn : Undrawn p (g.history as)) (ready : r.Ready (g.run as) usdc p project q) (now : Int64) :
    ∃ s', step (g.run as) (r.action usdc p project now) = .ok s' ∧
      Payment (g.run as).bank s'.bank project.usdcVault r.dest r.wallet q.tokensHeld.toNat ∧
      ∃ q', s'.positions.lookup (Client.position p r.wallet) = some q' ∧ q'.tokensHeld = 0 := by
  obtain ⟨project', own, funding, mint, place⟩ := selling
  have wf := g.run_wf as
  have accounts : Client.withdrawal usdc p project r.wallet r.source r.dest
      = Client.withdrawal usdc p project' r.wallet r.source r.dest := by
    rw [Client.withdrawal, Client.withdrawal, mint, place]
  rw [← place] at vault ⊢
  rw [Withdrawal.action, accounts]
  -- the vault has what was sold, and so the tokens of every position
  have entry := wf.holding_of ready.held
  have sold : q.tokensHeld.toNat ≤ project'.tokensSold.toNat :=
    (g.fund_sound as (State.fund_project own)).ledger.le_sold entry
  have books : (g.run as).bank.balance project'.usdcVault
      = project'.tokensSold.toNat + tally Event.deposits (.project p) (g.history as) :=
    (g.reaches as (State.fund_project own)).vault_funding rfl funding undrawn.payouts
  have covered : q.tokensHeld.toNat ≤ (g.run as).bank.balance project'.usdcVault :=
    sold.trans ((Nat.le_add_right _ _).trans_eq books.symm)
  obtain ⟨s', st⟩ := withdrawal_goes wf (g.places as) own vault funding ready.held ready.pos
    (mint ▸ ready.tokens) ready.enough ready.receiver sold covered now
  have h := (step_call st).2
  obtain ⟨q₀, held, -, -, paid⟩ := withdrawInvestment_payment wf (g.places as) h own
  cases ready.held.symm.trans held
  refine ⟨s', st, paid, ?_⟩
  obtain ⟨done, rfl⟩ := withdrawInvestment_ok.mp h
  exact ⟨_, Finmap.lookup_insert _, rfl⟩

end

/-- When no position has tokens, nothing is sold, and the vault has the deposits only. -/
lemma Genesis.all_withdrawn (g : Genesis K) (as : List (Action K))
    (own : (g.run as).projects.lookup p = some project) (funding : project.status = .funding)
    (undrawn : Undrawn p (g.history as))
    (none : ∀ k q, (g.run as).positions.lookup k = some q → q.target = p → q.tokensHeld = 0) :
    project.tokensSold = 0 ∧ (g.run as).bank.balance project.usdcVault
      = tally Event.deposits (.project p) (g.history as) := by
  have found := State.fund_project own
  have supply := (g.fund_sound as found).ledger.supply
  rw [Finmap.sum_eq_zero] at supply
  · have books : (g.run as).bank.balance project.usdcVault
        = project.tokensSold.toNat + tally Event.deposits (.project p) (g.history as) :=
      (g.reaches as found).vault_funding rfl funding undrawn.payouts
    have sold : project.tokensSold.toNat = 0 := supply.symm
    rw [sold, Nat.zero_add] at books
    exact ⟨BitVec.eq_of_toNat_eq sold, books⟩
  · intro k h own'
    obtain ⟨q, held, target, rfl⟩ := View.lookup_holdings own'
    exact congrArg BitVec.toNat (none k q held target)

/-- Refundability. In every reachable state in which a project is for sale and no payout was made of it:
withdrawals of any wallets that still have the tokens of their positions go through in any order and between
any purchases of others, each paying what the wallet bought since its last withdrawal; there is an account to
receive every refund; when all positions are withdrawn nothing is sold and the vault has the deposits only; and
a position is what its owner bought since the last withdrawal, as that of any wallet that bought as much. -/
theorem refundability (g : Genesis K) (as : List (Action K)) (p : K) (project : Project K)
    (own : (g.run as).projects.lookup p = some project) (funding : project.status = .funding)
    (undrawn : Undrawn p (g.history as)) :
    (∀ usdc (rs : Set (Withdrawal K)) cs, (g.run as).bank.holder project.usdcVault = some (usdc, p) →
      rs.InjOn Withdrawal.wallet → (∀ r ∈ rs, ∃ q, r.Ready (g.run as) usdc p project q) →
      (∀ x ∈ cs, Interleaved usdc p project rs x) →
        (g.run (as ++ cs)).Selling p project ∧ Undrawn p (g.history (as ++ cs)) ∧
          ∀ r ∈ rs, (∀ now, r.action usdc p project now ∉ cs) → ∀ now, ∃ s',
            step (g.run (as ++ cs)) (r.action usdc p project now) = .ok s' ∧
              Payment (g.run (as ++ cs)).bank s'.bank project.usdcVault r.dest r.wallet
                (boughtSince p r.wallet (g.history as)) ∧
              ∃ q', s'.positions.lookup (Client.position p r.wallet) = some q' ∧ q'.tokensHeld = 0) ∧
    (∃ usdc, (g.run as).bank.holder project.usdcVault = some (usdc, p) ∧
      ∀ k q, (g.run as).positions.lookup k = some q → q.target = p →
        ∃ dest, (g.run as).bank.holder dest = some (usdc, q.owner)) ∧
    ((∀ k q, (g.run as).positions.lookup k = some q → q.target = p → q.tokensHeld = 0) →
      project.tokensSold = 0 ∧ (g.run as).bank.balance project.usdcVault
        = tally Event.deposits (.project p) (g.history as)) ∧
    ∀ w q, (g.run as).positions.lookup (Client.position p w) = some q →
      (q.tokensHeld.toNat = boughtSince p w (g.history as) ∧ q.lastClaimedPerToken = 0 ∧
        q.totalClaimed = 0) ∧
      ∀ (g' : Genesis K) as' p' project' w' q', (g'.run as').projects.lookup p' = some project' →
        project'.status = .funding →
        (g'.run as').positions.lookup (Client.position p' w') = some q' →
        boughtSince p' w' (g'.history as') = boughtSince p w (g.history as) →
          q'.tokensHeld = q.tokensHeld ∧ q'.lastClaimedPerToken = q.lastClaimedPerToken ∧
            q'.totalClaimed = q.totalClaimed := by
  refine ⟨?_, ?_, g.all_withdrawn as own funding undrawn, ?_⟩
  · intro usdc rs cs vault distinct ready between
    -- the withdrawals before leave the one that waits as it was
    obtain ⟨selling, still⟩ := g.interleaved distinct ⟨project, own, funding, rfl, rfl⟩ between
    have undrawn' := undrawn.interleaved between
    refine ⟨selling, undrawn', ?_⟩
    intro r mem waits now
    obtain ⟨q, ready⟩ := ready r mem
    have vault' := g.holder_later as cs vault
    rw [← g.tokensHeld_eq as own ready.held]
    exact g.withdraws (as ++ cs) selling vault' undrawn' (still r q mem ready waits) now
  · obtain ⟨usdc, -, -, vault, -⟩ := ((g.run_wf as).view.listed (State.listing_project own)).vault
    exact ⟨usdc, vault, fun k q held target => g.refund_account as own vault held target⟩
  · intro w q held
    -- what a position holds is a function of what was bought since
    have position := g.funding_position as own funding held
    injection position with bought last claimed
    refine ⟨⟨bought, BitVec.eq_of_toNat_eq last, BitVec.eq_of_toNat_eq claimed⟩, ?_⟩
    intro g' as' p' project' w' q' own' funding' held' same
    have position' := g'.funding_position as' own' funding' held'
    rw [same, ← g.funding_position as own funding held] at position'
    injection position' with bought' last' claimed'
    exact ⟨BitVec.eq_of_toNat_eq bought', BitVec.eq_of_toNat_eq last', BitVec.eq_of_toNat_eq claimed'⟩

/-- Project 1 while it is for sale: 60 of its 100 tokens are sold to one investor and 30 to another. -/
def demoOffered : List (Action Addr) :=
  Client.demoSetup ++ Client.demo.openProject 1 100 12 (.wallet 20) (.wallet 30) ++ [
    .call 0 (Client.demo.buyProjectTokens 1 (.wallet 20) (.wallet 10) 60),
    .call 0 (Client.demo.buyProjectTokens 1 (.wallet 20) (.wallet 11) 30)]

/-- The withdrawal of a wallet from project 1, from and to its associated accounts. -/
def demoWithdrawal (wallet : Addr) : Withdrawal Addr :=
  ⟨wallet, .ata wallet (.wallet 20), Client.demo.usdcOf wallet⟩

/-- A withdrawal goes through after another one and a purchase. -/
theorem refundability_demo : ∃ project s',
    (Genesis.blank.run demoOffered).projects.lookup (Client.project 1) = some project ∧
      step (Genesis.blank.run (demoOffered ++ [
          (demoWithdrawal (.wallet 11)).action Client.demo.usdc (Client.project 1) project 0,
          .call 0 (Client.demo.buyProjectTokens 1 (.wallet 20) (.wallet 12) 25)]))
        ((demoWithdrawal (.wallet 10)).action Client.demo.usdc (Client.project 1) project 0) = .ok s' ∧
      ∃ q', s'.positions.lookup (Client.position (Client.project 1) (.wallet 10)) = some q' ∧
        q'.tokensHeld = 0 := by
  have found : ((Genesis.blank.run demoOffered).projects.lookup (Client.project 1)).map
      (fun project => (project.status, project.tokenMint, project.usdcVault))
        = some (.funding, .wallet 20, Client.demo.usdcOf (Client.project 1)) := by decide +kernel
  have vault : (Genesis.blank.run demoOffered).bank.holder (Client.demo.usdcOf (Client.project 1))
      = some (Client.demo.usdc, Client.project 1) := by decide +kernel
  have none : ∀ x ∈ demoOffered, x.draws = false := by decide +kernel
  have held : ∀ w ∈ [Addr.wallet 10, Addr.wallet 11], ((Genesis.blank.run demoOffered).positions.lookup
      (Client.position (Client.project 1) w)).map (fun q => decide (0 < q.tokensHeld.toNat ∧
        q.tokensHeld.toNat ≤ (Genesis.blank.run demoOffered).bank.balance (.ata w (.wallet 20))))
          = some true := by decide +kernel
  have tokens : ∀ w ∈ [Addr.wallet 10, Addr.wallet 11], (Genesis.blank.run demoOffered).bank.holder
      (.ata w (.wallet 20)) = some (.wallet 20, w) := by decide +kernel
  have receiver : ∀ w ∈ [Addr.wallet 10, Addr.wallet 11], (Genesis.blank.run demoOffered).bank.holder
      (Client.demo.usdcOf w) = some (Client.demo.usdc, w) := by decide +kernel
  generalize demoOffered = as at found vault none held tokens receiver ⊢
  obtain ⟨project, own, e⟩ := Option.map_eq_some_iff.mp found
  injection e with funding e
  injection e with mint place
  have undrawn : Undrawn (Client.project 1) (Genesis.blank.history as) := by
    refine .of_quiet fun x mem => ?_
    obtain ⟨bs, cs, rfl, -⟩ := Genesis.mem_history mem
    exact none x.2 (List.mem_append_right _ (.head _))
  have ready : ∀ w ∈ [Addr.wallet 10, Addr.wallet 11], ∃ q, (demoWithdrawal w).Ready (Genesis.blank.run as)
      Client.demo.usdc (Client.project 1) project q := by
    intro w mem
    obtain ⟨q, position, enough⟩ := Option.map_eq_some_iff.mp (held w mem)
    obtain ⟨pos, enough⟩ := of_decide_eq_true enough
    exact ⟨q, position, pos, (tokens w mem).trans (mint ▸ rfl), enough, receiver w mem⟩
  have distinct : (demoWithdrawal '' {w | w ∈ [Addr.wallet 10, Addr.wallet 11]}).InjOn
      Withdrawal.wallet := by
    rintro _ ⟨w, -, rfl⟩ _ ⟨w', -, rfl⟩ e
    exact congrArg demoWithdrawal e
  have ready' : ∀ r ∈ demoWithdrawal '' {w | w ∈ [Addr.wallet 10, Addr.wallet 11]},
      ∃ q, r.Ready (Genesis.blank.run as) Client.demo.usdc (Client.project 1) project q := by
    rintro _ ⟨w, mem, rfl⟩
    exact ready w mem
  have between : ∀ x ∈ [(demoWithdrawal (.wallet 11)).action Client.demo.usdc (Client.project 1) project 0,
      .call 0 (Client.demo.buyProjectTokens 1 (.wallet 20) (.wallet 12) 25)],
      Interleaved Client.demo.usdc (Client.project 1) project
        (demoWithdrawal '' {w | w ∈ [Addr.wallet 10, Addr.wallet 11]}) x := by
    intro x mem
    rcases List.mem_cons.mp mem with rfl | mem
    · exact .withdraw ⟨_, .tail _ (.head _), rfl⟩
    · cases List.mem_singleton.mp mem
      refine .buy ?_
      rintro _ ⟨w, mem, rfl⟩ e
      cases e
      exact absurd mem (by decide)
  have waits : ∀ now, (demoWithdrawal (.wallet 10)).action Client.demo.usdc (Client.project 1) project now ∉
      [(demoWithdrawal (.wallet 11)).action Client.demo.usdc (Client.project 1) project 0,
        .call 0 (Client.demo.buyProjectTokens 1 (.wallet 20) (.wallet 12) 25)] := by
    intro now mem
    rcases List.mem_cons.mp mem with e | mem
    · cases e
    · cases List.mem_singleton.mp mem
  have pays := (refundability Genesis.blank as _ project own funding undrawn).1 Client.demo.usdc
    (demoWithdrawal '' {w | w ∈ [Addr.wallet 10, Addr.wallet 11]})
    [(demoWithdrawal (.wallet 11)).action Client.demo.usdc (Client.project 1) project 0,
      .call 0 (Client.demo.buyProjectTokens 1 (.wallet 20) (.wallet 12) 25)]
    (place ▸ vault) distinct ready' between
  obtain ⟨s', st, -, q', position, zero⟩ :=
    pays.2.2 (demoWithdrawal (.wallet 10)) ⟨_, .head _, rfl⟩ waits 0
  exact ⟨project, s', own, st, q', position, zero⟩

end Exira
