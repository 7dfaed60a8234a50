import Exira.Access.Answers

/-!
# Noninterference of targets

A run and the same run without the instructions about one target: every other target pays its holders the same in
both. The two runs are equal until the first such instruction, and mirror each other from then on.
-/

namespace Exira

open Dividend

variable {K : Type} [DecidableEq K] [Addresses K] {g : Genesis K} {c : Client K} {p q t : Target K}
  {s s' u u' : State K} {x : Action K}

/-! ## Payouts -/

/-- The holder that a claim or a withdrawal pays, and the account that it names for it. -/
def Action.payee : Action K → Option (K × K)
  | .call _ (.claimProjectReturns a) => some (a.investor, a.investorUsdcAta)
  | .call _ (.claimPoolReturns a) => some (a.investor, a.investorUsdcAta)
  | .call _ (.withdrawInvestment a) => some (a.investor, a.investorUsdcAta)
  | _ => none

/-- What the holder receives in an attempt, if it is one to be paid. -/
def State.payout (s : State K) (x : Action K) : Option (K × ℤ) :=
  x.payee.map fun (w, k) => (w, (Runs.next step s x).bank.balance k - s.bank.balance k)

/-- The attempts at instructions about a target. -/
def State.attemptsOn (s : State K) (t : Target K) (as : List (Action K)) : List (State K × Action K) :=
  Runs.attemptsAt step (fun x => decide (x.target = some t)) s as

/-- What the holders of a target receive in a run, attempt by attempt. -/
def State.payouts (s : State K) (t : Target K) (as : List (Action K)) : List (K × ℤ) :=
  (s.attemptsOn t as).filterMap fun x => x.1.payout x.2

/-- The payout of a step is what its payee gets. -/
lemma State.payout_eq {w k : K} {n : ℕ} (payee : x.payee = some (w, k)) (st : step s x = .ok u)
    (received : u.bank.balance k = s.bank.balance k + n) : s.payout x = some (w, (n : ℤ)) := by
  rw [State.payout, payee, Runs.next_ok st]
  simp only [Option.map_some, received]
  push_cast
  ring_nf

/-- An attempt that fails pays nothing. -/
lemma State.payout_error {e : Error} (st : step s x = .error e) :
    s.payout x = x.payee.map fun h => (h.1, 0) := by
  rw [State.payout, Runs.next_error st]
  simp only [sub_self]

omit [Addresses K] in
/-- What is owed to a position is the same where the target is. -/
lemma SameOn.owedAt {l : Listing K} (same : SameOn t s s') (own : s.view.listing t = some l) {k : K}
    {q : InvestorPosition K} (held : s.positions.lookup k = some q) (target : q.target = t.key) :
    s'.owedAt t k = s.owedAt t k := by
  obtain ⟨q', held', -, counters⟩ := same.holding own held target
  simp only [State.owedAt, same.listing.trans own, own, held', held, counters]

/-- A claim pays what is owed. -/
lemma Claim.payout {l : Listing K} {k w dest : K} {q q' : InvestorPosition K} {n : U64} {b₀ b₁ : Token.Bank K}
    (wf : s.Wf) (own : s.view.listing t = some l) (claim : Claim s t l k w dest q q' n b₀ b₁) {cumulative : U128}
    (index : cumulative.toNat = l.index) (payee : x.payee = some (w, dest)) (st : step s x = .ok u)
    (bank : u.bank = b₁) : s.payout x = some (w, (s.owedAt t k : ℤ)) := by
  have paid := (claim.payment wf own index).received
  apply State.payout_eq payee st
  rw [bank, paid]
  simp only [State.owedAt, own, claim.held, ← index]
  rfl

/-- A step pays the same on both sides. -/
lemma Mirrored.payout (m : Mirrored g c t s s') (on : x.target = some t) (st : step s x = .ok u)
    (st' : step s' x = .ok u') : s'.payout x = s.payout x := by
  cases x with
  | outside => cases on
  | call now i =>
    have h := (step_call st).2
    have h' := (step_call st').2
    cases i with
    | claimProjectReturns a =>
      cases on
      obtain ⟨project, q, _, _, _, _, own, claim, rfl⟩ := claimProjectReturns_inv m.wf h
      obtain ⟨project', q', _, _, _, _, own', claim', rfl⟩ := claimProjectReturns_inv m.symm.wf h'
      have listed := State.listing_project own
      rw [claim.payout m.wf listed rfl rfl st rfl,
        claim'.payout m.symm.wf (State.listing_project own') rfl rfl st' rfl,
        m.same.owedAt listed claim.held claim.placed.target]
    | claimPoolReturns a =>
      cases on
      obtain ⟨pool, q, _, _, _, _, own, claim, rfl⟩ := claimPoolReturns_inv m.wf h
      obtain ⟨pool', q', _, _, _, _, own', claim', rfl⟩ := claimPoolReturns_inv m.symm.wf h'
      have listed := State.listing_pool own
      rw [claim.payout m.wf listed rfl rfl st rfl,
        claim'.payout m.symm.wf (State.listing_pool own') rfl rfl st' rfl,
        m.same.owedAt listed claim.held claim.placed.target]
    | withdrawInvestment a =>
      cases on
      obtain ⟨done, -⟩ := withdrawInvestment_ok.mp h
      have listed := State.listing_project done.own
      obtain ⟨project', own', -⟩ := m.project done.own
      obtain ⟨q, held, -, of, paid⟩ := withdrawInvestment_payment m.wf (m.standing listed).places h done.own
      obtain ⟨q', held', -, -, paid'⟩ :=
        withdrawInvestment_payment m.symm.wf (m.standing' listed).places h' own'
      obtain ⟨q₁, same, -, counters⟩ := m.same.holding listed held of
      cases same.symm.trans held'
      rw [State.payout_eq rfl st paid.received, State.payout_eq rfl st' paid'.received]
      exact congrArg (fun n : ℕ => some (a.investor, (n : ℤ))) (congrArg Holding.held counters)
    | _ => rfl

/-! ## What other actions keep -/

/-- What an action does not do to a target: it is about another, about none, or a link. -/
lemma SameOn.next (wf : s.Wf) (off : x.target ≠ some t ∨ x.links = true) : SameOn t s (Runs.next step s x) := by
  cases st : step s x with
  | ok u =>
    rw [Runs.next_ok st]
    rcases off with off | links
    · exact .aside wf st off
    · exact .link wf st links
  | error e =>
    rw [Runs.next_error st]
    exact .refl t s

/-- The files stay as they are under a step that files nothing. -/
lemma Registry.SameFiles.next (quiet : x.target ≠ none ∨ x.files = false) :
    s.registry.SameFiles (Runs.next step s x).registry := by
  cases st : step s x with
  | ok u =>
    rw [Runs.next_ok st]
    exact (step_files st).sameFiles quiet
  | error e =>
    rw [Runs.next_error st]
    exact ⟨rfl, rfl, rfl, rfl⟩

/-- A target that an instruction is about is at an address of its layer. -/
lemma step_seeded (wf : s.Wf) (st : step s x = .ok u) (on : x.target = some t) : t.Seeded := by
  obtain ⟨l, own⟩ := step_lists wf st on
  exact ((wf.step st).view.listed own).seeded

/-- An instruction that is not about a target, or that links it, leaves its vault alone where it is. -/
lemma State.next_vault (wf : s.Wf) {now : Int64} {i : Instruction K}
    (off : i.target ≠ some t ∨ (Action.call now i).links = true) (place : t.Seeded) (m : K) :
    (Runs.next step s (.call now i)).bank.holder (associatedToken t.key m)
      = s.bank.holder (associatedToken t.key m) := by
  cases st : step s (.call now i) with
  | error e => rw [Runs.next_error st]
  | ok u =>
    rw [Runs.next_ok st]
    rcases off with off | links
    · refine step_associated wf st ?_ fun t' on same => ?_
      · obtain ⟨σ, key, -⟩ := place
        rw [key]
        exact Addresses.not_canSign_program σ _
      · cases place.key_inj (step_seeded wf st on) same
        exact off on
    · cases i with
      | addProjectToPool =>
        obtain ⟨done, rfl⟩ := addProjectToPool_ok.mp (step_call st).2
        rfl
      | _ => cases links

/-- An instruction about a target succeeds only where the platform is. -/
lemma Genesis.target_deployed (g : Genesis K) (as : List (Action K)) (on : x.target = some t)
    (st : step (g.run as) x = .ok u) :
    ∃ platform, (g.run as).platforms.lookup Client.platform = some platform := by
  cases creates : x.creates with
  | false =>
    obtain ⟨l, own⟩ := step_listed (g.run_wf as) st on creates
    obtain ⟨platform, deployed, -⟩ := g.vault_usdc as own
    exact ⟨platform, deployed⟩
  | true =>
    cases x with
    | outside => cases creates
    | call now i =>
      have governs : i.governs = true := by
        cases i with
        | createProject | createPool => rfl
        | _ => cases creates
      obtain ⟨_, _, platform, -, loaded⟩ := (handle_effects (step_call st).2).admin governs
      exact ⟨platform, ((g.run_wf as).side.platform loaded).2.1⟩

/-! ## The two runs -/

namespace Mirrored

/-- Every state mirrors itself, once the platform is there. -/
lemma refl (g : Genesis K) (as : List (Action K)) (t : Target K) {platform : Platform K}
    (own : (g.run as).platforms.lookup Client.platform = some platform) :
    Mirrored g platform.client t (g.run as) (g.run as) where
  left := ⟨as, rfl⟩
  right := ⟨as, rfl⟩
  platforms := ⟨platform, platform, g.deployed as own, g.deployed as own, rfl⟩
  files := ⟨rfl, rfl, rfl, rfl⟩
  same := .refl t _
  vault := fun _ => rfl

/-- One run makes an instruction about another target, the other does not. -/
lemma drop (m : Mirrored g c t s s') (about : x.target = some p) (ne : p ≠ t) :
    Mirrored g c t (Runs.next step s x) s' := by
  have off : x.target ≠ some t := fun on => ne (Option.some.inj (about.symm.trans on))
  have some : x.target ≠ none := about ▸ Option.some_ne_none p
  refine m.later [x] [] ((Registry.SameFiles.next (.inl some)).symm.trans m.files)
    ((SameOn.next m.wf (.inl off)).symm.trans m.same) fun _ place => ?_
  cases x with
  | outside => cases about
  | call now i => exact (m.vault place).trans (State.next_vault m.wf (.inl off) place c.usdc).symm

/-- An outside operation opens the vault in both runs, or in neither. -/
lemma outside_vault (m : Mirrored g c t s s') (place : t.Seeded) (o : Outside K) :
    (Runs.next step s' (.outside o)).bank.holder (c.usdcOf t.key)
      = (Runs.next step s (.outside o)).bank.holder (c.usdcOf t.key) := by
  by_cases opens : o = .createAssociatedToken t.key c.usdc
  · obtain ⟨mint, exist⟩ := m.usdc
    obtain ⟨mint', exist'⟩ := m.symm.usdc
    obtain ⟨as, rfl⟩ := m.left
    obtain ⟨as', rfl⟩ := m.right
    rw [opens, Client.usdcOf, g.opens_associated as exist, g.opens_associated as' exist']
  · rw [Client.usdcOf, State.next_associated opens, State.next_associated opens]
    exact m.vault place

/-- An action that is not about the target, or that links it, opens the vault in both runs, or in neither. -/
lemma next_vault (m : Mirrored g c t s s') (off : x.target ≠ some t ∨ x.links = true) (place : t.Seeded) :
    (Runs.next step s' x).bank.holder (c.usdcOf t.key) = (Runs.next step s x).bank.holder (c.usdcOf t.key) := by
  cases x with
  | outside o => exact m.outside_vault place o
  | call now i =>
    calc (Runs.next step s' (.call now i)).bank.holder (c.usdcOf t.key)
        = s'.bank.holder (c.usdcOf t.key) := State.next_vault m.symm.wf off place c.usdc
      _ = s.bank.holder (c.usdcOf t.key) := m.vault place
      _ = (Runs.next step s (.call now i)).bank.holder (c.usdcOf t.key) :=
        (State.next_vault m.wf off place c.usdc).symm

/-- Both runs make an action that keeps the target, and file the same. -/
lemma both (m : Mirrored g c t s s') (off : x.target ≠ some t ∨ x.links = true)
    (files : (Runs.next step s x).registry.SameFiles (Runs.next step s' x).registry) :
    Mirrored g c t (Runs.next step s x) (Runs.next step s' x) :=
  m.later [x] [x] files (((SameOn.next m.wf off).symm.trans m.same).trans (SameOn.next m.symm.wf off))
    fun _ => m.next_vault off

/-- What files nothing keeps the registries the same. -/
lemma quiet (m : Mirrored g c t s s') (files : x.target ≠ none ∨ x.files = false) :
    (Runs.next step s x).registry.SameFiles (Runs.next step s' x).registry :=
  ((Registry.SameFiles.next files).symm.trans m.files).trans (.next files)

/-- Both runs make an action that is not about the target. -/
lemma aside (m : Mirrored g c t s s') (off : x.target ≠ some t) :
    Mirrored g c t (Runs.next step s x) (Runs.next step s' x) := by
  apply m.both (.inl off)
  by_cases files : x.target ≠ none ∨ x.files = false
  · exact m.quiet files
  · rw [not_or, ne_eq, not_not, Bool.not_eq_false] at files
    obtain ⟨outer, files⟩ := files
    cases st : step s x with
    | ok u =>
      obtain ⟨u', st', same⟩ := m.registers outer files st
      rw [Runs.next_ok st, Runs.next_ok st']
      exact same
    | error e =>
      cases st' : step s' x with
      | ok u' =>
        obtain ⟨u, st₁, -⟩ := m.symm.registers outer files st'
        cases st.symm.trans st₁
      | error e' =>
        rw [Runs.next_error st, Runs.next_error st']
        exact m.files

end Mirrored

/-- An attempt that succeeds. -/
def Succeeds (x : State K × Action K) : Prop :=
  ∃ u, step x.1 x.2 = .ok u

/-- What succeeds in one of two attempts is provided for in the other. -/
def Matched (x y : State K × Action K) : Prop :=
  (Succeeds x → Provided y) ∧ (Succeeds y → Provided x)

/-- Both runs make an instruction about the target: it pays the same in both. -/
lemma Mirrored.answer (m : Mirrored g c t s s') (on : x.target = some t) (given : Matched (s, x) (s', x)) :
    s'.payout x = s.payout x ∧ Mirrored g c t (Runs.next step s x) (Runs.next step s' x) := by
  have files := m.quiet (x := x) (.inl (on ▸ Option.some_ne_none t))
  cases links : x.links with
  | true =>
    refine ⟨?_, m.both (.inr links) files⟩
    cases x with
    | outside => cases links
    | call now i => cases i <;> first | rfl | cases links
  | false =>
    cases st : step s x with
    | ok u =>
      obtain ⟨u', st', same⟩ := m.answers on links st (given.1 ⟨u, st⟩)
      refine ⟨m.payout on st st', ?_⟩
      rw [Runs.next_ok st, Runs.next_ok st'] at files ⊢
      have run : u = Runs.run step s [x] := (Runs.next_ok st).symm
      have run' : u' = Runs.run step s' [x] := (Runs.next_ok st').symm
      obtain ⟨l, listed⟩ := step_lists m.wf st on
      subst run run'
      exact m.later [x] [x] files same fun free => by cases free.symm.trans listed
    | error e =>
      cases st' : step s' x with
      | ok u' =>
        obtain ⟨u, st₁, -⟩ := m.symm.answers on links st' (given.2 ⟨u', st'⟩)
        cases st.symm.trans st₁
      | error e' =>
        rw [State.payout_error st, State.payout_error st', Runs.next_error st, Runs.next_error st']
        exact ⟨rfl, m⟩

/-- The two runs: equal until the first instruction that one of them leaves out, and mirrored from then on. -/
def Alike (g : Genesis K) (t : Target K) (s s' : State K) : Prop :=
  (∃ as, s = g.run as ∧ s' = s) ∨ ∃ c, Mirrored g c t s s'

/-- A step about another target is dropped. -/
lemma Alike.drop (alike : Alike g t s s') (about : x.target = some p) (ne : p ≠ t) :
    Alike g t (Runs.next step s x) s' := by
  rcases alike with ⟨as, rfl, rfl⟩ | ⟨c, m⟩
  · cases st : step (g.run as) x with
    | ok u =>
      obtain ⟨platform, own⟩ := g.target_deployed as about st
      exact .inr ⟨platform.client, (Mirrored.refl g as t own).drop about ne⟩
    | error e =>
      rw [Runs.next_error st]
      exact .inl ⟨as, rfl, rfl⟩
  · exact .inr ⟨c, m.drop about ne⟩

/-- A step off the target is taken on both sides. -/
lemma Alike.aside (alike : Alike g t s s') (off : x.target ≠ some t) :
    Alike g t (Runs.next step s x) (Runs.next step s' x) := by
  rcases alike with ⟨as, rfl, rfl⟩ | ⟨c, m⟩
  · exact .inl ⟨as ++ [x], (g.run_append as [x]).symm, rfl⟩
  · exact .inr ⟨c, m.aside off⟩

/-- A step on the target pays the same on both sides. -/
lemma Alike.answer (alike : Alike g t s s') (on : x.target = some t) (given : Matched (s, x) (s', x)) :
    s'.payout x = s.payout x ∧ Alike g t (Runs.next step s x) (Runs.next step s' x) := by
  rcases alike with ⟨as, rfl, rfl⟩ | ⟨c, m⟩
  · exact ⟨rfl, .inl ⟨as ++ [x], (g.run_append as [x]).symm, rfl⟩⟩
  · obtain ⟨pays, m'⟩ := m.answer on given
    exact ⟨pays, .inr ⟨c, m'⟩⟩

/-- The run without the instructions about a target. -/
def without (p : Target K) (as : List (Action K)) : List (Action K) :=
  as.filter fun x => decide (x.target ≠ some p)

/-- The holders of a target are paid the same in a run and in the same run without the instructions about another
target, where each run provides for the instructions about the target that succeed in the other. -/
theorem payouts_without (g : Genesis K) (as bs : List (Action K)) (ne : p ≠ q)
    (given : List.Forall₂ Matched ((g.run as).attemptsOn q bs) ((g.run as).attemptsOn q (without p bs))) :
    (g.run as).payouts q (without p bs) = (g.run as).payouts q bs := by
  have answers : List.Forall₂ (fun x y => y.1.payout y.2 = x.1.payout x.2) ((g.run as).attemptsOn q bs)
      ((g.run as).attemptsOn q (without p bs)) := by
    refine Runs.purge (I := Alike g q) (F := Matched) ?kept ?dropped ?unseen ?answer bs (.inl ⟨as, rfl, rfl⟩) given
    case kept =>
      intro x seen
      rw [decide_eq_true_eq] at seen ⊢
      rw [seen]
      exact fun same => ne (Option.some.inj same).symm
    case dropped =>
      intro s s' x alike drops
      rw [decide_eq_false_iff_not, not_not] at drops
      exact alike.drop drops ne
    case unseen =>
      intro s s' x alike _ hidden
      exact alike.aside (decide_eq_false_iff_not.mp hidden)
    case answer =>
      intro s s' x alike seen given
      exact alike.answer (decide_eq_true_eq.mp seen) given
  unfold State.payouts
  generalize (g.run as).attemptsOn q bs = xs at answers
  generalize (g.run as).attemptsOn q (without p bs) = ys at answers
  induction answers with
  | nil => rfl
  | cons same _ ih => rw [List.filterMap_cons, List.filterMap_cons, same, ih]

/-- Two runs that provide for all instructions about a target provide for what succeeds in the other. -/
lemma matched_of_provided {bs : List (Action K)} (ne : p ≠ q) (left : ∀ x ∈ s.attemptsOn q bs, Provided x)
    (right : ∀ y ∈ s'.attemptsOn q (without p bs), Provided y) :
    List.Forall₂ Matched (s.attemptsOn q bs) (s'.attemptsOn q (without p bs)) := by
  rw [List.forall₂_iff_zip]
  constructor
  · rw [State.attemptsOn, State.attemptsOn, Runs.length_attemptsAt, Runs.length_attemptsAt, without,
      List.countP_filter]
    refine List.countP_congr fun x _ => ?_
    simp only [Bool.and_eq_true, decide_eq_true_eq]
    exact ⟨fun on => ⟨on, fun about => ne (Option.some.inj (about.symm.trans on))⟩, And.left⟩
  · intro x y mem
    obtain ⟨memx, memy⟩ := List.of_mem_zip mem
    exact ⟨fun _ => right y memy, fun _ => left x memx⟩

/-! ## Isolation -/

/-- Isolation of targets. In every reachable state, whatever accounts a successful instruction about one target was
passed, every other target is untouched. And from then on, in any run, the holders of the other target are paid the
same as without the instructions about the first, where each of the two runs provides for what succeeds in the
other. -/
theorem isolation (g : Genesis K) (as : List (Action K)) (p q : Target K) (ne : p ≠ q) :
    (∀ l, (g.run as).view.listing q = some l → ∀ now i s', i.target = some p →
      step (g.run as) (.call now i) = .ok s' → Untouched q l (g.run as) s') ∧
    ∀ bs, List.Forall₂ Matched ((g.run as).attemptsOn q bs) ((g.run as).attemptsOn q (without p bs)) →
      (g.run as).payouts q (without p bs) = (g.run as).payouts q bs := by
  refine ⟨?_, fun bs given => payouts_without g as bs ne given⟩
  intro l own now i s' about st
  exact step_untouched (g.run_wf as) st own fun on => ne (Option.some.inj (about.symm.trans on))

/-- Two pools with a holder in common. -/
def demoPools : List (Action Addr) :=
  Client.demoPool ++ [
    .call 0 (Client.demo.createPool 2 1000 (.wallet 22)),
    Client.demoBuy (.wallet 10) 4,
    .call 0 (Client.demo.buyPoolTokens 2 (.wallet 22) (.wallet 10) 3)]

/-- Both pools distribute, and the holder claims from both. -/
def demoReturns : List (Action Addr) := [
  Client.demoDistribute 5,
  .call 0 (Client.demo.distributePoolReturns 2 6),
  Client.demoClaim (.wallet 10),
  .call 0 (Client.claimPool Client.demo.usdc (Client.pool 2) (Client.demo.usdcOf (Client.pool 2)) (.wallet 10))]

/-- The second pool does not see what the first one does. -/
theorem isolation_demo : (∃ l s', step (Genesis.blank.run demoPools) (Client.demoDistribute 5) = .ok s' ∧
      Untouched (.pool (Client.pool 2)) l (Genesis.blank.run demoPools) s') ∧
    (Genesis.blank.run []).payouts (.pool (Client.pool 2))
      (without (.pool (Client.pool 1)) (demoPools ++ demoReturns))
      = [(.wallet 10, 6)] := by
  have ne : (Target.pool (Client.pool 1) : Target Addr) ≠ .pool (Client.pool 2) := by decide
  have done : (Genesis.blank.run demoPools).errorOf (Client.demoDistribute 5) = none := by decide +kernel
  have open₂ : ((Genesis.blank.run demoPools).view.listing (.pool (Client.pool 2))).isSome = true := by
    decide +kernel
  have provided : ∀ x ∈ (Genesis.blank.run []).attemptsOn (.pool (Client.pool 2)) (demoPools ++ demoReturns),
      Provided x := by decide +kernel
  have provided' : ∀ x ∈ (Genesis.blank.run []).attemptsOn (.pool (Client.pool 2))
      (without (.pool (Client.pool 1)) (demoPools ++ demoReturns)), Provided x := by decide +kernel
  have paid : (Genesis.blank.run []).payouts (.pool (Client.pool 2)) (demoPools ++ demoReturns)
      = [(.wallet 10, 6)] := by decide +kernel
  obtain ⟨s', st⟩ := State.errorOf_eq_none.mp done
  obtain ⟨l, own⟩ := Option.isSome_iff_exists.mp open₂
  refine ⟨⟨l, s', st, (isolation Genesis.blank demoPools _ _ ne).1 l own 0 _ s' rfl st⟩, ?_⟩
  rw [(isolation Genesis.blank [] _ _ ne).2 _ (matched_of_provided ne provided provided'), paid]

/-- Wallet 13 pays from another account than its associated one, which only its claim on the pool makes. -/
def demoRefund : List (Action Addr) :=
  Client.demoSetup ++ Client.demo.openProject 1 100 12 (.wallet 20) (.wallet 30) ++ [
    .call 0 (Client.demo.createPool 1 1000 (.wallet 21)),
    .outside (.createAccount (.wallet 43) Client.demo.usdc (.wallet 13)),
    .outside (.mintTo Client.demo.usdc (.wallet 43) (.wallet 3) 1000),
    .call 0 (.buyProjectTokens ⟨Client.project 1, .wallet 20, Client.demo.usdcOf (Client.project 1), .wallet 13,
      .wallet 43, .ata (.wallet 13) (.wallet 20), Client.position (Client.project 1) (.wallet 13),
      Client.demo.usdc⟩ 60),
    .call 0 (.buyPoolTokens ⟨Client.pool 1, .wallet 21, Client.demo.usdcOf (Client.pool 1), .wallet 13,
      .wallet 43, .ata (.wallet 13) (.wallet 21), Client.position (Client.pool 1) (.wallet 13),
      Client.demo.usdc⟩ 10),
    Client.demoDistribute 10,
    Client.demoClaim (.wallet 13),
    .call 0 (Client.demo.withdrawInvestment 1 (.wallet 20) (.wallet 13))]

/-- Two pools that are to have the same mint. -/
def demoSameMint : List (Action Addr) :=
  Client.demoPool ++ [
    .call 0 (Client.demo.createPool 2 1000 (.wallet 21)),
    .outside (.createAssociatedToken (Client.pool 2) Client.demo.usdc),
    .call 0 (Client.demo.buyPoolTokens 2 (.wallet 21) (.wallet 10) 10),
    .call 0 (Client.demo.distributePoolReturns 2 5),
    .call 0 (Client.claimPool Client.demo.usdc (Client.pool 2) (Client.demo.usdcOf (Client.pool 2)) (.wallet 10))]

/-- Balances alone are not enough: a refund goes to an account that a claim on another target makes, and a mint is
at a key where another target may have its own. -/
theorem payouts_interfere :
    (¬ ∀ (g : Genesis Addr) as p q, p ≠ q → (∀ x ∈ (g.run []).attemptsOn q as, Afforded x) →
      (∀ x ∈ (g.run []).attemptsOn q (without p as), Afforded x) →
      (g.run []).payouts q (without p as) = (g.run []).payouts q as) ∧
    ¬ ∀ (g : Genesis Addr) as p q, p ≠ q → (∀ x ∈ (g.run []).attemptsOn q as, Afforded x ∧ Received x) →
      (∀ x ∈ (g.run []).attemptsOn q (without p as), Afforded x ∧ Received x) →
      (g.run []).payouts q (without p as) = (g.run []).payouts q as := by
  constructor
  · intro all
    have same := all Genesis.blank demoRefund (.pool (Client.pool 1)) (.project (Client.project 1)) (by decide)
      (by decide +kernel) (by decide +kernel)
    exact absurd same (by decide +kernel)
  · intro all
    have same := all Genesis.blank demoSameMint (.pool (Client.pool 1)) (.pool (Client.pool 2)) (by decide)
      (by decide +kernel) (by decide +kernel)
    exact absurd same (by decide +kernel)

end Exira
