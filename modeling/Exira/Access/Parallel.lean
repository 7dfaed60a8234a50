import Exira.Access.Observed

/-!
# Instructions that can be exchanged

The runtime executes instructions in parallel when none writes an account that another names. Here that is a
theorem about the program: an action looks at the accounts passed to it and at no other (`step_same` for the
observer of these), and changes only those that its struct marks `mut` or `init` (`step_writes`), so that two
actions neither of which writes an account of the other can be exchanged in any run.
-/

namespace Exira

open Except

variable {K : Type} [DecidableEq K] [Addresses K] {s s' t : State K} {L : Set K} {k : K}

/-! ## Cells -/

/-- All that the chain has at one address. -/
structure Cell (K : Type) where
  platform : Option (Platform K)
  project : Option (Project K)
  pool : Option (Pool K)
  link : Option (PoolProjectLink K)
  position : Option (InvestorPosition K)
  mrvProject : Option MrvProject
  baseline : Option (Baseline K)
  verification : Option (Verification K)
  auditor : Option (Auditor K)
  mint : Option (Token.Mint K)
  account : Option (Token.Account K)

def State.cell (s : State K) (k : K) : Cell K where
  platform := s.platforms.lookup k
  project := s.projects.lookup k
  pool := s.pools.lookup k
  link := s.links.lookup k
  position := s.positions.lookup k
  mrvProject := s.mrvProjects.lookup k
  baseline := s.baselines.lookup k
  verification := s.verifications.lookup k
  auditor := s.auditors.lookup k
  mint := s.bank.mints.lookup k
  account := s.bank.accounts.lookup k

omit [Addresses K] in
/-- A state is known from its cells. -/
lemma State.ext_cell (same : ∀ k, s.cell k = t.cell k) : s = t := by
  have platforms : s.platforms = t.platforms := Finmap.ext_lookup fun k => congrArg Cell.platform (same k)
  have projects : s.projects = t.projects := Finmap.ext_lookup fun k => congrArg Cell.project (same k)
  have pools : s.pools = t.pools := Finmap.ext_lookup fun k => congrArg Cell.pool (same k)
  have links : s.links = t.links := Finmap.ext_lookup fun k => congrArg Cell.link (same k)
  have positions : s.positions = t.positions := Finmap.ext_lookup fun k => congrArg Cell.position (same k)
  have mrv : s.mrvProjects = t.mrvProjects := Finmap.ext_lookup fun k => congrArg Cell.mrvProject (same k)
  have baselines : s.baselines = t.baselines := Finmap.ext_lookup fun k => congrArg Cell.baseline (same k)
  have reports : s.verifications = t.verifications :=
    Finmap.ext_lookup fun k => congrArg Cell.verification (same k)
  have auditors : s.auditors = t.auditors := Finmap.ext_lookup fun k => congrArg Cell.auditor (same k)
  have mints : s.bank.mints = t.bank.mints := Finmap.ext_lookup fun k => congrArg Cell.mint (same k)
  have accounts : s.bank.accounts = t.bank.accounts := Finmap.ext_lookup fun k => congrArg Cell.account (same k)
  obtain ⟨_, _, _, _, _, _, _, _, _, ⟨_, _⟩⟩ := s
  obtain ⟨_, _, _, _, _, _, _, _, _, ⟨_, _⟩⟩ := t
  simp only at platforms projects pools links positions mrv baselines reports auditors mints accounts
  rw [platforms, projects, pools, links, positions, mrv, baselines, reports, auditors, mints, accounts]

namespace Observer

/-- The observer of `L` sees no difference when the cells of `L` are the same. -/
lemma on_same : (on L).Same s t ↔ Runs.Agree State.cell L s t := by
  constructor
  · intro h k mem
    unfold State.cell
    rw [h.platforms.lookup_eq mem, h.projects.lookup_eq mem, h.pools.lookup_eq mem, h.links.lookup_eq mem,
      h.positions.lookup_eq mem, h.mrvProjects.lookup_eq mem, h.baselines.lookup_eq mem,
      h.verifications.lookup_eq ⟨mem, id⟩, h.auditors.lookup_eq mem, h.bank.mints.lookup_eq mem,
      h.bank.accounts.lookup_eq mem]
  · intro h
    constructor
    · exact .of_eq fun k mem => (congrArg Cell.platform (h k mem)).symm
    · exact .of_eq fun k mem => (congrArg Cell.project (h k mem)).symm
    · exact .of_eq fun k mem => (congrArg Cell.pool (h k mem)).symm
    · exact .of_eq fun k mem => (congrArg Cell.link (h k mem)).symm
    · exact .of_eq fun k mem => (congrArg Cell.position (h k mem)).symm
    · exact .of_eq fun k mem => (congrArg Cell.mrvProject (h k mem)).symm
    · exact .of_eq fun k mem => (congrArg Cell.baseline (h k mem)).symm
    · exact .of_eq fun k mem => (congrArg Cell.verification (h k mem.1)).symm
    · exact .of_eq fun k mem => (congrArg Cell.auditor (h k mem)).symm
    · exact ⟨.of_eq fun k mem => (congrArg Cell.mint (h k mem)).symm,
        .of_eq fun k mem => (congrArg Cell.account (h k mem)).symm⟩

end Observer

/-! ## What is written -/

/-- What a move of an outsider may write. -/
def Outside.writable : Outside K → List K
  | .transfer source dest _ _ => [source, dest]
  | .burn source mint _ _ => [source, mint]
  | .mintTo mint dest _ _ => [mint, dest]
  | .createMint key _ _ _ => [key]
  | .createAccount key _ _ => [key]
  | .createAssociatedToken owner mint => [associatedToken owner mint]

/-- What an action may write. -/
def Action.writable : Action K → List K
  | .call _ i => i.writable
  | .outside o => o.writable

/-- Token calls change nothing but the accounts marked. -/
lemma TokenCalls.leaves {i : Instruction K} {b b' : Token.Bank K} (h : TokenCalls i b b')
    (out : ∀ k ∈ i.writable, k ∉ L) : b.AgreeOn L b' := by
  induction h with
  | none => exact .refl b
  | transfer _ run _ source dest ih => exact ih.trans (.of_transfer run (out _ source) (out _ dest))
  | burn _ run _ source mint ih => exact ih.trans (.of_burn run (out _ source) (out _ mint))
  | mintTo _ run mint dest ih => exact ih.trans (.of_mintTo run (out _ mint) (out _ dest))
  | newMint _ run mem ih => exact ih.trans (.of_initMint run (out _ mem))
  | newAccount _ run _ _ mem ih => exact ih.trans (.of_initAccount run (out _ mem))

/-- A table changes at the accounts marked only. -/
lemma Written.leaves {now : Int64} {i : Instruction K} {κ : SeedKind} {m : Table K (κ.Record K)}
    (h : Written s now i κ m) (out : ∀ k ∈ i.writable, k ∉ L) : Finmap.RelOn L Eq (s.table κ) m :=
  .of_eq fun _ mem => h.other fun marked => out _ (Instruction.writable_of_writes marked) mem

/-- A successful instruction changes nothing but its writable accounts. -/
theorem handle_writes {now : Int64} {i : Instruction K} (h : handle s now i = .ok s')
    (out : ∀ k ∈ i.writable, k ∉ L) : (Observer.on L).Same s s' := by
  have effects := handle_effects h
  exact {
    platforms := effects.platforms.leaves out
    projects := effects.projects.leaves out
    pools := effects.pools.leaves out
    links := effects.links.leaves out
    positions := effects.positions.leaves out
    mrvProjects := effects.mrvProjects.leaves out
    baselines := effects.baselines.leaves out
    verifications := effects.verifications.leaves fun k mem shown => out k mem shown.1
    auditors := effects.auditors.leaves out
    bank := effects.calls.leaves out }

/-- A step leaves what it may not write. -/
theorem step_writes {x : Action K} (st : step s x = .ok s') (out : ∀ k ∈ x.writable, k ∉ L) :
    (Observer.on L).Same s s' := by
  cases x with
  | call now i => exact handle_writes (step_call st).2 out
  | outside x =>
    obtain ⟨b, h, rfl⟩ := step_outside st
    have same := Observer.Same.refl (Observer.on L) s
    suffices bank : s.bank.AgreeOn L b from { same with bank := bank }
    cases x with
    | transfer source dest authority n =>
      simp only [Action.writable, Outside.writable, List.forall_mem_cons] at out
      simp only [handleOutside, Except.bind_eq_ok, cpi_eq_ok] at h
      obtain ⟨_, -, paid⟩ := h
      exact .of_transfer paid out.1 out.2.1
    | burn source mint authority n =>
      simp only [Action.writable, Outside.writable, List.forall_mem_cons] at out
      simp only [handleOutside, Except.bind_eq_ok, cpi_eq_ok] at h
      obtain ⟨_, -, burnt⟩ := h
      exact .of_burn burnt out.1 out.2.1
    | mintTo mint dest authority n =>
      simp only [Action.writable, Outside.writable, List.forall_mem_cons] at out
      simp only [handleOutside, Except.bind_eq_ok, cpi_eq_ok] at h
      obtain ⟨_, -, minted⟩ := h
      exact .of_mintTo minted out.1 out.2.1
    | createMint key auth freeze d =>
      simp only [Action.writable, Outside.writable, List.forall_mem_cons] at out
      simp only [handleOutside, Except.bind_eq_ok, cpi_eq_ok] at h
      obtain ⟨_, -, _, -, made⟩ := h
      exact .of_initMint made out.1
    | createAccount key mint owner =>
      simp only [Action.writable, Outside.writable, List.forall_mem_cons] at out
      simp only [handleOutside, Except.bind_eq_ok, cpi_eq_ok] at h
      obtain ⟨_, -, _, -, made⟩ := h
      exact .of_initAccount made out.1
    | createAssociatedToken owner mint =>
      simp only [Action.writable, Outside.writable, List.forall_mem_cons] at out
      obtain ⟨-, -, made⟩ := initAssociatedToken_ok.mp h
      exact .of_initAccount made out.1

/-! ## Exchanging actions -/

omit [DecidableEq K] in
/-- What is written is among what is passed. -/
lemma Action.writable_sub (x : Action K) : ∀ k ∈ x.writable, k ∈ x.accounts := by
  intro k mem
  cases x with
  | call now i =>
    cases i <;> simp only [Action.writable, Action.accounts, Instruction.writable, Instruction.accounts,
      List.mem_cons, List.not_mem_nil] at mem ⊢ <;> tauto
  | outside x =>
    cases x <;> simp only [Action.writable, Action.accounts, Outside.writable, Outside.accounts,
      List.mem_cons, List.not_mem_nil] at mem ⊢ <;> tauto

/-- The program is local to the accounts passed. -/
theorem step_local : Runs.Local (step (K := K)) State.cell (fun x => {k | k ∈ x.accounts})
    (fun x => {k | k ∈ x.writable}) where
  ext := State.ext_cell
  sub := Action.writable_sub
  reads := by
    intro s t x agree
    have same := Observer.on_same.mpr agree
    exact (step_same same (fun _ => id) (fun _ _ _ _ _ => id) fun _ => rfl).mono fun _ _ => Observer.on_same.mp
  writes := by
    intro s x s' st k out
    have same := step_writes (L := {k}) st fun k' mem e => out (e ▸ mem)
    exact (Observer.on_same.mp same k rfl).symm

/-- Neither action writes an account of the other. -/
abbrev Action.Independent (x y : Action K) : Prop :=
  Runs.Independent (fun x : Action K => {k | k ∈ x.accounts}) (fun x => {k | k ∈ x.writable}) x y

instance (x y : Action K) : Decidable (x.Independent y) :=
  inferInstanceAs (Decidable ((∀ k ∈ x.writable, k ∉ y.accounts) ∧ ∀ k ∈ y.writable, k ∉ x.accounts))

/-- The actions of a run, with the errors that they raise. -/
def Genesis.answers (g : Genesis K) (as : List (Action K)) : List (Action K × Option Error) :=
  Runs.answers step g.state as

/-- Exchanging, any number of times, neighbours neither of which writes an account of the other changes neither the
state that a run reaches nor any answer. -/
theorem independent_order (g : Genesis K) {as bs : List (Action K)}
    (orders : Runs.Shuffle Action.Independent as bs) :
    g.run as = g.run bs ∧ (g.answers as).Perm (g.answers bs) :=
  step_local.shuffle orders g.state

/-- A pool and a project, both open for sale. -/
def demoSales : List (Action Addr) :=
  Client.demoPool ++ Client.demo.openProject 1 100 12 (.wallet 20) (.wallet 30)

/-- A purchase in the project by another wallet than that of a purchase in the pool. -/
def demoSale : Action Addr :=
  .call 0 (Client.demo.buyProjectTokens 1 (.wallet 20) (.wallet 11) 60)

/-- Two purchases by different wallets. -/
theorem independent_order_demo :
    Genesis.blank.run (demoSales ++ [demoSale, Client.demoBuy (.wallet 10) 4])
        = Genesis.blank.run (demoSales ++ [Client.demoBuy (.wallet 10) 4, demoSale]) ∧
      (Genesis.blank.answers (demoSales ++ [demoSale, Client.demoBuy (.wallet 10) 4])).Perm
        (Genesis.blank.answers (demoSales ++ [Client.demoBuy (.wallet 10) 4, demoSale])) := by
  have apart : demoSale.Independent (Client.demoBuy (.wallet 10) 4) := by decide +kernel
  exact independent_order Genesis.blank (.append demoSales (.swap [] apart))

end Exira
