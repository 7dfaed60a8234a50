import Exira.Instructions.Admin
import Exira.Instructions.Investor
import Exira.Instructions.Mrv
import Exira.Lib.Runs

/-!
# The step function

The 19 instructions of `lib.rs` in one type, and the actions of the chain: a call of the program at some
clock time, or an operation of the token program that its users make without the program. A call's
signers sign from outside, so no program-derived address is among them. An action that fails changes
nothing. Runs start from a `Genesis`: an arbitrary sound bank in which associated addresses hold
associated accounts, and no account of the program. Runs contain no `SetAuthority`, `CloseAccount`, `Approve`,
`FreezeAccount` or `ThawAccount` of the token program, and no change of lamports.
-/

namespace Exira

variable {K : Type} [DecidableEq K] [Addresses K]

/-- The instructions of the program, with the accounts passed and the arguments. -/
inductive Instruction (K : Type) where
  | initializePlatform (a : InitializePlatform K)
      (originationFeeBps performanceFeeBps hurdleRateBps : U16)
  | createProject (a : CreateProject K) (projectId targetAmount : U64) (termMonths : U8)
  | activateProject (a : ActivateProject K)
  | distributeRepayment (a : DistributeRepayment K) (amount : U64)
  | closeProject (a : CloseProject K)
  | createPool (a : CreatePool K) (poolId targetAmount : U64)
  | addProjectToPool (a : AddProjectToPool K)
  | distributePoolReturns (a : DistributePoolReturns K) (amount : U64)
  | withdrawProjectFunds (a : WithdrawProjectFunds K) (amount : U64)
  | buyProjectTokens (a : BuyProjectTokens K) (amount : U64)
  | claimProjectReturns (a : ClaimProjectReturns K)
  | withdrawInvestment (a : WithdrawInvestment K)
  | buyPoolTokens (a : BuyPoolTokens K) (amount : U64)
  | claimPoolReturns (a : ClaimPoolReturns K)
  | registerMrvProject (a : RegisterMrvProject K) (projectId : U64)
      (msmeName sector location upgradeType : String)
  | addAuditor (a : AddAuditor K) (name certification : String)
  | submitBaseline (a : SubmitBaseline K) (energyKwhPerYear : U64) (fuelType : String)
      (costInrPerYear co2TonsPerYearX100 : U64) (reportHash : Vector U8 32)
  | submitVerification (a : SubmitVerification K) (index : U8) (periodStart periodEnd : Int64)
      (energyKwhSaved costInrSaved co2TonsAvoidedX100 : U64) (savingsVsExpectedBps : U16)
      (reportHash : Vector U8 32)
  | attestVerification (a : AttestVerification K)

/-- The accounts of type `Signer`, and the key pairs that sign for the mints created. -/
def Instruction.signers : Instruction K → List K
  | .initializePlatform a _ _ _ => [a.admin]
  | .createProject a _ _ _ => [a.admin, a.tokenMint]
  | .activateProject a => [a.admin]
  | .distributeRepayment a _ => [a.admin]
  | .closeProject a => [a.admin]
  | .createPool a _ _ => [a.admin, a.poolTokenMint]
  | .addProjectToPool a => [a.admin]
  | .distributePoolReturns a _ => [a.admin]
  | .withdrawProjectFunds a _ => [a.admin]
  | .buyProjectTokens a _ => [a.investor]
  | .claimProjectReturns a => [a.investor]
  | .withdrawInvestment a => [a.investor]
  | .buyPoolTokens a _ => [a.investor]
  | .claimPoolReturns a => [a.investor]
  | .registerMrvProject a _ _ _ _ _ => [a.admin]
  | .addAuditor a _ _ => [a.admin]
  | .submitBaseline a _ _ _ _ _ => [a.auditorSigner]
  | .submitVerification a _ _ _ _ _ _ _ _ => [a.auditorSigner]
  | .attestVerification a => [a.auditorSigner]

/-- What users of the token program do without this program: they move, burn and mint tokens and open mints and
accounts. The owner of an account and the authorities of a mint are never changed in a run, no account is closed or
frozen, and nobody is made a delegate, so that an associated account is always its wallet's. -/
inductive Outside (K : Type) where
  | transfer (source dest authority : K) (amount : U64)
  | burn (source mint authority : K) (amount : U64)
  | mintTo (mint dest authority : K) (amount : U64)
  | createMint (key : K) (mintAuthority freezeAuthority : Option K) (decimals : U8)
  | createAccount (key mint owner : K)
  | createAssociatedToken (owner mint : K)

/-- An instruction with the time that `Clock::get` returns, or an outside operation. -/
inductive Action (K : Type) where
  | call (now : Int64) (i : Instruction K)
  | outside (o : Outside K)

/-- The handler of an instruction. -/
def handle (s : State K) (now : Int64) : Instruction K → Result (State K)
  | .initializePlatform a orig perf hurdle => initializePlatform s a orig perf hurdle
  | .createProject a id target term => createProject s a now id target term
  | .activateProject a => activateProject s a now
  | .distributeRepayment a amount => distributeRepayment s a amount
  | .closeProject a => closeProject s a
  | .createPool a id target => createPool s a now id target
  | .addProjectToPool a => addProjectToPool s a
  | .distributePoolReturns a amount => distributePoolReturns s a amount
  | .withdrawProjectFunds a amount => withdrawProjectFunds s a amount
  | .buyProjectTokens a amount => buyProjectTokens s a amount
  | .claimProjectReturns a => claimProjectReturns s a
  | .withdrawInvestment a => withdrawInvestment s a
  | .buyPoolTokens a amount => buyPoolTokens s a amount
  | .claimPoolReturns a => claimPoolReturns s a
  | .registerMrvProject a id name sector location upgrade =>
    registerMrvProject s a now id name sector location upgrade
  | .addAuditor a name certification => addAuditor s a now name certification
  | .submitBaseline a energy fuel cost co2 hash => submitBaseline s a now energy fuel cost co2 hash
  | .submitVerification a index start stop energy cost co2 bps hash =>
    submitVerification s a now index start stop energy cost co2 bps hash
  | .attestVerification a => attestVerification s a

/-- The token program, called by its users. -/
def handleOutside (s : State K) : Outside K → Result (Token.Bank K)
  | .transfer source dest authority amount => do
    constraint (canSign authority = true) .missingRequiredSignature
    cpi (s.bank.transfer source dest authority amount)
  | .burn source mint authority amount => do
    constraint (canSign authority = true) .missingRequiredSignature
    cpi (s.bank.burn source mint authority amount)
  | .mintTo mint dest authority amount => do
    constraint (canSign authority = true) .missingRequiredSignature
    cpi (s.bank.mintTo mint dest authority amount)
  | .createMint key mintAuthority freezeAuthority decimals => do
    constraint (canSign key = true) .missingRequiredSignature
    vacate s key
    cpi (s.bank.initMint key mintAuthority freezeAuthority decimals)
  | .createAccount key mint owner => do
    constraint (canSign key = true) .missingRequiredSignature
    vacate s key
    cpi (s.bank.initAccount key mint owner)
  | .createAssociatedToken owner mint =>
    initAssociatedToken s (associatedToken owner mint) owner mint

/-- One action: all signatures present, then the handler. -/
def step (s : State K) : Action K → Result (State K)
  | .call now i => do
    constraint (i.signers.all canSign = true) .missingRequiredSignature
    handle s now i
  | .outside o => do
    let bank ← handleOutside s o
    return { s with bank := bank }

/-- The error that an action raises, if it fails. -/
def State.errorOf (s : State K) (a : Action K) : Option Error :=
  match step s a with
  | .ok _ => none
  | .error e => some e

/-- A chain on which the program is deployed and not yet used. An account at an associated address is still its
wallet's (`associated`): nobody has handed theirs on. -/
structure Genesis (K : Type) [DecidableEq K] [Addresses K] where
  bank : Token.Bank K
  sound : bank.Sound
  associated : ∀ o m x, bank.holder (associatedToken o m) = some x → x = (m, o)
  noMint : ∀ o m, bank.minter (associatedToken o m) = none

namespace Genesis

/-- The state at genesis: no account of the program. -/
def state (g : Genesis K) : State K where
  platforms := ∅
  projects := ∅
  pools := ∅
  links := ∅
  positions := ∅
  mrvProjects := ∅
  baselines := ∅
  verifications := ∅
  auditors := ∅
  bank := g.bank

/-- The state after a list of actions. -/
def run (g : Genesis K) (as : List (Action K)) : State K :=
  Runs.run step g.state as

/-- The successful actions, each with the state it was executed in. -/
def history (g : Genesis K) (as : List (Action K)) : List (State K × Action K) :=
  Runs.trace step g.state as

/-- All actions, each with the state it met. -/
def attempts (g : Genesis K) (as : List (Action K)) : List (State K × Action K) :=
  Runs.attempts step g.state as

/-- A run of two lists of actions. -/
lemma run_append (g : Genesis K) (as bs : List (Action K)) :
    g.run (as ++ bs) = Runs.run step (g.run as) bs :=
  Runs.run_append _ _ _

/-- The history of two lists of actions. -/
lemma history_append (g : Genesis K) (as bs : List (Action K)) :
    g.history (as ++ bs) = g.history as ++ Runs.trace step (g.run as) bs :=
  Runs.trace_append _ _ _

/-- The attempts of two lists of actions. -/
lemma attempts_append (g : Genesis K) (as bs : List (Action K)) :
    g.attempts (as ++ bs) = g.attempts as ++ Runs.attempts step (g.run as) bs :=
  Runs.attempts_append _ _ _

/-- A step of the history is a step of the run that went through. -/
lemma mem_history {g : Genesis K} {as : List (Action K)} {x : State K × Action K}
    (mem : x ∈ g.history as) :
    ∃ bs cs, as = bs ++ x.2 :: cs ∧ x.1 = g.run bs ∧ ∃ s', step x.1 x.2 = .ok s' :=
  Runs.mem_trace mem

/-- A chain without any token account. -/
def blank : Genesis K where
  bank := ⟨∅, ∅⟩
  sound := fun m => by simp [Token.Bank.circulating]
  associated := fun o m x h => by simp [Token.Bank.holder] at h
  noMint := fun o m => by simp [Token.Bank.minter]

end Genesis

section Inversion
variable {s s' : State K}

/-- A call that goes through is signed and handled. -/
lemma step_call {now : Int64} {i : Instruction K} (st : step s (.call now i) = .ok s') :
    (∀ k ∈ i.signers, canSign k = true) ∧ handle s now i = .ok s' := by
  simp only [step, Except.bind_eq_ok, constraint_eq_ok, exists_const, List.all_eq_true] at st
  exact st

/-- A call whose signers can sign goes through when its handler does. -/
lemma step_of_handle {now : Int64} {i : Instruction K} (signed : ∀ k ∈ i.signers, canSign k = true)
    (h : handle s now i = .ok s') : step s (.call now i) = .ok s' := by
  simp only [step, Except.bind_eq_ok, constraint_eq_ok, exists_const, List.all_eq_true]
  exact ⟨signed, h⟩

/-- A call fails for a missing signature, or as its handler does. -/
lemma step_call_error {now : Int64} {i : Instruction K} {e : Error}
    (st : step s (.call now i) = .error e) (ne : e ≠ .anchor .missingRequiredSignature) :
    handle s now i = .error e := by
  simp only [step, constraint, Except.require] at st
  split at st
  · exact st
  · cases st
    exact absurd rfl ne

/-- A move of an outsider changes the bank only. -/
lemma step_outside {o : Outside K} (st : step s (.outside o) = .ok s') :
    ∃ bank, handleOutside s o = .ok bank ∧ s' = { s with bank := bank } := by
  simp only [step, Except.bind_eq_ok] at st
  obtain ⟨bank, h, e⟩ := st
  cases e
  exact ⟨bank, h, rfl⟩

/-- No error is a step that goes through. -/
lemma State.errorOf_eq_none {a : Action K} : s.errorOf a = none ↔ ∃ s', step s a = .ok s' := by
  unfold State.errorOf
  cases step s a with
  | ok s' => exact ⟨fun _ => ⟨s', rfl⟩, fun _ => rfl⟩
  | error e => exact ⟨nofun, nofun⟩

/-- An error is the one the step is refused with. -/
lemma State.errorOf_eq_some {a : Action K} {e : Error} :
    s.errorOf a = some e ↔ step s a = .error e := by
  unfold State.errorOf
  cases step s a with
  | ok s' => exact ⟨nofun, nofun⟩
  | error e => simp

end Inversion

end Exira
