import Exira.Refusals.Possible

/-!
# The errors of an instruction come up

For each function of `lib.rs` and each of its errors, `InstructionKind.refused` is a run of the demo deployment
and a call of the function that the state after the run refuses with that error. So the list of a function
is exact: it has the errors that some call raises in some run, and no other.
-/

namespace Exira

open InstructionKind

namespace Client

/-- A client that takes another wallet for the admin. -/
def stranger : Client Addr := { demo with admin := .wallet 10 }

/-- A client that takes another mint for the one of USDC. -/
def otherMint : Client Addr := { demo with usdc := .wallet 9 }

/-- The other mint. -/
def mintOther : Action Addr :=
  .outside (.createMint otherMint.usdc none none 6)

/-- Project 1 of the deployment, open for sale up to 100. -/
def demoFunding : List (Action Addr) :=
  demoSetup ++ demo.openProject 1 100 12 (.wallet 20) (.wallet 30)

/-- The registry entry of `demoFunding`. -/
def demoMrv : Addr :=
  findProgramAddress (.mrvProject 1)

/-- Pool 1 with one token sold, and its investor. -/
def demoSold : List (Action Addr) :=
  demoPool ++ [demoBuy (.wallet 10) 1]

/-- Pool 1 as its deployment has 2 ^ 62 USDC for the admin and for one investor, who has bought 100 tokens. -/
def demoRich : List (Action Addr) :=
  demo.setup (.wallet 3) [.wallet 0, .wallet 2, .wallet 10] (2 ^ 62) 150 ++ [
    .call 0 (demo.createPool 1 (2 ^ 62) (.wallet 21)),
    demoBuy (.wallet 10) 100]

/-- The same 2 ^ 62 are distributed and claimed three times. -/
def demoReturned : List (Action Addr) :=
  demoRich ++ (List.replicate 3 [demoDistribute (2 ^ 62), demoClaim (.wallet 10),
    .outside (.transfer (demo.usdcOf (.wallet 10)) (demo.usdcOf (.wallet 0)) (.wallet 10) (2 ^ 62))]).flatten

/-- A link of pool 1 to a project. -/
def link (c : Client Addr) (id : U64) : Instruction Addr :=
  .addProjectToPool ⟨platform, c.admin, pool 1, project id,
    findProgramAddress (.poolLink (pool 1) (project id))⟩

/-- Pool 1 with as many projects as it may have. -/
def demoCrowded : List (Action Addr) :=
  demoPool ++ demo.openProject 1 100 12 (.wallet 20) (.wallet 30) ++
    (List.range 20).map (fun i => .call 0 (demo.createProject (.ofNat 64 (i + 2)) 100 12 demoMrv
      (.wallet (100 + i)))) ++
    (List.range 20).map fun i => .call 0 (link demo (.ofNat 64 (i + 1)))

/-- A report of wallet 30 on the registry entry. -/
def report (start stop : Int64) : Instruction Addr :=
  .submitVerification ⟨.wallet 30, findProgramAddress (.auditor (.wallet 30)), demoMrv,
    findProgramAddress (.verification demoMrv 0)⟩ 0 start stop 0 0 0 0 (Vector.replicate 32 0)

/-- The attestation of the report by a wallet. -/
def attest (wallet : Addr) : Instruction Addr :=
  .attestVerification ⟨wallet, findProgramAddress (.auditor wallet), demoMrv,
    findProgramAddress (.verification demoMrv 0)⟩

def demoReport : List (Action Addr) :=
  demoFunding ++ [.call 0 (report 0 1)]

/-- A text that is too long for every field. -/
def longText : String :=
  String.ofList (List.replicate 65 'a')

end Client

open Client

/-- For each error of the function, a run and a call of the function that fails after it with the error. -/
def InstructionKind.refused : InstructionKind → List (ExiraError × List (Action Addr) × Instruction Addr)
  | initializePlatform =>
    [(.invalidFeeBps, demoSetup.dropLast, demo.initializePlatform 10001 0 0)]
  | createProject =>
    [(.unauthorized, demoFunding, stranger.createProject 2 100 12 demoMrv (.wallet 22)),
     (.invalidUsdcMint, demoFunding ++ [mintOther], otherMint.createProject 2 100 12 demoMrv (.wallet 22)),
     (.mrvBaselineMissing, demoSetup ++ [.call 0 (demo.registerMrvProject 1 "")], demo.createProject 1
        100 12 demoMrv (.wallet 20)),
     (.invalidTargetAmount, demoFunding, demo.createProject 2 0 12 demoMrv (.wallet 22)),
     (.invalidTermMonths, demoFunding, demo.createProject 2 100 5 demoMrv (.wallet 22))]
  | activateProject =>
    [(.unauthorized, demoFunding, stranger.activateProject 1),
     (.invalidUsdcMint, demoFunding, .activateProject ⟨platform, demo.admin, project 1, demo.usdcOf
        (project 1), demo.usdcOf demo.treasury, demo.treasury, .wallet 20⟩),
     (.wrongVault, demoFunding, .activateProject ⟨platform, demo.admin, project 1, demo.usdcOf demo.admin,
        demo.usdcOf demo.treasury, demo.treasury, demo.usdc⟩),
     (.notFunding, demoActive, demo.activateProject 1),
     (.notFullyFunded, demoFunding, demo.activateProject 1)]
  | distributeRepayment =>
    [(.unauthorized, demoActive, stranger.distributeRepayment 1 10),
     (.invalidUsdcMint, demoActive, .distributeRepayment ⟨platform, demo.admin, project 1, demo.usdcOf
        demo.admin, demo.usdcOf (project 1), .wallet 20⟩ 10),
     (.wrongVault, demoActive, .distributeRepayment ⟨platform, demo.admin, project 1, demo.usdcOf
        demo.admin, demo.usdcOf demo.treasury, demo.usdc⟩ 10),
     (.zeroAmount, demoActive, demo.distributeRepayment 1 0),
     (.notActiveOrRepaying, demoFunding, demo.distributeRepayment 1 10),
     (.mathOverflow, demoRecycled, demo.distributeRepayment 1 (2 ^ 62))]
  | closeProject =>
    [(.unauthorized, demoActive, stranger.closeProject 1),
     (.notActiveOrRepaying, demoFunding, demo.closeProject 1)]
  | createPool =>
    [(.unauthorized, demoSetup, stranger.createPool 1 1000 (.wallet 21)),
     (.invalidUsdcMint, demoSetup ++ [mintOther], otherMint.createPool 1 1000 (.wallet 21)),
     (.invalidTargetAmount, demoSetup, demo.createPool 1 0 (.wallet 21))]
  | addProjectToPool =>
    [(.unauthorized, demoCrowded, link stranger 21),
     (.poolTooManyProjects, demoCrowded, link demo 21)]
  | distributePoolReturns =>
    [(.unauthorized, demoSold, stranger.distributePoolReturns 1 10),
     (.invalidUsdcMint, demoSold, .distributePoolReturns ⟨platform, demo.admin, pool 1, demo.usdcOf
        demo.admin, demo.usdcOf (pool 1), .wallet 21⟩ 10),
     (.wrongVault, demoSold, .distributePoolReturns ⟨platform, demo.admin, pool 1, demo.usdcOf
        demo.admin, demo.usdcOf demo.treasury, demo.usdc⟩ 10),
     (.zeroAmount, demoSold, demo.distributePoolReturns 1 0),
     (.noTokensSold, demoPool, demo.distributePoolReturns 1 10),
     (.mathOverflow, demoReturned, demo.distributePoolReturns 1 (2 ^ 62))]
  | withdrawProjectFunds =>
    [(.unauthorized, demoActive, stranger.withdrawProjectFunds 1 1 (demo.usdcOf (.wallet 0))),
     (.invalidUsdcMint, demoActive, .withdrawProjectFunds ⟨platform, demo.admin, project 1, demo.usdcOf
        (project 1), demo.usdcOf (.wallet 0), .wallet 20⟩ 1),
     (.wrongVault, demoActive, .withdrawProjectFunds ⟨platform, demo.admin, project 1, demo.usdcOf
        demo.treasury, demo.usdcOf (.wallet 0), demo.usdc⟩ 1),
     (.zeroAmount, demoActive, demo.withdrawProjectFunds 1 0 (demo.usdcOf (.wallet 0))),
     (.insufficientVaultBalance, demoActive, demo.withdrawProjectFunds 1 1000 (demo.usdcOf (.wallet
        0)))]
  | buyProjectTokens =>
    [(.wrongMint, demoFunding ++ [mintOther], demo.buyProjectTokens 1 (.wallet 9) (.wallet 10) 1),
     (.wrongVault, demoFunding, .buyProjectTokens ⟨project 1, .wallet 20, demo.usdcOf demo.admin, .wallet 10,
        demo.usdcOf (.wallet 10), .ata (.wallet 10) (.wallet 20), position (project 1) (.wallet 10),
        demo.usdc⟩ 1),
     (.zeroAmount, demoFunding, demo.buyProjectTokens 1 (.wallet 20) (.wallet 10) 0),
     (.notFunding, demoActive, demo.buyProjectTokens 1 (.wallet 20) (.wallet 10) 1),
     (.poolFull, demoFunding, demo.buyProjectTokens 1 (.wallet 20) (.wallet 10) 101)]
  | claimProjectReturns =>
    [(.wrongVault, demoActive, claimProject demo.usdc (project 1) (demo.usdcOf demo.admin) (.wallet
        10)),
     (.nothingToClaim, demoActive, claimProject demo.usdc (project 1) (demo.usdcOf (project 1)) (.wallet
        10)),
     (.insufficientVaultBalance, demoActive ++ [demoRepay 100, .call 0 (demo.withdrawProjectFunds 1 199
        (demo.usdcOf (.wallet 0)))], claimProject demo.usdc (project 1) (demo.usdcOf (project 1))
        (.wallet 10))]
  | withdrawInvestment =>
    [(.wrongMint, demoActive, .withdrawInvestment ⟨project 1, demo.usdc, demo.usdcOf (project 1), .wallet 10,
        position (project 1) (.wallet 10), .ata (.wallet 10) (.wallet 20), demo.usdcOf (.wallet 10),
        demo.usdc⟩),
     (.wrongVault, demoActive, .withdrawInvestment ⟨project 1, .wallet 20, demo.usdcOf demo.admin, .wallet 10,
        position (project 1) (.wallet 10), .ata (.wallet 10) (.wallet 20), demo.usdcOf (.wallet 10),
        demo.usdc⟩),
     (.cannotWithdraw, demoActive, demo.withdrawInvestment 1 (.wallet 20) (.wallet 10)),
     (.nothingToClaim, demoFunding ++ [.call 0 (demo.buyProjectTokens 1 (.wallet 20) (.wallet 10) 1), .call
        0 (demo.withdrawInvestment 1 (.wallet 20) (.wallet 10))], demo.withdrawInvestment 1 (.wallet 20)
        (.wallet 10))]
  | buyPoolTokens =>
    [(.wrongMint, demoPool ++ [mintOther], demo.buyPoolTokens 1 (.wallet 9) (.wallet 10) 1),
     (.wrongVault, demoPool, .buyPoolTokens { demo.poolPurchase 1 (.wallet 21) (.wallet 10) with
        usdcVault := demo.usdcOf demo.admin } 1),
     (.zeroAmount, demoPool, demo.buyPoolTokens 1 (.wallet 21) (.wallet 10) 0),
     (.poolFull, demoPool, demo.buyPoolTokens 1 (.wallet 21) (.wallet 10) 1001)]
  | claimPoolReturns =>
    [(.wrongVault, demoSold, claimPool demo.usdc (pool 1) (demo.usdcOf demo.admin) (.wallet 10)),
     (.nothingToClaim, demoSold, claimPool demo.usdc (pool 1) (demo.usdcOf (pool 1)) (.wallet 10)),
     (.mathOverflow, demoRich ++ [demoDistribute (2 ^ 61), demoBuy (.wallet 10) (2 ^ 61)], claimPool
        demo.usdc (pool 1) (demo.usdcOf (pool 1)) (.wallet 10)),
     (.insufficientVaultBalance, demoSold ++ [demoDistribute 10, demoBuy (.wallet 10) 9], claimPool
        demo.usdc (pool 1) (demo.usdcOf (pool 1)) (.wallet 10))]
  | registerMrvProject =>
    [(.unauthorized, demoSetup, stranger.registerMrvProject 1 ""),
     (.stringTooLong, demoSetup, demo.registerMrvProject 1 longText)]
  | addAuditor =>
    [(.unauthorized, demoSetup, stranger.addAuditor (.wallet 30) ""),
     (.stringTooLong, demoSetup, demo.addAuditor (.wallet 30) longText)]
  | submitBaseline =>
    [(.stringTooLong, demoSetup ++ [.call 0 (demo.registerMrvProject 1 ""), .call 0 (demo.addAuditor
        (.wallet 30) "")], .submitBaseline ⟨.wallet 30, findProgramAddress (.auditor (.wallet 30)),
        demoMrv, findProgramAddress (.baseline demoMrv)⟩ 0 longText 0 0 (Vector.replicate 32 0))]
  | submitVerification =>
    [(.mrvBaselineMissing, demoSetup ++ [.call 0 (demo.registerMrvProject 1 ""), .call 0
        (demo.addAuditor (.wallet 30) "")], report 0 1),
     (.invalidVerificationPeriod, demoFunding, report 1 1)]
  | attestVerification =>
    [(.alreadyAttested, demoReport ++ [.call 0 (attest (.wallet 30))], attest (.wallet 30)),
     (.attestationAuditorMismatch, demoReport ++ [.call 0 (demo.addAuditor (.wallet 31) "")], attest
        (.wallet 31))]

/-- Every error of the list has a call that is refused with it. -/
lemma refused_listed (f : InstructionKind) : ∀ e ∈ f.errors, ∃ x ∈ f.refused, x.1 = e := by
  cases f <;> decide

/-- The call is one of the instruction, and is refused so. -/
lemma refuses (f : InstructionKind) : ∀ x ∈ f.refused, x.2.2.kind = f ∧
    (Genesis.blank.run x.2.1).errorOf (.call 0 x.2.2) = some (.exira x.1) := by
  cases f <;> decide +kernel

/-- The errors of `error.rs` that no function raises. -/
def ExiraError.idle : List ExiraError :=
  [.platformAlreadyInitialized, .duplicateId, .notCompleted, .cannotCancelActive, .mathUnderflow,
    .auditorInactive, .baselineAlreadySubmitted, .projectAlreadyLinked, .projectNotLinked, .wrongPlatform]

/-- No error of the list is one that is never raised. -/
lemma not_idle (f : InstructionKind) : ∀ e ∈ f.errors, e ∉ ExiraError.idle := by
  cases f <;> decide

/-- The errors of the program, function by function and exactly. Whatever accounts and arguments are passed,
in every reachable state, a call raises no error but those on the list of its function, and so none of the
idle ones; and each error on a list comes up, in some run, for some call of the function. -/
theorem errors_exact {K : Type} [DecidableEq K] [Addresses K] (g : Genesis K) (as : List (Action K)) :
    (∀ now i e, (g.run as).errorOf (.call now i) = some (.exira e) →
      e ∈ i.kind.errors ∧ e ∉ ExiraError.idle) ∧
    ∀ f e, e ∈ InstructionKind.errors f → ∃ bs now i, i.kind = f ∧
      (Genesis.blank.run (bs : List (Action Addr))).errorOf (.call now i) = some (.exira e) := by
  constructor
  · intro now i e raised
    have mem := g.step_errors as raised
    exact ⟨mem, not_idle i.kind e mem⟩
  · intro f e mem
    obtain ⟨⟨e, bs, i⟩, listed, rfl⟩ := refused_listed f e mem
    obtain ⟨kind, raised⟩ := refuses f _ listed
    exact ⟨bs, 0, i, kind, raised⟩

end Exira
