import Exira.Instructions.Constraints

/-!
# MRV instructions

`instructions/mrv/`: the registry of measured projects, their auditors, and the baseline and verification
reports. An `init` comes before every constraint, so a second baseline fails on its address.
-/

namespace Exira

variable {K : Type} [DecidableEq K] [Addresses K]

/-- The accounts of `register_mrv_project`. -/
structure RegisterMrvProject (K : Type) where
  platform : K
  admin : K
  mrvProject : K

/-- Registers an MRV project under the name of its client. -/
def registerMrvProject (s : State K) (a : RegisterMrvProject K) (now : Int64) (projectId : U64)
    (msmeName sector location upgradeType : String) : Result (State K) := do
  let platform ← load s.platforms a.platform
  initProgramAccount s a.mrvProject (.mrvProject projectId)
  checkPlatform a.platform platform a.admin
  let msmeName ← padInto MSME_NAME_LEN msmeName
  let sector ← padInto SECTOR_LEN sector
  let location ← padInto LOCATION_LEN location
  let upgradeType ← padInto UPGRADE_TYPE_LEN upgradeType
  let mrvProject : MrvProject := {
    projectId := projectId
    msmeName := msmeName
    sector := sector
    location := location
    upgradeType := upgradeType
    status := .registered
    baselineSubmitted := false
    verificationCount := 0
    createdAt := now
    bump := findBump (K := K) (.mrvProject projectId) }
  return { s with mrvProjects := s.mrvProjects.insert a.mrvProject mrvProject }

/-- The accounts of `add_auditor`. -/
structure AddAuditor (K : Type) where
  platform : K
  admin : K
  auditorWallet : K
  auditor : K

/-- Files an auditor for a wallet. -/
def addAuditor (s : State K) (a : AddAuditor K) (now : Int64) (name certification : String) :
    Result (State K) := do
  let platform ← load s.platforms a.platform
  initProgramAccount s a.auditor (.auditor a.auditorWallet)
  checkPlatform a.platform platform a.admin
  let name ← padInto AUDITOR_NAME_LEN name
  let certification ← padInto CERTIFICATION_LEN certification
  let auditor : Auditor K := {
    wallet := a.auditorWallet
    name := name
    certification := certification
    isActive := true
    projectsAudited := 0
    addedAt := now
    bump := findBump (.auditor a.auditorWallet) }
  return { s with auditors := s.auditors.insert a.auditor auditor }

/-- The accounts of `submit_baseline`. -/
structure SubmitBaseline (K : Type) where
  auditorSigner : K
  auditor : K
  mrvProject : K
  baseline : K

/-- Makes the one baseline of a registered project. -/
def submitBaseline (s : State K) (a : SubmitBaseline K) (now : Int64) (energyKwhPerYear : U64)
    (fuelType : String) (costInrPerYear co2TonsPerYearX100 : U64) (reportHash : Vector U8 32) :
    Result (State K) := do
  let auditor ← load s.auditors a.auditor
  let mrvProject ← load s.mrvProjects a.mrvProject
  initProgramAccount s a.baseline (.baseline a.mrvProject)
  checkAuditor a.auditor auditor a.auditorSigner
  checkSeeds a.mrvProject (.mrvProject mrvProject.projectId) mrvProject.bump
  -- a second baseline has failed before: its address is taken
  require (mrvProject.baselineSubmitted = false) .baselineAlreadySubmitted
  let fuelType ← padInto FUEL_TYPE_LEN fuelType
  let baseline : Baseline K := {
    mrvProject := a.mrvProject
    auditor := a.auditorSigner
    energyKwhPerYear := energyKwhPerYear
    fuelType := fuelType
    costInrPerYear := costInrPerYear
    co2TonsPerYearX100 := co2TonsPerYearX100
    reportHash := reportHash
    submittedAt := now
    bump := findBump (.baseline a.mrvProject) }
  return { s with
    mrvProjects := s.mrvProjects.insert a.mrvProject
      { mrvProject with baselineSubmitted := true, status := .baselineSubmitted }
    baselines := s.baselines.insert a.baseline baseline }

/-- The accounts of `submit_verification`. -/
structure SubmitVerification (K : Type) where
  auditorSigner : K
  auditor : K
  mrvProject : K
  verification : K

/-- Files the verification of an index, and counts it. -/
def submitVerification (s : State K) (a : SubmitVerification K) (now : Int64) (index : U8)
    (periodStart periodEnd : Int64) (energyKwhSaved costInrSaved co2TonsAvoidedX100 : U64)
    (savingsVsExpectedBps : U16) (reportHash : Vector U8 32) : Result (State K) := do
  let auditor ← load s.auditors a.auditor
  let mrvProject ← load s.mrvProjects a.mrvProject
  initProgramAccount s a.verification (.verification a.mrvProject index)
  checkAuditor a.auditor auditor a.auditorSigner
  checkSeeds a.mrvProject (.mrvProject mrvProject.projectId) mrvProject.bump
  require (mrvProject.baselineSubmitted = true) .mrvBaselineMissing
  require (periodStart < periodEnd) .invalidVerificationPeriod
  let verification : Verification K := {
    mrvProject := a.mrvProject
    auditor := a.auditorSigner
    index := index
    periodStart := periodStart
    periodEnd := periodEnd
    energyKwhSaved := energyKwhSaved
    costInrSaved := costInrSaved
    co2TonsAvoidedX100 := co2TonsAvoidedX100
    savingsVsExpectedBps := savingsVsExpectedBps
    reportHash := reportHash
    attested := false
    submittedAt := now
    bump := findBump (.verification a.mrvProject index) }
  return { s with
    mrvProjects := s.mrvProjects.insert a.mrvProject { mrvProject with
      verificationCount := mrvProject.verificationCount.saturatingAdd 1
      status := .inProgress }
    verifications := s.verifications.insert a.verification verification }

/-- The accounts of `attest_verification`. -/
structure AttestVerification (K : Type) where
  auditorSigner : K
  auditor : K
  mrvProject : K
  verification : K

/-- The author of a verification attests it, once. -/
def attestVerification (s : State K) (a : AttestVerification K) : Result (State K) := do
  let auditor ← load s.auditors a.auditor
  let mrvProject ← load s.mrvProjects a.mrvProject
  let verification ← load s.verifications a.verification
  checkAuditor a.auditor auditor a.auditorSigner
  checkSeeds a.mrvProject (.mrvProject mrvProject.projectId) mrvProject.bump
  checkSeeds a.verification (.verification a.mrvProject verification.index) verification.bump
  require (verification.attested = false) .alreadyAttested
  require (verification.auditor = a.auditorSigner) .attestationAuditorMismatch
  return { s with
    verifications := s.verifications.insert a.verification { verification with attested := true } }

end Exira
