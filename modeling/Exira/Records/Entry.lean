import Exira.Records.Data
import Exira.Records.Texts

/-!
# The entry point

The bytes of an instruction: the eight bytes of its discriminator, then the arguments of its function in `lib.rs`,
strings after their length in four bytes. `entry` is what the `#[program]` module makes of them: it looks for the
function of the discriminator, reads its arguments and calls its handler on the accounts passed. Every instruction
is called by the data that a client builds for it, and no data calls two of them.
-/

namespace Exira

variable {K : Type}

/-- The functions of `lib.rs`. -/
inductive InstructionKind where
  | initializePlatform
  | createProject
  | activateProject
  | distributeRepayment
  | closeProject
  | createPool
  | addProjectToPool
  | distributePoolReturns
  | withdrawProjectFunds
  | buyProjectTokens
  | claimProjectReturns
  | withdrawInvestment
  | buyPoolTokens
  | claimPoolReturns
  | registerMrvProject
  | addAuditor
  | submitBaseline
  | submitVerification
  | attestVerification
deriving DecidableEq

/-- A string whose length fits its prefix. -/
abbrev Text := {s : String // (utf8 s).length < 2 ^ 32}

namespace Borsh

/-- `String`: its length, and its bytes, which have to be UTF-8 -/
def string : Codec U8 Text :=
  (Codec.counted u32).refine
    (fun bs => (fromUtf8 bs.1).bind fun s => if h : (utf8 s).length < 2 ^ 32 then some ⟨s, h⟩ else none)
    (fun s => ⟨utf8 s.1, s.2⟩)
    (by
      rintro ⟨s, lt⟩
      have read := fromUtf8_eq_some.mpr (Eq.refl (utf8 s))
      simp only [read, Option.bind_some, dif_pos lt])
    (by
      rintro ⟨bs, lt⟩ x read
      obtain ⟨s, found, read⟩ := Option.bind_eq_some_iff.mp read
      split at read
      · cases read
        exact Subtype.ext (fromUtf8_eq_some.mp found).symm
      · cases read)

end Borsh

namespace InstructionKind

/-- The arguments of a function, without its context. -/
abbrev Args : InstructionKind → Type
  | initializePlatform => U16 × U16 × U16
  | createProject => U64 × U64 × U8
  | activateProject => Unit
  | distributeRepayment => U64
  | closeProject => Unit
  | createPool => U64 × U64
  | addProjectToPool => Unit
  | distributePoolReturns => U64
  | withdrawProjectFunds => U64
  | buyProjectTokens => U64
  | claimProjectReturns => Unit
  | withdrawInvestment => Unit
  | buyPoolTokens => U64
  | claimPoolReturns => Unit
  | registerMrvProject => U64 × Text × Text × Text × Text
  | addAuditor => Text × Text
  | submitBaseline => U64 × Text × U64 × U64 × Vector U8 32
  | submitVerification => U8 × Int64 × Int64 × U64 × U64 × U64 × U16 × Vector U8 32
  | attestVerification => Unit

/-- The accounts of a function's context. -/
abbrev Accounts (K : Type) : InstructionKind → Type
  | initializePlatform => InitializePlatform K
  | createProject => CreateProject K
  | activateProject => ActivateProject K
  | distributeRepayment => DistributeRepayment K
  | closeProject => CloseProject K
  | createPool => CreatePool K
  | addProjectToPool => AddProjectToPool K
  | distributePoolReturns => DistributePoolReturns K
  | withdrawProjectFunds => WithdrawProjectFunds K
  | buyProjectTokens => BuyProjectTokens K
  | claimProjectReturns => ClaimProjectReturns K
  | withdrawInvestment => WithdrawInvestment K
  | buyPoolTokens => BuyPoolTokens K
  | claimPoolReturns => ClaimPoolReturns K
  | registerMrvProject => RegisterMrvProject K
  | addAuditor => AddAuditor K
  | submitBaseline => SubmitBaseline K
  | submitVerification => SubmitVerification K
  | attestVerification => AttestVerification K

open Borsh in
/-- How the arguments of an instruction are written. -/
def codec : (f : InstructionKind) → Codec U8 f.Args
  | initializePlatform => u16.pair <| u16.pair u16
  | createProject => u64.pair <| u64.pair u8
  | activateProject => .nothing U8
  | distributeRepayment => u64
  | closeProject => .nothing U8
  | createPool => u64.pair u64
  | addProjectToPool => .nothing U8
  | distributePoolReturns => u64
  | withdrawProjectFunds => u64
  | buyProjectTokens => u64
  | claimProjectReturns => .nothing U8
  | withdrawInvestment => .nothing U8
  | buyPoolTokens => u64
  | claimPoolReturns => .nothing U8
  | registerMrvProject => u64.pair <| string.pair <| string.pair <| string.pair string
  | addAuditor => string.pair string
  | submitBaseline => u64.pair <| string.pair <| u64.pair <| u64.pair (bytes 32)
  | submitVerification => u8.pair <| i64.pair <| i64.pair <| u64.pair <| u64.pair <| u64.pair <| u16.pair (bytes 32)
  | attestVerification => .nothing U8

/-- The discriminator that Anchor derives from the name of the function, as in `app/exira.json`. The file does not
have `withdraw_project_funds`: its discriminator is derived here, as the others are, from the name. -/
def discriminator : InstructionKind → Vector U8 8
  | initializePlatform => #v[119, 201, 101, 45, 75, 122, 89, 3]
  | createProject => #v[148, 219, 181, 42, 221, 114, 145, 190]
  | activateProject => #v[237, 96, 65, 148, 226, 140, 89, 15]
  | distributeRepayment => #v[243, 242, 227, 72, 21, 48, 220, 42]
  | closeProject => #v[117, 209, 53, 106, 93, 55, 112, 49]
  | createPool => #v[233, 146, 209, 142, 207, 104, 64, 188]
  | addProjectToPool => #v[232, 187, 67, 5, 66, 48, 220, 18]
  | distributePoolReturns => #v[245, 191, 229, 156, 250, 24, 199, 6]
  | withdrawProjectFunds => #v[138, 64, 99, 206, 238, 248, 82, 221]
  | buyProjectTokens => #v[129, 229, 96, 8, 73, 41, 6, 21]
  | claimProjectReturns => #v[193, 210, 192, 172, 65, 78, 49, 208]
  | withdrawInvestment => #v[157, 158, 101, 11, 240, 193, 192, 92]
  | buyPoolTokens => #v[116, 183, 137, 17, 100, 253, 78, 28]
  | claimPoolReturns => #v[197, 107, 218, 63, 63, 171, 69, 233]
  | registerMrvProject => #v[94, 126, 160, 201, 125, 220, 172, 214]
  | addAuditor => #v[99, 220, 174, 12, 223, 118, 87, 240]
  | submitBaseline => #v[124, 73, 164, 76, 61, 35, 105, 107]
  | submitVerification => #v[30, 19, 8, 156, 126, 43, 28, 175]
  | attestVerification => #v[174, 250, 164, 34, 215, 158, 186, 134]

/-- No two instructions have one discriminator. -/
lemma discriminator_inj : Function.Injective discriminator := by
  intro f f' e
  cases f <;> cases f' <;> first | rfl | exact absurd e (by decide)

/-- All functions, in the order of `lib.rs`. -/
def all : List InstructionKind :=
  [initializePlatform, createProject, activateProject, distributeRepayment, closeProject, createPool,
    addProjectToPool, distributePoolReturns, withdrawProjectFunds, buyProjectTokens, claimProjectReturns,
    withdrawInvestment, buyPoolTokens, claimPoolReturns, registerMrvProject, addAuditor, submitBaseline,
    submitVerification, attestVerification]

/-- A function called with its arguments and its accounts. -/
def instruction : (f : InstructionKind) → f.Args → f.Accounts K → Instruction K
  | initializePlatform, x, a => .initializePlatform a x.1 x.2.1 x.2.2
  | createProject, x, a => .createProject a x.1 x.2.1 x.2.2
  | activateProject, _, a => .activateProject a
  | distributeRepayment, x, a => .distributeRepayment a x
  | closeProject, _, a => .closeProject a
  | createPool, x, a => .createPool a x.1 x.2
  | addProjectToPool, _, a => .addProjectToPool a
  | distributePoolReturns, x, a => .distributePoolReturns a x
  | withdrawProjectFunds, x, a => .withdrawProjectFunds a x
  | buyProjectTokens, x, a => .buyProjectTokens a x
  | claimProjectReturns, _, a => .claimProjectReturns a
  | withdrawInvestment, _, a => .withdrawInvestment a
  | buyPoolTokens, x, a => .buyPoolTokens a x
  | claimPoolReturns, _, a => .claimPoolReturns a
  | registerMrvProject, x, a => .registerMrvProject a x.1 x.2.1.1 x.2.2.1.1 x.2.2.2.1.1 x.2.2.2.2.1
  | addAuditor, x, a => .addAuditor a x.1.1 x.2.1
  | submitBaseline, x, a => .submitBaseline a x.1 x.2.1.1 x.2.2.1 x.2.2.2.1 x.2.2.2.2
  | submitVerification, x, a => .submitVerification a x.1 x.2.1 x.2.2.1 x.2.2.2.1 x.2.2.2.2.1 x.2.2.2.2.2.1
      x.2.2.2.2.2.2.1 x.2.2.2.2.2.2.2
  | attestVerification, _, a => .attestVerification a

/-- The data that a client builds for a call. -/
def data (f : InstructionKind) (x : f.Args) : List U8 :=
  f.discriminator.toList ++ f.codec.encode x

end InstructionKind

/-- How the entry point fails before a handler is called. -/
inductive EntryError where
  | instructionFallbackNotFound
  | instructionDidNotDeserialize
deriving DecidableEq

/-- What the data of an instruction calls; bytes after the arguments are not looked at. -/
def dispatch (data : List U8) : Except EntryError (Σ f : InstructionKind, f.Args) :=
  match InstructionKind.all.find? fun f => f.discriminator.toList.isPrefixOf data with
  | none => .error .instructionFallbackNotFound
  | some f =>
    match f.codec.decode (data.drop 8) with
    | none => .error .instructionDidNotDeserialize
    | some (x, _) => .ok ⟨f, x⟩

section
variable {f : InstructionKind} {x : f.Args} {data : List U8}

/-- Every instruction is on the list. -/
lemma InstructionKind.mem_all (f : InstructionKind) : f ∈ InstructionKind.all := by
  cases f <;> decide

/-- The function whose discriminator is at the front is the one that is found. -/
lemma find_discriminator (front : f.discriminator.toList <+: data) :
    (InstructionKind.all.find? fun f => f.discriminator.toList.isPrefixOf data) = some f := by
  cases found : InstructionKind.all.find? fun f => f.discriminator.toList.isPrefixOf data with
  | none =>
    have no := List.find?_eq_none.mp found f f.mem_all
    exact absurd (List.isPrefixOf_iff_prefix.mpr front) no
  | some f' =>
    have front' := List.find?_some found
    rw [List.isPrefixOf_iff_prefix] at front'
    -- both are the first eight bytes
    have same : f'.discriminator.toList = f.discriminator.toList := by
      have eight : ∀ f : InstructionKind, f.discriminator.toList.length = 8 := fun f => Vector.length_toList ..
      rw [List.prefix_iff_eq_take.mp front, List.prefix_iff_eq_take.mp front', eight, eight]
    rw [InstructionKind.discriminator_inj (Vector.toList_inj.mp same)]

/-- What was built for a call, and nothing else, makes this call. -/
lemma dispatch_eq_ok : dispatch data = .ok ⟨f, x⟩ ↔ ∃ rest, data = f.data x ++ rest := by
  have eight : f.discriminator.toList.length = 8 := Vector.length_toList ..
  constructor
  · intro calls
    unfold dispatch at calls
    split at calls
    · cases calls
    · next f' found =>
      split at calls
      · cases calls
      · next y rest read =>
        cases calls
        have front := List.find?_some found
        obtain ⟨back, rfl⟩ := List.isPrefixOf_iff_prefix.mp front
        rw [List.drop_left' eight] at read
        refine ⟨rest, ?_⟩
        rw [InstructionKind.data, List.append_assoc, f.codec.encode_decode read]
  · rintro ⟨rest, rfl⟩
    have whole : f.data x ++ rest = f.discriminator.toList ++ (f.codec.encode x ++ rest) :=
      List.append_assoc ..
    rw [whole, dispatch, find_discriminator (List.prefix_append ..)]
    simp only [List.drop_left' eight, f.codec.decode_encode]

/-- No instruction is found when the data begins with no discriminator. -/
lemma dispatch_not_found :
    dispatch data = .error .instructionFallbackNotFound ↔
      ∀ f : InstructionKind, ¬ f.discriminator.toList <+: data := by
  constructor
  · intro unknown f front
    rw [dispatch, find_discriminator front] at unknown
    simp only at unknown
    split at unknown <;> cases unknown
  · intro unknown
    have nothing : (InstructionKind.all.find? fun f => f.discriminator.toList.isPrefixOf data) = none :=
      List.find?_eq_none.mpr fun f _ front => unknown f (List.isPrefixOf_iff_prefix.mp front)
    rw [dispatch, nothing]

/-- Data that names a function has no arguments of it only where none of that function's calls is at the front. -/
lemma dispatch_not_deserialized :
    dispatch data = .error .instructionDidNotDeserialize ↔
      ∃ f : InstructionKind, f.discriminator.toList <+: data ∧ ∀ x rest, data ≠ f.data x ++ rest := by
  constructor
  · intro refused
    by_cases known : ∃ f : InstructionKind, f.discriminator.toList <+: data
    · obtain ⟨f, front⟩ := known
      refine ⟨f, front, fun x rest same => ?_⟩
      cases refused.symm.trans (dispatch_eq_ok.mpr ⟨rest, same⟩)
    · cases refused.symm.trans (dispatch_not_found.mpr (not_exists.mp known))
  · rintro ⟨f, front, short⟩
    cases called : dispatch data with
    | ok call =>
      obtain ⟨f', x⟩ := call
      obtain ⟨rest, same⟩ := dispatch_eq_ok.mp called
      -- no data begins with two discriminators
      have front' : f'.discriminator.toList <+: data := by
        rw [same, InstructionKind.data, List.append_assoc]
        exact List.prefix_append ..
      cases (find_discriminator front).symm.trans (find_discriminator front')
      exact absurd same (short x rest)
    | error e =>
      cases e with
      | instructionFallbackNotFound => exact absurd front (dispatch_not_found.mp called f)
      | instructionDidNotDeserialize => rfl

end

/-- Every instruction is a call of a function of `lib.rs`. -/
lemma Instruction.exists_call (i : Instruction K) (fits : ∀ s ∈ i.strings, (utf8 s).length < 2 ^ 32) :
    ∃ (f : InstructionKind) (x : f.Args) (a : f.Accounts K), f.instruction x a = i := by
  cases i with
  | initializePlatform a orig perf hurdle => exact ⟨.initializePlatform, (orig, perf, hurdle), a, rfl⟩
  | createProject a id target term => exact ⟨.createProject, (id, target, term), a, rfl⟩
  | activateProject a => exact ⟨.activateProject, (), a, rfl⟩
  | distributeRepayment a n => exact ⟨.distributeRepayment, n, a, rfl⟩
  | closeProject a => exact ⟨.closeProject, (), a, rfl⟩
  | createPool a id target => exact ⟨.createPool, (id, target), a, rfl⟩
  | addProjectToPool a => exact ⟨.addProjectToPool, (), a, rfl⟩
  | distributePoolReturns a n => exact ⟨.distributePoolReturns, n, a, rfl⟩
  | withdrawProjectFunds a n => exact ⟨.withdrawProjectFunds, n, a, rfl⟩
  | buyProjectTokens a n => exact ⟨.buyProjectTokens, n, a, rfl⟩
  | claimProjectReturns a => exact ⟨.claimProjectReturns, (), a, rfl⟩
  | withdrawInvestment a => exact ⟨.withdrawInvestment, (), a, rfl⟩
  | buyPoolTokens a n => exact ⟨.buyPoolTokens, n, a, rfl⟩
  | claimPoolReturns a => exact ⟨.claimPoolReturns, (), a, rfl⟩
  | registerMrvProject a id name sector location upgrade =>
    exact ⟨.registerMrvProject, (id, ⟨name, fits _ (.head _)⟩, ⟨sector, fits _ (.tail _ (.head _))⟩,
      ⟨location, fits _ (.tail _ (.tail _ (.head _)))⟩, ⟨upgrade, fits _ (.tail _ (.tail _ (.tail _ (.head _))))⟩),
      a, rfl⟩
  | addAuditor a name certification =>
    exact ⟨.addAuditor, (⟨name, fits _ (.head _)⟩, ⟨certification, fits _ (.tail _ (.head _))⟩), a, rfl⟩
  | submitBaseline a energy fuel cost co2 hash =>
    exact ⟨.submitBaseline, (energy, ⟨fuel, fits _ (.head _)⟩, cost, co2, hash), a, rfl⟩
  | submitVerification a index start stop energy cost co2 bps hash =>
    exact ⟨.submitVerification, (index, start, stop, energy, cost, co2, bps, hash), a, rfl⟩
  | attestVerification a => exact ⟨.attestVerification, (), a, rfl⟩

/-- Every instruction is called by the data built for it, whatever follows; data calls what it was built for and
nothing else. What calls nothing either begins with no function's discriminator, or begins with one that the
arguments of no call of this function follow, and the two errors tell which. -/
theorem entry_dispatch :
    (∀ i : Instruction K, (∀ s ∈ i.strings, (utf8 s).length < 2 ^ 32) →
      ∃ (f : InstructionKind) (x : f.Args) (a : f.Accounts K), f.instruction x a = i ∧
        ∀ rest, dispatch (f.data x ++ rest) = .ok ⟨f, x⟩) ∧
    (∀ data (f : InstructionKind) (x : f.Args), dispatch data = .ok ⟨f, x⟩ ↔ ∃ rest, data = f.data x ++ rest) ∧
    (∀ data, dispatch data = .error .instructionFallbackNotFound ↔
      ∀ f : InstructionKind, ¬ f.discriminator.toList <+: data) ∧
    ∀ data, dispatch data = .error .instructionDidNotDeserialize ↔
      ∃ f : InstructionKind, f.discriminator.toList <+: data ∧ ∀ x rest, data ≠ f.data x ++ rest := by
  refine ⟨?_, fun data f x => dispatch_eq_ok, fun data => dispatch_not_found, fun data =>
    dispatch_not_deserialized⟩
  intro i fits
  obtain ⟨f, x, a, call⟩ := i.exists_call fits
  exact ⟨f, x, a, call, fun rest => dispatch_eq_ok.mpr ⟨rest, rfl⟩⟩

end Exira
