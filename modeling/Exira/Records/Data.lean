import Exira.Lib.Codec
import Exira.State.Kinds

/-!
# Account data

The bytes of an account: the eight bytes of its type's discriminator, then its fields in order, integers in
little-endian, booleans and enumerations in one byte. `space = 8 + T::INIT_SPACE` bytes are allocated for it, and
what is written fills them (`SeedKind.length_trySerialize`). An `Account<'info, T>` reads the data of type `T` back
and refuses that of every other type, so that a lookup in the table of a kind is what a typed load sees.
-/

namespace Exira

variable {K : Type}

/-! ## Fields -/

/-- `Pubkey`: its 32 bytes -/
def Pubkey.codec : Codec U8 Pubkey :=
  .symbols U8 32

namespace Borsh

def u8 : Codec U8 U8 := .symbol U8
def u16 : Codec U8 U16 := .int 2
def u32 : Codec U8 U32 := .int 4
def u64 : Codec U8 U64 := .int 8
def u128 : Codec U8 U128 := .int 16

/-- An `i64` is the word of its two's complement. -/
def i64 : Codec U8 Int64 :=
  (Codec.int 8).iso Int64.ofBitVec Int64.toBitVec (fun _ => rfl) (fun _ => rfl)

/-- A fixed array is its bytes. -/
def bytes (n : ℕ) : Codec U8 (Vector U8 n) := .symbols U8 n

/-- `bool`: zero or one, and nothing else -/
def bool : Codec U8 Bool :=
  .tagged (.symbol U8) (fun b => if b then 1 else 0) (by decide) [false, true] (by decide)

end Borsh

/-- The number of a variant, in the order of the declaration. -/
def ProjectStatus.tag : ProjectStatus → U8
  | .funding => 0
  | .active => 1
  | .repaying => 2
  | .completed => 3
  | .cancelled => 4

/-- The variants in the order of the enum. -/
def PoolStatus.tag : PoolStatus → U8
  | .funding => 0
  | .active => 1
  | .distributing => 2
  | .completed => 3
  | .cancelled => 4

/-- The variants in the order of the enum. -/
def MrvProjectStatus.tag : MrvProjectStatus → U8
  | .registered => 0
  | .baselineSubmitted => 1
  | .inProgress => 2
  | .completed => 3

namespace Borsh

/-- A `ProjectStatus` is its tag. -/
def projectStatus : Codec U8 ProjectStatus :=
  .tagged (.symbol U8) ProjectStatus.tag (by rintro ⟨⟩ ⟨⟩ e <;> first | rfl | cases e)
    [.funding, .active, .repaying, .completed, .cancelled] (by rintro ⟨⟩ <;> decide)

/-- A `PoolStatus` is its tag. -/
def poolStatus : Codec U8 PoolStatus :=
  .tagged (.symbol U8) PoolStatus.tag (by rintro ⟨⟩ ⟨⟩ e <;> first | rfl | cases e)
    [.funding, .active, .distributing, .completed, .cancelled] (by rintro ⟨⟩ <;> decide)

/-- A `MrvProjectStatus` is its tag. -/
def mrvProjectStatus : Codec U8 MrvProjectStatus :=
  .tagged (.symbol U8) MrvProjectStatus.tag (by rintro ⟨⟩ ⟨⟩ e <;> first | rfl | cases e)
    [.registered, .baselineSubmitted, .inProgress, .completed] (by rintro ⟨⟩ <;> decide)

lemma sized_u8 : u8.Sized 1 := Codec.sized_symbol
lemma sized_u16 : u16.Sized 2 := Codec.sized_int
lemma sized_u32 : u32.Sized 4 := Codec.sized_int
lemma sized_u64 : u64.Sized 8 := Codec.sized_int
lemma sized_u128 : u128.Sized 16 := Codec.sized_int
lemma sized_i64 : i64.Sized 8 := Codec.sized_int.iso
lemma sized_bytes {n : ℕ} : (bytes n).Sized n := Codec.sized_symbols
lemma sized_bool : bool.Sized 1 := Codec.sized_symbol.tagged
lemma sized_projectStatus : projectStatus.Sized 1 := Codec.sized_symbol.tagged
lemma sized_poolStatus : poolStatus.Sized 1 := Codec.sized_symbol.tagged
lemma sized_mrvProjectStatus : mrvProjectStatus.Sized 1 := Codec.sized_symbol.tagged

end Borsh

/-! ## Records -/

section
open Borsh
variable (key : Codec U8 K)

/-- The fields of a platform, in order. -/
def Platform.codec : Codec U8 (Platform K) :=
  (key.pair <| key.pair <| key.pair <| u16.pair <| u16.pair <| u16.pair <| u64.pair <| u64.pair u8).iso
    (fun x => ⟨x.1, x.2.1, x.2.2.1, x.2.2.2.1, x.2.2.2.2.1, x.2.2.2.2.2.1, x.2.2.2.2.2.2.1, x.2.2.2.2.2.2.2.1,
      x.2.2.2.2.2.2.2.2⟩)
    (fun p => (p.admin, p.treasury, p.usdcMint, p.originationFeeBps, p.performanceFeeBps, p.hurdleRateBps,
      p.projectCount, p.poolCount, p.bump))
    (fun _ => rfl) (fun _ => rfl)

/-- The fields of a project, in order. -/
def Project.codec : Codec U8 (Project K) :=
  (u64.pair <| key.pair <| key.pair <| key.pair <| u64.pair <| u64.pair <| u64.pair <| u128.pair <| u8.pair <|
    projectStatus.pair <| i64.pair <| i64.pair <| u64.pair u8).iso
    (fun x => ⟨x.1, x.2.1, x.2.2.1, x.2.2.2.1, x.2.2.2.2.1, x.2.2.2.2.2.1, x.2.2.2.2.2.2.1, x.2.2.2.2.2.2.2.1,
      x.2.2.2.2.2.2.2.2.1, x.2.2.2.2.2.2.2.2.2.1, x.2.2.2.2.2.2.2.2.2.2.1, x.2.2.2.2.2.2.2.2.2.2.2.1,
      x.2.2.2.2.2.2.2.2.2.2.2.2.1, x.2.2.2.2.2.2.2.2.2.2.2.2.2⟩)
    (fun p => (p.projectId, p.mrvProject, p.tokenMint, p.usdcVault, p.targetAmount, p.tokensSold,
      p.totalDistributed, p.cumulativeUsdcPerToken, p.termMonths, p.status, p.activatedAt, p.createdAt,
      p.originationFeeCollected, p.bump))
    (fun _ => rfl) (fun _ => rfl)

/-- The fields of a pool, in order. -/
def Pool.codec : Codec U8 (Pool K) :=
  (u64.pair <| key.pair <| key.pair <| u64.pair <| u64.pair <| u64.pair <| u128.pair <| u16.pair <|
    poolStatus.pair <| i64.pair u8).iso
    (fun x => ⟨x.1, x.2.1, x.2.2.1, x.2.2.2.1, x.2.2.2.2.1, x.2.2.2.2.2.1, x.2.2.2.2.2.2.1, x.2.2.2.2.2.2.2.1,
      x.2.2.2.2.2.2.2.2.1, x.2.2.2.2.2.2.2.2.2.1, x.2.2.2.2.2.2.2.2.2.2⟩)
    (fun p => (p.poolId, p.poolTokenMint, p.usdcVault, p.targetAmount, p.tokensSold, p.totalDistributed,
      p.cumulativeUsdcPerToken, p.underlyingProjectCount, p.status, p.createdAt, p.bump))
    (fun _ => rfl) (fun _ => rfl)

/-- The fields of a link, in order. -/
def PoolProjectLink.codec : Codec U8 (PoolProjectLink K) :=
  (key.pair <| key.pair <| u64.pair u8).iso
    (fun x => ⟨x.1, x.2.1, x.2.2.1, x.2.2.2⟩)
    (fun l => (l.pool, l.project, l.projectTokensHeld, l.bump))
    (fun _ => rfl) (fun _ => rfl)

/-- The fields of a position, in order. -/
def InvestorPosition.codec : Codec U8 (InvestorPosition K) :=
  (key.pair <| key.pair <| u64.pair <| u128.pair <| u64.pair u8).iso
    (fun x => ⟨x.1, x.2.1, x.2.2.1, x.2.2.2.1, x.2.2.2.2.1, x.2.2.2.2.2⟩)
    (fun q => (q.owner, q.target, q.tokensHeld, q.lastClaimedPerToken, q.totalClaimed, q.bump))
    (fun _ => rfl) (fun _ => rfl)

/-- The fields of an MRV entry, in order. -/
def MrvProject.codec : Codec U8 MrvProject :=
  (u64.pair <| (bytes MSME_NAME_LEN).pair <| (bytes SECTOR_LEN).pair <| (bytes LOCATION_LEN).pair <|
    (bytes UPGRADE_TYPE_LEN).pair <| mrvProjectStatus.pair <| bool.pair <| u8.pair <| i64.pair u8).iso
    (fun x => ⟨x.1, x.2.1, x.2.2.1, x.2.2.2.1, x.2.2.2.2.1, x.2.2.2.2.2.1, x.2.2.2.2.2.2.1, x.2.2.2.2.2.2.2.1,
      x.2.2.2.2.2.2.2.2.1, x.2.2.2.2.2.2.2.2.2⟩)
    (fun m => (m.projectId, m.msmeName, m.sector, m.location, m.upgradeType, m.status, m.baselineSubmitted,
      m.verificationCount, m.createdAt, m.bump))
    (fun _ => rfl) (fun _ => rfl)

/-- The fields of a baseline, in order. -/
def Baseline.codec : Codec U8 (Baseline K) :=
  (key.pair <| key.pair <| u64.pair <| (bytes FUEL_TYPE_LEN).pair <| u64.pair <| u64.pair <| (bytes 32).pair <|
    i64.pair u8).iso
    (fun x => ⟨x.1, x.2.1, x.2.2.1, x.2.2.2.1, x.2.2.2.2.1, x.2.2.2.2.2.1, x.2.2.2.2.2.2.1, x.2.2.2.2.2.2.2.1,
      x.2.2.2.2.2.2.2.2⟩)
    (fun b => (b.mrvProject, b.auditor, b.energyKwhPerYear, b.fuelType, b.costInrPerYear, b.co2TonsPerYearX100,
      b.reportHash, b.submittedAt, b.bump))
    (fun _ => rfl) (fun _ => rfl)

/-- The fields of a verification, in order. -/
def Verification.codec : Codec U8 (Verification K) :=
  (key.pair <| key.pair <| u8.pair <| i64.pair <| i64.pair <| u64.pair <| u64.pair <| u64.pair <| u16.pair <|
    (bytes 32).pair <| bool.pair <| i64.pair u8).iso
    (fun x => ⟨x.1, x.2.1, x.2.2.1, x.2.2.2.1, x.2.2.2.2.1, x.2.2.2.2.2.1, x.2.2.2.2.2.2.1, x.2.2.2.2.2.2.2.1,
      x.2.2.2.2.2.2.2.2.1, x.2.2.2.2.2.2.2.2.2.1, x.2.2.2.2.2.2.2.2.2.2.1, x.2.2.2.2.2.2.2.2.2.2.2.1,
      x.2.2.2.2.2.2.2.2.2.2.2.2⟩)
    (fun v => (v.mrvProject, v.auditor, v.index, v.periodStart, v.periodEnd, v.energyKwhSaved, v.costInrSaved,
      v.co2TonsAvoidedX100, v.savingsVsExpectedBps, v.reportHash, v.attested, v.submittedAt, v.bump))
    (fun _ => rfl) (fun _ => rfl)

/-- The fields of an auditor, in order. -/
def Auditor.codec : Codec U8 (Auditor K) :=
  (key.pair <| (bytes AUDITOR_NAME_LEN).pair <| (bytes CERTIFICATION_LEN).pair <| bool.pair <| u32.pair <|
    i64.pair u8).iso
    (fun x => ⟨x.1, x.2.1, x.2.2.1, x.2.2.2.1, x.2.2.2.2.1, x.2.2.2.2.2.1, x.2.2.2.2.2.2⟩)
    (fun a => (a.wallet, a.name, a.certification, a.isActive, a.projectsAudited, a.addedAt, a.bump))
    (fun _ => rfl) (fun _ => rfl)

end

namespace SeedKind

/-- The Borsh format of a kind's fields. -/
def codec (key : Codec U8 K) : (κ : SeedKind) → Codec U8 (κ.Record K)
  | .platform => Platform.codec key
  | .project => Project.codec key
  | .pool => Pool.codec key
  | .poolLink => PoolProjectLink.codec key
  | .position => InvestorPosition.codec key
  | .mrvProject => MrvProject.codec
  | .baseline => Baseline.codec key
  | .verification => Verification.codec key
  | .auditor => Auditor.codec key

/-- `T::INIT_SPACE`, for addresses of `w` bytes -/
def initSpace (w : ℕ) : SeedKind → ℕ
  | .platform => 3 * w + 3 * 2 + 2 * 8 + 1
  | .project => 8 + 3 * w + 3 * 8 + 16 + 1 + 1 + 2 * 8 + 8 + 1
  | .pool => 8 + 2 * w + 3 * 8 + 16 + 2 + 1 + 8 + 1
  | .poolLink => 2 * w + 8 + 1
  | .position => 2 * w + 8 + 16 + 8 + 1
  | .mrvProject => 8 + 64 + 32 + 64 + 32 + 1 + 1 + 1 + 8 + 1
  | .baseline => 2 * w + 8 + 16 + 2 * 8 + 32 + 8 + 1
  | .verification => 2 * w + 1 + 2 * 8 + 3 * 8 + 2 + 32 + 1 + 8 + 1
  | .auditor => w + 64 + 32 + 1 + 4 + 8 + 1

/-- The discriminator that Anchor derives from the name of the account type. -/
def discriminator : SeedKind → Vector U8 8
  | .platform => #v[77, 92, 204, 58, 187, 98, 91, 12]
  | .project => #v[205, 168, 189, 202, 181, 247, 142, 19]
  | .pool => #v[241, 154, 109, 4, 17, 177, 109, 188]
  | .poolLink => #v[162, 147, 47, 80, 80, 108, 48, 178]
  | .position => #v[145, 143, 236, 150, 229, 40, 195, 88]
  | .mrvProject => #v[93, 75, 190, 79, 171, 147, 62, 189]
  | .baseline => #v[253, 82, 53, 107, 104, 82, 37, 77]
  | .verification => #v[230, 33, 140, 88, 132, 240, 116, 178]
  | .auditor => #v[163, 185, 74, 35, 129, 30, 235, 28]

/-- The discriminators are nine different ones. -/
lemma discriminator_inj : Function.Injective discriminator := by
  intro κ κ' e
  cases κ <;> cases κ' <;> first | rfl | exact absurd e (by decide)

end SeedKind

section
open Borsh
variable {key : Codec U8 K}

/-- The fields of a kind fill its `INIT_SPACE`. -/
lemma SeedKind.codec_sized {w : ℕ} (k : key.Sized w) (κ : SeedKind) :
    (κ.codec key).Sized (κ.initSpace w) := by
  cases κ with
  | platform =>
    rw [codec, Platform.codec]
    refine Codec.Sized.cast (Codec.Sized.iso <| k.pair <| k.pair <| k.pair <| sized_u16.pair <| sized_u16.pair <|
      sized_u16.pair <| sized_u64.pair <| sized_u64.pair sized_u8) ?_
    simp only [initSpace]
    omega
  | project =>
    rw [codec, Project.codec]
    refine Codec.Sized.cast (Codec.Sized.iso <| sized_u64.pair <| k.pair <| k.pair <| k.pair <| sized_u64.pair <|
      sized_u64.pair <| sized_u64.pair <| sized_u128.pair <| sized_u8.pair <| sized_projectStatus.pair <|
      sized_i64.pair <| sized_i64.pair <| sized_u64.pair sized_u8) ?_
    simp only [initSpace]
    omega
  | pool =>
    rw [codec, Pool.codec]
    refine Codec.Sized.cast (Codec.Sized.iso <| sized_u64.pair <| k.pair <| k.pair <| sized_u64.pair <|
      sized_u64.pair <| sized_u64.pair <| sized_u128.pair <| sized_u16.pair <| sized_poolStatus.pair <|
      sized_i64.pair sized_u8) ?_
    simp only [initSpace]
    omega
  | poolLink =>
    rw [codec, PoolProjectLink.codec]
    apply Codec.Sized.cast (Codec.Sized.iso <| k.pair <| k.pair <| sized_u64.pair sized_u8)
    simp only [initSpace]
    omega
  | position =>
    rw [codec, InvestorPosition.codec]
    refine Codec.Sized.cast (Codec.Sized.iso <| k.pair <| k.pair <| sized_u64.pair <| sized_u128.pair <|
      sized_u64.pair sized_u8) ?_
    simp only [initSpace]
    omega
  | mrvProject =>
    rw [codec, MrvProject.codec]
    exact Codec.Sized.cast (Codec.Sized.iso <| sized_u64.pair <| sized_bytes.pair <| sized_bytes.pair <|
      sized_bytes.pair <| sized_bytes.pair <| sized_mrvProjectStatus.pair <| sized_bool.pair <| sized_u8.pair <|
      sized_i64.pair sized_u8) rfl
  | baseline =>
    rw [codec, Baseline.codec]
    refine Codec.Sized.cast (Codec.Sized.iso <| k.pair <| k.pair <| sized_u64.pair <| sized_bytes.pair <|
      sized_u64.pair <| sized_u64.pair <| sized_bytes.pair <| sized_i64.pair sized_u8) ?_
    simp only [initSpace, FUEL_TYPE_LEN]
    omega
  | verification =>
    rw [codec, Verification.codec]
    refine Codec.Sized.cast (Codec.Sized.iso <| k.pair <| k.pair <| sized_u8.pair <| sized_i64.pair <|
      sized_i64.pair <| sized_u64.pair <| sized_u64.pair <| sized_u64.pair <| sized_u16.pair <| sized_bytes.pair <|
      sized_bool.pair <| sized_i64.pair sized_u8) ?_
    simp only [initSpace]
    omega
  | auditor =>
    rw [codec, Auditor.codec]
    refine Codec.Sized.cast (Codec.Sized.iso <| k.pair <| sized_bytes.pair <| sized_bytes.pair <| sized_bool.pair <|
      sized_u32.pair <| sized_i64.pair sized_u8) ?_
    simp only [initSpace, AUDITOR_NAME_LEN, CERTIFICATION_LEN]

end

/-! ## Accounts -/

/-- How reading an account's data as one of a type fails. -/
inductive DataError where
  | accountDiscriminatorNotFound
  | accountDiscriminatorMismatch
  | accountDidNotDeserialize
deriving DecidableEq

namespace SeedKind
variable (key : Codec U8 K) {κ κ' : SeedKind}

/-- `space = 8 + T::INIT_SPACE` -/
def space (w : ℕ) (κ : SeedKind) : ℕ :=
  8 + κ.initSpace w

/-- `AccountSerialize::try_serialize`: the discriminator, then the fields -/
def trySerialize (κ : SeedKind) (r : κ.Record K) : List U8 :=
  κ.discriminator.toList ++ (κ.codec key).encode r

/-- `AccountDeserialize::try_deserialize`; bytes after the fields are not looked at -/
def tryDeserialize (κ : SeedKind) (data : List U8) : Except DataError (κ.Record K) :=
  if data.length < 8 then .error .accountDiscriminatorNotFound
  else if data.take 8 ≠ κ.discriminator.toList then .error .accountDiscriminatorMismatch
  else match (κ.codec key).decode (data.drop 8) with
    | none => .error .accountDidNotDeserialize
    | some (r, _) => .ok r

variable {key} in
/-- The data of an account fills the space of its kind. -/
lemma length_trySerialize {w : ℕ} (k : key.Sized w) (r : κ.Record K) :
    (κ.trySerialize key r).length = κ.space w := by
  rw [trySerialize, List.length_append, (SeedKind.codec_sized k κ).length, Vector.length_toList, space]

/-- The data of an account has a discriminator. -/
lemma trySerialize_long (r : κ.Record K) (rest : List U8) : ¬ (κ.trySerialize key r ++ rest).length < 8 := by
  rw [trySerialize, List.append_assoc, List.length_append, Vector.length_toList]
  omega

/-- The data of an account begins with the discriminator of its kind. -/
lemma take_trySerialize (r : κ.Record K) (rest : List U8) :
    (κ.trySerialize key r ++ rest).take 8 = κ.discriminator.toList := by
  rw [trySerialize, List.append_assoc]
  exact List.take_left' (Vector.length_toList ..)

/-- After the discriminator come the fields. -/
lemma drop_trySerialize (r : κ.Record K) (rest : List U8) :
    (κ.trySerialize key r ++ rest).drop 8 = (κ.codec key).encode r ++ rest := by
  rw [trySerialize, List.append_assoc]
  exact List.drop_left' (Vector.length_toList ..)

/-- What was written, and nothing else, is read. -/
lemma tryDeserialize_eq_ok {data : List U8} {r : κ.Record K} :
    κ.tryDeserialize key data = .ok r ↔ ∃ rest, data = κ.trySerialize key r ++ rest := by
  constructor
  · intro read
    unfold tryDeserialize at read
    split at read
    · cases read
    · split at read
      · cases read
      · next same =>
        split at read
        · cases read
        · next r' rest found =>
          cases read
          refine ⟨rest, ?_⟩
          rw [trySerialize, List.append_assoc, (κ.codec key).encode_decode found, ← not_not.mp same,
            List.take_append_drop]
  · rintro ⟨rest, rfl⟩
    rw [tryDeserialize, if_neg (trySerialize_long key r rest), take_trySerialize, drop_trySerialize,
      (κ.codec key).decode_encode]
    exact if_neg (fun ne => ne rfl)

/-- The data of a type is refused by every other one. -/
lemma tryDeserialize_mismatch (ne : κ' ≠ κ) (r : κ.Record K) (rest : List U8) :
    κ'.tryDeserialize key (κ.trySerialize key r ++ rest) = .error .accountDiscriminatorMismatch := by
  rw [tryDeserialize, if_neg (trySerialize_long key r rest), take_trySerialize, if_pos]
  intro e
  exact ne (discriminator_inj (Vector.toList_inj.mp e)).symm

/-- The data of two accounts begin alike only if they are the same account. -/
lemma trySerialize_append_inj {r : κ.Record K} {r' : κ'.Record K} {rest rest' : List U8}
    (e : κ.trySerialize key r ++ rest = κ'.trySerialize key r' ++ rest') :
    (⟨κ, r⟩ : Account K) = ⟨κ', r'⟩ ∧ rest = rest' := by
  have kinds : κ = κ' := by
    have front := take_trySerialize key r rest
    rw [e, take_trySerialize] at front
    exact (discriminator_inj (Vector.toList_inj.mp front)).symm
  subst kinds
  have fields := drop_trySerialize key r rest
  rw [e, drop_trySerialize] at fields
  obtain ⟨rfl, rfl⟩ := Codec.encode_append_inj fields
  exact ⟨rfl, rfl⟩

end SeedKind

/-- `memcmp` of an account filter: the data has these bytes at the offset. -/
def memcmp (offset : ℕ) (bytes data : List U8) : Bool :=
  (data.drop offset).take bytes.length == bytes

/-- The filters of the client for the positions of a target: Anchor's for the account type, and its own at offset
`8 + 32`. -/
def positionsFilter (target : Pubkey) (data : List U8) : Bool :=
  memcmp 0 SeedKind.position.discriminator.toList data && memcmp (8 + 32) (Pubkey.codec.encode target) data

/-- A key fills 32 bytes. -/
lemma sized_pubkey : Pubkey.codec.Sized 32 :=
  Codec.sized_symbols

/-- The target is right behind the owner. -/
lemma take_target (q : InvestorPosition Pubkey) :
    (((SeedKind.position.codec Pubkey.codec).encode q).drop 32).take 32 = Pubkey.codec.encode q.target := by
  have fields : (SeedKind.position.codec Pubkey.codec).encode q = Pubkey.codec.encode q.owner ++
      (Pubkey.codec.encode q.target ++ ((Borsh.u64.pair <| Borsh.u128.pair <| Borsh.u64.pair Borsh.u8).encode
        (q.tokensHeld, q.lastClaimedPerToken, q.totalClaimed, q.bump))) := rfl
  rw [fields, List.drop_left' (sized_pubkey.length _), List.take_left' (sized_pubkey.length _)]

/-- The filters pick the positions of the target, and no other account. -/
lemma positionsFilter_iff {target : Pubkey} {κ : SeedKind} {r : κ.Record Pubkey} :
    positionsFilter target (κ.trySerialize Pubkey.codec r) = true ↔
      ∃ q : InvestorPosition Pubkey, (⟨κ, r⟩ : Account Pubkey) = ⟨.position, q⟩ ∧ q.target = target := by
  have front := κ.take_trySerialize Pubkey.codec r []
  have back := κ.drop_trySerialize Pubkey.codec r []
  simp only [List.append_nil] at front back
  simp only [positionsFilter, memcmp, Bool.and_eq_true, beq_iff_eq, List.drop_zero, Vector.length_toList,
    ← List.drop_drop, front, back, sized_pubkey.length]
  constructor
  · rintro ⟨kind, bytes⟩
    cases SeedKind.discriminator_inj (Vector.toList_inj.mp kind)
    exact ⟨r, rfl, Codec.encode_inj ((take_target r).symm.trans bytes)⟩
  · rintro ⟨q, same, rfl⟩
    cases same
    exact ⟨rfl, take_target q⟩

/-- The data of every account fills its space; a type reads back what was written as that type, and refuses the
rest; no two accounts have the same data; and the client's filters find the positions of a target and nothing
else. -/
theorem account_data :
    (∀ (κ : SeedKind) (r : κ.Record Pubkey), (κ.trySerialize Pubkey.codec r).length = κ.space 32) ∧
    (∀ (κ : SeedKind) (r : κ.Record Pubkey) data, κ.tryDeserialize Pubkey.codec data = .ok r ↔
      ∃ rest, data = κ.trySerialize Pubkey.codec r ++ rest) ∧
    (∀ (κ κ' : SeedKind) (r : κ.Record Pubkey) rest, κ' ≠ κ →
      κ'.tryDeserialize Pubkey.codec (κ.trySerialize Pubkey.codec r ++ rest)
        = .error .accountDiscriminatorMismatch) ∧
    (∀ (κ κ' : SeedKind) (r : κ.Record Pubkey) (r' : κ'.Record Pubkey),
      κ.trySerialize Pubkey.codec r = κ'.trySerialize Pubkey.codec r' →
        (⟨κ, r⟩ : Account Pubkey) = ⟨κ', r'⟩) ∧
    ∀ (κ : SeedKind) (r : κ.Record Pubkey) target, positionsFilter target (κ.trySerialize Pubkey.codec r) = true ↔
      ∃ q : InvestorPosition Pubkey, (⟨κ, r⟩ : Account Pubkey) = ⟨.position, q⟩ ∧ q.target = target := by
  refine ⟨?_, ?_, ?_, ?_, fun κ r target => positionsFilter_iff⟩
  · exact fun κ r => κ.length_trySerialize sized_pubkey r
  · exact fun κ r data => κ.tryDeserialize_eq_ok Pubkey.codec
  · exact fun κ κ' r rest ne => SeedKind.tryDeserialize_mismatch Pubkey.codec ne r rest
  · intro κ κ' r r' e
    exact (SeedKind.trySerialize_append_inj Pubkey.codec (congrArg (· ++ []) e)).1

/-- `docs/ACCOUNTS.md` sums the fields of a project to 180 bytes and those of a pool to 140. -/
example : [SeedKind.platform, .project, .pool, .poolLink, .position, .mrvProject, .baseline, .verification,
    .auditor].map (SeedKind.space 32) = [127, 179, 132, 81, 105, 220, 153, 157, 150] := rfl

end Exira
