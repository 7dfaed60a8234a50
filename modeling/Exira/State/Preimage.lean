import Exira.Lib.Layout
import Exira.State.Address

/-!
# Seed preimages

What the runtime hashes into a program-derived address: the seed byte strings of `constants.rs` and of the
`seeds = [..]` lists, then the bump, without separators. `Addresses` takes it for granted that such an
address tells its seeds and its bump; here this comes down to the hash. The total lengths of the nine
kinds are all different, so neither a seed that is a prefix of another (`pool`, `pool_link`) nor an id or
a key next to it can make two preimages equal.
-/

namespace Exira

/-- `Pubkey` -/
abbrev Pubkey := Vector U8 32

/-- A byte string literal. -/
def ascii (s : String) : List U8 :=
  s.toList.map fun c => BitVec.ofNat 8 c.toNat

def PLATFORM_SEED : List U8 := ascii "platform"
def PROJECT_SEED : List U8 := ascii "project"
def POOL_SEED : List U8 := ascii "pool"
def POOL_LINK_SEED : List U8 := ascii "pool_link"
def POSITION_SEED : List U8 := ascii "position"
def MRV_PROJECT_SEED : List U8 := ascii "mrv_project"
def BASELINE_SEED : List U8 := ascii "baseline"
def VERIFICATION_SEED : List U8 := ascii "verification"
def AUDITOR_SEED : List U8 := ascii "auditor"

/-- The account kinds. -/
inductive SeedKind where
  | platform
  | project
  | pool
  | poolLink
  | position
  | mrvProject
  | baseline
  | verification
  | auditor
deriving DecidableEq

namespace Seeds

/-- The kind of record a list of seeds leads to. -/
def kind {K : Type} : Seeds K → SeedKind
  | .platform => .platform
  | .project _ => .project
  | .pool _ => .pool
  | .poolLink _ _ => .poolLink
  | .position _ _ => .position
  | .mrvProject _ => .mrvProject
  | .baseline _ => .baseline
  | .verification _ _ => .verification
  | .auditor _ => .auditor

/-- The byte strings of a `seeds = [..]` list. -/
def bytes : Seeds Pubkey → List (List U8)
  | .platform => [PLATFORM_SEED]
  | .project i => [PROJECT_SEED, i.toLeBytes 8]
  | .pool i => [POOL_SEED, i.toLeBytes 8]
  | .poolLink p q => [POOL_LINK_SEED, p.toList, q.toList]
  | .position t o => [POSITION_SEED, t.toList, o.toList]
  | .mrvProject i => [MRV_PROJECT_SEED, i.toLeBytes 8]
  | .baseline m => [BASELINE_SEED, m.toList]
  | .verification m i => [VERIFICATION_SEED, m.toList, [i]]
  | .auditor w => [AUDITOR_SEED, w.toList]

end Seeds

/-- The widths of the seeds of a kind. -/
def SeedKind.widths : SeedKind → List ℕ
  | platform => [8]
  | project => [7, 8]
  | pool => [4, 8]
  | poolLink => [9, 32, 32]
  | position => [8, 32, 32]
  | mrvProject => [11, 8]
  | baseline => [8, 32]
  | verification => [12, 32, 1]
  | auditor => [7, 32]

/-- The bytes of a list of seeds are cut as the widths of its kind say. -/
lemma Seeds.bytes_widths (σ : Seeds Pubkey) : σ.bytes.map List.length = σ.kind.widths := by
  cases σ <;> simp [bytes, kind, SeedKind.widths] <;> rfl

/-- Within a kind the seeds determine the parameters. -/
lemma Seeds.bytes_inj {σ τ : Seeds Pubkey} (kinds : σ.kind = τ.kind) (e : σ.bytes = τ.bytes) :
    σ = τ := by
  cases σ <;> cases τ <;> cases kinds <;>
    simp only [bytes, List.cons.injEq, Vector.toList_inj, and_true, true_and] at e
  case platform => rfl
  case project i j => rw [BitVec.toLeBytes_inj (by decide) e]
  case pool i j => rw [BitVec.toLeBytes_inj (by decide) e]
  case poolLink => rw [e.1, e.2]
  case position => rw [e.1, e.2]
  case mrvProject i j => rw [BitVec.toLeBytes_inj (by decide) e]
  case baseline => rw [e]
  case verification => rw [e.1, e.2]
  case auditor => rw [e]

/-- The bytes of the seeds and of the bump, as they are hashed. -/
def preimage (σ : Seeds Pubkey) (bump : U8) : List U8 :=
  (σ.bytes ++ [[bump]]).flatten

example : preimage (.pool 258) 254 = ascii "pool" ++ [2, 1, 0, 0, 0, 0, 0, 0] ++ [254] := by decide

/-- The preimages as a layout: the seeds of a list, then the bump in a byte of its own. -/
def seedLayout : Layout (Seeds Pubkey × U8) SeedKind U8 where
  kind := fun r => r.1.kind
  widths := fun k => k.widths ++ [1]
  fields := fun r => r.1.bytes ++ [[r.2]]
  fields_widths := by
    rintro ⟨σ, b⟩
    rw [List.map_append, σ.bytes_widths]
    rfl

/-- The preimage of an address is what the layout of the seeds writes. -/
lemma encode_seedLayout (σ : Seeds Pubkey) (b : U8) : seedLayout.encode (σ, b) = preimage σ b := rfl

/-- The tags of the seeds can be told apart, so a preimage can be read back. -/
lemma seedLayout_readable : seedLayout.Readable where
  widths_inj := by
    intro k l e
    cases k <;> cases l <;> first | rfl | cases e
  fields_inj := by
    rintro ⟨σ, b⟩ ⟨τ, c⟩ kinds e
    obtain ⟨seeds, bump⟩ := List.append_inj' e rfl
    cases Seeds.bytes_inj kinds seeds
    cases bump
    rfl

/-- A program-derived address. `suffix` is what the runtime hashes after the seeds, the program id and a
marker. -/
def hashedAddress {A : Type} (hash : List U8 → A) (suffix : List U8) (σ : Seeds Pubkey) (bump : U8) : A :=
  hash (preimage σ bump ++ suffix)

/-- Two accounts at one address are a collision of the hash. -/
lemma shared_address_collides {A : Type} (hash : List U8 → A) (suffix : List U8) {σ τ : Seeds Pubkey}
    {b c : U8} (e : hashedAddress hash suffix σ b = hashedAddress hash suffix τ c) :
    (σ = τ ∧ b = c) ∨ Collides hash := by
  rw [← Prod.mk.injEq]
  exact Layout.eq_or_collides seedLayout_readable hash suffix e

/-- Equal preimages have equal kinds, parameters and bumps. If the hash is injective, then no two accounts
share an address. -/
theorem preimages_unambiguous :
    (∀ (σ τ : Seeds Pubkey) (b c : U8), preimage σ b = preimage τ c ↔ σ = τ ∧ b = c) ∧
    ∀ {A : Type} (hash : List U8 → A) (suffix : List U8), Function.Injective hash →
      ∀ (σ τ : Seeds Pubkey) (b c : U8),
        hashedAddress hash suffix σ b = hashedAddress hash suffix τ c ↔ σ = τ ∧ b = c := by
  constructor
  · intro σ τ b c
    rw [← encode_seedLayout, ← encode_seedLayout, (Layout.encode_inj seedLayout_readable).eq_iff,
      Prod.mk.injEq]
  · intro A hash suffix inj σ τ b c
    constructor
    · intro e
      exact (shared_address_collides hash suffix e).resolve_right inj.not_collides
    · rintro ⟨rfl, rfl⟩
      rfl

/-- The link of a pool and a project never is the position of the project in the pool. -/
theorem preimages_unambiguous_id :
    hashedAddress id [] (.poolLink (.replicate 32 1) (.replicate 32 2)) 255 ≠
      hashedAddress id [] (.position (.replicate 32 1) (.replicate 32 2)) 255 := by
  intro e
  cases ((preimages_unambiguous.2 id [] Function.injective_id _ _ _ _).mp e).1

end Exira
