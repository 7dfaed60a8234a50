import Exira.Lib.Local
import Exira.Lib.Token

/-!
# Tables and banks that agree at some keys

`RelOn L R` relates two tables whose values at the keys `L` are related by `R`. Two banks agree on `L` when their
mints and their accounts are the same there: an operation of the token program whose accounts are among `L` then
does the same to both. What an operation leaves alone is that the banks before and after it agree outside its
accounts.
-/

namespace Finmap

variable {K V : Type} [DecidableEq K] {L : Set K} {R : V → V → Prop} {m m' m'' : Table K V} {k : K} {v v' : V}

/-- At the keys `L`, both tables have values related by `R`, or none. -/
def RelOn (L : Set K) (R : V → V → Prop) (m m' : Table K V) : Prop :=
  ∀ k ∈ L, Option.Rel R (m.lookup k) (m'.lookup k)

namespace RelOn

/-- A table is related to itself. -/
lemma refl (same : ∀ v, R v v) (m : Table K V) : RelOn L R m m := by
  intro k _
  cases m.lookup k with
  | none => exact .none
  | some v => exact .some (same v)

/-- Related values are written on both sides. -/
lemma insert (h : RelOn L R m m') (k : K) (r : R v v') : RelOn L R (m.insert k v) (m'.insert k v') := by
  intro x mem
  rw [lookup_insert_ite, lookup_insert_ite]
  split
  · exact .some r
  · exact h x mem

/-- A write at another key. -/
lemma aside (h : RelOn L R m m') (out : k ∉ L) : RelOn L R m (m'.insert k v) := by
  intro x mem
  have ne : x ≠ k := ne_of_mem_of_not_mem mem out
  rw [lookup_insert_of_ne _ ne]
  exact h x mem

/-- Writing elsewhere keeps the values at the keys. -/
lemma write (out : k ∉ L) : RelOn L Eq m (m.insert k v) :=
  (refl (fun _ => rfl) m).aside out

/-- Equal tables have equal values at the keys. -/
lemma lookup_eq (h : RelOn L Eq m m') (mem : k ∈ L) : m'.lookup k = m.lookup k := by
  have rel := h k mem
  generalize m.lookup k = x at rel
  generalize m'.lookup k = y at rel
  cases rel with
  | some e => rw [e]
  | none => rfl

/-- Tables with the same values at the keys are equal there. -/
lemma of_eq (h : ∀ k ∈ L, m'.lookup k = m.lookup k) : RelOn L Eq m m' := by
  intro k mem
  rw [h k mem]
  exact refl (fun _ => rfl) m k mem

/-- Agreement goes on. -/
lemma trans (h : RelOn L Eq m m') (h' : RelOn L Eq m' m'') : RelOn L Eq m m'' :=
  of_eq fun _ mem => (h'.lookup_eq mem).trans (h.lookup_eq mem)

/-- Related tables have the same of the keys. -/
lemma mem (h : RelOn L R m m') (seen : k ∈ L) : k ∈ m' ↔ k ∈ m := by
  rw [← lookup_isSome, ← lookup_isSome]
  have rel := h k seen
  generalize m.lookup k = x at rel
  generalize m'.lookup k = y at rel
  cases rel with
  | some _ => rfl
  | none => rfl

/-- Tables that agree everywhere are equal. -/
lemma ext (h : RelOn Set.univ Eq m m') : m = m' :=
  ext_lookup fun _ => (h.lookup_eq trivial).symm

/-- What the relation keeps of the values is the same everywhere. -/
lemma map_eq {W : Type} {f : V → W} (h : RelOn Set.univ R m m') (keeps : ∀ v v', R v v' → f v = f v') (k : K) :
    (m.lookup k).map f = (m'.lookup k).map f := by
  have rel := h k trivial
  generalize m.lookup k = x at rel
  generalize m'.lookup k = y at rel
  cases rel with
  | some r => exact congrArg some (keeps _ _ r)
  | none => rfl

end RelOn

end Finmap

namespace Token.Bank

open Except

variable {K : Type} [DecidableEq K] {L : Set K} {b b' b'' : Bank K} {source dest token w key owner : K}
  {n : BitVec 64}

/-- The mints and the accounts at the keys `L` are the same. -/
structure AgreeOn (L : Set K) (b b' : Bank K) : Prop where
  mints : Finmap.RelOn L Eq b.mints b'.mints
  accounts : Finmap.RelOn L Eq b.accounts b'.accounts

namespace AgreeOn

/-- A bank agrees with itself. -/
lemma refl (b : Bank K) : AgreeOn L b b :=
  ⟨.refl (fun _ => rfl) _, .refl (fun _ => rfl) _⟩

/-- Agreement goes on. -/
lemma trans (h : AgreeOn L b b') (h' : AgreeOn L b' b'') : AgreeOn L b b'' :=
  ⟨h.mints.trans h'.mints, h.accounts.trans h'.accounts⟩

/-- An account was written on both sides. -/
lemma put (h : AgreeOn L b b') (k : K) (a : Account K) : AgreeOn L (b.put k a) (b'.put k a) :=
  ⟨h.mints, h.accounts.insert k rfl⟩

/-- A mint was written on both sides. -/
lemma putMint (h : AgreeOn L b b') (k : K) (m : Mint K) : AgreeOn L (b.putMint k m) (b'.putMint k m) :=
  ⟨h.mints.insert k rfl, h.accounts⟩

/-- An account at one of the keys is the same. -/
lemma account (h : AgreeOn L b b') {k : K} (mem : k ∈ L) : Match Eq (b.account k) (b'.account k) :=
  .okOr _ (h.accounts k mem)

/-- A mint at one of the keys is the same. -/
lemma mint (h : AgreeOn L b b') {k : K} (mem : k ∈ L) : Match Eq (b.mint k) (b'.mint k) :=
  .okOr _ (h.mints k mem)

/-- Banks that agree everywhere are equal. -/
lemma ext (h : AgreeOn Set.univ b b') : b = b' := by
  obtain ⟨mints, accounts⟩ := b
  obtain ⟨mints', accounts'⟩ := b'
  exact congrArg₂ Bank.mk h.mints.ext h.accounts.ext

/-! ## The same operation on both -/

/-- A transfer between the keys does the same on both sides. -/
lemma transfer (h : AgreeOn L b b') (s : source ∈ L) (d : dest ∈ L) :
    Match (AgreeOn L) (b.transfer source dest w n) (b'.transfer source dest w n) := by
  refine .next (h.account s) fun src _ => ?_
  refine .next (h.account d) fun dst _ => ?_
  refine .next (.refl _) fun _ _ => ?_
  refine .next (.refl _) fun _ _ => ?_
  refine .next (.refl _) fun _ _ => ?_
  split
  · exact .ok h
  · refine .next (.refl _) fun less _ => ?_
    refine .next (.refl _) fun more _ => ?_
    exact .ok ((h.put source _).put dest _)

/-- New tokens at the keys do the same on both sides. -/
lemma mintTo (h : AgreeOn L b b') (m : token ∈ L) (d : dest ∈ L) :
    Match (AgreeOn L) (b.mintTo token dest w n) (b'.mintTo token dest w n) := by
  refine .next (h.account d) fun dst _ => ?_
  refine .next (.refl _) fun _ _ => ?_
  refine .next (h.mint m) fun mt _ => ?_
  refine .next (.refl _) fun _ _ => ?_
  refine .next (.refl _) fun _ _ => ?_
  refine .next (.refl _) fun more _ => ?_
  refine .next (.refl _) fun supply _ => ?_
  exact .ok ((h.put dest _).putMint token _)

/-- A burn at the keys does the same on both sides. -/
lemma burn (h : AgreeOn L b b') (s : source ∈ L) (m : token ∈ L) :
    Match (AgreeOn L) (b.burn source token w n) (b'.burn source token w n) := by
  refine .next (h.account s) fun src _ => ?_
  refine .next (h.mint m) fun mt _ => ?_
  refine .next (.refl _) fun _ _ => ?_
  refine .next (.refl _) fun _ _ => ?_
  refine .next (.refl _) fun _ _ => ?_
  refine .next (.refl _) fun less _ => ?_
  refine .next (.refl _) fun supply _ => ?_
  exact .ok ((h.put source _).putMint token _)

/-- A new mint at a key does the same on both sides. -/
lemma initMint (h : AgreeOn L b b') (mem : key ∈ L) {auth freeze : Option K} {d : BitVec 8} :
    Match (AgreeOn L) (b.initMint key auth freeze d) (b'.initMint key auth freeze d) := by
  have free : b.mints.lookup key = none ↔ b'.mints.lookup key = none := by rw [h.mints.lookup_eq mem]
  refine .next (.require _ free) fun _ _ => ?_
  exact .ok (h.putMint key _)

/-- A new account at a key does the same on both sides. -/
lemma initAccount (h : AgreeOn L b b') (mem : key ∈ L) (m : token ∈ L) :
    Match (AgreeOn L) (b.initAccount key token owner) (b'.initAccount key token owner) := by
  have free : b.accounts.lookup key = none ↔ b'.accounts.lookup key = none := by rw [h.accounts.lookup_eq mem]
  refine .next (.require _ free) fun _ _ => ?_
  refine .next (h.mint m) fun _ _ => ?_
  exact .ok (h.put key _)

/-! ## What an operation leaves alone -/

/-- An account that is written is none of the keys. -/
lemma aside {k : K} (out : k ∉ L) (a : Account K) : AgreeOn L b (b.put k a) :=
  ⟨.refl (fun _ => rfl) _, .write out⟩

/-- A mint that is written is none of the keys. -/
lemma asideMint {k : K} (out : k ∉ L) (m : Mint K) : AgreeOn L b (b.putMint k m) :=
  ⟨.write out, .refl (fun _ => rfl) _⟩

/-- A transfer elsewhere leaves the keys alone. -/
lemma of_transfer (h : b.transfer source dest w n = .ok b') (s : source ∉ L) (d : dest ∉ L) :
    AgreeOn L b b' := by
  obtain ⟨_, _, -, -, -, -, -, ⟨-, rfl⟩ | ⟨-, _, _, -, -, rfl⟩⟩ := transfer_inv h
  · exact .refl _
  · exact (aside s _).trans (aside d _)

/-- New tokens elsewhere leave the keys alone. -/
lemma of_mintTo (h : b.mintTo token dest w n = .ok b') (m : token ∉ L) (d : dest ∉ L) :
    AgreeOn L b b' := by
  obtain ⟨_, _, -, -, -, -, _, _, -, -, rfl⟩ := mintTo_inv h
  exact (aside d _).trans (asideMint m _)

/-- A burn elsewhere leaves the keys alone. -/
lemma of_burn (h : b.burn source token w n = .ok b') (s : source ∉ L) (m : token ∉ L) :
    AgreeOn L b b' := by
  obtain ⟨_, _, -, -, -, -, _, _, -, -, rfl⟩ := burn_inv h
  exact (aside s _).trans (asideMint m _)

/-- A new mint elsewhere leaves the keys alone. -/
lemma of_initMint {auth freeze : Option K} {d : BitVec 8} (h : b.initMint key auth freeze d = .ok b')
    (out : key ∉ L) : AgreeOn L b b' := by
  obtain ⟨-, rfl⟩ := initMint_inv h
  exact asideMint out _

/-- A new account elsewhere leaves the keys alone. -/
lemma of_initAccount (h : b.initAccount key token owner = .ok b') (out : key ∉ L) : AgreeOn L b b' := by
  obtain ⟨-, rfl⟩ := initAccount_inv h
  exact aside out _

end AgreeOn

end Token.Bank
