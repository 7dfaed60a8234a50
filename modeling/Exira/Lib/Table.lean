import Mathlib.Algebra.BigOperators.Group.Finset.Basic
import Mathlib.Algebra.BigOperators.Ring.Finset
import Mathlib.Algebra.Order.BigOperators.Group.Finset
import Mathlib.Data.Finmap
import Mathlib.Tactic.Abel
import Mathlib.Tactic.Lemma

/-!
# Finite tables

Finite maps with values of one type, on top of Mathlib's `Finmap`: the sum of a measure over all values
(`Finmap.sum`), the table of the values a partial function keeps (`Finmap.filterMap`), and how both change under
`insert`; the entries at the keys of a list (`Finmap.only`). The one law that conservation arguments use is
`Finmap.sum_insert`: writing a value at a key changes the sum by the new value's measure less the old one's.
-/

/-- A finite map from keys to values. -/
abbrev Table (K : Type) (V : Type) := Finmap fun _ : K => V

namespace Finmap

variable {K V W M : Type} [DecidableEq K]

/-- The sum of `f` over all values of the table. -/
def sum [AddCommMonoid M] (m : Table K V) (f : V → M) : M :=
  ∑ k ∈ m.keys, (m.lookup k).elim 0 f

/-- The values that `q` keeps, at the keys they have. -/
def filterMap (q : V → Option W) (m : Table K V) : Table K W :=
  keysLookupEquiv.symm
    ⟨(m.keys.filter fun k => ((m.lookup k).bind q).isSome, fun k => (m.lookup k).bind q), by
      intro k
      simp only [Finset.mem_filter, mem_keys, iff_and_self]
      intro h
      rw [← lookup_isSome]
      cases e : m.lookup k with
      | none => simp [e] at h
      | some v => rfl⟩

/-- The entries at the keys of a list. -/
def only (m : Table K V) : List K → Table K V
  | [] => ∅
  | k :: ks => (m.lookup k).elim (m.only ks) ((m.only ks).insert k)

/-! ## Lookups -/

/-- A lookup after an insertion, the two keys compared. -/
lemma lookup_insert_ite (m : Table K V) (k k' : K) (v : V) :
    (m.insert k v).lookup k' = if k' = k then some v else m.lookup k' := by
  by_cases e : k' = k
  · subst e; simp
  · rw [lookup_insert_of_ne _ e, if_neg e]

/-- A cut table has the entries at the keys it is cut to. -/
lemma lookup_only (m : Table K V) (ks : List K) (k : K) :
    (m.only ks).lookup k = if k ∈ ks then m.lookup k else none := by
  induction ks with
  | nil => rfl
  | cons x ks ih =>
    rw [only]
    by_cases e : k = x
    · subst e
      rw [if_pos (.head _)]
      cases found : m.lookup k with
      | some v => exact lookup_insert _
      | none =>
        rw [Option.elim_none, ih, found]
        exact ite_self none
    · have mem : k ∈ x :: ks ↔ k ∈ ks := by simp [e]
      rw [if_congr mem rfl rfl, ← ih]
      cases m.lookup x with
      | some v => exact lookup_insert_of_ne _ e
      | none => rfl

/-- An insertion adds its key. -/
lemma keys_insert (m : Table K V) (k : K) (v : V) : (m.insert k v).keys = Insert.insert k m.keys := by
  ext k'
  rw [mem_keys, mem_insert, Finset.mem_insert, mem_keys]

/-- Writing at a key that the table has adds no key. -/
lemma mem_of_mem_insert {m : Table K V} {k : K} {u v : V} (own : m.lookup k = some u) (k' : K)
    (mem : k' ∈ m.insert k v) : k' ∈ m := by
  rcases mem_insert.mp mem with rfl | old
  · exact mem_of_lookup_eq_some own
  · exact old

/-- Inserting keeps a property of all entries that the new one has. -/
lemma forall_insert {Q : K → V → Prop} {m : Table K V} {k : K} {v : V}
    (all : ∀ k v, m.lookup k = some v → Q k v) (new : Q k v) :
    ∀ k' v', (m.insert k v).lookup k' = some v' → Q k' v' := by
  intro k' v' own
  rw [lookup_insert_ite] at own
  split at own
  · next e =>
    cases own
    exact e ▸ new
  · exact all k' v' own

/-- Every entry of `m` is one of `m'`, up to `R`. -/
def Keeps (R : V → V → Prop) (m m' : Table K V) : Prop :=
  ∀ k v, m.lookup k = some v → ∃ v', m'.lookup k = some v' ∧ R v v'

section Keeps
variable {R : V → V → Prop} {m m' m'' : Table K V}

/-- A table keeps to itself where the relation is reflexive. -/
lemma Keeps.refl (refl : ∀ v, R v v) (m : Table K V) : Keeps R m m :=
  fun _ v own => ⟨v, own, refl v⟩

/-- Two steps that keep to a transitive relation do so together. -/
lemma Keeps.trans (trans : ∀ {u v w}, R u v → R v w → R u w) (h : Keeps R m m')
    (h' : Keeps R m' m'') : Keeps R m m'' := by
  intro k v own
  obtain ⟨v', own', le⟩ := h k v own
  obtain ⟨v'', own'', le'⟩ := h' k v' own'
  exact ⟨v'', own'', trans le le'⟩

/-- Writing a value that its predecessor is related to keeps the entries. -/
lemma Keeps.insert {k : K} {v : V} (refl : ∀ v, R v v) (old : ∀ u, m.lookup k = some u → R u v) :
    Keeps R m (m.insert k v) := by
  intro k' u own
  by_cases e : k' = k
  · subst e
    exact ⟨v, lookup_insert m, old u own⟩
  · exact ⟨u, (lookup_insert_of_ne m e).trans own, refl u⟩

/-- Writing at a free key keeps the entries. -/
lemma Keeps.insert_new {k : K} (refl : ∀ v, R v v) (free : m.lookup k = none) (v : V) :
    Keeps R m (m.insert k v) :=
  .insert refl fun u own => by rw [free] at own; cases own

end Keeps

/-- A filtered table has what the filter makes of the entry. -/
@[simp]
lemma lookup_filterMap (q : V → Option W) (m : Table K V) (k : K) :
    (m.filterMap q).lookup k = (m.lookup k).bind q := by
  simp only [filterMap, keysLookupEquiv_symm_apply_lookup]

/-- Keeping all values keeps all keys. -/
lemma mem_filterMap {q : V → Option W} (keeps : ∀ v, (q v).isSome) {m : Table K V} {k : K} :
    k ∈ m.filterMap q ↔ k ∈ m := by
  rw [← lookup_isSome, ← lookup_isSome, lookup_filterMap]
  cases m.lookup k with
  | none => rfl
  | some v => simp only [Option.bind_some, keeps v, Option.isSome_some]

/-- Writing a kept value writes its image. -/
lemma filterMap_insert_some {q : V → Option W} {v : V} {w : W} (h : q v = some w)
    (m : Table K V) (k : K) : (m.insert k v).filterMap q = (m.filterMap q).insert k w := by
  apply ext_lookup
  intro k'
  rw [lookup_filterMap, lookup_insert_ite, lookup_insert_ite]
  split
  · exact h
  · rw [lookup_filterMap]

/-- Writing a dropped value over a dropped value (or over nothing) changes nothing. -/
lemma filterMap_insert_none {q : V → Option W} {v : V} (h : q v = none) {m : Table K V} {k : K}
    (old : (m.lookup k).bind q = none) : (m.insert k v).filterMap q = m.filterMap q := by
  apply ext_lookup
  intro k'
  rw [lookup_filterMap, lookup_filterMap, lookup_insert_ite]
  split
  · next e => subst e; rw [old]; exact h
  · rfl

/-- A table none of whose values is kept filters to the empty table. -/
lemma filterMap_eq_empty {q : V → Option W} {m : Table K V}
    (h : ∀ k v, m.lookup k = some v → q v = none) : m.filterMap q = ∅ := by
  apply ext_lookup
  intro k
  rw [lookup_filterMap, lookup_empty]
  cases e : m.lookup k with
  | none => rfl
  | some v => exact h k v e

/-! ## Sums -/

section Sum
variable [AddCommMonoid M]

/-- The sum over the empty table. -/
@[simp]
lemma sum_empty (f : V → M) : sum (∅ : Table K V) f = 0 := by
  simp [sum]

/-- A key that the table does not have has no share. -/
lemma share_eq_zero {m : Table K V} {k : K} (h : k ∉ m.keys) (f : V → M) :
    (m.lookup k).elim 0 f = 0 := by
  rw [mem_keys, ← lookup_eq_none] at h
  rw [h]
  rfl

/-- One key's share of a sum, split off. -/
lemma sum_eq_add_erase (m : Table K V) (k : K) (f : V → M) :
    m.sum f = (m.lookup k).elim 0 f + ∑ x ∈ m.keys.erase k, (m.lookup x).elim 0 f := by
  by_cases h : k ∈ m.keys
  · exact (Finset.add_sum_erase _ _ h).symm
  · rw [share_eq_zero h, Finset.erase_eq_of_notMem h, zero_add]
    rfl

/-- A sum may range over more keys than the table has. -/
lemma sum_wide {m : Table K V} {u : Finset K} (sub : m.keys ⊆ u) (f : V → M) :
    m.sum f = ∑ k ∈ u, (m.lookup k).elim 0 f :=
  Finset.sum_subset sub fun _ _ free => share_eq_zero free f

/-- Tables with the same shares have the same sum. -/
lemma sum_shares {m m' : Table K V} {f : V → M}
    (same : ∀ k, (m'.lookup k).elim 0 f = (m.lookup k).elim 0 f) : m'.sum f = m.sum f := by
  rw [sum_wide (Finset.subset_union_left : m.keys ⊆ m.keys ∪ m'.keys),
    sum_wide (Finset.subset_union_right : m'.keys ⊆ m.keys ∪ m'.keys)]
  exact Finset.sum_congr rfl fun k _ => same k

/-- Tables that differ in the share of `k` only: the sum changes as that share does. -/
lemma sum_exchange {m m' : Table K V} {f : V → M} (k : K)
    (same : ∀ x, x ≠ k → (m'.lookup x).elim 0 f = (m.lookup x).elim 0 f) :
    m'.sum f + (m.lookup k).elim 0 f = m.sum f + (m'.lookup k).elim 0 f := by
  have mem := Finset.mem_insert_self k (m.keys ∪ m'.keys)
  have sub := Finset.subset_insert k (m.keys ∪ m'.keys)
  have rest := Finset.sum_congr rfl fun x (h : x ∈ (Insert.insert k (m.keys ∪ m'.keys)).erase k) =>
    same x (Finset.ne_of_mem_erase h)
  rw [sum_wide (Finset.subset_union_left.trans sub) f, sum_wide (Finset.subset_union_right.trans sub) f,
    ← Finset.add_sum_erase _ _ mem, ← Finset.add_sum_erase _ (fun x => (m.lookup x).elim 0 f) mem, rest]
  abel

/-- Writing `v` at `k` adds its measure and takes away that of the value it replaces. -/
lemma sum_insert (m : Table K V) (k : K) (v : V) (f : V → M) :
    (m.insert k v).sum f + (m.lookup k).elim 0 f = m.sum f + f v := by
  have same : ∀ x, x ≠ k → ((m.insert k v).lookup x).elim 0 f = (m.lookup x).elim 0 f := by
    intro x ne
    rw [lookup_insert_of_ne _ ne]
  have e := sum_exchange k same
  rwa [lookup_insert] at e

/-- Writing `v` at a free key adds its measure. -/
lemma sum_insert_new {m : Table K V} {k : K} (h : m.lookup k = none) (v : V) (f : V → M) :
    (m.insert k v).sum f = m.sum f + f v := by
  have e := sum_insert m k v f
  rw [h] at e
  simpa using e

/-- Writing a value of the same measure keeps the sum. -/
lemma sum_insert_same {m : Table K V} {k : K} {v u : V} {f : V → M} [IsRightCancelAdd M]
    (h : m.lookup k = some u) (e : f v = f u) : (m.insert k v).sum f = m.sum f := by
  have s := sum_insert m k v f
  rw [h, e] at s
  exact add_right_cancel s

/-- Sums only read the values that the table has. -/
lemma sum_congr {m : Table K V} {f g : V → M} (h : ∀ k v, m.lookup k = some v → f v = g v) :
    m.sum f = m.sum g := by
  apply Finset.sum_congr rfl
  intro k _
  cases e : m.lookup k with
  | none => rfl
  | some v => exact h k v e

/-- A sum of zeros. -/
lemma sum_eq_zero {m : Table K V} {f : V → M} (h : ∀ k v, m.lookup k = some v → f v = 0) :
    m.sum f = 0 := by
  apply Finset.sum_eq_zero
  intro k _
  cases e : m.lookup k with
  | none => rfl
  | some v => exact h k v e

/-- The sum of a pointwise sum. -/
lemma sum_add (m : Table K V) (f g : V → M) : m.sum (fun v => f v + g v) = m.sum f + m.sum g := by
  unfold sum
  rw [← Finset.sum_add_distrib]
  apply Finset.sum_congr rfl
  intro k _
  cases m.lookup k with
  | none => exact (add_zero 0).symm
  | some v => rfl

/-- The sum over the kept values. -/
lemma sum_filterMap (q : V → Option W) (m : Table K V) (f : W → M) :
    (m.filterMap q).sum f = m.sum fun v => (q v).elim 0 f := by
  unfold sum
  have keys : (m.filterMap q).keys = m.keys.filter fun k => ((m.lookup k).bind q).isSome := by
    simp only [filterMap, keysLookupEquiv_symm_apply_keys]
  rw [keys, Finset.sum_filter]
  apply Finset.sum_congr rfl
  intro k _
  rw [lookup_filterMap]
  cases m.lookup k with
  | none => rfl
  | some v => cases e : q v <;> simp [e]

end Sum

/-! ## Sums of natural numbers -/

/-- A common factor goes before the sum. -/
lemma sum_mul (m : Table K V) (f : V → ℕ) (c : ℕ) : m.sum (fun v => f v * c) = m.sum f * c := by
  unfold sum
  rw [Finset.sum_mul]
  apply Finset.sum_congr rfl
  intro k _
  cases m.lookup k with
  | none => exact (Nat.zero_mul c).symm
  | some v => rfl

/-- A sum grows with its summands. -/
lemma sum_mono {m : Table K V} {f g : V → ℕ} (h : ∀ k v, m.lookup k = some v → f v ≤ g v) :
    m.sum f ≤ m.sum g := by
  apply Finset.sum_le_sum
  intro k _
  cases e : m.lookup k with
  | none => exact Nat.le_refl 0
  | some v => exact h k v e

/-- One value's measure is at most the sum. -/
lemma le_sum {m : Table K V} {k : K} {v : V} (h : m.lookup k = some v) (f : V → ℕ) :
    f v ≤ m.sum f := by
  rw [sum_eq_add_erase m k, h]
  exact Nat.le_add_right _ _

/-- The measures of two values at different keys are together at most the sum. -/
lemma add_le_sum {m : Table K V} {k k' : K} {v v' : V} (ne : k ≠ k') (h : m.lookup k = some v)
    (h' : m.lookup k' = some v') (f : V → ℕ) : f v + f v' ≤ m.sum f := by
  have mem : k' ∈ m.keys.erase k := by
    rw [Finset.mem_erase, mem_keys]
    exact ⟨ne.symm, mem_of_lookup_eq_some h'⟩
  have single := Finset.single_le_sum (f := fun x => (m.lookup x).elim 0 f)
    (fun _ _ => Nat.zero_le _) mem
  rw [sum_eq_add_erase m k, h]
  simp only [h', Option.elim] at single ⊢
  exact Nat.add_le_add_left single _

end Finmap
