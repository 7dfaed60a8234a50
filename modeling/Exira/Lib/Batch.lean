import Exira.Lib.Checked
import Exira.Lib.Table
import Mathlib.Data.List.Perm.Basic

/-!
# Batches

A batch is a list of actions that all succeed, one after the other: a fold in `Except`. If any two neighbours of
a batch can change places, every order of it is a batch, with the same end (`foldlM_perm`). Steps that update a
table key by key change places when their updates commute at every key (`Updates.swap`).
-/

namespace Runs

variable {σ α ε : Type} {step : σ → α → Except ε σ} {s s' : σ} {as bs : List α}

/-- Every order of a batch is a batch, if two neighbours can always change places. -/
theorem foldlM_perm {I : σ → Prop} {R : α → α → Prop}
    (keeps : ∀ {s a s'}, I s → step s a = .ok s' → I s')
    (swap : ∀ {s a b s₁ s₂}, I s → R a b → step s a = .ok s₁ → step s₁ b = .ok s₂ →
      ∃ s₁', step s b = .ok s₁' ∧ step s₁' a = .ok s₂)
    (symm : ∀ {a b}, R a b → R b a) (perm : as.Perm bs) (i : I s) (all : as.Pairwise R)
    (h : as.foldlM step s = .ok s') : bs.foldlM step s = .ok s' := by
  induction perm generalizing s with
  | nil => exact h
  | cons a _ ih =>
    rw [List.foldlM_cons, Except.bind_eq_ok] at h ⊢
    obtain ⟨s₁, st, rest⟩ := h
    exact ⟨s₁, st, ih (keeps i st) (List.pairwise_cons.mp all).2 rest⟩
  | swap b a as =>
    simp only [List.foldlM_cons, Except.bind_eq_ok] at h ⊢
    obtain ⟨s₁, st, s₂, st', rest⟩ := h
    have pair := (List.pairwise_cons.mp all).1 _ (.head _)
    obtain ⟨s₁', first, second⟩ := swap i pair st st'
    exact ⟨s₁', first, s₂, second, rest⟩
  | trans perm _ ih ih' =>
    exact ih' i (perm.pairwise all symm) (ih i all h)

end Runs

namespace Finmap

variable {K V : Type} [DecidableEq K] {m m₁ m₂ m₁' m₂' : Table K V} {f f' : K → Option V → Option V}

/-- A table is updated key by key. -/
def Updates (f : K → Option V → Option V) (m m' : Table K V) : Prop :=
  ∀ k, m'.lookup k = f k (m.lookup k)

/-- An update that changes nothing. -/
lemma Updates.keep (same : ∀ k, f k (m.lookup k) = m.lookup k) : Updates f m m :=
  fun k => (same k).symm

/-- An update of one key. -/
lemma Updates.write {k : K} {v : V} (new : f k (m.lookup k) = some v)
    (others : ∀ x, x ≠ k → f x (m.lookup x) = m.lookup x) : Updates f m (m.insert k v) := by
  intro x
  by_cases e : x = k
  · rw [e, lookup_insert, new]
  · rw [lookup_insert_of_ne _ e, others x e]

/-- Updates that commute at every key can change places. -/
lemma Updates.swap (h : Updates f m m₁) (h' : Updates f' m₁ m₂) (g' : Updates f' m m₁') (g : Updates f m₁' m₂')
    (comm : ∀ k, f' k (f k (m.lookup k)) = f k (f' k (m.lookup k))) : m₂ = m₂' := by
  apply Finmap.ext_lookup
  intro k
  rw [h' k, h k, g k, g' k, comm k]

end Finmap
