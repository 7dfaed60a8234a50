import Exira.Lib.Checked
import Exira.Lib.Runs
import Mathlib.Data.Set.Basic
import Mathlib.Data.List.Perm.Basic

/-!
# Local steps and their order

`Except.Match R` relates two computations that fail alike, or return values related by `R`; there is one rule for
each statement of a block. A step function is `Local` when an action only looks at the cells of its footprint,
and only changes those that it writes. Two actions are independent when neither writes a cell of the other's
footprint. Any order of actions that comes from another by exchanging neighbours that are independent
(`Runs.Shuffle`) ends in the same state and gives every action the same answer (`Local.shuffle`).
-/

namespace Except

variable {α β γ δ ε ε' : Type} {R : α → β → Prop} {Q : γ → δ → Prop}

/-- The error, if there is one. -/
def raised : Except ε α → Option ε
  | .ok _ => none
  | .error e => some e

/-- Both fail with one error, or both return, related values. -/
inductive Match (R : α → β → Prop) : Except ε α → Except ε β → Prop where
  | ok {a : α} {b : β} (h : R a b) : Match R (.ok a) (.ok b)
  | error (e : ε) : Match R (.error e) (.error e)

namespace Match

/-- A result matches itself. -/
lemma refl (x : Except ε α) : Match Eq x x := by
  cases x with
  | ok a => exact .ok rfl
  | error e => exact .error e

/-- Equal results match. -/
lemma of_eq {x y : Except ε α} (e : x = y) : Match Eq x y :=
  e ▸ refl x

/-- Results that match raise the same errors. -/
lemma raised {x : Except ε α} {y : Except ε β} (h : Match R x y) : x.raised = y.raised := by
  cases h <;> rfl

/-- Results that match for a relation match for a weaker one. -/
lemma mono {R' : α → β → Prop} {x : Except ε α} {y : Except ε β} (h : Match R x y)
    (imp : ∀ a b, R a b → R' a b) : Match R' x y := by
  cases h with
  | ok r => exact .ok (imp _ _ r)
  | error e => exact .error e

/-- Blocks match when their first statements do, and the rest does after any two values these return. -/
lemma bind {x : Except ε α} {y : Except ε β} {f : α → Except ε γ} {g : β → Except ε δ} (h : Match R x y)
    (rest : ∀ a b, x = .ok a → y = .ok b → R a b → Match Q (f a) (g b)) : Match Q (x >>= f) (y >>= g) := by
  cases h with
  | ok r => exact rest _ _ rfl rfl r
  | error e => exact .error e

/-- First statements that return the same value. -/
lemma next {x y : Except ε α} {f : α → Except ε γ} {g : α → Except ε δ} (h : Match Eq x y)
    (rest : ∀ a, x = .ok a → Match Q (f a) (g a)) : Match Q (x >>= f) (y >>= g) := by
  apply h.bind
  rintro a _ first - rfl
  exact rest a first

/-- Checks of conditions that are equivalent. -/
lemma require {c c' : Prop} [Decidable c] [Decidable c'] (e : ε) (iff : c ↔ c') :
    Match Eq (Except.require c e) (Except.require c' e) := by
  unfold Except.require
  by_cases h : c
  · rw [if_pos h, if_pos (iff.mp h)]
    exact .ok rfl
  · rw [if_neg h, if_neg (mt iff.mpr h)]
    exact .error e

/-- Options that match give results that match, with one error for nothing. -/
lemma okOr {x : Option α} {y : Option β} (e : ε) (h : Option.Rel R x y) : Match R (x.okOr e) (y.okOr e) := by
  cases h with
  | some r => exact .ok r
  | none => exact .error e

/-- Results that match do so after their errors are renamed. -/
lemma mapError {x : Except ε α} {y : Except ε β} (g : ε → ε') (h : Match R x y) :
    Match R (x.mapError g) (y.mapError g) := by
  cases h with
  | ok r => exact .ok r
  | error e => exact .error (g e)

end Match

end Except

namespace Runs

variable {σ α ε K C : Type} {step : σ → α → Except ε σ} {cell : σ → K → C} {reads writes : α → Set K}
  {s t s' t' : σ} {a b : α}

/-- The actions of a run with their answers: whether they failed, and how. -/
def answers (step : σ → α → Except ε σ) (s : σ) (as : List α) : List (α × Option ε) :=
  (attempts step s as).map fun x => (x.2, (step x.1 x.2).raised)

/-- The first answer is that of the first step. -/
lemma answers_cons (s : σ) (a : α) (as : List α) :
    answers step s (a :: as) = (a, (step s a).raised) :: answers step (next step s a) as := by
  rw [answers, attempts_cons, List.map_cons]
  rfl

/-- Attempts that match end in states that are related, if they start so. -/
lemma next_match {τ β : Type} {step' : τ → β → Except ε τ} {I : σ → τ → Prop} {t : τ} {b : β}
    (h : (step s a).Match I (step' t b)) (start : I s t) : I (next step s a) (next step' t b) := by
  generalize e : step s a = x at h
  generalize e' : step' t b = y at h
  cases h with
  | ok next =>
    rw [next_ok e, next_ok e']
    exact next
  | error _ =>
    rw [next_error e, next_error e']
    exact start

/-- A simulation: if matching attempts keep `I`, then a list of actions gets the same answers from both systems, and
ends in states that are related. -/
theorem simulate {τ : Type} {step' : τ → α → Except ε τ} {I : σ → τ → Prop}
    (each : ∀ s t a, I s t → (step s a).Match I (step' t a)) (as : List α) {t : τ} (start : I s t) :
    answers step s as = answers step' t as ∧ I (run step s as) (run step' t as) := by
  induction as generalizing s t with
  | nil => exact ⟨rfl, start⟩
  | cons a as ih =>
    have first := each s t a start
    obtain ⟨rest, last⟩ := ih (next_match first start)
    refine ⟨?_, last⟩
    rw [answers_cons, answers_cons, first.raised, rest]

/-- Orders of actions that differ by exchanges of neighbours which `I` allows. -/
inductive Shuffle (I : α → α → Prop) : List α → List α → Prop where
  | nil : Shuffle I [] []
  | cons (a : α) {as bs : List α} : Shuffle I as bs → Shuffle I (a :: as) (a :: bs)
  | swap {a b : α} (as : List α) : I a b → Shuffle I (a :: b :: as) (b :: a :: as)
  | trans {as bs cs : List α} : Shuffle I as bs → Shuffle I bs cs → Shuffle I as cs

/-- A shuffle goes on behind a common start. -/
lemma Shuffle.append {I : α → α → Prop} (cs : List α) {as bs : List α} (h : Shuffle I as bs) :
    Shuffle I (cs ++ as) (cs ++ bs) := by
  induction cs with
  | nil => exact h
  | cons c cs ih => exact ih.cons c

/-- The cells `L` of two states are the same. -/
def Agree (cell : σ → K → C) (L : Set K) (s t : σ) : Prop :=
  ∀ k ∈ L, cell s k = cell t k

/-- An action looks at the cells that it reads, and changes those that it writes, which it reads too. -/
structure Local (step : σ → α → Except ε σ) (cell : σ → K → C) (reads writes : α → Set K) : Prop where
  ext : ∀ {s t}, (∀ k, cell s k = cell t k) → s = t
  sub : ∀ a, writes a ⊆ reads a
  reads : ∀ {s t} a, Agree cell (reads a) s t →
    (step s a).Match (Agree cell (reads a)) (step t a)
  writes : ∀ {s a s'}, step s a = .ok s' → ∀ k ∉ writes a, cell s' k = cell s k

/-- Neither action writes what the other reads. -/
def Independent (reads writes : α → Set K) (a b : α) : Prop :=
  (∀ k ∈ writes a, k ∉ reads b) ∧ ∀ k ∈ writes b, k ∉ reads a

namespace Local

/-- What an attempt leaves alone, whether it fails or not. -/
lemma next_frame (loc : Local step cell reads writes) (s : σ) (a : α) {k : K} (out : k ∉ writes a) :
    cell (next step s a) k = cell s k := by
  cases st : step s a with
  | ok s' =>
    rw [next_ok st]
    exact loc.writes st k out
  | error e => rw [next_error st]

/-- A step that is local in what it reads keeps agreement. -/
lemma next_agree (loc : Local step cell reads writes) (same : Agree cell (reads a) s t) :
    Agree cell (reads a) (next step s a) (next step t a) :=
  next_match (loc.reads a same) same

/-- An action is not seen by one that is independent of it. -/
lemma unseen (loc : Local step cell reads writes) (apart : ∀ k ∈ writes b, k ∉ reads a) (s : σ) :
    Agree cell (reads a) (next step s b) s := by
  intro k mem
  exact loc.next_frame s b fun wrote => apart k wrote mem

/-- Two independent actions end in the same state in both orders. -/
lemma commute (loc : Local step cell reads writes) (apart : Independent reads writes a b) (s : σ) :
    next step (next step s a) b = next step (next step s b) a := by
  obtain ⟨ab, ba⟩ := apart
  apply loc.ext
  intro k
  by_cases wa : k ∈ writes a
  · have notb : k ∉ writes b := fun wb => ab k wa (loc.sub b wb)
    rw [loc.next_frame _ b notb]
    exact (loc.next_agree (loc.unseen ba s) k (loc.sub a wa)).symm
  · rw [loc.next_frame _ a wa]
    by_cases wb : k ∈ writes b
    · exact loc.next_agree (loc.unseen ab s) k (loc.sub b wb)
    · rw [loc.next_frame _ b wb, loc.next_frame _ b wb, loc.next_frame _ a wa]

/-- Runs in orders that exchange independent neighbours end in the same state, with the same answers. -/
theorem shuffle (loc : Local step cell reads writes) {as bs : List α}
    (orders : Shuffle (Independent reads writes) as bs) (s : σ) :
    run step s as = run step s bs ∧ (answers step s as).Perm (answers step s bs) := by
  induction orders generalizing s with
  | nil => exact ⟨rfl, .refl _⟩
  | cons a _ ih =>
    obtain ⟨states, perm⟩ := ih (next step s a)
    rw [answers_cons, answers_cons]
    exact ⟨states, perm.cons _⟩
  | @swap a b as apart =>
    have ends := loc.commute apart s
    refine ⟨congrArg (run step · as) ends, ?_⟩
    rw [answers_cons, answers_cons, answers_cons, answers_cons, ends,
      (loc.reads b (loc.unseen apart.1 s)).raised, (loc.reads a (loc.unseen apart.2 s)).raised]
    exact .swap _ _ _
  | trans _ _ ih ih' =>
    obtain ⟨states, perm⟩ := ih s
    obtain ⟨states', perm'⟩ := ih' s
    exact ⟨states.trans states', perm.trans perm'⟩

end Local

/-! ## Leaving actions out -/

/-- The second run leaves out the actions that `keep` drops. If a dropped action that goes through keeps `I`, and
every other one goes through in both runs and keeps it, or in none, then the states reached are related by `I`,
and the same actions went through but for those left out. -/
theorem erase {I : σ → σ → Prop} {keep : α → Bool}
    (dropped : ∀ s t a s', I s t → keep a = false → step s a = .ok s' → I s' t)
    (kept : ∀ s t a, I s t → keep a = true →
      (∃ s' t', step s a = .ok s' ∧ step t a = .ok t' ∧ I s' t') ∨
        ∃ e e', step s a = .error e ∧ step t a = .error e')
    (as : List α) {s t : σ} (start : I s t) :
    I (run step s as) (run step t (as.filter keep)) ∧
      ((trace step s as).map Prod.snd).filter keep = (trace step t (as.filter keep)).map Prod.snd := by
  induction as generalizing s t with
  | nil => exact ⟨start, rfl⟩
  | cons a as ih =>
    cases keeps : keep a with
    | false =>
      rw [List.filter_cons_of_neg (by rw [keeps]; exact Bool.false_ne_true)]
      -- left out: only the first run takes it
      cases st : step s a with
      | ok s' =>
        rw [run, next_ok st, trace_ok st, List.map_cons,
          List.filter_cons_of_neg (by rw [keeps]; exact Bool.false_ne_true)]
        exact ih (dropped s t a s' start keeps st)
      | error e =>
        rw [run, next_error st, trace_error st]
        exact ih start
    | true =>
      rw [List.filter_cons_of_pos keeps]
      rcases kept s t a start keeps with ⟨s', t', st, st', next⟩ | ⟨e, e', st, st'⟩
      · rw [run, run, next_ok st, next_ok st', trace_ok st, trace_ok st', List.map_cons, List.map_cons,
          List.filter_cons_of_pos keeps]
        obtain ⟨last, same⟩ := ih next
        exact ⟨last, congrArg (a :: ·) same⟩
      · rw [run, run, next_error st, next_error st', trace_error st, trace_error st']
        exact ih start

end Runs
