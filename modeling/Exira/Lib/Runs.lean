import Mathlib.Data.List.Basic
import Mathlib.Tactic.Lemma

/-!
# Runs of a fallible step function

A system is a step function into `Except`: an action either changes the state or fails and leaves it as
it was. `run` executes a list of actions, failures included; `trace` keeps the actions that succeeded,
each with the state in which it did. `run_induction` is the one induction over runs: what holds of the
empty trace and the first state, and is kept by every successful step, holds of every run.
-/

namespace Runs

variable {σ α ε : Type} (step : σ → α → Except ε σ)

/-- The state after one action: a failing action changes nothing. -/
def next (s : σ) (a : α) : σ :=
  match step s a with
  | .ok s' => s'
  | .error _ => s

/-- The state after a list of actions. -/
def run (s : σ) : List α → σ
  | [] => s
  | a :: as => run (next step s a) as

/-- The successful actions of a run, each with the state it was executed in. -/
def trace (s : σ) : List α → List (σ × α)
  | [] => []
  | a :: as =>
    match step s a with
    | .ok s' => (s, a) :: trace s' as
    | .error _ => trace s as

/-- All actions of a run, failed ones included, each with the state it met. -/
def attempts (s : σ) : List α → List (σ × α)
  | [] => []
  | a :: as =>
    match step s a with
    | .ok s' => (s, a) :: attempts s' as
    | .error _ => (s, a) :: attempts s as

variable {step}

/-- The next state after a step that goes through. -/
lemma next_ok {s s' : σ} {a : α} (st : step s a = .ok s') : next step s a = s' := by
  simp only [next, st]

/-- The next state after a step that is refused. -/
lemma next_error {s : σ} {a : α} {e : ε} (st : step s a = .error e) : next step s a = s := by
  simp only [next, st]

/-- A step that goes through is the first of the trace. -/
lemma trace_ok {s s' : σ} {a : α} (st : step s a = .ok s') (as : List α) :
    trace step s (a :: as) = (s, a) :: trace step s' as := by
  simp only [trace, st]

/-- A step that is refused leaves no trace. -/
lemma trace_error {s : σ} {a : α} {e : ε} (st : step s a = .error e) (as : List α) :
    trace step s (a :: as) = trace step s as := by
  simp only [trace, st]

/-- A run of two lists is a run of the second from where the first ends. -/
lemma run_append (s : σ) (as bs : List α) :
    run step s (as ++ bs) = run step (run step s as) bs := by
  induction as generalizing s with
  | nil => rfl
  | cons a as ih => exact ih _

/-- The trace of two lists is the trace of the first and then of the second. -/
lemma trace_append (s : σ) (as bs : List α) :
    trace step s (as ++ bs) = trace step s as ++ trace step (run step s as) bs := by
  induction as generalizing s with
  | nil => rfl
  | cons a as ih =>
    rw [List.cons_append]
    cases e : step s a with
    | ok s' => rw [trace_ok e, trace_ok e, run, next_ok e, ih, List.cons_append]
    | error x => rw [trace_error e, trace_error e, run, next_error e, ih]

/-- A trace is that of its first action and that of the rest. -/
lemma trace_cons (s : σ) (a : α) (as : List α) :
    trace step s (a :: as) = trace step s [a] ++ trace step (next step s a) as :=
  trace_append s [a] as

/-- The first attempt is made at the state the run starts from. -/
lemma attempts_cons (s : σ) (a : α) (as : List α) :
    attempts step s (a :: as) = (s, a) :: attempts step (next step s a) as := by
  cases e : step s a <;> simp only [attempts, next, e]

/-- The attempts of two lists are those of the first and then of the second. -/
lemma attempts_append (s : σ) (as bs : List α) :
    attempts step s (as ++ bs) = attempts step s as ++ attempts step (run step s as) bs := by
  induction as generalizing s with
  | nil => rfl
  | cons a as ih => rw [List.cons_append, attempts_cons, attempts_cons, run, ih, List.cons_append]

/-- The induction over runs, from a trace already made. -/
lemma run_induction_from {I : List (σ × α) → σ → Prop}
    (preserve : ∀ h s a s', I h s → step s a = .ok s' → I (h ++ [(s, a)]) s')
    {h : List (σ × α)} {s : σ} (start : I h s) (as : List α) :
    I (h ++ trace step s as) (run step s as) := by
  induction as generalizing h s with
  | nil => simpa [trace, run] using start
  | cons a as ih =>
    cases e : step s a with
    | ok s' =>
      have next := ih (preserve h s a s' start e)
      rw [List.append_assoc, List.singleton_append] at next
      rw [trace_ok e, run, next_ok e]
      exact next
    | error x =>
      rw [trace_error e, run, next_error e]
      exact ih start

/-- The induction over runs: `I` relates the successful actions so far to the state reached. -/
theorem run_induction {I : List (σ × α) → σ → Prop} {s : σ} (start : I [] s)
    (preserve : ∀ h s a s', I h s → step s a = .ok s' → I (h ++ [(s, a)]) s') (as : List α) :
    I (trace step s as) (run step s as) := by
  have h := run_induction_from preserve start as
  rwa [List.nil_append] at h

/-- A property of states that every successful step keeps holds after every run. -/
theorem run_invariant {I : σ → Prop} {s : σ} (start : I s)
    (preserve : ∀ s a s', I s → step s a = .ok s' → I s') (as : List α) : I (run step s as) :=
  run_induction (I := fun _ => I) start (fun _ => preserve) as

/-- Every entry of a trace is a successful step from a state of the run. -/
lemma mem_trace {s : σ} {as : List α} {x : σ × α} (h : x ∈ trace step s as) :
    ∃ bs cs, as = bs ++ x.2 :: cs ∧ x.1 = run step s bs ∧ ∃ s', step x.1 x.2 = .ok s' := by
  induction as generalizing s with
  | nil => cases h
  | cons a as ih =>
    cases e : step s a with
    | ok s' =>
      rw [trace_ok e] at h
      cases h with
      | head => exact ⟨[], as, rfl, rfl, s', e⟩
      | tail _ h =>
        obtain ⟨bs, cs, eq, st, ok⟩ := ih h
        refine ⟨a :: bs, cs, by rw [eq, List.cons_append], ?_, ok⟩
        rw [st, run, next_ok e]
    | error x =>
      rw [trace_error e] at h
      obtain ⟨bs, cs, eq, st, ok⟩ := ih h
      refine ⟨a :: bs, cs, by rw [eq, List.cons_append], ?_, ok⟩
      rw [st, run, next_error e]

/-! ## What can still be reached -/

/-- Some actions lead from `s` to a state with `Q`. A system gets from any state to its end stage by stage;
`Can.bind` puts the stages together. -/
def Can (step : σ → α → Except ε σ) (s : σ) (Q : σ → Prop) : Prop :=
  ∃ as, Q (run step s as)

section
variable {s s' : σ} {Q R : σ → Prop}

/-- What holds already can hold. -/
lemma Can.here (q : Q s) : Can step s Q :=
  ⟨[], q⟩

/-- A state with `Q` is one step away. -/
lemma Can.next {a : α} (st : step s a = .ok s') (q : Q s') : Can step s Q := by
  refine ⟨[a], ?_⟩
  rwa [run, next_ok st]

/-- From wherever the first stage ends, the second is possible. -/
lemma Can.bind (can : Can step s Q) (after : ∀ as, Q (run step s as) → Can step (run step s as) R) :
    Can step s R := by
  obtain ⟨as, q⟩ := can
  obtain ⟨bs, r⟩ := after as q
  refine ⟨as ++ bs, ?_⟩
  rwa [run_append]

end

/-! ## Two systems -/

/-- Two systems in lockstep: if one attempt on each side keeps `I` and answers with `Q`, then two lists of
attempts that correspond by `R` do, attempt by attempt. -/
theorem lockstep {τ β ε' : Type} {step' : τ → β → Except ε' τ} {I : σ → τ → Prop} {R : α → β → Prop}
    {F : σ × α → Prop} {G : τ × β → Prop} {Q : σ × α → τ × β → Prop}
    (each : ∀ s t a b, I s t → R a b → F (s, a) → G (t, b) →
      Q (s, a) (t, b) ∧ I (next step s a) (next step' t b))
    {as : List α} {bs : List β} (same : List.Forall₂ R as bs) {s : σ} {t : τ} (start : I s t)
    (left : ∀ x ∈ attempts step s as, F x) (right : ∀ y ∈ attempts step' t bs, G y) :
    List.Forall₂ Q (attempts step s as) (attempts step' t bs) ∧ I (run step s as) (run step' t bs) := by
  induction same generalizing s t with
  | nil => exact ⟨.nil, start⟩
  | @cons a b as bs first _ ih =>
    rw [attempts_cons] at left ⊢
    rw [attempts_cons] at right ⊢
    obtain ⟨answer, next⟩ := each s t a b start first (left _ (.head _)) (right _ (.head _))
    obtain ⟨answers, last⟩ := ih next (fun x mem => left x (.tail _ mem)) fun y mem => right y (.tail _ mem)
    exact ⟨.cons answer answers, last⟩

/-- The attempts at the actions that `seen` picks. -/
def attemptsAt (step : σ → α → Except ε σ) (seen : α → Bool) (s : σ) (as : List α) : List (σ × α) :=
  (attempts step s as).filter fun x => seen x.2

/-- The first action is an attempt that counts or not. -/
lemma attemptsAt_cons (seen : α → Bool) (s : σ) (a : α) (as : List α) :
    attemptsAt step seen s (a :: as)
      = if seen a then (s, a) :: attemptsAt step seen (next step s a) as
        else attemptsAt step seen (next step s a) as := by
  rw [attemptsAt, attempts_cons, List.filter_cons]
  rfl

/-- There are as many attempts that count as actions that count. -/
lemma length_attemptsAt (seen : α → Bool) (s : σ) (as : List α) :
    (attemptsAt step seen s as).length = as.countP seen := by
  induction as generalizing s with
  | nil => rfl
  | cons a as ih =>
    rw [attemptsAt_cons, List.countP_cons]
    cases seen a with
    | false => exact ih (next step s a)
    | true => exact congrArg (· + 1) (ih (next step s a))

/-- Purging: the second run leaves out the actions that `keep` drops. If a dropped action keeps `I` on the side
that runs it, every other one keeps it on both sides, and those that are seen answer with `Q`, then all attempts
that are seen do. -/
theorem purge {I : σ → σ → Prop} {keep seen : α → Bool} {F Q : σ × α → σ × α → Prop}
    (kept : ∀ a, seen a = true → keep a = true)
    (dropped : ∀ s t a, I s t → keep a = false → I (next step s a) t)
    (unseen : ∀ s t a, I s t → keep a = true → seen a = false → I (next step s a) (next step t a))
    (answer : ∀ s t a, I s t → seen a = true → F (s, a) (t, a) →
      Q (s, a) (t, a) ∧ I (next step s a) (next step t a))
    (as : List α) {s t : σ} (start : I s t)
    (given : List.Forall₂ F (attemptsAt step seen s as) (attemptsAt step seen t (as.filter keep))) :
    List.Forall₂ Q (attemptsAt step seen s as) (attemptsAt step seen t (as.filter keep)) := by
  induction as generalizing s t with
  | nil => exact .nil
  | cons a as ih =>
    cases keeps : keep a with
    | false =>
      -- what is seen is kept, so the action was not seen
      have hidden : seen a = false := by
        rw [← Bool.not_eq_true]
        intro sees
        cases keeps.symm.trans (kept a sees)
      rw [List.filter_cons_of_neg (by rw [keeps]; exact Bool.false_ne_true), attemptsAt_cons, hidden] at given ⊢
      exact ih (dropped s t a start keeps) given
    | true =>
      rw [List.filter_cons_of_pos keeps, attemptsAt_cons, attemptsAt_cons] at given ⊢
      cases sees : seen a with
      | false =>
        rw [sees] at given
        exact ih (unseen s t a start keeps sees) given
      | true =>
        rw [sees] at given
        obtain ⟨first, rest⟩ := List.forall₂_cons.mp given
        obtain ⟨answers, next⟩ := answer s t a start sees first
        exact .cons answers (ih next rest)

end Runs
