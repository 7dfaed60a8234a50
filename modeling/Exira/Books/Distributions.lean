import Exira.Refinement

/-!
# The distributions of a history

What a project or a pool distributed, one entry for each distribution: its amount, and the tokens that were
sold when it was made.
-/

namespace Exira

open Dividend

/-! ## Funds -/

namespace Fund

variable {ι : Type}

/-- The amount of a distribution and the units sold at that time. -/
def payment (x : Fund ι × Event ι) : Option (ℕ × ℕ) :=
  match x.2 with
  | .distribute n => some (n, x.1.sold)
  | _ => none

/-- The distributions of a history, in order. -/
def payments (tr : List (Fund ι × Event ι)) : List (ℕ × ℕ) :=
  tr.filterMap payment

/-- One more step adds its payment, if it is one. -/
@[simp]
lemma payments_snoc (tr : List (Fund ι × Event ι)) (x : Fund ι × Event ι) :
    payments (tr ++ [x]) = payments tr ++ (payment x).toList := by
  rw [payments, List.filterMap_append]
  cases e : payment x <;> simp [payments, e]

/-- There are as many payments as distributions. -/
lemma payments_length (tr : List (Fund ι × Event ι)) :
    (payments tr).length = total (fun _ => Event.distributions) tr := by
  induction tr with
  | nil => rfl
  | cons x tr ih =>
    obtain ⟨f, e⟩ := x
    have one : (payment (f, e)).toList.length = e.distributions := by cases e <;> rfl
    have parts : payments ((f, e) :: tr) = (payment (f, e)).toList ++ payments tr := by
      rw [payments, List.filterMap_cons]
      cases payment (f, e) <;> rfl
    rw [parts, List.length_append, one, ih]
    rfl

end Fund

/-! ## Projects and pools -/

variable {K : Type} [DecidableEq K]

/-- The distribution that an action makes to a target. -/
def distributionOf (t : Target K) (x : State K × Action K) : Option (ℕ × ℕ) :=
  match t, x.2 with
  | .project p, .call _ (.distributeRepayment a n) =>
    if a.project = p then
      (x.1.projects.lookup p).map fun project => (n.toNat, project.tokensSold.toNat)
    else none
  | .pool p, .call _ (.distributePoolReturns a n) =>
    if a.pool = p then
      (x.1.pools.lookup p).map fun pool => (n.toNat, pool.tokensSold.toNat)
    else none
  | _, _ => none

/-- The distributions to a target in a history, in order. -/
def distributions (t : Target K) (h : List (State K × Action K)) : List (ℕ × ℕ) :=
  h.filterMap (distributionOf t)

/-- A distribution event comes from one of the two distribution instructions. -/
lemma distribute_of_event {s : State K} {t : Target K} {a : Action K} {n : ℕ}
    (e : s.event t a = some (.distribute n)) :
    (∃ now c m, t = .project c.project ∧ a = .call now (.distributeRepayment c m)) ∨
      ∃ now c m, t = .pool c.pool ∧ a = .call now (.distributePoolReturns c m) := by
  cases State.event_raises e with
  | repay => exact .inl ⟨_, _, _, rfl, rfl⟩
  | distribute => exact .inr ⟨_, _, _, rfl, rfl⟩

/-- The distribution of an action is that of its event. -/
lemma distributionOf_event (t : Target K) (x : State K × Action K) :
    (fundEvent t x).bind Fund.payment = distributionOf t x := by
  obtain ⟨s, a⟩ := x
  unfold distributionOf
  split
  · next p _ c n act =>
    cases act
    cases own : s.projects.lookup p with
    | none => simp [fundEvent, State.fund, View.fund, State.view, own]
    | some project =>
      simp only [fundEvent, State.fund_project own, State.event, State.listing_project own,
        Option.bind_some, Action.effect, Effect.on, Target.project.injEq]
      split <;> rfl
  · next p _ c n act =>
    cases act
    cases own : s.pools.lookup p with
    | none => simp [fundEvent, State.fund, View.fund, State.view, own]
    | some pool =>
      simp only [fundEvent, State.fund_pool own, State.event, State.listing_pool own,
        Option.bind_some, Action.effect, Effect.on, Target.pool.injEq]
      split <;> rfl
  · next noProject noPool =>
    rw [Option.eq_none_iff_forall_not_mem]
    intro d paid
    obtain ⟨y, seen, paid⟩ := Option.bind_eq_some_iff.mp paid
    obtain ⟨f, own, seen⟩ := Option.bind_eq_some_iff.mp seen
    obtain ⟨e, event, rfl⟩ := Option.map_eq_some_iff.mp seen
    cases e with
    | distribute n =>
      obtain ⟨now, c, m, rfl, rfl⟩ | ⟨now, c, m, rfl, rfl⟩ := distribute_of_event event
      · exact noProject _ now c m rfl rfl
      · exact noPool _ now c m rfl rfl
    | _ => cases paid

/-- The distributions of the fund are those of the program. -/
lemma distributions_eq (t : Target K) (h : List (State K × Action K)) :
    Fund.payments (fundHistory t h) = distributions t h := by
  rw [Fund.payments, fundHistory, List.filterMap_filterMap]
  exact List.filterMap_congr fun x _ => distributionOf_event t x

end Exira
