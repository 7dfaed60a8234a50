import Exira.Access.Authority

/-!
# Isolation of targets

What an instruction about one project or pool does to every other target, whatever accounts it is passed: the
record, the positions and the tokens of the other stay as they are, and its vault loses nothing (`Untouched`).
-/

namespace Exira

variable {K : Type} [DecidableEq K] [Addresses K] {s s' : State K} {t : Target K} {l : Listing K}

/-- The target of an action: that of the instruction called. -/
def Action.target : Action K → Option (Target K)
  | .call _ i => i.target
  | .outside _ => none

/-! ## Effects and targets -/

omit [Addresses K] in
/-- An effect on a target's own fund is that of an instruction about the target. -/
lemma Action.effect_target {x : Action K} {e : Event K}
    (h : x.effect s = .own t e ∨ ∃ dest n, x.effect s = .pay t e dest n) : x.target = some t := by
  cases x with
  | outside o => cases o <;> rcases h with h | ⟨_, _, h⟩ <;> cases h
  | call now i =>
    cases i <;> rcases h with h | ⟨_, _, h⟩ <;> cases h <;> rfl

omit [Addresses K] in
/-- An instruction burns no tokens of another target. -/
lemma Action.effect_burn {now : Int64} {i : Instruction K} {m : K} {n : ℕ} :
    (Action.call now i).effect s ≠ .burn m n := by
  intro h
  cases i <;> cases h

omit [Addresses K] in
/-- An instruction is at most a deposit for every other target. -/
lemma State.event_aside {now : Int64} {i : Instruction K} {e : Event K} (off : i.target ≠ some t)
    (ev : s.event t (.call now i) = some e) : ∃ n, e = .deposit n := by
  obtain ⟨l, -, on⟩ := Option.bind_eq_some_iff.mp ev
  cases eff : (Action.call now i).effect s with
  | quiet =>
    rw [eff] at on
    cases on
  | deposit dest n =>
    rw [eff, Effect.on] at on
    split at on <;> cases on
    exact ⟨n, rfl⟩
  | burn m n => exact absurd eff Action.effect_burn
  | own t' e' =>
    rw [eff, Effect.on] at on
    split at on
    · next same => exact absurd (Action.effect_target (x := .call now i) (.inl (same ▸ eff))) off
    · cases on
  | pay t' e' dest n =>
    rw [eff, Effect.on] at on
    split at on
    · next same =>
      exact absurd (Action.effect_target (x := .call now i) (.inr ⟨dest, n, same ▸ eff⟩)) off
    · split at on <;> cases on
      exact ⟨n, rfl⟩

/-! ## Positions -/

/-- Writing a position of another target. -/
lemma View.Wf.lookup_insert_aside {v : View K} (wf : v.Wf) {k₀ k₁ w k k' : K} {q q' : InvestorPosition K}
    (placed : Placed k₀ w k' q') (ne : k₀ ≠ k₁) (target : q.target = k₁) :
    (v.positions.insert k' q').lookup k = some q ↔ v.positions.lookup k = some q := by
  by_cases e : k = k'
  · subst e
    rw [Finmap.lookup_insert]
    constructor
    · intro same
      cases same
      exact absurd (placed.target.symm.trans target) ne
    · intro own
      exact absurd ((wf.placed_target own placed).symm.trans target) ne
  · rw [Finmap.lookup_insert_of_ne _ e]

/-- A move that is none of a target's own leaves its positions alone. -/
lemma Move.positions_aside {v v' : View K} {e : Effect K} (mv : Move v e v') (wf : v.Wf)
    (own : v.listing t = some l) (aside : ∀ ev, e ≠ .own t ev) {k : K} {q : InvestorPosition K}
    (target : q.target = t.key) : v'.positions.lookup k = some q ↔ v.positions.lookup k = some q := by
  have apart : ∀ {t' : Target K} {l' : Listing K} {ev : Event K}, v.listing t' = some l' → e = .own t' ev →
      t'.key ≠ t.key := by
    intro t' l' ev own' eff same
    cases (wf.listed own').target_inj (wf.listed own) same
    exact aside ev eff
  cases mv with
  | buy own' _ _ _ _ _ _ _ placed => exact wf.lookup_insert_aside placed (apart own' rfl) target
  | exit own' _ _ _ placed => exact wf.lookup_insert_aside (placed.hold 0) (apart own' rfl) target
  | claim own' _ _ _ _ _ _ placed => exact wf.lookup_insert_aside placed (apart own' rfl) target
  | _ => rfl

/-- An action about another target, or about none, leaves a target's positions alone. -/
lemma step_positions_aside (wf : s.Wf) {x : Action K} (st : step s x = .ok s')
    (own : s.view.listing t = some l) (aside : ∀ ev, x.effect s ≠ .own t ev) {k : K}
    {q : InvestorPosition K} (target : q.target = t.key) :
    s'.positions.lookup k = some q ↔ s.positions.lookup k = some q :=
  (step_acts wf st).move.positions_aside wf.view own aside target

/-! ## One instruction -/

/-- The target `t`, listed as `l`, stays as it is: its record, its positions and the supply of its mint; its
vault loses nothing. -/
structure Untouched (t : Target K) (l : Listing K) (s s' : State K) : Prop where
  project : ∀ k, t = .project k → s'.projects.lookup k = s.projects.lookup k
  pool : ∀ k, t = .pool k → s'.pools.lookup k = s.pools.lookup k
  positions : ∀ k q, q.target = t.key →
    (s'.positions.lookup k = some q ↔ s.positions.lookup k = some q)
  supply : s'.bank.supply l.mint = s.bank.supply l.mint
  vault : s.bank.balance l.vault ≤ s'.bank.balance l.vault

/-- An instruction about another target leaves a target untouched. -/
theorem step_untouched (wf : s.Wf) {now : Int64} {i : Instruction K} (st : step s (.call now i) = .ok s')
    (own : s.view.listing t = some l) (off : i.target ≠ some t) : Untouched t l s s' := by
  have frame := step_frame wf st
  refine ⟨?_, ?_, ?_, ?_, ?_⟩
  · rintro k rfl
    exact frame.projects k off
  · rintro k rfl
    exact frame.pools k off
  · intro k q target
    exact step_positions_aside wf st own (fun ev eff => off (Action.effect_target (.inl eff))) target
  · have kept : s'.view.listing t = some l := by
      rw [← own]
      cases t with
      | project k => exact congrArg (Option.map Project.listing) (frame.projects k off)
      | pool k => exact congrArg (Option.map Pool.listing) (frame.pools k off)
    -- the only event that another target brings is a deposit
    have after := step_fund wf st (View.fund_eq own)
    rw [State.fund, View.fund_eq kept] at after
    cases ev : s.event t (.call now i) with
    | none =>
      rw [ev] at after
      exact congrArg Fund.supply (Option.some.inj after)
    | some e =>
      rw [ev] at after
      obtain ⟨n, rfl⟩ := State.event_aside off ev
      obtain ⟨f, same, deposit⟩ := after
      cases Option.some.inj same
      generalize eq : s'.view.fundOf t l = f at deposit
      cases deposit
      exact congrArg Fund.supply eq
  · -- a vault that loses is that of the target
    by_contra less
    exact off (target_debit wf st own (not_le.mp less)).1

/-! ## The same target in two states -/

/-- A target is the same in two states: its listing, and its holdings if it is listed. -/
structure SameOn (t : Target K) (s s' : State K) : Prop where
  listing : s'.view.listing t = s.view.listing t
  holdings : ∀ l, s.view.listing t = some l → s'.view.holdings t.key = s.view.holdings t.key

section
omit [Addresses K]

/-- A state is the same on a target as itself. -/
lemma SameOn.refl (t : Target K) (s : State K) : SameOn t s s :=
  ⟨rfl, fun _ _ => rfl⟩

/-- The relation is symmetric. -/
lemma SameOn.symm (same : SameOn t s s') : SameOn t s' s :=
  ⟨same.listing.symm, fun l own => (same.holdings l (same.listing.symm.trans own)).symm⟩

/-- The relation is transitive. -/
lemma SameOn.trans {s'' : State K} (same : SameOn t s s') (same' : SameOn t s' s'') : SameOn t s s'' :=
  ⟨same'.listing.trans same.listing,
    fun l own => (same'.holdings l (same.listing.trans own)).trans (same.holdings l own)⟩

/-- The holdings are those of the positions of the target. -/
lemma State.holdings_congr {k₀ : K} (same : ∀ k q, q.target = k₀ →
    (s'.positions.lookup k = some q ↔ s.positions.lookup k = some q)) :
    s'.view.holdings k₀ = s.view.holdings k₀ := by
  apply Finmap.ext_lookup
  intro k
  apply Option.ext
  intro h
  constructor
  · intro entry
    obtain ⟨q, held, rfl, rfl⟩ := View.lookup_holdings entry
    exact View.lookup_holdings_of ((same k q rfl).mp held)
  · intro entry
    obtain ⟨q, held, rfl, rfl⟩ := View.lookup_holdings entry
    exact View.lookup_holdings_of ((same k q rfl).mpr held)

/-- A position of the target has the same counters in both. -/
lemma SameOn.holding (same : SameOn t s s') (own : s.view.listing t = some l) {k : K} {q : InvestorPosition K}
    (held : s.positions.lookup k = some q) (target : q.target = t.key) :
    ∃ q', s'.positions.lookup k = some q' ∧ q'.target = t.key ∧ q'.holding = q.holding := by
  have entry : (s.view.holdings t.key).lookup k = some q.holding := target ▸ View.lookup_holdings_of held
  rw [← same.holdings l own] at entry
  obtain ⟨q', held', of, eq⟩ := View.lookup_holdings entry
  exact ⟨q', held', of, eq⟩

end

/-- An action about another target, or about none, keeps a target the same. -/
lemma SameOn.aside (wf : s.Wf) {x : Action K} (st : step s x = .ok s') (off : x.target ≠ some t) :
    SameOn t s s' where
  listing := by
    cases x with
    | outside o =>
      obtain ⟨b, -, rfl⟩ := step_outside st
      cases t <;> rfl
    | call now i =>
      have frame := step_frame wf st
      cases t with
      | project k => exact congrArg (Option.map Project.listing) (frame.projects k off)
      | pool k => exact congrArg (Option.map Pool.listing) (frame.pools k off)
  holdings := by
    intro l own
    apply State.holdings_congr
    intro k q target
    exact step_positions_aside wf st own (fun ev eff => off (Action.effect_target (.inl eff))) target

/-- The instruction that links a project to a pool. -/
def Action.links : Action K → Bool
  | .call _ (.addProjectToPool _) => true
  | _ => false

/-- A link keeps every target the same. -/
lemma SameOn.link (wf : s.Wf) {x : Action K} (st : step s x = .ok s') (links : x.links = true) :
    SameOn t s s' := by
  cases x with
  | outside => cases links
  | call now i =>
    cases i with
    | addProjectToPool a =>
      refine ⟨?_, fun l own => ?_⟩
      · obtain ⟨done, rfl⟩ := addProjectToPool_ok.mp (step_call st).2
        cases t with
        | project k => rfl
        | pool k =>
          by_cases e : k = a.pool
          · subst e
            show (Finmap.lookup a.pool (s.pools.insert a.pool _)).map Pool.listing = _
            rw [Finmap.lookup_insert, State.listing_pool done.own]
            rfl
          · exact congrArg (Option.map Pool.listing) (Finmap.lookup_insert_of_ne _ e)
      · apply State.holdings_congr
        intro k q target
        exact step_positions_aside wf st own nofun target
    | _ => cases links

end Exira
