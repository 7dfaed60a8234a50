import Exira.Openings
import Exira.Refinement

/-!
# Where accounts come from

Over any run: an account of the program is at the address of the seeds that it names, it was opened by a successful
instruction, and it still has the terms that the instruction wrote; what was opened is there for good, and only
positions are ever found open by a second instruction for the same seeds. `Touch` says what one action does to the
table of a kind: nothing, or it writes one record that keeps its terms, or it opens the one record that it names,
where there was none.
-/

namespace Exira

variable {K : Type} [DecidableEq K] [Addresses K] {s s' : State K} {x : Action K} {σ : Seeds K}

/-! ## What an action does to a table -/

/-- What becomes of the table `m` of the kind `κ`, when `opened` is the record that may be opened. -/
inductive Touch (opened : Option (Account K)) (κ : SeedKind) (m : Table K (κ.Record K)) :
    Table K (κ.Record K) → Prop
  | same : Touch opened κ m m
  | write {k r r'} (own : m.lookup k = some r) (terms : κ.terms r' = κ.terms r) :
    Touch opened κ m (m.insert k r')
  | make {k r} (free : m.lookup k = none) (opens : opened = some ⟨κ, κ.terms r⟩)
      (place : k = findProgramAddress (κ.seeds r)) : Touch opened κ m (m.insert k r)

/-- The position that a purchase writes: its first one opens it, and a later one keeps its terms. -/
lemma touch_position (wf : s.Wf) {k target w : K} {index : U128} {q : InvestorPosition K} {held : U64}
    (made : ensurePosition s k target w = .ok q) :
    Touch (some ⟨.position, InvestorPosition.mk w target 0 0 0 (findBump (.position target w))⟩) .position
      s.positions (s.positions.insert k { openPosition q w target index with tokensHeld := held }) := by
  obtain ⟨place, ⟨free, rfl⟩ | own⟩ := ensurePosition_ok made
  · have first : openPosition (K := K) .zeroed w target index
        = InvestorPosition.mk w target 0 index 0 (findBump (.position target w)) := if_pos rfl
    rw [first]
    exact .make free rfl place
  · have placed := wf.view.placed own
    have kept : openPosition q w target index = q := if_neg (ne_default (placed.owner ▸ placed.signs))
    rw [kept]
    exact .write own rfl

/-- A table is touched as it is written. -/
lemma Written.touch (wf : s.Wf) {now : Int64} {i : Instruction K} {κ : SeedKind} {m : Table K (κ.Record K)}
    (h : Written s now i κ m) : Touch (i.record now) κ (s.table κ) m := by
  cases h with
  | same => exact .same
  | write own terms => exact .write own terms
  | make vacant opens place => exact .make (vacant.table κ) opens place
  | purchase _ _ made opens =>
    rw [opens]
    exact touch_position wf made

/-- The record that an action opens. -/
def Action.record : Action K → Option (Account K)
  | .call now i => i.record now
  | .outside _ => none

/-- Everything that a successful action does to the accounts of a kind. -/
theorem step_touches (wf : s.Wf) (st : step s x = .ok s') (κ : SeedKind) :
    Touch x.record κ (s.table κ) (s'.table κ) := by
  cases x with
  | call now i => exact ((handle_effects (step_call st).2).table κ).touch wf
  | outside o =>
    obtain ⟨b, -, rfl⟩ := step_outside st
    cases κ <;> exact .same

/-- The seeds of the accounts that an action can make. -/
def Action.seeds : Action K → List (Seeds K)
  | .call _ i => i.seeds
  | .outside _ => []

omit [DecidableEq K] in
/-- The one list of seeds is that of the record. -/
lemma Action.record_seeds {κ : SeedKind} {r : κ.Record K} (opens : x.record = some ⟨κ, r⟩) :
    x.seeds = [κ.seeds r] := by
  cases x with
  | call now i => exact (Instruction.record_place opens).1
  | outside o => cases opens

/-! ## One action -/

section
variable {opened : Option (Account K)} {κ : SeedKind} {m m' : Table K (κ.Record K)} {k : K} {r : κ.Record K}

/-- Accounts stay, and their terms. -/
lemma Touch.keeps (h : Touch opened κ m m') : m.Keeps (fun r r' => κ.terms r' = κ.terms r) m' := by
  cases h with
  | same => exact fun k r own => ⟨r, own, rfl⟩
  | @write k r r' own terms =>
    refine .insert (R := fun r r' => κ.terms r' = κ.terms r) (fun _ => rfl) fun u own' => ?_
    cases own.symm.trans own'
    exact terms
  | make free => exact .insert_new (R := fun r r' => κ.terms r' = κ.terms r) (fun _ => rfl) free _

/-- An account was there with its terms, or it is the one that was opened. -/
lemma Touch.origin (h : Touch opened κ m m') (own : m'.lookup k = some r) :
    (∃ r₀, m.lookup k = some r₀ ∧ κ.terms r = κ.terms r₀) ∨
      m.lookup k = none ∧ opened = some ⟨κ, κ.terms r⟩ ∧ k = findProgramAddress (κ.seeds r) := by
  cases h with
  | same => exact .inl ⟨r, own, rfl⟩
  | @write k₀ r₀ r₁ old terms =>
    rw [Finmap.lookup_insert_ite] at own
    split at own
    · next e =>
      cases own
      exact .inl ⟨r₀, e ▸ old, terms⟩
    · exact .inl ⟨r, own, rfl⟩
  | @make k₀ r₁ free opens place =>
    rw [Finmap.lookup_insert_ite] at own
    split at own
    · next e =>
      cases own
      exact .inr ⟨e ▸ free, opens, e.trans place⟩
    · exact .inl ⟨r, own, rfl⟩

end

omit [DecidableEq K] in
/-- A list of seeds is made when the table of its kind has an entry at the address. -/
lemma State.made_iff : s.Made σ ↔ findProgramAddress σ ∈ s.table σ.kind := by
  cases σ <;> rfl

/-- A step makes its seeds. -/
lemma step_made (st : step s x = .ok s') (mem : σ ∈ x.seeds) : s'.Made σ := by
  cases x with
  | call now i => exact made_of_seeds (step_call st).2 mem
  | outside o => cases mem

/-- But for positions, the seeds were not made before. -/
lemma step_unmade (st : step s x = .ok s') (mem : σ ∈ x.seeds) (kind : σ.kind ≠ .position) : ¬ s.Made σ := by
  cases x with
  | call now i => exact fun made => ((handle_effects (step_call st).2).vacant σ mem kind).1 made.owned
  | outside o => cases mem

/-- What is made stays. -/
lemma step_keeps_made (wf : s.Wf) (st : step s x = .ok s') (made : s.Made σ) : s'.Made σ := by
  rw [State.made_iff] at made ⊢
  obtain ⟨r, own⟩ := Finmap.mem_iff.mp made
  obtain ⟨r', own', -⟩ := (step_touches wf st σ.kind).keeps _ r own
  exact Finmap.mem_of_lookup_eq_some own'

/-- Positions at one address have the same terms. -/
lemma State.Wf.terms_position (wf : s.Wf) {k : K} {q q₀ : InvestorPosition K}
    (own : s.positions.lookup k = some q)
    (place : k = findProgramAddress (SeedKind.position.seeds q₀))
    (bump : q₀.bump = findBump (SeedKind.position.seeds q₀)) : q.terms = q₀.terms := by
  have placed := wf.view.placed own
  obtain ⟨target, owner⟩ := placed.at_address place
  cases q
  cases q₀
  cases target
  cases owner
  simp only [InvestorPosition.terms, InvestorPosition.mk.injEq, true_and]
  exact placed.bump.trans bump.symm

/-- After an instruction there is the account that it opens, with the terms that it wrote. -/
lemma step_opens (wf : s.Wf) (st : step s x = .ok s') {κ : SeedKind} {r₀ : κ.Record K}
    (opens : x.record = some ⟨κ, r₀⟩) :
    ∃ r, (s'.table κ).lookup (findProgramAddress (κ.seeds r₀)) = some r ∧ κ.terms r = r₀ := by
  have mem : κ.seeds r₀ ∈ x.seeds := by
    rw [Action.record_seeds opens]
    exact .head _
  have made := State.made_iff.mp (step_made st mem)
  rw [κ.kind_seeds] at made
  obtain ⟨r, own⟩ := Finmap.mem_iff.mp made
  refine ⟨r, own, ?_⟩
  rcases (step_touches wf st κ).origin own with ⟨r₁, old, terms⟩ | ⟨-, opens', -⟩
  · -- an account that was there is a position
    have there : s.Made (κ.seeds r₀) := by
      rw [State.made_iff, κ.kind_seeds]
      exact Finmap.mem_of_lookup_eq_some old
    by_cases kind : κ = .position
    · subst kind
      cases x with
      | outside o => cases opens
      | call now i =>
        obtain ⟨-, bump, first⟩ := Instruction.record_place opens
        rw [terms, ← first]
        exact wf.terms_position old rfl bump
    · exact absurd there (step_unmade st mem (by rwa [κ.kind_seeds]))
  · rw [opens] at opens'
    cases opens'
    rfl

/-! ## Runs -/

namespace Genesis
variable (g : Genesis K) (as : List (Action K))

/-- An account is made once. -/
lemma made_once (kind : σ.kind ≠ .position) :
    (g.history as).countP (fun x => σ ∈ x.2.seeds) ≤ 1 := by
  have exact' : (¬ (g.run as).Made σ → (g.history as).countP (fun x => σ ∈ x.2.seeds) = 0) ∧
      (g.history as).countP (fun x => σ ∈ x.2.seeds) ≤ 1 := by
    refine g.run_induction (I := fun h s => (¬ s.Made σ → h.countP (fun x => σ ∈ x.2.seeds) = 0) ∧
      h.countP (fun x => σ ∈ x.2.seeds) ≤ 1) ⟨fun _ => rfl, Nat.zero_le 1⟩ ?_ as
    rintro h s a s' wf ⟨none, one⟩ st
    rw [List.countP_append, List.countP_singleton]
    by_cases mem : σ ∈ a.seeds
    · rw [if_pos (by simpa using mem), none (step_unmade st mem kind)]
      exact ⟨fun unmade => absurd (step_made st mem) unmade, Nat.le_refl 1⟩
    · rw [if_neg (by simpa using mem)]
      exact ⟨fun unmade => none fun made => unmade (step_keeps_made wf st made), one⟩
  exact exact'.2

/-- An account is at the address that it names, and a successful instruction opened it with its terms. -/
lemma opened (κ : SeedKind) (k : K) (r : κ.Record K) (own : ((g.run as).table κ).lookup k = some r) :
    k = findProgramAddress (κ.seeds r) ∧ ∃ x ∈ g.history as, x.2.record = some ⟨κ, κ.terms r⟩ := by
  refine g.run_induction (I := fun h s => ∀ k r, (s.table κ).lookup k = some r →
    k = findProgramAddress (κ.seeds r) ∧ ∃ x ∈ h, x.2.record = some ⟨κ, κ.terms r⟩) ?_ ?_ as k r own
  · intro k r own
    cases κ <;> cases own
  · intro h s a s' wf before st k r own
    rcases (step_touches wf st κ).origin own with ⟨r₀, old, terms⟩ | ⟨-, opens, place⟩
    · obtain ⟨place, x, mem, opens⟩ := before k r₀ old
      exact ⟨place.trans (by rw [κ.seeds_congr terms]), x, List.mem_append_left _ mem, by rw [terms, opens]⟩
    · exact ⟨place, _, List.mem_append_right _ (.head _), opens⟩

/-- An account has the terms that it was opened with. -/
lemma terms_of_opened {κ : SeedKind} {r₀ : κ.Record K} {x : State K × Action K} (mem : x ∈ g.history as)
    (opens : x.2.record = some ⟨κ, r₀⟩) :
    ∃ r, ((g.run as).table κ).lookup (findProgramAddress (κ.seeds r₀)) = some r ∧ κ.terms r = r₀ := by
  refine g.run_induction (I := fun h s => ∀ x ∈ h, ∀ r₀, x.2.record = some ⟨κ, r₀⟩ →
    ∃ r, (s.table κ).lookup (findProgramAddress (κ.seeds r₀)) = some r ∧ κ.terms r = r₀) ?_ ?_ as x mem r₀ opens
  · rintro x ⟨⟩
  · intro h s a s' wf before st x mem r₀ opens
    rcases List.mem_append.mp mem with old | new
    · obtain ⟨r, own, terms⟩ := before x old r₀ opens
      obtain ⟨r', own', terms'⟩ := (step_touches wf st κ).keeps _ r own
      exact ⟨r', own', terms'.trans terms⟩
    · cases List.mem_singleton.mp new
      exact step_opens wf st opens

/-- An account is there in every later state, with the same terms. -/
lemma terms_later (bs : List (Action K)) {κ : SeedKind} {k : K} {r : κ.Record K}
    (own : ((g.run as).table κ).lookup k = some r) :
    ∃ r', ((g.run (as ++ bs)).table κ).lookup k = some r' ∧ κ.terms r' = κ.terms r := by
  obtain ⟨place, x, mem, opens⟩ := g.opened as κ k r own
  have later : x ∈ g.history (as ++ bs) := by
    rw [g.history_append]
    exact List.mem_append_left _ mem
  obtain ⟨r', own', terms⟩ := g.terms_of_opened (as ++ bs) later opens
  rw [κ.seeds_terms, ← place] at own'
  exact ⟨r', own', terms⟩

end Genesis

/-- The accounts of a reachable state are those that the successful instructions of the run opened, each at the
address of the seeds that it names and with the terms that it was opened with; none but a position is opened twice;
and in every later state they are all there, with the same terms. -/
theorem accounts_as_opened (g : Genesis K) (as : List (Action K)) :
    (∀ κ k r, ((g.run as).table κ).lookup k = some r → k = findProgramAddress (κ.seeds r)) ∧
    (∀ κ (r₀ : κ.Record K), (∃ x ∈ g.history as, x.2.record = some ⟨κ, r₀⟩) ↔
      ∃ r, ((g.run as).table κ).lookup (findProgramAddress (κ.seeds r₀)) = some r ∧ κ.terms r = r₀) ∧
    (∀ σ : Seeds K, σ.kind ≠ .position → (g.history as).countP (fun x => σ ∈ x.2.seeds) ≤ 1) ∧
    ∀ bs κ k r, ((g.run as).table κ).lookup k = some r →
      ∃ r', ((g.run (as ++ bs)).table κ).lookup k = some r' ∧ κ.terms r' = κ.terms r := by
  refine ⟨fun κ k r own => (g.opened as κ k r own).1, ?_, fun σ kind => g.made_once as kind,
    fun bs κ k r own => g.terms_later as bs own⟩
  intro κ r₀
  constructor
  · rintro ⟨x, mem, opens⟩
    exact g.terms_of_opened as mem opens
  · rintro ⟨r, own, rfl⟩
    exact (g.opened as κ _ r own).2

end Exira
