import Exira.Lib.Dividend
import Exira.State.Accounts

/-!
# Funds

What a project and a pool are for, without accounts, addresses and machine integers: a fund sells units
1:1 for USDC up to a target, keeps the USDC in one vault, and shares repayments among the holders of the
units through a dividend ledger. Projects activate when sold out, pay an origination fee, repay and
complete; pools stay in their funding phase and may sell and repay at any time.

`Fund.Step` is the machine, `Fund.Reaches` its runs together with the history of the run, and `Fund.Sound`
the invariant that every run keeps.
-/

namespace Exira

open Dividend

/-- The two kinds of fund. -/
inductive Layer where
  | project
  | pool
deriving DecidableEq

/-- A fund whose holders are named by `ι`. -/
structure Fund (ι : Type) extends Ledger ι where
  layer : Layer
  status : ProjectStatus
  target : ℕ
  fee : ℕ
  vault : ℕ
  supply : ℕ

/-- What can happen to a fund. The last three are payments out by the admin, deposits by anybody, and
holders who burn unit tokens. -/
inductive Event (ι : Type) where
  | buy (i : ι) (n : ℕ)
  | exit (i : ι)
  | claim (i : ι)
  | distribute (n : ℕ)
  | activate (fee : ℕ)
  | close
  | payout (n : ℕ)
  | deposit (n : ℕ)
  | burn (n : ℕ)
deriving DecidableEq

/-- The status after a distribution: the first one turns an active project into a repaying one. -/
def Layer.repaid (l : Layer) (st : ProjectStatus) : ProjectStatus :=
  if l = .project ∧ st = .active then .repaying else st

/-- When a fund distributes. -/
def Layer.Repays (l : Layer) (st : ProjectStatus) : Prop :=
  l = .project → st = .active ∨ st = .repaying

/-- A pool may distribute at any time. -/
lemma Layer.repays_pool (st : ProjectStatus) : Layer.pool.Repays st := by
  intro project
  cases project

namespace Fund

variable {ι : Type} [DecidableEq ι]

/-- One event of a fund, at precision `P`. -/
inductive Step (P : ℕ) : Fund ι → Event ι → Fund ι → Prop
  | buy {f i n} (status : f.status = .funding) (pos : 0 < n) (room : f.sold + n ≤ f.target) :
    Step P f (.buy i n)
      { f with toLedger := f.toLedger.buy i n, vault := f.vault + n, supply := f.supply + n }
  | exit {f i h} (layer : f.layer = .project) (status : f.status = .funding ∨ f.status = .cancelled)
      (own : f.holdings.lookup i = some h) (pos : 0 < h.held) (covered : h.held ≤ f.vault)
      (minted : h.held ≤ f.supply) :
    Step P f (.exit i)
      { f with
        toLedger := f.toLedger.exit i h, vault := f.vault - h.held, supply := f.supply - h.held }
  | claim {f i h} (own : f.holdings.lookup i = some h) (pos : 0 < h.owed P f.index)
      (covered : h.owed P f.index ≤ f.vault) :
    Step P f (.claim i)
      { f with toLedger := f.toLedger.claim P i h, vault := f.vault - h.owed P f.index }
  | distribute {f n} (status : f.layer.Repays f.status) (pos : 0 < n) (sold : 0 < f.sold) :
    Step P f (.distribute n)
      { f with
        toLedger := f.toLedger.distribute P n
        status := f.layer.repaid f.status
        vault := f.vault + n }
  | activate {f fee} (layer : f.layer = .project) (status : f.status = .funding)
      (full : f.sold = f.target) (covered : fee ≤ f.vault) :
    Step P f (.activate fee) { f with status := .active, fee := fee, vault := f.vault - fee }
  | close {f} (layer : f.layer = .project) (status : f.status = .repaying ∨ f.status = .active) :
    Step P f .close { f with status := .completed }
  | payout {f n} (layer : f.layer = .project) (pos : 0 < n) (covered : n ≤ f.vault) :
    Step P f (.payout n) { f with vault := f.vault - n }
  | deposit {f n} : Step P f (.deposit n) { f with vault := f.vault + n }
  | burn {f n} (minted : n ≤ f.supply) : Step P f (.burn n) { f with supply := f.supply - n }

/-- A fund that was just created. -/
structure Fresh (f : Fund ι) : Prop where
  status : f.status = .funding
  sold : f.sold = 0
  distributed : f.distributed = 0
  index : f.index = 0
  holdings : f.holdings = ∅
  fee : f.fee = 0
  vault : f.vault = 0
  supply : f.supply = 0

/-- The fund was reached from its creation; every event of the history comes with the fund it met. -/
inductive Reaches (P : ℕ) : List (Fund ι × Event ι) → Fund ι → Prop
  | fresh {f} (new : f.Fresh) : Reaches P [] f
  | step {tr f e f'} (past : Reaches P tr f) (st : f.Step P e f') : Reaches P (tr ++ [(f, e)]) f'

/-- The invariant of a fund. -/
structure Sound (f : Fund ι) : Prop where
  ledger : f.toLedger.Sound
  room : f.sold ≤ f.target
  live : f.status ≠ .cancelled
  pool : f.layer = .pool → f.status = .funding ∧ ∀ i h, f.holdings.lookup i = some h → 0 < h.held
  funding : f.layer = .project → f.status = .funding → f.distributed = 0 ∧ f.index = 0 ∧ f.fee = 0 ∧
    ∀ i h, f.holdings.lookup i = some h → h.last = 0 ∧ h.claimed = 0
  full : f.status ≠ .funding → f.sold = f.target
  active : f.status = .active → f.distributed = 0
  repaying : f.status = .repaying → 0 < f.distributed

variable {P : ℕ} {f f' : Fund ι} {e : Event ι} {tr : List (Fund ι × Event ι)}

/-! ## Soundness -/

/-- A new fund is sound. -/
lemma Fresh.sound (new : f.Fresh) : f.Sound := by
  have none : ∀ i h, f.holdings.lookup i ≠ some h := by
    intro i h
    rw [new.holdings, Finmap.lookup_empty]
    nofun
  refine ⟨⟨?_, ?_⟩, ?_, ?_, ?_, ?_, ?_, ?_, ?_⟩
  · rw [new.holdings, Finmap.sum_empty, new.sold]
  · exact fun i h own => absurd own (none i h)
  · rw [new.sold]
    exact Nat.zero_le _
  · rw [new.status]
    nofun
  · exact fun _ => ⟨new.status, fun i h own => absurd own (none i h)⟩
  · exact fun _ _ => ⟨new.distributed, new.index, new.fee, fun i h own => absurd own (none i h)⟩
  · exact fun ne => absurd new.status ne
  · exact fun _ => new.distributed
  · rw [new.status]
    nofun

/-- A purchase is while the fund is for sale, and its holding has units and nothing settled. -/
lemma Sound.buy {i : ι} {n : ℕ} (sound : f.Sound) (st : f.Step P (.buy i n) f') : f'.Sound := by
  cases st with
  | buy status pos room =>
    refine ⟨sound.ledger.buy i n, room, sound.live, ?_, ?_, ?_, sound.active, sound.repaying⟩
    · intro pool
      refine ⟨status, ?_⟩
      apply Finmap.forall_insert (sound.pool pool).2
      unfold Holding.topUp
      split
      · exact pos
      · exact Nat.add_pos_right _ pos
    · intro project _
      obtain ⟨distributed, index, fee, zero⟩ := sound.funding project status
      refine ⟨distributed, index, fee, ?_⟩
      apply Finmap.forall_insert zero
      unfold Holding.topUp
      split
      · exact ⟨index, rfl⟩
      · next h own => exact zero i h own
    · exact fun ne => absurd status ne

/-- An exit is from a project that is for sale. -/
lemma Sound.exit {i : ι} (sound : f.Sound) (st : f.Step P (.exit i) f') : f'.Sound := by
  cases st with
  | @exit _ h project status own pos =>
    have funding := status.resolve_right sound.live
    refine ⟨sound.ledger.exit own, ?_, sound.live, ?_, ?_, ?_, sound.active, sound.repaying⟩
    · exact (Nat.sub_le _ _).trans sound.room
    · intro pool
      cases project.symm.trans pool
    · intro _ _
      obtain ⟨distributed, index, fee, zero⟩ := sound.funding project funding
      refine ⟨distributed, index, fee, ?_⟩
      exact Finmap.forall_insert zero (zero i h own)
    · exact fun ne => absurd funding ne

/-- A claim is not from a project that is for sale: its index is zero, so nobody is owed anything. -/
lemma Sound.claim {i : ι} (sound : f.Sound) (st : f.Step P (.claim i) f') : f'.Sound := by
  cases st with
  | @claim _ h own pos =>
    refine ⟨sound.ledger.claim own, sound.room, sound.live, ?_, ?_, sound.full, sound.active,
      sound.repaying⟩
    · intro pool
      obtain ⟨status, held⟩ := sound.pool pool
      exact ⟨status, Finmap.forall_insert held (held i h own)⟩
    · intro project funding
      obtain ⟨-, index, -, -⟩ := sound.funding project funding
      simp [Holding.owed, Holding.pending, index] at pos

/-- A distribution is from a pool, or from a project that is sold out. -/
lemma Sound.distribute {n : ℕ} (sound : f.Sound) (st : f.Step P (.distribute n) f') : f'.Sound := by
  cases st with
  | distribute status pos sold =>
    refine ⟨sound.ledger.distribute n, sound.room, ?_, ?_, ?_, ?_, ?_, ?_⟩
    · show Layer.repaid _ _ ≠ _
      unfold Layer.repaid
      split
      · intro e
        cases e
      · exact sound.live
    · intro pool
      have pool : f.layer = .pool := pool
      simp only [Layer.repaid, pool, reduceCtorEq, false_and, if_false]
      exact sound.pool pool
    · intro project funding
      have project : f.layer = .project := project
      rcases status project with e | e <;> simp [Layer.repaid, e, project] at funding
    · intro ne
      cases e : f.layer with
      | project =>
        apply sound.full
        intro funding
        rcases status e with e | e <;> cases funding.symm.trans e
      | pool =>
        apply sound.full
        simpa [Layer.repaid, e] using ne
    · intro active
      cases e : f.layer with
      | project => rcases status e with e' | e' <;> simp [Layer.repaid, e, e'] at active
      | pool =>
        have funding := (sound.pool e).1
        simp [Layer.repaid, e, funding] at active
    · exact fun _ => Nat.add_pos_right _ pos

/-- Only a project is activated, when it is sold out and has distributed nothing. -/
lemma Sound.activate {fee : ℕ} (sound : f.Sound) (st : f.Step P (.activate fee) f') : f'.Sound := by
  cases st with
  | activate layer status full =>
    obtain ⟨distributed, -⟩ := sound.funding layer status
    refine ⟨sound.ledger, sound.room, ?_, ?_, ?_, fun _ => full, fun _ => distributed, ?_⟩
    · intro e
      cases e
    · intro pool
      cases layer.symm.trans pool
    · intro _ e
      cases e
    · intro e
      cases e

/-- Only a project is closed, after its activation. -/
lemma Sound.close (sound : f.Sound) (st : f.Step P .close f') : f'.Sound := by
  cases st with
  | close layer status =>
    refine ⟨sound.ledger, sound.room, ?_, ?_, ?_, ?_, ?_, ?_⟩
    · intro e
      cases e
    · intro pool
      cases layer.symm.trans pool
    · intro _ e
      cases e
    · intro _
      apply sound.full
      intro funding
      rcases status with e | e <;> cases funding.symm.trans e
    · intro e
      cases e
    · intro e
      cases e

/-- Every event keeps the invariant. -/
lemma Sound.step (sound : f.Sound) (st : f.Step P e f') : f'.Sound := by
  cases e with
  | buy => exact sound.buy st
  | exit => exact sound.exit st
  | claim => exact sound.claim st
  | distribute => exact sound.distribute st
  | activate => exact sound.activate st
  | close => exact sound.close st
  | payout => cases st; exact { sound with }
  | deposit => cases st; exact { sound with }
  | burn => cases st; exact { sound with }

/-- Every run keeps the invariant. -/
theorem Reaches.sound (run : Reaches P tr f) : f.Sound := by
  induction run with
  | fresh new => exact new.sound
  | step _ st ih => exact ih.step st

/-! ## What an event does to one holding -/

end Fund

/-- What an event does to the holding of `i`, at an index. -/
def Event.act {ι : Type} [DecidableEq ι] (P index : ℕ) (i : ι) : Event ι → Holding → Holding
  | .buy j n, h => if j = i then { h with held := h.held + n } else h
  | .exit j, h => if j = i then { h with held := 0 } else h
  | .claim j, h => if j = i then h.settle P index else h
  | _, h => h

namespace Fund

variable {ι : Type} [DecidableEq ι] {P : ℕ} {f f' : Fund ι} {e : Event ι} {i : ι} {h : Holding}

/-- What a step does to the holding at a key. -/
lemma Step.lookup (st : f.Step P e f') (own : f.holdings.lookup i = some h) :
    f'.holdings.lookup i = some (e.act P f.index i h) := by
  cases st with
  | @buy j =>
    simp only [Ledger.buy, Finmap.lookup_insert_ite, Event.act, eq_comm (a := i)]
    split
    · next e => rw [e, own]; rfl
    · exact own
  | @exit j _ _ _ own' =>
    simp only [Ledger.exit, Finmap.lookup_insert_ite, Event.act, eq_comm (a := i)]
    split
    · next e => rw [e, own] at own'; cases own'; rfl
    · exact own
  | @claim j _ own' =>
    simp only [Ledger.claim, Finmap.lookup_insert_ite, Event.act, eq_comm (a := i)]
    split
    · next e => rw [e, own] at own'; cases own'; rfl
    · exact own
  | distribute => exact own
  | activate => exact own
  | close => exact own
  | payout => exact own
  | deposit => exact own
  | burn => exact own

/-- A holding appears by a purchase of its holder only, and is settled then. -/
lemma Step.lookup_new (st : f.Step P e f') (free : f.holdings.lookup i = none)
    (own : f'.holdings.lookup i = some h) :
    ∃ n, e = .buy i n ∧ h = { held := n, last := f.index, claimed := 0 } := by
  cases st with
  | @buy j n =>
    simp only [Ledger.buy, Finmap.lookup_insert_ite] at own
    split at own
    · next e =>
      subst e
      rw [free] at own
      cases own
      exact ⟨n, rfl, rfl⟩
    · cases free.symm.trans own
  | @exit j _ _ _ own' =>
    simp only [Ledger.exit, Finmap.lookup_insert_ite] at own
    split at own
    · next e => subst e; cases free.symm.trans own'
    · cases free.symm.trans own
  | @claim j _ own' =>
    simp only [Ledger.claim, Finmap.lookup_insert_ite] at own
    split at own
    · next e => subst e; cases free.symm.trans own'
    · cases free.symm.trans own
  | distribute => cases free.symm.trans own
  | activate => cases free.symm.trans own
  | close => cases free.symm.trans own
  | payout => cases free.symm.trans own
  | deposit => cases free.symm.trans own
  | burn => cases free.symm.trans own

/-- The kind and the target of a fund never change. -/
lemma Step.layer (st : f.Step P e f') : f'.layer = f.layer := by
  cases st <;> rfl

/-- No step changes the target. -/
lemma Step.target (st : f.Step P e f') : f'.target = f.target := by
  cases st <;> rfl

end Fund

end Exira
