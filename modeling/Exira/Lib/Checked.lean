import Mathlib.Data.BitVec
import Mathlib.Tactic.Lemma

/-!
# Checked arithmetic and fallible code

Unsigned machine integers are bit vectors, and an operation of the source that can overflow returns an
option (`BitVec.checkedAdd` for `checked_add`, and so on). Each operation has one lemma that says when
it succeeds and with which value, over the natural numbers; the operation itself is not unfolded after
that.

Code that fails is a do-block in `Except`. `Except.bind_eq_ok` reads a successful block backwards, one
statement at a time, and `Except.Avoids` is the rule by which a block is shown never to end with certain
errors.
-/

namespace BitVec

variable {w v : ℕ}

/-- `checked_add` -/
def checkedAdd (a b : BitVec w) : Option (BitVec w) :=
  if a.toNat + b.toNat < 2 ^ w then some (BitVec.ofNat w (a.toNat + b.toNat)) else none

/-- `checked_sub` -/
def checkedSub (a b : BitVec w) : Option (BitVec w) :=
  if b.toNat ≤ a.toNat then some (BitVec.ofNat w (a.toNat - b.toNat)) else none

/-- `checked_mul` -/
def checkedMul (a b : BitVec w) : Option (BitVec w) :=
  if a.toNat * b.toNat < 2 ^ w then some (BitVec.ofNat w (a.toNat * b.toNat)) else none

/-- `checked_div` -/
def checkedDiv (a b : BitVec w) : Option (BitVec w) :=
  if b.toNat = 0 then none else some (BitVec.ofNat w (a.toNat / b.toNat))

/-- `saturating_add` -/
def saturatingAdd (a b : BitVec w) : BitVec w :=
  BitVec.ofNat w (min (a.toNat + b.toNat) (2 ^ w - 1))

/-- `try_from` to an integer of `v` bits -/
def tryFrom (v : ℕ) (a : BitVec w) : Option (BitVec v) :=
  if a.toNat < 2 ^ v then some (BitVec.ofNat v a.toNat) else none

/-- The word of a number that fits is the word with this value. -/
lemma eq_ofNat_iff {n : ℕ} (lt : n < 2 ^ w) (c : BitVec w) :
    BitVec.ofNat w n = c ↔ c.toNat = n := by
  constructor
  · rintro rfl
    rw [toNat_ofNat, Nat.mod_eq_of_lt lt]
  · rintro rfl
    rw [ofNat_toNat, setWidth_eq]

/-- A checked sum is the sum of the numbers. -/
lemma checkedAdd_eq_some {a b c : BitVec w} :
    a.checkedAdd b = some c ↔ c.toNat = a.toNat + b.toNat := by
  unfold checkedAdd
  split
  · next lt => rw [Option.some.injEq, eq_ofNat_iff lt]
  · next ge =>
    have lt := c.isLt
    constructor
    · nofun
    · omega

/-- A checked sum is refused when it does not fit. -/
lemma checkedAdd_eq_none {a b : BitVec w} :
    a.checkedAdd b = none ↔ 2 ^ w ≤ a.toNat + b.toNat := by
  simp [checkedAdd]

/-- A checked difference is the difference of the numbers, which is no less than zero. -/
lemma checkedSub_eq_some {a b c : BitVec w} :
    a.checkedSub b = some c ↔ b.toNat ≤ a.toNat ∧ c.toNat = a.toNat - b.toNat := by
  unfold checkedSub
  have lt := a.isLt
  split
  · next le => rw [Option.some.injEq, eq_ofNat_iff (by omega), and_iff_right le]
  · next gt => exact ⟨nofun, fun h => absurd h.1 gt⟩

/-- A checked difference is refused when it is below zero. -/
lemma checkedSub_eq_none {a b : BitVec w} :
    a.checkedSub b = none ↔ a.toNat < b.toNat := by
  simp [checkedSub]

/-- A sum that fits is accepted. -/
lemma checkedAdd_of_lt {a b : BitVec w} (lt : a.toNat + b.toNat < 2 ^ w) :
    ∃ c, a.checkedAdd b = some c :=
  ⟨_, if_pos lt⟩

/-- A difference that is not below zero is accepted. -/
lemma checkedSub_of_le {a b : BitVec w} (le : b.toNat ≤ a.toNat) : ∃ c, a.checkedSub b = some c :=
  ⟨_, if_pos le⟩

/-- A checked product is the product of the numbers. -/
lemma checkedMul_eq_some {a b c : BitVec w} :
    a.checkedMul b = some c ↔ c.toNat = a.toNat * b.toNat := by
  unfold checkedMul
  split
  · next lt => rw [Option.some.injEq, eq_ofNat_iff lt]
  · next ge =>
    have lt := c.isLt
    constructor
    · nofun
    · omega

/-- A product that fits is accepted. -/
lemma checkedMul_of_lt {a b : BitVec w} (lt : a.toNat * b.toNat < 2 ^ w) :
    ∃ c, a.checkedMul b = some c :=
  ⟨_, if_pos lt⟩

/-- A checked quotient is that of the numbers, by a number that is not zero. -/
lemma checkedDiv_eq_some {a b c : BitVec w} :
    a.checkedDiv b = some c ↔ b.toNat ≠ 0 ∧ c.toNat = a.toNat / b.toNat := by
  unfold checkedDiv
  split
  · next z => exact ⟨nofun, fun h => absurd z h.1⟩
  · next nz =>
    have lt := Nat.lt_of_le_of_lt (Nat.div_le_self a.toNat b.toNat) a.isLt
    rw [Option.some.injEq, eq_ofNat_iff lt, and_iff_right nz]

/-- A quotient by a positive number is accepted. -/
lemma checkedDiv_of_pos {a b : BitVec w} (pos : 0 < b.toNat) : ∃ c, a.checkedDiv b = some c :=
  ⟨_, if_neg pos.ne'⟩

/-- A saturating sum stops at the largest word. -/
lemma toNat_saturatingAdd (a b : BitVec w) :
    (a.saturatingAdd b).toNat = min (a.toNat + b.toNat) (2 ^ w - 1) := by
  have pos := Nat.two_pow_pos w
  exact (eq_ofNat_iff (by omega) _).mp rfl

/-- A conversion to another width keeps the number. -/
lemma tryFrom_eq_some {a : BitVec w} {c : BitVec v} :
    a.tryFrom v = some c ↔ c.toNat = a.toNat := by
  unfold tryFrom
  split
  · next lt => rw [Option.some.injEq, eq_ofNat_iff lt]
  · next ge =>
    have lt := c.isLt
    constructor
    · nofun
    · omega

/-- A number that fits is converted. -/
lemma tryFrom_of_lt {a : BitVec w} (lt : a.toNat < 2 ^ v) : ∃ c, a.tryFrom v = some c :=
  ⟨_, if_pos lt⟩

/-- A widening cast keeps the value. -/
lemma toNat_setWidth_widen (a : BitVec w) (h : w ≤ v) : (a.setWidth v).toNat = a.toNat := by
  rw [toNat_setWidth, Nat.mod_eq_of_lt]
  exact Nat.lt_of_lt_of_le a.isLt (Nat.pow_le_pow_right (by omega) h)

/-- A word is zero when its number is. -/
lemma eq_of_toNat_eq_zero {a : BitVec w} (h : a.toNat = 0) : a = 0 :=
  eq_of_toNat_eq (by simpa using h)

end BitVec

namespace Option

variable {α ε : Type}

/-- `ok_or` -/
def okOr (o : Option α) (e : ε) : Except ε α :=
  match o with
  | some a => .ok a
  | none => .error e

/-- An option that is there is passed on. -/
@[simp]
lemma okOr_eq_ok {o : Option α} {e : ε} {a : α} : o.okOr e = .ok a ↔ o = some a := by
  cases o <;> simp [okOr]

/-- An option that is not there raises the error. -/
@[simp]
lemma okOr_eq_error {o : Option α} {e e' : ε} : o.okOr e = .error e' ↔ o = none ∧ e = e' := by
  cases o <;> simp [okOr]

end Option

namespace Except

variable {α β ε ε' : Type}

/-- `require!(c, e)` -/
def require (c : Prop) [Decidable c] (e : ε) : Except ε Unit :=
  if c then .ok () else .error e

/-- A requirement is passed when it holds. -/
@[simp]
lemma require_eq_ok {c : Prop} [Decidable c] {e : ε} {u : Unit} : require c e = .ok u ↔ c := by
  unfold require
  split <;> simp [*]

/-- A requirement that does not hold raises its error. -/
@[simp]
lemma require_eq_error {c : Prop} [Decidable c] {e e' : ε} :
    require c e = .error e' ↔ ¬ c ∧ e = e' := by
  unfold require
  split <;> simp [*]

/-- A sequence succeeds when both of its parts do. -/
lemma bind_eq_ok {x : Except ε α} {f : α → Except ε β} {b : β} :
    (x >>= f) = .ok b ↔ ∃ a, x = .ok a ∧ f a = .ok b := by
  cases x with
  | ok a => simp [bind, Except.bind]
  | error e => simp [bind, Except.bind]

/-- A block goes on with what its first statement gave. -/
lemma bind_of_ok {x : Except ε α} {a : α} (h : x = .ok a) (f : α → Except ε β) :
    (x >>= f) = f a := by
  rw [h]
  rfl

/-- A sequence fails in its first part, or in its second after the first. -/
lemma bind_eq_error {x : Except ε α} {f : α → Except ε β} {e : ε} :
    (x >>= f) = .error e ↔ x = .error e ∨ ∃ a, x = .ok a ∧ f a = .error e := by
  cases x with
  | ok a => simp [bind, Except.bind]
  | error e => simp [bind, Except.bind]

/-- Renaming errors keeps results. -/
@[simp]
lemma mapError_eq_ok {g : ε → ε'} {x : Except ε α} {a : α} :
    x.mapError g = .ok a ↔ x = .ok a := by
  cases x <;> simp [Except.mapError]

/-- A renamed error comes from an error. -/
@[simp]
lemma mapError_eq_error {g : ε → ε'} {x : Except ε α} {e : ε'} :
    x.mapError g = .error e ↔ ∃ e₀, x = .error e₀ ∧ g e₀ = e := by
  cases x <;> simp [Except.mapError]

/-- What is kept as an option is what succeeded. -/
lemma toOption_eq_some {x : Except ε α} {a : α} : x.toOption = some a ↔ x = .ok a := by
  cases x <;> simp [Except.toOption]

/-! ## Errors that cannot come up -/

/-- The computation does not end with a `bad` error. -/
def Avoids (bad : ε → Prop) (x : Except ε α) : Prop :=
  ∀ e, x = .error e → ¬ bad e

variable {bad : ε → Prop}

/-- A result is no error. -/
lemma Avoids.ok (a : α) : (Except.ok a : Except ε α).Avoids bad := nofun

/-- A block avoids an error when its first statement does, and the rest does on every value that the
first can give. -/
lemma Avoids.bind {x : Except ε α} {f : α → Except ε β} (hx : x.Avoids bad)
    (hf : ∀ a, x = .ok a → (f a).Avoids bad) : (x >>= f).Avoids bad := by
  intro e h
  rcases bind_eq_error.mp h with h | ⟨a, ha, h⟩
  · exact hx e h
  · exact hf a ha e h

/-- A requirement avoids all but its own error. -/
lemma Avoids.require {c : Prop} [Decidable c] {e : ε} (h : ¬ bad e) :
    (Except.require c e).Avoids bad := by
  intro e' h'
  rw [require_eq_error] at h'
  exact h'.2 ▸ h

/-- A check that holds raises nothing. -/
lemma Avoids.require_of {c : Prop} [Decidable c] {e : ε} (h : c) :
    (Except.require c e).Avoids bad := by
  intro e' h'
  rw [require_eq_error] at h'
  exact absurd h h'.1

/-- An option avoids all but its own error. -/
lemma Avoids.okOr {o : Option α} {e : ε} (h : ¬ bad e) : (o.okOr e).Avoids bad := by
  intro e' h'
  rw [Option.okOr_eq_error] at h'
  exact h'.2 ▸ h

/-- A partial operation that has a value raises nothing. -/
lemma Avoids.okOr_some {o : Option α} {e : ε} (h : o ≠ none) : (o.okOr e).Avoids bad := by
  intro e' h'
  rw [Option.okOr_eq_error] at h'
  exact absurd h'.1 h

/-- Renamed errors avoid what no new name is. -/
lemma Avoids.mapError {g : ε' → ε} {x : Except ε' α} (h : ∀ e, ¬ bad (g e)) :
    (x.mapError g).Avoids bad := by
  intro e h'
  obtain ⟨e₀, -, rfl⟩ := mapError_eq_error.mp h'
  exact h e₀

end Except
