import Mathlib.Data.BitVec
import Mathlib.Tactic.Lemma

/-!
# Layouts of fields

Records of several kinds, laid out as the bytes of their fields, end to end and with nothing between
them. The fields of a record have the widths of its kind, so a layout whose kinds have different total
widths can be read back (`Layout.encode_inj`), and if records that are hashed in it share a digest, then
the hash has a collision (`Layout.eq_or_collides`). An integer becomes a field by `BitVec.toLeBytes`.
-/

namespace BitVec

variable {w : ℕ}

/-- `to_le_bytes`, into `n` bytes -/
def toLeBytes (n : ℕ) (x : BitVec w) : List (BitVec 8) :=
  (List.range n).map fun i => x.extractLsb' (8 * i) 8

@[simp] lemma length_toLeBytes (n : ℕ) (x : BitVec w) : (x.toLeBytes n).length = n := by
  simp [toLeBytes]

/-- Bit `i` of an integer is bit `i % 8` of its byte `i / 8`. -/
lemma toLeBytes_inj {n : ℕ} {x y : BitVec w} (fits : w ≤ 8 * n)
    (e : x.toLeBytes n = y.toLeBytes n) : x = y := by
  apply eq_of_getLsbD_eq
  intro i lt
  have byte : x.extractLsb' (8 * (i / 8)) 8 = y.extractLsb' (8 * (i / 8)) 8 :=
    List.map_inj_left.mp e (i / 8) (List.mem_range.mpr (by omega))
  have bit := congrArg (fun b => b.getLsbD (i % 8)) byte
  have small : i % 8 < 8 := Nat.mod_lt i (by decide)
  simpa only [getLsbD_extractLsb', small, decide_true, Bool.true_and, Nat.div_add_mod] using bit

end BitVec

/-- Two inputs with one digest. -/
def Collides {α β : Type} (hash : α → β) : Prop :=
  ∃ x y, x ≠ y ∧ hash x = hash y

/-- An injective hash has no collision. -/
lemma Function.Injective.not_collides {α β : Type} {hash : α → β} (inj : Function.Injective hash) :
    ¬ Collides hash := by
  rintro ⟨x, y, ne, e⟩
  exact ne (inj e)

/-- The fields of records `R` over the alphabet `α`. The kind of a record fixes their widths. -/
structure Layout (R κ α : Type) where
  kind : R → κ
  widths : κ → List ℕ
  fields : R → List (List α)
  fields_widths : ∀ r, (fields r).map List.length = widths (kind r)

namespace Layout

variable {R κ α β : Type} (L : Layout R κ α)

/-- The fields of a record, end to end. -/
def encode (r : R) : List α :=
  (L.fields r).flatten

/-- The length of a code is that of its fields. -/
lemma length_encode (r : R) : (L.encode r).length = (L.widths (L.kind r)).sum := by
  rw [encode, List.length_flatten, L.fields_widths]

/-- The kinds have different total widths, and within a kind the fields determine the record. -/
structure Readable : Prop where
  widths_inj : Function.Injective fun k => (L.widths k).sum
  fields_inj : ∀ {r s}, L.kind r = L.kind s → L.fields r = L.fields s → r = s

variable {L}

/-- The length gives the kind, the kind gives the widths, and the widths give the fields. -/
lemma encode_inj (ok : L.Readable) : Function.Injective L.encode := by
  intro r s e
  have kinds : L.kind r = L.kind s := by
    apply ok.widths_inj
    have len := congrArg List.length e
    rwa [L.length_encode, L.length_encode] at len
  have widths : (L.fields r).map List.length = (L.fields s).map List.length := by
    rw [L.fields_widths, L.fields_widths, kinds]
  exact ok.fields_inj kinds (List.eq_iff_flatten_eq.mpr ⟨e, widths⟩)

/-- Whatever the hash is, and whatever is appended to the records before hashing. -/
lemma eq_or_collides (ok : L.Readable) (hash : List α → β) (suffix : List α) {r s : R}
    (e : hash (L.encode r ++ suffix) = hash (L.encode s ++ suffix)) : r = s ∨ Collides hash := by
  by_cases same : L.encode r ++ suffix = L.encode s ++ suffix
  · exact .inl (encode_inj ok (List.append_cancel_right same))
  · exact .inr ⟨_, _, same, e⟩

end Layout
