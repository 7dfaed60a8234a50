import Exira.Lib.Layout
import Mathlib.Data.Nat.Digits.Defs
import Mathlib.Logic.Encodable.Basic

/-!
# Codecs

A codec writes values as strings over an alphabet and reads them back from the front of a string. The two laws
are fields: a value that was written is read back, whatever follows it, and what is read was written. So no codec's
words are ambiguous (`Codec.encode_append_inj`) and none has two words for a value. Codecs are put together from
those of single symbols by pairs, by length prefixes, by tags, and by refining one codec along a partial inverse.
`Codec.Sized` says that all words have one length. `Codec.ofEncodable` shows that every countable type has a codec.
-/

/-- A format for values `β` over the alphabet `α`. -/
structure Codec (α β : Type) where
  encode : β → List α
  /-- the value at the front, and the rest -/
  decode : List α → Option (β × List α)
  decode_encode : ∀ x rest, decode (encode x ++ rest) = some (x, rest)
  encode_decode : ∀ {bs x rest}, decode bs = some (x, rest) → encode x ++ rest = bs

namespace Codec

variable {α β γ : Type}

/-! ## Laws -/

section
variable (c : Codec α β)

/-- All words of a codec have length `n`. -/
structure Sized (n : ℕ) : Prop where
  length : ∀ x, (c.encode x).length = n

variable {c}

/-- No word is the beginning of another one. -/
lemma encode_append_inj {x y : β} {r s : List α} (e : c.encode x ++ r = c.encode y ++ s) :
    x = y ∧ r = s := by
  have read := c.decode_encode x r
  rw [e, c.decode_encode] at read
  cases read
  exact ⟨rfl, rfl⟩

/-- Two values with the same code are the same value. -/
lemma encode_inj : Function.Injective c.encode := by
  intro x y e
  exact (encode_append_inj (congrArg (· ++ []) e)).1

end

/-! ## Building codecs -/

/-- One symbol. -/
def symbol (α : Type) : Codec α α where
  encode x := [x]
  decode
    | [] => none
    | x :: rest => some (x, rest)
  decode_encode _ _ := rfl
  encode_decode := by
    intro bs x rest read
    cases bs with
    | nil => cases read
    | cons y bs => cases read; rfl

/-- Nothing at all. -/
def nothing (α : Type) : Codec α Unit where
  encode _ := []
  decode bs := some ((), bs)
  decode_encode _ _ := rfl
  encode_decode := by
    intro bs x rest read
    cases read
    rfl

/-- `n` symbols. -/
def symbols (α : Type) (n : ℕ) : Codec α (Vector α n) where
  encode v := v.toList
  decode bs :=
    if h : (bs.take n).length = n then some (⟨(bs.take n).toArray, by simpa using h⟩, bs.drop n) else none
  decode_encode := by
    intro v rest
    have len : v.toList.length = n := by simp
    have front : (v.toList ++ rest).take n = v.toList := List.take_left' len
    simp only [front, len, dite_true, List.drop_left' len]
    rfl
  encode_decode := by
    intro bs v rest read
    split at read
    · cases read
      exact List.take_append_drop n bs
    · cases read

/-- A value, then one of another codec. -/
def pair (c : Codec α β) (d : Codec α γ) : Codec α (β × γ) where
  encode x := c.encode x.1 ++ d.encode x.2
  decode bs := (c.decode bs).bind fun x => (d.decode x.2).map fun y => ((x.1, y.1), y.2)
  decode_encode := by
    rintro ⟨x, y⟩ rest
    simp only [List.append_assoc, c.decode_encode, d.decode_encode, Option.bind_some, Option.map_some]
  encode_decode := by
    intro bs x rest read
    obtain ⟨⟨x, bs'⟩, first, read⟩ := Option.bind_eq_some_iff.mp read
    obtain ⟨⟨y, bs''⟩, second, read⟩ := Option.map_eq_some_iff.mp read
    cases read
    rw [List.append_assoc, d.encode_decode second, c.encode_decode first]

/-- A list of symbols, after its length. -/
def counted {w : ℕ} (c : Codec α (BitVec w)) : Codec α {xs : List α // xs.length < 2 ^ w} where
  encode xs := c.encode (BitVec.ofNat w xs.1.length) ++ xs.1
  decode bs := (c.decode bs).bind fun n =>
    if h : (n.2.take n.1.toNat).length = n.1.toNat then
      some (⟨n.2.take n.1.toNat, h.trans_lt n.1.isLt⟩, n.2.drop n.1.toNat)
    else none
  decode_encode := by
    rintro ⟨xs, lt⟩ rest
    have len : (BitVec.ofNat w xs.length).toNat = xs.length := by
      rw [BitVec.toNat_ofNat, Nat.mod_eq_of_lt lt]
    simp only [List.append_assoc, c.decode_encode, Option.bind_some, len, List.take_left', List.drop_left',
      dite_true]
  encode_decode := by
    intro bs x rest read
    obtain ⟨⟨n, bs'⟩, first, read⟩ := Option.bind_eq_some_iff.mp read
    split at read
    · next len =>
      cases read
      simp only [len, BitVec.ofNat_toNat, BitVec.setWidth_eq, List.append_assoc, List.take_append_drop]
      exact c.encode_decode first
    · cases read

/-- The values that `read` makes of those of `c`. -/
def refine (c : Codec α β) (read : β → Option γ) (write : γ → β)
    (read_write : ∀ x, read (write x) = some x) (write_read : ∀ {b x}, read b = some x → write x = b) :
    Codec α γ where
  encode x := c.encode (write x)
  decode bs := (c.decode bs).bind fun b => (read b.1).map fun x => (x, b.2)
  decode_encode := by
    intro x rest
    simp only [c.decode_encode, read_write, Option.bind_some, Option.map_some]
  encode_decode := by
    intro bs x rest found
    obtain ⟨⟨b, bs'⟩, first, found⟩ := Option.bind_eq_some_iff.mp found
    obtain ⟨y, second, found⟩ := Option.map_eq_some_iff.mp found
    cases found
    rw [write_read second, c.encode_decode first]

/-- The same words for another type of values. -/
def iso (c : Codec α β) (read : β → γ) (write : γ → β) (read_write : ∀ x, read (write x) = x)
    (write_read : ∀ b, write (read b) = b) : Codec α γ :=
  c.refine (fun b => some (read b)) write (fun x => congrArg some (read_write x)) (by
    intro b x e
    cases e
    exact write_read b)

/-! ## Sizes -/

section
variable {c : Codec α β} {d : Codec α γ} {m n : ℕ}

/-- A symbol takes one place. -/
lemma sized_symbol : (symbol α).Sized 1 := ⟨fun _ => rfl⟩

/-- A vector of symbols takes as many places as it has entries. -/
lemma sized_symbols : (symbols α n).Sized n := ⟨fun v => by simp [symbols]⟩

/-- The width of a pair is the sum of the widths. -/
lemma Sized.pair (hc : c.Sized m) (hd : d.Sized n) : (c.pair d).Sized (m + n) := by
  constructor
  intro x
  rw [Codec.pair, List.length_append, hc.length, hd.length]

/-- A refinement of the values keeps the width. -/
lemma Sized.refine {read : β → Option γ} {write : γ → β} {h h'} (hc : c.Sized n) :
    (c.refine read write h h').Sized n :=
  ⟨fun x => hc.length (write x)⟩

/-- Renaming the values keeps the width. -/
lemma Sized.iso {read : β → γ} {write : γ → β} {h h'} (hc : c.Sized n) :
    (c.iso read write h h').Sized n :=
  hc.refine

/-- A width may be written in another way. -/
lemma Sized.cast (hc : c.Sized m) (e : m = n) : c.Sized n :=
  e ▸ hc

end

/-! ## Tags -/

/-- The values `x` of a list of all, each by its own word `tag x`. -/
def tagged [DecidableEq γ] (c : Codec α γ) (tag : β → γ) (inj : Function.Injective tag) (values : List β)
    (complete : ∀ x, x ∈ values) : Codec α β :=
  c.refine (fun t => values.find? fun x => tag x = t) tag
    (by
      intro x
      cases found : values.find? fun y => tag y = tag x with
      | none =>
        have no := List.find?_eq_none.mp found x (complete x)
        simp at no
      | some y =>
        have same := List.find?_some found
        rw [inj (of_decide_eq_true same)])
    (by
      intro t x found
      have same := List.find?_some found
      exact of_decide_eq_true same)

/-- A tag keeps the width. -/
lemma Sized.tagged [DecidableEq γ] {c : Codec α γ} {tag : β → γ} {inj values complete} {n : ℕ}
    (hc : c.Sized n) : (c.tagged tag inj values complete).Sized n :=
  ⟨fun x => hc.length (tag x)⟩

end Codec

/-! ## Countable types -/

namespace Codec

variable {α β : Type} [DecidableEq α]

/-- Reads a number in unary: `one` for each unit, `stop` at the end. -/
def readUnary (one stop : α) : List α → Option (ℕ × List α)
  | [] => none
  | x :: bs =>
    if x = stop then some (0, bs)
    else if x = one then (readUnary one stop bs).map fun y => (y.1 + 1, y.2)
    else none

/-- A number in unary. -/
def unary {one stop : α} (ne : one ≠ stop) : Codec α ℕ where
  encode n := List.replicate n one ++ [stop]
  decode := readUnary one stop
  decode_encode := by
    intro n rest
    induction n with
    | zero => simp [readUnary]
    | succ n ih =>
      rw [List.replicate_succ, List.cons_append, List.cons_append, readUnary, if_neg ne, if_pos rfl, ih]
      rfl
  encode_decode := by
    intro bs n rest found
    induction bs generalizing n with
    | nil => cases found
    | cons x bs ih =>
      rw [readUnary] at found
      split at found
      · next e =>
        cases found
        rw [e]
        rfl
      · split at found
        · next e =>
          obtain ⟨⟨m, rest'⟩, found', e'⟩ := Option.map_eq_some_iff.mp found
          cases e'
          rw [List.replicate_succ, List.cons_append, List.cons_append, ih found', e]
        · cases found

/-- Every countable type has a format, over any two symbols. -/
def ofEncodable [Encodable β] {one stop : α} (ne : one ≠ stop) : Codec α β :=
  (unary ne).refine (Encodable.decode₂ β) Encodable.encode (fun x => Encodable.encodek₂ x)
    (fun e => Encodable.mem_decode₂.mp e)

end Codec

/-! ## Little-endian integers -/

namespace BitVec

/-- The number whose little-endian bytes are given. -/
def ofLeBytes (w : ℕ) (bs : List (BitVec 8)) : BitVec w :=
  BitVec.ofNat w (Nat.ofDigits 256 (bs.map BitVec.toNat))

/-- The bytes of a word are the digits of its value in base 256. -/
lemma ofDigits_toLeBytes {w : ℕ} (n : ℕ) (x : BitVec w) :
    Nat.ofDigits 256 ((x.toLeBytes n).map BitVec.toNat) = x.toNat % 256 ^ n := by
  induction n with
  | zero => simp [toLeBytes, Nat.mod_one]
  | succ n ih =>
    have split : x.toLeBytes (n + 1) = x.toLeBytes n ++ [x.extractLsb' (8 * n) 8] := by
      simp [toLeBytes, List.range_succ]
    have top : (x.extractLsb' (8 * n) 8).toNat = x.toNat / 256 ^ n % 256 := by
      rw [extractLsb'_toNat, Nat.shiftRight_eq_div_pow, Nat.pow_mul]
    rw [split, List.map_append, Nat.ofDigits_append, ih, List.length_map, length_toLeBytes, List.map_singleton,
      Nat.ofDigits_singleton, top, Nat.pow_succ, Nat.mod_mul]

/-- Bytes read as digits stay below the power of 256 of their number. -/
lemma ofDigits_bytes_lt (bs : List (BitVec 8)) :
    Nat.ofDigits 256 (bs.map BitVec.toNat) < 256 ^ bs.length := by
  have lt := Nat.ofDigits_lt_base_pow_length (b := 256) (l := bs.map BitVec.toNat) (by decide) (by
    intro x mem
    obtain ⟨b, -, rfl⟩ := List.mem_map.mp mem
    exact b.isLt)
  rwa [List.length_map] at lt

/-- A word is read back from its bytes. -/
lemma ofLeBytes_toLeBytes {n : ℕ} (x : BitVec (8 * n)) : ofLeBytes (8 * n) (x.toLeBytes n) = x := by
  apply eq_of_toNat_eq
  have width : (256 : ℕ) ^ n = 2 ^ (8 * n) := by rw [Nat.pow_mul]
  rw [ofLeBytes, ofDigits_toLeBytes, toNat_ofNat, width, Nat.mod_mod, Nat.mod_eq_of_lt x.isLt]

/-- Bytes are read back from the word that they make. -/
lemma toLeBytes_ofLeBytes (bs : List (BitVec 8)) :
    (ofLeBytes (8 * bs.length) bs).toLeBytes bs.length = bs := by
  have width : (256 : ℕ) ^ bs.length = 2 ^ (8 * bs.length) := by rw [Nat.pow_mul]
  have lt := ofDigits_bytes_lt bs
  apply List.map_injective_iff.mpr fun _ _ => eq_of_toNat_eq
  refine Nat.ofDigits_inj_of_len_eq (b := 256) (by decide) (by simp) ?_ ?_ ?_
  · intro x mem
    obtain ⟨b, -, rfl⟩ := List.mem_map.mp mem
    exact b.isLt
  · intro x mem
    obtain ⟨b, -, rfl⟩ := List.mem_map.mp mem
    exact b.isLt
  · rw [ofDigits_toLeBytes, ofLeBytes, toNat_ofNat, ← width, Nat.mod_eq_of_lt lt, Nat.mod_eq_of_lt lt]

end BitVec

namespace Codec

/-- An integer of `n` bytes. -/
def int (n : ℕ) : Codec (BitVec 8) (BitVec (8 * n)) :=
  (symbols (BitVec 8) n).iso (fun v => BitVec.ofLeBytes (8 * n) v.toList)
    (fun x => ⟨(x.toLeBytes n).toArray, by simp⟩)
    (fun x => BitVec.ofLeBytes_toLeBytes x)
    (by
      intro v
      have len : v.toList.length = n := by simp
      apply Vector.toList_inj.mp
      have back := BitVec.toLeBytes_ofLeBytes v.toList
      rw [len] at back
      exact back)

/-- A word of `n` bytes takes `n` places. -/
lemma sized_int {n : ℕ} : (int n).Sized n :=
  sized_symbols.iso

end Codec
