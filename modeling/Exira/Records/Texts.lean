import Exira.Records.Provenance
import Mathlib.Data.List.DropRight

/-!
# Stored texts

Names and other texts are stored as their UTF-8 bytes, padded with zeros to the width of the field. A text that
is too long is refused; one that fits is read back from the field, if it does not end in NUL. So the texts of an
account say what strings were submitted.
-/

/-- The loop of `ByteArray.toList` goes through the data. -/
lemma ByteArray.toList_eq_data (b : ByteArray) : b.toList = b.data.toList := by
  suffices rest : ∀ i r, ByteArray.toList.loop b i r = r.reverse ++ b.data.toList.drop i from rest 0 []
  intro i r
  fun_induction ByteArray.toList.loop b i r with
  | case1 i r lt ih =>
    have head : b.data.toList.drop i = b.get! i :: b.data.toList.drop (i + 1) := by
      rw [List.drop_eq_getElem_cons (Array.length_toList.symm ▸ lt), Array.getElem_toList, ByteArray.get!,
        getElem!_pos b.data i lt]
    rw [ih, head, List.reverse_cons, List.append_assoc, List.singleton_append]
  | case2 i r ge =>
    rw [List.drop_eq_nil_of_le (Array.length_toList.symm ▸ Nat.le_of_not_lt ge), List.append_nil]

namespace Exira

/-! ## Bytes of a string -/

/-- `str::as_bytes` -/
def utf8 (s : String) : List U8 :=
  s.toUTF8.toList.map UInt8.toBitVec

/-- The bytes of a text are those of its array. -/
lemma utf8_eq (s : String) : utf8 s = s.toByteArray.data.toList.map UInt8.toBitVec := by
  rw [utf8, ByteArray.toList_eq_data, String.toUTF8_eq_toByteArray]

/-- `str::from_utf8` -/
def fromUtf8 (bs : List U8) : Option String :=
  String.fromUTF8? ⟨(bs.map UInt8.ofBitVec).toArray⟩

/-- A text is read from its bytes, and from no others. -/
lemma fromUtf8_eq_some {bs : List U8} {s : String} : fromUtf8 bs = some s ↔ bs = utf8 s := by
  have bytes : ∀ t : String, (⟨(bs.map UInt8.ofBitVec).toArray⟩ : ByteArray) = t.toByteArray ↔ bs = utf8 t := by
    intro t
    rw [utf8_eq, ByteArray.ext_iff, ← Array.toList_inj]
    constructor
    · intro e
      rw [← e]
      simp [Function.comp_def]
    · rintro rfl
      simp [Function.comp_def]
  rw [← bytes, fromUtf8, String.fromUTF8?]
  constructor
  · intro read
    split at read
    · cases read
      rfl
    · cases read
  · intro e
    have valid : ByteArray.IsValidUTF8 ⟨(bs.map UInt8.ofBitVec).toArray⟩ := e ▸ s.isValidUTF8
    rw [dif_pos valid]
    exact congrArg some (String.toByteArray_inj.mp e)

/-! ## Padding -/

/-- A field and a string that it stores. -/
def Padded (field : Σ n, Vector U8 n) (s : String) : Prop :=
  (utf8 s).length ≤ field.1 ∧ field.2.toList = utf8 s ++ List.replicate (field.1 - (utf8 s).length) 0

/-- Bytes without the zeros at their end. -/
def stripped (bs : List U8) : List U8 :=
  bs.rdropWhile fun b => b = 0

/-- What is padded fits, and is followed by zeros. -/
lemma padInto_ok {n : ℕ} {s : String} {v : Vector U8 n} (h : padInto n s = .ok v) : Padded ⟨n, v⟩ s := by
  simp only [padInto, Except.bind_eq_ok, require_eq_ok, exists_const] at h
  obtain ⟨fits, h⟩ := h
  cases h
  have fits : (utf8 s).length ≤ n := fits
  refine ⟨fits, ?_⟩
  apply List.ext_getElem
  · simp only [Vector.length_toList, List.length_append, List.length_replicate]
    omega
  · intro i lt _
    rw [Vector.getElem_toList, Vector.getElem_ofFn, List.getElem_append]
    split
    · next inside =>
      rw [List.getD_eq_getElem?_getD]
      exact congrArg (·.getD 0) (List.getElem?_eq_getElem inside)
    · next outside =>
      rw [List.getElem_replicate]
      rw [List.getD_eq_getElem?_getD]
      exact congrArg (·.getD 0) (List.getElem?_eq_none (Nat.le_of_not_lt outside))

/-- Zeros behind the bytes are stripped. -/
lemma stripped_padded (bs : List U8) (n : ℕ) : stripped (bs ++ List.replicate n 0) = stripped bs := by
  induction n with
  | zero => rw [List.replicate_zero, List.append_nil]
  | succ n ih =>
    rw [List.replicate_succ', ← List.append_assoc, stripped, List.rdropWhile_concat_pos _ _ _ (by simp)]
    exact ih

/-- A string that does not end in NUL is read back from its field. -/
lemma Padded.read {field : Σ n, Vector U8 n} {s : String} (h : Padded field s)
    (clean : stripped (utf8 s) = utf8 s) : fromUtf8 (stripped field.2.toList) = some s := by
  rw [fromUtf8_eq_some, h.2, stripped_padded, clean]

/-! ## Texts of accounts -/

variable {K : Type}

/-- The text fields of a record. -/
def SeedKind.texts : (κ : SeedKind) → κ.Record K → List (Σ n, Vector U8 n)
  | .mrvProject, m => [⟨_, MrvProject.msmeName m⟩, ⟨_, MrvProject.sector m⟩, ⟨_, MrvProject.location m⟩,
      ⟨_, MrvProject.upgradeType m⟩]
  | .baseline, b => [⟨_, Baseline.fuelType b⟩]
  | .auditor, a => [⟨_, Auditor.name a⟩, ⟨_, Auditor.certification a⟩]
  | _, _ => []

/-- The strings that an instruction is given. -/
def Instruction.strings : Instruction K → List String
  | .registerMrvProject _ _ name sector location upgrade => [name, sector, location, upgrade]
  | .addAuditor _ name certification => [name, certification]
  | .submitBaseline _ _ fuel _ _ _ => [fuel]
  | _ => []

/-- The strings that a call is given. -/
def Action.strings : Action K → List String
  | .call _ i => i.strings
  | .outside _ => []

/-- Instructions never write the texts of an account again. -/
lemma SeedKind.texts_terms (κ : SeedKind) (r : κ.Record K) : κ.texts (κ.terms r) = κ.texts r := by
  cases κ <;> rfl

variable [Addresses K]

/-- An instruction stores the strings that it is given. -/
lemma Action.record_texts {x : Action K} {κ : SeedKind} {r : κ.Record K} (opens : x.record = some ⟨κ, r⟩) :
    List.Forall₂ Padded (κ.texts r) x.strings := by
  cases x with
  | outside o => cases opens
  | call now i =>
    rw [Action.record] at opens
    cases i <;> simp only [Instruction.record, Option.bind_eq_bind, Option.bind_eq_some_iff, Option.some.injEq,
      reduceCtorEq, Sigma.mk.injEq, Except.toOption_eq_some] at opens
    case registerMrvProject =>
      obtain ⟨_, name, _, sector, _, location, _, upgrade, rfl, opens⟩ := opens
      cases opens
      exact .cons (padInto_ok name) (.cons (padInto_ok sector) (.cons (padInto_ok location)
        (.cons (padInto_ok upgrade) .nil)))
    case addAuditor =>
      obtain ⟨_, name, _, certification, rfl, opens⟩ := opens
      cases opens
      exact .cons (padInto_ok name) (.cons (padInto_ok certification) .nil)
    case submitBaseline =>
      obtain ⟨_, fuel, rfl, opens⟩ := opens
      cases opens
      exact .cons (padInto_ok fuel) .nil
    all_goals
      obtain ⟨rfl, -⟩ := opens
      exact .nil

/-- A field has a string padded, and gives it back if it does not end in NUL. -/
def Stores (field : Σ n, Vector U8 n) (s : String) : Prop :=
  Padded field s ∧ (stripped (utf8 s) = utf8 s → fromUtf8 (stripped field.2.toList) = some s)

/-- In every reachable state the texts of an account are the strings of the instruction that opened it, padded. -/
theorem stored_texts [DecidableEq K] (g : Genesis K) (as : List (Action K)) (κ : SeedKind) (k : K) (r : κ.Record K)
    (own : ((g.run as).table κ).lookup k = some r) :
    ∃ x ∈ g.history as, x.2.record = some ⟨κ, κ.terms r⟩ ∧
      List.Forall₂ Stores (κ.texts r) x.2.strings := by
  obtain ⟨-, x, mem, opens⟩ := g.opened as κ k r own
  have stored := Action.record_texts opens
  rw [κ.texts_terms] at stored
  exact ⟨x, mem, opens, stored.imp fun _ _ padded => ⟨padded, padded.read⟩⟩

/-- The deployment with an auditor, wallet 30. -/
def Client.demoAuditor : List (Action Addr) :=
  demoSetup ++ [.call 0 (demo.addAuditor (.wallet 30) "BEE")]

/-- The name of an auditor is stored. -/
theorem stored_texts_demo :
    ∃ r : Auditor Addr, (Genesis.blank.run Client.demoAuditor).auditors.lookup
        (findProgramAddress (.auditor (.wallet 30))) = some r ∧
      ∃ x ∈ Genesis.blank.history Client.demoAuditor,
        List.Forall₂ Stores (SeedKind.auditor.texts r) x.2.strings := by
  have there : ((Genesis.blank.run Client.demoAuditor).auditors.lookup
      (findProgramAddress (.auditor (.wallet 30)))).isSome = true := by decide +kernel
  obtain ⟨r, own⟩ := Option.isSome_iff_exists.mp there
  obtain ⟨x, mem, -, stored⟩ := stored_texts .blank Client.demoAuditor .auditor _ r own
  exact ⟨r, own, x, mem, stored⟩

end Exira
