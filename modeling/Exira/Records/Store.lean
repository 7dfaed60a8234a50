import Exira.Access.Parallel
import Exira.Records.Data
import Exira.Records.Provenance
import Mathlib.Tactic.DeriveEncodable

/-!
# The chain as bytes

The runtime knows no account types: at an address of the program it has bytes (`Chain`). A call deserializes the
accounts that are passed to it (`Chain.view`), runs the handler on them, and serializes those that its struct
marks `mut` or `init` back over their data (`Chain.exit`). The tables of `State` are an abstraction of these
bytes. On every run both give the same answers, and the data at an address is always that of the one record that
the tables have there, so that a lookup in a table is Anchor's check of the discriminator and its deserialization
(`bytes_refine`).
-/

namespace Exira

variable {K : Type} [DecidableEq K]

/-! ## The account at an address -/

/-- All kinds. -/
def SeedKind.all : List SeedKind :=
  [.platform, .project, .pool, .poolLink, .position, .mrvProject, .baseline, .verification, .auditor]

/-- The account that the tables have at an address. -/
def State.held (s : State K) (k : K) : Option (Account K) :=
  SeedKind.all.findSome? fun κ => ((s.table κ).lookup k).map (Sigma.mk κ)

/-- The bytes of an account. -/
def Account.data (key : Codec U8 K) (x : Account K) : List U8 :=
  x.1.trySerialize key x.2

/-- No address has accounts of two kinds. -/
def State.Unique (s : State K) : Prop :=
  ∀ κ κ' k (r : κ.Record K) (r' : κ'.Record K),
    (s.table κ).lookup k = some r → (s.table κ').lookup k = some r' → κ = κ'

/-! ## The chain -/

/-- What the runtime has: the data of the program's accounts, and what the token program keeps. The program owns an
account from the moment that it wrote one of its types there. -/
structure Chain (key : Codec U8 K) where
  data : Table K (List U8)
  bank : Token.Bank K
  typed : ∀ k d, data.lookup k = some d → ∃ (κ : SeedKind) (r : κ.Record K), κ.tryDeserialize key d = .ok r

namespace Chain
variable {key : Codec U8 K}

/-- `Account<'info, T>`: the account at an address, read as one of type `T` -/
def read (c : Chain key) (κ : SeedKind) (k : K) : Option (κ.Record K) :=
  (c.data.lookup k).bind fun data => (κ.tryDeserialize key data).toOption

/-- The accounts of one type among those passed. -/
def accounts (c : Chain key) (ks : List K) (κ : SeedKind) : Table K (κ.Record K) :=
  (c.data.only ks).filterMap fun data => (κ.tryDeserialize key data).toOption

/-- What a handler is given: the accounts passed, deserialized, and the token program to call. An address without
data is in none of the tables, and one with data in some table, since the program's data is typed. -/
def view (c : Chain key) (ks : List K) : State K where
  platforms := c.accounts ks .platform
  projects := c.accounts ks .project
  pools := c.accounts ks .pool
  links := c.accounts ks .poolLink
  positions := c.accounts ks .position
  mrvProjects := c.accounts ks .mrvProject
  baselines := c.accounts ks .baseline
  verifications := c.accounts ks .verification
  auditors := c.accounts ks .auditor
  bank := c.bank

/-- The data at `k` is now the account `x`, and more bytes after it. -/
def put (c : Chain key) (k : K) (x : Account K) (rest : List U8) : Chain key where
  data := c.data.insert k (x.data key ++ rest)
  bank := c.bank
  typed := Finmap.forall_insert c.typed ⟨x.1, x.2, (x.1.tryDeserialize_eq_ok key).mpr ⟨rest, rfl⟩⟩

/-- `AccountsExit::exit`: the account is written over the front of its data. The data of a new one is allocated by
`init`, all zeros and as long as the type needs. -/
def store (c : Chain key) (k : K) (x : Account K) : Result (Chain key) := do
  let bytes := x.data key
  let old := (c.data.lookup k).getD (.replicate bytes.length 0)
  constraint (bytes.length ≤ old.length) .accountDidNotSerialize
  return c.put k x (old.drop bytes.length)

/-- The accounts `ks` of a handler's state, written back one after the other. -/
def exit (s : State K) : Chain key → List K → Result (Chain key)
  | c, [] => .ok c
  | c, k :: ks =>
    match s.held k with
    | none => exit s c ks
    | some x => do
      let c ← c.store k x
      exit s c ks

end Chain

/-- The accounts that an action serializes back. -/
def Action.exits : Action K → List K
  | .call _ i => i.writable
  | .outside _ => []

variable [Addresses K]

/-- One action on the bytes: the program does what it does to the accounts passed. -/
def Chain.step {key : Codec U8 K} (c : Chain key) (x : Action K) : Result (Chain key) := do
  let s ← Exira.step (c.view x.accounts) x
  let c ← Chain.exit s c x.exits
  return { c with bank := s.bank }

/-- The bytes at genesis: none. -/
def Genesis.chain (key : Codec U8 K) (g : Genesis K) : Chain key where
  data := ∅
  bank := g.bank
  typed := by
    intro k d found
    rw [Finmap.lookup_empty] at found
    cases found

/-- The bytes after a list of actions. -/
def Genesis.runBytes (key : Codec U8 K) (g : Genesis K) (as : List (Action K)) : Chain key :=
  Runs.run Chain.step (g.chain key) as

/-! ## Tables and their accounts -/

section
variable {key : Codec U8 K} {s t s' : State K} {κ : SeedKind} {r r' : κ.Record K} {k : K}

omit [DecidableEq K] [Addresses K] in
/-- The length of an account's data is fixed by its terms: only fields of fixed width ever change. -/
lemma SeedKind.length_terms (r : κ.Record K) :
    (κ.trySerialize key (κ.terms r)).length = (κ.trySerialize key r).length := by
  rw [trySerialize, trySerialize, List.length_append, List.length_append]
  congr 1
  cases κ <;> simp only [codec, Platform.codec, Project.codec, Pool.codec, InvestorPosition.codec, MrvProject.codec,
    Verification.codec, Codec.iso, Codec.refine, Codec.pair, List.length_append, Borsh.sized_u8.length,
    Borsh.sized_u16.length, Borsh.sized_u64.length, Borsh.sized_u128.length, Borsh.sized_i64.length,
    Borsh.sized_projectStatus.length, Borsh.sized_mrvProjectStatus.length, Borsh.sized_bool.length] <;> rfl

omit [Addresses K] in
/-- An address holds nothing when no table has an entry there. -/
lemma State.held_eq_none : s.held k = none ↔ ∀ κ, (s.table κ).lookup k = none := by
  rw [State.held, List.findSome?_eq_none_iff]
  constructor
  · intro none κ
    exact Option.map_eq_none_iff.mp (none κ (by cases κ <;> decide))
  · intro none κ _
    rw [none κ]
    rfl

omit [Addresses K] in
/-- What an address holds is an entry of the table of its kind. -/
lemma State.held_of (found : s.held k = some ⟨κ, r⟩) : (s.table κ).lookup k = some r := by
  obtain ⟨κ', -, at'⟩ := List.exists_of_findSome?_eq_some found
  obtain ⟨r', own, e⟩ := Option.map_eq_some_iff.mp at'
  cases e
  exact own

omit [Addresses K] in
/-- Where no address has two accounts, the account at an address is that of any of the tables. -/
lemma State.Unique.held (unique : s.Unique) (own : (s.table κ).lookup k = some r) : s.held k = some ⟨κ, r⟩ := by
  cases found : s.held k with
  | none => cases own.symm.trans (State.held_eq_none.mp found κ)
  | some x =>
    obtain ⟨κ', r'⟩ := x
    have own' := State.held_of found
    cases unique κ κ' k r r' own own'
    cases own.symm.trans own'
    rfl

omit [Addresses K] in
/-- What an address holds depends on the tables there only. -/
lemma State.held_congr (same : ∀ κ, (s.table κ).lookup k = (t.table κ).lookup k) : s.held k = t.held k := by
  unfold State.held
  exact congrArg (List.findSome? · SeedKind.all) (funext fun κ => congrArg (Option.map _) (same κ))

omit [Addresses K] in
/-- Two states with one cell at an address have the same entries there. -/
lemma State.lookup_of_cell (same : s.cell k = t.cell k) (κ : SeedKind) :
    (s.table κ).lookup k = (t.table κ).lookup k := by
  cases κ with
  | platform => exact congrArg Cell.platform same
  | project => exact congrArg Cell.project same
  | pool => exact congrArg Cell.pool same
  | poolLink => exact congrArg Cell.link same
  | position => exact congrArg Cell.position same
  | mrvProject => exact congrArg Cell.mrvProject same
  | baseline => exact congrArg Cell.baseline same
  | verification => exact congrArg Cell.verification same
  | auditor => exact congrArg Cell.auditor same

omit [Addresses K] in
/-- A cell is what the tables and the bank have at the address. -/
lemma State.cell_congr (tables : ∀ κ, (s.table κ).lookup k = (t.table κ).lookup k) (bank : s.bank = t.bank) :
    s.cell k = t.cell k := by
  have platform := tables .platform
  have project := tables .project
  have pool := tables .pool
  have link := tables .poolLink
  have position := tables .position
  have mrvProject := tables .mrvProject
  have baseline := tables .baseline
  have verification := tables .verification
  have auditor := tables .auditor
  simp only [State.table] at platform project pool link position mrvProject baseline verification auditor
  rw [State.cell, State.cell, platform, project, pool, link, position, mrvProject, baseline, verification, auditor,
    bank]

/-- An address has accounts of one kind only. -/
lemma Genesis.unique (g : Genesis K) (as : List (Action K)) : (g.run as).Unique := by
  intro κ κ' k r r' own own'
  have seeds := findProgramAddress_inj ((g.opened as κ k r own).1.symm.trans (g.opened as κ' k r' own').1)
  rw [← κ.kind_seeds r, seeds, κ'.kind_seeds]

end

/-! ## Reading and writing back -/

namespace Chain
variable {key : Codec U8 K} {c c' : Chain key} {s s' v v' : State K} {k : K} {ks : List K} {x : Action K}

/-- The data at every address is that of the account that the tables have there. -/
structure Refines (c : Chain key) (s : State K) : Prop where
  data : ∀ k, c.data.lookup k = (s.held k).map (Account.data key)
  bank : c.bank = s.bank

omit [Addresses K] in
/-- A typed read of the bytes is a lookup in the table. -/
lemma Refines.read (h : c.Refines s) (unique : s.Unique) (κ : SeedKind) (k : K) :
    c.read κ k = (s.table κ).lookup k := by
  rw [Chain.read, h.data]
  cases own : (s.table κ).lookup k with
  | some r =>
    rw [unique.held own, Option.map_some, Option.bind_some, Account.data,
      (κ.tryDeserialize_eq_ok key).mpr ⟨[], (List.append_nil _).symm⟩]
    rfl
  | none =>
    cases found : s.held k with
    | none => rfl
    | some x =>
      obtain ⟨κ', r⟩ := x
      have ne : κ ≠ κ' := by
        rintro rfl
        cases own.symm.trans (State.held_of found)
      have refused := SeedKind.tryDeserialize_mismatch key ne r []
      rw [List.append_nil] at refused
      rw [Option.map_some, Option.bind_some, Account.data, refused]
      rfl

omit [Addresses K] in
/-- The table of a view is what the chain holds of the kind. -/
lemma view_table (c : Chain key) (ks : List K) (κ : SeedKind) : (c.view ks).table κ = c.accounts ks κ := by
  cases κ <;> rfl

omit [Addresses K] in
/-- The accounts passed are deserialized to what the tables have of them. -/
lemma Refines.view (h : c.Refines s) (unique : s.Unique) (mem : k ∈ ks) : (c.view ks).cell k = s.cell k := by
  refine State.cell_congr (fun κ => ?_) h.bank
  rw [view_table, accounts, Finmap.lookup_filterMap, Finmap.lookup_only, if_pos mem]
  exact h.read unique κ k

omit [Addresses K] in
/-- An account that has the space it needs is stored, and fills it. -/
lemma store_ok {x : Account K} (fits : ∀ d, c.data.lookup k = some d → d.length = (x.data key).length) :
    c.store k x = .ok (c.put k x []) := by
  have length : ((c.data.lookup k).getD (.replicate (x.data key).length 0)).length = (x.data key).length := by
    cases found : c.data.lookup k with
    | none => exact List.length_replicate
    | some d => exact fits d found
  simp only [store, Except.bind_eq_ok, constraint_eq_ok, exists_const]
  refine ⟨length.ge, ?_⟩
  rw [List.drop_of_length_le length.le]
  rfl

omit [Addresses K] in
/-- Writing back goes through when no account has outgrown its data, and leaves the other accounts alone. -/
lemma exit_ok (fits : ∀ k ∈ ks, ∀ d, c.data.lookup k = some d →
      ∃ x, s.held k = some x ∧ d.length = (Account.data key x).length) :
    ∃ c', exit s c ks = .ok c' ∧
      ∀ k, c'.data.lookup k = if k ∈ ks then (s.held k).map (Account.data key) else c.data.lookup k := by
  induction ks generalizing c with
  | nil => exact ⟨c, rfl, fun k => rfl⟩
  | cons y ks ih =>
    cases held : s.held y with
    | none =>
      obtain ⟨c', ran, data⟩ := ih fun k mem => fits k (.tail _ mem)
      refine ⟨c', ?_, fun k => ?_⟩
      · rw [exit, held]
        exact ran
      · -- there was no data at `y`
        have gone : c.data.lookup y = none := by
          by_contra there
          obtain ⟨d, found⟩ := Option.ne_none_iff_exists'.mp there
          obtain ⟨x, some, -⟩ := fits y (.head _) d found
          cases held.symm.trans some
        rw [data]
        by_cases e : k = y
        · subst e
          have mem : k ∈ k :: ks := .head _
          rw [if_pos mem, held, gone]
          exact ite_self none
        · simp only [List.mem_cons, e, false_or]
    | some x =>
      -- the account keeps the length that its data has
      have stored : c.store y x = .ok (c.put y x []) := by
        refine store_ok fun d found => ?_
        obtain ⟨x', some, length⟩ := fits y (.head _) d found
        cases held.symm.trans some
        exact length
      have put (k : K) : (c.put y x []).data.lookup k = if k = y then some (x.data key) else c.data.lookup k := by
        rw [Chain.put, Finmap.lookup_insert_ite, List.append_nil]
      obtain ⟨c', ran, data⟩ := ih (c := c.put y x []) (by
        intro k mem d found
        rw [put] at found
        split at found
        · next e =>
          subst e
          cases found
          exact ⟨x, held, rfl⟩
        · exact fits k (.tail _ mem) d found)
      refine ⟨c', ?_, fun k => ?_⟩
      · rw [exit, held]
        simp only [stored]
        exact ran
      · rw [data, put]
        by_cases e : k = y
        · subst e
          rw [if_pos (show k ∈ k :: ks from .head _), if_pos rfl, held]
          exact ite_self _
        · simp only [List.mem_cons, e, false_or, if_false]

omit [DecidableEq K] in
/-- What is closed is among the accounts of the transaction. -/
lemma exits_sub (x : Action K) (mem : k ∈ x.exits) : k ∈ x.accounts := by
  cases x with
  | call now i => exact Action.writable_sub _ k mem
  | outside o => cases mem

/-- An action changes no account that it does not serialize back. -/
lemma held_of_not_exits (st : Exira.step s x = .ok s') (out : k ∉ x.exits) : s'.held k = s.held k := by
  cases x with
  | call now i => exact State.held_congr (State.lookup_of_cell (step_local.writes st k out))
  | outside o =>
    obtain ⟨b, -, rfl⟩ := step_outside st
    rfl

/-- One step: if the accounts stay, with their terms, then the bytes do what the tables do. -/
lemma Refines.step (h : c.Refines s) (unique : s.Unique)
    (later : ∀ s', Exira.step s x = .ok s' → s'.Unique ∧ ∀ κ k (r : κ.Record K), (s.table κ).lookup k = some r →
      ∃ r', (s'.table κ).lookup k = some r' ∧ κ.terms r' = κ.terms r) :
    (c.step x).Match Refines (Exira.step s x) := by
  have reads := step_local.reads x fun k (mem : k ∈ x.accounts) => h.view unique mem
  unfold Chain.step
  generalize view : Exira.step (c.view x.accounts) x = v at reads
  generalize st : Exira.step s x = t at reads
  cases reads with
  | error e => exact .error e
  | @ok v' s' agree =>
    obtain ⟨unique', kept⟩ := later s' st
    have held (k : K) (mem : k ∈ x.exits) : v'.held k = s'.held k :=
      State.held_congr (State.lookup_of_cell (agree k (exits_sub x mem)))
    -- no account has outgrown its data, since its terms are as before
    have fits : ∀ k ∈ x.exits, ∀ d, c.data.lookup k = some d →
        ∃ y, v'.held k = some y ∧ d.length = (Account.data key y).length := by
      intro k mem d found
      rw [h.data] at found
      obtain ⟨⟨κ, r⟩, own, rfl⟩ := Option.map_eq_some_iff.mp found
      obtain ⟨r', own', terms⟩ := kept κ k r (State.held_of own)
      refine ⟨⟨κ, r'⟩, (held k mem).trans (unique'.held own'), ?_⟩
      rw [Account.data, Account.data, ← SeedKind.length_terms, ← terms, SeedKind.length_terms]
    obtain ⟨c', ran, data⟩ := exit_ok fits
    have bank : v'.bank = s'.bank := by
      -- the accounts passed are the same, and no other token account is touched
      have tokens (k : K) : v'.bank.mints.lookup k = s'.bank.mints.lookup k ∧
          v'.bank.accounts.lookup k = s'.bank.accounts.lookup k := by
        by_cases mem : k ∈ x.accounts
        · exact ⟨congrArg Cell.mint (agree k mem), congrArg Cell.account (agree k mem)⟩
        · have out : k ∉ x.writable := mt (Action.writable_sub x k) mem
          have left := step_local.writes view k out
          have right := step_local.writes st k out
          have before : (c.view x.accounts).bank = s.bank := h.bank
          have mint := (congrArg Cell.mint left).trans ((congrArg (·.mints.lookup k) before).trans
            (congrArg Cell.mint right).symm)
          have account := (congrArg Cell.account left).trans ((congrArg (·.accounts.lookup k) before).trans
            (congrArg Cell.account right).symm)
          exact ⟨mint, account⟩
      exact (Token.Bank.AgreeOn.mk (.of_eq fun k _ => (tokens k).1.symm)
        (.of_eq fun k _ => (tokens k).2.symm)).ext
    show ((exit v' c x.exits).bind fun c => .ok { c with bank := v'.bank }).Match Refines (.ok s')
    rw [ran]
    refine .ok ⟨fun k => ?_, bank⟩
    show c'.data.lookup k = _
    rw [data]
    split
    · next mem => rw [held k mem]
    · next out => rw [h.data, held_of_not_exits st out]

end Chain

/-! ## Runs -/

/-- The bytes refine the tables after every run, and give the same answers on the way. -/
lemma Genesis.refines (key : Codec U8 K) (g : Genesis K) (as : List (Action K)) :
    Runs.answers Chain.step (g.chain key) as = g.answers as ∧ (g.runBytes key as).Refines (g.run as) := by
  have start : (g.chain key).Refines g.state := by
    refine ⟨fun k => ?_, rfl⟩
    have none : g.state.held k = none := State.held_eq_none.mpr fun κ => by cases κ <;> exact Finmap.lookup_empty k
    rw [none]
    exact Finmap.lookup_empty k
  have each (c : Chain key) (s : State K) (x : Action K) (now : c.Refines s ∧ ∃ as, s = g.run as) :
      (c.step x).Match (fun c' s' => c'.Refines s' ∧ ∃ as, s' = g.run as) (step s x) := by
    obtain ⟨refines, as, rfl⟩ := now
    have later (s' : State K) (st : step (g.run as) x = .ok s') : s'.Unique ∧ ∀ κ k (r : κ.Record K),
        ((g.run as).table κ).lookup k = some r → ∃ r', (s'.table κ).lookup k = some r' ∧
          κ.terms r' = κ.terms r := by
      rw [Genesis.run_snoc st]
      exact ⟨g.unique _, fun κ k r own => g.terms_later as [x] own⟩
    have next := refines.step (g.unique as) later
    generalize st : step (g.run as) x = t at next
    generalize c.step x = y at next
    cases next with
    | error e => exact .error e
    | ok after => exact .ok ⟨after, _, Genesis.run_snoc st⟩
  obtain ⟨answers, refines, -⟩ := Runs.simulate each as ⟨start, [], rfl⟩
  exact ⟨answers, refines⟩

instance encodableBitVec {w : ℕ} : Encodable (BitVec w) :=
  .ofLeftInverse BitVec.toFin BitVec.ofFin fun _ => rfl

deriving instance Encodable for Addr

/-- A format for symbolic addresses. They are unbounded, and so are its words. -/
def Addr.codec : Codec U8 Addr :=
  .ofEncodable (show (1 : U8) ≠ 0 by decide)

/-- The active project of the demo deployment reads as a project, and not as a pool. -/
example : ((Genesis.blank.runBytes Addr.codec Client.demoActive).read .project (Client.project 1)).isSome = true ∧
      (Genesis.blank.runBytes Addr.codec Client.demoActive).read .pool (Client.project 1) = none := by
  have reads := (Genesis.refines Addr.codec .blank Client.demoActive).2.read (Genesis.blank.unique _)
  have there : ((Genesis.blank.run Client.demoActive).projects.lookup (Client.project 1)).isSome = true := by
    decide +kernel
  have gone : ((Genesis.blank.run Client.demoActive).pools.lookup (Client.project 1)).isNone = true := by
    decide +kernel
  rw [reads, reads]
  exact ⟨there, Option.isNone_iff_eq_none.mp gone⟩

end Exira
