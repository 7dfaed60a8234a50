import Exira.Calls.Accepted

/-!
# Blocked ids

The vault of a new project or pool is made by its creation, with `init`, at an address that everybody can
compute; and an associated account can be opened by anybody for anybody. Once it is open, the id is lost:
`ids_blocked` says that an unused id can still be taken in some later state exactly as long as nobody opened its
vault.
-/

namespace Exira

variable {K : Type} [DecidableEq K] [Addresses K] {g : Genesis K} {as : List (Action K)} {platform : Platform K}
  {t : Target K} {id target : U64} {mint : K}

omit [Addresses K] in
/-- No project is no listing. -/
lemma State.unlisted_project {s : State K} {k : K} (gone : k ∉ s.projects) : s.view.listing (.project k) = none :=
  Option.map_eq_none_iff.mpr (Finmap.lookup_eq_none.mpr gone)

omit [Addresses K] in
/-- No pool is no listing. -/
lemma State.unlisted_pool {s : State K} {k : K} (gone : k ∉ s.pools) : s.view.listing (.pool k) = none :=
  Option.map_eq_none_iff.mpr (Finmap.lookup_eq_none.mpr gone)

/-- A target is listed when its vault is not open yet. -/
lemma Genesis.lists_unopened (g : Genesis K) (as : List (Action K)) {x : Action K} {s' : State K} {l : Listing K}
    (known : (g.run as).platforms.lookup Client.platform = some platform)
    (st : step (g.run as) x = .ok s') (unlisted : (g.run as).view.listing t = none)
    (own : s'.view.listing t = some l) :
    (g.run as).bank.holder (platform.client.usdcOf t.key) = none := by
  obtain ⟨-, -, -, -, free, -⟩ := (step_acts (g.run_wf as) st).move.listing_new unlisted own
  have later := Genesis.run_snoc st
  subst later
  obtain ⟨platform', known', place⟩ := g.vault_usdc _ own
  obtain ⟨platform'', known'', same⟩ := g.terms_later as [x] (κ := .platform) known
  cases known'.symm.trans known''
  have usdc : platform'.usdcMint = platform.usdcMint := (congrArg Platform.usdcMint same :)
  rw [place, usdc] at free
  exact free

/-- A target whose vault somebody opened before is never listed. -/
lemma Genesis.unlisted_later (g : Genesis K) (as bs : List (Action K)) {x : K × K}
    (known : (g.run as).platforms.lookup Client.platform = some platform)
    (unlisted : (g.run as).view.listing t = none)
    (taken : (g.run as).bank.holder (platform.client.usdcOf t.key) = some x) :
    (g.run (as ++ bs)).view.listing t = none := by
  induction bs using List.reverseRecOn with
  | nil => rwa [List.append_nil]
  | append_singleton bs b ih =>
    rw [← List.append_assoc]
    cases st : step (g.run (as ++ bs)) b with
    | error e =>
      rw [g.run_append (as ++ bs), Runs.run, Runs.next_error st]
      exact ih
    | ok s' =>
      rw [← Genesis.run_snoc st]
      by_contra listed
      obtain ⟨l, own⟩ := Option.ne_none_iff_exists'.mp listed
      -- the vault that was open before is still open
      obtain ⟨platform', known', same⟩ := g.terms_later as bs (κ := .platform) known
      have usdc : platform'.usdcMint = platform.usdcMint := (congrArg Platform.usdcMint same :)
      have free := g.lists_unopened (as ++ bs) known' st ih own
      have held := g.holder_later as bs taken
      rw [Client.usdcOf, Platform.client, usdc] at free
      cases held.symm.trans free

/-- A target that is listed later was not blocked. -/
lemma Genesis.unopened_of_listed (g : Genesis K) (as bs : List (Action K)) {l : Listing K}
    (known : (g.run as).platforms.lookup Client.platform = some platform)
    (unlisted : (g.run as).view.listing t = none) (own : (g.run (as ++ bs)).view.listing t = some l) :
    (g.run as).bank.holder (platform.client.usdcOf t.key) = none := by
  cases taken : (g.run as).bank.holder (platform.client.usdcOf t.key) with
  | none => rfl
  | some x => cases (g.unlisted_later as bs known unlisted taken).symm.trans own

/-- A pool with an unused id can be created as long as its vault is not open. -/
lemma Genesis.pool_id_free (known : (g.run as).platforms.lookup Client.platform = some platform)
    (signs : canSign mint = true) (freeMint : (g.run as).Vacant mint) (apart : platform.admin ≠ mint)
    (clear : g.Clear (Client.pool id))
    (unused : Client.pool id ∉ (g.run as).pools) :
    (∃ bs, Client.pool id ∈ (g.run (as ++ bs)).pools) ↔
      (g.run as).bank.holder (platform.client.usdcOf (Client.pool id)) = none := by
  have unlisted := State.unlisted_pool unused
  constructor
  · rintro ⟨bs, mem⟩
    obtain ⟨pool, own⟩ := Finmap.mem_iff.mp mem
    exact g.unopened_of_listed as bs known unlisted (State.listing_pool own)
  · intro unopened
    have free := (g.vacant_iff as (.pool id)).mpr ⟨unused, clear⟩
    have freeVault := (g.vacant_associated as _ _).mpr unopened
    have pos : (0 : U64) < 1 := by decide
    obtain ⟨s', st⟩ := g.goes as (.serves known (.createPool signs freeMint free freeVault pos apart)) 0
    refine ⟨[.call 0 (platform.client.createPool id 1 mint)], ?_⟩
    rw [← Genesis.run_snoc st]
    obtain ⟨done, rfl⟩ := createPool_ok.mp (step_call st).2
    exact Finmap.mem_insert.mpr (.inl rfl)

/-- A project with an unused id can be created as long as its vault is not open. -/
lemma Genesis.project_id_free {m : K} {entry : MrvProject}
    (known : (g.run as).platforms.lookup Client.platform = some platform) (signs : canSign mint = true)
    (freeMint : (g.run as).Vacant mint) (apart : platform.admin ≠ mint)
    (found : (g.run as).mrvProjects.lookup m = some entry)
    (gate : entry.baselineSubmitted = true) (clear : g.Clear (Client.project id))
    (unused : Client.project id ∉ (g.run as).projects) :
    (∃ bs, Client.project id ∈ (g.run (as ++ bs)).projects) ↔
      (g.run as).bank.holder (platform.client.usdcOf (Client.project id)) = none := by
  have unlisted := State.unlisted_project unused
  constructor
  · rintro ⟨bs, mem⟩
    obtain ⟨project, own⟩ := Finmap.mem_iff.mp mem
    exact g.unopened_of_listed as bs known unlisted (State.listing_project own)
  · intro unopened
    have free := (g.vacant_iff as (.project id)).mpr ⟨unused, clear⟩
    have freeVault := (g.vacant_associated as _ _).mpr unopened
    have terms : MIN_TERM_MONTHS ≤ MIN_TERM_MONTHS ∧ MIN_TERM_MONTHS ≤ MAX_TERM_MONTHS := by decide
    have pos : (0 : U64) < 1 := by decide
    have accepted : Accepts _ _ :=
      .serves known (.createProject found gate signs freeMint free freeVault pos terms apart)
    obtain ⟨s', st⟩ := g.goes as accepted 0
    refine ⟨[.call 0 (platform.client.createProject id 1 MIN_TERM_MONTHS m mint)], ?_⟩
    rw [← Genesis.run_snoc st]
    obtain ⟨done, rfl⟩ := createProject_ok.mp (step_call st).2
    exact Finmap.mem_insert.mpr (.inl rfl)

/-- The vault of a target that is not listed can be opened by anybody. -/
lemma Genesis.blocks (g : Genesis K) (as bs : List (Action K))
    (known : (g.run as).platforms.lookup Client.platform = some platform)
    (unlisted : (g.run as).view.listing t = none) :
    (g.run (as ++ .outside (.createAssociatedToken t.key platform.usdcMint) :: bs)).view.listing t = none := by
  obtain ⟨mint, exist⟩ := g.usdc_mint as known
  have opened := g.opens_associated as (w := t.key) exist
  have next := g.run_append as [.outside (.createAssociatedToken t.key platform.usdcMint)]
  have same :
      (g.run (as ++ [.outside (.createAssociatedToken t.key platform.usdcMint)])).view.listing t = none := by
    rw [next, Runs.run, Runs.run]
    cases st : step (g.run as) (.outside (.createAssociatedToken t.key platform.usdcMint)) with
    | error e => rwa [Runs.next_error st]
    | ok s' =>
      obtain ⟨b, -, rfl⟩ := step_outside st
      rw [Runs.next_ok st]
      exact unlisted
  obtain ⟨platform', known', kept⟩ := g.terms_later as [_] (κ := .platform) known
  have usdc : platform'.usdcMint = platform.usdcMint := (congrArg Platform.usdcMint kept :)
  have taken : (g.run (as ++ [.outside (.createAssociatedToken t.key platform.usdcMint)])).bank.holder
      (platform'.client.usdcOf t.key) = some (platform.usdcMint, t.key) := by
    rw [Client.usdcOf, Platform.client, usdc, next]
    exact opened
  have later := g.unlisted_later _ bs known' same taken
  rwa [List.append_assoc, List.singleton_append] at later

/-- An unused id can be blocked by anybody, in one step and for good: a pool or project whose vault's address got
its account before the creation is never created. Otherwise an unused id, whose address had nothing at genesis,
stays usable: with a fresh mint, and for a project an entry that has its baseline, it is created in some later
state if and only if its vault is not open now. -/
theorem ids_blocked (g : Genesis K) (as : List (Action K))
    (known : (g.run as).platforms.lookup Client.platform = some platform) (signs : canSign mint = true)
    (freeMint : (g.run as).Vacant mint) (apart : platform.admin ≠ mint) :
    (∀ t : Target K, (g.run as).view.listing t = none → ∀ bs, (g.run (as ++
      .outside (.createAssociatedToken t.key platform.usdcMint) :: bs)).view.listing t = none) ∧
    (∀ id, g.Clear (Client.pool id) → Client.pool id ∉ (g.run as).pools →
      ((∃ bs, Client.pool id ∈ (g.run (as ++ bs)).pools) ↔
        (g.run as).bank.holder (platform.client.usdcOf (Client.pool id)) = none)) ∧
    ∀ id m entry, (g.run as).mrvProjects.lookup m = some entry → entry.baselineSubmitted = true →
      g.Clear (Client.project id) → Client.project id ∉ (g.run as).projects →
      ((∃ bs, Client.project id ∈ (g.run (as ++ bs)).projects) ↔
        (g.run as).bank.holder (platform.client.usdcOf (Client.project id)) = none) := by
  refine ⟨?_, ?_, ?_⟩
  · intro t unlisted bs
    exact g.blocks as bs known unlisted
  · intro id clear unused
    exact Genesis.pool_id_free known signs freeMint apart clear unused
  · intro id m entry found gate clear unused
    exact Genesis.project_id_free known signs freeMint apart found gate clear unused

/-- Pool 1 of the demo deployment can be created, and never again once its vault is open. -/
theorem ids_blocked_demo : (∃ bs, Client.pool 1 ∈ (Genesis.blank.run (Client.demoSetup ++ bs)).pools) ∧
    ∀ bs, (Genesis.blank.run (Client.demoSetup ++ .outside (.createAssociatedToken (Client.pool 1) Client.demo.usdc)
      :: bs)).view.listing (.pool (Client.pool 1)) = none := by
  have known : ((Genesis.blank.run Client.demoSetup).platforms.lookup Client.platform).map
      (fun platform => (platform.usdcMint, platform.admin)) = some (Client.demo.usdc, Client.demo.admin) := by
    decide +kernel
  have fresh : Client.pool 1 ∉ (Genesis.blank.run Client.demoSetup).pools := by decide +kernel
  have freeMint : (Genesis.blank.run Client.demoSetup).Vacant (.wallet 21) := by decide +kernel
  have unopened : (Genesis.blank.run Client.demoSetup).bank.holder (Client.demo.usdcOf (Client.pool 1)) = none := by
    decide +kernel
  obtain ⟨platform, known, same⟩ := Option.map_eq_some_iff.mp known
  obtain ⟨usdc, admin⟩ := Prod.mk.inj same
  have apart : platform.admin ≠ .wallet 21 := by
    rw [admin]
    decide
  have signs : canSign (Addr.wallet 21) = true := rfl
  have clear : Genesis.blank.Clear (Client.pool 1 : Addr) := ⟨rfl, rfl⟩
  have unlisted := State.unlisted_pool fresh
  obtain ⟨blocks, pools, -⟩ := ids_blocked Genesis.blank Client.demoSetup known signs freeMint apart
  refine ⟨(pools 1 clear fresh).mpr ?_, ?_⟩
  · rw [Client.usdcOf, Platform.client, usdc]
    exact unopened
  · rw [← usdc]
    exact blocks (.pool (Client.pool 1)) unlisted

end Exira
