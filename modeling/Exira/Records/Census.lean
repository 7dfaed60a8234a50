import Exira.Records.Provenance

/-!
# Counters

The platform counts its projects and its pools, and a pool counts its projects, each in an integer that
saturates. A `Census` is what a state says about this: the counters, the projects and pools that there are,
and the links between them. `Entry` says everything that a successful action does to it: it enters nothing,
or one account, and then the counter of that account's kind is raised.
-/

namespace Exira

variable {K : Type} [DecidableEq K]

/-! ## Censuses -/

/-- What a state says about its counters. -/
structure Census (K : Type) where
  /-- the project count and the pool count of a platform -/
  platforms : Table K (U64 × U64)
  projects : Finset K
  /-- the project count of a pool -/
  pools : Table K U16
  /-- the pool and the project of a link -/
  links : Table K (K × K)

/-- The counters of a platform. -/
def Platform.counts (p : Platform K) : Option (U64 × U64) :=
  some (p.projectCount, p.poolCount)

/-- The counter of a pool. -/
def Pool.counts (p : Pool K) : Option U16 :=
  some p.underlyingProjectCount

/-- The two ends of a link. -/
def PoolProjectLink.ends (l : PoolProjectLink K) : Option (K × K) :=
  some (l.pool, l.project)

/-- The census of a state. -/
def State.census (s : State K) : Census K where
  platforms := s.platforms.filterMap Platform.counts
  projects := s.projects.keys
  pools := s.pools.filterMap Pool.counts
  links := s.links.filterMap PoolProjectLink.ends

variable [Addresses K]

/-- The projects that a pool has a link to. -/
def Census.linked (c : Census K) (p : K) : Finset K :=
  c.projects.filter fun q => findProgramAddress (.poolLink p q) ∈ c.links

/-- What a successful action enters. -/
inductive Entry (c : Census K) : Census K → Prop
  | quiet : Entry c c
  | platform {k} (place : k = Client.platform) (free : c.platforms.lookup k = none) :
    Entry c { c with platforms := c.platforms.insert k (0, 0) }
  | project {k m n p} (own : c.platforms.lookup k = some (m, n)) (free : p ∉ c.projects) :
    Entry c { c with
      platforms := c.platforms.insert k (m.saturatingAdd 1, n)
      projects := Insert.insert p c.projects }
  | pool {k m n p} (own : c.platforms.lookup k = some (m, n)) (free : c.pools.lookup p = none) :
    Entry c { c with
      platforms := c.platforms.insert k (m, n.saturatingAdd 1)
      pools := c.pools.insert p 0 }
  | link {k n p q} (own : c.pools.lookup p = some n) (mem : q ∈ c.projects) (room : n < MAX_POOL_PROJECTS_V1)
      (place : k = findProgramAddress (.poolLink p q)) (free : c.links.lookup k = none) :
    Entry c { c with
      pools := c.pools.insert p (n.saturatingAdd 1)
      links := c.links.insert k (p, q) }

/-! ## Actions as entries -/

section
variable {s s' : State K} {k : K}

omit [Addresses K] in
/-- A platform's counters are in the census. -/
lemma State.census_platform {p : Platform K} (own : s.platforms.lookup k = some p) :
    s.census.platforms.lookup k = some (p.projectCount, p.poolCount) := by
  rw [State.census, Finmap.lookup_filterMap, own]
  rfl

omit [Addresses K] in
/-- A pool's counter is in the census. -/
lemma State.census_pool {p : Pool K} (own : s.pools.lookup k = some p) :
    s.census.pools.lookup k = some p.underlyingProjectCount := by
  rw [State.census, Finmap.lookup_filterMap, own]
  rfl

omit [Addresses K] in
/-- A link's ends are in the census. -/
lemma State.census_link {l : PoolProjectLink K} (own : s.links.lookup k = some l) :
    s.census.links.lookup k = some (l.pool, l.project) := by
  rw [State.census, Finmap.lookup_filterMap, own]
  rfl

omit [Addresses K] in
/-- A vacant address is entered nowhere. -/
lemma State.Vacant.census (vacant : s.Vacant k) :
    s.census.platforms.lookup k = none ∧ k ∉ s.census.projects ∧ s.census.pools.lookup k = none ∧
      s.census.links.lookup k = none := by
  have free := vacant.1
  simp only [State.Owned, not_or] at free
  obtain ⟨platforms, projects, pools, links, -⟩ := free
  simp only [State.census, Finmap.lookup_filterMap, Finmap.lookup_eq_none.mpr platforms,
    Finmap.lookup_eq_none.mpr pools, Finmap.lookup_eq_none.mpr links, Option.bind_none, Finmap.mem_keys]
  exact ⟨trivial, projects, trivial, trivial⟩

omit [Addresses K] in
/-- Writing a platform enters its counters. -/
lemma Platform.counts_insert (m : Table K (Platform K)) (k : K) (p : Platform K) :
    (m.insert k p).filterMap counts = (m.filterMap counts).insert k (p.projectCount, p.poolCount) :=
  Finmap.filterMap_insert_some (q := counts) rfl m k

omit [Addresses K] in
/-- Writing a pool enters its counter. -/
lemma Pool.counts_insert (m : Table K (Pool K)) (k : K) (p : Pool K) :
    (m.insert k p).filterMap counts = (m.filterMap counts).insert k p.underlyingProjectCount :=
  Finmap.filterMap_insert_some (q := counts) rfl m k

omit [Addresses K] in
/-- Writing a link enters its ends. -/
lemma PoolProjectLink.ends_insert (m : Table K (PoolProjectLink K)) (k : K) (l : PoolProjectLink K) :
    (m.insert k l).filterMap ends = (m.filterMap ends).insert k (l.pool, l.project) :=
  Finmap.filterMap_insert_some (q := ends) rfl m k

/-- An instruction that writes no platform and opens no project, pool or link enters nothing. -/
lemma Effects.census {now : Int64} {i : Instruction K} (h : Effects s now i s')
    (platform : ∀ k, (.platform, k) ∉ i.writes) (link : ∀ k, (.poolLink, k) ∉ i.writes)
    (closed : ∀ σ ∈ i.seeds, σ.kind ≠ .project ∧ σ.kind ≠ .pool) : Entry s.census s'.census := by
  have projects : s'.projects.keys = s.projects.keys := by
    ext k
    rw [Finmap.mem_keys, Finmap.mem_keys, Finmap.mem_iff, Finmap.mem_iff]
    constructor
    · rintro ⟨p, own⟩
      obtain ⟨p, old, -⟩ := h.projects.old nofun (fun σ mem => (closed σ mem).1) own
      exact ⟨p, old⟩
    · rintro ⟨p, old⟩
      exact h.projects.stays old
  have pools : s'.pools.filterMap Pool.counts = s.pools.filterMap Pool.counts := by
    refine Finmap.ext_lookup fun k => ?_
    rw [Finmap.lookup_filterMap, Finmap.lookup_filterMap]
    cases own : s'.pools.lookup k with
    | none =>
      cases old : s.pools.lookup k with
      | none => rfl
      | some p =>
        obtain ⟨p', own'⟩ := h.pools.stays old
        cases own.symm.trans own'
    | some p' =>
      obtain ⟨p, old, -, rfl | changes⟩ := h.pools.old nofun (fun σ mem => (closed σ mem).2) own
      · exact congrArg (Option.bind · Pool.counts) old.symm
      · -- only a link counts a project
        have count := changes.count.resolve_left fun ⟨k, mem⟩ => link k mem
        rw [show s.pools.lookup k = some p from old]
        exact congrArg some count
  have same : s'.census = s.census := by
    simp only [State.census, projects, pools, show s'.platforms = s.platforms from h.platforms.unmarked platform,
      show s'.links = s.links from h.links.unmarked link]
  exact same ▸ .quiet

/-- Everything that a successful instruction enters. -/
theorem handle_enters {now : Int64} {i : Instruction K} (h : handle s now i = .ok s') :
    Entry s.census s'.census := by
  cases i with
  | initializePlatform =>
    obtain ⟨done, rfl⟩ := initializePlatform_ok.mp h
    simp only [State.census, Platform.counts_insert]
    exact .platform done.place done.vacant.census.1
  | createProject =>
    obtain ⟨done, rfl⟩ := createProject_ok.mp h
    simp only [State.census, Platform.counts_insert, Finmap.keys_insert]
    exact .project (State.census_platform done.loaded.own) done.vacant.census.2.1
  | createPool =>
    obtain ⟨done, rfl⟩ := createPool_ok.mp h
    simp only [State.census, Platform.counts_insert, Pool.counts_insert]
    exact .pool (State.census_platform done.loaded.own) done.vacant.census.2.2.1
  | addProjectToPool =>
    obtain ⟨done, rfl⟩ := addProjectToPool_ok.mp h
    simp only [State.census, Pool.counts_insert, PoolProjectLink.ends_insert]
    have there := Finmap.mem_keys.mpr (Finmap.mem_of_lookup_eq_some done.member)
    exact .link (State.census_pool done.own) there done.room done.place done.vacant.census.2.2.2
  | _ =>
    exact (handle_effects h).census (by simp [Instruction.writes]) (by simp [Instruction.writes])
      (by simp [Instruction.seeds, Seeds.kind])

/-- Everything that a successful action enters. -/
theorem step_enters {x : Action K} (st : step s x = .ok s') : Entry s.census s'.census := by
  cases x with
  | call now i => exact handle_enters (step_call st).2
  | outside o =>
    obtain ⟨b, -, rfl⟩ := step_outside st
    exact .quiet

end

/-! ## The invariant -/

/-- The counters are the numbers of what there is, and links are between what there is. -/
structure Census.Wf (c : Census K) : Prop where
  platform : ∀ k m n, c.platforms.lookup k = some (m, n) → k = Client.platform ∧
    m.toNat = min c.projects.card (2 ^ 64 - 1) ∧ n.toNat = min c.pools.keys.card (2 ^ 64 - 1)
  early : c.platforms.lookup Client.platform = none → c.projects = ∅ ∧ c.pools.keys = ∅
  pool : ∀ p n, c.pools.lookup p = some n → n.toNat = (c.linked p).card ∧ n ≤ MAX_POOL_PROJECTS_V1
  link : ∀ k p q, c.links.lookup k = some (p, q) →
    k = findProgramAddress (.poolLink p q) ∧ p ∈ c.pools ∧ q ∈ c.projects

namespace Census.Wf
variable {c c' : Census K} {p q : K}

/-- A link at the address of a pool and a project is theirs. -/
lemma linked_mem (wf : c.Wf) (mem : findProgramAddress (.poolLink p q) ∈ c.links) :
    p ∈ c.pools ∧ q ∈ c.projects := by
  obtain ⟨⟨p', q'⟩, own⟩ := Finmap.mem_iff.mp mem
  obtain ⟨place, pool, project⟩ := wf.link _ p' q' own
  cases findProgramAddress_inj place
  exact ⟨pool, project⟩

omit [Addresses K] in
/-- The counts stay the number of what there is when one account is entered. -/
lemma count_insert {n : U64} {a : Finset K} (count : n.toNat = min a.card (2 ^ 64 - 1)) (free : p ∉ a) :
    (n.saturatingAdd 1).toNat = min (Insert.insert p a).card (2 ^ 64 - 1) := by
  have one : (1 : U64).toNat = 1 := rfl
  rw [BitVec.toNat_saturatingAdd, count, Finset.card_insert_of_notMem free]
  omega

/-- The platform is made before all that it counts. -/
lemma enter_platform {k : K} (wf : c.Wf) (place : k = Client.platform) (free : c.platforms.lookup k = none) :
    Census.Wf { c with platforms := c.platforms.insert k (0, 0) } where
  platform := by
    obtain ⟨projects, pools⟩ := wf.early (place ▸ free)
    intro k' m n own
    rw [Finmap.lookup_insert_ite] at own
    split at own
    · next e =>
      cases own
      refine ⟨e.trans place, ?_, ?_⟩
      · rw [projects]; rfl
      · rw [pools]; rfl
    · exact wf.platform k' m n own
  early := by
    intro none
    rw [← place, Finmap.lookup_insert] at none
    cases none
  pool := wf.pool
  link := wf.link

/-- A project is counted when it is entered. -/
lemma enter_project {k : K} {m n : U64} (wf : c.Wf) (own : c.platforms.lookup k = some (m, n))
    (free : p ∉ c.projects) : Census.Wf { c with
      platforms := c.platforms.insert k (m.saturatingAdd 1, n)
      projects := Insert.insert p c.projects } where
  platform := by
    obtain ⟨place, projects, pools⟩ := wf.platform k m n own
    intro k' m' n' own'
    rw [Finmap.lookup_insert_ite] at own'
    split at own'
    · next e =>
      cases own'
      exact ⟨e.trans place, count_insert projects free, pools⟩
    · next ne => exact absurd ((wf.platform k' m' n' own').1.trans place.symm) ne
  early := by
    intro none
    rw [← (wf.platform k m n own).1, Finmap.lookup_insert] at none
    cases none
  pool := by
    intro p' n' own'
    have unlinked : findProgramAddress (.poolLink p' p) ∉ c.links := fun mem => free (wf.linked_mem mem).2
    have same : (Insert.insert p c.projects).filter (fun q => findProgramAddress (.poolLink p' q) ∈ c.links)
        = c.linked p' := by
      rw [Finset.filter_insert, if_neg unlinked]
      rfl
    rw [linked, same]
    exact wf.pool p' n' own'
  link := by
    intro k' p' q' own'
    obtain ⟨place, pool, project⟩ := wf.link k' p' q' own'
    exact ⟨place, pool, Finset.mem_insert_of_mem project⟩

/-- A pool is counted when it is entered, and has no project. -/
lemma enter_pool {k : K} {m n : U64} (wf : c.Wf) (own : c.platforms.lookup k = some (m, n))
    (free : c.pools.lookup p = none) : Census.Wf { c with
      platforms := c.platforms.insert k (m, n.saturatingAdd 1)
      pools := c.pools.insert p 0 } where
  platform := by
    obtain ⟨place, projects, pools⟩ := wf.platform k m n own
    intro k' m' n' own'
    rw [Finmap.lookup_insert_ite] at own'
    split at own'
    · next e =>
      cases own'
      rw [Finmap.keys_insert]
      refine ⟨e.trans place, projects, count_insert pools ?_⟩
      rwa [Finmap.mem_keys, ← Finmap.lookup_eq_none]
    · next ne => exact absurd ((wf.platform k' m' n' own').1.trans place.symm) ne
  early := by
    intro none
    rw [← (wf.platform k m n own).1, Finmap.lookup_insert] at none
    cases none
  pool := by
    refine Finmap.forall_insert (Q := fun p' (n' : U16) => n'.toNat = (c.linked p').card ∧ _) wf.pool ?_
    have unlinked : c.linked p = ∅ := by
      refine Finset.filter_eq_empty_iff.mpr fun q _ mem => ?_
      exact Finmap.lookup_eq_none.mp free (wf.linked_mem mem).1
    rw [unlinked]
    exact ⟨rfl, by decide⟩
  link := by
    intro k' p' q' own'
    obtain ⟨place, pool, project⟩ := wf.link k' p' q' own'
    exact ⟨place, Finmap.mem_insert.mpr (.inr pool), project⟩

/-- A link adds its project to its pool. -/
lemma linked_insert (c : Census K) (mem : q ∈ c.projects) {pools : Table K U16} (p' : K) :
    linked { c with pools := pools, links := c.links.insert (findProgramAddress (.poolLink p q)) (p, q) } p'
      = if p' = p then Insert.insert q (c.linked p) else c.linked p' := by
  ext r
  have same : findProgramAddress (.poolLink p' r) = findProgramAddress (.poolLink p q) ↔ p' = p ∧ r = q := by
    constructor
    · intro e
      cases findProgramAddress_inj e
      exact ⟨rfl, rfl⟩
    · rintro ⟨rfl, rfl⟩
      rfl
  simp only [linked, Finset.mem_filter, Finmap.mem_insert, same]
  split
  · next e =>
    subst e
    rw [Finset.mem_insert, Finset.mem_filter]
    constructor
    · rintro ⟨there, ⟨-, e⟩ | old⟩
      · exact .inl e
      · exact .inr ⟨there, old⟩
    · rintro (rfl | ⟨there, old⟩)
      · exact ⟨mem, .inl ⟨rfl, rfl⟩⟩
      · exact ⟨there, .inr old⟩
  · next ne => simp [ne, Finset.mem_filter]

/-- A project is counted by its pool when it is linked. -/
lemma enter_link {k : K} {n : U16} (wf : c.Wf) (own : c.pools.lookup p = some n) (mem : q ∈ c.projects)
    (room : n < MAX_POOL_PROJECTS_V1) (place : k = findProgramAddress (.poolLink p q))
    (free : c.links.lookup k = none) : Census.Wf { c with
      pools := c.pools.insert p (n.saturatingAdd 1)
      links := c.links.insert k (p, q) } where
  platform := by
    have same : (c.pools.insert p (n.saturatingAdd 1)).keys = c.pools.keys := by
      rw [Finmap.keys_insert, Finset.insert_eq_self, Finmap.mem_keys]
      exact Finmap.mem_of_lookup_eq_some own
    rw [same]
    exact wf.platform
  early := by
    intro none
    have pools := (wf.early none).2
    have there := Finmap.mem_keys.mpr (Finmap.mem_of_lookup_eq_some own)
    rw [pools] at there
    exact absurd there (Finset.notMem_empty p)
  pool := by
    obtain ⟨count, -⟩ := wf.pool p n own
    subst place
    -- the address of the link was free, so the project was not counted yet
    have unlinked : q ∉ c.linked p := by
      rw [linked, Finset.mem_filter, Finmap.mem_iff]
      rintro ⟨-, ends, old⟩
      cases free.symm.trans old
    intro p' n' own'
    rw [Finmap.lookup_insert_ite] at own'
    rw [linked_insert c mem]
    split at own'
    · next e =>
      cases own'
      have room : n.toNat < 20 := BitVec.lt_def.mp room
      rw [if_pos e, Finset.card_insert_of_notMem unlinked, ← count, BitVec.le_def, BitVec.toNat_saturatingAdd]
      have one : (1 : U16).toNat = 1 := rfl
      have most : MAX_POOL_PROJECTS_V1.toNat = 20 := rfl
      omega
    · next ne =>
      rw [if_neg ne]
      exact wf.pool p' n' own'
  link := by
    refine fun k' p' q' own' => ?_
    rw [Finmap.lookup_insert_ite] at own'
    split at own'
    · next e =>
      cases own'
      exact ⟨e.trans place, Finmap.mem_insert.mpr (.inl rfl), mem⟩
    · obtain ⟨place, pool, project⟩ := wf.link k' p' q' own'
      exact ⟨place, Finmap.mem_insert.mpr (.inr pool), project⟩

/-- Entries keep the census well formed. -/
lemma enter (wf : c.Wf) (h : Entry c c') : c'.Wf := by
  cases h with
  | quiet => exact wf
  | platform place free => exact wf.enter_platform place free
  | project own free => exact wf.enter_project own free
  | pool own free => exact wf.enter_pool own free
  | link own mem room place free => exact wf.enter_link own mem room place free

end Census.Wf

/-! ## Runs -/

section
variable (g : Genesis K) (as : List (Action K))

/-- The census of every reachable state is well formed. -/
lemma Genesis.census_wf : (g.run as).census.Wf := by
  refine g.run_induction (I := fun _ s => s.census.Wf) ?_ ?_ as
  · exact ⟨nofun, fun _ => ⟨rfl, rfl⟩, nofun, nofun⟩
  · intro _ s x s' _ wf st
    exact wf.enter (step_enters st)

/-- A link holds no tokens of its project. -/
lemma Genesis.link_empty {k : K} {link : PoolProjectLink K} (own : (g.run as).links.lookup k = some link) :
    link.projectTokensHeld = 0 := by
  obtain ⟨-, x, mem, opens⟩ := g.opened as .poolLink k link own
  cases e : x.2 with
  | outside o => rw [e] at opens; cases opens
  | call now i =>
    rw [e] at opens
    cases i <;> simp only [Action.record, Instruction.record, Option.bind_eq_bind, Option.bind_eq_some_iff,
      Option.some.injEq, reduceCtorEq, Sigma.mk.injEq, false_and, and_false, exists_false] at opens
    obtain ⟨-, opens⟩ := opens
    have terms : _ = link := eq_of_heq opens
    rw [← terms]

/-- The projects that a pool has a link to. -/
def State.projectsOf (s : State K) (p : K) : Finset K :=
  s.projects.keys.filter fun q => findProgramAddress (.poolLink p q) ∈ s.links

omit [Addresses K] in
/-- The census has the pools that there are. -/
lemma State.keys_census_pools (s : State K) : s.census.pools.keys = s.pools.keys := by
  ext k
  rw [Finmap.mem_keys, Finmap.mem_keys]
  exact Finmap.mem_filterMap fun _ => rfl

/-- The census has the links that there are. -/
lemma State.linked_census (s : State K) (p : K) : s.census.linked p = s.projectsOf p := by
  refine Finset.filter_congr fun q _ => ?_
  exact Finmap.mem_filterMap fun _ => rfl

/-- The counters of every reachable state. The platform counts its projects and its pools, up to the largest
value of the counters. A pool counts the projects that it has a link to, of which there are at most 20, so
that this counter never saturates. A link is between a pool and a project that there are, is the only one
between them, and holds none of the project's tokens. -/
theorem counters_exact :
    (∀ k platform, (g.run as).platforms.lookup k = some platform →
      platform.projectCount.toNat = min (g.run as).projects.keys.card (2 ^ 64 - 1) ∧
      platform.poolCount.toNat = min (g.run as).pools.keys.card (2 ^ 64 - 1)) ∧
    (∀ k pool, (g.run as).pools.lookup k = some pool →
      pool.underlyingProjectCount.toNat = ((g.run as).projectsOf k).card ∧
        ((g.run as).projectsOf k).card ≤ 20) ∧
    ∀ k link, (g.run as).links.lookup k = some link →
      link.pool ∈ (g.run as).pools ∧ link.project ∈ (g.run as).projects ∧
        (∀ k' link', (g.run as).links.lookup k' = some link' → link'.pool = link.pool →
          link'.project = link.project → k' = k) ∧ link.projectTokensHeld = 0 := by
  have wf := g.census_wf as
  refine ⟨?_, ?_, ?_⟩
  · intro k platform own
    obtain ⟨-, projects, pools⟩ := wf.platform k _ _ (State.census_platform own)
    rw [State.keys_census_pools] at pools
    exact ⟨projects, pools⟩
  · intro k pool own
    obtain ⟨count, most⟩ := wf.pool k _ (State.census_pool own)
    rw [State.linked_census] at count
    exact ⟨count, count ▸ BitVec.le_def.mp most⟩
  · intro k link own
    obtain ⟨place, pool, project⟩ := wf.link k _ _ (State.census_link own)
    have there := (Finmap.mem_filterMap fun _ => rfl).mp pool
    refine ⟨there, Finmap.mem_keys.mp project, ?_, g.link_empty as own⟩
    intro k' link' own' samePool sameProject
    obtain ⟨place', -⟩ := wf.link k' _ _ (State.census_link own')
    rw [place', place, samePool, sameProject]

end

end Exira
