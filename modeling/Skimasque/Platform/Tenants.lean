import Skimasque.Engine.Parse
import Skimasque.Library.Map

/-! The tenants of a platform gateway: the list the control plane sends, the entries that are kept,
and the table they make. -/

set_option autoImplicit false

namespace Skimasque.Platform
open Library Engine

/-- A map with `String` keys. -/
abbrev Map (β : Type) := AList (fun _ : String => β)

structure SigningKey where
  algorithm : String
  publicKeyB64 : String
  previousPublicKeyB64 : Option String := none
  deriving DecidableEq, Repr

namespace Protocol

/-- One organisation, as the control plane lists it. -/
structure Tenant where
  orgId : String
  slug : String
  owners : List String
  /-- GitHub's numeric account id of an owner, by login. -/
  ownerIds : Map Nat
  /-- The documents of the published policy, if there is one. -/
  policy : Option (List PolicyDocument)
  signingKey : SigningKey

structure TenantList where
  version : Nat
  tenants : List Tenant

end Protocol

def normalizeOwner (owner : String) : String := Text.toAsciiLowercase (Text.trim owner)

/-- The first entry for an organisation or a slug is kept, and none with a blank organisation. -/
def dedupFrom (orgs slugs : List String) : List Protocol.Tenant → List Protocol.Tenant
  | [] => []
  | tenant :: rest =>
    if Text.isEmpty (Text.trim tenant.orgId) then dedupFrom orgs slugs rest
    else if tenant.orgId ∈ orgs then dedupFrom orgs slugs rest
    else if tenant.slug ∈ slugs then dedupFrom orgs slugs rest
    else tenant :: dedupFrom (tenant.orgId :: orgs) (tenant.slug :: slugs) rest

def dedup (tenants : List Protocol.Tenant) : List Protocol.Tenant := dedupFrom [] [] tenants

/-- The organisation has an entry in the list that survives de-duplication. -/
def Protocol.TenantList.Keeps (list : Protocol.TenantList) (org : String) : Prop :=
  ∃ entry ∈ dedup list.tenants, entry.orgId = org

structure TenantSpec where
  orgId : String
  slug : String
  owners : List String
  ownerIds : Map Nat
  policy : PolicySet

structure Tenant where
  id : String
  slug : String
  owners : List String
  ownerIds : Map Nat
  policy : PolicySet

structure TenantSnapshot where
  version : Nat
  byOrg : Map Tenant
  bySlug : Map Tenant

/-- What the gateway uses of other crates and of the Unicode tables: the two document languages and
`str::to_lowercase`. -/
structure Runtime where
  formats : Formats
  toLowercase : String → String

/-- For concrete runs on ASCII text that load no policy. -/
def sampleRuntime : Runtime where
  formats := ⟨fun _ => .error "", fun _ => .error "", fun text => .error (.empty text), fun text => .error (.empty text)⟩
  toLowercase := Text.toAsciiLowercase

/-- The entries of a `BTreeMap`, in key order. -/
def inKeyOrder {β : Type} (map : Map β) : List (String × β) :=
  ((map.entries.map fun entry => (entry.1, entry.2)).insertionSort fun left right => left.1 ≤ right.1)

section
variable (runtime : Runtime)

/-- Every key lowercased; of keys that become one, the last in key order stays. -/
def lowercaseKeys (ids : Map Nat) : Map Nat :=
  (inKeyOrder ids).foldl (fun map entry => map.insert (runtime.toLowercase entry.1) entry.2) ∅

def Tenant.new (spec : TenantSpec) : Tenant where
  id := spec.orgId
  slug := spec.slug
  owners := spec.owners.map runtime.toLowercase
  ownerIds := lowercaseKeys runtime spec.ownerIds
  policy := spec.policy

def Tenant.owns (tenant : Tenant) (owner : String) (ownerId : Option Nat) : Bool :=
  let login := runtime.toLowercase owner
  if login ∉ tenant.owners then false
  else
    -- An owner with no recorded id is checked by login alone.
    match tenant.ownerIds.lookup login with
    | some recorded => ownerId == some recorded
    | none => true

/-- The entry's policy, or an empty set, which denies everything, if it has none that loads. -/
def policyFor (tenant : Protocol.Tenant) : PolicySet :=
  match tenant.policy with
  | none => ⟨[]⟩
  | some documents =>
    match PolicySet.fromDocuments runtime.formats documents with
    | .ok set => set
    | .error _ => ⟨[]⟩

def specOf (tenant : Protocol.Tenant) : TenantSpec where
  orgId := tenant.orgId
  slug := tenant.slug
  owners := tenant.owners.map normalizeOwner
  ownerIds := tenant.ownerIds
  policy := policyFor runtime tenant

def TenantSnapshot.add (snapshot : TenantSnapshot) (spec : TenantSpec) : TenantSnapshot :=
  if spec.orgId ∈ snapshot.byOrg then snapshot
  else if spec.slug ∈ snapshot.bySlug then snapshot
  else
    let tenant := Tenant.new runtime spec
    { snapshot with
      byOrg := snapshot.byOrg.insert tenant.id tenant
      bySlug := snapshot.bySlug.insert tenant.slug tenant }

/-- What `TenantTable::store` publishes. -/
def TenantSnapshot.store (version : Nat) (specs : List TenantSpec) : TenantSnapshot :=
  specs.foldl (TenantSnapshot.add runtime) ⟨version, ∅, ∅⟩

def TenantSnapshot.resolveOrg (snapshot : TenantSnapshot) (org : String) : Option Tenant :=
  snapshot.byOrg.lookup org

def TenantSnapshot.resolveSlug (snapshot : TenantSnapshot) (slug : String) : Option Tenant :=
  snapshot.bySlug.lookup slug

/-- The table `apply` makes of a list. -/
def tableOf (list : Protocol.TenantList) : TenantSnapshot :=
  TenantSnapshot.store runtime list.version ((dedup list.tenants).map (specOf runtime))

end

/-! ## What is kept -/

theorem mem_dedupFrom {orgs slugs : List String} {tenants : List Protocol.Tenant}
    {tenant : Protocol.Tenant}
    (kept : tenant ∈ dedupFrom orgs slugs tenants) : tenant.orgId ∉ orgs ∧ tenant.slug ∉ slugs := by
  induction tenants generalizing orgs slugs with
  | nil => cases kept
  | cons first rest ih =>
    unfold dedupFrom at kept
    split at kept
    · exact ih kept
    split at kept
    · exact ih kept
    split at kept
    · exact ih kept
    · rename_i freshOrg freshSlug
      cases List.mem_cons.mp kept with
      | inl same => exact same ▸ ⟨freshOrg, freshSlug⟩
      | inr later =>
        have apart := ih later
        simp only [List.mem_cons, not_or] at apart
        exact ⟨apart.1.2, apart.2.2⟩

theorem dedupFrom_nodup (orgs slugs : List String) (tenants : List Protocol.Tenant) :
    ((dedupFrom orgs slugs tenants).map (·.orgId)).Nodup ∧
      ((dedupFrom orgs slugs tenants).map (·.slug)).Nodup := by
  induction tenants generalizing orgs slugs with
  | nil => exact ⟨.nil, .nil⟩
  | cons first rest ih =>
    unfold dedupFrom
    split
    · exact ih _ _
    split
    · exact ih _ _
    split
    · exact ih _ _
    · obtain ⟨orgsApart, slugsApart⟩ := ih (first.orgId :: orgs) (first.slug :: slugs)
      simp only [List.map_cons, List.nodup_cons, List.mem_map, not_exists, not_and]
      refine ⟨⟨fun tenant kept same => ?_, orgsApart⟩, fun tenant kept same => ?_, slugsApart⟩
      · exact (mem_dedupFrom kept).1 (same ▸ List.mem_cons_self ..)
      · exact (mem_dedupFrom kept).2 (same ▸ List.mem_cons_self ..)

theorem dedup_nodup (tenants : List Protocol.Tenant) :
    ((dedup tenants).map (·.orgId)).Nodup ∧ ((dedup tenants).map (·.slug)).Nodup :=
  dedupFrom_nodup [] [] tenants

/-! ## What the table resolves -/

section
variable {runtime : Runtime}

/-- Specs that repeat nothing are all taken. -/
theorem foldl_add {specs : List TenantSpec} {snapshot : TenantSnapshot}
    (orgs : (specs.map (·.orgId)).Nodup) (slugs : (specs.map (·.slug)).Nodup)
    (fresh : ∀ spec ∈ specs, spec.orgId ∉ snapshot.byOrg ∧ spec.slug ∉ snapshot.bySlug) :
    specs.foldl (TenantSnapshot.add runtime) snapshot =
      ⟨snapshot.version, Map.insertAll (·.orgId) (Tenant.new runtime) snapshot.byOrg specs,
        Map.insertAll (·.slug) (Tenant.new runtime) snapshot.bySlug specs⟩ := by
  -- Specs that are still to come must be new to the snapshot that the earlier ones have grown.
  induction specs generalizing snapshot with
  | nil => rfl
  | cons spec rest ih =>
    simp only [List.map_cons, List.nodup_cons, List.mem_map, not_exists, not_and] at orgs slugs
    rw [List.forall_mem_cons] at fresh
    have taken : TenantSnapshot.add runtime snapshot spec =
        { snapshot with
          byOrg := snapshot.byOrg.insert spec.orgId (Tenant.new runtime spec)
          bySlug := snapshot.bySlug.insert spec.slug (Tenant.new runtime spec) } := by
      rw [TenantSnapshot.add, if_neg fresh.1.1, if_neg fresh.1.2]
      rfl
    rw [List.foldl_cons, taken, ih orgs.2 slugs.2]
    · rfl
    · intro other member
      simp only [AList.mem_insert, not_or]
      exact ⟨⟨orgs.1 other member, (fresh.2 other member).1⟩, slugs.1 other member, (fresh.2 other member).2⟩

theorem tableOf_eq (list : Protocol.TenantList) :
    tableOf runtime list =
      ⟨list.version, Map.insertAll (·.orgId) (Tenant.new runtime) ∅ ((dedup list.tenants).map (specOf runtime)),
        Map.insertAll (·.slug) (Tenant.new runtime) ∅ ((dedup list.tenants).map (specOf runtime))⟩ := by
  have distinct := dedup_nodup list.tenants
  apply foldl_add
  · rw [List.map_map]
    exact distinct.1
  · rw [List.map_map]
    exact distinct.2
  · intro spec _
    exact ⟨AList.notMem_empty _, AList.notMem_empty _⟩

/-- The tenant the gateway makes of an entry. -/
def tenantOf (runtime : Runtime) (entry : Protocol.Tenant) : Tenant :=
  Tenant.new runtime (specOf runtime entry)

theorem resolveOrg_tableOf {list : Protocol.TenantList} {org : String} {tenant : Tenant} :
    (tableOf runtime list).resolveOrg org = some tenant ↔
      ∃ entry ∈ dedup list.tenants, entry.orgId = org ∧ tenantOf runtime entry = tenant := by
  rw [tableOf_eq, TenantSnapshot.resolveOrg, Map.lookup_insertAll_eq_some_iff]
  · simp [tenantOf, specOf]
  · rw [List.map_map]
    exact (dedup_nodup list.tenants).1

theorem resolveSlug_tableOf {list : Protocol.TenantList} {slug : String} {tenant : Tenant} :
    (tableOf runtime list).resolveSlug slug = some tenant ↔
      ∃ entry ∈ dedup list.tenants, entry.slug = slug ∧ tenantOf runtime entry = tenant := by
  rw [tableOf_eq, TenantSnapshot.resolveSlug, Map.lookup_insertAll_eq_some_iff]
  · simp [tenantOf, specOf]
  · rw [List.map_map]
    exact (dedup_nodup list.tenants).2

/-! ## Any list of specs -/

/-- The two maps of the snapshot are two views of one list of tenants, which repeats neither an
organisation nor a slug. -/
structure TenantSnapshot.Represents (snapshot : TenantSnapshot) (kept : List Tenant) : Prop where
  orgs : (kept.map (·.id)).Nodup
  slugs : (kept.map (·.slug)).Nodup
  byOrg : ∀ org tenant, snapshot.resolveOrg org = some tenant ↔ tenant ∈ kept ∧ tenant.id = org
  bySlug : ∀ slug tenant, snapshot.resolveSlug slug = some tenant ↔ tenant ∈ kept ∧ tenant.slug = slug

theorem represents_empty (version : Nat) : TenantSnapshot.Represents ⟨version, ∅, ∅⟩ [] := by
  refine ⟨.nil, .nil, ?_, ?_⟩
  · intro org tenant
    simp [TenantSnapshot.resolveOrg]
  · intro slug tenant
    simp [TenantSnapshot.resolveSlug]

/-- A map that gains an entry under a new key gains that entry and nothing else. -/
theorem lookup_insert_iff {β : Type} {map : Map β} {key name : String} {value found : β} {entries : List β}
    {keyOf : β → String} (view : ∀ name found, map.lookup name = some found ↔ found ∈ entries ∧ keyOf found = name)
    (fresh : key ∉ map) (named : keyOf value = key) :
    (map.insert key value).lookup name = some found ↔ found ∈ entries ++ [value] ∧ keyOf found = name := by
  rw [List.mem_append, List.mem_singleton]
  by_cases same : name = key
  · subst same
    rw [AList.lookup_insert, Option.some.injEq]
    constructor
    · rintro rfl
      exact ⟨.inr rfl, named⟩
    · rintro ⟨old | new, known⟩
      · exact absurd (AList.lookup_isSome.mp (by rw [(view name found).mpr ⟨old, known⟩]; rfl)) fresh
      · exact new.symm
  · rw [AList.lookup_insert_ne same, view]
    constructor
    · intro ⟨old, known⟩
      exact ⟨.inl old, known⟩
    · rintro ⟨old | rfl, known⟩
      · exact ⟨old, known⟩
      · exact absurd (known.symm.trans named) same

theorem TenantSnapshot.Represents.add {snapshot : TenantSnapshot} {kept : List Tenant}
    (represents : snapshot.Represents kept) (spec : TenantSpec) :
    ∃ more, more.Sublist [Tenant.new runtime spec] ∧
      (∃ tenant ∈ kept ++ more, tenant.id = spec.orgId ∨ tenant.slug = spec.slug) ∧
      (TenantSnapshot.add runtime snapshot spec).Represents (kept ++ more) := by
  have apart {keyOf : Tenant → String} {map : Map Tenant} {key : String}
      (view : ∀ name found, map.lookup name = some found ↔ found ∈ kept ∧ keyOf found = name)
      (fresh : key ∉ map) : key ∉ kept.map keyOf := by
    intro taken
    obtain ⟨tenant, member, rfl⟩ := List.mem_map.mp taken
    exact fresh (AList.lookup_isSome.mp (by rw [(view _ tenant).mpr ⟨member, rfl⟩]; rfl))
  unfold TenantSnapshot.add
  split
  · rename_i repeated
    obtain ⟨tenant, found⟩ := Option.isSome_iff_exists.mp (AList.lookup_isSome.mpr repeated)
    obtain ⟨member, same⟩ := (represents.byOrg _ _).mp found
    exact ⟨[], List.nil_sublist _, ⟨tenant, by rwa [List.append_nil], .inl same⟩, by rwa [List.append_nil]⟩
  rename_i freshOrg
  split
  · rename_i repeated
    obtain ⟨tenant, found⟩ := Option.isSome_iff_exists.mp (AList.lookup_isSome.mpr repeated)
    obtain ⟨member, same⟩ := (represents.bySlug _ _).mp found
    exact ⟨[], List.nil_sublist _, ⟨tenant, by rwa [List.append_nil], .inr same⟩, by rwa [List.append_nil]⟩
  rename_i freshSlug
  refine ⟨[Tenant.new runtime spec], List.Sublist.refl _,
    ⟨_, List.mem_append_right _ (List.mem_singleton_self _), .inl rfl⟩, ?_, ?_, ?_, ?_⟩
  · rw [List.map_append, List.nodup_append_comm]
    exact List.nodup_cons.mpr ⟨apart represents.byOrg freshOrg, represents.orgs⟩
  · rw [List.map_append, List.nodup_append_comm]
    exact List.nodup_cons.mpr ⟨apart represents.bySlug freshSlug, represents.slugs⟩
  · intro org tenant
    exact lookup_insert_iff represents.byOrg freshOrg rfl
  · intro slug tenant
    exact lookup_insert_iff represents.bySlug freshSlug rfl

theorem foldl_add_represents (specs : List TenantSpec) {snapshot : TenantSnapshot} {kept : List Tenant}
    (represents : snapshot.Represents kept) :
    ∃ more, more.Sublist (specs.map (Tenant.new runtime)) ∧
      (∀ spec ∈ specs, ∃ tenant ∈ kept ++ more, tenant.id = spec.orgId ∨ tenant.slug = spec.slug) ∧
      (specs.foldl (TenantSnapshot.add runtime) snapshot).Represents (kept ++ more) := by
  induction specs generalizing snapshot kept with
  | nil => exact ⟨[], .slnil, List.forall_mem_nil _, by rwa [List.append_nil]⟩
  | cons spec rest ih =>
    obtain ⟨first, fromFirst, ⟨tenant, member, same⟩, added⟩ := represents.add spec
    obtain ⟨later, fromRest, taken, all⟩ := ih added
    refine ⟨first ++ later, fromFirst.append fromRest, ?_⟩
    rw [← List.append_assoc]
    exact ⟨List.forall_mem_cons.mpr ⟨⟨tenant, List.mem_append_left later member, same⟩, taken⟩, all⟩

/-- Whatever the list repeats, the table is made of entries of it, and an entry that is missing repeats
the organisation or the slug of one that is not. -/
theorem store_represents (runtime : Runtime) (version : Nat) (specs : List TenantSpec) :
    ∃ kept, kept.Sublist (specs.map (Tenant.new runtime)) ∧
      (∀ spec ∈ specs, ∃ tenant ∈ kept, tenant.id = spec.orgId ∨ tenant.slug = spec.slug) ∧
      (TenantSnapshot.store runtime version specs).Represents kept := by
  unfold TenantSnapshot.store
  simpa only [List.nil_append] using foldl_add_represents specs (represents_empty version)

theorem TenantSnapshot.Represents.resolveOrg_id {snapshot : TenantSnapshot} {kept : List Tenant}
    (represents : snapshot.Represents kept) {slug : String} {tenant : Tenant}
    (found : snapshot.resolveSlug slug = some tenant) : snapshot.resolveOrg tenant.id = some tenant :=
  (represents.byOrg _ _).mpr ⟨((represents.bySlug _ _).mp found).1, rfl⟩

theorem TenantSnapshot.Represents.same_tenants {snapshot : TenantSnapshot} {kept : List Tenant}
    (represents : snapshot.Represents kept) (tenant : Tenant) :
    (∃ org, snapshot.resolveOrg org = some tenant) ↔ ∃ slug, snapshot.resolveSlug slug = some tenant := by
  constructor
  · intro ⟨org, found⟩
    exact ⟨tenant.slug, (represents.bySlug _ _).mpr ⟨((represents.byOrg _ _).mp found).1, rfl⟩⟩
  · intro ⟨slug, found⟩
    exact ⟨tenant.id, represents.resolveOrg_id found⟩

end

end Skimasque.Platform
