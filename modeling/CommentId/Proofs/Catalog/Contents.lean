import CommentId.Proofs.Catalog.History
import CommentId.Proofs.Member.Visit
import Mathlib.Data.List.Induction

/-!
The contents of a catalog filled with members. Main statement: which identifiers it lists, which
member it holds under each of them and which are contested can be read off the members, and hardly
depends on their order.
-/

namespace CommentId

namespace Catalog

/-- The member to hold among those that claim one identifier: the first one that does not access
an indexer, or else the first one. -/
def preferred (members : List Member) : Option Member :=
  (members.find? fun member => !member.accessesIndexer).or members.head?

/-- Two different members claim the same identifier, neither of them on behalf of an indexer. -/
def Disputed (members : List Member) : Prop :=
  ∃ m ∈ members, ∃ n ∈ members,
    m ≠ n ∧ m.accessesIndexer = false ∧ n.accessesIndexer = false

instance (members : List Member) : Decidable (Disputed members) :=
  inferInstanceAs (Decidable (∃ m ∈ members, ∃ n ∈ members,
    m ≠ n ∧ m.accessesIndexer = false ∧ n.accessesIndexer = false))

/-- Accessors of indexers share an identifier with nothing but properties and each other. -/
def AccessorsAmongProperties (members : List Member) : Prop :=
  (∃ accessor ∈ members, accessor.accessesIndexer = true) →
    ∀ member ∈ members, member.accessesIndexer = false → member.kind = .property

theorem mem_of_preferred {members : List Member} {held : Member}
    (h : preferred members = some held) : held ∈ members := by
  rcases Option.or_eq_some_iff.mp h with hfind | ⟨-, hhead⟩
  · exact List.mem_of_find?_eq_some hfind
  · exact List.mem_of_head? hhead

theorem preferred_append_of_eq_false {members : List Member} {held : Member}
    (h : preferred members = some held) (haccess : held.accessesIndexer = false)
    (more : List Member) : preferred (members ++ more) = some held := by
  have hfind : (members.find? fun member => !member.accessesIndexer) = some held := by
    rcases Option.or_eq_some_iff.mp h with hfind | ⟨hnone, hhead⟩
    · exact hfind
    · have hheld := List.find?_eq_none.mp hnone held (List.mem_of_head? hhead)
      simp [haccess] at hheld
  rw [preferred, List.find?_append, hfind]
  rfl

theorem forall_accessesIndexer_of_preferred {members : List Member} {held : Member}
    (h : preferred members = some held) (haccess : held.accessesIndexer = true) :
    ∀ member ∈ members, member.accessesIndexer = true := by
  rcases Option.or_eq_some_iff.mp h with hfind | ⟨hnone, -⟩
  · have hheld := List.find?_some hfind
    simp [haccess] at hheld
  · intro member hmember
    simpa using List.find?_eq_none.mp hnone member hmember

theorem preferred_concat_of_eq_true {members : List Member} {held member : Member}
    (h : preferred members = some held) (haccess : held.accessesIndexer = true) :
    preferred (members ++ [member]) =
      some (if member.accessesIndexer then held else member) := by
  have hall := forall_accessesIndexer_of_preferred h haccess
  have hnone : (members.find? fun member => !member.accessesIndexer) = none := by
    rw [List.find?_eq_none]
    intro other hother
    simp [hall other hother]
  have hhead : members.head? = some held := by
    simpa [preferred, hnone] using h
  by_cases hmember : member.accessesIndexer = true
  · simp [preferred, List.find?_append, hnone, List.head?_append, hhead, hmember]
  · simp [preferred, List.find?_append, hnone, hmember]

structure Entry.Reflects (members : List Member) (entry : Entry) : Prop where
  held : preferred members = some entry.held
  contested : entry.isContested = true ↔ Disputed members

theorem disputed_concat_iff {members : List Member} {member : Member} :
    Disputed (members ++ [member]) ↔
      Disputed members ∨
        member.accessesIndexer = false ∧
          ∃ other ∈ members, other ≠ member ∧ other.accessesIndexer = false := by
  constructor
  · rintro ⟨m, hm, n, hn, hne, hmaccess, hnaccess⟩
    simp only [List.mem_append, List.mem_singleton] at hm hn
    rcases hm with hm | rfl <;> rcases hn with hn | rfl
    · exact .inl ⟨m, hm, n, hn, hne, hmaccess, hnaccess⟩
    · exact .inr ⟨hnaccess, m, hm, hne, hmaccess⟩
    · exact .inr ⟨hmaccess, n, hn, hne.symm, hnaccess⟩
    · exact absurd rfl hne
  · rintro (⟨m, hm, n, hn, h⟩ | ⟨haccess, other, hother, hne, hotheraccess⟩)
    · exact ⟨m, List.mem_append_left _ hm, n, List.mem_append_left _ hn, h⟩
    · exact ⟨other, List.mem_append_left _ hother, member,
        List.mem_append_right _ (List.mem_singleton_self member), hne, hotheraccess, haccess⟩

/-- A claim while an accessor is held: only a property can take its place. -/
theorem Entry.Reflects.claim_of_eq_true {members : List Member} {entry : Entry} {member : Member}
    (h : entry.Reflects members) (hshared : AccessorsAmongProperties (members ++ [member]))
    (haccess : entry.held.accessesIndexer = true) :
    (entry.claim member).Reflects (members ++ [member]) := by
  have hall := forall_accessesIndexer_of_preferred h.held haccess
  have hundisputed : ¬ Disputed members := by
    rintro ⟨m, hm, -, -, -, hmaccess, -⟩
    simp [hall m hm] at hmaccess
  have hundisputed' : ¬ Disputed (members ++ [member]) := by
    rw [disputed_concat_iff]
    rintro (hdisputed | ⟨-, other, hother, -, hotheraccess⟩)
    · exact hundisputed hdisputed
    · simp [hall other hother] at hotheraccess
  have huncontested : entry.isContested = false := by
    simpa [hundisputed] using h.contested
  have hpreferred : preferred (members ++ [member]) =
      some (if member.accessesIndexer then entry.held else member) :=
    preferred_concat_of_eq_true h.held haccess
  by_cases hmember : member.accessesIndexer = true
  · have hclaim : entry.claim member = entry := by
      simp [Entry.claim, haccess, Member.kind_of_accessesIndexer hmember]
    rw [hclaim]
    exact ⟨by simpa [hmember] using hpreferred, by simp [huncontested, hundisputed']⟩
  · have hkind : member.kind = .property := by
      refine hshared ⟨entry.held, List.mem_append_left _ (mem_of_preferred h.held), haccess⟩
        member (List.mem_append_right _ (List.mem_singleton_self member)) ?_
      simpa using hmember
    have hne : entry.held ≠ member := by
      rintro rfl
      exact hmember haccess
    have hclaim : entry.claim member = { entry with held := member } := by
      simp [Entry.claim, hne, haccess, hkind]
    rw [hclaim]
    exact ⟨by simpa [hmember] using hpreferred, by simp [huncontested, hundisputed']⟩

/-- A claim while another member is held: it stays, and a third one contests the identifier. -/
theorem Entry.Reflects.claim_of_eq_false {members : List Member} {entry : Entry}
    (member : Member) (h : entry.Reflects members)
    (haccess : entry.held.accessesIndexer = false) :
    (entry.claim member).Reflects (members ++ [member]) := by
  have hmem := mem_of_preferred h.held
  have hpreferred := preferred_append_of_eq_false h.held haccess [member]
  by_cases heq : entry.held = member
  · have hclaim : entry.claim member = entry := by
      simp [Entry.claim, heq]
    rw [hclaim]
    refine ⟨hpreferred, h.contested.trans ?_⟩
    rw [disputed_concat_iff, or_iff_left_of_imp]
    rintro ⟨hmember, other, hother, hne, hotheraccess⟩
    exact ⟨other, hother, entry.held, hmem, heq ▸ hne, hotheraccess, haccess⟩
  · by_cases hmember : member.accessesIndexer = true
    · have hclaim : entry.claim member = entry := by
        simp [Entry.claim, hmember, Member.kind_of_accessesIndexer hmember]
      rw [hclaim]
      refine ⟨hpreferred, h.contested.trans ?_⟩
      rw [disputed_concat_iff, or_iff_left_of_imp]
      rintro ⟨hmember', -⟩
      simp [hmember] at hmember'
    · have hmember' : member.accessesIndexer = false := by
        simpa using hmember
      have hclaim : entry.claim member = { entry with isContested := true } := by
        simp [Entry.claim, heq, haccess, hmember']
      rw [hclaim]
      refine ⟨hpreferred, iff_of_true rfl ?_⟩
      rw [disputed_concat_iff]
      exact .inr ⟨hmember', entry.held, hmem, heq, haccess⟩

theorem Entry.afterAll_concat (prior : Option Entry) (members : List Member) (member : Member) :
    Entry.afterAll prior (members ++ [member]) =
      some (Entry.after (Entry.afterAll prior members) member) := by
  rw [afterAll, List.foldl_append]
  rfl

/-- Whatever the order of the claims, the entry reflects the members that made them. -/
theorem exists_afterAll_eq_some {members : List Member} (hne : members ≠ [])
    (hshared : AccessorsAmongProperties members) :
    ∃ entry, Entry.afterAll none members = some entry ∧ entry.Reflects members := by
  induction members using List.reverseRecOn with
  | nil => exact absurd rfl hne
  | append_singleton members member ih =>
      rw [Entry.afterAll_concat]
      refine ⟨_, rfl, ?_⟩
      by_cases hmembers : members = []
      · subst hmembers
        refine ⟨?_, ?_⟩
        · cases haccess : member.accessesIndexer <;>
            simp [preferred, Entry.after, Entry.afterAll, haccess]
        · simp [Entry.after, Entry.afterAll, Disputed]
      · have hprefix : AccessorsAmongProperties members := by
          rintro ⟨accessor, haccessor, haccess⟩ other hother
          exact hshared ⟨accessor, List.mem_append_left _ haccessor, haccess⟩ other
            (List.mem_append_left _ hother)
        obtain ⟨entry, hentry, hreflects⟩ := ih hmembers hprefix
        rw [hentry]
        cases haccess : entry.held.accessesIndexer with
        | false => exact hreflects.claim_of_eq_false member haccess
        | true => exact hreflects.claim_of_eq_true hshared haccess

theorem accessorsAmongProperties_claimants (settings : Settings) (members : List Member)
    (id : String) : AccessorsAmongProperties (claimants settings members id) := by
  rintro ⟨accessor, haccessor, haccess⟩ member hmember hmemberaccess
  obtain ⟨rule, hrule, -, htext⟩ :=
    Member.exists_outlineBy_of_id_eq_ok (mem_claimants.mp haccessor).2
  obtain ⟨rule', hrule', -, htext'⟩ :=
    Member.exists_outlineBy_of_id_eq_ok (mem_claimants.mp hmember).2
  have hid := IdString.toString_inj.mp (htext'.trans htext.symm)
  have hcategory : (member.outlineBy rule').category = (accessor.outlineBy rule).category :=
    congrArg IdString.category hid
  simp only [Member.category_outlineBy hrule', Member.category_outlineBy hrule,
    ← Member.accessesIndexer_iff, haccess, hmemberaccess, if_true, Bool.false_eq_true,
    if_false] at hcategory
  cases hkind : member.kind with
  | property => rfl
  | method | constructor | field | event | nestedType =>
      rw [hkind] at hrule'
      cases hrule'
      cases hcategory
  | unknown =>
      rw [hkind] at hrule'
      cases hrule'

structure Lists (settings : Settings) (members : List Member) (catalog : Catalog) : Prop where
  pairwise_ids : catalog.ids.Pairwise (· < ·)
  mem_ids_iff : ∀ id, id ∈ catalog.ids ↔ ∃ member ∈ members, member.id settings = .ok id
  size_eq : catalog.size = catalog.ids.length
  get?_eq : ∀ id, catalog.get? id = preferred (claimants settings members id)
  pairwise_contested : catalog.contested.Pairwise (· < ·)
  mem_contested_iff : ∀ id, id ∈ catalog.contested ↔ Disputed (claimants settings members id)

theorem entry_of_ofMembers {settings : Settings} {members : List Member} {catalog : Catalog}
    (h : ofMembers settings members = .ok catalog) (id : String) :
    (claimants settings members id = [] ∧ catalog.entries[id]? = none) ∨
      (claimants settings members id ≠ [] ∧ ∃ entry, catalog.entries[id]? = some entry ∧
        entry.Reflects (claimants settings members id)) := by
  rw [getElem?_entries_of_ofMembers h]
  by_cases hclaimed : claimants settings members id = []
  · exact .inl ⟨hclaimed, by rw [hclaimed]; rfl⟩
  · exact .inr ⟨hclaimed,
      exists_afterAll_eq_some hclaimed (accessorsAmongProperties_claimants settings members id)⟩

theorem lists_of_ofMembers {settings : Settings} {members : List Member} {catalog : Catalog}
    (h : ofMembers settings members = .ok catalog) : catalog.Lists settings members where
  pairwise_ids := catalog.pairwise_ids
  size_eq := catalog.length_ids.symm
  pairwise_contested := catalog.pairwise_contested
  mem_ids_iff id := by
    have hne : claimants settings members id ≠ [] ↔
        ∃ member ∈ members, member.id settings = .ok id := by
      simp only [← mem_claimants]
      exact ⟨List.exists_mem_of_ne_nil _, fun ⟨_, hmem⟩ => List.ne_nil_of_mem hmem⟩
    rw [catalog.mem_ids_iff, ← hne]
    rcases entry_of_ofMembers h id with ⟨hclaimed, hentry⟩ | ⟨hclaimed, entry, hentry, -⟩
    · simp [hclaimed, hentry]
    · simp [hclaimed, hentry]
  get?_eq id := by
    rcases entry_of_ofMembers h id with ⟨hclaimed, hentry⟩ | ⟨-, entry, hentry, hreflects⟩
    · simp [get?, hclaimed, hentry, preferred]
    · simp [get?, hentry, hreflects.held]
  mem_contested_iff id := by
    rw [catalog.mem_contested_iff]
    rcases entry_of_ofMembers h id with ⟨hclaimed, hentry⟩ | ⟨-, entry, hentry, hreflects⟩
    · simp [hclaimed, hentry, Disputed]
    · simp [hentry, hreflects.contested]

theorem disputed_congr {members members' : List Member}
    (hmem : ∀ member, member ∈ members' ↔ member ∈ members) :
    Disputed members' ↔ Disputed members := by
  simp only [Disputed, hmem]

theorem exists_preferred_eq_some {members : List Member}
    (h : ∃ member ∈ members, member.accessesIndexer = false) :
    ∃ held, preferred members = some held ∧ held.accessesIndexer = false := by
  obtain ⟨member, hmember, haccess⟩ := h
  cases hheld : preferred members with
  | none =>
      have hnone := List.find?_eq_none.mp (Option.or_eq_none_iff.mp hheld).1 member hmember
      simp [haccess] at hnone
  | some held =>
      refine ⟨held, rfl, ?_⟩
      by_contra hheldaccess
      have hall := forall_accessesIndexer_of_preferred hheld (by simpa using hheldaccess)
      simp [hall member hmember] at haccess

/-- Without a dispute the preferred member does not depend on the order of the members. -/
theorem preferred_congr {members members' : List Member}
    (hmem : ∀ member, member ∈ members' ↔ member ∈ members) (hundisputed : ¬ Disputed members)
    (h : ∃ member ∈ members, member.accessesIndexer = false) :
    preferred members' = preferred members := by
  have h' : ∃ member ∈ members', member.accessesIndexer = false := by
    simpa only [hmem] using h
  obtain ⟨held, hheld, haccess⟩ := exists_preferred_eq_some h
  obtain ⟨held', hheld', haccess'⟩ := exists_preferred_eq_some h'
  have heq : held' = held := by
    by_contra hne
    exact hundisputed ⟨held', (hmem held').mp (mem_of_preferred hheld'), held,
      mem_of_preferred hheld, hne, haccess', haccess⟩
  rw [hheld, hheld', heq]

/-- A catalog holds exactly what its members claim, and reordering or repeating these changes at
most which of the members that contest an identifier is held. -/
theorem lists_and_exists_of_ofMembers {settings : Settings} {members : List Member}
    {catalog : Catalog} (h : ofMembers settings members = .ok catalog) :
    catalog.Lists settings members ∧
      ∀ members' : List Member, (∀ member, member ∈ members' ↔ member ∈ members) →
        ∃ catalog', ofMembers settings members' = .ok catalog' ∧
          catalog'.ids = catalog.ids ∧ catalog'.contested = catalog.contested ∧
          ∀ id, id ∉ catalog.contested →
            (∃ member ∈ members, member.accessesIndexer = false ∧ member.id settings = .ok id) →
              catalog'.get? id = catalog.get? id := by
  have hlists := lists_of_ofMembers h
  refine ⟨hlists, fun members' hmem => ?_⟩
  have hall : ∀ member ∈ members', ∃ id, member.id settings = .ok id := fun member hmember =>
    (ofMembers_eq_ok_iff.mp h).1 member ((hmem member).mp hmember)
  have h' := ofMembers_eq_ok_iff.mpr ⟨hall, rfl⟩
  have hlists' := lists_of_ofMembers h'
  have hclaimants (id : String) (member : Member) :
      member ∈ claimants settings members' id ↔ member ∈ claimants settings members id := by
    rw [mem_claimants, mem_claimants, hmem]
  refine ⟨_, h', ?_, ?_, fun id hcontested hclaimed => ?_⟩
  · apply hlists'.pairwise_ids.eq_of_mem_iff hlists.pairwise_ids
    intro id
    rw [hlists'.mem_ids_iff, hlists.mem_ids_iff]
    simp only [hmem]
  · apply hlists'.pairwise_contested.eq_of_mem_iff hlists.pairwise_contested
    intro id
    rw [hlists'.mem_contested_iff, hlists.mem_contested_iff, disputed_congr (hclaimants id)]
  · rw [hlists'.get?_eq, hlists.get?_eq]
    refine preferred_congr (hclaimants id) (mt (hlists.mem_contested_iff id).mpr hcontested) ?_
    obtain ⟨member, hmember, haccess, hid⟩ := hclaimed
    exact ⟨member, mem_claimants.mpr ⟨hmember, hid⟩, haccess⟩

/-- A getter comes before its indexer and gives way to it; two methods take different types that
are spelled the same. -/
theorem lists_and_exists_of_ofMembers_grid :
    let grid := TypeUse.named "Sample" "Grid"
    let getter := ((Member.method grid "get_Item").withSpecialName).withParameter
      { type := .builtin .int32 }
    let indexer := (Member.property grid "Item").withGetter getter
    let put := (Member.method grid "Put").withParameter { type := .named "Sample.Grid" "Cell" }
    let put' := (Member.method grid "Put").withParameter
      { type := (TypeUse.named "" "Cell").inside grid }
    ∃ catalog, ofMembers .strict [getter, put, indexer, put'] = .ok catalog ∧
      catalog.Lists .strict [getter, put, indexer, put'] ∧
      "M:Sample.Grid.Put(Sample.Grid.Cell)" ∈ catalog.contested ∧
      ∃ catalog', ofMembers .strict [put', indexer, getter, put, indexer] = .ok catalog' ∧
        catalog'.ids = catalog.ids ∧ catalog'.contested = catalog.contested ∧
        catalog'.get? "P:Sample.Grid.Item(System.Int32)" = some indexer := by
  intro grid getter indexer put put'
  have hfaultless : firstFault? .strict [getter, put, indexer, put'] = none := by decide
  obtain ⟨catalog, hcatalog⟩ :
      ∃ catalog, ofMembers .strict [getter, put, indexer, put'] = .ok catalog :=
    ⟨_, by rw [ofMembers_eq_outcome, hfaultless, outcome_none]⟩
  obtain ⟨hlists, hreorder⟩ := lists_and_exists_of_ofMembers hcatalog
  have hput : "M:Sample.Grid.Put(Sample.Grid.Cell)" ∈ catalog.contested := by
    rw [hlists.mem_contested_iff]
    exact ⟨put, by decide, put', by decide, by decide, by decide, by decide⟩
  have hget : "P:Sample.Grid.Item(System.Int32)" ∉ catalog.contested := by
    rw [hlists.mem_contested_iff]
    decide
  have hmem (member : Member) : member ∈ [put', indexer, getter, put, indexer] ↔
      member ∈ [getter, put, indexer, put'] := by
    simp only [List.mem_cons, List.not_mem_nil, or_false]
    tauto
  obtain ⟨catalog', hcatalog', hids, hcontested, hheld⟩ := hreorder _ hmem
  refine ⟨catalog, hcatalog, hlists, hput, catalog', hcatalog', hids, hcontested, ?_⟩
  rw [hheld _ hget ⟨indexer, by decide, by decide, by decide⟩, hlists.get?_eq]
  decide

end Catalog

end CommentId
