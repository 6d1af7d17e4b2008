import CommentId.Proofs.Catalog.History
import CommentId.Proofs.Member.Visit

/-!
Runs of claims to arbitrary identifiers. Main statement: what a catalog shows of an identifier can
be read off the members that claimed it, in their order. The first one is held; if it accesses an
indexer, the first property succeeds it, and no other member does.
-/

namespace CommentId

namespace Catalog

/-- The member held after these members claimed one identifier. -/
def successor? (members : List Member) : Option Member :=
  members.head?.bind fun first =>
    if first.accessesIndexer then
      (members.find? fun member => member.kind = .property).or (some first)
    else
      some first

/-- After the first claim of the member held, another one claims the identifier, neither of them
on behalf of an indexer. -/
def ContestedAfter (members : List Member) : Prop :=
  ∃ held ∈ successor? members, held.accessesIndexer = false ∧
    ∃ member ∈ members.drop (members.idxOf held + 1),
      member.accessesIndexer = false ∧ member ≠ held

instance (members : List Member) : Decidable (ContestedAfter members) :=
  inferInstanceAs (Decidable (∃ held ∈ successor? members, held.accessesIndexer = false ∧
    ∃ member ∈ members.drop (members.idxOf held + 1),
      member.accessesIndexer = false ∧ member ≠ held))

/-- A member that contests the claim of another one, if neither of them accesses an indexer. -/
def rivals (held member : Member) : Bool :=
  !member.accessesIndexer && member != held

section Step

variable {entry : Entry}

/-- A member that does not access an indexer stays, and any other such member contests it. -/
theorem Entry.claim_eq_of_lasting (haccess : entry.held.accessesIndexer = false)
    (member : Member) :
    entry.claim member =
      { entry with isContested := entry.isContested || rivals entry.held member } := by
  by_cases heq : entry.held = member
  · subst heq
    simp [Entry.claim, rivals]
  · by_cases hmember : member.accessesIndexer = true
    · simp [Entry.claim, rivals, hmember, Member.kind_of_accessesIndexer hmember]
    · simp [Entry.claim, rivals, heq, haccess, hmember, Ne.symm heq]

/-- A member that accesses an indexer gives way to a property, and nothing contests it. -/
theorem Entry.claim_eq_of_passing (haccess : entry.held.accessesIndexer = true)
    (member : Member) :
    entry.claim member =
      if member.kind = .property then { entry with held := member } else entry := by
  by_cases heq : entry.held = member
  · have hkind : member.kind = .method := Member.kind_of_accessesIndexer (heq ▸ haccess)
    simp [Entry.claim, heq, hkind]
  · simp [Entry.claim, heq, haccess]

end Step

section Run

theorem Entry.afterAll_of_lasting (entry : Entry) (haccess : entry.held.accessesIndexer = false)
    (members : List Member) :
    Entry.afterAll (some entry) members =
      some { entry with
        isContested := entry.isContested || members.any (rivals entry.held) } := by
  induction members generalizing entry with
  | nil => simp [Entry.afterAll]
  | cons member members ih =>
      change Entry.afterAll (some (entry.claim member)) members = _
      rw [Entry.claim_eq_of_lasting haccess, List.any_cons, ← Bool.or_assoc]
      exact ih _ haccess

theorem Entry.afterAll_of_passing {members : List Member} (entry : Entry)
    (haccess : entry.held.accessesIndexer = true)
    (hkinds : ∀ member ∈ members, member.kind ≠ .property) :
    Entry.afterAll (some entry) members = some entry := by
  induction members with
  | nil => rfl
  | cons member members ih =>
      have hkind : member.kind ≠ .property := hkinds member List.mem_cons_self
      change Entry.afterAll (some (entry.claim member)) members = _
      rw [Entry.claim_eq_of_passing haccess, if_neg hkind]
      exact ih fun other hother => hkinds other (List.mem_cons_of_mem _ hother)

theorem Entry.afterAll_append (prior : Option Entry) (members members' : List Member) :
    Entry.afterAll prior (members ++ members') =
      Entry.afterAll (Entry.afterAll prior members) members' :=
  List.foldl_append

end Run

/-- The entry is the one that these members leave behind. -/
structure Entry.Succeeds (members : List Member) (entry : Entry) : Prop where
  held : successor? members = some entry.held
  contested : entry.isContested = true ↔ ContestedAfter members

section Succeeds

variable {first property : Member} {members members' : List Member}

theorem contestedAfter_iff {held : Member} (hheld : successor? members = some held)
    (haccess : held.accessesIndexer = false) {before after : List Member}
    (hmembers : members = before ++ held :: after) (hfirst : held ∉ before) :
    ContestedAfter members ↔ after.any (rivals held) = true := by
  have hdrop : members.drop (members.idxOf held + 1) = after := by
    rw [hmembers, List.idxOf_append_of_notMem hfirst, List.idxOf_cons_self]
    simp
  simp [ContestedAfter, rivals, hheld, haccess, hdrop]

theorem not_contestedAfter {held : Member} (hheld : successor? members = some held)
    (haccess : held.accessesIndexer = true) : ¬ContestedAfter members := by
  simp [ContestedAfter, hheld, haccess]

theorem exists_succeeds_of_lasting (haccess : first.accessesIndexer = false)
    (members : List Member) :
    ∃ entry, Entry.afterAll none (first :: members) = some entry ∧
      entry.Succeeds (first :: members) := by
  have hheld : successor? (first :: members) = some first := by
    simp [successor?, haccess]
  refine ⟨_, Entry.afterAll_of_lasting { held := first } haccess members, hheld, ?_⟩
  rw [contestedAfter_iff hheld haccess (List.nil_append _).symm List.not_mem_nil, Bool.false_or]

theorem exists_succeeds_of_passing (haccess : first.accessesIndexer = true)
    (hkinds : ∀ member ∈ members, member.kind ≠ .property) :
    ∃ entry, Entry.afterAll none (first :: members) = some entry ∧
      entry.Succeeds (first :: members) := by
  have hheld : successor? (first :: members) = some first := by
    have hnone : (members.find? fun member => member.kind = .property) = none := by
      simpa using hkinds
    simp [successor?, Member.kind_of_accessesIndexer haccess, hnone]
  refine ⟨_, Entry.afterAll_of_passing { held := first } haccess hkinds, hheld, ?_⟩
  simp [not_contestedAfter hheld haccess]

theorem exists_succeeds_of_property (haccess : first.accessesIndexer = true)
    (hkinds : ∀ member ∈ members, member.kind ≠ .property) (hkind : property.kind = .property) :
    ∃ entry, Entry.afterAll none (first :: (members ++ property :: members')) = some entry ∧
      entry.Succeeds (first :: (members ++ property :: members')) := by
  have hmethod : first.kind = .method := Member.kind_of_accessesIndexer haccess
  have haccess' : property.accessesIndexer = false := by
    simp [Member.accessesIndexer, hkind]
  have hheld : successor? (first :: (members ++ property :: members')) = some property := by
    have hnone : (members.find? fun member => member.kind = .property) = none := by
      simpa using hkinds
    simp [successor?, haccess, hmethod, hnone, hkind]
  have hfirst : property ∉ first :: members := by
    rintro (_ | ⟨_, hmember⟩)
    · simp [hmethod] at hkind
    · exact hkinds property hmember hkind
  refine ⟨{ held := property, isContested := _ }, ?_, hheld,
    (contestedAfter_iff hheld haccess' rfl hfirst).symm⟩
  change Entry.afterAll (some { held := first }) (members ++ property :: members') = _
  rw [Entry.afterAll_append, Entry.afterAll_of_passing _ haccess hkinds]
  change Entry.afterAll (some (Entry.claim { held := first } property)) members' = _
  rw [Entry.claim_eq_of_passing haccess, if_pos hkind,
    Entry.afterAll_of_lasting _ haccess', Bool.false_or]

theorem exists_succeeds (hne : members ≠ []) :
    ∃ entry, Entry.afterAll none members = some entry ∧ entry.Succeeds members := by
  obtain ⟨first, rest, rfl⟩ := List.exists_cons_of_ne_nil hne
  cases haccess : first.accessesIndexer with
  | false => exact exists_succeeds_of_lasting haccess rest
  | true =>
      cases hfind : rest.find? fun member => member.kind = .property with
      | none =>
          exact exists_succeeds_of_passing haccess (by simpa using hfind)
      | some property =>
          obtain ⟨hkind, before, after, rfl, hkinds⟩ := List.find?_eq_some_iff_append.mp hfind
          exact exists_succeeds_of_property haccess (by simpa using hkinds) (by simpa using hkind)

end Succeeds

section Observation

variable {catalog catalog' : Catalog} {id : String}

/-- The two catalogs show the same of an identifier. -/
structure SameAt (id : String) (catalog catalog' : Catalog) : Prop where
  get?_eq : catalog.get? id = catalog'.get? id
  contains_eq : catalog.contains id = catalog'.contains id
  mem_ids_iff : id ∈ catalog.ids ↔ id ∈ catalog'.ids
  mem_contested_iff : id ∈ catalog.contested ↔ id ∈ catalog'.contested

theorem contains_eq_isSome (catalog : Catalog) (id : String) :
    catalog.contains id = (catalog.entries[id]?).isSome :=
  Std.TreeMap.contains_eq_isSome_getElem?

theorem isEmpty_iff_ids_eq_nil (catalog : Catalog) :
    catalog.isEmpty = true ↔ catalog.ids = [] := by
  rw [isEmpty, Std.TreeMap.isEmpty_eq_size_eq_zero, ← List.length_eq_zero_iff, length_ids, size]
  exact beq_iff_eq

theorem sameAt_of_getElem?_eq (h : catalog.entries[id]? = catalog'.entries[id]?) :
    SameAt id catalog catalog' where
  get?_eq := by rw [get?, get?, h]
  contains_eq := by rw [contains_eq_isSome, contains_eq_isSome, h]
  mem_ids_iff := by rw [mem_ids_iff, mem_ids_iff, h]
  mem_contested_iff := by rw [mem_contested_iff, mem_contested_iff, h]

theorem sameAt_claimAll (catalog : Catalog) {claims : List (String × Member)}
    (hother : ∀ claim ∈ claims, claim.1 ≠ id) : SameAt id (catalog.claimAll claims) catalog := by
  have hnone : claimsTo claims id = [] := by
    simpa [claimsTo] using hother
  apply sameAt_of_getElem?_eq
  rw [getElem?_entries_claimAll, hnone]
  rfl

/-- Further claims do not displace a member that does not access an indexer. -/
theorem get?_claimAll_of_lasting {held : Member} (hheld : catalog.get? id = some held)
    (haccess : held.accessesIndexer = false) (claims : List (String × Member)) :
    (catalog.claimAll claims).get? id = some held := by
  obtain ⟨entry, hentry, rfl⟩ := Option.map_eq_some_iff.mp hheld
  rw [get?, getElem?_entries_claimAll, hentry, Entry.afterAll_of_lasting entry haccess]
  rfl

end Observation

/-- The catalog shows what these claims left behind, and keeps to it. -/
structure Records (claims : List (String × Member)) (catalog : Catalog) : Prop where
  pairwise_ids : catalog.ids.Pairwise (· < ·)
  mem_ids_iff : ∀ id, id ∈ catalog.ids ↔ claimsTo claims id ≠ []
  size_eq : catalog.size = catalog.ids.length
  isEmpty_iff : catalog.isEmpty = true ↔ ∀ id, claimsTo claims id = []
  contains_iff : ∀ id, catalog.contains id = true ↔ claimsTo claims id ≠ []
  get?_eq : ∀ id, catalog.get? id = successor? (claimsTo claims id)
  pairwise_contested : catalog.contested.Pairwise (· < ·)
  mem_contested_iff : ∀ id, id ∈ catalog.contested ↔ ContestedAfter (claimsTo claims id)
  contested_subset : catalog.contested ⊆ catalog.ids
  lasts : ∀ id held, catalog.get? id = some held → held.accessesIndexer = false →
    ∀ more, (catalog.claimAll more).get? id = some held
  unaffected : ∀ id more, (∀ claim ∈ more, claim.1 ≠ id) → SameAt id (catalog.claimAll more) catalog

theorem entry_of_claimAll (claims : List (String × Member)) (id : String) :
    (claimsTo claims id = [] ∧ (empty.claimAll claims).entries[id]? = none) ∨
      (claimsTo claims id ≠ [] ∧ ∃ entry, (empty.claimAll claims).entries[id]? = some entry ∧
        entry.Succeeds (claimsTo claims id)) := by
  have hentry : (empty.claimAll claims).entries[id]? =
      Entry.afterAll none (claimsTo claims id) := by
    rw [getElem?_entries_claimAll]
    rfl
  rw [hentry]
  by_cases hclaimed : claimsTo claims id = []
  · exact .inl ⟨hclaimed, by rw [hclaimed]; rfl⟩
  · exact .inr ⟨hclaimed, exists_succeeds hclaimed⟩

theorem isSome_entry_iff (claims : List (String × Member)) (id : String) :
    ((empty.claimAll claims).entries[id]?).isSome = true ↔ claimsTo claims id ≠ [] := by
  rcases entry_of_claimAll claims id with ⟨hclaimed, hentry⟩ | ⟨hclaimed, entry, hentry, -⟩
  · simp [hclaimed, hentry]
  · simp [hclaimed, hentry]

theorem records_claimAll (claims : List (String × Member)) :
    (empty.claimAll claims).Records claims where
  pairwise_ids := pairwise_ids _
  mem_ids_iff id := by rw [mem_ids_iff, isSome_entry_iff]
  size_eq := (length_ids _).symm
  isEmpty_iff := by
    rw [isEmpty_iff_ids_eq_nil, List.eq_nil_iff_forall_not_mem]
    simp only [mem_ids_iff, isSome_entry_iff, not_not]
  contains_iff id := by rw [contains_eq_isSome, isSome_entry_iff]
  get?_eq id := by
    rcases entry_of_claimAll claims id with ⟨hclaimed, hentry⟩ | ⟨-, entry, hentry, hsucceeds⟩
    · simp [get?, hclaimed, hentry, successor?]
    · simp [get?, hentry, hsucceeds.held]
  pairwise_contested := pairwise_contested _
  mem_contested_iff id := by
    rw [mem_contested_iff]
    rcases entry_of_claimAll claims id with ⟨hclaimed, hentry⟩ | ⟨-, entry, hentry, hsucceeds⟩
    · simp [hclaimed, hentry, ContestedAfter, successor?]
    · simp [hentry, hsucceeds.contested]
  contested_subset id hid := by
    obtain ⟨entry, hentry, -⟩ := (mem_contested_iff _).mp hid
    rw [mem_ids_iff, hentry]
    rfl
  lasts _ _ hheld haccess := get?_claimAll_of_lasting hheld haccess
  unaffected _ _ hother := sameAt_claimAll _ hother

/-- A field is dropped while a getter is held, and contests the indexer that takes its place. -/
theorem records_claimAll_relay :
    let grid := TypeUse.named "Sample" "Grid"
    let getter := ((Member.method grid "get_Item").withSpecialName).withParameter
      { type := .builtin .int32 }
    let indexer := (Member.property grid "Item").withGetter getter
    let cells := Member.field grid "Cells"
    let claims := [("x", getter), ("x", cells), ("", cells), ("x", indexer), ("x", getter)]
    let catalog := empty.claimAll claims
    catalog.Records claims ∧
      catalog.get? "x" = some indexer ∧ indexer.accessesIndexer = false ∧
      "x" ∉ catalog.contested ∧
      "x" ∈ (empty.claimAll (claims ++ [("x", cells)])).contested ∧
      (catalog.claimAll [("x", cells)]).get? "x" = some indexer ∧
      SameAt "" (catalog.claimAll [("x", cells)]) catalog := by
  intro grid getter indexer cells claims catalog
  have hrecords : catalog.Records claims := records_claimAll claims
  have hheld : catalog.get? "x" = some indexer := by
    rw [hrecords.get?_eq]
    decide
  have haccess : indexer.accessesIndexer = false := by
    decide
  refine ⟨hrecords, hheld, haccess, ?_, ?_, hrecords.lasts _ _ hheld haccess _,
    hrecords.unaffected _ _ (by simp)⟩
  · rw [hrecords.mem_contested_iff]
    decide
  · rw [(records_claimAll _).mem_contested_iff]
    decide

end Catalog

end CommentId
