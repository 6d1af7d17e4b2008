import CommentId.Catalog
import CommentId.Proofs.Outcome
import Mathlib.Data.List.Sort

/-!
Catalogs by their history. Main statements: what a catalog holds under an identifier depends on
nothing but the members that claimed it, in their order; and filling a catalog either stops at the
first member without an identifier or makes the claims of all members.
-/

namespace CommentId.Catalog

/-! ### Reading a catalog -/

section Reading

variable (catalog : Catalog)

theorem pairwise_keys {β : Type} (entries : Std.TreeMap String β) :
    entries.keys.Pairwise (· < ·) := by
  have hordered : entries.keys.Pairwise fun a b => compare a b = .lt :=
    Std.TreeMap.ordered_keys
  exact hordered.imp fun hlt => compareOfLessAndEq_eq_lt.mp hlt

theorem pairwise_ids : catalog.ids.Pairwise (· < ·) :=
  pairwise_keys catalog.entries

theorem pairwise_contested : catalog.contested.Pairwise (· < ·) :=
  pairwise_keys _

theorem length_ids : catalog.ids.length = catalog.size :=
  Std.TreeMap.length_keys

theorem mem_ids_iff {id : String} : id ∈ catalog.ids ↔ (catalog.entries[id]?).isSome := by
  rw [ids, Std.TreeMap.mem_keys, Std.TreeMap.mem_iff_isSome_getElem?]

theorem mem_contested_iff {id : String} :
    id ∈ catalog.contested ↔
      ∃ entry, catalog.entries[id]? = some entry ∧ entry.isContested = true := by
  rw [contested, Std.TreeMap.mem_keys, Std.TreeMap.mem_iff_isSome_getElem?,
    Std.TreeMap.getElem?_filter', Option.isSome_filter, Option.any_eq_true]

end Reading

/-! ### Runs of claims -/

/-- The catalog after each of these members claims the identifier beside it. -/
def claimAll (catalog : Catalog) (claims : List (String × Member)) : Catalog :=
  claims.foldl (fun catalog claim => catalog.insert claim.1 claim.2) catalog

def Entry.after (prior : Option Entry) (member : Member) : Entry :=
  prior.elim { held := member } (·.claim member)

def Entry.afterAll (prior : Option Entry) (members : List Member) : Option Entry :=
  members.foldl (fun prior member => some (Entry.after prior member)) prior

def claimsTo (claims : List (String × Member)) (id : String) : List Member :=
  (claims.filter fun claim => claim.1 = id).map Prod.snd

theorem getElem?_entries_claimAll (catalog : Catalog) (claims : List (String × Member))
    (id : String) :
    (catalog.claimAll claims).entries[id]? =
      Entry.afterAll (catalog.entries[id]?) (claimsTo claims id) := by
  induction claims generalizing catalog with
  | nil => rfl
  | cons claim claims ih =>
      change ((catalog.insert claim.1 claim.2).claimAll claims).entries[id]? = _
      rw [ih, getElem?_entries_insert]
      by_cases hid : claim.1 = id
      · subst hid
        simp [claimsTo, Entry.afterAll, Entry.after]
      · simp [claimsTo, hid]

/-! ### Filling a catalog -/

/-- The claims of members to their own identifiers; a member without one makes none. -/
def claimsOf (settings : Settings) (members : List Member) : List (String × Member) :=
  members.filterMap fun member => (member.id settings).toOption.map (·, member)

def firstFault? (settings : Settings) (members : List Member) : Option Fault :=
  members.findSome? fun member =>
    match member.id settings with
    | .ok _ => none
    | .error fault => some fault

theorem foldlM_add_eq_outcome (settings : Settings) (members : List Member) (catalog : Catalog) :
    members.foldlM (add settings) catalog =
      outcome (firstFault? settings members) (catalog.claimAll (claimsOf settings members)) := by
  induction members generalizing catalog with
  | nil => rfl
  | cons member members ih =>
      rw [List.foldlM_cons, add, firstFault?, List.findSome?_cons, claimsOf, List.filterMap_cons]
      cases member.id settings with
      | error fault => rfl
      | ok id => exact ih (catalog.insert id member)

theorem ofMembers_eq_outcome (settings : Settings) (members : List Member) :
    ofMembers settings members =
      outcome (firstFault? settings members) (empty.claimAll (claimsOf settings members)) :=
  foldlM_add_eq_outcome settings members empty

theorem firstFault?_eq_none_iff {settings : Settings} {members : List Member} :
    firstFault? settings members = none ↔
      ∀ member ∈ members, ∃ id, member.id settings = .ok id := by
  rw [firstFault?, List.findSome?_eq_none_iff]
  apply forall₂_congr
  intro member _
  cases member.id settings <;> simp

theorem ofMembers_eq_ok_iff {settings : Settings} {members : List Member} {catalog : Catalog} :
    ofMembers settings members = .ok catalog ↔
      (∀ member ∈ members, ∃ id, member.id settings = .ok id) ∧
        empty.claimAll (claimsOf settings members) = catalog := by
  rw [ofMembers_eq_outcome, outcome_eq_ok_iff, firstFault?_eq_none_iff]

def claimants (settings : Settings) (members : List Member) (id : String) : List Member :=
  members.filter fun member => member.id settings = .ok id

theorem mem_claimants {settings : Settings} {members : List Member} {id : String}
    {member : Member} :
    member ∈ claimants settings members id ↔ member ∈ members ∧ member.id settings = .ok id := by
  simp [claimants]

theorem claimsTo_claimsOf (settings : Settings) (members : List Member) (id : String) :
    claimsTo (claimsOf settings members) id = claimants settings members id := by
  induction members with
  | nil => rfl
  | cons member members ih =>
      rw [claimsOf, List.filterMap_cons, claimants, List.filter_cons]
      cases hid : member.id settings with
      | error fault => simpa [claimsOf, claimants, Except.toOption] using ih
      | ok id' =>
          by_cases heq : id' = id
          · simpa [claimsTo, claimsOf, claimants, Except.toOption, heq] using ih
          · simpa [claimsTo, claimsOf, claimants, Except.toOption, heq] using ih

theorem getElem?_entries_of_ofMembers {settings : Settings} {members : List Member}
    {catalog : Catalog} (h : ofMembers settings members = .ok catalog) (id : String) :
    catalog.entries[id]? = Entry.afterAll none (claimants settings members id) := by
  obtain ⟨-, rfl⟩ := ofMembers_eq_ok_iff.mp h
  rw [getElem?_entries_claimAll, claimsTo_claimsOf]
  rfl

end CommentId.Catalog
