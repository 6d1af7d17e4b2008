import CommentId.Proofs.Catalog.History
import Mathlib.Data.Set.List

/-!
Ways of filling a catalog with members: all at once, by the identifiers computed beforehand, one
member after the other, and in place among other catalogs. Main statement: they agree, and differ
only in what becomes of members without an identifier.
-/

namespace CommentId

namespace Catalog

/-- Adds a member if it has an identifier; otherwise the catalog stays as it is. -/
def offer (settings : Settings) (catalog : Catalog) (member : Member) : Catalog :=
  match catalog.add settings member with
  | .ok catalog' => catalog'
  | .error _ => catalog

def offerAll (settings : Settings) (catalog : Catalog) (members : List Member) : Catalog :=
  members.foldl (offer settings) catalog

/-- Adds members one by one to the catalog at one place of a shelf, until one of them has no
identifier. A shelf stands for the catalogs that a program has built so far: they are filled where
they are, so that the members in front of a fault stay in theirs. -/
def fillAt (settings : Settings) (place : Nat) :
    List Member → List Catalog → Except Fault Unit × List Catalog
  | [], shelf => (.ok (), shelf)
  | member :: members, shelf =>
      match member.id settings with
      | .ok id => fillAt settings place members (shelf.modify place (·.insert id member))
      | .error fault => (.error fault, shelf)

/-- Fills a new catalog at the end of a shelf, and tells its place if all members are in it. This is
how `ofMembers` runs in a program that holds other catalogs, any of which it could write to. -/
def shelve (settings : Settings) (members : List Member) (shelf : List Catalog) :
    Except Fault Nat × List Catalog :=
  let (result, shelf') := fillAt settings shelf.length members (shelf ++ [empty])
  (result.map fun _ => shelf.length, shelf')

variable {settings : Settings} {members : List Member} {catalog : Catalog}

section Offer

variable {member : Member} {id : String} {fault : Fault}

theorem offer_of_eq_ok (h : member.id settings = .ok id) (catalog : Catalog) :
    offer settings catalog member = catalog.insert id member := by
  simp only [offer, add, h]
  rfl

theorem offer_of_eq_error (h : member.id settings = .error fault) (catalog : Catalog) :
    offer settings catalog member = catalog := by
  simp only [offer, add, h]
  rfl

theorem claimsOf_cons_of_eq_ok (h : member.id settings = .ok id) (members : List Member) :
    claimsOf settings (member :: members) = (id, member) :: claimsOf settings members := by
  simp [claimsOf, h, Except.toOption]

theorem claimsOf_cons_of_eq_error (h : member.id settings = .error fault)
    (members : List Member) :
    claimsOf settings (member :: members) = claimsOf settings members := by
  simp [claimsOf, h, Except.toOption]

theorem offerAll_eq_claimAll (settings : Settings) (catalog : Catalog) (members : List Member) :
    offerAll settings catalog members = catalog.claimAll (claimsOf settings members) := by
  induction members generalizing catalog with
  | nil => rfl
  | cons member members ih =>
      change offerAll settings (offer settings catalog member) members = _
      rw [ih]
      cases hid : member.id settings with
      | error fault => rw [offer_of_eq_error hid, claimsOf_cons_of_eq_error hid]
      | ok id =>
          rw [offer_of_eq_ok hid, claimsOf_cons_of_eq_ok hid]
          rfl

theorem claimsOf_filter_isOk (settings : Settings) (members : List Member) :
    claimsOf settings (members.filter fun member => (member.id settings).isOk) =
      claimsOf settings members := by
  rw [claimsOf, List.filterMap_filter]
  apply List.filterMap_congr
  intro member _
  cases member.id settings <;> rfl

theorem ofMembers_filter_isOk (settings : Settings) (members : List Member) :
    ofMembers settings (members.filter fun member => (member.id settings).isOk) =
      .ok (offerAll settings empty members) := by
  rw [ofMembers_eq_ok_iff, claimsOf_filter_isOk, offerAll_eq_claimAll]
  refine ⟨fun member hmember => ?_, rfl⟩
  have hok : (member.id settings).isOk = true := (List.mem_filter.mp hmember).2
  cases hid : member.id settings with
  | error fault =>
      rw [hid] at hok
      cases hok
  | ok id => exact ⟨id, rfl⟩

theorem claimAll_append (catalog : Catalog) (claims claims' : List (String × Member)) :
    catalog.claimAll (claims ++ claims') = (catalog.claimAll claims).claimAll claims' :=
  List.foldl_append

theorem exists_offerAll_eq_of_append {more : List Member}
    (h : ofMembers settings (members ++ more) = .ok catalog) :
    ∃ front, ofMembers settings members = .ok front ∧ offerAll settings front more = catalog := by
  obtain ⟨hids, rfl⟩ := ofMembers_eq_ok_iff.mp h
  refine ⟨_, ofMembers_eq_ok_iff.mpr ⟨fun member hmember =>
    hids member (List.mem_append_left _ hmember), rfl⟩, ?_⟩
  rw [offerAll_eq_claimAll, ← claimAll_append, claimsOf, claimsOf, claimsOf,
    List.filterMap_append]

end Offer

section Identifiers

theorem exists_ids_eq_map_ok_iff :
    (∃ texts : List String, Member.ids settings members = texts.map .ok) ↔
      ∀ member ∈ members, ∃ id, member.id settings = .ok id := by
  have hrange := Set.range_list_map (Except.ok : String → Except Fault String)
  have hids := Set.ext_iff.mp hrange (Member.ids settings members)
  rw [Set.mem_range, Set.mem_ofPred, Member.ids, List.forall_mem_map] at hids
  simpa only [Member.ids, Set.mem_range, eq_comm] using hids

theorem claimsOf_eq_zip {texts : List String}
    (h : Member.ids settings members = texts.map .ok) :
    claimsOf settings members = texts.zip members := by
  induction members generalizing texts with
  | nil =>
      rw [List.zip_nil_right]
      rfl
  | cons member members ih =>
      obtain ⟨text, texts, rfl, htext, htexts⟩ := List.map_eq_cons_iff.mp h.symm
      rw [claimsOf_cons_of_eq_ok htext.symm, ih htexts.symm, List.zip_cons_cons]

/-- The first fault is the first entry among the results that is no identifier. -/
theorem firstFault?_eq_some_iff {fault : Fault} :
    firstFault? settings members = some fault ↔
      ∃ (texts : List String) (rest : List (Except Fault String)),
        Member.ids settings members = texts.map .ok ++ .error fault :: rest := by
  induction members with
  | nil => simp [firstFault?, Member.ids]
  | cons member members ih =>
      have hids : Member.ids settings (member :: members) =
          member.id settings :: Member.ids settings members := rfl
      rw [firstFault?, List.findSome?_cons, hids]
      cases member.id settings with
      | error fault' =>
          constructor
          · intro h
            cases h
            exact ⟨[], _, rfl⟩
          · rintro ⟨_ | ⟨text, texts⟩, rest, h⟩ <;> cases h
            rfl
      | ok id =>
          refine ih.trans ⟨?_, ?_⟩
          · rintro ⟨texts, rest, h⟩
            exact ⟨id :: texts, rest, congrArg (.ok id :: ·) h⟩
          · rintro ⟨_ | ⟨text, texts⟩, rest, h⟩
            · cases h
            · exact ⟨texts, rest, (List.cons.inj h).2⟩

end Identifiers

section Shelf

/-- Filling a catalog at the end of a shelf is filling it anywhere, and leaves the others alone. -/
theorem exists_fillAt_eq (settings : Settings) (members : List Member) (shelf : List Catalog)
    (catalog : Catalog) :
    ∃ last, fillAt settings shelf.length members (shelf ++ [catalog]) =
        ((members.foldlM (add settings) catalog).map fun _ => (), shelf ++ [last]) ∧
      ∀ filled, members.foldlM (add settings) catalog = .ok filled → last = filled := by
  induction members generalizing catalog with
  | nil => exact ⟨catalog, rfl, fun _ h => Except.ok.inj h⟩
  | cons member members ih =>
      rw [fillAt, List.foldlM_cons, add]
      cases member.id settings with
      | error fault =>
          refine ⟨catalog, rfl, fun filled h => ?_⟩
          cases h
      | ok id =>
          have hmodify : (shelf ++ [catalog]).modify shelf.length (·.insert id member) =
              shelf ++ [catalog.insert id member] := by
            rw [List.modify_eq_take_cons_drop (by simp)]
            simp
          dsimp only
          rw [hmodify]
          exact ih (catalog.insert id member)

end Shelf

/-- The ways of filling a catalog with these members agree with each other and with the results of
encoding them. -/
structure WaysAgree (settings : Settings) (members : List Member) : Prop where
  getElem?_ids : ∀ i : Nat,
    (Member.ids settings members)[i]? = members[i]?.map (Member.id settings)
  eq_ok_iff : ∀ catalog, ofMembers settings members = .ok catalog ↔
    ∃ texts : List String, Member.ids settings members = texts.map .ok ∧
      empty.claimAll (texts.zip members) = catalog
  eq_error_iff : ∀ fault, ofMembers settings members = .error fault ↔
    ∃ (texts : List String) (rest : List (Except Fault String)),
      Member.ids settings members = texts.map .ok ++ .error fault :: rest
  shelve_eq : ∀ shelf, ∃ last,
    shelve settings members shelf =
        ((ofMembers settings members).map fun _ => shelf.length, shelf ++ [last]) ∧
      ∀ catalog, ofMembers settings members = .ok catalog → last = catalog
  offerAll_eq : ofMembers settings (members.filter fun member => (member.id settings).isOk) =
    .ok (offerAll settings empty members)
  offerAll_more : ∀ more catalog, ofMembers settings (members ++ more) = .ok catalog →
    ∃ front, ofMembers settings members = .ok front ∧ offerAll settings front more = catalog

theorem waysAgree (settings : Settings) (members : List Member) :
    WaysAgree settings members where
  getElem?_ids i := by rw [Member.ids, List.getElem?_map]
  eq_ok_iff catalog := by
    rw [ofMembers_eq_ok_iff, ← exists_ids_eq_map_ok_iff]
    constructor
    · rintro ⟨⟨texts, htexts⟩, hcatalog⟩
      exact ⟨texts, htexts, claimsOf_eq_zip htexts ▸ hcatalog⟩
    · rintro ⟨texts, htexts, hcatalog⟩
      exact ⟨⟨texts, htexts⟩, claimsOf_eq_zip htexts ▸ hcatalog⟩
  eq_error_iff fault := by
    rw [ofMembers_eq_outcome, outcome_eq_error_iff, firstFault?_eq_some_iff]
  shelve_eq shelf := by
    obtain ⟨last, hfill, hlast⟩ := exists_fillAt_eq settings members shelf empty
    refine ⟨last, ?_, hlast⟩
    rw [shelve, hfill, ofMembers]
    cases members.foldlM (add settings) empty <;> rfl
  offerAll_eq := ofMembers_filter_isOk settings members
  offerAll_more _ _ := exists_offerAll_eq_of_append

/-- A member of no known kind stands between two methods that are spelled the same. -/
theorem waysAgree_gap :
    let grid := TypeUse.named "Sample" "Grid"
    let put := (Member.method grid "Put").withParameter { type := .named "Sample.Grid" "Cell" }
    let put' := (Member.method grid "Put").withParameter
      { type := (TypeUse.named "" "Cell").inside grid }
    let other : Member := { kind := .unknown, declaring := grid, name := "Other" }
    let claims := [("M:Sample.Grid.Put(Sample.Grid.Cell)", put),
      ("M:Sample.Grid.Put(Sample.Grid.Cell)", put')]
    WaysAgree .standard [put, other, put'] ∧
      ofMembers .standard [put, other, put'] =
        .error (.noRule "Other" "Sample.Grid" .unknown) ∧
      (∀ shelf, (shelve .standard [put, other, put'] shelf).2.take shelf.length = shelf) ∧
      offerAll .standard empty [put, other, put'] = empty.claimAll claims ∧
      ofMembers .standard ([put] ++ [put']) = .ok (empty.claimAll claims) ∧
      ∃ front, ofMembers .standard [put] = .ok front ∧
        offerAll .standard front [put'] = empty.claimAll claims := by
  intro grid put put' other claims
  have hgap := waysAgree .standard [put, other, put']
  have hpair : ofMembers .standard [put, put'] = .ok (empty.claimAll claims) :=
    ((waysAgree .standard [put, put']).eq_ok_iff _).mpr
      ⟨["M:Sample.Grid.Put(Sample.Grid.Cell)", "M:Sample.Grid.Put(Sample.Grid.Cell)"],
        by decide, rfl⟩
  have hfault : ofMembers .standard [put, other, put'] =
      .error (.noRule "Other" "Sample.Grid" .unknown) :=
    (hgap.eq_error_iff _).mpr ⟨["M:Sample.Grid.Put(Sample.Grid.Cell)"],
      [.ok "M:Sample.Grid.Put(Sample.Grid.Cell)"], by decide⟩
  have hfilter : [put, other, put'].filter (fun member => (member.id .standard).isOk) =
      [put, put'] := by
    decide
  refine ⟨hgap, hfault, fun shelf => ?_, ?_, hpair,
    (waysAgree .standard [put]).offerAll_more _ _ hpair⟩
  · obtain ⟨last, hshelve, -⟩ := hgap.shelve_eq shelf
    rw [hshelve]
    exact List.take_left
  · have hoffer := hgap.offerAll_eq
    rw [hfilter, hpair] at hoffer
    exact (Except.ok.inj hoffer).symm

end Catalog

end CommentId
