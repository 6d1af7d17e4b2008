import CommentId.Proofs.Member.Visit
import CommentId.Proofs.Signature.Readability
import CommentId.Proofs.TypeUse.Plainness

/-!
Uniqueness of identifiers. Main statement: members whose names are plain have the same identifier
exactly when it shows the same of both, under whatever settings the two were encoded.
-/

namespace CommentId

namespace Member

/-- The kind of element that an identifier speaks of: accessors of an indexer stand for it. -/
def documentedKind (member : Member) : Kind :=
  if member.IsIndexerAccessor then .property else member.kind

/-- The characters that a name must do without: those that stand around it, and the one that opens
the names of constructors. -/
def nameMarks : List Char := '#' :: Signature.nameMarks

/-- All names that the identifier shows are plain. Constructors are not shown under their own. -/
structure IsPlain (settings : Settings) (member : Member) : Prop where
  visits : ∀ visit ∈ member.visits settings, visit.IsPlain Signature.marks
  name : member.kind ≠ .constructor → ∀ c ∈ member.name.toList, c ∉ nameMarks

instance (settings : Settings) (member : Member) : Decidable (member.IsPlain settings) :=
  have := List.decidableBAll (· ∉ nameMarks) member.name.toList
  decidable_of_iff
    ((∀ visit ∈ member.visits settings, visit.IsPlain Signature.marks) ∧
      (member.kind ≠ .constructor → ∀ c ∈ member.name.toList, c ∉ nameMarks))
    ⟨fun ⟨hvisits, hname⟩ => ⟨hvisits, hname⟩, fun h => ⟨h.visits, h.name⟩⟩

section Outline

variable {settings : Settings} {member : Member} {rule : Rule}

theorem visit_mem_visits {place : Place} {visit : TypeUse.Visit}
    (hrule : member.kind.rule? = some rule) (hplace : place ∈ member.placesBy rule)
    (hvisit : visit ∈ place.visits settings.maxDepth) : visit ∈ member.visits settings := by
  rw [visits, hrule]
  exact List.mem_flatMap_of_mem hplace hvisit

theorem fault?_of_faults_eq_nil (hfaults : member.faults settings = []) :
    ∀ visit ∈ member.visits settings, visit.fault? settings = none := by
  rw [faults, List.append_eq_nil_iff, List.filterMap_eq_nil_iff] at hfaults
  exact hfaults.1

theorem isPlain_outline_of_mem_placesBy (hplain : member.IsPlain settings)
    (hrule : member.kind.rule? = some rule) (hfaults : member.faults settings = [])
    {place : Place} (hplace : place ∈ member.placesBy rule) :
    Signature.PlainShape place.outline := by
  have hvisits {visit : TypeUse.Visit} (hvisit : visit ∈ place.visits settings.maxDepth) :
      visit ∈ member.visits settings := visit_mem_visits hrule hplace hvisit
  exact TypeUse.isPlain_outline (by decide)
    (fun visit hvisit => hplain.visits visit (hvisits hvisit))
    (fun visit hvisit => fault?_of_faults_eq_nil hfaults visit (hvisits hvisit))

theorem plainName_of_ne (hplain : member.IsPlain settings) (hkind : member.kind ≠ .constructor) :
    Signature.PlainName member.name := by
  intro c hc hmark
  exact hplain.name hkind c hc (List.mem_cons_of_mem _ hmark)

theorem plainName_shownName (hplain : member.IsPlain settings) :
    Signature.PlainName member.shownName := by
  by_cases hkind : member.kind = .constructor
  · rw [shownName, hkind]
    dsimp only
    split <;> decide
  by_cases haccess : member.IsIndexerAccessor
  · rw [shownName_of_isIndexerAccessor haccess]
    decide
  · rw [shownName_of_not_isIndexerAccessor hkind haccess]
    exact plainName_of_ne hplain hkind

theorem plainName_of_rule (hplain : member.IsPlain settings)
    (hrule : member.kind.rule? = some rule) (hne : rule ≠ .method) :
    Signature.PlainName member.name := by
  refine plainName_of_ne hplain ?_
  intro hkind
  rw [hkind] at hrule
  exact hne (Option.some.inj hrule).symm

theorem isPlain_outlineBy (hplain : member.IsPlain settings)
    (hrule : member.kind.rule? = some rule) (hfaults : member.faults settings = []) :
    (member.outlineBy rule).IsPlain := by
  have hplace {place : Place} (hmem : place ∈ member.placesBy rule) :=
    isPlain_outline_of_mem_placesBy hplain hrule hfaults hmem
  cases rule with
  | method =>
      have howner := hplace List.mem_cons_self
      have hparameters : ∀ shape ∈ (member.parameterPlaces member.spelledParameters).map
          Place.outline, Signature.PlainShape shape := by
        intro shape hshape
        obtain ⟨place, hmem, rfl⟩ := List.mem_map.mp hshape
        exact hplace (List.mem_cons_of_mem _ (List.mem_append_left _ hmem))
      have hresult : ∀ shape, member.resultPlace?.map Place.outline = some shape →
          Signature.PlainShape shape := by
        intro shape hshape
        obtain ⟨place, hmem, rfl⟩ := Option.map_eq_some_iff.mp hshape
        exact hplace (List.mem_cons_of_mem _ (List.mem_append_right _ (Option.mem_toList.mpr hmem)))
      rw [outlineBy]
      split
      · exact .property howner (plainName_shownName hplain) hparameters
      · exact .method howner (plainName_shownName hplain) hparameters hresult
  | property =>
      refine .property (hplace List.mem_cons_self)
        (plainName_of_rule hplain hrule (by decide)) ?_
      intro shape hshape
      obtain ⟨place, hmem, rfl⟩ := List.mem_map.mp hshape
      exact hplace (List.mem_cons_of_mem _ hmem)
  | field =>
      exact .field (hplace List.mem_cons_self) (plainName_of_rule hplain hrule (by decide))
  | event =>
      exact .event (hplace List.mem_cons_self) (plainName_of_rule hplain hrule (by decide))
  | nestedType => exact .type (hplace List.mem_cons_self)

/-- The kind that a category and a name tell: of what is spelled like a method, constructors have
a hash in front of their name. -/
def Kind.ofShown (name : String) : Category → Kind
  | .method => if '#' ∈ name.toList then .constructor else .method
  | .field => .field
  | .property => .property
  | .event => .event
  | .type => .nestedType
  | .ns => .unknown

theorem documentedKind_eq_ofShown (hplain : member.IsPlain settings)
    (hrule : member.kind.rule? = some rule) :
    member.documentedKind = Kind.ofShown member.shownName (member.outlineBy rule).category := by
  rw [category_outlineBy hrule, documentedKind]
  by_cases haccess : member.IsIndexerAccessor
  · rw [if_pos haccess, if_pos haccess]
    rfl
  · rw [if_neg haccess, if_neg haccess]
    -- without the hash no method is taken for a constructor
    have hname (hkind : member.kind = .method) : '#' ∉ member.shownName.toList := by
      have hne : member.kind ≠ .constructor := by
        rw [hkind]
        decide
      rw [shownName_of_not_isIndexerAccessor hne haccess]
      exact fun hmem => hplain.name hne '#' hmem List.mem_cons_self
    cases hkind : member.kind with
    | method =>
        rw [hkind] at hrule
        cases hrule
        simp [Rule.category, Kind.ofShown, hname hkind]
    | constructor =>
        rw [hkind] at hrule
        cases hrule
        simp [Rule.category, Kind.ofShown, hash_mem_shownName hkind]
    | field | property | event | nestedType =>
        rw [hkind] at hrule
        cases hrule
        rfl
    | unknown =>
        rw [hkind] at hrule
        cases hrule

theorem outline_nestedPlace (member : Member) :
    member.nestedPlace.outline = .named (member.nestedTypeUse.path member.name) [] := by
  rw [nestedPlace_eq, Place.outline, TypeUse.outline_eq]
  rfl

/-- The name of a nested type stands behind the last dot of its path. -/
theorem exists_path_eq (hplain : member.IsPlain settings)
    (hrule : member.kind.rule? = some .nestedType) :
    ∃ outer : String, member.nestedTypeUse.path member.name = outer ++ "." ++ member.name := by
  have hvisit : ⟨member.nestedTypeUse.ownPlace.scope, 0, member.nestedTypeUse⟩ ∈
      member.visits settings :=
    visit_mem_visits hrule List.mem_cons_self (TypeUse.self_mem_visits ..)
  have hpath := TypeUse.path_of_isPlain (by decide) (hplain.visits _ hvisit) rfl
  have hqualifiers : member.nestedTypeUse.qualifiers ≠ [] :=
    List.append_ne_nil_of_right_ne_nil _ (List.cons_ne_nil member.declaring.name [])
  refine ⟨".".intercalate member.nestedTypeUse.qualifiers, ?_⟩
  rw [String.intercalate_append_of_ne_nil hqualifiers (List.cons_ne_nil _ _),
    String.intercalate_singleton] at hpath
  exact hpath

end Outline

theorem name_eq_of_path_eq {settings settings' : Settings} {member member' : Member}
    (hplain : member.IsPlain settings) (hplain' : member'.IsPlain settings')
    (hrule : member.kind.rule? = some .nestedType)
    (hrule' : member'.kind.rule? = some .nestedType)
    (h : member.nestedTypeUse.path member.name = member'.nestedTypeUse.path member'.name) :
    member.name = member'.name := by
  have hdot {settings : Settings} {member : Member} (hplain : member.IsPlain settings)
      (hrule : member.kind.rule? = some .nestedType) : '.' ∉ member.name.toList := by
    intro hmem
    exact plainName_of_rule hplain hrule (by decide) '.' hmem (by decide)
  obtain ⟨outer, hpath⟩ := exists_path_eq hplain hrule
  obtain ⟨outer', hpath'⟩ := exists_path_eq hplain' hrule'
  have hchars := congrArg String.toList (hpath.symm.trans (h.trans hpath'))
  have hsplit (outer name : String) :
      (outer ++ "." ++ name).toList = outer.toList ++ '.' :: name.toList := by
    simp [String.toList_append]
  rw [hsplit, hsplit] at hchars
  have htail := (Bracketing.append_cons_inj_of_last (hdot hplain hrule) (hdot hplain' hrule')
    hchars).2
  exact String.toList_inj.mp htail

def nameIn? : Signature → Option String
  | .type _ => none
  | .method _ name _ _ _ | .property _ name _ | .field _ name | .event _ name => some name

theorem nameIn?_outlineBy {member : Member} {rule : Rule}
    (hrule : member.kind.rule? = some rule) (hne : rule ≠ .nestedType) :
    nameIn? (member.outlineBy rule) = some member.shownName := by
  by_cases haccess : member.IsIndexerAccessor
  · obtain rfl := rule_of_isIndexerAccessor haccess hrule
    simp [outlineBy, haccess, nameIn?]
  · cases hkind : member.kind with
    | method | constructor =>
        rw [hkind] at hrule
        cases hrule
        simp [outlineBy, haccess, nameIn?]
    | field | property | event =>
        rw [hkind] at hrule
        cases hrule
        have hname := shownName_of_not_isIndexerAccessor (by simp [hkind]) haccess
        simp [outlineBy, nameIn?, hname]
    | nestedType =>
        rw [hkind] at hrule
        exact absurd (Option.some.inj hrule).symm hne
    | unknown =>
        rw [hkind] at hrule
        cases hrule

theorem shownName_of_nestedType {member : Member}
    (hrule : member.kind.rule? = some .nestedType) : member.shownName = member.name := by
  have hkind := Kind.rule?_eq_nestedType_iff.mp hrule
  exact shownName_of_not_isIndexerAccessor (by simp [hkind]) (by simp [IsIndexerAccessor, hkind])

theorem shownName_eq_of_outlineBy_eq {settings settings' : Settings} {member member' : Member}
    {rule rule' : Rule} (hplain : member.IsPlain settings) (hplain' : member'.IsPlain settings')
    (hrule : member.kind.rule? = some rule) (hrule' : member'.kind.rule? = some rule')
    (h : member.outlineBy rule = member'.outlineBy rule') :
    member.shownName = member'.shownName := by
  by_cases hnested : rule = .nestedType <;> by_cases hnested' : rule' = .nestedType
  -- the signature of a nested type has no place for its name but the end of the path
  · subst hnested hnested'
    rw [shownName_of_nestedType hrule, shownName_of_nestedType hrule']
    simp only [outlineBy, outline_nestedPlace, Signature.type.injEq, Shape.named.injEq] at h
    exact name_eq_of_path_eq hplain hplain' hrule hrule' h.1
  · subst hnested
    have hname := congrArg nameIn? h
    rw [nameIn?_outlineBy hrule' hnested'] at hname
    cases hname
  · subst hnested'
    have hname := congrArg nameIn? h
    rw [nameIn?_outlineBy hrule hnested] at hname
    cases hname
  · have hname := congrArg nameIn? h
    rw [nameIn?_outlineBy hrule hnested, nameIn?_outlineBy hrule' hnested'] at hname
    exact Option.some.inj hname

/-- Two identifiers are equal exactly when they show the same: an element of the same kind, under
the same name, with the same owner, generic arity, parameters and result. -/
theorem id_eq_id_iff {settings settings' : Settings} {member member' : Member}
    {text text' : String} (hplain : member.IsPlain settings) (hplain' : member'.IsPlain settings')
    (hid : member.id settings = .ok text) (hid' : member'.id settings' = .ok text') :
    text = text' ↔
      member.documentedKind = member'.documentedKind ∧
        member.shownName = member'.shownName ∧ member.outline? = member'.outline? := by
  obtain ⟨rule, hrule, hfaults, rfl⟩ := exists_outlineBy_of_id_eq_ok hid
  obtain ⟨rule', hrule', hfaults', rfl⟩ := exists_outlineBy_of_id_eq_ok hid'
  rw [outline?, outline?, hrule, hrule', Option.map_some, Option.map_some, Option.some.injEq]
  constructor
  · intro htext
    have houtline := Signature.render_injective (isPlain_outlineBy hplain hrule hfaults)
      (isPlain_outlineBy hplain' hrule' hfaults') htext
    have hname := shownName_eq_of_outlineBy_eq hplain hplain' hrule hrule' houtline
    refine ⟨?_, hname, houtline⟩
    rw [documentedKind_eq_ofShown hplain hrule, documentedKind_eq_ofShown hplain' hrule', hname,
      houtline]
  · rintro ⟨-, -, houtline⟩
    rw [houtline]

/-- An indexer and its getter show the same, and two methods differ only in the mark of a parameter
that one of them passes out. -/
theorem outline_eq_of_id_eq_out :
    let grid := (TypeUse.named "Sample" "Grid`1").definedOver ["T"]
    let span := (TypeUse.named "System" "Span").appliedTo
      [.array (.genericParameter "T" 0) 2, .genericParameter "U" 0]
    let getter := (((Member.method grid "get_Item").withSpecialName).withTypeParameters
      ["U"]).withParameter { type := span, isOut := true }
    let indexer := (Member.property grid "Item").withGetter getter
    let map (isOut : Bool) := ((Member.method grid "Map").withTypeParameters ["U"]).withParameter
      { type := span, isOut }
    indexer.IsPlain .standard ∧ getter.IsPlain .strict ∧
      (map true).IsPlain .strict ∧ (map false).IsPlain .standard ∧
      indexer.id .standard = .ok "P:Sample.Grid`1.Item(System.Span\x7b`0[0:,0:],``0\x7d@)" ∧
      getter.id .strict = .ok "P:Sample.Grid`1.Item(System.Span\x7b`0[0:,0:],``0\x7d@)" ∧
      (map true).id .strict = .ok "M:Sample.Grid`1.Map``1(System.Span\x7b`0[0:,0:],``0\x7d@)" ∧
      (map false).id .standard = .ok "M:Sample.Grid`1.Map``1(System.Span\x7b`0[0:,0:],``0\x7d)" ∧
      (indexer.documentedKind = getter.documentedKind ∧ indexer.shownName = getter.shownName ∧
        indexer.outline? = getter.outline?) ∧
      (map true).outline? ≠ (map false).outline? := by
  intro grid span getter indexer map
  have hindexer : indexer.IsPlain .standard := by decide
  have hgetter : getter.IsPlain .strict := by decide
  have hout : (map true).IsPlain .strict := by decide
  have hvalue : (map false).IsPlain .standard := by decide
  have hid : indexer.id .standard =
      .ok "P:Sample.Grid`1.Item(System.Span\x7b`0[0:,0:],``0\x7d@)" := by
    decide
  have hid' : getter.id .strict =
      .ok "P:Sample.Grid`1.Item(System.Span\x7b`0[0:,0:],``0\x7d@)" := by
    decide
  have hmap : (map true).id .strict =
      .ok "M:Sample.Grid`1.Map``1(System.Span\x7b`0[0:,0:],``0\x7d@)" := by
    decide
  have hmap' : (map false).id .standard =
      .ok "M:Sample.Grid`1.Map``1(System.Span\x7b`0[0:,0:],``0\x7d)" := by
    decide
  have hshown := not_congr (id_eq_id_iff hout hvalue hmap hmap')
  refine ⟨hindexer, hgetter, hout, hvalue, hid, hid', hmap, hmap',
    (id_eq_id_iff hindexer hgetter hid hid').mp rfl, fun houtline => ?_⟩
  exact hshown.mp (by decide) ⟨rfl, rfl, houtline⟩

end Member

end CommentId
