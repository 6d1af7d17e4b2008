import CommentId.Proofs.Reading
import CommentId.Proofs.Request
import CommentId.Proofs.TypeUse.Plainness

/-!
The categories of identifiers. Main statement: every identifier of an element reads back, just as
it was written, in the category of the element; a type of which nothing is shown is the only one
whose identifier cannot be read.
-/

namespace CommentId

open IdString (parse)

/-- The text is an identifier in this category, with a body, in its written form. -/
def IdString.ReadsAs (text : String) (category : Category) : Prop :=
  ∃ id, parse text = .ok id ∧ id.toString = text ∧ id.body ≠ "" ∧ id.category = category

theorem Signature.readsAs_render {signature : Signature} (hbody : signature.body ≠ "") :
    IdString.ReadsAs signature.render signature.category :=
  ⟨signature.id, IdString.parse_toString signature.id hbody, rfl, hbody, rfl⟩

theorem namespaceId_eq_ok_iff {ns text : String} :
    namespaceId ns = .ok text ↔ ns ≠ "" ∧ text = (IdString.mk .ns ns).toString := by
  by_cases hns : ns = ""
  · simp [namespaceId, hns]
  · simp [namespaceId, hns, eq_comm]

namespace TypeUse

/-- The text of the type is empty: its path is made of markers alone, and nothing else is shown. -/
structure ShowsNothing (scope : Scope) (type : TypeUse) : Prop where
  form : type.form = .named
  declaring : type.declaring = none
  ns : type.ns = ""
  isReference : type.isReference = false
  name : ∀ c ∈ type.name.toList, c = '&'
  not_showsArguments : ¬type.ShowsArguments scope

instance (scope : Scope) (type : TypeUse) : Decidable (type.ShowsNothing scope) :=
  decidable_of_iff
    (type.form = .named ∧ type.declaring = none ∧ type.ns = "" ∧ type.isReference = false ∧
      type.name.toList.all (· == '&') = true ∧ ¬type.ShowsArguments scope)
    ⟨fun ⟨hform, hdeclaring, hns, hreference, hname, hshows⟩ =>
      ⟨hform, hdeclaring, hns, hreference, by simpa using hname, hshows⟩,
      fun h => ⟨h.form, h.declaring, h.ns, h.isReference, by simpa using h.name,
        h.not_showsArguments⟩⟩

theorem withoutMarkers_eq_empty_iff {text : String} :
    withoutMarkers text = "" ↔ ∀ c ∈ text.toList, c = '&' := by
  rw [withoutMarkers, ← String.toList_inj, String.toList_ofList, String.toList_empty,
    List.filter_eq_nil_iff]
  simp

theorem dot_mem_intercalate (text : String) {texts : List String} (h : texts ≠ []) :
    '.' ∈ (".".intercalate (text :: texts)).toList := by
  obtain ⟨next, rest, rfl⟩ := List.exists_cons_of_ne_nil h
  rw [String.intercalate_cons_cons]
  simp

theorem qualifiers_eq_nil_iff {type : TypeUse} :
    type.qualifiers = [] ↔ type.ns = "" ∧ type.declaring = none := by
  rw [qualifiers, List.append_eq_nil_iff, ← enclosingNs_eq_nearestNs, enclosingNs_eq]
  by_cases hns : type.ns = ""
  · cases hdeclaring : type.declaring <;> simp [hns]
  · simp [hns]

theorem path_eq_empty_iff {type : TypeUse} {name : String} :
    type.path name = "" ↔
      type.ns = "" ∧ type.declaring = none ∧ ∀ c ∈ name.toList, c = '&' := by
  rw [path_eq, withoutMarkers_eq_empty_iff, ← and_assoc, ← qualifiers_eq_nil_iff]
  cases hqualifiers : type.qualifiers with
  | nil => simp
  | cons text texts =>
      have hdot : '.' ∈ (".".intercalate (text :: (texts ++ [name]))).toList :=
        dot_mem_intercalate text (by simp)
      refine iff_of_false (fun hmarkers => ?_) (fun h => by simp at h)
      exact absurd (hmarkers '.' hdot) (by decide)

theorem outline_eq_named_nil_iff {scope : Scope} {type : TypeUse}
    (hform : type.form ≠ .functionPointer) :
    type.outline scope = .named "" [] ↔ type.ShowsNothing scope := by
  rw [outline_eq]
  constructor
  · intro h
    have hreference : type.isReference = false := by
      cases hreference : type.isReference with
      | true => simp [hreference, Shape.referenceIf] at h
      | false => rfl
    rw [hreference, Shape.referenceIf] at h
    cases hnamed : type.form with
    | named =>
        by_cases hshows : type.ShowsArguments scope
        · simp [hnamed, showsArguments_iff, hshows, hshows.1] at h
        · have hpath : type.path type.name = "" := by
            simpa [hnamed, showsArguments_iff, hshows] using h
          obtain ⟨hns, hdeclaring, hname⟩ := path_eq_empty_iff.mp hpath
          exact ⟨hnamed, hdeclaring, hns, hreference, hname, hshows⟩
    | genericParameter position => simp [hnamed] at h
    | array element rank => simp [hnamed] at h
    | pointer element => simp [hnamed] at h
    | functionPointer => exact absurd hnamed hform
  · intro h
    have hpath : type.path type.name = "" :=
      path_eq_empty_iff.mpr ⟨h.ns, h.declaring, h.name⟩
    simp [h.isReference, h.form, showsArguments_iff, h.not_showsArguments, hpath,
      Shape.referenceIf]

end TypeUse

/-- Only an empty path without arguments has no text. -/
theorem Shape.render_eq_empty_iff {shape : Shape} : shape.render = "" ↔ shape = .named "" [] := by
  cases shape with
  | named path arguments =>
      cases arguments with
      | nil => simp
      | cons argument arguments => simp [enclose]
  | genericParameter level position => cases level <;> simp [render, Level.ticks]
  | array element rank =>
      by_cases hrank : rank = 1 <;> simp [render, dimensions, hrank, enclose]
  | pointer element => simp [render]
  | reference target => simp [render]

namespace Member

/-- The category in which the identifiers of a member go. -/
def category? (member : Member) : Option Category :=
  match member.kind with
  | .method => some (if member.IsIndexerAccessor then .property else .method)
  | .constructor => some .method
  | .field => some .field
  | .property => some .property
  | .event => some .event
  | .nestedType => some .type
  | .unknown => none

theorem category?_eq {member : Member} {rule : Rule} (hrule : member.kind.rule? = some rule) :
    member.category? = some (member.outlineBy rule).category := by
  by_cases haccess : member.IsIndexerAccessor
  · simp [category?, category_outlineBy hrule, haccess.1, haccess]
  · rw [category_outlineBy hrule, if_neg haccess, category?]
    cases hkind : member.kind <;> rw [hkind] at hrule <;> cases hrule <;>
      simp [haccess, Rule.category]

theorem body_outlineBy_ne_empty (member : Member) (rule : Rule) :
    (member.outlineBy rule).body ≠ "" := by
  by_cases hnested : rule = .nestedType
  · subst hnested
    -- the nearest owner of a nested type is spelled out, so that a dot stands behind it
    intro hempty
    have hform : member.nestedTypeUse.form ≠ .functionPointer := by
      simp [nestedTypeUse, TypeUse.inside, TypeUse.named]
    have houtline := Shape.render_eq_empty_iff.mp hempty
    cases ((TypeUse.outline_eq_named_nil_iff hform).mp houtline).declaring
  · apply Signature.body_ne_empty
    cases rule with
    | method =>
        by_cases haccess : member.IsIndexerAccessor <;>
          simp [outlineBy, haccess, Signature.category]
    | nestedType => exact absurd rfl hnested
    | property | field | event => simp [outlineBy, Signature.category]

theorem readsAs_of_id_eq_ok {settings : Settings} {member : Member} {text : String}
    (h : member.id settings = .ok text) :
    ∃ category ∈ member.category?, IdString.ReadsAs text category := by
  obtain ⟨rule, hrule, -, rfl⟩ := exists_outlineBy_of_id_eq_ok h
  exact ⟨_, category?_eq hrule, Signature.readsAs_render (member.body_outlineBy_ne_empty rule)⟩

theorem rule?_of_idAs_eq_ok {settings : Settings} {rule : Rule} {member : Member} {text : String}
    (h : member.idAs settings rule = .ok text) : member.kind.rule? = some rule := by
  by_contra hrule
  rw [idAs, signatureAs_eq_ite, if_neg hrule] at h
  cases h

end Member

namespace TypeUse

theorem form_ne_functionPointer_of_id_eq_ok {settings : Settings} {type : TypeUse} {text : String}
    (h : type.id settings = .ok text) : type.form ≠ .functionPointer := by
  intro hform
  rw [id_eq_outcome, outcome_eq_ok_iff] at h
  have hroot : Visit.fault? settings ⟨type.ownPlace.scope, 0, type⟩ = none :=
    fault?_self_eq_none h.1
  have hdepth := Nat.not_le_of_lt (Visit.depth_lt_of_fault?_eq_none hroot)
  simp [Visit.fault?, hdepth, hform] at hroot

theorem body_eq_empty_iff_of_id_eq_ok {settings : Settings} {type : TypeUse} {text : String}
    (h : type.id settings = .ok text) :
    (Signature.type type.ownPlace.outline).body = "" ↔ type.ShowsNothing type.ownPlace.scope :=
  Shape.render_eq_empty_iff.trans
    (outline_eq_named_nil_iff (form_ne_functionPointer_of_id_eq_ok h))

end TypeUse

/-- A type whose path is made of markers alone goes by a letter and a colon, which is not read. -/
theorem parse_of_id_eq_ok (settings : Settings) :
    (∀ member text, Member.id settings member = .ok text →
      ∃ category ∈ member.category?, IdString.ReadsAs text category) ∧
    (∀ rule member text, Member.idAs settings rule member = .ok text →
      ∃ category ∈ member.category?, IdString.ReadsAs text category) ∧
    (∀ enumeration name text, TypeUse.valueId settings enumeration name = .ok text →
      IdString.ReadsAs text .field) ∧
    (∀ ns text, namespaceId ns = .ok text → IdString.ReadsAs text .ns) ∧
    ∀ type text, TypeUse.id settings type = .ok text →
      if type.ShowsNothing type.ownPlace.scope then
        text = "T:" ∧ ∃ fault, parse text = .error fault ∧ fault.kind = .invalidArgument
      else
        IdString.ReadsAs text .type := by
  refine ⟨fun member text h => Member.readsAs_of_id_eq_ok h, fun rule member text h => ?_,
    fun enumeration name text h => ?_, fun ns text h => ?_, fun type text h => ?_⟩
  · rw [Member.idAs_eq_id (Member.rule?_of_idAs_eq_ok h)] at h
    exact Member.readsAs_of_id_eq_ok h
  · have hvalue := (Request.id_ofValue_eq_outcome settings enumeration name).symm.trans h
    obtain ⟨-, rfl⟩ := outcome_eq_ok_iff.mp hvalue
    exact Signature.readsAs_render (Signature.body_ne_empty nofun)
  · obtain ⟨hns, rfl⟩ := namespaceId_eq_ok_iff.mp h
    exact ⟨_, IdString.parse_toString _ hns, rfl, hns, rfl⟩
  · have hbody := TypeUse.body_eq_empty_iff_of_id_eq_ok h
    rw [TypeUse.id_eq_outcome, outcome_eq_ok_iff] at h
    obtain ⟨-, rfl⟩ := h
    split
    · have hempty := hbody.mpr ‹_›
      have hrender : (Signature.type type.ownPlace.outline).render = "T:" := by
        rw [Signature.render, Signature.id, hempty]
        rfl
      rw [hrender]
      exact ⟨rfl, _, IdString.parse_of_flaw (.noBody .type), rfl⟩
    · exact Signature.readsAs_render (mt hbody.mp ‹_›)

/-- Colons in the name of an owner, and a type whose name is made of markers. -/
theorem parse_of_id_eq_ok_colons :
    let owner := TypeUse.named "" "::"
    let getter := ((Member.method owner "get_Item").withSpecialName).withParameter
      { type := .array (.builtin .int32) 2 }
    let blank := TypeUse.named "" "&&"
    getter.id .standard = .ok "P:::.Item(System.Int32[0:,0:])" ∧
      IdString.ReadsAs "P:::.Item(System.Int32[0:,0:])" .property ∧
      blank.id .standard = .ok "T:" ∧
      ∃ fault, parse "T:" = .error fault ∧ fault.kind = .invalidArgument := by
  intro owner getter blank
  have hgetter : getter.id .standard = .ok "P:::.Item(System.Int32[0:,0:])" := by
    decide
  have hblank : blank.id .standard = .ok "T:" := by
    decide
  obtain ⟨hmember, -, -, -, htype⟩ := parse_of_id_eq_ok .standard
  obtain ⟨category, hcategory, hreads⟩ := hmember getter _ hgetter
  have hproperty : getter.category? = some .property := by
    decide
  obtain rfl := Option.some.inj (hproperty.symm.trans hcategory)
  have hnothing := htype blank _ hblank
  rw [if_pos (by decide)] at hnothing
  exact ⟨hgetter, hreads, hblank, hnothing.2⟩

end CommentId
