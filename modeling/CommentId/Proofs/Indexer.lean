import CommentId.Proofs.Member.Visit
import Mathlib.Data.List.Forall2

/-!
Indexers. Main statement: an indexer has one identifier, or one fault, by which its property, its
getter and its setter all go; it is that of the index, whatever the value that is assigned.
-/

namespace CommentId

/-- The two parameters are alike but for their names. -/
structure Parameter.SameButName (parameter parameter' : Parameter) : Prop where
  type : parameter.type = parameter'.type
  isOut : parameter.isOut = parameter'.isOut

/-- What the accessors of an indexer have in common. -/
structure Indexer where
  owner : TypeUse
  typeParameters : List String := []
  index : List Parameter

namespace Indexer

def scope (indexer : Indexer) : Scope where
  type := indexer.owner.genericNames
  method := indexer.typeParameters
  inSignature := true

/-- The owner comes before the index parameters, and those from left to right. -/
def signature (settings : Settings) (indexer : Indexer) : Except Fault Signature := do
  let owner ← indexer.owner.ownerShape settings
  let index ←
    TypeUse.shapes settings indexer.scope 0 (indexer.index.map Parameter.occurrence)
  .ok (.property owner "Item" index)

def id (settings : Settings) (indexer : Indexer) : Except Fault String :=
  (indexer.signature settings).map Signature.render

structure IsAccessor (indexer : Indexer) (name : String) (accessor : Member) : Prop where
  kind : accessor.kind = .method
  hasSpecialName : accessor.hasSpecialName = true
  name : accessor.name = name
  declaring : accessor.declaring = indexer.owner
  typeParameters : accessor.typeParameters = indexer.typeParameters

structure IsGetter (indexer : Indexer) (getter : Member) : Prop
    extends indexer.IsAccessor "get_Item" getter where
  parameters : List.Forall₂ Parameter.SameButName getter.parameters indexer.index

/-- The last parameter of a setter is the value that it assigns. -/
structure IsSetter (indexer : Indexer) (setter : Member) : Prop
    extends indexer.IsAccessor "set_Item" setter where
  parameters : ∃ index value, setter.parameters = index ++ [value] ∧
    List.Forall₂ Parameter.SameButName index indexer.index

structure IsProperty (indexer : Indexer) (property : Member) : Prop where
  kind : property.kind = .property
  declaring : property.declaring = indexer.owner
  name : property.name = "Item"
  getter : ∀ getter, property.getter = some getter → indexer.IsGetter getter
  setter : ∀ setter, property.setter = some setter → indexer.IsSetter setter
  hasAccessor : property.getter ≠ none ∨ property.setter ≠ none

variable {indexer : Indexer} {name : String} {accessor getter setter property : Member}

theorem map_occurrence_eq {parameters parameters' : List Parameter}
    (h : List.Forall₂ Parameter.SameButName parameters parameters') :
    parameters.map Parameter.occurrence = parameters'.map Parameter.occurrence := by
  induction h with
  | nil => rfl
  | cons hparameter _ ih =>
      rw [List.map_cons, List.map_cons, ih, Parameter.occurrence, Parameter.occurrence,
        hparameter.type, hparameter.isOut]

theorem IsAccessor.parameterShapes_eq (h : indexer.IsAccessor name accessor)
    {parameters : List Parameter}
    (hparameters : List.Forall₂ Parameter.SameButName parameters indexer.index)
    (settings : Settings) :
    accessor.parameterShapes settings parameters =
      TypeUse.shapes settings indexer.scope 0 (indexer.index.map Parameter.occurrence) := by
  rw [Member.parameterShapes, Member.signatureScope, h.declaring, h.typeParameters,
    map_occurrence_eq hparameters]
  rfl

theorem IsAccessor.signature_eq (h : indexer.IsAccessor name accessor)
    (hname : name = "get_Item" ∨ name = "set_Item")
    (hindex : List.Forall₂ Parameter.SameButName accessor.accessorIndex indexer.index)
    (settings : Settings) : accessor.signature settings = indexer.signature settings := by
  have haccess : accessor.accessesIndexer = true := by
    rcases hname with rfl | rfl <;>
      simp [Member.accessesIndexer, h.kind, h.hasSpecialName, h.name]
  have hrule : accessor.kind.rule? = some .method := by
    rw [h.kind]
    rfl
  rw [Member.signature_of_rule? hrule]
  simp only [Member.signatureBy, Member.methodSignature, haccess, if_true, h.declaring,
    h.parameterShapes_eq hindex]
  rfl

theorem IsGetter.signature_eq (h : indexer.IsGetter getter) (settings : Settings) :
    getter.signature settings = indexer.signature settings := by
  refine h.toIsAccessor.signature_eq (.inl rfl) ?_ settings
  rw [Member.accessorIndex, h.name]
  exact h.parameters

theorem IsSetter.dropLast_parameters (h : indexer.IsSetter setter) :
    List.Forall₂ Parameter.SameButName setter.parameters.dropLast indexer.index := by
  obtain ⟨index, value, hparameters, hindex⟩ := h.parameters
  rwa [hparameters, List.dropLast_concat]

theorem IsSetter.signature_eq (h : indexer.IsSetter setter) (settings : Settings) :
    setter.signature settings = indexer.signature settings := by
  refine h.toIsAccessor.signature_eq (.inr rfl) ?_ settings
  rw [Member.accessorIndex, h.name]
  exact h.dropLast_parameters

theorem IsGetter.index_eq_nil (h : indexer.IsGetter getter)
    (hparameters : ¬0 < getter.parameters.length) : indexer.index = [] := by
  rw [← List.length_eq_zero_iff, ← h.parameters.length_eq]
  omega

theorem IsSetter.index_eq_nil (h : indexer.IsSetter setter)
    (hparameters : ¬1 < setter.parameters.length) : indexer.index = [] := by
  rw [← List.length_eq_zero_iff, ← h.dropLast_parameters.length_eq, List.length_dropLast]
  omega

/-- A property without index parameters belongs to an indexer without index parameters. -/
theorem IsProperty.index_eq_nil (h : indexer.IsProperty property)
    (hindex : property.index? = none) : indexer.index = [] := by
  simp only [Member.index?, Option.or_eq_none_iff, Option.map_eq_none_iff,
    Option.filter_eq_none_iff, decide_eq_true_eq] at hindex
  rcases h.hasAccessor with haccessor | haccessor
  · obtain ⟨getter, hgetter⟩ := Option.ne_none_iff_exists'.mp haccessor
    exact (h.getter getter hgetter).index_eq_nil (hindex.1 getter hgetter)
  · obtain ⟨setter, hsetter⟩ := Option.ne_none_iff_exists'.mp haccessor
    exact (h.setter setter hsetter).index_eq_nil (hindex.2 setter hsetter)

theorem IsProperty.exists_isAccessor (h : indexer.IsProperty property) {index : List Parameter}
    (hindex : property.index? = some (accessor, index)) :
    (∃ name, indexer.IsAccessor name accessor) ∧
      List.Forall₂ Parameter.SameButName index indexer.index := by
  simp only [Member.index?, Option.or_eq_some_iff, Option.map_eq_some_iff,
    Option.filter_eq_some_iff, Prod.mk.injEq] at hindex
  rcases hindex with ⟨getter, ⟨hgetter, -⟩, rfl, rfl⟩ | ⟨-, setter, ⟨hsetter, -⟩, rfl, rfl⟩
  · have hget := h.getter getter hgetter
    exact ⟨⟨_, hget.toIsAccessor⟩, hget.parameters⟩
  · have hset := h.setter setter hsetter
    exact ⟨⟨_, hset.toIsAccessor⟩, hset.dropLast_parameters⟩

theorem IsProperty.signature_eq (h : indexer.IsProperty property) (settings : Settings) :
    property.signature settings = indexer.signature settings := by
  rw [Member.signature_of_rule? (Member.Kind.rule?_eq_property_iff.mpr h.kind)]
  simp only [Member.signatureBy, Member.propertySignature, signature, h.declaring, h.name]
  cases hindex : property.index? with
  | none =>
      rw [h.index_eq_nil hindex]
      rfl
  | some indexed =>
      obtain ⟨⟨name, haccessor⟩, hparameters⟩ := h.exists_isAccessor hindex
      simp only [haccessor.parameterShapes_eq hparameters]

theorem exists_eq_append_of_id_eq_ok {settings : Settings} {text : String}
    (h : indexer.id settings = .ok text) : ∃ body, text = "P:" ++ body := by
  simp only [id, signature, Member.ownerShape_eq_outcome, TypeUse.shapes_eq_outcome,
    outcome_bind_ok, outcome_bind_outcome, map_outcome, outcome_eq_ok_iff] at h
  obtain ⟨-, rfl⟩ := h
  exact ⟨_, rfl⟩

/-- No rule reads the value that the setter assigns, so it may be of any type. -/
theorem id_eq_id_of_isProperty (hgetter : indexer.IsGetter getter)
    (hsetter : indexer.IsSetter setter) (hproperty : indexer.IsProperty property)
    (settings : Settings) :
    (getter.id settings = indexer.id settings ∧
        getter.idAs settings .method = indexer.id settings) ∧
      (setter.id settings = indexer.id settings ∧
        setter.idAs settings .method = indexer.id settings) ∧
      (property.id settings = indexer.id settings ∧
        property.idAs settings .property = indexer.id settings) ∧
      ∀ text, indexer.id settings = .ok text → ∃ body, text = "P:" ++ body := by
  have hid {member : Member} {rule : Member.Rule} (hrule : member.kind.rule? = some rule)
      (hsignature : member.signature settings = indexer.signature settings) :
      member.id settings = indexer.id settings ∧
        member.idAs settings rule = indexer.id settings := by
    have hmember : member.id settings = indexer.id settings := by
      rw [Member.id, id, hsignature]
    exact ⟨hmember, (Member.idAs_eq_id hrule settings).trans hmember⟩
  refine ⟨hid ?_ (hgetter.signature_eq settings), hid ?_ (hsetter.signature_eq settings),
    hid ?_ (hproperty.signature_eq settings), fun text => exists_eq_append_of_id_eq_ok⟩
  · rw [hgetter.kind]
    rfl
  · rw [hsetter.kind]
    rfl
  · rw [hproperty.kind]
    rfl

/-- A property that can only be written, with a value that has no encoding. -/
theorem id_eq_id_of_isProperty_writeOnly :
    let grid := (TypeUse.named "Sample" "Grid`1").definedOver ["T"]
    let matrix := TypeUse.array (.genericParameter "T" 0) 2
    let getter := ((Member.method grid "get_Item").withSpecialName).withParameter
      { name := some "cells", type := matrix }
    let setter := (((Member.method grid "set_Item").withSpecialName).withParameter
      { name := some "key", type := matrix }).withParameter { type := .functionPointer }
    let property := (Member.property grid "Item").withSetter setter
    let indexer : Indexer := { owner := grid, index := [{ type := matrix }] }
    indexer.IsGetter getter ∧ indexer.IsSetter setter ∧ indexer.IsProperty property ∧
      property.id .strict = .ok "P:Sample.Grid`1.Item(`0[0:,0:])" ∧
      getter.id .strict = property.id .strict ∧ setter.id .strict = property.id .strict := by
  intro grid matrix getter setter property indexer
  have hgetter : indexer.IsGetter getter :=
    { kind := rfl
      hasSpecialName := by decide
      name := rfl
      declaring := rfl
      typeParameters := rfl
      parameters := .cons ⟨rfl, rfl⟩ .nil }
  have hsetter : indexer.IsSetter setter :=
    { kind := rfl
      hasSpecialName := by decide
      name := rfl
      declaring := rfl
      typeParameters := rfl
      parameters := ⟨[_], _, rfl, .cons ⟨rfl, rfl⟩ .nil⟩ }
  have hproperty : indexer.IsProperty property :=
    { kind := rfl
      declaring := rfl
      name := rfl
      getter := fun _ h => by cases h
      setter := fun _ h => Option.some.inj h ▸ hsetter
      hasAccessor := .inr (Option.some_ne_none setter) }
  have hid := id_eq_id_of_isProperty hgetter hsetter hproperty .strict
  refine ⟨hgetter, hsetter, hproperty, by decide, ?_, ?_⟩
  · exact hid.1.1.trans hid.2.2.1.1.symm
  · exact hid.2.1.1.trans hid.2.2.1.1.symm

end Indexer

end CommentId
