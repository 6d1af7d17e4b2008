import CommentId.Proofs.Member.Visit
import CommentId.Proofs.TypeUse.Renaming
import Mathlib.Logic.Equiv.Basic

/-!
Renaming of the generic parameters of members. Main statement: an identifier does not depend on
how generic parameters are named, nor does the kind of the fault for which there is none.
-/

namespace CommentId

open TypeUse (firstFault? kind_firstFault?_rename visits_rename outline_rename
  firstFault?_visits_setParameters outline_setParameters genericNames_renameOwner)

def Parameter.rename (r : String → String) (parameter : Parameter) : Parameter :=
  { parameter with type := parameter.type.rename r }

namespace Member

def renameOwn (r : String → String) (member : Member) : Member :=
  { member with
    declaring := member.declaring.renameOwner r
    typeParameters := member.typeParameters.map r
    parameters := member.parameters.map (Parameter.rename r)
    result := member.result.map (TypeUse.rename r) }

def rename (r : String → String) (member : Member) : Member :=
  { member.renameOwn r with
    getter := member.getter.map (renameOwn r)
    setter := member.setter.map (renameOwn r) }

end Member

/-- The place after the renaming, unless it is that of an owner. -/
def Place.rename (r : String → String) (place : Place) : Place :=
  ⟨place.scope.rename r, place.type.rename r⟩

section Place

variable {r : String → String} (hr : Function.Injective r)

theorem Parameter.occurrence_rename (parameter : Parameter) :
    (parameter.rename r).occurrence = parameter.occurrence.rename r := by
  rw [occurrence, occurrence, rename, TypeUse.rename_eq, TypeUse.rename_eq]
  rfl

include hr

theorem kind_firstFaultIn?_rename (settings : Settings) (places : List Place) :
    (Member.firstFaultIn? settings (places.map (Place.rename r))).map Fault.kind =
      (Member.firstFaultIn? settings places).map Fault.kind := by
  have hvisits : (places.map (Place.rename r)).flatMap (Place.visits settings.maxDepth) =
      (places.flatMap (Place.visits settings.maxDepth)).map (TypeUse.Visit.rename r) := by
    rw [List.flatMap_map, List.map_flatMap]
    exact List.flatMap_congr fun place _ => visits_rename r place.type _ place.scope 0
  rw [Member.firstFaultIn?, hvisits]
  exact kind_firstFault?_rename r hr settings _

theorem Place.outline_rename (place : Place) : (place.rename r).outline = place.outline :=
  TypeUse.outline_rename r place.type hr place.scope

theorem map_outline_rename (places : List Place) :
    (places.map (Place.rename r)).map Place.outline = places.map Place.outline := by
  rw [List.map_map]
  exact List.map_congr_left fun place _ => Place.outline_rename hr place

omit hr in
theorem TypeUse.ownerPlace_renameOwner (owner : TypeUse) :
    (owner.renameOwner r).ownerPlace =
      ⟨owner.ownerPlace.scope.rename r,
        { owner.rename r with parameters := owner.parameters.map r }⟩ := by
  rw [ownerPlace_eq, ownerPlace_eq, genericNames_renameOwner]
  rfl

theorem kind_firstFault?_ownerPlace (settings : Settings) (owner : TypeUse) :
    (firstFault? settings
        ((owner.renameOwner r).ownerPlace.visits settings.maxDepth)).map Fault.kind =
      (firstFault? settings (owner.ownerPlace.visits settings.maxDepth)).map Fault.kind := by
  rw [TypeUse.ownerPlace_renameOwner, Place.visits, firstFault?_visits_setParameters,
    visits_rename]
  exact kind_firstFault?_rename r hr settings _

theorem outline_ownerPlace (owner : TypeUse) :
    (owner.renameOwner r).ownerPlace.outline = owner.ownerPlace.outline := by
  rw [TypeUse.ownerPlace_renameOwner, Place.outline, outline_setParameters]
  exact outline_rename r owner hr owner.ownerPlace.scope

end Place

namespace Member

variable {r : String → String}

theorem signatureScope_renameOwn (method : Member) :
    (method.renameOwn r).signatureScope = method.signatureScope.rename r := by
  rw [signatureScope, renameOwn, genericNames_renameOwner]
  rfl

theorem parameterPlaces_renameOwn (method : Member) (parameters : List Parameter) :
    (method.renameOwn r).parameterPlaces (parameters.map (Parameter.rename r)) =
      (method.parameterPlaces parameters).map (Place.rename r) := by
  simp only [parameterPlaces_eq, List.map_map, signatureScope_renameOwn]
  apply List.map_congr_left
  intro parameter _
  simp only [Function.comp_apply, Parameter.occurrence_rename]
  rfl

theorem spelledParameters_renameOwn (method : Member) :
    (method.renameOwn r).spelledParameters =
      method.spelledParameters.map (Parameter.rename r) := by
  have hparameters : (method.renameOwn r).parameters =
      method.parameters.map (Parameter.rename r) := rfl
  have hsetter : (method.renameOwn r).IsIndexerAccessor ∧ (method.renameOwn r).name = "set_Item" ↔
      method.IsIndexerAccessor ∧ method.name = "set_Item" := Iff.rfl
  simp only [spelledParameters, hsetter, hparameters, List.length_map, ← List.map_take]
  split <;> rfl

theorem resultPlace?_renameOwn (method : Member) :
    (method.renameOwn r).resultPlace? = method.resultPlace?.map (Place.rename r) := by
  have hconversion : (method.renameOwn r).isConversion = method.isConversion := rfl
  rw [resultPlace?_eq, resultPlace?_eq, hconversion, signatureScope_renameOwn]
  split
  · rw [renameOwn, Option.map_map, Option.map_map]
    rfl
  · rfl

theorem index?_rename (property : Member) :
    (property.rename r).index? =
      property.index?.map fun indexed =>
        (indexed.1.renameOwn r, indexed.2.map (Parameter.rename r)) := by
  have hlength (accessor : Member) :
      (accessor.renameOwn r).parameters.length = accessor.parameters.length :=
    List.length_map _
  rw [index?, index?, Option.map_or]
  simp only [rename, Option.filter_map, Option.map_map, Function.comp_def, hlength]
  congr 1
  apply Option.map_congr
  intro accessor _
  rw [List.map_dropLast]
  rfl

theorem indexPlaces_rename (property : Member) :
    (property.rename r).indexPlaces = property.indexPlaces.map (Place.rename r) := by
  rw [indexPlaces_eq, indexPlaces_eq, index?_rename]
  cases property.index? with
  | none => rfl
  | some indexed => exact parameterPlaces_renameOwn indexed.1 indexed.2

theorem placesBehindOwner_rename (member : Member) (rule : Rule) :
    (member.rename r).placesBehindOwner rule =
      (member.placesBehindOwner rule).map (Place.rename r) := by
  cases rule with
  | method =>
      have hresult : (member.rename r).resultPlace?.toList =
          member.resultPlace?.toList.map (Place.rename r) := by
        change (member.renameOwn r).resultPlace?.toList = _
        rw [resultPlace?_renameOwn, Option.toList_map]
      rw [placesBehindOwner, placesBehindOwner, List.map_append, hresult,
        ← parameterPlaces_renameOwn, ← spelledParameters_renameOwn]
      rfl
  | property => exact indexPlaces_rename member
  | field => rfl
  | event => rfl
  | nestedType => rfl

theorem kind_missingResultBy_rename (member : Member) (rule : Rule) :
    ((member.rename r).missingResultBy rule).map Fault.kind =
      (member.missingResultBy rule).map Fault.kind := by
  cases rule with
  | method =>
      have hconversion : (member.rename r).IsConversionOperator ↔ member.IsConversionOperator :=
        Iff.rfl
      have hresult : (member.rename r).result = none ↔ member.result = none :=
        Option.map_eq_none_iff
      simp only [missingResultBy, missingResult?, hconversion, hresult]
      split <;> rfl
  | property => rfl
  | field => rfl
  | event => rfl
  | nestedType => rfl

section Injective

variable (hr : Function.Injective r)

include hr

theorem kind_head?_faults_rename {member : Member} {rule : Rule}
    (hrule : member.kind.rule? = some rule) (hnested : rule ≠ .nestedType)
    (settings : Settings) :
    ((member.rename r).faults settings).head?.map Fault.kind =
      (member.faults settings).head?.map Fault.kind := by
  have hrule' : (member.rename r).kind.rule? = some rule := hrule
  rw [head?_faults hrule, head?_faults hrule', placesBy_of_ne hnested, placesBy_of_ne hnested,
    placesBehindOwner_rename]
  simp only [firstFaultIn?_cons, Option.map_or, kind_missingResultBy_rename,
    kind_firstFaultIn?_rename hr]
  congr 2
  exact kind_firstFault?_ownerPlace hr settings member.declaring

theorem outlineBy_rename (member : Member) {rule : Rule} (hnested : rule ≠ .nestedType) :
    (member.rename r).outlineBy rule = member.outlineBy rule := by
  have howner : (member.rename r).declaring.ownerPlace.outline =
      member.declaring.ownerPlace.outline :=
    outline_ownerPlace hr member.declaring
  cases rule with
  | method =>
      have hparameters :
          ((member.rename r).parameterPlaces (member.rename r).spelledParameters).map
              Place.outline =
            (member.parameterPlaces member.spelledParameters).map Place.outline := by
        change ((member.renameOwn r).parameterPlaces
          (member.renameOwn r).spelledParameters).map Place.outline = _
        rw [spelledParameters_renameOwn, parameterPlaces_renameOwn, map_outline_rename hr]
      have hresult : (member.rename r).resultPlace?.map Place.outline =
          member.resultPlace?.map Place.outline := by
        change (member.renameOwn r).resultPlace?.map Place.outline = _
        rw [resultPlace?_renameOwn, Option.map_map]
        exact Option.map_congr fun place _ => Place.outline_rename hr place
      have harity : (member.rename r).typeParameters.length = member.typeParameters.length :=
        List.length_map _
      simp only [outlineBy, howner, hparameters, hresult, harity]
      rfl
  | property =>
      simp only [outlineBy, howner, indexPlaces_rename, map_outline_rename hr]
      rfl
  | field =>
      simp only [outlineBy, howner]
      rfl
  | event =>
      simp only [outlineBy, howner]
      rfl
  | nestedType => exact absurd rfl hnested

/-- Nested types are left out: the name of their owner is spelled, and it may be that of a generic
parameter. -/
theorem mapError_kind_id_rename {member : Member} (hkind : member.kind ≠ .nestedType)
    (settings : Settings) :
    ((member.rename r).id settings).mapError Fault.kind =
      (member.id settings).mapError Fault.kind := by
  cases hrule : member.kind.rule? with
  | none =>
      have hunknown : member.kind = .unknown := Kind.rule?_eq_none_iff.mp hrule
      have hunknown' : (member.rename r).kind = .unknown := hunknown
      rw [id, id, signature_of_unknown hunknown, signature_of_unknown hunknown']
      rfl
  | some rule =>
      have hnested : rule ≠ .nestedType := by
        rintro rfl
        exact hkind (Kind.rule?_eq_nestedType_iff.mp hrule)
      have hrule' : (member.rename r).kind.rule? = some rule := hrule
      rw [id_eq_outcome hrule, id_eq_outcome hrule', mapError_outcome, mapError_outcome,
        kind_head?_faults_rename hr hrule hnested, outlineBy_rename hr member hnested]

end Injective

/-- A method of a generic type exchanges the names of its own parameter and that of the type. -/
theorem mapError_kind_id_rename_swap :
    let swap := Equiv.swap "T" "U"
    let box := (TypeUse.named "Sample" "Box`1").definedOver ["T"]
    let map := (((Member.method box "Map").withTypeParameters ["U"]).withParameter
      { type := .genericParameter "T" 0 }).withParameter { type := .genericParameter "U" 0 }
    map.id .strict = .ok "M:Sample.Box`1.Map``1(`0,``0)" ∧ map.rename swap ≠ map ∧
      ((map.rename swap).id .strict).mapError Fault.kind =
        (map.id .strict).mapError Fault.kind := by
  intro swap box map
  exact ⟨by decide, by decide, mapError_kind_id_rename swap.injective (by decide) .strict⟩

end Member

end CommentId
