import CommentId.Proofs.Member.Rules
import CommentId.Proofs.Member.Shown
import CommentId.Proofs.TypeUse.Likeness
import Mathlib.Data.Option.Defs

/-!
Members of which an identifier shows the same. Main statement: two members that agree in what the
rule for their kind reads have the same identifier, or faults of the same kind; nothing else of
them has an influence.
-/

namespace CommentId

open TypeUse (mapError_shape_of_alike mapError_shapes_congr)

section Option

variable {α : Type} {r : α → α → Prop}

theorem rel_refl (h : ∀ a, r a a) : ∀ a? : Option α, Option.Rel r a? a?
  | none => .none
  | some a => .some (h a)

theorem rel_cases {a? b? : Option α} (h : Option.Rel r a? b?) :
    (a? = none ∧ b? = none) ∨ ∃ a b, a? = some a ∧ b? = some b ∧ r a b := by
  cases h with
  | some h => exact .inr ⟨_, _, rfl, rfl, h⟩
  | none => exact .inl ⟨rfl, rfl⟩

end Option

/-- The two owners are spelled alike and declare the same generic parameters. -/
structure TypeUse.OwnersAlike (owner owner' : TypeUse) : Prop where
  alike : TypeUse.Alike false owner owner'
  genericNames : owner.genericNames = owner'.genericNames

/-- The two parameters agree in type and passing. Their names are not spelled, and a parameter that
is passed out is by reference whatever its type says. -/
def Parameter.Alike (parameter parameter' : Parameter) : Prop :=
  TypeUse.Alike true parameter.occurrence parameter'.occurrence

namespace Member

/-- The two methods agree in what stands behind their owners. -/
structure MethodsAlike (scoping : Scoping) (method method' : Member) : Prop where
  hasSpecialName : method.kind = .method → method.hasSpecialName = method'.hasSpecialName
  arity : method.arity = method'.arity
  typeParameters : scoping = .strict → method.typeParameters = method'.typeParameters
  parameters : List.Forall₂ Parameter.Alike method.parameters method'.parameters
  result : method.isConversion = true →
    Option.Rel (TypeUse.Alike true) method.result method'.result

/-- The two accessors give a property the same index, the one by `index` and the other by
`index'`. -/
structure AccessorsAlike (scoping : Scoping) (index : Member → List Parameter)
    (accessor accessor' : Member) : Prop where
  genericNames : accessor.declaring.genericNames = accessor'.declaring.genericNames
  typeParameters : scoping = .strict → accessor.typeParameters = accessor'.typeParameters
  index : List.Forall₂ Parameter.Alike (index accessor) (index accessor')

/-- The two properties agree in their accessors: in the setter only where the getter has no
parameters, and there in all parameters but the last, which is the value that is assigned. -/
structure PropertiesAlike (scoping : Scoping) (property property' : Member) : Prop where
  getter : Option.Rel (AccessorsAlike scoping Member.parameters) property.getter property'.getter
  setter : (∀ getter, property.getter = some getter → getter.parameters = []) →
    Option.Rel (AccessorsAlike scoping fun setter => setter.parameters.dropLast)
      property.setter property'.setter

/-- The two members agree in all that their identifiers depend on. -/
structure Alike (scoping : Scoping) (member member' : Member) : Prop where
  kind : member.kind = member'.kind
  name : member.name = member'.name
  owner : member.kind ≠ .nestedType → TypeUse.OwnersAlike member.declaring member'.declaring
  outer : member.kind = .nestedType →
    member.declaring.name = member'.declaring.name ∧
      member.declaring.enclosingNs = member'.declaring.enclosingNs
  method : member.kind.rule? = some .method → MethodsAlike scoping member member'
  property : member.kind = .property → PropertiesAlike scoping member member'

theorem forall₂_alike_refl (parameters : List Parameter) :
    List.Forall₂ Parameter.Alike parameters parameters :=
  List.forall₂_same.mpr fun parameter _ => TypeUse.Alike.refl true parameter.occurrence

/-- A member is like itself, so that it may change in all that `Alike` does not mention. -/
theorem Alike.refl (scoping : Scoping) (member : Member) : Alike scoping member member where
  kind := rfl
  name := rfl
  owner _ := ⟨.refl false member.declaring, rfl⟩
  outer _ := ⟨rfl, rfl⟩
  method _ :=
    { hasSpecialName := fun _ => rfl
      arity := rfl
      typeParameters := fun _ => rfl
      parameters := forall₂_alike_refl member.parameters
      result := fun _ => rel_refl (TypeUse.Alike.refl true) member.result }
  property _ :=
    { getter := rel_refl (fun _ => ⟨rfl, fun _ => rfl, forall₂_alike_refl _⟩) member.getter
      setter := fun _ =>
        rel_refl (fun _ => ⟨rfl, fun _ => rfl, forall₂_alike_refl _⟩) member.setter }

variable {settings : Settings} {member member' : Member}

theorem mapError_ownerShape_of_alike {owner owner' : TypeUse}
    (h : TypeUse.OwnersAlike owner owner') :
    (owner.ownerShape settings).mapError Fault.kind =
      (owner'.ownerShape settings).mapError Fault.kind := by
  have hscope : Scope.Alike settings.scoping { type := owner.genericNames }
      { type := owner'.genericNames } :=
    ⟨h.genericNames, fun _ => rfl, rfl⟩
  exact mapError_shape_of_alike h.alike hscope 0

theorem mapError_parameterShapes_of_alike {parameters parameters' : List Parameter}
    (hscope : Scope.Alike settings.scoping member.signatureScope member'.signatureScope)
    (h : List.Forall₂ Parameter.Alike parameters parameters') :
    (member.parameterShapes settings parameters).mapError Fault.kind =
      (member'.parameterShapes settings parameters').mapError Fault.kind := by
  apply mapError_shapes_congr
  rw [List.forall₂_map_left_iff, List.forall₂_map_right_iff]
  exact h.imp fun _ _ hparameter => mapError_shape_of_alike hparameter hscope 0

theorem Alike.ownersAlike (h : Alike settings.scoping member member') {rule : Rule}
    (hrule : member.kind.rule? = some rule) (hnested : rule ≠ .nestedType) :
    TypeUse.OwnersAlike member.declaring member'.declaring := by
  apply h.owner
  intro hkind
  rw [hkind] at hrule
  exact hnested (Option.some.inj hrule).symm

section Method

theorem Alike.hasSpecialName_eq (h : Alike settings.scoping member member')
    (hrule : member.kind.rule? = some .method) :
    (member.kind == .method && member.hasSpecialName) =
      (member'.kind == .method && member'.hasSpecialName) := by
  rw [← h.kind]
  by_cases hkind : member.kind = .method
  · rw [(h.method hrule).hasSpecialName hkind]
  · rw [beq_eq_false_iff_ne.mpr hkind]
    rfl

theorem Alike.accessesIndexer_eq (h : Alike settings.scoping member member')
    (hrule : member.kind.rule? = some .method) :
    member.accessesIndexer = member'.accessesIndexer := by
  rw [accessesIndexer, accessesIndexer, h.hasSpecialName_eq hrule, h.name]

theorem Alike.isConversion_eq (h : Alike settings.scoping member member')
    (hrule : member.kind.rule? = some .method) :
    member.isConversion = member'.isConversion := by
  rw [isConversion, isConversion, h.hasSpecialName_eq hrule, h.name]

theorem Alike.spelledName_eq (h : Alike settings.scoping member member') :
    member.spelledName = member'.spelledName := by
  rw [spelledName, spelledName, isTypeInitializer, isTypeInitializer, h.kind, h.name]

theorem Alike.signatureScope (h : Alike settings.scoping member member')
    (hrule : member.kind.rule? = some .method) :
    Scope.Alike settings.scoping member.signatureScope member'.signatureScope where
  type := (h.ownersAlike hrule nofun).genericNames
  method := (h.method hrule).typeParameters
  inSignature := rfl

theorem forall₂_dropLast {parameters parameters' : List Parameter}
    (h : List.Forall₂ Parameter.Alike parameters parameters') :
    List.Forall₂ Parameter.Alike parameters.dropLast parameters'.dropLast := by
  rw [List.dropLast_eq_take, List.dropLast_eq_take, h.length_eq]
  exact List.forall₂_take _ h

theorem Alike.accessorIndex (h : Alike settings.scoping member member')
    (hrule : member.kind.rule? = some .method) :
    List.Forall₂ Parameter.Alike member.accessorIndex member'.accessorIndex := by
  rw [Member.accessorIndex, Member.accessorIndex, h.name]
  split
  · exact forall₂_dropLast (h.method hrule).parameters
  · exact (h.method hrule).parameters

theorem mapError_resultShape_of_alike (h : Alike settings.scoping member member')
    (hrule : member.kind.rule? = some .method) :
    (member.resultShape settings).mapError Fault.kind =
      (member'.resultShape settings).mapError Fault.kind := by
  rw [resultShape, resultShape, ← h.isConversion_eq hrule]
  split
  · rcases rel_cases ((h.method hrule).result ‹_›) with
      ⟨hresult, hresult'⟩ | ⟨result, result', hresult, hresult', halike⟩
    · rw [hresult, hresult']
      rfl
    · rw [hresult, hresult']
      exact mapError_map_congr (mapError_shape_of_alike halike (h.signatureScope hrule) 0) some
  · rfl

theorem mapError_methodSignature_of_alike (h : Alike settings.scoping member member')
    (hrule : member.kind.rule? = some .method) :
    (member.methodSignature settings).mapError Fault.kind =
      (member'.methodSignature settings).mapError Fault.kind := by
  have hscope := h.signatureScope hrule
  rw [methodSignature, methodSignature, ← h.accessesIndexer_eq hrule, ← h.spelledName_eq,
    ← (h.method hrule).arity]
  apply mapError_bind_congr (mapError_ownerShape_of_alike (h.ownersAlike hrule nofun))
  intro owner
  split
  · exact mapError_bind_congr
      (mapError_parameterShapes_of_alike hscope (h.accessorIndex hrule)) fun _ => rfl
  · apply mapError_bind_congr
      (mapError_parameterShapes_of_alike hscope (h.method hrule).parameters)
    intro parameters
    exact mapError_bind_congr (mapError_resultShape_of_alike h hrule) fun _ => rfl

end Method

section Property

variable {property property' : Member}

/-- The two indexes, each with the accessor that fixes it, are spelled alike. -/
structure IndexesAlike (scoping : Scoping) (indexed indexed' : Member × List Parameter) :
    Prop where
  scope : Scope.Alike scoping indexed.1.signatureScope indexed'.1.signatureScope
  index : List.Forall₂ Parameter.Alike indexed.2 indexed'.2

theorem AccessorsAlike.indexesAlike {scoping : Scoping} {index : Member → List Parameter}
    {accessor accessor' : Member} (h : AccessorsAlike scoping index accessor accessor') :
    IndexesAlike scoping (accessor, index accessor) (accessor', index accessor') where
  scope := ⟨h.genericNames, h.typeParameters, rfl⟩
  index := h.index

theorem PropertiesAlike.index?_of_forall_getter {scoping : Scoping}
    (h : PropertiesAlike scoping property property')
    (hgetter : ∀ getter, property.getter = some getter → getter.parameters = [])
    (hgetter' : ∀ getter, property'.getter = some getter → getter.parameters = []) :
    Option.Rel (IndexesAlike scoping) property.index? property'.index? := by
  rw [Member.index?_of_forall_getter hgetter, Member.index?_of_forall_getter hgetter']
  rcases rel_cases (h.setter hgetter) with
    ⟨hsetter, hsetter'⟩ | ⟨setter, setter', hsetter, hsetter', halike⟩
  · rw [hsetter, hsetter']
    exact .none
  · -- both setters lose their last parameter, so that they have an index together or not at all
    have hlength := halike.index.length_eq
    rw [List.length_dropLast, List.length_dropLast] at hlength
    have hvalue : 1 < setter.parameters.length ↔ 1 < setter'.parameters.length := by
      omega
    simp only [hsetter, hsetter', Option.filter_some, hvalue]
    split
    · exact .some halike.indexesAlike
    · exact .none

theorem PropertiesAlike.index? {scoping : Scoping}
    (h : PropertiesAlike scoping property property') :
    Option.Rel (IndexesAlike scoping) property.index? property'.index? := by
  rcases rel_cases h.getter with
    ⟨hgetter, hgetter'⟩ | ⟨getter, getter', hgetter, hgetter', halike⟩
  · exact h.index?_of_forall_getter (by simp [hgetter]) (by simp [hgetter'])
  · have hlength := halike.index.length_eq
    by_cases hparameters : getter.parameters = []
    · have hparameters' : getter'.parameters = [] := by
        rw [← List.length_eq_zero_iff, ← hlength, hparameters, List.length_nil]
      exact h.index?_of_forall_getter (by simp [hgetter, hparameters])
        (by simp [hgetter', hparameters'])
    · have hparameters' : getter'.parameters ≠ [] := by
        rwa [← List.length_pos_iff, ← hlength, List.length_pos_iff]
      rw [index?_of_getter hgetter hparameters, index?_of_getter hgetter' hparameters']
      exact .some halike.indexesAlike

theorem mapError_propertySignature_of_alike (h : Alike settings.scoping member member')
    (hrule : member.kind.rule? = some .property) :
    (member.propertySignature settings).mapError Fault.kind =
      (member'.propertySignature settings).mapError Fault.kind := by
  have hproperty := h.property (Kind.rule?_eq_property_iff.mp hrule)
  rw [propertySignature, propertySignature, ← h.name]
  apply mapError_bind_congr (mapError_ownerShape_of_alike (h.ownersAlike hrule nofun))
  intro owner
  rcases rel_cases hproperty.index? with
    ⟨hindex, hindex'⟩ | ⟨indexed, indexed', hindex, hindex', halike⟩
  · rw [hindex, hindex']
  · rw [hindex, hindex']
    exact mapError_bind_congr (mapError_parameterShapes_of_alike halike.scope halike.index)
      fun _ => rfl

end Property

theorem signature_nestedTypeUse (settings : Settings) (member : Member) :
    member.nestedTypeUse.signature settings =
      if settings.maxDepth ≤ 0 then
        .error (.tooDeep settings.maxDepth)
      else
        .ok (.type (.named (member.nestedTypeUse.path member.name) [])) := by
  rw [TypeUse.signature, TypeUse.shape_of_not_showsArguments rfl rfl rfl]
  split <;> rfl

theorem signature_nestedTypeUse_of_alike (h : Alike settings.scoping member member')
    (hkind : member.kind = .nestedType) :
    member.nestedTypeUse.signature settings = member'.nestedTypeUse.signature settings := by
  obtain ⟨houter, hns⟩ := h.outer hkind
  have hns' : member.nestedTypeUse.enclosingNs = member'.nestedTypeUse.enclosingNs := by
    rw [nestedTypeUse, nestedTypeUse, TypeUse.enclosingNs_inside rfl,
      TypeUse.enclosingNs_inside rfl, hns]
  rw [signature_nestedTypeUse, signature_nestedTypeUse, h.name,
    TypeUse.path_eq_path hns' (congrArg some houter)]

theorem mapError_signatureBy_of_alike (h : Alike settings.scoping member member') {rule : Rule}
    (hrule : member.kind.rule? = some rule) :
    (member.signatureBy settings rule).mapError Fault.kind =
      (member'.signatureBy settings rule).mapError Fault.kind := by
  cases rule with
  | method => exact mapError_methodSignature_of_alike h hrule
  | property => exact mapError_propertySignature_of_alike h hrule
  | field =>
      simp only [signatureBy, h.name]
      exact mapError_map_congr (mapError_ownerShape_of_alike (h.ownersAlike hrule nofun)) _
  | event =>
      simp only [signatureBy, h.name]
      exact mapError_map_congr (mapError_ownerShape_of_alike (h.ownersAlike hrule nofun)) _
  | nestedType =>
      simp only [signatureBy]
      rw [signature_nestedTypeUse_of_alike h (Kind.rule?_eq_nestedType_iff.mp hrule)]

theorem mapError_signature_of_alike (h : Alike settings.scoping member member') :
    (member.signature settings).mapError Fault.kind =
      (member'.signature settings).mapError Fault.kind := by
  cases hrule : member.kind.rule? with
  | none =>
      have hkind : member.kind = .unknown := Kind.rule?_eq_none_iff.mp hrule
      rw [signature_of_unknown hkind, signature_of_unknown (h.kind ▸ hkind)]
      rfl
  | some rule =>
      rw [signature_of_rule? hrule, signature_of_rule? (h.kind ▸ hrule)]
      exact mapError_signatureBy_of_alike h hrule

theorem mapError_kind_id_of_alike (h : Alike settings.scoping member member') :
    (member.id settings).mapError Fault.kind = (member'.id settings).mapError Fault.kind :=
  mapError_map_congr (mapError_signature_of_alike h) Signature.render

/-- Two snapshots of one method, taken from different sources. -/
theorem mapError_kind_id_of_alike_snapshots :
    let box := (TypeUse.named "Sample" "Box`1").definedOver ["T"]
    let matrix := TypeUse.array (.genericParameter "U" 0) 2
    let method := ((Member.method box "Map").withTypeParameters ["U"]).withParameter
      { name := some "cells", type := matrix, isOut := true }
    let method' : Member :=
      { kind := .method, declaring := box.asEnum, name := "Map", flags := .runtimeSpecialName
        typeParameters := ["V"], getter := some method, result := some .functionPointer
        parameters := [{ type := { matrix with
          ns := "Elsewhere", name := "", parameters := ["X"], isReference := true } }] }
    Alike .byName method method' ∧ method ≠ method' ∧
      method.id .standard = .ok "M:Sample.Box`1.Map``1(``0[0:,0:]@)" ∧
      (method'.id .standard).mapError Fault.kind = (method.id .standard).mapError Fault.kind := by
  intro box matrix method method'
  have hmatrix : Parameter.Alike
      { name := some "cells", type := matrix, isOut := true }
      { type := { matrix with
          ns := "Elsewhere", name := "", parameters := ["X"], isReference := true } } :=
    .array rfl rfl rfl (.refl true (.genericParameter "U" 0))
  have halike : Alike .byName method method' :=
    { Alike.refl .byName method with
      owner := fun _ => ⟨.named rfl rfl rfl rfl (by decide) rfl rfl fun _ => .nil, rfl⟩
      method := fun _ =>
        { hasSpecialName := fun _ => by decide
          arity := rfl
          typeParameters := nofun
          parameters := .cons hmatrix .nil
          result := fun hconversion => absurd hconversion (by decide) }
      property := nofun }
  refine ⟨halike, by decide, by decide, ?_⟩
  have hscoping : Settings.standard.scoping = .byName := rfl
  exact (mapError_kind_id_of_alike (hscoping ▸ halike)).symm

end Member

end CommentId
