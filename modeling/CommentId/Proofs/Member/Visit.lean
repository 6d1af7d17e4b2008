import CommentId.Proofs.Member.Rules
import CommentId.Proofs.Member.Shown
import CommentId.Proofs.TypeUse.Visit

/-!
The types that the identifier of a member shows, each in its scope, and the visits made to them in
the order of reading. Main statement: a member has a signature exactly when no visit meets a fault
and a conversion states its result; otherwise the first fault is the one reported.
-/

namespace CommentId

open TypeUse (Visit firstFault? firstFault?_append)

structure Place where
  scope : Scope
  type : TypeUse
  deriving DecidableEq, Repr

namespace Place

def visits (maxDepth : Nat) (place : Place) : List Visit :=
  place.type.visits maxDepth place.scope 0

def outline (place : Place) : Shape :=
  place.type.outline place.scope

end Place

/-- The place of a type that owns members: it declares its generic parameters itself. -/
def TypeUse.ownerPlace (owner : TypeUse) : Place :=
  ⟨{ type := owner.declaredNames }, owner⟩

/-- The place of a type that stands for itself: the type around it declares the parameters. -/
def TypeUse.ownPlace (type : TypeUse) : Place :=
  ⟨{ type := type.declaring.elim [] declaredNames }, type⟩

theorem TypeUse.ownerPlace_eq (owner : TypeUse) :
    owner.ownerPlace = ⟨{ type := owner.genericNames }, owner⟩ := by
  rw [ownerPlace, genericNames_eq_declaredNames]

theorem TypeUse.ownPlace_eq (type : TypeUse) :
    type.ownPlace = ⟨{ type := (type.declaring.map genericNames).getD [] }, type⟩ := by
  rw [ownPlace]
  cases type.declaring with
  | none => rfl
  | some outer =>
      rw [Option.map_some, Option.getD_some, genericNames_eq_declaredNames]
      rfl

theorem TypeUse.id_eq_outcome (settings : Settings) (type : TypeUse) :
    type.id settings =
      outcome (firstFault? settings (type.ownPlace.visits settings.maxDepth))
        (Signature.type type.ownPlace.outline).render := by
  rw [ownPlace_eq]
  simp only [id, signature, shape_eq_outcome, map_outcome]
  rfl

namespace Member

def Rule.category : Rule → Category
  | .method => .method
  | .property => .property
  | .field => .field
  | .event => .event
  | .nestedType => .type

def parameterPlaces (method : Member) (parameters : List Parameter) : List Place :=
  parameters.map fun parameter => ⟨method.shownScope, parameter.shownType⟩

def resultPlace? (method : Member) : Option Place :=
  if method.IsConversionOperator then
    method.result.map fun result => ⟨method.shownScope, result⟩
  else
    none

/-- The index of a property: the parameters of the getter, or where it has none those of the setter
but for the assigned value, in the scope of that accessor. -/
def indexPlaces (property : Member) : List Place :=
  let ofGetter := property.getter.elim [] fun getter => getter.parameterPlaces getter.parameters
  let ofSetter := property.setter.elim [] fun setter =>
    setter.parameterPlaces (setter.parameters.take (setter.parameters.length - 1))
  if ofGetter.isEmpty then ofSetter else ofGetter

/-- The place of a nested type, of which no more is known than its name and the type around it. -/
def nestedPlace (member : Member) : Place :=
  ⟨{ type := member.declaring.declaredNames },
    { name := member.name, declaring := some member.declaring }⟩

/-- The types that an identifier shows behind the owner, from left to right. -/
def placesBehindOwner (member : Member) : Rule → List Place
  | .method =>
      member.parameterPlaces member.spelledParameters ++ member.resultPlace?.toList
  | .property => member.indexPlaces
  | .field | .event | .nestedType => []

/-- The types that an identifier shows under a rule. A nested type is an element of its own. -/
def placesBy (member : Member) : Rule → List Place
  | .nestedType => [member.nestedPlace]
  | rule => member.declaring.ownerPlace :: member.placesBehindOwner rule

def missingResult? (method : Member) : Option Fault :=
  if method.IsConversionOperator ∧ method.result = none then
    some (.noResult method.name method.declaring.qualifiedName)
  else
    none

def missingResultBy (member : Member) : Rule → Option Fault
  | .method => member.missingResult?
  | _ => none

theorem missingResultBy_ne_tooDeep (member : Member) (rule : Rule) (limit : Nat) :
    member.missingResultBy rule ≠ some (.tooDeep limit) := by
  cases rule <;> simp [missingResultBy, missingResult?]

/-- What an identifier shows of a member under a rule: the owner, the name, the generic arity and,
of the parameters and the result, what it shows of the types. -/
def outlineBy (member : Member) : Rule → Signature
  | .method =>
      let owner := member.declaring.ownerPlace.outline
      let parameters := (member.parameterPlaces member.spelledParameters).map Place.outline
      if member.IsIndexerAccessor then
        .property owner member.shownName parameters
      else
        .method owner member.shownName member.typeParameters.length parameters
          (member.resultPlace?.map Place.outline)
  | .property =>
      .property member.declaring.ownerPlace.outline member.name
        (member.indexPlaces.map Place.outline)
  | .field => .field member.declaring.ownerPlace.outline member.name
  | .event => .event member.declaring.ownerPlace.outline member.name
  | .nestedType => .type member.nestedPlace.outline

/-- The visits made for the identifier of a member: to the owner, then to the parameters, then to
the result. -/
def visits (settings : Settings) (member : Member) : List Visit :=
  (member.kind.rule?.elim [] member.placesBy).flatMap (Place.visits settings.maxDepth)

def outline? (member : Member) : Option Signature :=
  member.kind.rule?.map member.outlineBy

def faults (settings : Settings) (member : Member) : List Fault :=
  (member.visits settings).filterMap (Visit.fault? settings) ++
    (member.kind.rule?.bind member.missingResultBy).toList

/-- The classes of the faults in their order. That a conversion has no result comes last. -/
def errorKinds (settings : Settings) (member : Member) : List Fault.Kind :=
  (member.visits settings).filterMap (Visit.errorKind? settings) ++
    if member.IsConversionOperator ∧ member.result = none then [.invalidArgument] else []

section Encoder

variable (member : Member)

theorem parameterPlaces_eq (parameters : List Parameter) :
    member.parameterPlaces parameters =
      parameters.map fun parameter => ⟨member.signatureScope, parameter.occurrence⟩ := by
  simp only [parameterPlaces, signatureScope_eq_shownScope, Parameter.occurrence_eq_shownType]

theorem resultPlace?_eq :
    member.resultPlace? =
      if member.isConversion then
        member.result.map fun result => ⟨member.signatureScope, result⟩
      else
        none := by
  simp only [resultPlace?, isConversion_iff, signatureScope_eq_shownScope]

theorem indexPlaces_eq (property : Member) :
    property.indexPlaces =
      property.index?.elim [] fun (accessor, index) => accessor.parameterPlaces index := by
  by_cases hgetter : ∀ getter, property.getter = some getter → getter.parameters = []
  · have hempty : (property.getter.elim [] fun getter =>
        getter.parameterPlaces getter.parameters) = [] := by
      cases hsome : property.getter with
      | none => rfl
      | some getter =>
          rw [Option.elim_some, hgetter getter hsome]
          rfl
    rw [index?_of_forall_getter hgetter, indexPlaces, hempty]
    cases property.setter with
    | none => rfl
    | some setter =>
        by_cases hvalue : 1 < setter.parameters.length
        · simp [Option.filter_some, hvalue, List.dropLast_eq_take]
        · -- besides the assigned value there is nothing, and so no index
          have hlength : setter.parameters.length - 1 = 0 := by omega
          simp [Option.filter_some, hvalue, hlength, parameterPlaces]
  · simp only [not_forall] at hgetter
    obtain ⟨getter, hsome, hparameters⟩ := hgetter
    rw [index?_of_getter hsome hparameters, indexPlaces, hsome]
    simp [parameterPlaces, hparameters]

theorem nestedPlace_eq : member.nestedPlace = member.nestedTypeUse.ownPlace :=
  rfl

theorem outlineBy_method :
    member.outlineBy .method =
      let owner := member.declaring.ownerPlace.outline
      let parameters := (member.parameterPlaces member.spelledParameters).map Place.outline
      if member.accessesIndexer then
        .property owner "Item" parameters
      else
        .method owner member.spelledName member.arity parameters
          (member.resultPlace?.map Place.outline) := by
  by_cases haccess : member.IsIndexerAccessor <;>
    simp [outlineBy, shownName_eq, accessesIndexer_iff, haccess, arity]

end Encoder

def firstFaultIn? (settings : Settings) (places : List Place) : Option Fault :=
  firstFault? settings (places.flatMap (Place.visits settings.maxDepth))

@[simp] theorem firstFaultIn?_nil (settings : Settings) : firstFaultIn? settings [] = none := rfl

@[simp] theorem firstFaultIn?_cons (settings : Settings) (place : Place) (places : List Place) :
    firstFaultIn? settings (place :: places) =
      (firstFault? settings (place.visits settings.maxDepth)).or
        (firstFaultIn? settings places) := by
  rw [firstFaultIn?, List.flatMap_cons, firstFault?_append]
  rfl

theorem firstFaultIn?_append (settings : Settings) (places places' : List Place) :
    firstFaultIn? settings (places ++ places') =
      (firstFaultIn? settings places).or (firstFaultIn? settings places') := by
  rw [firstFaultIn?, List.flatMap_append, firstFault?_append]
  rfl

theorem placesBy_of_ne {rule : Rule} (h : rule ≠ .nestedType) (member : Member) :
    member.placesBy rule = member.declaring.ownerPlace :: member.placesBehindOwner rule := by
  cases rule with
  | method | property | field | event => rfl
  | nestedType => exact absurd rfl h

theorem ownerShape_eq_outcome (settings : Settings) (owner : TypeUse) :
    owner.ownerShape settings =
      outcome (firstFault? settings (owner.ownerPlace.visits settings.maxDepth))
        owner.ownerPlace.outline := by
  rw [TypeUse.ownerPlace_eq]
  exact TypeUse.shape_eq_outcome settings _ 0 owner

theorem parameterShapes_eq_outcome (settings : Settings) (method : Member)
    (parameters : List Parameter) :
    method.parameterShapes settings parameters =
      outcome (firstFaultIn? settings (method.parameterPlaces parameters))
        ((method.parameterPlaces parameters).map Place.outline) := by
  rw [parameterShapes, TypeUse.shapes_eq_outcome, firstFaultIn?, parameterPlaces_eq]
  simp only [List.flatMap_map, List.map_map]
  rfl

theorem resultShape_eq_outcome (settings : Settings) (method : Member) :
    method.resultShape settings =
      outcome ((firstFaultIn? settings method.resultPlace?.toList).or method.missingResult?)
        (method.resultPlace?.map Place.outline) := by
  simp only [resultShape, resultPlace?_eq, missingResult?, ← isConversion_iff]
  by_cases hconversion : method.isConversion = true
  · cases hresult : method.result with
    | none => simp [hconversion]
    | some result =>
        simp [hconversion, TypeUse.shape_eq_outcome, map_outcome, Place.visits, Place.outline]
  · simp [hconversion]

theorem rule_of_isIndexerAccessor {member : Member} {rule : Rule}
    (h : member.IsIndexerAccessor) (hrule : member.kind.rule? = some rule) : rule = .method := by
  rw [h.1] at hrule
  exact (Option.some.inj hrule).symm

theorem isConversion_of_accessesIndexer {method : Member} (h : method.accessesIndexer = true) :
    method.isConversion = false := by
  simp only [accessesIndexer, Bool.and_eq_true, Bool.or_eq_true, beq_iff_eq] at h
  rcases h.2 with hname | hname <;> simp [isConversion, hname]

theorem methodSignature_eq_outcome (settings : Settings) (method : Member) :
    method.methodSignature settings =
      outcome ((firstFaultIn? settings (method.placesBy .method)).or method.missingResult?)
        (method.outlineBy .method) := by
  simp only [methodSignature, placesBy, placesBehindOwner, outlineBy_method, spelledParameters_eq,
    firstFaultIn?_cons, firstFaultIn?_append, ownerShape_eq_outcome, parameterShapes_eq_outcome,
    resultShape_eq_outcome]
  by_cases haccess : method.accessesIndexer = true
  · have hconversion := isConversion_of_accessesIndexer haccess
    simp [haccess, hconversion, resultPlace?_eq, missingResult?, ← isConversion_iff,
      outcome_bind_ok, outcome_bind_outcome]
  · simp [haccess, outcome_bind_ok, outcome_bind_outcome, Option.or_assoc]

theorem propertySignature_eq_outcome (settings : Settings) (property : Member) :
    property.propertySignature settings =
      outcome (firstFaultIn? settings (property.placesBy .property))
        (property.outlineBy .property) := by
  simp only [propertySignature, placesBy, placesBehindOwner, outlineBy, indexPlaces_eq,
    firstFaultIn?_cons, ownerShape_eq_outcome]
  cases property.index? with
  | none => simp [outcome_bind_ok]
  | some indexed =>
      simp [parameterShapes_eq_outcome, outcome_bind_ok, outcome_bind_outcome]

theorem signatureBy_eq_outcome (settings : Settings) (member : Member) (rule : Rule) :
    member.signatureBy settings rule =
      outcome ((firstFaultIn? settings (member.placesBy rule)).or (member.missingResultBy rule))
        (member.outlineBy rule) := by
  cases rule with
  | method => exact methodSignature_eq_outcome settings member
  | property =>
      rw [signatureBy, propertySignature_eq_outcome]
      simp [missingResultBy]
  | field =>
      simp [signatureBy, placesBy, placesBehindOwner, missingResultBy, outlineBy,
        ownerShape_eq_outcome, map_outcome]
  | event =>
      simp [signatureBy, placesBy, placesBehindOwner, missingResultBy, outlineBy,
        ownerShape_eq_outcome, map_outcome]
  | nestedType =>
      simp only [signatureBy, TypeUse.signature, TypeUse.shape_eq_outcome, map_outcome]
      simp only [placesBy, missingResultBy, outlineBy, nestedPlace_eq, TypeUse.ownPlace_eq]
      simp [Place.visits, Place.outline]

theorem category_outlineBy {member : Member} {rule : Rule} (hrule : member.kind.rule? = some rule) :
    (member.outlineBy rule).category =
      if member.IsIndexerAccessor then .property else rule.category := by
  by_cases haccess : member.IsIndexerAccessor
  · obtain rfl := rule_of_isIndexerAccessor haccess hrule
    simp [outlineBy, haccess, Signature.category]
  · cases rule <;> simp [outlineBy, haccess, Signature.category, Rule.category]

theorem head?_faults {settings : Settings} {member : Member} {rule : Rule}
    (hrule : member.kind.rule? = some rule) :
    (member.faults settings).head? =
      (firstFaultIn? settings (member.placesBy rule)).or (member.missingResultBy rule) := by
  rw [faults, visits, hrule, List.head?_append, List.head?_filterMap, Option.bind_some,
    Option.head?_toList]
  rfl

/-- The identifier in one equation: the first fault, or else the text of the outline. -/
theorem id_eq_outcome {settings : Settings} {member : Member} {rule : Rule}
    (hrule : member.kind.rule? = some rule) :
    member.id settings =
      outcome (member.faults settings).head? (member.outlineBy rule).render := by
  rw [id, signature_of_rule? hrule]
  simp only [signatureBy_eq_outcome, map_outcome, head?_faults hrule]

/-- A member with an identifier has an outline, and the identifier is the text of it. -/
theorem exists_outlineBy_of_id_eq_ok {settings : Settings} {member : Member} {text : String}
    (h : member.id settings = .ok text) :
    ∃ rule, member.kind.rule? = some rule ∧ member.faults settings = [] ∧
      (member.outlineBy rule).render = text := by
  cases hrule : member.kind.rule? with
  | none =>
      rw [id, signature_of_unknown (Kind.rule?_eq_none_iff.mp hrule)] at h
      cases h
  | some rule =>
      rw [id_eq_outcome hrule, outcome_eq_ok_iff, List.head?_eq_none_iff] at h
      exact ⟨rule, rfl, h⟩

theorem kind_missingResultBy (member : Member) :
    (member.kind.rule?.bind member.missingResultBy).toList.map Fault.kind =
      if member.IsConversionOperator ∧ member.result = none then [.invalidArgument] else [] := by
  by_cases hmissing : member.IsConversionOperator ∧ member.result = none
  · have hrule : member.kind.rule? = some .method := by
      rw [hmissing.1.1, Kind.rule?]
    simp [hrule, missingResultBy, missingResult?, hmissing, Fault.kind]
  · rw [if_neg hmissing]
    cases member.kind.rule? with
    | none => rfl
    | some rule => cases rule <;> simp [missingResultBy, missingResult?, hmissing]

theorem kind_faults (settings : Settings) (member : Member) :
    (member.faults settings).map Fault.kind = member.errorKinds settings := by
  rw [faults, errorKinds, List.map_append, kind_missingResultBy, List.map_filterMap]
  simp only [Visit.kind_fault?]

/-- The faults of a member are those of its visits, but for a missing result. -/
theorem exists_visit_or_eq_noResult {settings : Settings} {member : Member} {fault : Fault}
    (h : fault ∈ member.faults settings) :
    (∃ visit ∈ member.visits settings, visit.fault? settings = some fault) ∨
      fault = .noResult member.name member.declaring.qualifiedName := by
  rw [faults, List.mem_append, List.mem_filterMap] at h
  refine h.imp_right fun hmissing => ?_
  rw [Option.mem_toList, Option.bind_eq_some_iff] at hmissing
  obtain ⟨rule, -, hmissing⟩ := hmissing
  cases rule with
  | method =>
      rw [missingResultBy, missingResult?] at hmissing
      split at hmissing
      · exact (Option.some.inj hmissing).symm
      · cases hmissing
  | property | field | event | nestedType => cases hmissing

theorem eq_tooDeep_of_mem_faults {settings : Settings} {member : Member} {fault : Fault}
    (hfault : fault ∈ member.faults settings) (hkind : fault.kind = .recursionLimit) :
    fault = .tooDeep settings.maxDepth := by
  rcases exists_visit_or_eq_noResult hfault with ⟨visit, -, hvisit⟩ | rfl
  · obtain ⟨limit, rfl⟩ := fault.exists_eq_tooDeep hkind
    rw [(Visit.fault?_eq_tooDeep hvisit).1]
  · cases hkind

/-- A member of a known kind has an identifier unless a fault is met, and then the first one is
reported. -/
theorem id_eq_error_iff {settings : Settings} {member : Member} (hkind : member.kind ≠ .unknown) :
    (∀ fault, member.id settings = .error fault ↔
        (member.faults settings).head? = some fault) ∧
      ((∃ text, member.id settings = .ok text) ↔ member.faults settings = []) ∧
      (member.faults settings).map Fault.kind = member.errorKinds settings ∧
      ∀ fault ∈ member.faults settings, fault.kind = .recursionLimit →
        fault = .tooDeep settings.maxDepth := by
  obtain ⟨rule, hrule⟩ := Kind.exists_rule?_of_ne hkind
  rw [id_eq_outcome hrule]
  refine ⟨fun fault => outcome_eq_error_iff, ?_, kind_faults settings member,
    fun fault => eq_tooDeep_of_mem_faults⟩
  simp only [outcome_eq_ok_iff, List.head?_eq_none_iff, exists_and_left, exists_eq', and_true]

/-- Faults in the owner, in a parameter and at the result compete. The parameter is passed out, and
what the method declares of it is no fault. -/
theorem id_eq_error_iff_conversion :
    let cells := TypeUse.array (.builtin .int32) 0
    let owner := (TypeUse.named "Sample" "Box`1").appliedTo
      [cells, .pointer cells, .functionPointer]
    let span := (TypeUse.named "System" "Span").appliedTo
      [.genericParameter "U" 0, .genericParameter "T" 0]
    let conversion := (((Member.method owner "op_Explicit").withSpecialName).withTypeParameters
      ["U"]).withParameter { type := span, isOut := true }
    conversion.kind ≠ .unknown ∧
      conversion.faults ⟨.strict, 2⟩ =
        [.noDimension "System.Int32", .tooDeep 2, .functionPointer, .undeclaredParameter "T",
          .noResult "op_Explicit" "Sample.Box`1"] ∧
      conversion.errorKinds ⟨.strict, 2⟩ =
        [.invalidArgument, .recursionLimit, .unsupported, .invalidArgument, .invalidArgument] ∧
      conversion.id ⟨.strict, 2⟩ = .error (.noDimension "System.Int32") := by
  intro cells owner span conversion
  have hkind : conversion.kind ≠ .unknown := by decide
  have hfaults : conversion.faults ⟨.strict, 2⟩ =
      [.noDimension "System.Int32", .tooDeep 2, .functionPointer, .undeclaredParameter "T",
        .noResult "op_Explicit" "Sample.Box`1"] := by
    decide
  obtain ⟨hid, -, hkinds, -⟩ := @id_eq_error_iff ⟨.strict, 2⟩ conversion hkind
  refine ⟨hkind, hfaults, ?_, (hid _).mpr ?_⟩
  · rw [← hkinds, hfaults]
    rfl
  · rw [hfaults]
    rfl

end Member

end CommentId
