import CommentId.Proofs.Scoping
import CommentId.Proofs.TypeUse.Plainness

/-!
Reference markers at the end of names. Main statement: a marked reference is spelled like the type
it refers to, with an at sign behind it, exactly when nothing looks at the end of the name: the type
is no instance whose name ends in an arity marker, and no generic parameter whose declaration is
looked up under another name.
-/

namespace CommentId

theorem ArityMarker.base?_append_marker (name : String) : base? (name ++ "&") = none := by
  have hreverse : (name ++ "&").toList.reverse = '&' :: name.toList.reverse := by
    simp
  rw [base?, baseChars?, hreverse]
  rfl

theorem ArityMarker.strip_append_marker (name : String) : strip (name ++ "&") = name ++ "&" := by
  rw [strip, base?_append_marker]
  rfl

theorem Shape.render_named_inj_path {path path' : String} {arguments : List Shape} :
    (named path arguments).render = (named path' arguments).render ↔ path = path' := by
  cases arguments with
  | nil => simp
  | cons argument arguments => simp

theorem Shape.render_genericParameter_inj_level {level level' : Level} {position : Nat} :
    (genericParameter level position).render = (genericParameter level' position).render ↔
      level = level' := by
  cases level <;> cases level' <;> simp [render, Level.ticks]

namespace TypeUse

/-- The occurrence of a type by reference as metadata reports it, with a marker behind the name. -/
def asMarkedReference (type : TypeUse) : TypeUse :=
  { type with name := type.name ++ "&", isReference := true }

/-- The marker behind the name of a type changes nothing in how it is spelled. -/
structure IgnoresMarker (scoping : Scoping) (scope : Scope) (type : TypeUse) : Prop where
  arity : type.form = .named → type.showsArguments scope = true → type.isArityMarked = false
  inType : type.isGenericParameter = true →
    (type.name ++ "&" ∈ scope.type ↔ type.name ∈ scope.type)
  inMethod : type.isGenericParameter = true → scoping = .strict →
    (type.name ++ "&" ∈ scope.method ↔ type.name ∈ scope.method)

theorem withoutMarkers_append (text text' : String) :
    withoutMarkers (text ++ text') = withoutMarkers text ++ withoutMarkers text' := by
  simp [withoutMarkers]

theorem exists_path_eq_append (type : TypeUse) :
    ∃ front, ∀ name, type.path name = front ++ withoutMarkers name := by
  cases hqualifiers : type.qualifiers with
  | nil =>
      refine ⟨"", fun name => ?_⟩
      rw [path_eq, hqualifiers, List.nil_append, String.intercalate_singleton, String.empty_append]
  | cons text texts =>
      refine ⟨withoutMarkers (".".intercalate (text :: texts) ++ "."), fun name => ?_⟩
      rw [path_eq, hqualifiers,
        String.intercalate_append_of_ne_nil (List.cons_ne_nil _ _) (List.cons_ne_nil _ _),
        String.intercalate_singleton, withoutMarkers_append]

theorem path_append_marker (type : TypeUse) (name : String) :
    type.path (name ++ "&") = type.path name := by
  obtain ⟨front, hfront⟩ := type.exists_path_eq_append
  have hmarker : withoutMarkers "&" = "" := by
    decide
  rw [hfront, hfront, withoutMarkers_append, hmarker, String.append_empty]

/-- An arity marker is never lost among the reference markers. -/
theorem path_strip_eq_iff {type : TypeUse} {name : String} :
    type.path (ArityMarker.strip name) = type.path name ↔ ArityMarker.isMarked name = false := by
  obtain ⟨front, hfront⟩ := type.exists_path_eq_append
  rw [hfront, hfront]
  rw [ArityMarker.strip, ArityMarker.isMarked]
  cases hbase : ArityMarker.base? name with
  | none => simp
  | some base =>
      obtain ⟨cs, hcs, rfl⟩ := Option.map_eq_some_iff.mp hbase
      obtain ⟨digits, -, -, hname⟩ := ArityMarker.eq_append_of_baseChars? hcs
      refine iff_of_false (fun h => ?_) (by simp)
      have hlength := congrArg (fun text => text.toList.length) h
      simp [withoutMarkers, hname] at hlength

section Occurrence

variable {settings : Settings} {scope : Scope} {depth : Nat} {type : TypeUse}

theorem path_asMarkedReference (type : TypeUse) (text : String) :
    type.asMarkedReference.path text = type.path text :=
  path_congr (show type.asMarkedReference.ns = type.ns from rfl) rfl text

theorem showsArguments_asMarkedReference (hsignature : scope.inSignature = true) :
    type.asMarkedReference.showsArguments scope = type.showsArguments scope := by
  simp [showsArguments, isInstantiated, asMarkedReference, hsignature]

theorem visitsBelow_asMarkedReference (hsignature : scope.inSignature = true) (maxDepth : Nat) :
    type.asMarkedReference.visitsBelow maxDepth scope depth =
      type.visitsBelow maxDepth scope depth := by
  simp only [visitsBelow, ← showsArguments_iff, showsArguments_asMarkedReference hsignature]
  rfl

theorem firstFault?_asMarkedReference (hsignature : scope.inSignature = true)
    (hclear : firstFault? settings (type.visits settings.maxDepth scope depth) = none) :
    firstFault? settings (type.asMarkedReference.visits settings.maxDepth scope depth) = none ↔
      (type.isGenericParameter = true →
        scope.fault? settings.scoping (type.name ++ "&") = none) := by
  rw [visits_eq, firstFault?_cons, Option.or_eq_none_iff] at hclear ⊢
  obtain ⟨hroot, hbelow⟩ := hclear
  have hdepth := Nat.not_le_of_lt (Visit.depth_lt_of_fault?_eq_none hroot)
  rw [visitsBelow_asMarkedReference hsignature, hbelow]
  simp only [Visit.fault?, hdepth, if_false, asMarkedReference] at hroot ⊢
  cases hform : type.form <;> simp_all [isGenericParameter]

theorem render_outline_asMarkedReference (hsignature : scope.inSignature = true)
    (hreference : type.isReference = false) :
    (type.asMarkedReference.outline scope).render = (type.outline scope).render ++ "@" ↔
      (type.form = .named → type.showsArguments scope = true → type.isArityMarked = false) ∧
        (type.isGenericParameter = true →
          scope.levelOf (type.name ++ "&") = scope.levelOf type.name) := by
  rw [outline_eq, outline_eq scope type, showsArguments_asMarkedReference hsignature, hreference,
    path_asMarkedReference, path_asMarkedReference]
  simp only [asMarkedReference, Shape.referenceIf, if_true, Bool.false_eq_true, if_false,
    Shape.render, String.append_left_inj, ArityMarker.strip_append_marker, path_append_marker]
  cases hform : type.form with
  | named =>
      by_cases hshows : type.showsArguments scope = true
      · simp only [hshows, if_true, Shape.render_named_inj_path]
        rw [eq_comm, path_strip_eq_iff]
        simp [isArityMarked, isGenericParameter, hform]
      · simp [hshows, isGenericParameter, hform]
  | genericParameter position =>
      rw [Shape.render_genericParameter_inj_level]
      simp [isGenericParameter, hform]
  | array element rank => simp [isGenericParameter, hform]
  | pointer element => simp [isGenericParameter, hform]
  | functionPointer => simp [isGenericParameter, hform]

theorem fault?_and_levelOf_iff {scoping : Scoping} {name name' : String}
    (hclear : scope.fault? scoping name = none) :
    (scope.fault? scoping name' = none ∧ scope.levelOf name' = scope.levelOf name) ↔
      (name' ∈ scope.type ↔ name ∈ scope.type) ∧
        (scoping = .strict → (name' ∈ scope.method ↔ name ∈ scope.method)) := by
  cases scoping with
  | byName =>
      by_cases htype : name ∈ scope.type <;> by_cases htype' : name' ∈ scope.type <;>
        simp [Scope.fault?, Scope.levelOf, htype, htype']
  | strict =>
      have hlevel : scope.level .strict name = .ok (scope.levelOf name) := by
        rw [Scope.level_eq_outcome, hclear, outcome_none]
      rw [← outcome_eq_ok_iff, ← Scope.level_eq_outcome, Scope.level_strict_eq_ok_iff]
      rw [Scope.level_strict_eq_ok_iff] at hlevel
      rcases hlevel with ⟨hlevel, htype, hmethod⟩ | ⟨hlevel, htype, hmethod⟩ <;>
        simp [hlevel, htype, hmethod]

theorem ignoresMarker_iff (hsignature : scope.inSignature = true)
    (hreference : type.isReference = false)
    (hclear : firstFault? settings (type.visits settings.maxDepth scope depth) = none) :
    (firstFault? settings (type.asMarkedReference.visits settings.maxDepth scope depth) = none ∧
        (type.asMarkedReference.outline scope).render = (type.outline scope).render ++ "@") ↔
      type.IgnoresMarker settings.scoping scope := by
  have hname : type.isGenericParameter = true →
      scope.fault? settings.scoping type.name = none := by
    intro hparameter
    have hroot := fault?_self_eq_none hclear
    have hdepth := Visit.depth_lt_of_fault?_eq_none hroot
    rwa [Visit.fault?_of_isGenericParameter hparameter hdepth] at hroot
  rw [firstFault?_asMarkedReference hsignature hclear,
    render_outline_asMarkedReference hsignature hreference]
  constructor
  · rintro ⟨hfault, harity, hlevel⟩
    have hlookup (hparameter : type.isGenericParameter = true) :=
      (fault?_and_levelOf_iff (hname hparameter)).mp ⟨hfault hparameter, hlevel hparameter⟩
    exact ⟨harity, fun hparameter => (hlookup hparameter).1,
      fun hparameter => (hlookup hparameter).2⟩
  · intro h
    have hlookup (hparameter : type.isGenericParameter = true) :=
      (fault?_and_levelOf_iff (hname hparameter)).mpr ⟨h.inType hparameter, h.inMethod hparameter⟩
    exact ⟨fun hparameter => (hlookup hparameter).1, h.arity,
      fun hparameter => (hlookup hparameter).2⟩

end Occurrence

end TypeUse

namespace Member

/-- A method with one parameter, which is not passed out. -/
def taking (declaring : TypeUse) (name : String) (typeParameters : List String) (type : TypeUse) :
    Member :=
  ((method declaring name).withTypeParameters typeParameters).withParameter { type }

/-- What stands in front of the parameters of a method. -/
def heading (declaring : TypeUse) (name : String) (typeParameters : List String) : String :=
  "M:" ++ declaring.ownerPlace.outline.render ++ "." ++ name ++
    Signature.arityMark typeParameters.length

/-- The scope of that parameter. -/
def parameterScope (declaring : TypeUse) (typeParameters : List String) : Scope where
  type := declaring.declaredNames
  method := typeParameters
  inSignature := true

section Taking

variable (settings : Settings) (declaring : TypeUse) (name : String)
  (typeParameters : List String) (type : TypeUse)

theorem not_isSpecial_taking : ¬(taking declaring name typeParameters type).IsSpecial := by
  have hflags : ¬Nat.testBit 0 11 = true := by
    decide
  exact hflags

theorem not_isIndexerAccessor_taking :
    ¬(taking declaring name typeParameters type).IsIndexerAccessor :=
  fun h => not_isSpecial_taking declaring name typeParameters type h.2.1

theorem not_isConversionOperator_taking :
    ¬(taking declaring name typeParameters type).IsConversionOperator :=
  fun h => not_isSpecial_taking declaring name typeParameters type h.2.1

theorem parameterPlaces_taking :
    (taking declaring name typeParameters type).parameterPlaces
        (taking declaring name typeParameters type).spelledParameters =
      [⟨parameterScope declaring typeParameters, type⟩] := by
  rw [spelledParameters,
    if_neg fun h => not_isIndexerAccessor_taking declaring name typeParameters type h.1]
  rfl

theorem outlineBy_taking :
    (taking declaring name typeParameters type).outlineBy .method =
      .method declaring.ownerPlace.outline name typeParameters.length
        [type.outline (parameterScope declaring typeParameters)] none := by
  have hname : (taking declaring name typeParameters type).shownName = name :=
    shownName_of_not_isIndexerAccessor nofun
      (not_isIndexerAccessor_taking declaring name typeParameters type)
  simp only [outlineBy, not_isIndexerAccessor_taking, parameterPlaces_taking, resultPlace?,
    not_isConversionOperator_taking, hname, if_false]
  rfl

theorem render_outlineBy_taking :
    ((taking declaring name typeParameters type).outlineBy .method).render =
      heading declaring name typeParameters ++ "(" ++
        (type.outline (parameterScope declaring typeParameters)).render ++ ")" := by
  rw [outlineBy_taking, Signature.render_method]
  simp [Signature.parameterList, Signature.resultMark, Shape.enclose, heading,
    String.append_assoc]

theorem placesBy_taking :
    (taking declaring name typeParameters type).placesBy .method =
      [declaring.ownerPlace, ⟨parameterScope declaring typeParameters, type⟩] := by
  simp only [placesBy, placesBehindOwner, parameterPlaces_taking, resultPlace?,
    not_isConversionOperator_taking, if_false]
  rfl

theorem head?_faults_taking :
    ((taking declaring name typeParameters type).faults settings).head? =
      (TypeUse.firstFault? settings (declaring.ownerPlace.visits settings.maxDepth)).or
        (TypeUse.firstFault? settings (type.visits settings.maxDepth
          (parameterScope declaring typeParameters) 0)) := by
  have hrule : (taking declaring name typeParameters type).kind.rule? = some .method := rfl
  rw [head?_faults hrule, placesBy_taking, missingResultBy, missingResult?]
  simp [Place.visits, not_isConversionOperator_taking]

end Taking

variable {settings : Settings} {declaring type : TypeUse} {name text : String}
  {typeParameters : List String}

/-- The type is spelled between the parentheses, and the marked reference like it with an at sign
behind, unless something looks at the marker. -/
theorem id_asMarkedReference_iff (hreference : type.isReference = false)
    (hid : (taking declaring name typeParameters type).id settings = .ok text) :
    ∃ parameter, text = heading declaring name typeParameters ++ "(" ++ parameter ++ ")" ∧
      ((taking declaring name typeParameters type.asMarkedReference).id settings =
          .ok (heading declaring name typeParameters ++ "(" ++ (parameter ++ "@") ++ ")") ↔
        type.IgnoresMarker settings.scoping (parameterScope declaring typeParameters)) := by
  have hrule (type : TypeUse) :
      (taking declaring name typeParameters type).kind.rule? = some .method := rfl
  rw [id_eq_outcome (hrule type), head?_faults_taking, render_outlineBy_taking,
    outcome_eq_ok_iff, Option.or_eq_none_iff] at hid
  obtain ⟨⟨howner, hclear⟩, rfl⟩ := hid
  refine ⟨_, rfl, ?_⟩
  rw [id_eq_outcome (hrule _), head?_faults_taking, render_outlineBy_taking, outcome_eq_ok_iff,
    howner, Option.none_or, String.append_left_inj, String.append_right_inj]
  exact TypeUse.ignoresMarker_iff rfl hreference hclear

/-- A vector of a generic parameter of the owner: the name of the parameter carries no marker. -/
theorem id_asMarkedReference_iff_vector :
    let box := (TypeUse.named "Sample" "Box`1").definedOver ["T"]
    let vector := TypeUse.array (.genericParameter "T" 0) 1
    vector.isReference = false ∧
      (taking box "Swap" [] vector).id .strict = .ok "M:Sample.Box`1.Swap(`0[])" ∧
      vector.IgnoresMarker .strict (parameterScope box []) ∧
      (taking box "Swap" [] vector.asMarkedReference).id .strict =
        .ok "M:Sample.Box`1.Swap(`0[]@)" := by
  intro box vector
  have hid : (taking box "Swap" [] vector).id .strict = .ok "M:Sample.Box`1.Swap(`0[])" := by
    decide
  have hignores : vector.IgnoresMarker .strict (parameterScope box []) :=
    ⟨nofun, nofun, nofun⟩
  obtain ⟨parameter, htext, hmarked⟩ := id_asMarkedReference_iff rfl hid
  have hheading : heading box "Swap" [] = "M:Sample.Box`1.Swap" := by
    decide
  have hsplit : "M:Sample.Box`1.Swap(`0[])" = "M:Sample.Box`1.Swap" ++ "(" ++ "`0[]" ++ ")" := by
    decide
  rw [hheading, hsplit, String.append_left_inj, String.append_right_inj] at htext
  subst htext
  rw [hheading] at hmarked
  exact ⟨rfl, hid, hignores, hmarked.mpr hignores⟩

/-- Behind an arity marker, a reference marker keeps it from being replaced by the arguments. -/
theorem id_asMarkedReference_list :
    let list := (TypeUse.named "System.Collections.Generic" "List`1").appliedTo [.builtin .string]
    let swap := taking (.named "Sample" "Widget") "Swap" []
    (swap list).id .standard =
        .ok "M:Sample.Widget.Swap(System.Collections.Generic.List\x7bSystem.String\x7d)" ∧
      (swap list.asMarkedReference).id .standard =
        .ok "M:Sample.Widget.Swap(System.Collections.Generic.List`1\x7bSystem.String\x7d@)" ∧
      (swap list.asMarkedReference).id .standard ≠
        .ok "M:Sample.Widget.Swap(System.Collections.Generic.List\x7bSystem.String\x7d@)" := by
  decide

end Member

end CommentId
