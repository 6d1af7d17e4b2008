import CommentId.Proofs.Outcome
import CommentId.Proofs.TypeUse.Shown
import CommentId.TypeUse.Equality

/-!
The visits made while the shape of a type is determined, in the order of reading. Main statement:
a type has a shape exactly when no visit meets a fault, and otherwise the first fault met is the
one reported.
-/

namespace CommentId

namespace Scope

/-- The level of a parameter by its name alone: what the type does not declare belongs to the
method. -/
def levelOf (scope : Scope) (name : String) : Level :=
  if name ∈ scope.type then .type else .method

/-- Under strict scoping, the fault of a name that both lists declare, or that neither does. -/
def fault? (scope : Scope) (scoping : Scoping) (name : String) : Option Fault :=
  match scoping, decide (name ∈ scope.type), decide (name ∈ scope.method) with
  | .strict, true, true => some (.ambiguousParameter name)
  | .strict, false, false => some (.undeclaredParameter name)
  | _, _, _ => none

theorem level_eq_outcome (scope : Scope) (scoping : Scoping) (name : String) :
    scope.level scoping name = outcome (scope.fault? scoping name) (scope.levelOf name) := by
  cases scoping with
  | byName => rfl
  | strict =>
      by_cases htype : name ∈ scope.type <;> by_cases hmethod : name ∈ scope.method <;>
        simp [level, fault?, levelOf, htype, hmethod]

theorem kind_fault? (scope : Scope) (scoping : Scoping) (name : String) :
    (scope.fault? scoping name).map Fault.kind =
      if scoping = .strict ∧ (name ∈ scope.type ↔ name ∈ scope.method) then
        some .invalidArgument
      else
        none := by
  cases scoping with
  | byName => rfl
  | strict =>
      by_cases htype : name ∈ scope.type <;> by_cases hmethod : name ∈ scope.method <;>
        simp [fault?, htype, hmethod, Fault.kind]

theorem fault?_ne_tooDeep (scope : Scope) (scoping : Scoping) (name : String) (limit : Nat) :
    scope.fault? scoping name ≠ some (.tooDeep limit) := by
  unfold fault?
  split <;> nofun

end Scope

theorem Fault.exists_eq_tooDeep {fault : Fault} (h : fault.kind = .recursionLimit) :
    ∃ limit, fault = .tooDeep limit := by
  cases fault with
  | tooDeep limit => exact ⟨limit, rfl⟩
  | _ => cases h

namespace TypeUse

theorem sizeOf_lt_of_mem_arguments {type argument : TypeUse} (h : argument ∈ type.arguments) :
    sizeOf argument < sizeOf type := by
  have hlt := List.sizeOf_lt_of_mem h
  cases type
  simp only [mk.sizeOf_spec] at hlt ⊢
  omega

theorem sizeOf_lt_of_element? {type element : TypeUse} (h : type.element? = some element) :
    sizeOf element < sizeOf type := by
  rcases type with ⟨_, _, _, form, _, _, _, _, _⟩
  cases form <;> simp only [element?, Option.some.injEq, reduceCtorEq] at h
  all_goals
    subst h
    simp only [mk.sizeOf_spec, Form.array.sizeOf_spec, Form.pointer.sizeOf_spec]
    omega

/-- Induction on the types that a type is made of: its arguments and its element. -/
@[elab_as_elim]
theorem inductionOn {motive : TypeUse → Prop} (type : TypeUse)
    (step : ∀ type : TypeUse, (∀ argument ∈ type.arguments, motive argument) →
      (∀ element, type.element? = some element → motive element) → motive type) :
    motive type :=
  step type (fun argument _ => inductionOn argument step)
    (fun element _ => inductionOn element step)
termination_by sizeOf type
decreasing_by
  · exact sizeOf_lt_of_mem_arguments ‹_›
  · exact sizeOf_lt_of_element? ‹_›

/-- A type that is looked at, `depth` levels below the one that a member or an identifier names. -/
structure Visit where
  scope : Scope
  depth : Nat
  type : TypeUse
  deriving DecidableEq, Repr

def Visit.fault? (settings : Settings) (visit : Visit) : Option Fault :=
  if settings.maxDepth ≤ visit.depth then
    some (.tooDeep settings.maxDepth)
  else
    match visit.type.form with
    | .named | .pointer _ => none
    | .genericParameter _ => visit.scope.fault? settings.scoping visit.type.name
    | .array element rank =>
        if rank = 0 then some (.noDimension element.qualifiedName) else none
    | .functionPointer => some .functionPointer

/-- The class of the fault of a visit, if it has one. The limit goes before all others; strict
scoping faults a generic parameter that both lists of names declare, or neither. -/
def Visit.errorKind? (settings : Settings) (visit : Visit) : Option Fault.Kind :=
  if settings.maxDepth ≤ visit.depth then
    some .recursionLimit
  else
    match visit.type.form with
    | .array _ 0 => some .invalidArgument
    | .functionPointer => some .unsupported
    | .genericParameter _ =>
        if settings.scoping = .strict ∧
            (visit.type.name ∈ visit.scope.type ↔ visit.type.name ∈ visit.scope.method) then
          some .invalidArgument
        else
          none
    | .named | .array _ (_ + 1) | .pointer _ => none

theorem Visit.kind_fault? (settings : Settings) (visit : Visit) :
    (visit.fault? settings).map Fault.kind = visit.errorKind? settings := by
  rw [fault?, errorKind?]
  split
  · rfl
  · cases hform : visit.type.form with
    | named | pointer element | functionPointer => rfl
    | genericParameter position =>
        exact visit.scope.kind_fault? settings.scoping visit.type.name
    | array element rank => cases rank <;> rfl

theorem Visit.fault?_eq_tooDeep {settings : Settings} {visit : Visit} {limit : Nat}
    (h : visit.fault? settings = some (.tooDeep limit)) :
    limit = settings.maxDepth ∧ settings.maxDepth ≤ visit.depth := by
  rw [fault?] at h
  split at h
  · cases h
    exact ⟨rfl, ‹_›⟩
  · cases hform : visit.type.form with
    | named | pointer element | functionPointer =>
        rw [hform] at h
        cases h
    | genericParameter position =>
        rw [hform] at h
        exact absurd h (Scope.fault?_ne_tooDeep _ _ _ limit)
    | array element rank =>
        simp only [hform] at h
        split at h <;> cases h

theorem Visit.depth_lt_of_fault?_eq_none {settings : Settings} {visit : Visit}
    (h : visit.fault? settings = none) : visit.depth < settings.maxDepth := by
  apply Nat.lt_of_not_le
  intro hdepth
  rw [fault?, if_pos hdepth] at h
  cases h

mutual

/-- The visits to a type and to those below it, each type before those that it is made of. Nothing
is visited below a type that is too deep, and arguments only where they are spelled out. -/
def visits (maxDepth : Nat) (scope : Scope) (depth : Nat) : TypeUse → List Visit
  | ⟨ns, name, declaring, form, arguments, parameters, isDefinition, isReference, isEnum⟩ =>
      let type : TypeUse :=
        ⟨ns, name, declaring, form, arguments, parameters, isDefinition, isReference, isEnum⟩
      ⟨scope, depth, type⟩ ::
        if maxDepth ≤ depth then
          []
        else
          match form with
          | .named =>
              if type.ShowsArguments scope then
                visitsAll maxDepth scope (depth + 1) arguments
              else
                []
          | .array element rank =>
              if rank = 0 then [] else element.visits maxDepth scope (depth + 1)
          | .pointer element => element.visits maxDepth scope (depth + 1)
          | .genericParameter _ | .functionPointer => []

def visitsAll (maxDepth : Nat) (scope : Scope) (depth : Nat) : List TypeUse → List Visit
  | [] => []
  | type :: types =>
      type.visits maxDepth scope depth ++ visitsAll maxDepth scope depth types

end

mutual

/-- What an identifier shows of a type, with a mark on every occurrence by reference. It depends on
nothing but the scope; a function pointer has no shape, and an empty path stands in for one. -/
def outline (scope : Scope) : TypeUse → Shape
  | ⟨ns, name, declaring, form, arguments, parameters, isDefinition, isReference, isEnum⟩ =>
      let type : TypeUse :=
        ⟨ns, name, declaring, form, arguments, parameters, isDefinition, isReference, isEnum⟩
      let unmarked :=
        match form with
        | .named =>
            .named (type.shownPath (type.shownName scope))
              (if type.ShowsArguments scope then outlines scope arguments else [])
        | .genericParameter position => .genericParameter (scope.levelOf name) position
        | .array element rank => .array (element.outline scope) rank
        | .pointer element => .pointer (element.outline scope)
        | .functionPointer => .named "" []
      if isReference then .reference unmarked else unmarked

def outlines (scope : Scope) : List TypeUse → List Shape
  | [] => []
  | type :: types => type.outline scope :: outlines scope types

end

theorem visitsAll_eq_flatMap (maxDepth : Nat) (scope : Scope) (depth : Nat)
    (types : List TypeUse) :
    visitsAll maxDepth scope depth types =
      types.flatMap (visits maxDepth scope depth) := by
  induction types with
  | nil => rfl
  | cons type types ih => rw [visitsAll, ih, List.flatMap_cons]

theorem outlines_eq_map (scope : Scope) (types : List TypeUse) :
    outlines scope types = types.map (outline scope) := by
  induction types with
  | nil => rfl
  | cons type types ih => rw [outlines, ih, List.map_cons]

def visitsBelow (maxDepth : Nat) (scope : Scope) (depth : Nat) (type : TypeUse) : List Visit :=
  match type.form with
  | .named =>
      if type.ShowsArguments scope then
        type.arguments.flatMap (visits maxDepth scope depth)
      else
        []
  | .array element rank => if rank = 0 then [] else element.visits maxDepth scope depth
  | .pointer element => element.visits maxDepth scope depth
  | .genericParameter _ | .functionPointer => []

theorem visits_eq (maxDepth : Nat) (scope : Scope) (depth : Nat) (type : TypeUse) :
    type.visits maxDepth scope depth =
      ⟨scope, depth, type⟩ ::
        if maxDepth ≤ depth then [] else type.visitsBelow maxDepth scope (depth + 1) := by
  rw [visitsBelow, ← visitsAll_eq_flatMap]
  rcases type with ⟨_, _, _, _ | _ | _ | _ | _, _, _, _, _, _⟩ <;> rw [visits.eq_def]

theorem self_mem_visits (maxDepth : Nat) (scope : Scope) (depth : Nat) (type : TypeUse) :
    ⟨scope, depth, type⟩ ∈ type.visits maxDepth scope depth := by
  rw [visits_eq]
  exact List.mem_cons_self

/-- The outline in the terms of the encoder. -/
theorem outline_eq (scope : Scope) (type : TypeUse) :
    type.outline scope =
      Shape.referenceIf type.isReference
        (match type.form with
        | .named =>
            if type.showsArguments scope then
              .named (type.path (ArityMarker.strip type.name))
                (type.arguments.map (outline scope))
            else
              .named (type.path type.name) []
        | .genericParameter position => .genericParameter (scope.levelOf type.name) position
        | .array element rank => .array (element.outline scope) rank
        | .pointer element => .pointer (element.outline scope)
        | .functionPointer => .named "" []) := by
  simp only [← outlines_eq_map, path_eq_shownPath, showsArguments_iff, strip_name]
  rcases type with ⟨_, _, _, _ | _ | _ | _ | _, _, _, _, _, _⟩ <;>
    rw [outline.eq_def, Shape.referenceIf]
  case named =>
    dsimp only [shownName]
    split <;> split <;> rfl

def firstFault? (settings : Settings) (visits : List Visit) : Option Fault :=
  visits.findSome? (Visit.fault? settings)

@[simp] theorem firstFault?_nil (settings : Settings) : firstFault? settings [] = none := rfl

theorem firstFault?_cons (settings : Settings) (visit : Visit) (visits : List Visit) :
    firstFault? settings (visit :: visits) =
      (visit.fault? settings).or (firstFault? settings visits) := by
  rw [firstFault?, List.findSome?_cons]
  cases visit.fault? settings <;> rfl

theorem firstFault?_append (settings : Settings) (visits visits' : List Visit) :
    firstFault? settings (visits ++ visits') =
      (firstFault? settings visits).or (firstFault? settings visits') :=
  List.findSome?_append

theorem firstFault?_eq_none_iff {settings : Settings} {visits : List Visit} :
    firstFault? settings visits = none ↔ ∀ visit ∈ visits, visit.fault? settings = none :=
  List.findSome?_eq_none_iff

theorem fault?_self_eq_none {settings : Settings} {scope : Scope} {depth : Nat} {type : TypeUse}
    (h : firstFault? settings (type.visits settings.maxDepth scope depth) = none) :
    Visit.fault? settings ⟨scope, depth, type⟩ = none :=
  firstFault?_eq_none_iff.mp h _ (self_mem_visits settings.maxDepth scope depth type)

theorem shapes_eq_outcome_of_forall {settings : Settings} {scope : Scope} {depth : Nat}
    {types : List TypeUse}
    (h : ∀ type ∈ types, type.shape settings scope depth =
      outcome (firstFault? settings (type.visits settings.maxDepth scope depth))
        (type.outline scope)) :
    shapes settings scope depth types =
      outcome (firstFault? settings (types.flatMap (visits settings.maxDepth scope depth)))
        (types.map (outline scope)) := by
  induction types with
  | nil => rfl
  | cons type types ih =>
      have htypes := ih fun type' htype' => h type' (List.mem_cons_of_mem _ htype')
      rw [shapes, h type List.mem_cons_self, htypes, List.flatMap_cons, firstFault?_append]
      change (outcome _ _ >>= fun shape => (outcome _ _).map (shape :: ·)) = _
      simp only [map_outcome]
      exact outcome_bind_outcome _ _ _ (· :: types.map (outline scope))

theorem shape_eq_outcome (settings : Settings) (scope : Scope) (depth : Nat) (type : TypeUse) :
    type.shape settings scope depth =
      outcome (firstFault? settings (type.visits settings.maxDepth scope depth))
        (type.outline scope) := by
  induction type using inductionOn generalizing depth with
  | step type hargument helement =>
      rw [shape_eq, visits_eq, outline_eq, firstFault?_cons]
      by_cases hdepth : settings.maxDepth ≤ depth
      · simp [Visit.fault?, hdepth]
      · have hlist := shapes_eq_outcome_of_forall fun argument hmem =>
          hargument argument hmem (depth + 1)
        simp only [Visit.fault?, hdepth, if_false, visitsBelow]
        cases hform : type.form with
        | named =>
            by_cases hshow : type.ShowsArguments scope
            · simp [showsArguments_iff, hshow, hlist, map_outcome]
            · simp [showsArguments_iff, hshow, Except.map]
        | genericParameter position =>
            simp [Scope.level_eq_outcome, map_outcome]
        | array element rank =>
            have ih := helement element (by simp [element?, hform]) (depth + 1)
            by_cases hrank : rank = 0
            · simp [hrank, Except.map]
            · simp [hrank, ih, map_outcome]
        | pointer element =>
            have ih := helement element (by simp [element?, hform]) (depth + 1)
            simp [ih, map_outcome]
        | functionPointer => rfl

theorem shapes_eq_outcome (settings : Settings) (scope : Scope) (depth : Nat)
    (types : List TypeUse) :
    shapes settings scope depth types =
      outcome (firstFault? settings (types.flatMap (visits settings.maxDepth scope depth)))
        (types.map (outline scope)) :=
  shapes_eq_outcome_of_forall fun type _ => shape_eq_outcome settings scope depth type

end TypeUse

end CommentId
