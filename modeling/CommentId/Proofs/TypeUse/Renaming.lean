import CommentId.Proofs.TypeUse.Visit
import Mathlib.Data.List.Basic

/-!
Renaming of generic parameters. Main statement: under an injective renaming a type shows what it
showed before, and meets its first fault in the same place.
-/

namespace CommentId

def Scope.rename (r : String → String) (scope : Scope) : Scope :=
  { scope with type := scope.type.map r, method := scope.method.map r }

section Scope

variable {r : String → String} (hr : Function.Injective r)

include hr

theorem Scope.levelOf_rename (scope : Scope) (name : String) :
    (scope.rename r).levelOf (r name) = scope.levelOf name := by
  simp only [levelOf, rename, List.mem_map_of_injective hr]

theorem Scope.kind_fault?_rename (scope : Scope) (scoping : Scoping) (name : String) :
    ((scope.rename r).fault? scoping (r name)).map Fault.kind =
      (scope.fault? scoping name).map Fault.kind := by
  simp only [fault?, rename, List.mem_map_of_injective hr]
  cases scoping with
  | byName => rfl
  | strict =>
      by_cases htype : name ∈ scope.type <;> by_cases hmethod : name ∈ scope.method <;>
        simp [htype, hmethod, Fault.kind]

end Scope

namespace TypeUse

mutual

/-- Renames the generic parameters that are reached through arguments and elements. The types
around a type and the names that it declares itself stay as they are. -/
def rename (r : String → String) : TypeUse → TypeUse
  | ⟨ns, name, declaring, form, arguments, parameters, isDefinition, isReference, isEnum⟩ =>
      { ns, declaring, parameters, isDefinition, isReference, isEnum
        name :=
          match form with
          | .genericParameter _ => r name
          | _ => name
        form := renameForm r form
        arguments := renameAll r arguments }

def renameForm (r : String → String) : Form TypeUse → Form TypeUse
  | .named => .named
  | .genericParameter position => .genericParameter position
  | .array element rank => .array (element.rename r) rank
  | .pointer element => .pointer (element.rename r)
  | .functionPointer => .functionPointer

def renameAll (r : String → String) : List TypeUse → List TypeUse
  | [] => []
  | type :: types => type.rename r :: renameAll r types

end

def renameOwner (r : String → String) (owner : TypeUse) : TypeUse :=
  { owner.rename r with parameters := owner.parameters.map r }

variable (r : String → String) (type : TypeUse)

theorem renameAll_eq_map (types : List TypeUse) : renameAll r types = types.map (rename r) := by
  induction types with
  | nil => rfl
  | cons type types ih => rw [renameAll, ih, List.map_cons]

theorem rename_eq :
    type.rename r =
      { type with
        name := if type.isGenericParameter then r type.name else type.name
        form := renameForm r type.form
        arguments := type.arguments.map (rename r) } := by
  rcases type with ⟨_, _, _, _ | _ | _ | _ | _, _, _, _, _, _⟩ <;>
    rw [rename.eq_def, ← renameAll_eq_map] <;> rfl

@[simp] theorem declaring_rename : (type.rename r).declaring = type.declaring := by
  rw [rename_eq]

@[simp] theorem isReference_rename : (type.rename r).isReference = type.isReference := by
  rw [rename_eq]

@[simp] theorem form_rename : (type.rename r).form = renameForm r type.form := by
  rw [rename_eq]

@[simp] theorem arguments_rename : (type.rename r).arguments = type.arguments.map (rename r) := by
  rw [rename_eq]

theorem name_rename :
    (type.rename r).name = if type.isGenericParameter then r type.name else type.name := by
  rw [rename_eq]

@[simp] theorem isGenericParameter_rename :
    (type.rename r).isGenericParameter = type.isGenericParameter := by
  rcases type with ⟨_, _, _, _ | _ | _ | _ | _, _, _, _, _, _⟩ <;> rw [rename_eq] <;> rfl

theorem path_rename (name : String) : (type.rename r).path name = type.path name := by
  have hns : (type.rename r).ns = type.ns := by
    rw [rename_eq]
  exact path_congr hns (declaring_rename r type) name

/-- Whether arguments are spelled out depends on the name of a generic type and on how many
arguments there are, neither of which is renamed. -/
theorem showsArguments_rename (scope : Scope) (h : type.form = .named) :
    (type.rename r).showsArguments (scope.rename r) = type.showsArguments scope := by
  have hname : type.isGenericParameter = false := by
    rw [isGenericParameter, h]
  rw [rename_eq, hname]
  simp [showsArguments, isInstantiated, isArityMarked, Scope.rename]

theorem name_rename_of_named (h : type.form = .named) : (type.rename r).name = type.name := by
  rw [name_rename, isGenericParameter, h]
  rfl

theorem name_rename_of_genericParameter {position : Nat}
    (h : type.form = .genericParameter position) : (type.rename r).name = r type.name := by
  rw [name_rename, isGenericParameter, h]
  rfl

theorem genericNames_renameOwner :
    (type.renameOwner r).genericNames = type.genericNames.map r := by
  rw [genericNames, genericNames, renameOwner]
  simp only [List.isEmpty_map, arguments_rename]
  split
  · rw [List.filter_map, List.map_map, List.map_map]
    have hfilter : isGenericParameter ∘ rename r = isGenericParameter :=
      funext (isGenericParameter_rename r)
    rw [hfilter]
    apply List.map_congr_left
    intro argument hargument
    have hgeneric := (List.mem_filter.mp hargument).2
    simp [name_rename, hgeneric]
  · rfl

def Visit.rename (visit : Visit) : Visit :=
  ⟨visit.scope.rename r, visit.depth, visit.type.rename r⟩

theorem visits_rename (maxDepth : Nat) (scope : Scope) (depth : Nat) :
    (type.rename r).visits maxDepth (scope.rename r) depth =
      (type.visits maxDepth scope depth).map (Visit.rename r) := by
  induction type using inductionOn generalizing depth with
  | step type hargument helement =>
      rw [visits_eq, visits_eq maxDepth scope, List.map_cons]
      congr 1
      by_cases hdepth : maxDepth ≤ depth
      · simp [hdepth]
      · simp only [hdepth, if_false, visitsBelow, form_rename]
        cases hform : type.form with
        | named =>
            simp only [renameForm, ← showsArguments_iff, showsArguments_rename r type scope hform,
              arguments_rename]
            split
            · rw [List.flatMap_map, List.map_flatMap]
              apply List.flatMap_congr
              intro argument hmem
              exact hargument argument hmem (depth + 1)
            · rfl
        | genericParameter position => rfl
        | array element rank =>
            have ih := helement element (by simp [element?, hform]) (depth + 1)
            simp only [renameForm, ih]
            split <;> rfl
        | pointer element =>
            exact helement element (by simp [element?, hform]) (depth + 1)
        | functionPointer => rfl

theorem outline_rename (hr : Function.Injective r) (scope : Scope) :
    (type.rename r).outline (scope.rename r) = type.outline scope := by
  induction type using inductionOn with
  | step type hargument helement =>
      rw [outline_eq, outline_eq scope, isReference_rename, form_rename]
      congr 1
      cases hform : type.form with
      | named =>
          have hmap : (type.arguments.map (rename r)).map (outline (scope.rename r)) =
              type.arguments.map (outline scope) := by
            rw [List.map_map]
            exact List.map_congr_left hargument
          simp only [renameForm, showsArguments_rename r type scope hform, path_rename,
            name_rename_of_named r type hform, arguments_rename, hmap]
      | genericParameter position =>
          simp only [renameForm, name_rename_of_genericParameter r type hform,
            Scope.levelOf_rename hr]
      | array element rank =>
          have ih := helement element (by simp [element?, hform])
          simp only [renameForm, ih]
      | pointer element =>
          have ih := helement element (by simp [element?, hform])
          simp only [renameForm, ih]
      | functionPointer => rfl

theorem Visit.kind_fault?_rename (hr : Function.Injective r) (settings : Settings)
    (visit : Visit) :
    ((visit.rename r).fault? settings).map Fault.kind =
      (visit.fault? settings).map Fault.kind := by
  rw [fault?, fault?, rename]
  by_cases hdepth : settings.maxDepth ≤ visit.depth
  · simp [hdepth]
  · simp only [hdepth, if_false, form_rename]
    cases hform : visit.type.form with
    | genericParameter position =>
        simp only [renameForm, name_rename_of_genericParameter r visit.type hform]
        exact Scope.kind_fault?_rename hr visit.scope settings.scoping visit.type.name
    | array element rank =>
        by_cases hrank : rank = 0 <;> simp [renameForm, hrank, Fault.kind]
    | named => rfl
    | pointer element => rfl
    | functionPointer => rfl

theorem kind_firstFault?_rename (hr : Function.Injective r) (settings : Settings)
    (visits : List Visit) :
    (firstFault? settings (visits.map (Visit.rename r))).map Fault.kind =
      (firstFault? settings visits).map Fault.kind := by
  induction visits with
  | nil => rfl
  | cons visit visits ih =>
      rw [List.map_cons, firstFault?_cons, firstFault?_cons, Option.map_or, Option.map_or, ih,
        Visit.kind_fault?_rename r hr]

/-- The names that a type declares matter to its members only, not to what is shown of the type
itself. -/
theorem firstFault?_visits_setParameters (settings : Settings) (scope : Scope) (depth : Nat)
    (names : List String) :
    firstFault? settings ({ type with parameters := names }.visits settings.maxDepth scope depth) =
      firstFault? settings (type.visits settings.maxDepth scope depth) := by
  rw [visits_eq, visits_eq _ _ _ type, firstFault?_cons, firstFault?_cons]
  rfl

theorem outline_setParameters (scope : Scope) (names : List String) :
    { type with parameters := names }.outline scope = type.outline scope := by
  have hpath (name : String) : { type with parameters := names }.path name = type.path name :=
    path_congr (show { type with parameters := names }.ns = type.ns from rfl)
      (show { type with parameters := names }.declaring = type.declaring from rfl) name
  rw [outline_eq, outline_eq scope type, hpath, hpath]
  rfl

end TypeUse

end CommentId
