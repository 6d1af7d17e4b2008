import CommentId.Proofs.Outcome
import CommentId.Proofs.TypeUse.Visit
import Mathlib.Data.List.Forall2

/-!
Types of which an identifier shows the same. Main statement: two types that agree in what their
forms spell have the same shape, or faults of the same kind; nothing else of them is read.
-/

namespace CommentId

/-- The two scopes agree in what the scoping looks up. -/
structure Scope.Alike (scoping : Scoping) (scope scope' : Scope) : Prop where
  type : scope.type = scope'.type
  method : scoping = .strict → scope.method = scope'.method
  inSignature : scope.inSignature = scope'.inSignature

theorem Scope.Alike.level_eq {scoping : Scoping} {scope scope' : Scope}
    (h : Scope.Alike scoping scope scope') (name : String) :
    scope.level scoping name = scope'.level scoping name := by
  cases scoping with
  | byName => rw [level_byName, level_byName, h.type]
  | strict => rw [level, level, h.type, h.method rfl]

namespace TypeUse

/-- The two types agree in what is spelled of them: of a named type its path and those arguments
that are shown, of any other form the data of the form alone. -/
inductive Alike (inSignature : Bool) : TypeUse → TypeUse → Prop
  | named {type type' : TypeUse} (hform : type.form = .named) (hform' : type'.form = .named)
      (hreference : type.isReference = type'.isReference) (hname : type.name = type'.name)
      (hns : type.enclosingNs = type'.enclosingNs)
      (houter : type.declaring.map name = type'.declaring.map name)
      (hshows : type.showsArguments { inSignature } = type'.showsArguments { inSignature })
      (harguments : type.showsArguments { inSignature } = true →
        List.Forall₂ (Alike inSignature) type.arguments type'.arguments) :
      Alike inSignature type type'
  | genericParameter {type type' : TypeUse} {position : Nat}
      (hform : type.form = .genericParameter position)
      (hform' : type'.form = .genericParameter position)
      (hreference : type.isReference = type'.isReference) (hname : type.name = type'.name) :
      Alike inSignature type type'
  | array {type type' element element' : TypeUse} {rank : Nat}
      (hform : type.form = .array element rank) (hform' : type'.form = .array element' rank)
      (hreference : type.isReference = type'.isReference)
      (helement : Alike inSignature element element') : Alike inSignature type type'
  | pointer {type type' element element' : TypeUse} (hform : type.form = .pointer element)
      (hform' : type'.form = .pointer element')
      (hreference : type.isReference = type'.isReference)
      (helement : Alike inSignature element element') : Alike inSignature type type'
  | functionPointer {type type' : TypeUse} (hform : type.form = .functionPointer)
      (hform' : type'.form = .functionPointer) : Alike inSignature type type'

theorem Alike.refl (inSignature : Bool) (type : TypeUse) : Alike inSignature type type := by
  induction type using inductionOn with
  | step type hargument helement =>
      cases hform : type.form with
      | named =>
          exact .named hform hform rfl rfl rfl rfl rfl fun _ =>
            List.forall₂_same.mpr hargument
      | genericParameter position => exact .genericParameter hform hform rfl rfl
      | array element rank =>
          exact .array hform hform rfl (helement element (by simp [element?, hform]))
      | pointer element =>
          exact .pointer hform hform rfl (helement element (by simp [element?, hform]))
      | functionPointer => exact .functionPointer hform hform

theorem showsArguments_inSignature (type : TypeUse) (scope : Scope) :
    type.showsArguments { inSignature := scope.inSignature } = type.showsArguments scope :=
  rfl

theorem path_eq_path {type type' : TypeUse} (hns : type.enclosingNs = type'.enclosingNs)
    (houter : type.declaring.map name = type'.declaring.map name) (text : String) :
    type.path text = type'.path text := by
  rw [path, path, hns, houter]

variable {settings : Settings} {scope scope' : Scope}

/-- Nothing is visited below a type that shows no arguments. -/
theorem shape_of_not_showsArguments {type : TypeUse} {depth : Nat} (hform : type.form = .named)
    (hreference : type.isReference = false) (hshows : type.showsArguments scope = false) :
    type.shape settings scope depth =
      if settings.maxDepth ≤ depth then
        .error (.tooDeep settings.maxDepth)
      else
        .ok (.named (type.path type.name) []) := by
  rw [shape_eq, hform, hreference, hshows]
  rfl

/-- Of two lists the first fault is in the same place, if it is so type by type. -/
theorem mapError_shapes_congr {depth : Nat} {types types' : List TypeUse}
    (h : List.Forall₂ (fun type type' => (type.shape settings scope depth).mapError Fault.kind =
      (type'.shape settings scope' depth).mapError Fault.kind) types types') :
    (shapes settings scope depth types).mapError Fault.kind =
      (shapes settings scope' depth types').mapError Fault.kind := by
  induction h with
  | nil => rfl
  | cons htype _ ih =>
      exact mapError_bind_congr htype fun _ => mapError_bind_congr ih fun _ => rfl

theorem mapError_shape_of_alike {type type' : TypeUse} (h : Alike scope.inSignature type type')
    (hscope : Scope.Alike settings.scoping scope scope') (depth : Nat) :
    (type.shape settings scope depth).mapError Fault.kind =
      (type'.shape settings scope' depth).mapError Fault.kind := by
  induction type using inductionOn generalizing type' depth with
  | step type hargument helement =>
      rw [shape_eq, shape_eq _ _ _ type']
      by_cases hdepth : settings.maxDepth ≤ depth
      · rw [if_pos hdepth, if_pos hdepth]
      rw [if_neg hdepth, if_neg hdepth]
      cases h with
      | named hform hform' hreference hname hns houter hshows harguments =>
          have hshows' : type.showsArguments scope = type'.showsArguments scope' := by
            rw [← showsArguments_inSignature, hshows, hscope.inSignature,
              showsArguments_inSignature]
          rw [hform, hform', hreference, hname]
          apply mapError_map_congr
          simp only [hshows', path_eq_path hns houter]
          split
          · have hshown := harguments (hshows'.trans ‹_›)
            have hlist := (List.forall₂_and_left _ _).mpr ⟨hargument, hshown⟩
            apply mapError_map_congr
            apply mapError_shapes_congr
            exact hlist.imp fun _ _ halike => halike.1 halike.2 (depth + 1)
          · rfl
      | genericParameter hform hform' hreference hname =>
          rw [hform, hform', hreference, hname]
          simp only [hscope.level_eq]
      | @array _ _ element element' rank hform hform' hreference helements =>
          have ih := helement element (by simp [element?, hform]) helements (depth + 1)
          rw [hform, hform', hreference]
          apply mapError_map_congr
          by_cases hrank : rank = 0
          · simp only [hrank, if_true]
            rfl
          · simp only [hrank, if_false]
            exact mapError_map_congr ih _
      | @pointer _ _ element element' hform hform' hreference helements =>
          have ih := helement element (by simp [element?, hform]) helements (depth + 1)
          rw [hform, hform', hreference]
          exact mapError_map_congr (mapError_map_congr ih _) _
      | functionPointer hform hform' =>
          rw [hform, hform']
          rfl

end TypeUse

end CommentId
