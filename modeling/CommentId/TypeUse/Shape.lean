import CommentId.Shape
import CommentId.TypeUse.Basic

/-!
The shape of a type where it occurs. Everything that can go wrong with a type goes wrong here, in
the order of reading: a type before the types it is made of, and those from left to right.
-/

namespace CommentId.TypeUse

/-- The text without reference markers, which metadata may append to names. -/
def withoutMarkers (text : String) : String :=
  String.ofList (text.toList.filter (· != '&'))

/-- The dotted path of a type under the name `name`. Of the types around it, only the nearest is
spelled out. -/
def path (type : TypeUse) (name : String) : String :=
  let ns := if type.enclosingNs = "" then [] else [type.enclosingNs]
  let owner := (type.declaring.map TypeUse.name).toList
  withoutMarkers (".".intercalate (ns ++ owner ++ [name]))

theorem path_congr {type type' : TypeUse} (hns : type.ns = type'.ns)
    (hdeclaring : type.declaring = type'.declaring) (name : String) :
    type.path name = type'.path name := by
  rw [path, path, enclosingNs_eq, enclosingNs_eq type', hns, hdeclaring]

/-- Whether the generic arguments are spelled out. Outside of signatures they are only in place of
an arity marker. -/
def showsArguments (type : TypeUse) (scope : Scope) : Bool :=
  type.isInstantiated && (type.isArityMarked || scope.inSignature)

mutual

/-- The shape of a type that occurs `depth` levels below the one it belongs to. -/
def shape (settings : Settings) (scope : Scope) (depth : Nat) : TypeUse → Except Fault Shape
  | ⟨ns, name, declaring, form, arguments, parameters, isDefinition, isReference, isEnum⟩ =>
      let type : TypeUse :=
        ⟨ns, name, declaring, form, arguments, parameters, isDefinition, isReference, isEnum⟩
      if settings.maxDepth ≤ depth then
        .error (.tooDeep settings.maxDepth)
      else
        Except.map (Shape.referenceIf isReference) <|
          match form with
          | .named =>
              if type.showsArguments scope then
                (shapes settings scope (depth + 1) arguments).map
                  (.named (type.path (ArityMarker.strip name)))
              else
                .ok (.named (type.path name) [])
          | .genericParameter position =>
              (scope.level settings.scoping name).map (.genericParameter · position)
          | .array element rank =>
              if rank = 0 then
                .error (.noDimension element.qualifiedName)
              else
                (element.shape settings scope (depth + 1)).map (.array · rank)
          | .pointer element => (element.shape settings scope (depth + 1)).map .pointer
          | .functionPointer => .error .functionPointer

def shapes (settings : Settings) (scope : Scope) (depth : Nat) :
    List TypeUse → Except Fault (List Shape)
  | [] => .ok []
  | type :: types => do
      let shape ← type.shape settings scope depth
      let shapes ← shapes settings scope depth types
      .ok (shape :: shapes)

end

theorem shape_eq (settings : Settings) (scope : Scope) (depth : Nat) (type : TypeUse) :
    type.shape settings scope depth =
      if settings.maxDepth ≤ depth then
        .error (.tooDeep settings.maxDepth)
      else
        Except.map (Shape.referenceIf type.isReference) <|
          match type.form with
          | .named =>
              if type.showsArguments scope then
                (shapes settings scope (depth + 1) type.arguments).map
                  (.named (type.path (ArityMarker.strip type.name)))
              else
                .ok (.named (type.path type.name) [])
          | .genericParameter position =>
              (scope.level settings.scoping type.name).map (.genericParameter · position)
          | .array element rank =>
              if rank = 0 then
                .error (.noDimension element.qualifiedName)
              else
                (element.shape settings scope (depth + 1)).map (.array · rank)
          | .pointer element => (element.shape settings scope (depth + 1)).map .pointer
          | .functionPointer => .error .functionPointer := by
  rcases type with ⟨_, _, _, _ | _ | _ | _ | _, _, _, _, _, _⟩ <;> rw [shape.eq_def]

end CommentId.TypeUse
