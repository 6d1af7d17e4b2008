import CommentId.Scope

/-!
Shapes: what an identifier shows of a type, as a tree. All decisions are taken in a shape; its
text only spells them out.
-/

namespace CommentId

inductive Shape
  /-- A dotted path with the generic arguments that are spelled out. -/
  | named (path : String) (arguments : List Shape)
  | genericParameter (level : Level) (position : Nat)
  | array (element : Shape) (rank : Nat)
  | pointer (element : Shape)
  /-- An occurrence by reference. -/
  | reference (target : Shape)
  deriving Repr, Inhabited

/-- The back-ticks in front of the position of a generic parameter. -/
def Level.ticks : Level → String
  | .type => "`"
  | .method => "``"

namespace Shape

/-- The shape, by reference if so asked. -/
def referenceIf (isReference : Bool) (shape : Shape) : Shape :=
  if isReference then .reference shape else shape

/-- Texts separated by commas between two brackets. -/
def enclose (opening closing : String) (items : List String) : String :=
  opening ++ ",".intercalate items ++ closing

/-- What follows the element of an array: nothing in the brackets for one dimension, else a lower
bound without a length for each of them. -/
def dimensions (rank : Nat) : String :=
  if rank = 1 then "[]" else enclose "[" "]" (List.replicate rank "0:")

mutual

def render : Shape → String
  | .named path arguments =>
      if arguments.isEmpty then
        path
      else
        path ++ enclose "\x7b" "\x7d" (renderAll arguments)
  | .genericParameter level position => level.ticks ++ position.repr
  | .array element rank => element.render ++ dimensions rank
  | .pointer element => element.render ++ "*"
  | .reference target => target.render ++ "@"

def renderAll : List Shape → List String
  | [] => []
  | shape :: shapes => shape.render :: renderAll shapes

end

theorem renderAll_eq_map (shapes : List Shape) : renderAll shapes = shapes.map render := by
  induction shapes with
  | nil => rfl
  | cons shape shapes ih => rw [renderAll, ih, List.map_cons]

@[simp] theorem render_named_nil (path : String) : (named path []).render = path := by
  simp [render]

@[simp] theorem render_named_cons (path : String) (shape : Shape) (shapes : List Shape) :
    (named path (shape :: shapes)).render =
      path ++ enclose "\x7b" "\x7d" ((shape :: shapes).map render) := by
  simp [render, renderAll_eq_map]

end Shape

end CommentId
