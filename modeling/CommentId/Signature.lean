import CommentId.IdString
import CommentId.Shape

/-!
Signatures: what an identifier shows of an element. An element has an identifier exactly when it
has a signature, and the identifier is the text of it.
-/

namespace CommentId

inductive Signature
  | type (shape : Shape)
  /-- A method or constructor. Only conversions have a `result`. -/
  | method (owner : Shape) (name : String) (arity : Nat) (parameters : List Shape)
      (result : Option Shape)
  /-- A property; the `parameters` of an indexer are its index. -/
  | property (owner : Shape) (name : String) (parameters : List Shape)
  /-- A field or a value of an enumeration. -/
  | field (owner : Shape) (name : String)
  | event (owner : Shape) (name : String)
  deriving Repr

namespace Signature

/-- The list of parameters in parentheses; nothing where there are none. -/
def parameterList (parameters : List Shape) : String :=
  if parameters.isEmpty then "" else Shape.enclose "(" ")" (parameters.map Shape.render)

/-- The number of generic parameters of a method behind two back-ticks; nothing for zero. -/
def arityMark (arity : Nat) : String :=
  if arity = 0 then "" else "``" ++ arity.repr

/-- The result of a conversion behind a tilde. -/
def resultMark : Option Shape → String
  | none => ""
  | some result => "~" ++ result.render

def category : Signature → Category
  | .type _ => .type
  | .method .. => .method
  | .property .. => .property
  | .field .. => .field
  | .event .. => .event

/-- A member is spelled behind its owner and a dot. -/
def member (owner : Shape) (name : String) : String :=
  owner.render ++ "." ++ name

def body : Signature → String
  | .type shape => shape.render
  | .method owner name arity parameters result =>
      member owner name ++ arityMark arity ++ parameterList parameters ++ resultMark result
  | .property owner name parameters => member owner name ++ parameterList parameters
  | .field owner name => member owner name
  | .event owner name => member owner name

def id (signature : Signature) : IdString :=
  ⟨signature.category, signature.body⟩

def render (signature : Signature) : String :=
  signature.id.toString

theorem render_eq {signature : Signature} {front : String} (category : Category)
    (hcategory : signature.category = category)
    (hfront : String.singleton category.tag ++ ":" = front) :
    signature.render = front ++ signature.body := by
  rw [render, id, IdString.toString, hcategory, hfront]

theorem render_type (shape : Shape) : (type shape).render = "T:" ++ shape.render :=
  render_eq .type rfl (by decide)

theorem render_method (owner : Shape) (name : String) (arity : Nat) (parameters : List Shape)
    (result : Option Shape) :
    (method owner name arity parameters result).render =
      "M:" ++ owner.render ++ "." ++ name ++ arityMark arity ++ parameterList parameters ++
        resultMark result := by
  rw [render_eq .method rfl (show _ = "M:" by decide)]
  simp only [body, member, String.append_assoc]

theorem render_property (owner : Shape) (name : String) (parameters : List Shape) :
    (property owner name parameters).render =
      "P:" ++ owner.render ++ "." ++ name ++ parameterList parameters := by
  rw [render_eq .property rfl (show _ = "P:" by decide)]
  simp only [body, member, String.append_assoc]

theorem render_field (owner : Shape) (name : String) :
    (field owner name).render = "F:" ++ owner.render ++ "." ++ name := by
  rw [render_eq .field rfl (show _ = "F:" by decide)]
  simp only [body, member, String.append_assoc]

theorem render_event (owner : Shape) (name : String) :
    (event owner name).render = "E:" ++ owner.render ++ "." ++ name := by
  rw [render_eq .event rfl (show _ = "E:" by decide)]
  simp only [body, member, String.append_assoc]

theorem body_ne_empty {signature : Signature} (h : signature.category ≠ .type) :
    signature.body ≠ "" := by
  intro hbody
  have hchars := congrArg String.toList hbody
  cases signature <;> simp [body, member] at hchars
  exact h rfl

end Signature

end CommentId
