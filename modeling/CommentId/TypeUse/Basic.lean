import CommentId.ArityMarker
import CommentId.Builtin

/-!
Types in the places where they occur: as the owner of a member, as the type of a parameter or of
a result, as a generic argument, as the element of an array or a pointer.
-/

namespace CommentId

/-- The form of a type, made of types in `α`. -/
inductive Form (α : Type)
  /-- A class, value type, interface, enumeration or delegate. -/
  | named
  /-- A generic parameter, at its place in the list that declares it. -/
  | genericParameter (position : Nat)
  | array (element : α) (rank : Nat)
  | pointer (element : α)
  | functionPointer
  deriving DecidableEq, Repr

structure TypeUse where
  /-- The namespace; types nested in another one may leave it empty. -/
  ns : String := ""
  /-- The name in the metadata, which ends in an arity marker for most generic types. -/
  name : String := ""
  /-- The type in which this one is nested. -/
  declaring : Option TypeUse := none
  form : Form TypeUse := .named
  /-- The generic arguments of an instantiated type. -/
  arguments : List TypeUse := []
  /-- The names of the generic parameters that a definition declares. -/
  parameters : List String := []
  isDefinition : Bool := false
  isReference : Bool := false
  isEnum : Bool := false
  deriving Repr, Inhabited

namespace TypeUse

def named (ns name : String) : TypeUse :=
  { ns, name }

def builtin (builtin : Builtin) : TypeUse :=
  named Builtin.ns builtin.name

def genericParameter (name : String) (position : Nat) : TypeUse :=
  { name, form := .genericParameter position }

/-- An array; its name is that of the element with one comma less than dimensions in brackets. -/
def array (element : TypeUse) (rank : Nat) : TypeUse where
  ns := element.ns
  name := element.name ++ "[" ++ String.ofList (List.replicate (rank - 1) ',') ++ "]"
  form := .array element rank

def pointer (element : TypeUse) : TypeUse where
  ns := element.ns
  name := element.name ++ "*"
  form := .pointer element

def functionPointer : TypeUse where
  name := "method"
  form := .functionPointer

def inside (type declaring : TypeUse) : TypeUse :=
  { type with declaring := some declaring }

/-- Makes a type the definition that declares these generic parameters. -/
def definedOver (type : TypeUse) (names : List String) : TypeUse :=
  { type with parameters := names, isDefinition := true }

/-- Instantiates a type with these generic arguments. -/
def appliedTo (type : TypeUse) (arguments : List TypeUse) : TypeUse :=
  { type with arguments, parameters := [], isDefinition := false }

def asReference (type : TypeUse) : TypeUse :=
  { type with isReference := true }

def asEnum (type : TypeUse) : TypeUse :=
  { type with isEnum := true }

def isGenericParameter (type : TypeUse) : Bool :=
  match type.form with
  | .genericParameter _ => true
  | _ => false

def isArray (type : TypeUse) : Bool :=
  match type.form with
  | .array _ _ => true
  | _ => false

def isNested (type : TypeUse) : Bool :=
  type.declaring.isSome

def position? (type : TypeUse) : Option Nat :=
  match type.form with
  | .genericParameter position => some position
  | _ => none

/-- The element of an array or a pointer. -/
def element? (type : TypeUse) : Option TypeUse :=
  match type.form with
  | .array element _ | .pointer element => some element
  | _ => none

/-- An instantiated generic type. -/
def isInstantiated (type : TypeUse) : Bool :=
  !type.arguments.isEmpty && !type.isDefinition

def isArityMarked (type : TypeUse) : Bool :=
  ArityMarker.isMarked type.name

/-- The first namespace that is not empty, from the type outwards. -/
def enclosingNs : TypeUse → String
  | ⟨ns, _, declaring, _, _, _, _, _, _⟩ =>
      if ns = "" then
        match declaring with
        | none => ""
        | some outer => outer.enclosingNs
      else
        ns

def qualifiedName (type : TypeUse) : String :=
  if type.enclosingNs = "" then
    type.name
  else
    type.enclosingNs ++ "." ++ type.name

/-- The names by which a member of the type refers to generic parameters of the type: those that
a definition declares, or those of the arguments that are generic parameters themselves. -/
def genericNames (type : TypeUse) : List String :=
  if type.parameters.isEmpty then
    (type.arguments.filter isGenericParameter).map name
  else
    type.parameters

theorem enclosingNs_eq (type : TypeUse) :
    type.enclosingNs =
      if type.ns = "" then (type.declaring.map enclosingNs).getD "" else type.ns := by
  rcases type with ⟨_, _, _ | _, _, _, _, _, _, _⟩ <;> rw [enclosingNs.eq_def] <;> rfl

theorem enclosingNs_of_ne {type : TypeUse} (h : type.ns ≠ "") : type.enclosingNs = type.ns := by
  rw [enclosingNs_eq, if_neg h]

theorem enclosingNs_inside {type outer : TypeUse} (h : type.ns = "") :
    (type.inside outer).enclosingNs = outer.enclosingNs := by
  rw [enclosingNs_eq]
  exact if_pos h

end TypeUse

end CommentId
