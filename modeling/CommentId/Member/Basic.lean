import CommentId.Member.Flags
import CommentId.Member.Kind
import CommentId.TypeUse.Equality

/-!
Members of types: methods, constructors, fields, properties, events and nested types.
-/

namespace CommentId

structure Parameter where
  name : Option String := none
  type : TypeUse
  isOut : Bool := false
  deriving DecidableEq, Repr

/-- The type of a parameter as it occurs in a signature: an out parameter is by reference. -/
def Parameter.occurrence (parameter : Parameter) : TypeUse :=
  { parameter.type with isReference := parameter.isOut || parameter.type.isReference }

structure Member where
  kind : Member.Kind
  declaring : TypeUse
  name : String
  flags : Member.Flags := {}
  /-- The names of the generic parameters that a method declares itself. -/
  typeParameters : List String := []
  parameters : List Parameter := []
  getter : Option Member := none
  setter : Option Member := none
  result : Option TypeUse := none
  deriving Repr

namespace Member

def method (declaring : TypeUse) (name : String) : Member :=
  { kind := .method, declaring, name }

private def runtimeConstructor (declaring : TypeUse) (name : String) : Member :=
  { kind := .constructor, declaring, name, flags := .specialName ∪ .runtimeSpecialName }

def constructor (declaring : TypeUse) : Member :=
  runtimeConstructor declaring ".ctor"

def typeInitializer (declaring : TypeUse) : Member :=
  runtimeConstructor declaring ".cctor"

def field (declaring : TypeUse) (name : String) : Member :=
  { kind := .field, declaring, name }

def property (declaring : TypeUse) (name : String) : Member :=
  { kind := .property, declaring, name }

def event (declaring : TypeUse) (name : String) : Member :=
  { kind := .event, declaring, name }

def nestedType (declaring : TypeUse) (name : String) : Member :=
  { kind := .nestedType, declaring, name }

def withSpecialName (member : Member) : Member :=
  { member with flags := member.flags ∪ .specialName }

/-- Appends a parameter. -/
def withParameter (member : Member) (parameter : Parameter) : Member :=
  { member with parameters := member.parameters ++ [parameter] }

def withTypeParameters (member : Member) (names : List String) : Member :=
  { member with typeParameters := names }

def withGetter (member getter : Member) : Member :=
  { member with getter := some getter }

def withSetter (member setter : Member) : Member :=
  { member with setter := some setter }

def returning (member : Member) (result : TypeUse) : Member :=
  { member with result := some result }

def hasSpecialName (member : Member) : Bool :=
  member.flags.contains .specialName

def isGeneric (member : Member) : Bool :=
  !member.typeParameters.isEmpty

def arity (member : Member) : Nat :=
  member.typeParameters.length

/-- A method that reads or writes an indexer. -/
def accessesIndexer (member : Member) : Bool :=
  member.kind == .method && member.hasSpecialName &&
    (member.name == "get_Item" || member.name == "set_Item")

/-- A user-defined conversion. -/
def isConversion (member : Member) : Bool :=
  member.kind == .method && member.hasSpecialName &&
    (member.name == "op_Explicit" || member.name == "op_Implicit")

def isTypeInitializer (member : Member) : Bool :=
  member.kind == .constructor && member.name == ".cctor"

/-- The type that a member of kind `nestedType` stands for. -/
def nestedTypeUse (member : Member) : TypeUse :=
  (TypeUse.named "" member.name).inside member.declaring

/-- The parameters by which an accessor indexes. The last one of a setter is the assigned value
and no index. -/
def accessorIndex (accessor : Member) : List Parameter :=
  if accessor.name = "set_Item" then accessor.parameters.dropLast else accessor.parameters

/-- The accessor that fixes the index of a property, with the index parameters: the getter if it
has parameters, else the setter if it has any besides the assigned value. -/
def index? (property : Member) : Option (Member × List Parameter) :=
  let byGetter := property.getter.filter (0 < ·.parameters.length)
  let bySetter := property.setter.filter (1 < ·.parameters.length)
  (byGetter.map fun getter => (getter, getter.parameters)).or
    (bySetter.map fun setter => (setter, setter.parameters.dropLast))

end Member

end CommentId
