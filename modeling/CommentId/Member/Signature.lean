import CommentId.Member.Equality
import CommentId.Signature
import CommentId.TypeUse.Shape

/-!
The signatures of types and members. Owners come before parameters and those before results, so
that the first of several faults is the leftmost one in the identifier.
-/

namespace CommentId

namespace TypeUse

/-- A type as an element of its own, in the scope of the type in which it is nested. -/
def signature (settings : Settings) (type : TypeUse) : Except Fault Signature :=
  let outer := (type.declaring.map genericNames).getD []
  (type.shape settings { type := outer } 0).map .type

/-- A type as the owner of members. -/
def ownerShape (settings : Settings) (owner : TypeUse) : Except Fault Shape :=
  owner.shape settings { type := owner.genericNames } 0

/-- A value of an enumeration. -/
def valueSignature (settings : Settings) (enumeration : TypeUse) (name : String) :
    Except Fault Signature :=
  if !enumeration.isEnum then
    .error (.notEnum enumeration.qualifiedName)
  else if name = "" then
    .error (.noValueName enumeration.qualifiedName)
  else
    (enumeration.ownerShape settings).map (.field · name)

end TypeUse

namespace Member

/-- The scope of the parameters and the result of a method. -/
def signatureScope (method : Member) : Scope where
  type := method.declaring.genericNames
  method := method.typeParameters
  inSignature := true

def parameterShapes (settings : Settings) (method : Member) (parameters : List Parameter) :
    Except Fault (List Shape) :=
  TypeUse.shapes settings method.signatureScope 0 (parameters.map Parameter.occurrence)

/-- Conversions may differ in nothing but their result, so theirs belongs to the signature. -/
def resultShape (settings : Settings) (method : Member) : Except Fault (Option Shape) :=
  if method.isConversion then
    match method.result with
    | none => .error (.noResult method.name method.declaring.qualifiedName)
    | some result => (result.shape settings method.signatureScope 0).map some
  else
    .ok none

/-- The name under which a method or constructor is spelled. -/
def spelledName (method : Member) : String :=
  match method.kind with
  | .constructor => if method.isTypeInitializer then "#cctor" else "#ctor"
  | _ => method.name

/-- The accessors of an indexer share the signature of the property. -/
def methodSignature (settings : Settings) (method : Member) : Except Fault Signature := do
  let owner ← method.declaring.ownerShape settings
  if method.accessesIndexer then
    let index ← method.parameterShapes settings method.accessorIndex
    .ok (.property owner "Item" index)
  else
    let parameters ← method.parameterShapes settings method.parameters
    let result ← method.resultShape settings
    .ok (.method owner method.spelledName method.arity parameters result)

def propertySignature (settings : Settings) (property : Member) : Except Fault Signature := do
  let owner ← property.declaring.ownerShape settings
  match property.index? with
  | none => .ok (.property owner property.name [])
  | some (accessor, index) =>
      let index ← accessor.parameterShapes settings index
      .ok (.property owner property.name index)

/-- The signature of a member to which the rule applies. -/
def signatureBy (settings : Settings) (member : Member) : Rule → Except Fault Signature
  | .method => member.methodSignature settings
  | .property => member.propertySignature settings
  | .field => (member.declaring.ownerShape settings).map (.field · member.name)
  | .event => (member.declaring.ownerShape settings).map (.event · member.name)
  | .nestedType => member.nestedTypeUse.signature settings

/-- The signature under one rule, refused for members that the rule does not take. -/
def signatureAs (settings : Settings) (rule : Rule) (member : Member) : Except Fault Signature :=
  if rule.takes member.kind then
    member.signatureBy settings rule
  else
    .error (.wrongKind rule member.name member.kind)

/-- The signature under the rule for the member's kind. -/
def signature (settings : Settings) (member : Member) : Except Fault Signature :=
  match member.kind with
  | .method | .constructor => member.signatureAs settings .method
  | .field => member.signatureAs settings .field
  | .property => member.signatureAs settings .property
  | .event => member.signatureAs settings .event
  | .nestedType => member.signatureAs settings .nestedType
  | .unknown => .error (.noRule member.name member.declaring.qualifiedName member.kind)

end Member

end CommentId
