import CommentId.Member.Signature

/-!
Identifiers of documented elements as text. Each of these gives the text of the element's
signature, or else the fault for which it has none.
-/

namespace CommentId

namespace TypeUse

def id (settings : Settings) (type : TypeUse) : Except Fault String :=
  (type.signature settings).map Signature.render

/-- The identifier of a value of an enumeration. -/
def valueId (settings : Settings) (enumeration : TypeUse) (name : String) :
    Except Fault String :=
  (enumeration.valueSignature settings name).map Signature.render

end TypeUse

namespace Member

/-- The identifier by the rule for the member's kind. -/
def id (settings : Settings) (member : Member) : Except Fault String :=
  (member.signature settings).map Signature.render

/-- The identifier by one rule, which has to be the one for the member's kind. -/
def idAs (settings : Settings) (rule : Rule) (member : Member) : Except Fault String :=
  (member.signatureAs settings rule).map Signature.render

/-- One result for each member, in the order of the members. -/
def ids (settings : Settings) (members : List Member) : List (Except Fault String) :=
  members.map (id settings)

end Member

def namespaceId (ns : String) : Except Fault String :=
  if ns = "" then .error .noNamespace else .ok (IdString.mk .ns ns).toString

end CommentId
