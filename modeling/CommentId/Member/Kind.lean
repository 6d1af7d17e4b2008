/-!
The kinds of members, and the rules that give a member its identifier.
-/

namespace CommentId.Member

inductive Kind
  | method
  | constructor
  | field
  | property
  | event
  | nestedType
  | unknown
  deriving DecidableEq, Repr, Inhabited

/-- The identifier rules. Methods and constructors share one. -/
inductive Rule
  | method
  | property
  | field
  | event
  | nestedType
  deriving DecidableEq, Repr

namespace Kind

def all : List Kind :=
  [.method, .constructor, .field, .property, .event, .nestedType, .unknown]

def name : Kind → String
  | .method => "Method"
  | .constructor => "Constructor"
  | .field => "Field"
  | .property => "Property"
  | .event => "Event"
  | .nestedType => "NestedType"
  | .unknown => "Unknown"

end Kind

namespace Rule

def all : List Rule := [.method, .property, .field, .event, .nestedType]

/-- Whether the rule takes members of a kind. -/
def takes : Rule → Kind → Bool
  | .method, kind => kind == .method || kind == .constructor
  | .property, kind => kind == .property
  | .field, kind => kind == .field
  | .event, kind => kind == .event
  | .nestedType, kind => kind == .nestedType

/-- The name under which messages speak of the rule. -/
def label : Rule → String
  | .method => "method_id"
  | .property => "property_id"
  | .field => "field_id"
  | .event => "event_id"
  | .nestedType => "nested_type_id"

/-- The members that the rule is for, as messages call them. -/
def subject : Rule → String
  | .method => "a method or constructor"
  | .property => "a property"
  | .field => "a field"
  | .event => "an event"
  | .nestedType => "a nested type"

end Rule

end CommentId.Member
