import CommentId.Builtin
import CommentId.Category
import CommentId.Member.Kind

/-!
The causes for which an element has no identifier or a text is not one. A fault carries what its
message needs; `Fault.kind` says to which of three classes it belongs.
-/

namespace CommentId

open Member (Kind Rule)

inductive Fault
  /-- An array of no dimensions; `element` is the full name of its element type. -/
  | noDimension (element : String)
  | functionPointer
  /-- Types are nested deeper than the settings allow. -/
  | tooDeep (limit : Nat)
  /-- A generic parameter that the type and the method both declare. -/
  | ambiguousParameter (name : String)
  /-- A generic parameter that neither the type nor the method declares. -/
  | undeclaredParameter (name : String)
  | wrongKind (rule : Rule) (name : String) (kind : Kind)
  /-- A member of a kind for which there is no rule. -/
  | noRule (name owner : String) (kind : Kind)
  /-- A conversion operator without a return type. -/
  | noResult (name owner : String)
  | notEnum (type : String)
  | noValueName (type : String)
  | noNamespace
  /-- A text without a colon. -/
  | noTag (text : String)
  | notOneCharacter (tag : String)
  | unknownTag (tag : Char)
  | noBody (text : String)
  | notBuiltin (byte : UInt8)
  deriving DecidableEq, Repr

namespace Fault

/-- The class of a fault. -/
inductive Kind
  | invalidArgument
  | unsupported
  | recursionLimit
  deriving DecidableEq, Repr

def kind : Fault → Fault.Kind
  | .functionPointer | .noRule .. => .unsupported
  | .tooDeep _ => .recursionLimit
  | _ => .invalidArgument

/-- A name between single quotes. -/
private def quoted (name : String) : String :=
  "'" ++ name ++ "'"

/-- Two lower-case hexadecimal digits. -/
private def hexByte (byte : UInt8) : String :=
  String.ofList [Nat.digitChar (byte.toNat / 16), Nat.digitChar (byte.toNat % 16)]

def message : Fault → String
  | .noDimension element => "array of " ++ quoted element ++ " has rank 0"
  | .functionPointer =>
      "Unsupported - function pointers have no documentation id encoding"
  | .tooDeep limit =>
      "Reach the maximum recursion level allowed - " ++ limit.repr
  | .ambiguousParameter name =>
      "generic parameter " ++ quoted name ++ " is declared by both the type and the method"
  | .undeclaredParameter name =>
      "generic parameter " ++ quoted name ++ " is not declared by the type or the method"
  | .wrongKind rule name kind =>
      rule.label ++ " expects " ++ rule.subject ++ ", " ++ quoted name ++ " is a " ++ kind.name
  | .noRule name owner kind =>
      "Unsupported - member " ++ quoted name ++ " on " ++ quoted owner ++
        " has no identifier rule for kind " ++ kind.name
  | .noResult name owner =>
      "conversion operator " ++ quoted name ++ " on " ++ quoted owner ++ " has no return type"
  | .notEnum type => "enum_value_id expects an enum, " ++ quoted type ++ " is not one"
  | .noValueName type => "enum_value_id requires a value name for " ++ quoted type
  | .noNamespace => "namespace_id requires a non-empty namespace"
  | .noTag text => "identifier " ++ quoted text ++ " has no prefix"
  | .notOneCharacter tag =>
      "identifier prefix " ++ quoted tag ++ " must be a single character"
  | .unknownTag tag => "unknown identifier prefix " ++ quoted (String.singleton tag)
  | .noBody text => "identifier " ++ quoted text ++ " has an empty body"
  | .notBuiltin byte => "element type 0x" ++ hexByte byte ++ " is not a primitive"

end Fault

/-- The category that a letter stands for. -/
def Category.ofTag (c : Char) : Except Fault Category :=
  match Category.ofTag? c with
  | some category => .ok category
  | none => .error (.unknownTag c)

/-- The built-in type that an element type byte stands for. -/
def Builtin.ofElementType (byte : UInt8) : Except Fault Builtin :=
  match Builtin.ofElementType? byte with
  | some builtin => .ok builtin
  | none => .error (.notBuiltin byte)

end CommentId
