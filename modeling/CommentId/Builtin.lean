/-!
The built-in types of the runtime. All of them live in the namespace `System`, and signature
blobs name each of them by one element type byte.
-/

namespace CommentId

inductive Builtin
  | void
  | boolean
  | char
  | int8
  | uint8
  | int16
  | uint16
  | int32
  | uint32
  | int64
  | uint64
  | float32
  | float64
  | intPtr
  | uintPtr
  | object
  | string
  | typedReference
  deriving DecidableEq, Repr

namespace Builtin

def all : List Builtin :=
  [.void, .boolean, .char, .int8, .uint8, .int16, .uint16, .int32, .uint32, .int64, .uint64,
    .float32, .float64, .intPtr, .uintPtr, .object, .string, .typedReference]

/-- The namespace of every built-in type. -/
def ns : String := "System"

def name : Builtin → String
  | .void => "Void"
  | .boolean => "Boolean"
  | .char => "Char"
  | .int8 => "SByte"
  | .uint8 => "Byte"
  | .int16 => "Int16"
  | .uint16 => "UInt16"
  | .int32 => "Int32"
  | .uint32 => "UInt32"
  | .int64 => "Int64"
  | .uint64 => "UInt64"
  | .float32 => "Single"
  | .float64 => "Double"
  | .intPtr => "IntPtr"
  | .uintPtr => "UIntPtr"
  | .object => "Object"
  | .string => "String"
  | .typedReference => "TypedReference"

def qualifiedName (builtin : Builtin) : String :=
  ns ++ "." ++ builtin.name

/-- The element type byte of a built-in type in a signature blob. -/
def elementType : Builtin → UInt8
  | .void => 0x01
  | .boolean => 0x02
  | .char => 0x03
  | .int8 => 0x04
  | .uint8 => 0x05
  | .int16 => 0x06
  | .uint16 => 0x07
  | .int32 => 0x08
  | .uint32 => 0x09
  | .int64 => 0x0a
  | .uint64 => 0x0b
  | .float32 => 0x0c
  | .float64 => 0x0d
  | .string => 0x0e
  | .typedReference => 0x16
  | .intPtr => 0x18
  | .uintPtr => 0x19
  | .object => 0x1c

def ofElementType? (byte : UInt8) : Option Builtin :=
  all.find? (·.elementType == byte)

@[simp] theorem ofElementType?_elementType (builtin : Builtin) :
    ofElementType? builtin.elementType = some builtin := by
  cases builtin <;> rfl

theorem elementType_of_ofElementType? {byte : UInt8} {builtin : Builtin}
    (h : ofElementType? byte = some builtin) : builtin.elementType = byte := by
  simpa using List.find?_some h

end Builtin

end CommentId
