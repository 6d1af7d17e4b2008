/-!
The settings of the encoding: how generic parameters are attributed, and how deep types may nest.
-/

namespace CommentId

/-- How a generic parameter is attributed to the type or to the method. -/
inductive Scoping
  /-- What the type does not declare belongs to the method. -/
  | byName
  /-- Exactly one of the type and the method has to declare the parameter. -/
  | strict
  deriving DecidableEq, Repr

structure Settings where
  scoping : Scoping := .byName
  maxDepth : Nat := 64
  deriving DecidableEq, Repr

namespace Settings

def standard : Settings := {}

def strict : Settings := { scoping := .strict }

end Settings

end CommentId
