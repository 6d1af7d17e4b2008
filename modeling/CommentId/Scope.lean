import CommentId.Fault
import CommentId.Settings

/-!
The generic parameters that are in scope where a type occurs.
-/

namespace CommentId

/-- Who declares a generic parameter. -/
inductive Level
  | type
  | method
  deriving DecidableEq, Repr

structure Scope where
  type : List String := []
  method : List String := []
  /-- The place is a parameter list or a result. -/
  inSignature : Bool := false
  deriving DecidableEq, Repr

/-- The level of the generic parameter called `name`. -/
def Scope.level (scope : Scope) (scoping : Scoping) (name : String) : Except Fault Level :=
  match scoping with
  | .byName => .ok (if name ∈ scope.type then .type else .method)
  | .strict =>
      if name ∈ scope.type then
        if name ∈ scope.method then .error (.ambiguousParameter name) else .ok .type
      else
        if name ∈ scope.method then .ok .method else .error (.undeclaredParameter name)

namespace Scope

@[simp] theorem level_byName (scope : Scope) (name : String) :
    scope.level .byName name = .ok (if name ∈ scope.type then .type else .method) := rfl

theorem level_strict_eq_ok_iff {scope : Scope} {name : String} {level : Level} :
    scope.level .strict name = .ok level ↔
      (level = .type ∧ name ∈ scope.type ∧ name ∉ scope.method) ∨
        (level = .method ∧ name ∉ scope.type ∧ name ∈ scope.method) := by
  cases level <;> by_cases ht : name ∈ scope.type <;> by_cases hm : name ∈ scope.method <;>
    simp [level, ht, hm]

end Scope

end CommentId
