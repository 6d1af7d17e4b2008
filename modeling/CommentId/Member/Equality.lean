import CommentId.Member.Basic

/-!
Equality of members, accessors included, is decidable.
-/

namespace CommentId.Member

mutual

def decEq : (m n : Member) → Decidable (m = n)
  | ⟨kind, declaring, name, flags, typeParameters, parameters, getter, setter, result⟩,
    ⟨kind', declaring', name', flags', typeParameters', parameters', getter', setter', result'⟩ =>
      have := decEqOption getter getter'
      have := decEqOption setter setter'
      decidable_of_iff
        (kind = kind' ∧ declaring = declaring' ∧ name = name' ∧ flags = flags' ∧
          typeParameters = typeParameters' ∧ parameters = parameters' ∧ getter = getter' ∧
          setter = setter' ∧ result = result')
        (by simp)
  termination_by structural m => m

def decEqOption : (m n : Option Member) → Decidable (m = n)
  | none, none => .isTrue rfl
  | none, some _ => .isFalse (by simp)
  | some _, none => .isFalse (by simp)
  | some m, some n =>
      have := decEq m n
      decidable_of_iff (m = n) (by simp)
  termination_by structural m => m

end

instance : DecidableEq Member := decEq

end CommentId.Member
