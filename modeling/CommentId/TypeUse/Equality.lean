import CommentId.TypeUse.Basic

/-!
Equality of types as trees is decidable.
-/

namespace CommentId.TypeUse

mutual

def decEq : (s t : TypeUse) → Decidable (s = t)
  | ⟨ns, name, declaring, form, arguments, parameters, isDefinition, isReference, isEnum⟩,
    ⟨ns', name', declaring', form', arguments', parameters', isDefinition', isReference',
      isEnum'⟩ =>
      have := decEqOption declaring declaring'
      have := decEqForm form form'
      have := decEqList arguments arguments'
      decidable_of_iff
        (ns = ns' ∧ name = name' ∧ declaring = declaring' ∧ form = form' ∧
          arguments = arguments' ∧ parameters = parameters' ∧
          isDefinition = isDefinition' ∧ isReference = isReference' ∧ isEnum = isEnum')
        (by simp)
  termination_by structural s => s

def decEqOption : (s t : Option TypeUse) → Decidable (s = t)
  | none, none => .isTrue rfl
  | none, some _ => .isFalse (by simp)
  | some _, none => .isFalse (by simp)
  | some s, some t =>
      have := decEq s t
      decidable_of_iff (s = t) (by simp)
  termination_by structural s => s

def decEqForm : (s t : Form TypeUse) → Decidable (s = t)
  | .named, t =>
      match t with
      | .named => .isTrue rfl
      | .genericParameter _ | .array .. | .pointer _ | .functionPointer => .isFalse (by simp)
  | .genericParameter position, t =>
      match t with
      | .genericParameter position' => decidable_of_iff (position = position') (by simp)
      | .named | .array .. | .pointer _ | .functionPointer => .isFalse (by simp)
  | .array element rank, t =>
      match t with
      | .array element' rank' =>
          have := decEq element element'
          decidable_of_iff (element = element' ∧ rank = rank') (by simp)
      | .named | .genericParameter _ | .pointer _ | .functionPointer => .isFalse (by simp)
  | .pointer element, t =>
      match t with
      | .pointer element' =>
          have := decEq element element'
          decidable_of_iff (element = element') (by simp)
      | .named | .genericParameter _ | .array .. | .functionPointer => .isFalse (by simp)
  | .functionPointer, t =>
      match t with
      | .functionPointer => .isTrue rfl
      | .named | .genericParameter _ | .array .. | .pointer _ => .isFalse (by simp)
  termination_by structural s => s

def decEqList : (ss ts : List TypeUse) → Decidable (ss = ts)
  | [], [] => .isTrue rfl
  | [], _ :: _ => .isFalse (by simp)
  | _ :: _, [] => .isFalse (by simp)
  | s :: ss, t :: ts =>
      have := decEq s t
      have := decEqList ss ts
      decidable_of_iff (s = t ∧ ss = ts) (by simp)
  termination_by structural s => s

end

instance : DecidableEq TypeUse := decEq

end CommentId.TypeUse
