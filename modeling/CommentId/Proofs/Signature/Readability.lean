import CommentId.Proofs.Shape.Readability
import CommentId.Signature

/-!
Reading signatures. Main statement: two signatures with the same text are the same signature,
provided that their names are plain.
-/

namespace CommentId

namespace Signature

open Bracketing (Balanced append_inj_of_marks append_cons_inj_of_last eq_of_intercalate_eq
  forall_not_mem_singleton)

def marks : List Char := ['(', '~']

/-- The characters that a member's own name must do without: those that stand around it. -/
def nameMarks : List Char := ['.', '\x60', '(', '~']

/-- Types with plain names, neither of which opens a list of parameters or a result. -/
abbrev PlainShape (shape : Shape) : Prop :=
  shape.IsPlain marks

def PlainName (name : String) : Prop :=
  ∀ c ∈ name.toList, c ∉ nameMarks

instance (name : String) : Decidable (PlainName name) :=
  List.decidableBAll (· ∉ nameMarks) name.toList

inductive IsPlain : Signature → Prop
  | type {shape : Shape} (hshape : PlainShape shape) : IsPlain (.type shape)
  | method {owner : Shape} {name : String} {arity : Nat} {parameters : List Shape}
      {result : Option Shape} (howner : PlainShape owner) (hname : PlainName name)
      (hparameters : ∀ shape ∈ parameters, PlainShape shape)
      (hresult : ∀ shape, result = some shape → PlainShape shape) :
      IsPlain (.method owner name arity parameters result)
  | property {owner : Shape} {name : String} {parameters : List Shape}
      (howner : PlainShape owner) (hname : PlainName name)
      (hparameters : ∀ shape ∈ parameters, PlainShape shape) :
      IsPlain (.property owner name parameters)
  | field {owner : Shape} {name : String} (howner : PlainShape owner) (hname : PlainName name) :
      IsPlain (.field owner name)
  | event {owner : Shape} {name : String} (howner : PlainShape owner) (hname : PlainName name) :
      IsPlain (.event owner name)

/-! ### The parts of a body -/

theorem not_mem_marks_of_mem_render {shape : Shape} (h : PlainShape shape) :
    ∀ c ∈ shape.render.toList, c ∉ marks := by
  intro c hc hmark
  have hother : c ∉ Shape.delimiters ∧ c ∉ ['\x60', ':'] ∧ c.isDigit = false := by
    revert hmark
    simp only [marks, List.mem_cons, List.not_mem_nil, or_false]
    rintro (rfl | rfl) <;> decide
  exact Shape.not_mem_render h hmark hother.1 hother.2.1 hother.2.2 hc

theorem toList_parameterList_cons (parameter : Shape) (parameters : List Shape) :
    (parameterList (parameter :: parameters)).toList =
      '(' :: ([','].intercalate
        ((parameter :: parameters).map fun shape => shape.render.toList) ++ [')']) := by
  rw [parameterList, List.isEmpty_cons, if_neg (by decide), Shape.toList_enclose, List.map_map]
  rfl

theorem toList_arityMark (arity : Nat) :
    (arityMark arity).toList =
      if arity = 0 then [] else '\x60' :: '\x60' :: Nat.toDigits 10 arity := by
  rw [arityMark]
  split
  · rfl
  · rw [String.toList_append, Nat.toList_repr]
    rfl

theorem toList_resultMark_some (result : Shape) :
    (resultMark (some result)).toList = '~' :: result.render.toList := by
  rw [resultMark, String.toList_append]
  rfl

theorem head?_arityMark {arity : Nat} {c : Char} (h : (arityMark arity).toList.head? = some c) :
    c ∈ ['\x60'] := by
  rw [toList_arityMark] at h
  split at h
  · cases h
  · simpa using h.symm

theorem head?_parameterList {parameters : List Shape} {c : Char}
    (h : (parameterList parameters).toList.head? = some c) : c = '(' := by
  cases parameters with
  | nil => cases h
  | cons parameter parameters =>
      rw [toList_parameterList_cons] at h
      exact (Option.some.inj h).symm

theorem head?_resultMark {result : Option Shape} {c : Char}
    (h : (resultMark result).toList.head? = some c) : c = '~' := by
  cases result with
  | none => cases h
  | some result =>
      rw [toList_resultMark_some] at h
      exact (Option.some.inj h).symm

theorem arityMark_injective {arity arity' : Nat}
    (h : (arityMark arity).toList = (arityMark arity').toList) : arity = arity' := by
  rw [toList_arityMark, toList_arityMark] at h
  split at h <;> split at h
  · omega
  · cases h
  · cases h
  · exact Shape.toDigits_injective (List.cons.inj (List.cons.inj h).2).2

theorem balanced_of_mem_map_render {parameters : List Shape}
    (hparameters : ∀ shape ∈ parameters, PlainShape shape) :
    ∀ text ∈ parameters.map (fun shape => shape.render.toList), Balanced text := by
  intro text htext
  obtain ⟨shape, hshape, rfl⟩ := List.mem_map.mp htext
  exact Shape.balanced_render (hparameters shape hshape)

theorem parameterList_injective {parameters parameters' : List Shape}
    (hparameters : ∀ shape ∈ parameters, PlainShape shape)
    (hparameters' : ∀ shape ∈ parameters', PlainShape shape)
    (h : (parameterList parameters).toList = (parameterList parameters').toList) :
    parameters = parameters' := by
  cases parameters with
  | nil =>
      cases parameters' with
      | nil => rfl
      | cons parameter' parameters' =>
          rw [toList_parameterList_cons] at h
          cases h
  | cons parameter parameters =>
      cases parameters' with
      | nil =>
          rw [toList_parameterList_cons] at h
          cases h
      | cons parameter' parameters' =>
          rw [toList_parameterList_cons, toList_parameterList_cons] at h
          have hrow := eq_of_intercalate_eq (balanced_of_mem_map_render hparameters)
            (balanced_of_mem_map_render hparameters') (List.cons_ne_nil _ _) (List.cons_ne_nil _ _)
            (List.append_cancel_right (List.cons.inj h).2)
          refine Shape.eq_of_map_render_eq ?_ hrow
          intro shape hshape shape' hshape' hrender
          exact Shape.render_injective (hparameters shape hshape) (hparameters' shape' hshape')
            hrender

theorem resultMark_injective {result result' : Option Shape}
    (hresult : ∀ shape, result = some shape → PlainShape shape)
    (hresult' : ∀ shape, result' = some shape → PlainShape shape)
    (h : (resultMark result).toList = (resultMark result').toList) : result = result' := by
  cases result with
  | none =>
      cases result' with
      | none => rfl
      | some shape' =>
          rw [toList_resultMark_some] at h
          cases h
  | some shape =>
      cases result' with
      | none =>
          rw [toList_resultMark_some] at h
          cases h
      | some shape' =>
          rw [toList_resultMark_some, toList_resultMark_some] at h
          have hrender := String.toList_inj.mp (List.cons.inj h).2
          rw [Shape.render_injective (hresult shape rfl) (hresult' shape' rfl) hrender]

theorem tilde_not_mem_parameterList {parameters : List Shape}
    (hparameters : ∀ shape ∈ parameters, PlainShape shape) :
    '~' ∉ (parameterList parameters).toList := by
  cases parameters with
  | nil => exact List.not_mem_nil
  | cons parameter parameters =>
      rw [toList_parameterList_cons]
      simp only [List.mem_append, List.mem_cons, List.not_mem_nil, or_false, not_or]
      refine ⟨by decide, fun hmem => ?_, by decide⟩
      rcases Shape.mem_of_mem_intercalate hmem with hcomma | ⟨text, htext, hmem⟩
      · cases hcomma
      · obtain ⟨shape, hshape, rfl⟩ := List.mem_map.mp htext
        exact not_mem_marks_of_mem_render (hparameters shape hshape) '~' hmem (by decide)

theorem not_mem_of_mem_arityMark {arity : Nat} {c : Char} (hc : c ∈ (arityMark arity).toList) :
    c ∉ ['.', '(', '~'] := by
  rw [toList_arityMark] at hc
  split at hc
  · cases hc
  · rcases List.mem_cons.mp hc with rfl | hc
    · decide
    rcases List.mem_cons.mp hc with rfl | hc
    · decide
    exact Shape.not_mem_of_mem_toDigits hc (by decide)

/-! ### Bodies -/

theorem head?_tail {parameters : List Shape} {result : Option Shape} {c : Char}
    (h : ((parameterList parameters).toList ++ (resultMark result).toList).head? = some c) :
    c ∈ marks := by
  rw [List.head?_append, Option.or_eq_some_iff] at h
  rcases h with h | ⟨-, h⟩
  · rw [head?_parameterList h]
    decide
  · rw [head?_resultMark h]
    decide

/-- What stands in front of the parameters of a method. -/
def stem (owner : Shape) (name : String) (arity : Nat) : List Char :=
  owner.render.toList ++ '.' :: (name.toList ++ (arityMark arity).toList)

theorem toList_body_method (owner : Shape) (name : String) (arity : Nat)
    (parameters : List Shape) (result : Option Shape) :
    (method owner name arity parameters result).body.toList =
      stem owner name arity ++
        ((parameterList parameters).toList ++ (resultMark result).toList) := by
  have hdot : ".".toList = ['.'] := rfl
  simp only [body, member, stem, String.toList_append, hdot, List.append_assoc, List.cons_append,
    List.nil_append]

theorem not_mem_marks_of_mem_stem {owner : Shape} {name : String} (howner : PlainShape owner)
    (hname : PlainName name) (arity : Nat) : ∀ c ∈ stem owner name arity, c ∉ marks := by
  intro c hc hmark
  rcases List.mem_append.mp hc with hc | hc
  · exact not_mem_marks_of_mem_render howner c hc hmark
  rcases List.mem_cons.mp hc with rfl | hc
  · exact absurd hmark (by decide)
  rcases List.mem_append.mp hc with hc | hc
  · exact hname c hc (List.mem_cons_of_mem _ (List.mem_cons_of_mem _ hmark))
  · exact not_mem_of_mem_arityMark hc (List.mem_cons_of_mem _ hmark)

theorem dot_not_mem_tail {name : String} (hname : PlainName name) (arity : Nat) :
    '.' ∉ name.toList ++ (arityMark arity).toList := by
  intro hmem
  rcases List.mem_append.mp hmem with hmem | hmem
  · exact hname '.' hmem (by decide)
  · exact not_mem_of_mem_arityMark hmem (by decide)

/-- The name stands behind the last dot, and the arity behind the first back-tick after it. -/
theorem stem_injective {owner owner' : Shape} {name name' : String} {arity arity' : Nat}
    (howner : PlainShape owner) (howner' : PlainShape owner') (hname : PlainName name)
    (hname' : PlainName name') (h : stem owner name arity = stem owner' name' arity') :
    owner = owner' ∧ name = name' ∧ arity = arity' := by
  have htick {name : String} (hname : PlainName name) : ∀ c ∈ name.toList, c ∉ ['\x60'] :=
    forall_not_mem_singleton fun hmem => hname '\x60' hmem (by decide)
  obtain ⟨howners, htails⟩ := append_cons_inj_of_last (dot_not_mem_tail hname arity)
    (dot_not_mem_tail hname' arity') h
  obtain ⟨hnames, harities⟩ := append_inj_of_marks (htick hname) (htick hname')
    (fun _ => head?_arityMark) (fun _ => head?_arityMark) htails
  exact ⟨Shape.render_injective howner howner' (String.toList_inj.mp howners),
    String.toList_inj.mp hnames, arityMark_injective harities⟩

/-- A body is read up to the first parenthesis or tilde, and from there up to the tilde. -/
theorem method_of_body_eq {owner owner' : Shape} {name name' : String} {arity arity' : Nat}
    {parameters parameters' : List Shape} {result result' : Option Shape}
    (hplain : IsPlain (.method owner name arity parameters result))
    (hplain' : IsPlain (.method owner' name' arity' parameters' result'))
    (h : (method owner name arity parameters result).body =
      (method owner' name' arity' parameters' result').body) :
    method owner name arity parameters result =
      method owner' name' arity' parameters' result' := by
  rcases hplain with _ | ⟨howner, hname, hparameters, hresult⟩ | _ | _ | _
  rcases hplain' with _ | ⟨howner', hname', hparameters', hresult'⟩ | _ | _ | _
  have hchars := congrArg String.toList h
  rw [toList_body_method, toList_body_method] at hchars
  -- dots and back-ticks also stand in the parameters, so these have to go first
  obtain ⟨hstems, htails⟩ := append_inj_of_marks (not_mem_marks_of_mem_stem howner hname arity)
    (not_mem_marks_of_mem_stem howner' hname' arity') (fun _ => head?_tail) (fun _ => head?_tail)
    hchars
  obtain ⟨hlists, hmarks⟩ := append_inj_of_marks
    (forall_not_mem_singleton (tilde_not_mem_parameterList hparameters))
    (forall_not_mem_singleton (tilde_not_mem_parameterList hparameters'))
    (fun _ hc => List.mem_singleton.mpr (head?_resultMark hc))
    (fun _ hc => List.mem_singleton.mpr (head?_resultMark hc)) htails
  obtain ⟨rfl, rfl, rfl⟩ := stem_injective howner howner' hname hname' hstems
  rw [parameterList_injective hparameters hparameters' hlists,
    resultMark_injective hresult hresult' hmarks]

/-- Properties, fields and events are spelled like methods that lack what these have. -/
theorem body_property (owner : Shape) (name : String) (parameters : List Shape) :
    (property owner name parameters).body = (method owner name 0 parameters none).body := by
  simp [body, arityMark, resultMark]

theorem body_field (owner : Shape) (name : String) :
    (field owner name).body = (method owner name 0 [] none).body := by
  simp [body, arityMark, parameterList, resultMark]

theorem body_event (owner : Shape) (name : String) :
    (event owner name).body = (method owner name 0 [] none).body := by
  simp [body, arityMark, parameterList, resultMark]

theorem render_injective {signature signature' : Signature} (hplain : signature.IsPlain)
    (hplain' : signature'.IsPlain) (h : signature.render = signature'.render) :
    signature = signature' := by
  obtain ⟨hcategory, hbody⟩ := IdString.mk.inj (IdString.toString_inj.mp h)
  have hnone : ∀ shape, (none : Option Shape) = some shape → PlainShape shape := by
    intro shape hshape
    cases hshape
  have hnil : ∀ shape ∈ ([] : List Shape), PlainShape shape := by
    intro shape hshape
    cases hshape
  cases hplain with
  | type hshape =>
      cases hplain' with
      | type hshape' => rw [Shape.render_injective hshape hshape' hbody]
      | method | property | field | event => cases hcategory
  | method howner hname hparameters hresult =>
      cases hplain' with
      | method howner' hname' hparameters' hresult' =>
          exact method_of_body_eq (.method howner hname hparameters hresult)
            (.method howner' hname' hparameters' hresult') hbody
      | type | property | field | event => cases hcategory
  | property howner hname hparameters =>
      cases hplain' with
      | property howner' hname' hparameters' =>
          rw [body_property, body_property] at hbody
          cases method_of_body_eq (.method howner hname hparameters hnone)
            (.method howner' hname' hparameters' hnone) hbody
          rfl
      | type | method | field | event => cases hcategory
  | field howner hname =>
      cases hplain' with
      | field howner' hname' =>
          rw [body_field, body_field] at hbody
          cases method_of_body_eq (.method howner hname hnil hnone)
            (.method howner' hname' hnil hnone) hbody
          rfl
      | type | method | property | event => cases hcategory
  | event howner hname =>
      cases hplain' with
      | event howner' hname' =>
          rw [body_event, body_event] at hbody
          cases method_of_body_eq (.method howner hname hnil hnone)
            (.method howner' hname' hnil hnone) hbody
          rfl
      | type | method | property | field => cases hcategory

end Signature

end CommentId
