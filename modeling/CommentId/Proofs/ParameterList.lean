import CommentId.Proofs.Shape.Readability
import CommentId.Proofs.Spelling
import CommentId.Proofs.TypeUse.Plainness
import Mathlib.Data.List.Forall2

/-!
Reading lists of parameters. Main statement: if no name that is shown holds a bracket or a comma,
the text of a type is balanced, and a list of parameters is split back into the texts of its
parameters at the commas outside of all brackets.
-/

namespace CommentId

open Bracketing (Balanced)

namespace TypeUse

/-- The names that a visit adds to the text hold no brackets and no commas. Only named types add
any. -/
def Visit.IsUnmarked (visit : Visit) : Prop :=
  visit.type.form = .named →
    ∀ text ∈ visit.type.qualifiers ++ [visit.type.shownName visit.scope],
      ∀ c ∈ text.toList, c ∉ Bracketing.marks

instance (visit : Visit) : Decidable visit.IsUnmarked :=
  decidable_of_iff
    (visit.type.form = .named →
      (visit.type.qualifiers ++ [visit.type.shownName visit.scope]).all
        (fun text => text.toList.all (· ∉ Bracketing.marks)) = true)
    (by simp only [Visit.IsUnmarked, List.all_eq_true, decide_eq_true_eq])

variable {settings : Settings} {scope : Scope} {depth : Nat} {type : TypeUse}

theorem not_mem_marks_path {name : String}
    (h : ∀ text ∈ type.qualifiers ++ [name], ∀ c ∈ text.toList, c ∉ Bracketing.marks) :
    ∀ c ∈ (type.path name).toList, c ∉ Bracketing.marks := by
  intro c hc
  have hdot : ".".toList = ['.'] := rfl
  rw [path_eq, withoutMarkers, String.toList_ofList, List.mem_filter, String.toList_intercalate,
    hdot] at hc
  rcases Shape.mem_of_mem_intercalate hc.1 with rfl | ⟨chars, hchars, hc⟩
  · decide
  · obtain ⟨text, htext, rfl⟩ := List.mem_map.mp hchars
    exact h text htext c hc

theorem balanced_of_shape_eq_ok {shape : Shape}
    (hunmarked : ∀ visit ∈ type.visits settings.maxDepth scope depth, visit.IsUnmarked)
    (h : type.shape settings scope depth = .ok shape) : Balanced shape.render.toList := by
  rw [shape_eq_outcome, outcome_eq_ok_iff, firstFault?_eq_none_iff] at h
  obtain ⟨hfault, rfl⟩ := h
  exact outline_of_visits (motive := fun shape => Balanced shape.render.toList)
    (fun visit hvisit hform _ =>
      Shape.balanced_named (not_mem_marks_path (hunmarked visit hvisit hform)))
    Shape.balanced_genericParameter
    (fun _ rank _ helement => Shape.balanced_array helement rank)
    (fun _ => Shape.balanced_pointer)
    (fun _ => Shape.balanced_reference)
    hfault

theorem forall₂_of_shapes_eq_ok {types : List TypeUse} {shapes : List Shape}
    (h : TypeUse.shapes settings scope depth types = .ok shapes) :
    List.Forall₂ (fun type shape => type.shape settings scope depth = .ok shape) types shapes := by
  rw [shapes_eq_outcome, outcome_eq_ok_iff, firstFault?_eq_none_iff] at h
  obtain ⟨hfault, rfl⟩ := h
  rw [List.forall₂_map_right_iff, List.forall₂_same]
  intro type htype
  rw [shape_eq_outcome, outcome_eq_ok_iff, firstFault?_eq_none_iff]
  exact ⟨fun visit hvisit => hfault visit (List.mem_flatMap_of_mem htype hvisit), rfl⟩

end TypeUse

/-- The names that the text of a parameter shows hold no brackets and no commas. -/
def Parameter.IsUnmarkedIn (settings : Settings) (method : Member) (parameter : Parameter) : Prop :=
  ∀ visit ∈ parameter.occurrence.visits settings.maxDepth method.signatureScope 0,
    visit.IsUnmarked

instance (settings : Settings) (method : Member) (parameter : Parameter) :
    Decidable (parameter.IsUnmarkedIn settings method) :=
  inferInstanceAs (Decidable (∀ visit ∈ _, TypeUse.Visit.IsUnmarked visit))

namespace Member

/-- The text of one parameter. -/
def parameterText (settings : Settings) (method : Member) (parameter : Parameter) :
    Except Fault String :=
  (parameter.occurrence.shape settings method.signatureScope 0).map Shape.render

/-- The text of a list of parameters. -/
def parameterList (settings : Settings) (method : Member) (parameters : List Parameter) :
    Except Fault String :=
  (method.parameterShapes settings parameters).map Signature.parameterList

/-- The list stands in parentheses, and the commas outside of all brackets split what is inside of
them into the texts of the parameters. -/
def SplitsInto (settings : Settings) (method : Member) (parameters : List Parameter)
    (list : String) : Prop :=
  ∃ (inner : String) (texts : List String), list = "(" ++ inner ++ ")" ∧
    List.Forall₂ (fun parameter text => method.parameterText settings parameter = .ok text)
      parameters texts ∧
    Bracketing.split 0 inner.toList = texts.map String.toList

/-- The parameters that the identifier of a member shows, with the method that declares them: the
index parameters of an accessor in the case of a property. -/
def shownParameters (member : Member) : Member × List Parameter :=
  match member.kind.rule? with
  | some .property => member.index?.getD (member, [])
  | _ => (member, member.spelledParameters)

/-- The list of parameters in the identifier of a member. -/
def shownList (settings : Settings) (member : Member) : Except Fault String :=
  member.shownParameters.1.parameterList settings member.shownParameters.2

section Lists

variable {settings : Settings} {member method : Member} {parameters : List Parameter}
  {list : String}

theorem parameterList_eq_closing_texts :
    method.parameterList settings parameters =
      (method.parameterTexts settings parameters).map closing := by
  rw [parameterList, parameterTexts]
  simp only [map_eq_bind, bind_assoc, ok_bind, parameterList_eq_closing]

/-- The identifier of a method shows the list behind the name. -/
theorem id_eq_shownList_of_method (hrule : member.kind.rule? = some .method) :
    member.id settings = (do
      let owner ← member.declaring.ownerText settings
      let list ← member.shownList settings
      let result ← member.resultText settings
      .ok (member.opening owner ++ list ++ result)) := by
  rw [id_eq_texts hrule, shownList, shownParameters, hrule, parameterList_eq_closing_texts]
  simp only [map_eq_bind, bind_assoc, ok_bind]

theorem id_eq_shownList_of_property (hrule : member.kind.rule? = some .property) :
    member.id settings = (do
      let owner ← member.declaring.ownerText settings
      let list ← member.shownList settings
      .ok ("P:" ++ owner ++ "." ++ member.name ++ list)) := by
  rw [id, signature_of_rule? hrule, shownList, shownParameters, hrule]
  simp only [signatureBy, propertySignature, TypeUse.ownerText]
  cases hindex : member.index? with
  | none =>
      simp only [map_eq_bind, bind_assoc, ok_bind, Signature.render_property]
      rfl
  | some indexed =>
      simp only [parameterList, map_eq_bind, bind_assoc, ok_bind, Signature.render_property]
      rfl

theorem closing_eq_empty_iff {texts : List String} : closing texts = "" ↔ texts = [] := by
  cases texts <;> simp [closing, Shape.enclose]

theorem exists_inner_of_balanced {texts : List String} (hne : texts ≠ [])
    (hbalanced : ∀ text ∈ texts, Balanced text.toList) :
    ∃ inner : String, closing texts = "(" ++ inner ++ ")" ∧
      Bracketing.split 0 inner.toList = texts.map String.toList := by
  refine ⟨",".intercalate texts, ?_, ?_⟩
  · rw [closing, if_neg (by simpa using hne), Shape.enclose]
  · have hcomma : ",".toList = [','] := rfl
    rw [String.toList_intercalate, hcomma, Bracketing.split_intercalate _ (by simpa using hne)]
    intro chars hchars
    obtain ⟨text, htext, rfl⟩ := List.mem_map.mp hchars
    exact hbalanced text htext

theorem forall₂_of_parameterTexts_eq_ok {texts : List String}
    (h : method.parameterTexts settings parameters = .ok texts) :
    List.Forall₂ (fun parameter text => method.parameterText settings parameter = .ok text)
      parameters texts := by
  rw [parameterTexts, map_eq_ok_iff] at h
  obtain ⟨shapes, hshapes, rfl⟩ := h
  rw [List.forall₂_map_right_iff]
  refine (List.forall₂_map_left_iff.mp (TypeUse.forall₂_of_shapes_eq_ok hshapes)).imp ?_
  intro parameter shape hshape
  rw [parameterText, hshape]
  rfl

theorem balanced_of_parameterText_eq_ok {parameter : Parameter} {text : String}
    (hunmarked : parameter.IsUnmarkedIn settings method)
    (h : method.parameterText settings parameter = .ok text) : Balanced text.toList := by
  rw [parameterText, map_eq_ok_iff] at h
  obtain ⟨shape, hshape, rfl⟩ := h
  exact TypeUse.balanced_of_shape_eq_ok hunmarked hshape

theorem balanced_of_forall₂ {texts : List String}
    (hunmarked : ∀ parameter ∈ parameters, parameter.IsUnmarkedIn settings method)
    (htexts : List.Forall₂
      (fun parameter text => method.parameterText settings parameter = .ok text)
      parameters texts) : ∀ text ∈ texts, Balanced text.toList := by
  induction htexts with
  | nil => simp
  | cons htext _ ih =>
      rw [List.forall_mem_cons] at hunmarked ⊢
      exact ⟨balanced_of_parameterText_eq_ok hunmarked.1 htext, ih hunmarked.2⟩

theorem parameterList_eq_ok_empty_iff :
    method.parameterList settings parameters = .ok "" ↔ parameters = [] := by
  constructor
  · intro h
    rw [parameterList_eq_closing_texts, map_eq_ok_iff] at h
    obtain ⟨texts, htexts, hempty⟩ := h
    obtain rfl := closing_eq_empty_iff.mp hempty
    exact List.forall₂_nil_right_iff.mp (forall₂_of_parameterTexts_eq_ok htexts)
  · rintro rfl
    rfl

theorem splitsInto_of_parameterList_eq_ok
    (hunmarked : ∀ parameter ∈ parameters, parameter.IsUnmarkedIn settings method)
    (hne : parameters ≠ []) (h : method.parameterList settings parameters = .ok list) :
    method.SplitsInto settings parameters list := by
  rw [parameterList_eq_closing_texts, map_eq_ok_iff] at h
  obtain ⟨texts, htexts, rfl⟩ := h
  have hread := forall₂_of_parameterTexts_eq_ok htexts
  have htexts : texts ≠ [] := by
    rintro rfl
    exact hne (List.forall₂_nil_right_iff.mp hread)
  obtain ⟨inner, hinner, hsplit⟩ :=
    exists_inner_of_balanced htexts (balanced_of_forall₂ hunmarked hread)
  exact ⟨inner, texts, hinner, hread, hsplit⟩

end Lists

end Member

/-- Commas outside of all brackets stand between parameters and nowhere else. -/
theorem balanced_and_splitsInto (settings : Settings) :
    (∀ (type : TypeUse) (scope : Scope) (depth : Nat) (shape : Shape),
      (∀ visit ∈ type.visits settings.maxDepth scope depth, visit.IsUnmarked) →
        type.shape settings scope depth = .ok shape →
          Balanced shape.render.toList ∧
            ∀ front, front <+: shape.render.toList →
              front.countP (· ∈ Bracketing.closing) ≤ front.countP (· ∈ Bracketing.opening)) ∧
    (∀ (method : Member) (parameters : List Parameter),
      (method.parameterList settings parameters = .ok "" ↔ parameters = []) ∧
        ∀ list, (∀ parameter ∈ parameters, parameter.IsUnmarkedIn settings method) →
          parameters ≠ [] → method.parameterList settings parameters = .ok list →
            method.SplitsInto settings parameters list) ∧
    (∀ member : Member, member.kind.rule? = some .method →
      member.id settings = (do
        let owner ← member.declaring.ownerText settings
        let list ← member.shownList settings
        let result ← member.resultText settings
        .ok (member.opening owner ++ list ++ result))) ∧
    ∀ member : Member, member.kind.rule? = some .property →
      member.id settings = (do
        let owner ← member.declaring.ownerText settings
        let list ← member.shownList settings
        .ok ("P:" ++ owner ++ "." ++ member.name ++ list)) := by
  refine ⟨fun type scope depth shape hunmarked hshape => ?_,
    fun method parameters => ⟨Member.parameterList_eq_ok_empty_iff,
      fun list => Member.splitsInto_of_parameterList_eq_ok⟩,
    fun member => Member.id_eq_shownList_of_method,
    fun member => Member.id_eq_shownList_of_property⟩
  have hbalanced := TypeUse.balanced_of_shape_eq_ok hunmarked hshape
  refine ⟨hbalanced, fun front hfront => ?_⟩
  obtain ⟨due, -, hcount⟩ := hbalanced.exists_dueAfter hfront
  omega

/-- Commas between parameters, between arguments and between dimensions in one list. -/
theorem balanced_and_splitsInto_table :
    let grid := (TypeUse.named "Sample" "Grid`1").definedOver ["T"]
    let cells := TypeUse.array (.builtin .int32) 2
    let pair := ((TypeUse.named "" "Pair&").inside grid).appliedTo
      [cells.asReference, .array (.genericParameter "T" 0) 1]
    let table := (TypeUse.named "Sample" "Table`2").appliedTo [.pointer pair, cells]
    let method := ((Member.method grid "Fill").withParameter { type := table, isOut := true })
      |>.withParameter { type := .array (.genericParameter "T" 0) 3 }
    let list := "(Sample.Table\x7bSample.Grid`1.Pair\x7bSystem.Int32[0:,0:]@,`0[]\x7d*," ++
      "System.Int32[0:,0:]\x7d@,`0[0:,0:,0:])"
    (∀ parameter ∈ method.parameters, parameter.IsUnmarkedIn .strict method) ∧
      method.parameterList .strict method.parameters = .ok list ∧
      method.SplitsInto .strict method.parameters list := by
  intro grid cells pair table method list
  have hunmarked : ∀ parameter ∈ method.parameters, parameter.IsUnmarkedIn .strict method := by
    decide
  have hlist : method.parameterList .strict method.parameters = .ok list := by
    decide
  have hsplit := ((balanced_and_splitsInto .strict).2.1 method method.parameters).2 list
  exact ⟨hunmarked, hlist, hsplit hunmarked (by decide) hlist⟩

end CommentId
