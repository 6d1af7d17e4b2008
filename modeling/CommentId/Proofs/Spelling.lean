import CommentId.Proofs.Member.Visit
import CommentId.Proofs.TypeUse.Absolute
import Mathlib.Data.List.Basic

/-!
The texts of which identifiers are put together, and the places where a type is one of them. Main
statement: a type that the scope has no say in is spelled the same as an element of its own, as the
owner of members, as a parameter and as a result, or has the same fault in all of these places.
-/

namespace CommentId

theorem Shape.render_referenceIf (isReference : Bool) (shape : Shape) :
    (Shape.referenceIf isReference shape).render =
      shape.render ++ if isReference then "@" else "" := by
  cases isReference <;> simp [referenceIf, render]

namespace TypeUse

variable {settings : Settings} {scope : Scope} {depth : Nat}

/-- The text of a type in a signature where nothing declares generic parameters. -/
def spelling (settings : Settings) (type : TypeUse) : Except Fault String :=
  (type.shape settings { inSignature := true } 0).map Shape.render

/-- The text in front of the members of a type. -/
def ownerText (settings : Settings) (owner : TypeUse) : Except Fault String :=
  (owner.ownerShape settings).map Shape.render

theorem path_asReference (type : TypeUse) (name : String) :
    type.asReference.path name = type.path name :=
  path_congr (show type.asReference.ns = type.ns from rfl) rfl name

theorem shape_asReference {type : TypeUse} (hreference : type.isReference = false) :
    type.asReference.shape settings scope depth =
      (type.shape settings scope depth).map .reference := by
  have hmap (result : Except Fault Shape) : (result.map (Shape.referenceIf false)).map .reference =
      result.map (Shape.referenceIf true) := by
    cases result <;> rfl
  rw [shape_eq, shape_eq _ _ _ type, hreference]
  split
  · rfl
  · rw [hmap, path_asReference, path_asReference]
    rfl

theorem shapes_append (types types' : List TypeUse) :
    shapes settings scope depth (types ++ types') = (do
      let front ← shapes settings scope depth types
      let back ← shapes settings scope depth types'
      .ok (front ++ back)) := by
  induction types with
  | nil => exact (bind_pure _).symm
  | cons type types ih => simp only [List.cons_append, shapes, ih, bind_assoc, ok_bind]

end TypeUse

namespace Parameter

variable (settings : Settings) (scope : Scope) (depth : Nat) (parameter : Parameter)

theorem occurrence_eq :
    parameter.occurrence =
      if parameter.isOut && !parameter.type.isReference then
        parameter.type.asReference
      else
        parameter.type := by
  rcases parameter with ⟨_, ⟨_, _, _, _, _, _, _, _ | _, _⟩, _ | _⟩ <;> rfl

/-- An out parameter is by reference, and not once more if its type is so already. -/
theorem shape_occurrence :
    parameter.occurrence.shape settings scope depth =
      (parameter.type.shape settings scope depth).map
        (Shape.referenceIf (parameter.isOut && !parameter.type.isReference)) := by
  rw [occurrence_eq]
  cases hmark : parameter.isOut && !parameter.type.isReference with
  | false =>
      rw [if_neg Bool.false_ne_true]
      cases parameter.type.shape settings scope depth <;> rfl
  | true =>
      have hreference : parameter.type.isReference = false := by
        simpa using (Bool.and_eq_true_iff.mp hmark).2
      rw [if_pos rfl, TypeUse.shape_asReference hreference]
      rfl

end Parameter

namespace Member

/-- The text of an identifier up to the parameters. -/
def opening (method : Member) (owner : String) : String :=
  if method.accessesIndexer then
    "P:" ++ owner ++ ".Item"
  else
    "M:" ++ owner ++ "." ++ method.spelledName ++ Signature.arityMark method.arity

/-- The parameters in parentheses; nothing where there are none. -/
def closing (texts : List String) : String :=
  if texts.isEmpty then "" else Shape.enclose "(" ")" texts

def parameterTexts (settings : Settings) (method : Member) (parameters : List Parameter) :
    Except Fault (List String) :=
  (method.parameterShapes settings parameters).map (·.map Shape.render)

/-- The result of a conversion behind a tilde; nothing for other methods. -/
def resultText (settings : Settings) (method : Member) : Except Fault String :=
  (method.resultShape settings).map Signature.resultMark

section Texts

variable {settings : Settings} {method : Member}

theorem parameterList_eq_closing (parameters : List Shape) :
    Signature.parameterList parameters = closing (parameters.map Shape.render) := by
  simp [Signature.parameterList, closing]

theorem closing_nil : closing [] = "" := rfl

theorem closing_append_cons (before after : List String) (text : String) :
    closing (before ++ text :: after) =
      Shape.enclose "(" ")" (before ++ text :: after) := by
  simp [closing]

theorem render_index (haccess : method.accessesIndexer = true) (owner : Shape)
    (index : List Shape) :
    (Signature.property owner "Item" index).render =
      method.opening owner.render ++ closing (index.map Shape.render) ++
        Signature.resultMark none := by
  simp [Signature.render_property, Signature.resultMark, opening, haccess,
    parameterList_eq_closing, String.append_assoc]

theorem render_method (haccess : method.accessesIndexer = false) (owner : Shape)
    (parameters : List Shape) (result : Option Shape) :
    (Signature.method owner method.spelledName method.arity parameters result).render =
      method.opening owner.render ++ closing (parameters.map Shape.render) ++
        Signature.resultMark result := by
  simp [Signature.render_method, opening, haccess, parameterList_eq_closing]

/-- The identifier of a method is put together from three texts, in the order of reading. -/
theorem id_eq_texts (hrule : method.kind.rule? = some .method) :
    method.id settings = (do
      let owner ← method.declaring.ownerText settings
      let texts ← method.parameterTexts settings method.spelledParameters
      let result ← method.resultText settings
      .ok (method.opening owner ++ closing texts ++ result)) := by
  rw [id, signature_of_rule? hrule]
  simp only [signatureBy, methodSignature, TypeUse.ownerText, parameterTexts, resultText,
    spelledParameters_eq, map_eq_bind, bind_assoc, ok_bind]
  cases haccess : method.accessesIndexer with
  | true =>
      have hresult : method.resultShape settings = .ok none := by
        simp [resultShape, isConversion_of_accessesIndexer haccess]
      simp only [if_true, hresult, bind_assoc, ok_bind, render_index haccess]
  | false =>
      simp only [Bool.false_eq_true, if_false, bind_assoc, ok_bind, render_method haccess]

theorem id_eq_of_field {field : Member} (hkind : field.kind = .field) :
    field.id settings = (field.declaring.ownerText settings).map
      fun owner => "F:" ++ owner ++ "." ++ field.name := by
  have hrule : field.kind.rule? = some .field := by
    rw [hkind, Kind.rule?]
  rw [id, signature_of_rule? hrule]
  simp only [signatureBy, TypeUse.ownerText, map_eq_bind, bind_assoc, ok_bind,
    Signature.render_field]

theorem id_eq_of_event {event : Member} (hkind : event.kind = .event) :
    event.id settings = (event.declaring.ownerText settings).map
      fun owner => "E:" ++ owner ++ "." ++ event.name := by
  have hrule : event.kind.rule? = some .event := by
    rw [hkind, Kind.rule?]
  rw [id, signature_of_rule? hrule]
  simp only [signatureBy, TypeUse.ownerText, map_eq_bind, bind_assoc, ok_bind,
    Signature.render_event]

theorem rule?_of_isConversion (hconversion : method.isConversion = true) :
    method.kind.rule? = some .method := by
  simp only [isConversion, Bool.and_eq_true, beq_iff_eq] at hconversion
  rw [hconversion.1.1, Kind.rule?]

theorem parameterTexts_nil : method.parameterTexts settings [] = .ok [] := rfl

theorem parameterTexts_append_cons (before after : List Parameter) (parameter : Parameter) :
    method.parameterTexts settings (before ++ parameter :: after) = (do
      let texts ← method.parameterTexts settings before
      let text ← (parameter.occurrence.shape settings method.signatureScope 0).map Shape.render
      let texts' ← method.parameterTexts settings after
      .ok (texts ++ text :: texts')) := by
  simp only [parameterTexts, parameterShapes, List.map_append, List.map_cons,
    TypeUse.shapes_append, TypeUse.shapes, map_eq_bind, bind_assoc, ok_bind]

theorem resultText_of_isConversion_eq_false (hconversion : method.isConversion = false) :
    method.resultText settings = .ok "" := by
  simp [resultText, resultShape, hconversion, Signature.resultMark, Except.map]

theorem resultText_of_isConversion {result : TypeUse} (hconversion : method.isConversion = true)
    (hresult : method.result = some result) :
    method.resultText settings =
      ((result.shape settings method.signatureScope 0).map Shape.render).map ("~" ++ ·) := by
  simp only [resultText, resultShape, hconversion, if_true, hresult]
  cases result.shape settings method.signatureScope 0 <;> rfl

theorem spelledParameters_of_isConversion (hconversion : method.isConversion = true) :
    method.spelledParameters = method.parameters := by
  rw [spelledParameters_eq]
  split
  · simp [isConversion_of_accessesIndexer ‹_›] at hconversion
  · rfl

theorem spelledParameters_of_parameters_eq_nil (hparameters : method.parameters = []) :
    method.spelledParameters = [] := by
  simp [spelledParameters, hparameters]

end Texts

end Member

namespace TypeUse

variable {settings : Settings} {type : TypeUse}

/-- A type has one spelling, which it has as an element of its own, as the owner of members, as a
parameter and as the result of a conversion. Where there is none, the fault is the same. -/
structure SpelledAlike (settings : Settings) (type : TypeUse)
    (spelling : Except Fault String) : Prop where
  asElement : type.id settings = spelling.map ("T:" ++ ·)
  asFieldOwner : ∀ field : Member, field.kind = .field → field.declaring = type →
    field.id settings = spelling.map fun body => "F:" ++ body ++ "." ++ field.name
  asEventOwner : ∀ event : Member, event.kind = .event → event.declaring = type →
    event.id settings = spelling.map fun body => "E:" ++ body ++ "." ++ event.name
  asMethodOwner : ∀ method : Member, method.kind.rule? = some .method → method.declaring = type →
    method.parameters = [] → method.isConversion = false →
      method.id settings = spelling.map method.opening
  asConversionOwner : ∀ method : Member, method.isConversion = true → method.declaring = type →
    method.parameters = [] →
      method.id settings = (do
        let body ← spelling
        let result ← method.resultText settings
        .ok (method.opening body ++ result))
  asParameter : ∀ (method : Member) (before after : List Parameter) (parameter : Parameter),
    method.kind.rule? = some .method → parameter.type = type →
    method.spelledParameters = before ++ parameter :: after →
      method.id settings = (do
        let owner ← method.declaring.ownerText settings
        let texts ← method.parameterTexts settings before
        let body ← spelling
        let texts' ← method.parameterTexts settings after
        let result ← method.resultText settings
        let text := body ++ if parameter.isOut && !type.isReference then "@" else ""
        .ok (method.opening owner ++ Shape.enclose "(" ")" (texts ++ text :: texts') ++ result))
  asResult : ∀ method : Member, method.isConversion = true → method.result = some type →
    method.id settings = (do
      let owner ← method.declaring.ownerText settings
      let texts ← method.parameterTexts settings method.parameters
      let body ← spelling
      .ok (method.opening owner ++ Member.closing texts ++ "~" ++ body))

namespace IsAbsolute

theorem ownerText_eq (h : type.IsAbsolute settings) :
    type.ownerText settings = type.spelling settings := by
  rw [ownerText, ownerShape, h.shape_eq, spelling]

theorem id_eq (h : type.IsAbsolute settings) :
    type.id settings = (type.spelling settings).map ("T:" ++ ·) := by
  rw [id, signature, h.shape_eq, spelling]
  simp only [map_eq_bind, bind_assoc, ok_bind, Signature.render_type]

/-- In a signature only an out parameter adds to the spelling of its type. -/
theorem render_occurrence {parameter : Parameter} (h : parameter.type.IsAbsolute settings)
    (scope : Scope) :
    (parameter.occurrence.shape settings scope 0).map Shape.render =
      (parameter.type.spelling settings).map
        (· ++ if parameter.isOut && !parameter.type.isReference then "@" else "") := by
  rw [Parameter.shape_occurrence, h.shape_eq, spelling]
  simp only [map_eq_bind, bind_assoc, ok_bind, Shape.render_referenceIf]

end IsAbsolute

/-- A type that the scope has no say in is spelled alike everywhere. -/
theorem spelledAlike_of_isAbsolute (h : type.IsAbsolute settings) :
    SpelledAlike settings type (type.spelling settings) where
  asElement := h.id_eq
  asFieldOwner field hkind hdeclaring := by
    rw [Member.id_eq_of_field hkind, hdeclaring, h.ownerText_eq]
  asEventOwner event hkind hdeclaring := by
    rw [Member.id_eq_of_event hkind, hdeclaring, h.ownerText_eq]
  asMethodOwner method hrule hdeclaring hparameters hconversion := by
    rw [Member.id_eq_texts hrule, hdeclaring, h.ownerText_eq,
      Member.spelledParameters_of_parameters_eq_nil hparameters, Member.parameterTexts_nil,
      Member.resultText_of_isConversion_eq_false hconversion]
    simp only [map_eq_bind, ok_bind, Member.closing_nil, String.append_empty]
  asConversionOwner method hconversion hdeclaring hparameters := by
    rw [Member.id_eq_texts (Member.rule?_of_isConversion hconversion), hdeclaring, h.ownerText_eq,
      Member.spelledParameters_of_parameters_eq_nil hparameters, Member.parameterTexts_nil]
    simp only [ok_bind, Member.closing_nil, String.append_empty]
  asParameter method before after parameter hrule htype hparameters := by
    subst htype
    rw [Member.id_eq_texts hrule, hparameters, Member.parameterTexts_append_cons,
      h.render_occurrence]
    simp only [map_eq_bind, bind_assoc, ok_bind, Member.closing_append_cons]
  asResult method hconversion hresult := by
    rw [Member.id_eq_texts (Member.rule?_of_isConversion hconversion),
      Member.spelledParameters_of_isConversion hconversion,
      Member.resultText_of_isConversion hconversion hresult, h.shape_eq, spelling]
    simp only [map_eq_bind, bind_assoc, ok_bind, String.append_assoc]

/-- A vector of instances with a by-reference argument, and an array with a fault inside. -/
theorem spelledAlike_of_isAbsolute_index :
    let cells := TypeUse.array (.builtin .int32) 2
    let index := TypeUse.array (((named "" "Index`2").inside (named "Sample" "Grid")).appliedTo
      [cells.asReference, .pointer (.builtin .void)]) 1
    let callbacks := TypeUse.array (.pointer .functionPointer) 1
    index.IsAbsolute .standard ∧
      SpelledAlike .standard index
        (.ok "Sample.Grid.Index\x7bSystem.Int32[0:,0:]@,System.Void*\x7d[]") ∧
      callbacks.IsAbsolute .standard ∧
      SpelledAlike .standard callbacks (.error .functionPointer) := by
  intro cells index callbacks
  have hindex : index.IsAbsolute .standard := by
    decide
  have hspelling : index.spelling .standard =
      .ok "Sample.Grid.Index\x7bSystem.Int32[0:,0:]@,System.Void*\x7d[]" := by
    decide
  have hcallbacks : callbacks.IsAbsolute .standard := by
    decide
  have hfault : callbacks.spelling .standard = .error .functionPointer := by
    decide
  exact ⟨hindex, hspelling ▸ spelledAlike_of_isAbsolute hindex, hcallbacks,
    hfault ▸ spelledAlike_of_isAbsolute hcallbacks⟩

end TypeUse

end CommentId
