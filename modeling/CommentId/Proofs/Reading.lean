import CommentId.IdString
import Mathlib.Data.List.TakeWhile

/-!
Reading identifiers. Main statement: a text is read exactly when it is an identifier with a body
as it is written, and of every other text the first of its flaws is reported.
-/

namespace CommentId

theorem Category.ofTag?_eq_some_iff {c : Char} {category : Category} :
    ofTag? c = some category ↔ category.tag = c := by
  constructor
  · exact tag_of_ofTag?
  · rintro rfl
    exact ofTag?_tag category

theorem Category.ofTag_of_forall_ne {c : Char} (h : ∀ category : Category, category.tag ≠ c) :
    ofTag c = .error (.unknownTag c) := by
  have hnone : ofTag? c = none := by
    rw [Option.eq_none_iff_forall_ne_some]
    exact fun category hcategory => h category (ofTag?_eq_some_iff.mp hcategory)
  rw [ofTag, hnone]

namespace IdString

/-- What is reported of a text that is not an identifier. The tag is what stands in front of the
first colon. -/
inductive Flaw : String → Fault → Prop
  | noTag {text : String} (hcolon : ':' ∉ text.toList) : Flaw text (.noTag text)
  | notOneCharacter {tag body : String} (hcolon : ':' ∉ tag.toList) (hlength : tag.length ≠ 1) :
      Flaw (tag ++ ":" ++ body) (.notOneCharacter tag)
  | unknownTag {c : Char} {body : String} (hcolon : c ≠ ':')
      (htag : ∀ category : Category, category.tag ≠ c) :
      Flaw (String.singleton c ++ ":" ++ body) (.unknownTag c)
  | noBody (category : Category) :
      Flaw (String.singleton category.tag ++ ":") (.noBody (String.singleton category.tag ++ ":"))

theorem Flaw.kind_eq {text : String} {fault : Fault} (h : Flaw text fault) :
    fault.kind = .invalidArgument := by
  cases h <;> rfl

section Cut

variable {tag : String}

theorem ne_colon_of_mem {chars : List Char} (hcolon : ':' ∉ chars) :
    ∀ c ∈ chars, (c != ':') = true := by
  intro c hc
  exact bne_iff_ne.mpr (ne_of_mem_of_not_mem hc hcolon)

theorem takeWhile_cut (hcolon : ':' ∉ tag.toList) (body : String) :
    (tag ++ ":" ++ body).toList.takeWhile (· != ':') = tag.toList := by
  rw [String.toList_append, String.toList_append, List.append_assoc,
    List.takeWhile_append_of_pos (ne_colon_of_mem hcolon)]
  exact List.append_nil tag.toList

theorem dropWhile_cut (hcolon : ':' ∉ tag.toList) (body : String) :
    (tag ++ ":" ++ body).toList.dropWhile (· != ':') = ':' :: body.toList := by
  rw [String.toList_append, String.toList_append, List.append_assoc,
    List.dropWhile_append_of_pos (ne_colon_of_mem hcolon)]
  rfl

theorem exists_cut {text : String} (hcolon : ':' ∈ text.toList) :
    ∃ tag body : String, ':' ∉ tag.toList ∧ text = tag ++ ":" ++ body := by
  obtain ⟨front, back, htext, hfront⟩ := List.eq_append_cons_of_mem hcolon
  refine ⟨String.ofList front, String.ofList back, by simpa using hfront, ?_⟩
  rw [← String.toList_inj]
  simp [htext]

end Cut

theorem parse_of_flaw {text : String} {fault : Fault} (h : Flaw text fault) :
    parse text = .error fault := by
  cases h with
  | noTag hcolon =>
      have hdrop := List.dropWhile_eq_nil_iff.mpr (ne_colon_of_mem hcolon)
      simp only [parse, hdrop]
  | @notOneCharacter tag body hcolon hlength =>
      simp only [parse, takeWhile_cut hcolon, dropWhile_cut hcolon]
      obtain ⟨cs, rfl⟩ : ∃ cs, tag = String.ofList cs := ⟨tag.toList, String.ofList_toList.symm⟩
      rw [String.toList_ofList]
      rcases cs with _ | ⟨c, _ | ⟨d, cs⟩⟩
      · rfl
      · exact absurd (String.length_ofList) hlength
      · rfl
  | @unknownTag c body hcolon htag =>
      have hcolon' : ':' ∉ (String.singleton c).toList := by
        simpa using hcolon.symm
      simp only [parse, takeWhile_cut hcolon', dropWhile_cut hcolon', String.toList_singleton,
        Category.ofTag_of_forall_ne htag]
      rfl
  | noBody category => cases category <;> rfl

theorem exists_flaw_or_eq_toString (text : String) :
    (∃ id : IdString, id.body ≠ "" ∧ text = id.toString) ∨ ∃ fault, Flaw text fault := by
  by_cases hcolon : ':' ∈ text.toList
  · obtain ⟨tag, body, htag, rfl⟩ := exists_cut hcolon
    by_cases hlength : tag.length = 1
    · obtain ⟨c, rfl⟩ : ∃ c, tag = String.singleton c := by
        rw [← String.length_toList, List.length_eq_one_iff] at hlength
        obtain ⟨c, hc⟩ := hlength
        exact ⟨c, by rw [← String.toList_inj, hc, String.toList_singleton]⟩
      by_cases hknown : ∃ category : Category, category.tag = c
      · obtain ⟨category, rfl⟩ := hknown
        by_cases hbody : body = ""
        · rw [hbody, String.append_empty]
          exact .inr ⟨_, .noBody category⟩
        · exact .inl ⟨⟨category, body⟩, hbody, rfl⟩
      · have hne : c ≠ ':' := by
          rintro rfl
          exact htag (by simp)
        exact .inr ⟨_, .unknownTag hne (not_exists.mp hknown)⟩
    · exact .inr ⟨_, .notOneCharacter htag hlength⟩
  · exact .inr ⟨_, .noTag hcolon⟩

theorem parse_eq_ok_iff {text : String} {id : IdString} :
    parse text = .ok id ↔ id.body ≠ "" ∧ text = id.toString := by
  constructor
  · intro hid
    rcases exists_flaw_or_eq_toString text with ⟨id', hbody, rfl⟩ | ⟨fault, hflaw⟩
    · rw [parse_toString id' hbody] at hid
      obtain rfl := Except.ok.inj hid
      exact ⟨hbody, rfl⟩
    · rw [parse_of_flaw hflaw] at hid
      cases hid
  · rintro ⟨hbody, rfl⟩
    exact parse_toString id hbody

theorem parse_eq_error_iff {text : String} {fault : Fault} :
    parse text = .error fault ↔ Flaw text fault := by
  refine ⟨fun herror => ?_, parse_of_flaw⟩
  rcases exists_flaw_or_eq_toString text with ⟨id, hbody, rfl⟩ | ⟨fault', hflaw⟩
  · rw [parse_toString id hbody] at herror
    cases herror
  · rw [parse_of_flaw hflaw] at herror
    obtain rfl := Except.error.inj herror
    exact hflaw

/-- Reading and writing undo each other, and whatever cannot be read is an invalid argument. -/
theorem parse_eq_ok_or_error_iff (text : String) :
    (∀ id, parse text = .ok id ↔ id.body ≠ "" ∧ text = id.toString) ∧
      ∀ fault, parse text = .error fault ↔ Flaw text fault ∧ fault.kind = .invalidArgument := by
  refine ⟨fun id => parse_eq_ok_iff, fun fault => ?_⟩
  rw [parse_eq_error_iff]
  exact ⟨fun hflaw => ⟨hflaw, hflaw.kind_eq⟩, fun hflaw => hflaw.1⟩

example : parse "MT:" = .error (.notOneCharacter "MT") := by
  decide

end IdString

end CommentId
