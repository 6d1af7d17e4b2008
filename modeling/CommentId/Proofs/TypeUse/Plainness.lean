import CommentId.Proofs.Shape.Readability
import CommentId.Proofs.TypeUse.Visit

/-!
Types whose names cannot be mistaken for structure. Main statement: if all names that the text of
a type shows are plain, and no visit meets a fault, then what the text shows is plain.
-/

namespace CommentId

namespace Plain

variable {further : List Char} {text text' : String}

instance : Decidable (Plain further text) :=
  have := List.decidableBAll (fun c => c ∉ Shape.delimiters ∧ c ∉ further) text.toList
  decidable_of_iff
    (text ≠ "" ∧ text.toList.head? ≠ some '\x60' ∧
      ∀ c ∈ text.toList, c ∉ Shape.delimiters ∧ c ∉ further)
    ⟨fun ⟨hne, hhead, hmem⟩ => ⟨hne, hhead, hmem⟩, fun h => ⟨h.ne_empty, h.head?_ne, h.not_mem⟩⟩

theorem dotted (hdot : '.' ∉ further) (h : Plain further text) (h' : Plain further text') :
    Plain further (text ++ "." ++ text') := by
  have hchars : (text ++ "." ++ text').toList = text.toList ++ '.' :: text'.toList := by
    simp [String.toList_append]
  have hne : text.toList ≠ [] := fun hnil => h.ne_empty (String.toList_eq_nil_iff.mp hnil)
  refine ⟨fun hempty => ?_, ?_, fun c hc => ?_⟩
  · rw [hempty] at hchars
    exact hne (List.append_eq_nil_iff.mp hchars.symm).1
  · rw [hchars, List.head?_append_of_ne_nil _ hne]
    exact h.head?_ne
  · rw [hchars] at hc
    rcases List.mem_append.mp hc with hc | hc
    · exact h.not_mem c hc
    rcases List.mem_cons.mp hc with rfl | hc
    · exact ⟨by decide, hdot⟩
    · exact h'.not_mem c hc

theorem intercalate (hdot : '.' ∉ further) {name : String} {names : List String}
    (h : ∀ text ∈ name :: names, Plain further text) :
    Plain further (".".intercalate (name :: names)) := by
  induction names generalizing name with
  | nil =>
      rw [String.intercalate_singleton]
      exact h name List.mem_cons_self
  | cons next names ih =>
      rw [String.intercalate_cons_cons]
      exact dotted hdot (h name List.mem_cons_self)
        (ih fun text htext => h text (List.mem_cons_of_mem _ htext))

theorem withoutMarkers_eq (h : Plain further text) : TypeUse.withoutMarkers text = text := by
  have hfilter : text.toList.filter (· != '&') = text.toList := by
    rw [List.filter_eq_self]
    intro c hc
    have hdelimiter := (h.not_mem c hc).1
    rw [bne_iff_ne]
    rintro rfl
    exact hdelimiter (by decide)
  rw [TypeUse.withoutMarkers, hfilter, String.ofList_toList]

end Plain

theorem Shape.referenceIf_of {motive : Shape → Prop} {shape : Shape}
    (reference : ∀ target, motive target → motive (.reference target)) (h : motive shape)
    (isReference : Bool) : motive (Shape.referenceIf isReference shape) := by
  cases isReference with
  | false => exact h
  | true => exact reference shape h

namespace TypeUse

/-- The names that a visit adds to the text are plain. Only named types add any. -/
structure Visit.IsPlain (further : List Char) (visit : Visit) : Prop where
  nearestNs : visit.type.form = .named →
    visit.type.nearestNs = "" ∨ Plain further visit.type.nearestNs
  declaring : visit.type.form = .named →
    ∀ outer ∈ visit.type.declaring, Plain further outer.name
  shownName : visit.type.form = .named → Plain further (visit.type.shownName visit.scope)

instance (further : List Char) (visit : Visit) : Decidable (visit.IsPlain further) :=
  decidable_of_iff
    (visit.type.form = .named →
      (visit.type.nearestNs = "" ∨ Plain further visit.type.nearestNs) ∧
        (∀ outer ∈ visit.type.declaring, Plain further outer.name) ∧
        Plain further (visit.type.shownName visit.scope))
    ⟨fun h => ⟨fun hform => (h hform).1, fun hform => (h hform).2.1, fun hform => (h hform).2.2⟩,
      fun h hform => ⟨h.nearestNs hform, h.declaring hform, h.shownName hform⟩⟩

section Path

variable {further : List Char} {scope : Scope} {depth : Nat} {type : TypeUse}

theorem plain_of_mem_qualifiers (h : Visit.IsPlain further ⟨scope, depth, type⟩)
    (hform : type.form = .named) : ∀ text ∈ type.qualifiers, Plain further text := by
  intro text htext
  rcases List.mem_append.mp htext with htext | htext
  · split at htext
    · cases htext
    · obtain rfl := List.mem_singleton.mp htext
      exact (h.nearestNs hform).resolve_left ‹_›
  · cases houter : type.declaring with
    | none =>
        rw [houter] at htext
        cases htext
    | some outer =>
        rw [houter] at htext
        obtain rfl := List.mem_singleton.mp htext
        exact h.declaring hform outer houter

theorem plain_intercalate (hdot : '.' ∉ further) (h : Visit.IsPlain further ⟨scope, depth, type⟩)
    (hform : type.form = .named) :
    Plain further (".".intercalate (type.qualifiers ++ [type.shownName scope])) := by
  have hmem : ∀ text ∈ type.qualifiers ++ [type.shownName scope], Plain further text := by
    intro text htext
    rcases List.mem_append.mp htext with htext | htext
    · exact plain_of_mem_qualifiers h hform text htext
    · obtain rfl := List.mem_singleton.mp htext
      exact h.shownName hform
  obtain ⟨name, names, hnames⟩ :=
    List.exists_cons_of_ne_nil (List.append_ne_nil_of_right_ne_nil type.qualifiers
      (List.cons_ne_nil (type.shownName scope) []))
  rw [hnames] at hmem ⊢
  exact Plain.intercalate hdot hmem

theorem path_of_isPlain (hdot : '.' ∉ further) (h : Visit.IsPlain further ⟨scope, depth, type⟩)
    (hform : type.form = .named) :
    type.path (type.shownName scope) =
      ".".intercalate (type.qualifiers ++ [type.shownName scope]) := by
  rw [path_eq, (plain_intercalate hdot h hform).withoutMarkers_eq]

theorem plain_path (hdot : '.' ∉ further) (h : Visit.IsPlain further ⟨scope, depth, type⟩)
    (hform : type.form = .named) : Plain further (type.path (type.shownName scope)) := by
  rw [path_of_isPlain hdot h hform]
  exact plain_intercalate hdot h hform

end Path

/-- What holds of the paths of all visited types and is kept by every form of a shape holds of the
outline. -/
theorem outline_of_visits {motive : Shape → Prop} {settings : Settings} {scope : Scope}
    {depth : Nat} {type : TypeUse}
    (named : ∀ visit ∈ type.visits settings.maxDepth scope depth, visit.type.form = .named →
      ∀ arguments, (∀ argument ∈ arguments, motive argument) →
        motive (.named (visit.type.path (visit.type.shownName visit.scope)) arguments))
    (genericParameter : ∀ level position, motive (.genericParameter level position))
    (array : ∀ element rank, rank ≠ 0 → motive element → motive (.array element rank))
    (pointer : ∀ element, motive element → motive (.pointer element))
    (reference : ∀ target, motive target → motive (.reference target))
    (hfault : ∀ visit ∈ type.visits settings.maxDepth scope depth,
      visit.fault? settings = none) :
    motive (type.outline scope) := by
  induction type using inductionOn generalizing depth with
  | step type hargument helement =>
      rw [visits_eq] at named hfault
      have hownFault := hfault _ List.mem_cons_self
      have hown := named _ List.mem_cons_self
      have hdepth := Nat.not_le_of_lt (Visit.depth_lt_of_fault?_eq_none hownFault)
      simp only [hdepth, if_false] at named hfault
      simp only [Visit.fault?, hdepth, if_false] at hownFault
      have hnamedBelow := fun visit hvisit => named visit (List.mem_cons_of_mem _ hvisit)
      have hfaultBelow := fun visit hvisit => hfault visit (List.mem_cons_of_mem _ hvisit)
      rw [outline_eq]
      apply Shape.referenceIf_of reference
      cases hform : type.form with
      | named =>
          by_cases hshow : type.ShowsArguments scope
          · simp only [visitsBelow, hform, hshow, if_true] at hnamedBelow hfaultBelow
            have hpath := hown hform (type.arguments.map (outline scope))
            simp only [shownName_eq, showsArguments_iff, hshow, if_true] at hpath ⊢
            apply hpath
            intro shape hshape
            obtain ⟨argument, hmem, rfl⟩ := List.mem_map.mp hshape
            exact hargument argument hmem
              (fun visit hvisit => hnamedBelow visit (List.mem_flatMap_of_mem hmem hvisit))
              (fun visit hvisit => hfaultBelow visit (List.mem_flatMap_of_mem hmem hvisit))
          · have hpath := hown hform [] (by simp)
            simp only [shownName_eq, showsArguments_iff, hshow, if_false] at hpath ⊢
            exact hpath
      | genericParameter position => exact genericParameter _ position
      | array element rank =>
          have hrank : rank ≠ 0 := by
            intro hzero
            simp [hform, hzero] at hownFault
          simp only [visitsBelow, hform, hrank, if_false] at hnamedBelow hfaultBelow
          exact array _ rank hrank
            (helement element (by simp [element?, hform]) hnamedBelow hfaultBelow)
      | pointer element =>
          simp only [visitsBelow, hform] at hnamedBelow hfaultBelow
          exact pointer _
            (helement element (by simp [element?, hform]) hnamedBelow hfaultBelow)
      | functionPointer => simp [hform] at hownFault

theorem isPlain_outline {further : List Char} (hdot : '.' ∉ further) {settings : Settings}
    {scope : Scope} {depth : Nat} {type : TypeUse}
    (hplain : ∀ visit ∈ type.visits settings.maxDepth scope depth, visit.IsPlain further)
    (hfault : ∀ visit ∈ type.visits settings.maxDepth scope depth,
      visit.fault? settings = none) :
    (type.outline scope).IsPlain further :=
  outline_of_visits
    (fun visit hvisit hform _ => .named (plain_path hdot (hplain visit hvisit) hform))
    .genericParameter (fun _ _ hrank helement => .array helement hrank) (fun _ => .pointer)
    (fun _ => .reference) hfault

end TypeUse

end CommentId
