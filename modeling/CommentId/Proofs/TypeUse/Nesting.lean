import CommentId.TypeUse.Basic

/-!
Types inside of types. Main statement: the namespace of a type is that of the nearest type that has
one, from the type itself outwards, and what is around that one has no part in it.
-/

namespace CommentId.TypeUse

theorem sizeOf_lt_of_declaring {type outer : TypeUse} (h : type.declaring = some outer) :
    sizeOf outer < sizeOf type := by
  rcases type with ⟨_, _, declaring, _, _, _, _, _, _⟩
  obtain rfl : declaring = some outer := h
  simp only [mk.sizeOf_spec, Option.some.sizeOf_spec]
  omega

/-- Induction on the types around a type. -/
@[elab_as_elim]
theorem inductionOutwards {motive : TypeUse → Prop} (type : TypeUse)
    (step : ∀ type : TypeUse, (∀ outer, type.declaring = some outer → motive outer) →
      motive type) : motive type :=
  step type fun outer _ => inductionOutwards outer step
termination_by sizeOf type
decreasing_by exact sizeOf_lt_of_declaring ‹_›

/-- The type and those around it, from the inside outwards. -/
def enclosure : TypeUse → List TypeUse
  | ⟨ns, name, declaring, form, arguments, parameters, isDefinition, isReference, isEnum⟩ =>
      ⟨ns, name, declaring, form, arguments, parameters, isDefinition, isReference, isEnum⟩ ::
        match declaring with
        | none => []
        | some outer => outer.enclosure

/-- The search for a namespace in turns, each of which goes one type outwards. There is no result
if the turns do not suffice. -/
def searchNs : Nat → TypeUse → Option String
  | 0, _ => none
  | turns + 1, type =>
      if type.ns = "" then
        match type.declaring with
        | some outer => searchNs turns outer
        | none => some type.ns
      else
        some type.ns

/-- Puts the nearest type that has a namespace into other surroundings. -/
def surroundedBy (around : Option TypeUse) : TypeUse → TypeUse
  | ⟨ns, name, declaring, form, arguments, parameters, isDefinition, isReference, isEnum⟩ =>
      let declaring :=
        if ns = "" then
          match declaring with
          | none => none
          | some outer => some (outer.surroundedBy around)
        else
          around
      ⟨ns, name, declaring, form, arguments, parameters, isDefinition, isReference, isEnum⟩

variable {type : TypeUse}

theorem enclosure_eq (type : TypeUse) :
    type.enclosure = type :: (type.declaring.map enclosure).getD [] := by
  rcases type with ⟨_, _, _ | _, _, _, _, _, _, _⟩ <;> rw [enclosure.eq_def] <;> rfl

theorem surroundedBy_eq (around : Option TypeUse) (type : TypeUse) :
    type.surroundedBy around =
      { type with
        declaring :=
          if type.ns = "" then type.declaring.map (surroundedBy around) else around } := by
  rcases type with ⟨_, _, _ | _, _, _, _, _, _, _⟩ <;> rw [surroundedBy.eq_def] <;> rfl

theorem searchNs_of_length_le {turns : Nat} (h : type.enclosure.length ≤ turns) :
    searchNs turns type = some type.enclosingNs := by
  induction type using inductionOutwards generalizing turns with
  | step type ih =>
      rw [enclosure_eq, List.length_cons] at h
      obtain ⟨turns, rfl⟩ := Nat.exists_eq_add_of_le' (Nat.le_trans (Nat.le_add_left 1 _) h)
      rw [searchNs, enclosingNs_eq]
      split
      · cases hdeclaring : type.declaring with
        | none => exact congrArg some ‹_›
        | some outer =>
            rw [hdeclaring] at h
            exact ih outer hdeclaring (Nat.le_of_succ_le_succ h)
      · rfl

/-- The search meets the types from the inside outwards. -/
theorem enclosingNs_eq_find? (type : TypeUse) :
    type.enclosingNs = ((type.enclosure.map ns).find? (· ≠ "")).getD "" := by
  induction type using inductionOutwards with
  | step type ih =>
      by_cases hns : type.ns = ""
      · rw [enclosingNs_eq, if_pos hns, enclosure_eq, List.map_cons,
          List.find?_cons_of_neg (by simpa using hns)]
        cases hdeclaring : type.declaring with
        | none => rfl
        | some outer => exact ih outer hdeclaring
      · rw [enclosingNs_of_ne hns, enclosure_eq, List.map_cons,
          List.find?_cons_of_pos (by simpa using hns)]
        rfl

theorem enclosingNs_of_enclosure_eq {inner around : List TypeUse} {outer : TypeUse}
    (h : type.enclosure = inner ++ outer :: around) (hinner : ∀ t ∈ inner, t.ns = "")
    (houter : outer.ns ≠ "") : type.enclosingNs = outer.ns := by
  have hnone : (inner.map ns).find? (· ≠ "") = none := by
    simpa using hinner
  rw [enclosingNs_eq_find?, h, List.map_append, List.find?_append, hnone, Option.none_or,
    List.map_cons, List.find?_cons_of_pos (by simpa using houter)]
  rfl

theorem enclosingNs_of_forall (h : ∀ t ∈ type.enclosure, t.ns = "") : type.enclosingNs = "" := by
  have hnone : (type.enclosure.map ns).find? (· ≠ "") = none := by
    simpa using h
  rw [enclosingNs_eq_find?, hnone]
  rfl

theorem enclosingNs_of_getLast? {outermost : TypeUse}
    (hlast : type.enclosure.getLast? = some outermost)
    (h : ∀ t ∈ type.enclosure, t.isNested = true → t.ns = "") :
    type.enclosingNs = outermost.ns := by
  induction type using inductionOutwards with
  | step type ih =>
      rw [enclosure_eq] at hlast h
      rw [enclosingNs_eq]
      cases hdeclaring : type.declaring with
      | none =>
          rw [hdeclaring] at hlast
          obtain rfl : type = outermost := Option.some.inj hlast
          split
          · exact Eq.symm ‹_›
          · rfl
      | some outer =>
          -- the type is nested, so it leaves the namespace to the types around it
          rw [hdeclaring] at hlast h
          have hns : type.ns = "" :=
            h type List.mem_cons_self (by rw [isNested, hdeclaring]; rfl)
          rw [if_pos hns]
          refine ih outer hdeclaring ?_ fun t ht => h t (List.mem_cons_of_mem _ ht)
          rw [Option.map_some, Option.getD_some, enclosure_eq outer,
            List.getLast?_cons_cons] at hlast
          rwa [enclosure_eq outer]

theorem enclosingNs_surroundedBy (around : Option TypeUse) :
    (type.surroundedBy around).enclosingNs = type.enclosingNs := by
  induction type using inductionOutwards with
  | step type ih =>
      rw [enclosingNs_eq, enclosingNs_eq type, surroundedBy_eq]
      split
      · cases hdeclaring : type.declaring with
        | none => rfl
        | some outer => exact ih outer hdeclaring
      · rfl

theorem name_surroundedBy (around : Option TypeUse) :
    (type.surroundedBy around).name = type.name := by
  rw [surroundedBy_eq]

/-- The namespace of a type is that of the nearest type that has one. -/
theorem enclosingNs_nearest (type : TypeUse) :
    (∀ turns, type.enclosure.length ≤ turns → searchNs turns type = some type.enclosingNs) ∧
      (∀ inner outer around, type.enclosure = inner ++ outer :: around →
        (∀ t ∈ inner, t.ns = "") → outer.ns ≠ "" →
          type.enclosingNs = outer.ns ∧ type.qualifiedName = outer.ns ++ "." ++ type.name) ∧
      ((∀ t ∈ type.enclosure, t.ns = "") →
        type.enclosingNs = "" ∧ type.qualifiedName = type.name) ∧
      (∀ outermost, type.enclosure.getLast? = some outermost →
        (∀ t ∈ type.enclosure, t.isNested = true → t.ns = "") →
          type.enclosingNs = outermost.ns) ∧
      ∀ around, (type.surroundedBy around).enclosingNs = type.enclosingNs ∧
        (type.surroundedBy around).qualifiedName = type.qualifiedName := by
  refine ⟨fun turns => searchNs_of_length_le, fun inner outer around henclosure hinner houter => ?_,
    fun hall => ?_, fun outermost => enclosingNs_of_getLast?, fun around => ?_⟩
  · have hns := enclosingNs_of_enclosure_eq henclosure hinner houter
    rw [qualifiedName, hns, if_neg houter]
    exact ⟨rfl, rfl⟩
  · have hns := enclosingNs_of_forall hall
    rw [qualifiedName, if_pos hns]
    exact ⟨hns, rfl⟩
  · rw [qualifiedName, qualifiedName, enclosingNs_surroundedBy, name_surroundedBy]
    exact ⟨rfl, rfl⟩

/-- A namespace in the middle hides the outermost one. -/
theorem enclosingNs_nearest_middle :
    let outermost := named "Outer" "Top"
    let middle := (named "Inner.Space" "Middle").inside outermost
    let leaf := (named "" "Leaf").inside ((named "" "Twig").inside middle)
    leaf.enclosingNs = "Inner.Space" ∧ leaf.qualifiedName = "Inner.Space.Leaf" ∧
      searchNs 4 leaf = some "Inner.Space" ∧
      (leaf.surroundedBy none).qualifiedName = "Inner.Space.Leaf" := by
  intro outermost middle leaf
  obtain ⟨hterminates, hnearest, -, -, haround⟩ := enclosingNs_nearest leaf
  have hfound := hnearest [leaf, (named "" "Twig").inside middle] middle [outermost] rfl
    (by decide) (by decide)
  refine ⟨hfound.1, hfound.2, ?_, ?_⟩
  · rw [hterminates 4 (by decide), hfound.1]
    rfl
  · rw [(haround none).2, hfound.2]
    rfl

end CommentId.TypeUse
