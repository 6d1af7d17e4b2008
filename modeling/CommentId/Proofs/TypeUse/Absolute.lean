import CommentId.Proofs.TypeUse.Visit

/-!
Types that are spelled without regard to the place where they occur. Main statement: if no visit up
to the first fault meets a generic parameter or an instance whose name has no arity marker, the
shape of a type, or its fault, is the same in every scope.
-/

namespace CommentId.TypeUse

/-- The visits up to the first one that meets a fault, which ends them. Of a type that is too deep
nothing is looked at. -/
def reached (settings : Settings) : List Visit → List Visit
  | [] => []
  | visit :: visits =>
      if settings.maxDepth ≤ visit.depth then
        []
      else
        visit :: if visit.fault? settings = none then reached settings visits else []

/-- The scope has no say in how the type is spelled: it declares nothing of it, and the arguments
are spelled out in signatures only if they are elsewhere. -/
structure Visit.IsAbsolute (visit : Visit) : Prop where
  isGenericParameter : visit.type.isGenericParameter = false
  isArityMarked : visit.type.form = .named → visit.type.isInstantiated = true →
    visit.type.isArityMarked = true

instance (visit : Visit) : Decidable visit.IsAbsolute :=
  decidable_of_iff
    (visit.type.isGenericParameter = false ∧
      (visit.type.form = .named → visit.type.isInstantiated = true →
        visit.type.isArityMarked = true))
    ⟨fun ⟨hparameter, hmarked⟩ => ⟨hparameter, hmarked⟩,
      fun h => ⟨h.isGenericParameter, h.isArityMarked⟩⟩

/-- What is visited of the type in a signature is spelled alike everywhere. -/
def IsAbsolute (settings : Settings) (type : TypeUse) : Prop :=
  ∀ visit ∈ reached settings (type.visits settings.maxDepth { inSignature := true } 0),
    visit.IsAbsolute

instance (settings : Settings) (type : TypeUse) : Decidable (type.IsAbsolute settings) :=
  inferInstanceAs (Decidable (∀ visit ∈ reached settings _, visit.IsAbsolute))

section Reached

variable {settings : Settings} {visit : Visit} {visits visits' : List Visit}

theorem mem_reached_append_left (h : visit ∈ reached settings visits) :
    visit ∈ reached settings (visits ++ visits') := by
  induction visits with
  | nil => cases h
  | cons first visits ih =>
      rw [reached] at h
      rw [List.cons_append, reached]
      by_cases hdepth : settings.maxDepth ≤ first.depth
      · rw [if_pos hdepth] at h
        cases h
      rw [if_neg hdepth] at h
      rw [if_neg hdepth]
      rcases List.mem_cons.mp h with rfl | h
      · exact List.mem_cons_self
      · split at h
        · rw [if_pos ‹_›]
          exact List.mem_cons_of_mem _ (ih h)
        · cases h

theorem mem_reached_append_right (hclear : firstFault? settings visits = none)
    (h : visit ∈ reached settings visits') : visit ∈ reached settings (visits ++ visits') := by
  induction visits with
  | nil => exact h
  | cons first visits ih =>
      rw [firstFault?_cons, Option.or_eq_none_iff] at hclear
      have hdepth := Nat.not_le_of_lt (Visit.depth_lt_of_fault?_eq_none hclear.1)
      rw [List.cons_append, reached, if_neg hdepth, if_pos hclear.1]
      exact List.mem_cons_of_mem _ (ih hclear.2)

end Reached

section Shape

variable {settings : Settings} {scope : Scope} {depth : Nat} {type : TypeUse}

theorem showsArguments_of_isAbsolute
    (h : type.isInstantiated = true → type.isArityMarked = true) (scope : Scope) :
    type.showsArguments scope = type.isInstantiated := by
  cases hinstantiated : type.isInstantiated with
  | false => simp [showsArguments, hinstantiated]
  | true => simp [showsArguments, hinstantiated, h hinstantiated]

/-- A fault in front hides whatever the scope decides behind it. -/
theorem shapes_eq_of_reached {types : List TypeUse} {scope' : Scope}
    (hshape : ∀ type ∈ types,
      (∀ visit ∈ reached settings (type.visits settings.maxDepth scope depth),
        visit.IsAbsolute) →
      type.shape settings scope' depth = type.shape settings scope depth)
    (h : ∀ visit ∈ reached settings (types.flatMap (visits settings.maxDepth scope depth)),
      visit.IsAbsolute) :
    shapes settings scope' depth types = shapes settings scope depth types := by
  induction types with
  | nil => rfl
  | cons type types ih =>
      rw [List.flatMap_cons] at h
      have htype : type.shape settings scope' depth = type.shape settings scope depth :=
        hshape type List.mem_cons_self fun visit hvisit =>
          h visit (mem_reached_append_left hvisit)
      have houtcome := shape_eq_outcome settings scope depth type
      rw [shapes, shapes, htype, houtcome]
      cases hfault : firstFault? settings (type.visits settings.maxDepth scope depth) with
      | some fault => rfl
      | none =>
          have htypes : shapes settings scope' depth types = shapes settings scope depth types :=
            ih (fun type' htype' => hshape type' (List.mem_cons_of_mem _ htype'))
              fun visit hvisit => h visit (mem_reached_append_right hfault hvisit)
          rw [htypes]

theorem shape_eq_of_reached
    (h : ∀ visit ∈ reached settings (type.visits settings.maxDepth scope depth),
      visit.IsAbsolute) (scope' : Scope) :
    type.shape settings scope' depth = type.shape settings scope depth := by
  induction type using inductionOn generalizing depth with
  | step type hargument helement =>
      rw [shape_eq, shape_eq _ scope]
      by_cases hdepth : settings.maxDepth ≤ depth
      · rw [if_pos hdepth, if_pos hdepth]
      rw [visits_eq, reached, if_neg hdepth, if_neg hdepth] at h
      have hroot : Visit.IsAbsolute ⟨scope, depth, type⟩ := h _ List.mem_cons_self
      rw [if_neg hdepth, if_neg hdepth]
      have hbelow (hfault : Visit.fault? settings ⟨scope, depth, type⟩ = none) :
          ∀ visit ∈ reached settings (type.visitsBelow settings.maxDepth scope (depth + 1)),
            visit.IsAbsolute := by
        intro visit hvisit
        rw [if_pos hfault] at h
        exact h visit (List.mem_cons_of_mem _ hvisit)
      simp only [Visit.fault?, hdepth, if_false, visitsBelow] at hbelow
      congr 1
      cases hform : type.form with
      | named =>
          have hshows := showsArguments_of_isAbsolute (hroot.isArityMarked hform)
          simp only [hform, ← showsArguments_iff, hshows, forall_const] at hbelow ⊢
          split
          · rw [if_pos ‹_›] at hbelow
            rw [shapes_eq_of_reached (fun argument hmem => hargument argument hmem) hbelow]
          · rfl
      | genericParameter position =>
          have hparameter := hroot.isGenericParameter
          simp [isGenericParameter, hform] at hparameter
      | array element rank =>
          by_cases hrank : rank = 0
          · simp [hrank]
          · simp only [hform, hrank, if_false, forall_const] at hbelow ⊢
            rw [helement element (by simp [element?, hform]) hbelow]
      | pointer element =>
          simp only [hform, forall_const] at hbelow ⊢
          rw [helement element (by simp [element?, hform]) hbelow]
      | functionPointer => rfl

theorem IsAbsolute.shape_eq (h : type.IsAbsolute settings) (scope : Scope) :
    type.shape settings scope 0 = type.shape settings { inSignature := true } 0 :=
  shape_eq_of_reached h scope

end Shape

end CommentId.TypeUse
