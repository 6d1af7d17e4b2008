import CommentId.Proofs.TypeUse.Visit
import Mathlib.Data.List.MinMax
import Mathlib.Order.Nat

/-!
The height of a type: how many levels of types its text shows. Main statement: a limit on the depth
cuts off exactly what lies below that many levels, and leaves everything before the cut as it is.
-/

namespace CommentId

theorem foldr_max_le_iff {heights : List Nat} {n : Nat} :
    heights.foldr max 0 ≤ n ↔ ∀ height ∈ heights, height ≤ n := by
  constructor
  · intro h height hheight
    exact (List.le_max_of_le hheight (Nat.le_refl height)).trans h
  · exact List.max_le_of_forall_le heights n

namespace TypeUse

/-- The types that the text of a type shows directly below it. -/
def shownBelow (scope : Scope) (type : TypeUse) : List TypeUse :=
  match type.form with
  | .named => if type.ShowsArguments scope then type.arguments else []
  | .array element _ | .pointer element => [element]
  | .genericParameter _ | .functionPointer => []

mutual

/-- One more than the largest height of the types shown directly below. -/
def height (scope : Scope) : TypeUse → Nat
  | ⟨ns, name, declaring, form, arguments, parameters, isDefinition, isReference, isEnum⟩ =>
      let type : TypeUse :=
        ⟨ns, name, declaring, form, arguments, parameters, isDefinition, isReference, isEnum⟩
      match form with
      | .named =>
          if type.ShowsArguments scope then (heights scope arguments).foldr max 0 + 1 else 1
      | .array element _ | .pointer element => element.height scope + 1
      | .genericParameter _ | .functionPointer => 1

def heights (scope : Scope) : List TypeUse → List Nat
  | [] => []
  | type :: types => type.height scope :: heights scope types

end

theorem heights_eq_map (scope : Scope) (types : List TypeUse) :
    heights scope types = types.map (height scope) := by
  induction types with
  | nil => rfl
  | cons type types ih => rw [heights, ih, List.map_cons]

theorem height_eq (scope : Scope) (type : TypeUse) :
    type.height scope = ((type.shownBelow scope).map (height scope)).foldr max 0 + 1 := by
  rw [shownBelow]
  rcases type with ⟨_, _, _, _ | _ | _ | _ | _, _, _, _, _, _⟩ <;> rw [height.eq_def]
  case named =>
    dsimp only
    split
    · rw [heights_eq_map]
    · rfl
  all_goals simp

theorem height_le_succ_iff {scope : Scope} {type : TypeUse} {n : Nat} :
    type.height scope ≤ n + 1 ↔ ∀ below ∈ type.shownBelow scope, below.height scope ≤ n := by
  rw [height_eq, Nat.add_le_add_iff_right, foldr_max_le_iff]
  simp

/-- Induction on the types that are shown below a type. -/
@[elab_as_elim]
theorem inductionOnShown {motive : TypeUse → Prop} (scope : Scope) (type : TypeUse)
    (step : ∀ type : TypeUse, (∀ below ∈ type.shownBelow scope, motive below) → motive type) :
    motive type := by
  induction type using inductionOn with
  | step type hargument helement =>
      apply step
      intro below hbelow
      rw [shownBelow] at hbelow
      cases hform : type.form with
      | named =>
          simp only [hform] at hbelow
          split at hbelow
          · exact hargument below hbelow
          · cases hbelow
      | array element rank =>
          simp only [hform, List.mem_singleton] at hbelow
          exact helement below (by simp [element?, hform, hbelow])
      | pointer element =>
          simp only [hform, List.mem_singleton] at hbelow
          exact helement below (by simp [element?, hform, hbelow])
      | genericParameter position | functionPointer => simp [hform] at hbelow

/-- An array without dimensions is not shown, and its element is not visited. -/
def hasNoDimension (type : TypeUse) : Bool :=
  match type.form with
  | .array _ rank => rank == 0
  | _ => false

theorem visitsBelow_eq (maxDepth : Nat) (scope : Scope) (depth : Nat) (type : TypeUse) :
    type.visitsBelow maxDepth scope depth =
      if type.hasNoDimension then
        []
      else
        (type.shownBelow scope).flatMap (visits maxDepth scope depth) := by
  cases hform : type.form with
  | named =>
      by_cases hshows : type.ShowsArguments scope <;>
        simp [visitsBelow, shownBelow, hasNoDimension, hform, hshows]
  | array element rank => simp [visitsBelow, shownBelow, hasNoDimension, hform]
  | pointer element => simp [visitsBelow, shownBelow, hasNoDimension, hform]
  | genericParameter position | functionPointer =>
      simp [visitsBelow, shownBelow, hasNoDimension, hform]

theorem Visit.hasNoDimension_of_fault?_eq_none {settings : Settings} {visit : Visit}
    (h : visit.fault? settings = none) : visit.type.hasNoDimension = false := by
  rw [fault?, if_neg (Nat.not_le_of_lt (depth_lt_of_fault?_eq_none h))] at h
  cases hform : visit.type.form <;> simp_all [hasNoDimension]

variable {settings : Settings} {scope : Scope} {depth : Nat} {type : TypeUse} {visit : Visit}

theorem depth_lt_of_mem_visits {maxDepth : Nat} (h : visit ∈ type.visits maxDepth scope depth) :
    visit.depth < depth + type.height scope := by
  induction type using inductionOnShown scope generalizing depth with
  | step type ih =>
      obtain ⟨levels, hlevels⟩ : ∃ levels, type.height scope = levels + 1 := ⟨_, height_eq ..⟩
      rw [visits_eq, visitsBelow_eq] at h
      rcases List.mem_cons.mp h with rfl | h
      · dsimp only
        omega
      · split at h
        · cases h
        split at h
        · cases h
        obtain ⟨below, hbelow, hvisit⟩ := List.mem_flatMap.mp h
        have hheight := height_le_succ_iff.mp (Nat.le_of_eq hlevels) below hbelow
        have hdepth := ih below hbelow hvisit
        omega

theorem add_height_le_of_firstFault?_eq_none
    (h : firstFault? settings (type.visits settings.maxDepth scope depth) = none) :
    depth + type.height scope ≤ settings.maxDepth := by
  induction type using inductionOnShown scope generalizing depth with
  | step type ih =>
      have hroot := fault?_self_eq_none h
      rw [firstFault?_eq_none_iff] at h
      have hdepth : depth < settings.maxDepth := Visit.depth_lt_of_fault?_eq_none hroot
      have hdimension : type.hasNoDimension = false :=
        Visit.hasNoDimension_of_fault?_eq_none hroot
      obtain ⟨levels, hlevels⟩ : ∃ levels, settings.maxDepth = depth + (levels + 1) :=
        ⟨settings.maxDepth - depth - 1, by omega⟩
      rw [hlevels]
      apply Nat.add_le_add_left
      rw [height_le_succ_iff]
      intro below hbelow
      have hheight : depth + 1 + below.height scope ≤ settings.maxDepth := by
        apply ih below hbelow
        rw [firstFault?_eq_none_iff]
        intro visit hvisit
        apply h
        rw [visits_eq, if_neg (Nat.not_le_of_lt hdepth), visitsBelow_eq, hdimension]
        exact List.mem_cons_of_mem _ (List.mem_flatMap_of_mem hbelow hvisit)
      omega

theorem agreeUnless_firstFault?_flatMap {α : Type} {p : Fault → Prop} {settings' : Settings}
    {front front' : α → List Visit} {items : List α}
    (h : ∀ item ∈ items,
      AgreeUnless p (firstFault? settings (front item)) (firstFault? settings' (front' item))) :
    AgreeUnless p (firstFault? settings (items.flatMap front))
      (firstFault? settings' (items.flatMap front')) := by
  induction items with
  | nil => exact AgreeUnless.refl none
  | cons item items ih =>
      rw [List.flatMap_cons, List.flatMap_cons, firstFault?_append, firstFault?_append]
      exact (h item List.mem_cons_self).or
        (ih fun item' hitem' => h item' (List.mem_cons_of_mem _ hitem'))

theorem agreeUnless_firstFault?_visits {maxDepth maxDepth' : Nat} (hle : maxDepth ≤ maxDepth')
    (scoping : Scoping) (scope : Scope) (depth : Nat) (type : TypeUse) :
    AgreeUnless (· = .tooDeep maxDepth)
      (firstFault? ⟨scoping, maxDepth⟩ (type.visits maxDepth scope depth))
      (firstFault? ⟨scoping, maxDepth'⟩ (type.visits maxDepth' scope depth)) := by
  induction type using inductionOnShown scope generalizing depth with
  | step type ih =>
      rw [visits_eq, visits_eq maxDepth', firstFault?_cons, firstFault?_cons]
      by_cases hdepth : maxDepth ≤ depth
      · refine .inr ⟨_, ?_, rfl⟩
        simp [Visit.fault?, hdepth]
      · have hdepth' : ¬maxDepth' ≤ depth := by omega
        have hroot : Visit.fault? ⟨scoping, maxDepth⟩ ⟨scope, depth, type⟩ =
            Visit.fault? ⟨scoping, maxDepth'⟩ ⟨scope, depth, type⟩ := by
          simp [Visit.fault?, hdepth, hdepth']
        rw [hroot, if_neg hdepth, if_neg hdepth', visitsBelow_eq, visitsBelow_eq]
        apply (AgreeUnless.refl _).or
        split
        · exact AgreeUnless.refl _
        · exact agreeUnless_firstFault?_flatMap fun below hbelow => ih below hbelow (depth + 1)

end TypeUse

end CommentId
