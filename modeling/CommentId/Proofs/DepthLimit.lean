import CommentId.Proofs.Request
import CommentId.Proofs.TypeUse.Height
import Mathlib.Data.List.Basic

/-!
The limit on the depth of types. Main statement: a limit does nothing but cut off, and an identifier
is found under exactly those limits that are no smaller than the height of what it shows.
-/

namespace CommentId

open TypeUse (Visit firstFault? agreeUnless_firstFault?_flatMap agreeUnless_firstFault?_visits)

def Place.height (place : Place) : Nat :=
  place.type.height place.scope

namespace Request

variable {request : Request} {settings : Settings}

/-- The largest height among the types that the identifier shows. -/
def height (request : Request) : Nat :=
  (request.places.map Place.height).foldr max 0

theorem height_le_iff {n : Nat} :
    request.height ≤ n ↔ ∀ place ∈ request.places, place.height ≤ n := by
  rw [height, foldr_max_le_iff]
  simp

theorem height_of_nestedType {member : Member} (hkind : member.kind = .nestedType) :
    (ofMember member).height = 1 := by
  simp only [height, places, hkind]
  rfl

theorem visits_of_not_refused (h : request.refusal? = none) (maxDepth : Nat) :
    request.visits maxDepth = request.places.flatMap (Place.visits maxDepth) := by
  rw [visits, h]
  rfl

theorem refusal?_ne_tooDeep (request : Request) (limit : Nat) :
    request.refusal? ≠ some (.tooDeep limit) := by
  cases request with
  | ofType type => simp [refusal?]
  | ofValue enumeration name =>
      rw [refusal?]
      split
      · simp
      · split <;> simp
  | ofMember member | ofMemberAs rule member =>
      rw [refusal?]
      split <;> simp

theorem missingResult?_ne_tooDeep (request : Request) (limit : Nat) :
    request.missingResult? ≠ some (.tooDeep limit) := by
  cases request with
  | ofType type | ofValue enumeration name => simp [missingResult?]
  | ofMember member =>
      rw [missingResult?]
      cases member.kind.rule? with
      | none => simp
      | some rule => exact member.missingResultBy_ne_tooDeep rule limit
  | ofMemberAs rule member => exact member.missingResultBy_ne_tooDeep rule limit

theorem agreeUnless_obstacle? {maxDepth maxDepth' : Nat} (hle : maxDepth ≤ maxDepth')
    (scoping : Scoping) (request : Request) :
    AgreeUnless (· = .tooDeep maxDepth) (request.obstacle? ⟨scoping, maxDepth⟩)
      (request.obstacle? ⟨scoping, maxDepth'⟩) := by
  apply (AgreeUnless.refl _).or
  refine AgreeUnless.or ?_ (AgreeUnless.refl _)
  simp only [visits]
  split
  · exact AgreeUnless.refl none
  · exact agreeUnless_firstFault?_flatMap fun place _ =>
      agreeUnless_firstFault?_visits hle scoping place.scope 0 place.type

theorem exists_visit_of_obstacle?_eq_tooDeep {limit : Nat}
    (h : request.obstacle? settings = some (.tooDeep limit)) :
    ∃ visit ∈ request.visits settings.maxDepth,
      visit.fault? settings = some (.tooDeep limit) := by
  simp only [obstacle?, Option.or_eq_some_iff, refusal?_ne_tooDeep, missingResult?_ne_tooDeep,
    false_or, and_false, or_false] at h
  exact List.exists_of_findSome?_eq_some h.2

theorem lt_height_of_mem_visits {maxDepth : Nat} {visit : Visit}
    (h : visit ∈ request.visits maxDepth) : visit.depth < request.height := by
  rw [visits] at h
  split at h
  · cases h
  · obtain ⟨place, hplace, hvisit⟩ := List.mem_flatMap.mp h
    have hdepth := TypeUse.depth_lt_of_mem_visits hvisit
    have hheight : place.height ≤ request.height :=
      height_le_iff.mp (Nat.le_refl request.height) place hplace
    rw [Nat.zero_add] at hdepth
    exact Nat.lt_of_lt_of_le hdepth hheight

theorem lt_height_of_obstacle?_eq_tooDeep {limit : Nat}
    (h : request.obstacle? settings = some (.tooDeep limit)) :
    limit = settings.maxDepth ∧ settings.maxDepth < request.height := by
  obtain ⟨visit, hvisit, hfault⟩ := exists_visit_of_obstacle?_eq_tooDeep h
  obtain ⟨rfl, hdepth⟩ := Visit.fault?_eq_tooDeep hfault
  exact ⟨rfl, Nat.lt_of_le_of_lt hdepth (lt_height_of_mem_visits hvisit)⟩

theorem height_le_of_obstacle?_eq_none (h : request.obstacle? settings = none) :
    request.height ≤ settings.maxDepth := by
  simp only [obstacle?, Option.or_eq_none_iff] at h
  obtain ⟨hrefusal, hvisits, -⟩ := h
  rw [visits_of_not_refused hrefusal, TypeUse.firstFault?_eq_none_iff] at hvisits
  rw [height_le_iff]
  intro place hplace
  have hheight : 0 + place.height ≤ settings.maxDepth := by
    apply TypeUse.add_height_le_of_firstFault?_eq_none
    rw [TypeUse.firstFault?_eq_none_iff]
    intro visit hvisit
    exact hvisits visit (List.mem_flatMap_of_mem hplace hvisit)
  omega

/-- Where some limit lets a request through, the height decides which others do. -/
theorem obstacle?_eq_ite {scoping : Scoping} {maxDepth' : Nat}
    (h : request.obstacle? ⟨scoping, maxDepth'⟩ = none) (maxDepth : Nat) :
    request.obstacle? ⟨scoping, maxDepth⟩ =
      if request.height ≤ maxDepth then none else some (.tooDeep maxDepth) := by
  have hheight' : request.height ≤ maxDepth' := height_le_of_obstacle?_eq_none h
  split
  · rename_i hheight
    rcases Nat.le_total maxDepth maxDepth' with hle | hle
    · rcases agreeUnless_obstacle? hle scoping request with hagree | ⟨_, hdeep, rfl⟩
      · rw [hagree, h]
      · have hlt : maxDepth < request.height := (lt_height_of_obstacle?_eq_tooDeep hdeep).2
        omega
    · rcases agreeUnless_obstacle? hle scoping request with hagree | ⟨_, hdeep, rfl⟩
      · rw [← hagree, h]
      · rw [h] at hdeep
        cases hdeep
  · rename_i hheight
    have hle : maxDepth ≤ maxDepth' := by omega
    rcases agreeUnless_obstacle? hle scoping request with hagree | ⟨_, hdeep, rfl⟩
    · exact absurd (height_le_of_obstacle?_eq_none (hagree.trans h)) hheight
    · exact hdeep

/-- Under a greater limit nothing changes but a fault of the limit itself. -/
theorem id_eq_id_or_tooDeep (request : Request) (scoping : Scoping) :
    (∀ maxDepth maxDepth', maxDepth ≤ maxDepth' →
      (∀ fault, request.id ⟨scoping, maxDepth⟩ = .error fault → fault.kind ≠ .recursionLimit) →
      request.id ⟨scoping, maxDepth'⟩ = request.id ⟨scoping, maxDepth⟩) ∧
    (∀ maxDepth fault, request.id ⟨scoping, maxDepth⟩ = .error fault →
      fault.kind = .recursionLimit → fault = .tooDeep maxDepth ∧ maxDepth < request.height) ∧
    (∀ maxDepth' text, request.id ⟨scoping, maxDepth'⟩ = .ok text → ∀ maxDepth,
      request.id ⟨scoping, maxDepth⟩ =
        if request.height ≤ maxDepth then .ok text else .error (.tooDeep maxDepth)) ∧
    ∀ member, request = ofMember member → member.kind = .nestedType → request.height = 1 := by
  obtain ⟨text, hid⟩ := request.exists_id_eq_outcome
  refine ⟨fun maxDepth maxDepth' hle hlimit => ?_, fun maxDepth fault herror hkind => ?_,
    fun maxDepth' text' hok maxDepth => ?_, ?_⟩
  · rcases agreeUnless_obstacle? hle scoping request with hagree | ⟨_, hdeep, rfl⟩
    · rw [hid, hid, hagree]
    · have herror : request.id ⟨scoping, maxDepth⟩ = .error (.tooDeep maxDepth) := by
        rw [hid, hdeep, outcome_some]
      exact absurd rfl (hlimit _ herror)
  · rw [hid, outcome_eq_error_iff] at herror
    obtain ⟨limit, rfl⟩ := fault.exists_eq_tooDeep hkind
    obtain ⟨rfl, hheight⟩ := lt_height_of_obstacle?_eq_tooDeep herror
    exact ⟨rfl, hheight⟩
  · rw [hid, outcome_eq_ok_iff] at hok
    obtain ⟨hnone, rfl⟩ := hok
    rw [hid, obstacle?_eq_ite hnone]
    split <;> rfl
  · rintro member rfl hkind
    exact height_of_nestedType hkind

/-- The result of a conversion goes four levels down, below its parameter; and in another method a
fault lies above the lowest level. -/
theorem id_eq_id_or_tooDeep_nested :
    let box := (TypeUse.named "Sample" "Box`1").definedOver ["T"]
    let list (type : TypeUse) := (TypeUse.named "System" "List`1").appliedTo [type]
    let span := (TypeUse.named "System" "Span").appliedTo [.genericParameter "U" 0]
    let cells := Request.ofMember (((((Member.method box "op_Implicit").withSpecialName)
      |>.withTypeParameters ["U"]).withParameter { type := span, isOut := true }).returning
        (list (.pointer (.array (.genericParameter "T" 0) 2))))
    let broken := Request.ofMember ((Member.method box "Take").withParameter
      { type := list (.array (list (.builtin .int32)) 0) })
    let text := "M:Sample.Box`1.op_Implicit``1(System.Span\x7b``0\x7d@)" ++
      "~System.List\x7b`0[0:,0:]*\x7d"
    cells.id ⟨.strict, 9⟩ = .ok text ∧ cells.height = 4 ∧
      cells.id ⟨.strict, 4⟩ = .ok text ∧
      (∀ limit < 4, cells.id ⟨.strict, limit⟩ = .error (.tooDeep limit)) ∧
      broken.id ⟨.strict, 1⟩ = .error (.tooDeep 1) ∧
      ∀ limit ≥ 2, broken.id ⟨.strict, limit⟩ = .error (.noDimension "System.List`1") := by
  intro box list span cells broken text
  have hcells : cells.id ⟨.strict, 9⟩ = .ok text := by
    decide
  have hheight : cells.height = 4 := by
    decide
  have hbroken : broken.id ⟨.strict, 2⟩ = .error (.noDimension "System.List`1") := by
    decide
  have hlimit := (id_eq_id_or_tooDeep cells .strict).2.2.1 _ _ hcells
  rw [hheight] at hlimit
  refine ⟨hcells, hheight, hlimit 4, fun limit hlt => ?_, by decide, fun limit hlimit => ?_⟩
  · rw [hlimit, if_neg (Nat.not_le_of_lt hlt)]
  · rw [(id_eq_id_or_tooDeep broken .strict).1 2 limit hlimit, hbroken]
    rintro fault hfault
    obtain rfl := Except.error.inj (hbroken.symm.trans hfault)
    nofun

end Request

end CommentId
