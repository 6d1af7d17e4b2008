import CommentId.Proofs.Request
import Mathlib.Data.List.Basic

/-!
Strict scoping against attribution by name. Main statement: strict scoping accepts what is accepted
by name and attributes every generic parameter to exactly one declaration, with the same
identifier; whatever else it reports is a generic parameter declared twice or not at all.
-/

namespace CommentId

open TypeUse (Visit firstFault? firstFault?_cons)

/-- Exactly one of the type and the method declares the name. -/
def Scope.DeclaresOnce (scope : Scope) (name : String) : Prop :=
  (name ∈ scope.type ∧ name ∉ scope.method) ∨ (name ∉ scope.type ∧ name ∈ scope.method)

instance (scope : Scope) (name : String) : Decidable (scope.DeclaresOnce name) :=
  inferInstanceAs (Decidable (_ ∨ _))

def Fault.IsOfParameter (fault : Fault) : Prop :=
  ∃ name, fault = .ambiguousParameter name ∨ fault = .undeclaredParameter name

theorem Fault.IsOfParameter.kind_eq {fault : Fault} (h : fault.IsOfParameter) :
    fault.kind = .invalidArgument := by
  obtain ⟨name, rfl | rfl⟩ := h <;> rfl

/-- The obstacle by name, or else the fault of a generic parameter. -/
def Narrows (strict byName : Option Fault) : Prop :=
  strict = byName ∨ ∃ fault, strict = some fault ∧ fault.IsOfParameter

namespace Narrows

variable {strict strict' byName byName' : Option Fault}

theorem refl (obstacle : Option Fault) : Narrows obstacle obstacle :=
  AgreeUnless.refl obstacle

theorem or (h : Narrows strict byName) (h' : Narrows strict' byName') :
    Narrows (strict.or strict') (byName.or byName') :=
  AgreeUnless.or h h'

end Narrows

theorem Scope.fault?_strict_eq_none_iff {scope : Scope} {name : String} :
    scope.fault? .strict name = none ↔ scope.DeclaresOnce name := by
  by_cases htype : name ∈ scope.type <;> by_cases hmethod : name ∈ scope.method <;>
    simp [fault?, DeclaresOnce, htype, hmethod]

theorem Scope.narrows_fault? (scope : Scope) (name : String) :
    Narrows (scope.fault? .strict name) (scope.fault? .byName name) := by
  unfold fault?
  split
  · exact .inr ⟨_, rfl, name, .inl rfl⟩
  · exact .inr ⟨_, rfl, name, .inr rfl⟩
  · exact .inl rfl

namespace TypeUse

/-- A generic parameter that is visited is declared by exactly one of the type and the method. -/
def Visit.IsDeclaredOnce (visit : Visit) : Prop :=
  visit.type.isGenericParameter = true → visit.scope.DeclaresOnce visit.type.name

instance (visit : Visit) : Decidable visit.IsDeclaredOnce :=
  inferInstanceAs (Decidable (_ → _))

variable {visit : Visit} {visits : List Visit} {maxDepth : Nat}

theorem Visit.fault?_of_isGenericParameter (h : visit.type.isGenericParameter = true)
    {settings : Settings} (hdepth : visit.depth < settings.maxDepth) :
    visit.fault? settings = visit.scope.fault? settings.scoping visit.type.name := by
  simp only [fault?, Nat.not_le_of_lt hdepth, if_false]
  split <;> simp_all [isGenericParameter]

/-- The scoping matters to generic parameters only, and only if they are not too deep. -/
theorem Visit.fault?_eq_of_not
    (h : ¬(visit.type.isGenericParameter = true ∧ visit.depth < maxDepth))
    (scoping scoping' : Scoping) :
    visit.fault? ⟨scoping, maxDepth⟩ = visit.fault? ⟨scoping', maxDepth⟩ := by
  simp only [fault?]
  split
  · rfl
  · split <;> simp_all [isGenericParameter]

theorem Visit.narrows_fault? (maxDepth : Nat) (visit : Visit) :
    Narrows (visit.fault? ⟨.strict, maxDepth⟩) (visit.fault? ⟨.byName, maxDepth⟩) := by
  by_cases hvisit : visit.type.isGenericParameter = true ∧ visit.depth < maxDepth
  · rw [fault?_of_isGenericParameter hvisit.1 hvisit.2,
      fault?_of_isGenericParameter hvisit.1 hvisit.2]
    exact visit.scope.narrows_fault? visit.type.name
  · rw [fault?_eq_of_not hvisit .strict .byName]
    exact Narrows.refl _

theorem Visit.fault?_strict_eq_none_iff (h : visit.fault? ⟨.byName, maxDepth⟩ = none) :
    visit.fault? ⟨.strict, maxDepth⟩ = none ↔ visit.IsDeclaredOnce := by
  have hdepth : visit.depth < maxDepth := depth_lt_of_fault?_eq_none h
  by_cases hparameter : visit.type.isGenericParameter = true
  · rw [fault?_of_isGenericParameter hparameter hdepth, Scope.fault?_strict_eq_none_iff]
    exact ⟨fun hdeclared _ => hdeclared, fun hdeclared => hdeclared hparameter⟩
  · rw [fault?_eq_of_not (fun hvisit => hparameter hvisit.1) .strict .byName]
    exact iff_of_true h fun hvisit => absurd hvisit hparameter

theorem narrows_firstFault? (maxDepth : Nat) (visits : List Visit) :
    Narrows (firstFault? ⟨.strict, maxDepth⟩ visits) (firstFault? ⟨.byName, maxDepth⟩ visits) := by
  induction visits with
  | nil => exact Narrows.refl none
  | cons visit visits ih =>
      rw [firstFault?_cons, firstFault?_cons]
      exact (visit.narrows_fault? maxDepth).or ih

theorem firstFault?_strict_eq_none_iff (h : firstFault? ⟨.byName, maxDepth⟩ visits = none) :
    firstFault? ⟨.strict, maxDepth⟩ visits = none ↔ ∀ visit ∈ visits, visit.IsDeclaredOnce := by
  rw [firstFault?_eq_none_iff] at h ⊢
  exact forall₂_congr fun visit hvisit => Visit.fault?_strict_eq_none_iff (h visit hvisit)

end TypeUse

namespace Request

variable {request : Request} {maxDepth : Nat}

theorem narrows_obstacle? (maxDepth : Nat) (request : Request) :
    Narrows (request.obstacle? ⟨.strict, maxDepth⟩) (request.obstacle? ⟨.byName, maxDepth⟩) :=
  (Narrows.refl _).or ((TypeUse.narrows_firstFault? maxDepth _).or (Narrows.refl _))

theorem obstacle?_strict_eq_none_iff (h : request.obstacle? ⟨.byName, maxDepth⟩ = none) :
    request.obstacle? ⟨.strict, maxDepth⟩ = none ↔
      ∀ visit ∈ request.visits maxDepth, visit.IsDeclaredOnce := by
  simp only [obstacle?, Option.or_eq_none_iff] at h ⊢
  rw [TypeUse.firstFault?_strict_eq_none_iff h.2.1]
  exact ⟨fun hstrict => hstrict.2.1, fun hdeclared => ⟨h.1, hdeclared, h.2.2⟩⟩

theorem strict_restricts_byName (maxDepth : Nat) (request : Request) :
    (∀ text, request.id ⟨.strict, maxDepth⟩ = .ok text →
      request.id ⟨.byName, maxDepth⟩ = .ok text) ∧
    (∀ text, request.id ⟨.byName, maxDepth⟩ = .ok text →
      if ∀ visit ∈ request.visits maxDepth, visit.IsDeclaredOnce then
        request.id ⟨.strict, maxDepth⟩ = .ok text
      else
        ∃ fault, request.id ⟨.strict, maxDepth⟩ = .error fault ∧ fault.IsOfParameter ∧
          fault.kind = .invalidArgument) ∧
    (∀ fault, request.id ⟨.byName, maxDepth⟩ = .error fault →
      request.id ⟨.strict, maxDepth⟩ = .error fault ∨
        ∃ fault', request.id ⟨.strict, maxDepth⟩ = .error fault' ∧ fault'.IsOfParameter ∧
          fault'.kind = .invalidArgument) := by
  obtain ⟨text, hid⟩ := request.exists_id_eq_outcome
  simp only [hid, outcome_eq_ok_iff, outcome_eq_error_iff]
  have hnarrows := request.narrows_obstacle? maxDepth
  have hparameter : request.obstacle? ⟨.strict, maxDepth⟩ =
        request.obstacle? ⟨.byName, maxDepth⟩ ∨
      ∃ fault, request.obstacle? ⟨.strict, maxDepth⟩ = some fault ∧ fault.IsOfParameter ∧
        fault.kind = .invalidArgument := by
    rcases hnarrows with heq | ⟨fault, hstrict, hfault⟩
    · exact .inl heq
    · exact .inr ⟨fault, hstrict, hfault, hfault.kind_eq⟩
  refine ⟨?_, ?_, ?_⟩
  · rintro _ ⟨hstrict, rfl⟩
    rcases hparameter with heq | ⟨fault, hfault, -⟩
    · exact ⟨heq ▸ hstrict, rfl⟩
    · rw [hstrict] at hfault
      cases hfault
  · rintro _ ⟨hbyName, rfl⟩
    have hdeclared := obstacle?_strict_eq_none_iff hbyName
    split
    · exact ⟨hdeclared.mpr ‹_›, rfl⟩
    · rcases hparameter with heq | hfault
      · exact absurd (hdeclared.mp (heq.trans hbyName)) ‹_›
      · exact hfault
  · intro fault hbyName
    rcases hparameter with heq | hfault
    · exact .inl (heq.trans hbyName)
    · exact .inr hfault

/-- A method declares a generic parameter under the name of one of its type. -/
theorem strict_restricts_byName_shadowed :
    let box := (TypeUse.named "Sample" "Box`1").definedOver ["T"]
    let list := (TypeUse.named "System" "List`1").appliedTo [.array (.genericParameter "T" 0) 1]
    let map := Request.ofMember (((Member.method box "Map").withTypeParameters ["T"]).withParameter
      { type := list })
    map.id ⟨.byName, 8⟩ = .ok "M:Sample.Box`1.Map``1(System.List\x7b`0[]\x7d)" ∧
      ¬(∀ visit ∈ map.visits 8, visit.IsDeclaredOnce) ∧
      ∃ fault, map.id ⟨.strict, 8⟩ = .error fault ∧ fault.IsOfParameter ∧
        fault.kind = .invalidArgument := by
  intro box list map
  have hid : map.id ⟨.byName, 8⟩ =
      .ok "M:Sample.Box`1.Map``1(System.List\x7b`0[]\x7d)" := by
    decide
  have hdeclared : ¬∀ visit ∈ map.visits 8, visit.IsDeclaredOnce := by
    decide
  have hstrict := (strict_restricts_byName 8 map).2.1 _ hid
  rw [if_neg hdeclared] at hstrict
  exact ⟨hid, hdeclared, hstrict⟩

end Request

end CommentId
