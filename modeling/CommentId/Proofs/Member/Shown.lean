import CommentId.Member.Signature
import CommentId.Proofs.TypeUse.Shown
import Mathlib.Data.Nat.Bitwise

/-!
What a reader is shown of a member by its own data: the name, the parameters and the scope of their
types. Main statement: the encoder shows the same.
-/

namespace CommentId

/-- The type under which a parameter is shown. Whatever leaves a method by it goes by reference. -/
def Parameter.shownType (parameter : Parameter) : TypeUse :=
  if parameter.isOut then { parameter.type with isReference := true } else parameter.type

theorem Parameter.occurrence_eq_shownType (parameter : Parameter) :
    parameter.occurrence = parameter.shownType := by
  rcases parameter with ⟨_, ⟨_, _, _, _, _, _, _, _ | _, _⟩, _ | _⟩ <;> rfl

namespace Member

/-- The flags say that the name has a meaning to compilers. -/
def IsSpecial (member : Member) : Prop :=
  member.flags.bits.toNat.testBit 11 = true

/-- A method that reads or writes an indexer. -/
def IsIndexerAccessor (member : Member) : Prop :=
  member.kind = .method ∧ member.IsSpecial ∧
    (member.name = "get_Item" ∨ member.name = "set_Item")

/-- A user-defined conversion, whose result is part of what is shown. -/
def IsConversionOperator (member : Member) : Prop :=
  member.kind = .method ∧ member.IsSpecial ∧
    (member.name = "op_Explicit" ∨ member.name = "op_Implicit")

section Decidable

variable (member : Member)

instance : Decidable member.IsSpecial :=
  inferInstanceAs (Decidable (_ = _))

instance : Decidable member.IsIndexerAccessor :=
  inferInstanceAs (Decidable (_ ∧ _ ∧ (_ ∨ _)))

instance : Decidable member.IsConversionOperator :=
  inferInstanceAs (Decidable (_ ∧ _ ∧ (_ ∨ _)))

end Decidable

/-- The name under which a member is shown. Accessors go by the name of their indexer; constructors
have names of their own. -/
def shownName (member : Member) : String :=
  match member.kind with
  | .constructor => if member.name = ".cctor" then "#cctor" else "#ctor"
  | _ => if member.IsIndexerAccessor then "Item" else member.name

theorem shownName_of_isIndexerAccessor {member : Member} (h : member.IsIndexerAccessor) :
    member.shownName = "Item" := by
  rw [shownName, h.1]
  exact if_pos h

theorem shownName_of_not_isIndexerAccessor {member : Member} (hkind : member.kind ≠ .constructor)
    (h : ¬member.IsIndexerAccessor) : member.shownName = member.name := by
  unfold shownName
  split
  · exact absurd ‹_› hkind
  · exact if_neg h

theorem hash_mem_shownName {member : Member} (hkind : member.kind = .constructor) :
    '#' ∈ member.shownName.toList := by
  rw [shownName, hkind]
  dsimp only
  split <;> simp

/-- The parameters that are shown of a method. The last one of a setter is the assigned value. -/
def spelledParameters (method : Member) : List Parameter :=
  if method.IsIndexerAccessor ∧ method.name = "set_Item" then
    method.parameters.take (method.parameters.length - 1)
  else
    method.parameters

/-- The scope in which the parameters and the result of a method are shown. -/
def shownScope (method : Member) : Scope where
  type := method.declaring.declaredNames
  method := method.typeParameters
  inSignature := true

section Encoder

variable (member : Member)

theorem hasSpecialName_iff : member.hasSpecialName = true ↔ member.IsSpecial := by
  have hbit (bits : Nat) : bits &&& 2048 = (bits.testBit 11).toNat * 2048 :=
    Nat.and_two_pow bits 11
  have hflags : member.hasSpecialName = true ↔ member.flags.bits.toNat &&& 2048 = 2048 := by
    rw [hasSpecialName, Flags.contains, beq_iff_eq]
    change Flags.mk (member.flags.bits &&& 0x0800) = Flags.mk 0x0800 ↔ _
    rw [Flags.mk.injEq, ← UInt32.toNat_inj, UInt32.toNat_and]
    rfl
  rw [hflags, hbit, IsSpecial]
  cases member.flags.bits.toNat.testBit 11 <;> simp

theorem accessesIndexer_iff : member.accessesIndexer = true ↔ member.IsIndexerAccessor := by
  simp [accessesIndexer, IsIndexerAccessor, hasSpecialName_iff, and_assoc]

theorem kind_of_accessesIndexer {member : Member} (h : member.accessesIndexer = true) :
    member.kind = .method :=
  (member.accessesIndexer_iff.mp h).1

theorem isConversion_iff : member.isConversion = true ↔ member.IsConversionOperator := by
  simp [isConversion, IsConversionOperator, hasSpecialName_iff, and_assoc]

theorem shownName_eq :
    member.shownName = if member.accessesIndexer then "Item" else member.spelledName := by
  cases hkind : member.kind <;>
    simp [shownName, spelledName, isTypeInitializer, accessesIndexer_iff, IsIndexerAccessor, hkind]

theorem spelledParameters_eq :
    member.spelledParameters =
      if member.accessesIndexer then member.accessorIndex else member.parameters := by
  simp only [spelledParameters, accessesIndexer_iff, accessorIndex, List.dropLast_eq_take]
  by_cases haccess : member.IsIndexerAccessor <;> simp [haccess]

theorem signatureScope_eq_shownScope : member.signatureScope = member.shownScope := by
  rw [signatureScope, shownScope, TypeUse.genericNames_eq_declaredNames]

end Encoder

section Index

variable {property : Member}

theorem index?_of_getter {getter : Member} (hgetter : property.getter = some getter)
    (hparameters : getter.parameters ≠ []) :
    property.index? = some (getter, getter.parameters) := by
  simp [index?, hgetter, List.length_pos_iff.mpr hparameters]

/-- A getter without parameters leaves the index to the setter. -/
theorem index?_of_forall_getter
    (h : ∀ getter, property.getter = some getter → getter.parameters = []) :
    property.index? = (property.setter.filter (1 < ·.parameters.length)).map fun setter =>
      (setter, setter.parameters.dropLast) := by
  have hgetter : property.getter.filter (0 < ·.parameters.length) = none := by
    rw [Option.filter_eq_none_iff]
    intro getter hgetter
    simp [h getter hgetter]
  rw [index?, hgetter, Option.map_none, Option.none_or]

end Index

end Member

end CommentId
