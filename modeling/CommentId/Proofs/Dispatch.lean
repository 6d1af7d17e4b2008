import CommentId.Proofs.Member.Likeness
import CommentId.Proofs.Member.Visit

/-!
The operations that give an element its identifier. Main statement: operations that can name the
same element agree on it, faults included; of those for members, exactly one takes a member of a
known kind, and the others refuse it whatever its types are.
-/

namespace CommentId

open Member (Kind Rule)
open TypeUse (Visit)

/-- The faults that a type may have. -/
inductive Fault.IsOfType : Fault → Prop
  | noDimension (element : String) : IsOfType (.noDimension element)
  | functionPointer : IsOfType .functionPointer
  | tooDeep (limit : Nat) : IsOfType (.tooDeep limit)
  | ambiguousParameter (name : String) : IsOfType (.ambiguousParameter name)
  | undeclaredParameter (name : String) : IsOfType (.undeclaredParameter name)

theorem Scope.isOfType_of_fault? {scope : Scope} {scoping : Scoping} {name : String}
    {fault : Fault} (h : scope.fault? scoping name = some fault) : fault.IsOfType := by
  unfold fault? at h
  split at h
  · cases h
    exact .ambiguousParameter name
  · cases h
    exact .undeclaredParameter name
  · cases h

theorem TypeUse.Visit.isOfType_of_fault? {settings : Settings} {visit : Visit} {fault : Fault}
    (h : visit.fault? settings = some fault) : fault.IsOfType := by
  rw [fault?] at h
  split at h
  · cases h
    exact .tooDeep settings.maxDepth
  · cases hform : visit.type.form with
    | named | pointer element =>
        rw [hform] at h
        cases h
    | genericParameter position =>
        rw [hform] at h
        exact Scope.isOfType_of_fault? h
    | array element rank =>
        simp only [hform] at h
        split at h
        · cases h
          exact .noDimension element.qualifiedName
        · cases h
    | functionPointer =>
        rw [hform] at h
        cases h
        exact .functionPointer

namespace Member

/-- The kinds that a rule is for. -/
def Rule.kinds : Rule → List Kind
  | .method => [.method, .constructor]
  | .property => [.property]
  | .field => [.field]
  | .event => [.event]
  | .nestedType => [.nestedType]

theorem Rule.mem_kinds_iff {rule : Rule} {kind : Kind} :
    kind ∈ rule.kinds ↔ kind.rule? = some rule := by
  cases rule <;> cases kind <;> simp [kinds, Kind.rule?]

/-- The member is refused by a rule, because of its kind. -/
def IsRefusedBy (settings : Settings) (member : Member) (rule : Rule) : Prop :=
  member.idAs settings rule = .error (.wrongKind rule member.name member.kind)

section Dispatch

variable {settings : Settings} {member : Member} {rule : Rule}

theorem isOfType_or_noResult_of_mem_faults {fault : Fault} (h : fault ∈ member.faults settings) :
    fault.IsOfType ∨ ∃ name owner, fault = .noResult name owner := by
  rcases exists_visit_or_eq_noResult h with ⟨visit, -, hfault⟩ | hresult
  · exact .inl (Visit.isOfType_of_fault? hfault)
  · exact .inr ⟨_, _, hresult⟩

/-- Under the rule for its kind, only the types of a member stand in the way, or that a conversion
has none. -/
theorem isOfType_or_noResult_of_id (hrule : member.kind.rule? = some rule) {fault : Fault}
    (h : member.id settings = .error fault) :
    fault.IsOfType ∨ ∃ name owner, fault = .noResult name owner := by
  rw [id_eq_outcome hrule, outcome_eq_error_iff] at h
  exact isOfType_or_noResult_of_mem_faults (List.mem_of_mem_head? h)

theorem isRefusedBy_iff : member.IsRefusedBy settings rule ↔ member.kind ∉ rule.kinds := by
  rw [Rule.mem_kinds_iff]
  constructor
  · intro hrefused hrule
    rw [IsRefusedBy, idAs_eq_id hrule] at hrefused
    rcases isOfType_or_noResult_of_id hrule hrefused with htype | ⟨name, owner, hresult⟩
    · cases htype
    · cases hresult
  · intro hrule
    rw [IsRefusedBy, idAs, signatureAs_eq_ite, if_neg hrule]
    rfl

/-- One rule takes the member, as the operation that goes by the kind does, and all others refuse
it; a member of an unknown kind is refused by all. -/
structure Dispatches (settings : Settings) (member : Member) : Prop where
  isRefusedBy_iff : ∀ rule, member.IsRefusedBy settings rule ↔ member.kind ∉ rule.kinds
  existsUnique : member.kind ≠ .unknown → ∃! rule, ¬member.IsRefusedBy settings rule
  idAs_eq_id : ∀ rule, ¬member.IsRefusedBy settings rule →
    member.idAs settings rule = member.id settings
  kind_of_refused : ∀ rule, member.IsRefusedBy settings rule →
    (member.idAs settings rule).mapError Fault.kind = .error .invalidArgument
  refused_of_unknown : member.kind = .unknown → ∀ rule, member.IsRefusedBy settings rule
  id_of_unknown : member.kind = .unknown →
    member.id settings =
        .error (.noRule member.name member.declaring.qualifiedName .unknown) ∧
      (member.id settings).mapError Fault.kind = .error .unsupported

theorem dispatches (settings : Settings) (member : Member) : member.Dispatches settings where
  isRefusedBy_iff _ := isRefusedBy_iff
  existsUnique hkind := by
    obtain ⟨rule, hrule⟩ := Kind.exists_rule?_of_ne hkind
    simp only [isRefusedBy_iff, not_not, Rule.mem_kinds_iff]
    exact ⟨rule, hrule, fun rule' hrule' => Option.some.inj (hrule'.symm.trans hrule)⟩
  idAs_eq_id rule haccepted := by
    rw [isRefusedBy_iff, not_not, Rule.mem_kinds_iff] at haccepted
    exact Member.idAs_eq_id haccepted settings
  kind_of_refused rule hrefused := by
    rw [hrefused]
    rfl
  refused_of_unknown hkind rule := by
    rw [isRefusedBy_iff, Rule.mem_kinds_iff, Kind.rule?_eq_none_iff.mpr hkind]
    exact nofun
  id_of_unknown hkind := by
    have hid : member.id settings =
        .error (.noRule member.name member.declaring.qualifiedName .unknown) := by
      rw [id, signature_of_unknown hkind]
      rfl
    exact ⟨hid, hid ▸ rfl⟩

end Dispatch

end Member

theorem TypeUse.valueId_eq_idAs {settings : Settings} {enumeration : TypeUse} {field : Member}
    (henum : enumeration.isEnum = true) (hkind : field.kind = .field)
    (hdeclaring : field.declaring = enumeration) (hname : field.name ≠ "") :
    enumeration.valueId settings field.name = field.idAs settings .field := by
  have hrule : field.kind.rule? = some .field := by
    rw [hkind, Kind.rule?]
  rw [valueId, valueSignature, henum, Member.idAs, Member.signatureAs_of_rule? hrule,
    Member.signatureBy, hdeclaring, if_neg hname]
  rfl

/-- A nested type is spelled by its name and the type around it, whatever else is known of it. -/
theorem TypeUse.id_eq_idAs {settings : Settings} {type outer : TypeUse} {nested : Member}
    (hform : type.form = .named) (hreference : type.isReference = false)
    (hshown : ¬(type.isInstantiated = true ∧ type.isArityMarked = true)) (hns : type.ns = "")
    (houter : type.declaring = some outer) (hkind : nested.kind = .nestedType)
    (hdeclaring : nested.declaring = outer) (hname : nested.name = type.name) :
    type.id settings = nested.idAs settings .nestedType := by
  have hrule : nested.kind.rule? = some .nestedType := by
    rw [hkind, Kind.rule?]
  have hshows (scope : List String) : type.showsArguments { type := scope } = false := by
    simpa [showsArguments] using hshown
  have hinside : nested.nestedTypeUse.declaring = type.declaring := by
    rw [houter, ← hdeclaring]
    rfl
  have hpath : type.path type.name = nested.nestedTypeUse.path nested.name := by
    rw [hname]
    exact path_congr hns hinside.symm type.name
  rw [Member.idAs, Member.signatureAs_of_rule? hrule, Member.signatureBy,
    Member.signature_nestedTypeUse, ← hpath, id, signature,
    shape_of_not_showsArguments hform hreference (hshows _)]
  split <;> rfl

/-- Operations that can name the same element agree, faults included. -/
structure NamingsAgree (settings : Settings) : Prop where
  member : ∀ member : Member, member.Dispatches settings
  value : ∀ (enumeration : TypeUse) (field : Member), enumeration.isEnum = true →
    field.kind = .field → field.declaring = enumeration → field.name ≠ "" →
      enumeration.valueId settings field.name = field.idAs settings .field
  nestedType : ∀ (type outer : TypeUse) (nested : Member), type.form = .named →
    type.declaring = some outer → type.ns = "" → type.isReference = false →
    ¬(type.isInstantiated = true ∧ type.isArityMarked = true) →
    nested.kind = .nestedType → nested.declaring = outer → nested.name = type.name →
      type.id settings = nested.idAs settings .nestedType

theorem namingsAgree (settings : Settings) : NamingsAgree settings where
  member := Member.dispatches settings
  value _ _ henum hkind hdeclaring hname := TypeUse.valueId_eq_idAs henum hkind hdeclaring hname
  nestedType _ _ _ hform houter hns hreference hshown hkind hdeclaring hname :=
    TypeUse.id_eq_idAs hform hreference hshown hns houter hkind hdeclaring hname

/-- A nested instance without an arity marker, an enumeration with a faulty argument and a method
with a faulty parameter. -/
theorem namingsAgree_key :
    let table := ((TypeUse.named "" "Table`1").inside (.named "Sample" "Store")).definedOver ["K"]
    let key := ((TypeUse.named "" "Key").inside table).appliedTo [.functionPointer]
    let order := ((TypeUse.named "" "Order`1").appliedTo [.array (.builtin .int32) 0]).asEnum
    let find := (Member.method table "Find").withParameter { type := .functionPointer }
    key.isInstantiated = true ∧ key.isArityMarked = false ∧
      key.id .strict = (Member.nestedType table "Key").idAs .strict .nestedType ∧
      key.id .strict = .ok "T:Sample.Table`1.Key" ∧
      order.valueId .strict "Up" = (Member.field order "Up").idAs .strict .field ∧
      order.valueId .strict "Up" = .error (.noDimension "System.Int32") ∧
      find.IsRefusedBy .strict .field ∧ ¬find.IsRefusedBy .strict .method ∧
      find.idAs .strict .method = .error .functionPointer := by
  intro table key order find
  have hagree := namingsAgree .strict
  have hkey : key.id .strict = (Member.nestedType table "Key").idAs .strict .nestedType :=
    hagree.nestedType key table _ rfl rfl rfl rfl (by decide) rfl rfl rfl
  have horder : order.valueId .strict "Up" = (Member.field order "Up").idAs .strict .field :=
    hagree.value order (.field order "Up") rfl rfl rfl (by decide)
  have hfind (rule : Rule) : find.IsRefusedBy .strict rule ↔ find.kind ∉ rule.kinds :=
    (hagree.member find).isRefusedBy_iff rule
  exact ⟨by decide, by decide, hkey, by decide, horder, by decide, (hfind .field).mpr (by decide),
    (hfind .method).not.mpr (by decide), by decide⟩

end CommentId
