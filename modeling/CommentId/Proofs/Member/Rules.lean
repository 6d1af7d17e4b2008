import CommentId.Element

/-!
Which rule gives a member its identifier. Main statement: the dispatch by the kind of a member and
the checks that the rules make for themselves agree.
-/

namespace CommentId.Member

namespace Kind

/-- The rule for the members of a kind. -/
def rule? : Kind → Option Rule
  | .method | .constructor => some .method
  | .field => some .field
  | .property => some .property
  | .event => some .event
  | .nestedType => some .nestedType
  | .unknown => none

variable {kind : Kind}

theorem rule?_eq_none_iff : kind.rule? = none ↔ kind = .unknown := by
  cases kind <;> simp [rule?]

theorem rule?_eq_property_iff : kind.rule? = some .property ↔ kind = .property := by
  cases kind <;> simp [rule?]

theorem rule?_eq_nestedType_iff : kind.rule? = some .nestedType ↔ kind = .nestedType := by
  cases kind <;> simp [rule?]

theorem exists_rule?_of_ne (h : kind ≠ .unknown) : ∃ rule, kind.rule? = some rule :=
  Option.ne_none_iff_exists'.mp (mt rule?_eq_none_iff.mp h)

end Kind

theorem Rule.takes_iff {rule : Rule} {kind : Kind} :
    rule.takes kind = true ↔ kind.rule? = some rule := by
  cases rule <;> cases kind <;> decide

variable {member : Member} {rule : Rule}

theorem signatureAs_eq_ite (settings : Settings) (rule : Rule) (member : Member) :
    member.signatureAs settings rule =
      if member.kind.rule? = some rule then
        member.signatureBy settings rule
      else
        .error (.wrongKind rule member.name member.kind) := by
  simp only [signatureAs, Rule.takes_iff]

theorem signatureAs_of_rule? (h : member.kind.rule? = some rule) (settings : Settings) :
    member.signatureAs settings rule = member.signatureBy settings rule := by
  rw [signatureAs_eq_ite, if_pos h]

/-- The dispatch picks the rule whose own check lets the member pass. -/
theorem signature_of_rule? (h : member.kind.rule? = some rule) (settings : Settings) :
    member.signature settings = member.signatureBy settings rule := by
  rw [← signatureAs_of_rule? h, signature]
  cases hkind : member.kind <;> rw [hkind] at h <;> cases h <;> rfl

theorem signature_of_unknown (h : member.kind = .unknown) (settings : Settings) :
    member.signature settings =
      .error (.noRule member.name member.declaring.qualifiedName .unknown) := by
  rw [signature, h]

theorem idAs_eq_id (h : member.kind.rule? = some rule) (settings : Settings) :
    member.idAs settings rule = member.id settings := by
  rw [idAs, id, signatureAs_of_rule? h, signature_of_rule? h]

end CommentId.Member
