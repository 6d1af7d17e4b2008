import CommentId.Proofs.Member.Visit

/-!
Requests for identifiers, whatever they are asked for. Main statement: the settings decide only
whether something stands in the way of an identifier, never how it is spelled.
-/

namespace CommentId

open Member (Rule firstFaultIn? ownerShape_eq_outcome)
open TypeUse (Visit firstFault?)

/-- What an identifier can be asked for. -/
inductive Request
  | ofType (type : TypeUse)
  /-- A value of an enumeration. -/
  | ofValue (enumeration : TypeUse) (name : String)
  /-- A member, by the rule for its kind. -/
  | ofMember (member : Member)
  /-- A member, by one rule. -/
  | ofMemberAs (rule : Rule) (member : Member)

namespace Request

def id (settings : Settings) : Request → Except Fault String
  | ofType type => type.id settings
  | ofValue enumeration name => enumeration.valueId settings name
  | ofMember member => member.id settings
  | ofMemberAs rule member => member.idAs settings rule

/-- The fault of a request that is refused before any type is visited. -/
def refusal? : Request → Option Fault
  | ofType _ => none
  | ofValue enumeration name =>
      if !enumeration.isEnum then
        some (.notEnum enumeration.qualifiedName)
      else if name = "" then
        some (.noValueName enumeration.qualifiedName)
      else
        none
  | ofMember member =>
      if member.kind.rule? = none then
        some (.noRule member.name member.declaring.qualifiedName member.kind)
      else
        none
  | ofMemberAs rule member =>
      if member.kind.rule? = some rule then
        none
      else
        some (.wrongKind rule member.name member.kind)

/-- The types that the identifier shows, from left to right. -/
def places : Request → List Place
  | ofType type => [type.ownPlace]
  | ofValue enumeration _ => [enumeration.ownerPlace]
  | ofMember member => member.kind.rule?.elim [] member.placesBy
  | ofMemberAs rule member => member.placesBy rule

def missingResult? : Request → Option Fault
  | ofType _ | ofValue _ _ => none
  | ofMember member => member.kind.rule?.bind member.missingResultBy
  | ofMemberAs rule member => member.missingResultBy rule

/-- The visits made in the order of reading; a request that is refused makes none. -/
def visits (maxDepth : Nat) (request : Request) : List Visit :=
  if request.refusal?.isSome then [] else request.places.flatMap (Place.visits maxDepth)

def obstacle? (settings : Settings) (request : Request) : Option Fault :=
  request.refusal?.or
    ((firstFault? settings (request.visits settings.maxDepth)).or request.missingResult?)

theorem obstacle?_of_refused {request : Request} {fault : Fault}
    (h : request.refusal? = some fault) (settings : Settings) :
    request.obstacle? settings = some fault := by
  rw [obstacle?, h, Option.some_or]

theorem obstacle?_of_not_refused {request : Request} (h : request.refusal? = none)
    (settings : Settings) :
    request.obstacle? settings =
      (firstFaultIn? settings request.places).or request.missingResult? := by
  simp [obstacle?, visits, h, firstFaultIn?]

theorem id_ofType_eq_outcome (settings : Settings) (type : TypeUse) :
    (ofType type).id settings =
      outcome ((ofType type).obstacle? settings)
        (Signature.type type.ownPlace.outline).render := by
  rw [obstacle?_of_not_refused rfl, id, TypeUse.id_eq_outcome]
  simp [places, missingResult?]

theorem id_ofValue_eq_outcome (settings : Settings) (enumeration : TypeUse) (name : String) :
    (ofValue enumeration name).id settings =
      outcome ((ofValue enumeration name).obstacle? settings)
        (Signature.field enumeration.ownerPlace.outline name).render := by
  simp only [id, TypeUse.valueId, TypeUse.valueSignature, obstacle?, visits, refusal?]
  split
  · rfl
  · split
    · rfl
    · simp [ownerShape_eq_outcome, map_outcome, places, missingResult?]

theorem id_ofMemberAs_eq_outcome (settings : Settings) (rule : Rule) (member : Member) :
    (ofMemberAs rule member).id settings =
      outcome ((ofMemberAs rule member).obstacle? settings)
        (member.outlineBy rule).render := by
  simp only [id, Member.idAs, Member.signatureAs_eq_ite, obstacle?, visits, refusal?]
  split
  · rw [Member.signatureBy_eq_outcome, map_outcome]
    rfl
  · rfl

/-- A member under the rule for its kind is asked for by that rule. -/
theorem id_ofMember_eq {member : Member} {rule : Rule} (hrule : member.kind.rule? = some rule)
    (settings : Settings) :
    (ofMember member).id settings = (ofMemberAs rule member).id settings :=
  (Member.idAs_eq_id hrule settings).symm

theorem obstacle?_ofMember_eq {member : Member} {rule : Rule}
    (hrule : member.kind.rule? = some rule) (settings : Settings) :
    (ofMember member).obstacle? settings = (ofMemberAs rule member).obstacle? settings := by
  simp [obstacle?, visits, refusal?, places, missingResult?, hrule]

theorem exists_id_eq_outcome (request : Request) :
    ∃ text, ∀ settings, request.id settings = outcome (request.obstacle? settings) text := by
  cases request with
  | ofType type => exact ⟨_, fun settings => id_ofType_eq_outcome settings type⟩
  | ofValue enumeration name =>
      exact ⟨_, fun settings => id_ofValue_eq_outcome settings enumeration name⟩
  | ofMember member =>
      cases hrule : member.kind.rule? with
      | none =>
          have hkind : member.kind = .unknown := Member.Kind.rule?_eq_none_iff.mp hrule
          have hrefusal : (ofMember member).refusal? =
              some (.noRule member.name member.declaring.qualifiedName member.kind) :=
            if_pos hrule
          refine ⟨"", fun settings => ?_⟩
          rw [obstacle?_of_refused hrefusal, id, Member.id, Member.signature_of_unknown hkind,
            hkind]
          rfl
      | some rule =>
          refine ⟨(member.outlineBy rule).render, fun settings => ?_⟩
          rw [id_ofMember_eq hrule, id_ofMemberAs_eq_outcome, obstacle?_ofMember_eq hrule]
  | ofMemberAs rule member =>
      exact ⟨_, fun settings => id_ofMemberAs_eq_outcome settings rule member⟩

end Request

end CommentId
