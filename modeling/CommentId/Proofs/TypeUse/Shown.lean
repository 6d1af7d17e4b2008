import CommentId.Proofs.TypeUse.Nesting
import CommentId.TypeUse.Shape

/-!
What a reader is shown of a type by its own data: the path, the generic arguments and the generic
parameters that its members may name. Main statement: the encoder shows the same.
-/

namespace CommentId

namespace ArityMarker

/-- What stands before the marker that ends `cs`, if one does, looked for from the front. -/
def front? : List Char → Option (List Char)
  | [] => none
  | c :: cs =>
      if c = '\x60' ∧ cs ≠ [] ∧ cs.all Char.isDigit = true then
        some []
      else
        (front? cs).map (c :: ·)

theorem front?_append {base digits : List Char} (hdigits : ∀ c ∈ digits, c.isDigit)
    (hne : digits ≠ []) : front? (base ++ '\x60' :: digits) = some base := by
  induction base with
  | nil => exact if_pos ⟨rfl, hne, List.all_eq_true.mpr hdigits⟩
  | cons c base ih =>
      -- the marker still follows, so `c` does not open it
      have htick : ¬(base ++ '\x60' :: digits).all Char.isDigit = true := by
        intro hall
        have hdigit := List.all_eq_true.mp hall '\x60' (by simp)
        cases hdigit
      rw [List.cons_append, front?, if_neg fun h => htick h.2.2, ih]
      rfl

theorem eq_append_of_front? {cs base : List Char} (h : front? cs = some base) :
    ∃ digits, digits ≠ [] ∧ (∀ c ∈ digits, c.isDigit) ∧ cs = base ++ '\x60' :: digits := by
  induction cs generalizing base with
  | nil => cases h
  | cons c cs ih =>
      rw [front?] at h
      split at h
      · rename_i hmarker
        obtain ⟨rfl, hne, hdigits⟩ := hmarker
        obtain rfl := Option.some.inj h
        exact ⟨cs, hne, List.all_eq_true.mp hdigits, rfl⟩
      · obtain ⟨rest, hrest, rfl⟩ := Option.map_eq_some_iff.mp h
        obtain ⟨digits, hne, hdigits, rfl⟩ := ih hrest
        exact ⟨digits, hne, hdigits, rfl⟩

theorem baseChars?_eq_front? (cs : List Char) : baseChars? cs = front? cs := by
  apply Option.ext
  intro base
  constructor
  · intro h
    obtain ⟨digits, hne, hdigits, rfl⟩ := eq_append_of_baseChars? h
    exact front?_append hdigits hne
  · intro h
    obtain ⟨digits, hne, hdigits, rfl⟩ := eq_append_of_front? h
    exact baseChars?_append hdigits hne

end ArityMarker

namespace TypeUse

/-- The first namespace that is stated, from the type outwards. -/
def nearestNs (type : TypeUse) : String :=
  ((type.enclosure.map ns).find? (· ≠ "")).getD ""

/-- The names that stand in front of the name of a type. -/
def qualifiers (type : TypeUse) : List String :=
  (if type.nearestNs = "" then [] else [type.nearestNs]) ++
    match type.declaring with
    | none => []
    | some outer => [outer.name]

/-- The path of a type that is shown under the name `name`, without the `&` of references. -/
def shownPath (type : TypeUse) (name : String) : String :=
  String.ofList ((".".intercalate (type.qualifiers ++ [name])).toList.filter (· ≠ '&'))

/-- Generic arguments are shown of instances only: in the place of an arity marker anywhere, and in
signatures also behind a name without one. -/
def ShowsArguments (scope : Scope) (type : TypeUse) : Prop :=
  type.arguments ≠ [] ∧ type.isDefinition = false ∧
    (ArityMarker.front? type.name.toList ≠ none ∨ scope.inSignature = true)

instance (scope : Scope) (type : TypeUse) : Decidable (type.ShowsArguments scope) :=
  inferInstanceAs (Decidable (_ ∧ _ ∧ (_ ∨ _)))

/-- The name without its arity marker where the arguments take the place of the marker. -/
def shownName (scope : Scope) (type : TypeUse) : String :=
  if type.ShowsArguments scope then
    (ArityMarker.front? type.name.toList).elim type.name String.ofList
  else
    type.name

/-- The generic parameters that the members of a type may name: those of a definition, else the
arguments that are generic parameters themselves. -/
def declaredNames (type : TypeUse) : List String :=
  match type.parameters with
  | [] => type.arguments.filterMap fun argument =>
      match argument.form with
      | .genericParameter _ => some argument.name
      | _ => none
  | names => names

section Encoder

variable (scope : Scope) (type : TypeUse)

theorem enclosingNs_eq_nearestNs : type.enclosingNs = type.nearestNs :=
  type.enclosingNs_eq_find?

theorem path_eq (name : String) :
    type.path name = withoutMarkers (".".intercalate (type.qualifiers ++ [name])) := by
  rw [path, qualifiers, enclosingNs_eq_nearestNs]
  cases type.declaring <;> rfl

theorem path_eq_shownPath (name : String) : type.path name = type.shownPath name := by
  rw [path_eq, withoutMarkers, shownPath]
  congr 2
  funext c
  exact (decide_not).symm

theorem isArityMarked_iff :
    type.isArityMarked = true ↔ ArityMarker.front? type.name.toList ≠ none := by
  rw [isArityMarked, ArityMarker.isMarked, ArityMarker.base?, ArityMarker.baseChars?_eq_front?,
    Option.isSome_map, Option.isSome_iff_ne_none]

theorem showsArguments_iff : type.showsArguments scope = true ↔ type.ShowsArguments scope := by
  rw [showsArguments, ShowsArguments, ← isArityMarked_iff, isInstantiated]
  simp [and_assoc]

theorem strip_name :
    ArityMarker.strip type.name =
      (ArityMarker.front? type.name.toList).elim type.name String.ofList := by
  rw [ArityMarker.strip, ArityMarker.base?, ArityMarker.baseChars?_eq_front?]
  cases ArityMarker.front? type.name.toList <;> rfl

theorem shownName_eq :
    type.shownName scope =
      if type.showsArguments scope then ArityMarker.strip type.name else type.name := by
  simp only [shownName, showsArguments_iff, strip_name]

theorem genericNames_eq_declaredNames : type.genericNames = type.declaredNames := by
  rw [genericNames, declaredNames]
  cases type.parameters with
  | cons name names => rfl
  | nil =>
      rw [List.isEmpty_nil, if_pos rfl, ← List.filterMap_eq_map, ← List.filterMap_eq_filter,
        List.filterMap_filterMap]
      dsimp only
      congr 1
      funext argument
      cases hform : argument.form <;> simp [isGenericParameter, hform]

end Encoder

end TypeUse

end CommentId
