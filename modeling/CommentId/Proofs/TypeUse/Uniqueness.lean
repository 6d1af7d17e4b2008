import CommentId.Proofs.Member.Visit
import CommentId.Proofs.TypeUse.Plainness

/-!
Uniqueness of the identifiers of types. Main statement: types whose names are plain have the same
identifier exactly when it shows the same of both, however deep they are nested and under whatever
settings the two were encoded.
-/

namespace CommentId.TypeUse

/-- All names that the identifier of the type shows are plain. -/
def IsPlain (settings : Settings) (type : TypeUse) : Prop :=
  ∀ visit ∈ type.ownPlace.visits settings.maxDepth, visit.IsPlain []

instance (settings : Settings) (type : TypeUse) : Decidable (type.IsPlain settings) :=
  List.decidableBAll (Visit.IsPlain []) (type.ownPlace.visits settings.maxDepth)

theorem isPlain_outline_ownPlace {settings : Settings} {type : TypeUse}
    (hplain : type.IsPlain settings)
    (hfault : firstFault? settings (type.ownPlace.visits settings.maxDepth) = none) :
    type.ownPlace.outline.IsPlain [] :=
  isPlain_outline List.not_mem_nil hplain (firstFault?_eq_none_iff.mp hfault)

theorem render_type_inj {shape shape' : Shape} (hplain : shape.IsPlain [])
    (hplain' : shape'.IsPlain []) :
    (Signature.type shape).render = (Signature.type shape').render ↔ shape = shape' := by
  refine ⟨fun h => ?_, fun h => h ▸ rfl⟩
  have hid := IdString.toString_inj.mp h
  exact Shape.render_injective hplain hplain' (IdString.mk.inj hid).2

theorem id_eq_id_iff_outline_eq {settings settings' : Settings} {type type' : TypeUse}
    {text text' : String} (hplain : type.IsPlain settings) (hplain' : type'.IsPlain settings')
    (hid : type.id settings = .ok text) (hid' : type'.id settings' = .ok text') :
    text = text' ↔ type.ownPlace.outline = type'.ownPlace.outline := by
  rw [id_eq_outcome, outcome_eq_ok_iff] at hid hid'
  obtain ⟨hfault, rfl⟩ := hid
  obtain ⟨hfault', rfl⟩ := hid'
  exact render_type_inj (isPlain_outline_ownPlace hplain hfault)
    (isPlain_outline_ownPlace hplain' hfault')

/-- A vector of matrices and a matrix of vectors, as arguments beside one by reference; and the
latter beside the same argument by value. -/
theorem outline_ne_of_id_ne_arrays :
    let outer := (TypeUse.named "Sample" "Outer`1").definedOver ["T"]
    let map (array key : TypeUse) := ((TypeUse.named "" "Map`2").inside outer).appliedTo
      [.pointer array, key]
    let matrix := TypeUse.array (.array (.genericParameter "T" 0) 2) 1
    let vectors := map (.array (.array (.genericParameter "T" 0) 1) 2)
      (TypeUse.builtin .string).asReference
    let matrices := map matrix (TypeUse.builtin .string).asReference
    let byValue := map matrix (.builtin .string)
    vectors.IsPlain .standard ∧ matrices.IsPlain .strict ∧ byValue.IsPlain .standard ∧
      vectors.id .standard =
        .ok "T:Sample.Outer`1.Map\x7b`0[][0:,0:]*,System.String@\x7d" ∧
      matrices.id .strict =
        .ok "T:Sample.Outer`1.Map\x7b`0[0:,0:][]*,System.String@\x7d" ∧
      byValue.id .standard =
        .ok "T:Sample.Outer`1.Map\x7b`0[0:,0:][]*,System.String\x7d" ∧
      vectors.ownPlace.outline ≠ matrices.ownPlace.outline ∧
      matrices.ownPlace.outline ≠ byValue.ownPlace.outline := by
  intro outer map matrix vectors matrices byValue
  have hplain : vectors.IsPlain .standard := by decide
  have hplain' : matrices.IsPlain .strict := by decide
  have hplain'' : byValue.IsPlain .standard := by decide
  have hid : vectors.id .standard =
      .ok "T:Sample.Outer`1.Map\x7b`0[][0:,0:]*,System.String@\x7d" := by
    decide
  have hid' : matrices.id .strict =
      .ok "T:Sample.Outer`1.Map\x7b`0[0:,0:][]*,System.String@\x7d" := by
    decide
  have hid'' : byValue.id .standard =
      .ok "T:Sample.Outer`1.Map\x7b`0[0:,0:][]*,System.String\x7d" := by
    decide
  refine ⟨hplain, hplain', hplain'', hid, hid', hid'', ?_, ?_⟩
  · exact (not_congr (id_eq_id_iff_outline_eq hplain hplain' hid hid')).mp (by decide)
  · exact (not_congr (id_eq_id_iff_outline_eq hplain' hplain'' hid' hid'')).mp (by decide)

end CommentId.TypeUse
