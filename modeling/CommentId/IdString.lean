import CommentId.Fault

/-!
Identifiers as text: the letter of a category, a colon and a body. Main statement: reading undoes
writing wherever the body is not empty.
-/

namespace CommentId

structure IdString where
  category : Category
  body : String
  deriving DecidableEq, Repr

namespace IdString

def toString (id : IdString) : String :=
  String.singleton id.category.tag ++ ":" ++ id.body

instance : ToString IdString := ⟨toString⟩

/-- Reads an identifier. The letter ends at the first colon, so that a body may hold more. -/
def parse (text : String) : Except Fault IdString :=
  let tag := text.toList.takeWhile (· != ':')
  match text.toList.dropWhile (· != ':') with
  | [] => .error (.noTag text)
  | _ :: body =>
      match tag with
      | [c] => do
          let category ← Category.ofTag c
          if body.isEmpty then
            .error (.noBody text)
          else
            .ok ⟨category, String.ofList body⟩
      | _ => .error (.notOneCharacter (String.ofList tag))

/-- By category, then by the code points of the body. -/
def compare (a b : IdString) : Ordering :=
  (Ord.compare a.category.rank b.category.rank).then (Ord.compare a.body b.body)

instance : Ord IdString := ⟨compare⟩

/-- The identifiers in ascending order. -/
def sort (ids : List IdString) : List IdString :=
  ids.mergeSort fun a b => (compare a b).isLE

theorem toList_toString (id : IdString) :
    id.toString.toList = id.category.tag :: ':' :: id.body.toList := by
  simp [toString]

theorem toString_inj {a b : IdString} : a.toString = b.toString ↔ a = b := by
  refine ⟨fun h => ?_, fun h => h ▸ rfl⟩
  have hchars := congrArg String.toList h
  simp only [toList_toString, List.cons.injEq, String.toList_inj, true_and] at hchars
  cases a
  cases b
  exact IdString.mk.injEq .. ▸ ⟨Category.tag_injective hchars.1, hchars.2⟩

theorem parse_toString (id : IdString) (h : id.body ≠ "") : parse id.toString = .ok id := by
  have htag : (id.category.tag != ':') = true := by
    cases id.category <;> rfl
  have hbody : id.body.toList.isEmpty = false := by
    simpa using h
  simp only [parse, toList_toString, List.takeWhile_cons, List.dropWhile_cons, htag]
  simp [Category.ofTag, hbody, bind, Except.bind]

end IdString

end CommentId
