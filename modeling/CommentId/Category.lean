/-!
The six categories of documented elements, each with the letter that opens its identifiers.
-/

namespace CommentId

inductive Category
  | ns
  | type
  | method
  | field
  | property
  | event
  deriving DecidableEq, Repr

namespace Category

/-- Every category, lowest first in the order of identifiers. -/
def all : List Category := [.ns, .type, .method, .field, .property, .event]

def tag : Category → Char
  | .ns => 'N'
  | .type => 'T'
  | .method => 'M'
  | .field => 'F'
  | .property => 'P'
  | .event => 'E'

/-- The category that a letter stands for. -/
def ofTag? : Char → Option Category
  | 'N' => some .ns
  | 'T' => some .type
  | 'M' => some .method
  | 'F' => some .field
  | 'P' => some .property
  | 'E' => some .event
  | _ => none

/-- Position of a category in the order of identifiers. -/
def rank : Category → Nat
  | .ns => 0
  | .type => 1
  | .method => 2
  | .field => 3
  | .property => 4
  | .event => 5

theorem mem_all (category : Category) : category ∈ all := by
  cases category <;> decide

@[simp] theorem ofTag?_tag (category : Category) : ofTag? category.tag = some category := by
  cases category <;> rfl

/-- No letter is read as a category that is written with another one. -/
theorem tag_of_ofTag? {c : Char} {category : Category} (h : ofTag? c = some category) :
    category.tag = c := by
  unfold ofTag? at h
  split at h <;> cases h <;> rfl

theorem tag_injective {a b : Category} (h : a.tag = b.tag) : a = b := by
  have hb := ofTag?_tag b
  rw [← h, ofTag?_tag] at hb
  exact Option.some.inj hb

end Category

end CommentId
