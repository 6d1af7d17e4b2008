/-!
Arity markers: metadata spells the name of a generic type with a back-tick and its number of
parameters at the end, as in "List`1". Main statement: a marker is recognised exactly when the
name ends in a back-tick followed by at least one ASCII digit, and then what stands before it is
the base name.
-/

namespace CommentId.ArityMarker

/-- What stands before the marker that ends `cs`, if one does. -/
def baseChars? (cs : List Char) : Option (List Char) :=
  match cs.reverse.takeWhile Char.isDigit, cs.reverse.dropWhile Char.isDigit with
  | _ :: _, '\x60' :: base => some base.reverse
  | _, _ => none

/-- The base name of a name that ends in an arity marker. -/
def base? (name : String) : Option String :=
  (baseChars? name.toList).map String.ofList

/-- Removes one arity marker; a name without one stays as it is. -/
def strip (name : String) : String :=
  (base? name).getD name

def isMarked (name : String) : Bool :=
  (base? name).isSome

theorem baseChars?_append {base digits : List Char} (hdigits : ∀ c ∈ digits, c.isDigit)
    (hne : digits ≠ []) : baseChars? (base ++ '\x60' :: digits) = some base := by
  have hrev : ∀ c ∈ digits.reverse, c.isDigit := by simpa using hdigits
  obtain ⟨d, ds, hds⟩ := List.exists_cons_of_ne_nil (List.reverse_ne_nil_iff.mpr hne)
  have htake : (base ++ '\x60' :: digits).reverse.takeWhile Char.isDigit = d :: ds := by
    have hstop : ('\x60' :: base.reverse).takeWhile Char.isDigit = [] := rfl
    rw [List.reverse_append, List.reverse_cons, List.append_assoc, List.singleton_append,
      List.takeWhile_append_of_pos hrev, hstop, List.append_nil, hds]
  have hdrop : (base ++ '\x60' :: digits).reverse.dropWhile Char.isDigit =
      '\x60' :: base.reverse := by
    rw [List.reverse_append, List.reverse_cons, List.append_assoc, List.singleton_append,
      List.dropWhile_append_of_pos hrev]
    rfl
  simp only [baseChars?, htake, hdrop, List.reverse_reverse]

theorem eq_append_of_baseChars? {cs base : List Char} (h : baseChars? cs = some base) :
    ∃ digits, digits ≠ [] ∧ (∀ c ∈ digits, c.isDigit) ∧ cs = base ++ '\x60' :: digits := by
  unfold baseChars? at h
  split at h
  · rename_i d ds rest htake hdrop
    obtain rfl : rest.reverse = base := by simpa using h
    have hall : ∀ c ∈ d :: ds, c.isDigit := fun c hc =>
      List.all_eq_true.mp List.all_takeWhile c (htake ▸ hc)
    refine ⟨(d :: ds).reverse, by simp, fun c hc => hall c (List.mem_reverse.mp hc), ?_⟩
    have hcs := List.takeWhile_append_dropWhile (p := Char.isDigit) (l := cs.reverse)
    rw [htake, hdrop] at hcs
    simpa using (congrArg List.reverse hcs).symm
  · cases h

end CommentId.ArityMarker
