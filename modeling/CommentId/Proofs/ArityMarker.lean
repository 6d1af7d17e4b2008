import CommentId.Proofs.Bracketing
import CommentId.TypeUse.Shape
import Mathlib.Data.String.Basic

/-!
Arity markers, by characters and by bytes. Main statement: the base name is what stands in front of
a back-tick and ASCII digits up to the end, of which there is at most one, and looking for it from
the end by byte offsets never slices a character apart.
-/

namespace CommentId.ArityMarker

/-- The name is the base with one marker behind it. -/
def IsBaseOf (base name : String) : Prop :=
  ∃ digits : String, digits ≠ "" ∧ (∀ c ∈ digits.toList, c.isDigit) ∧ name = base ++ "`" ++ digits

/-! ### By characters -/

section Characters

variable {name base base' : String}

theorem base?_eq_some_iff : base? name = some base ↔ IsBaseOf base name := by
  constructor
  · intro h
    obtain ⟨chars, hchars, rfl⟩ := Option.map_eq_some_iff.mp h
    obtain ⟨digits, hne, hdigits, hname⟩ := eq_append_of_baseChars? hchars
    refine ⟨String.ofList digits, ?_, ?_, ?_⟩
    · rwa [Ne, String.ofList_eq_empty_iff]
    · rwa [String.toList_ofList]
    · rw [← String.toList_inj, hname]
      simp
  · rintro ⟨digits, hne, hdigits, rfl⟩
    have hchars : (base ++ "`" ++ digits).toList = base.toList ++ '\x60' :: digits.toList := by
      simp
    rw [base?, hchars, baseChars?_append hdigits (String.toList_eq_nil_iff.not.mpr hne)]
    exact congrArg some String.ofList_toList

theorem utf8ByteSize_of_isBaseOf (h : IsBaseOf base name) :
    base.utf8ByteSize < name.utf8ByteSize := by
  obtain ⟨digits, -, -, rfl⟩ := h
  have htick : "`".utf8ByteSize = 1 := by
    decide
  rw [String.utf8ByteSize_append, String.utf8ByteSize_append, htick]
  omega

theorem ne_of_isBaseOf (h : IsBaseOf base name) : base ≠ name := by
  rintro rfl
  exact Nat.lt_irrefl _ (utf8ByteSize_of_isBaseOf h)

theorem strip_of_isBaseOf (h : IsBaseOf base name) : strip name = base := by
  rw [strip, base?_eq_some_iff.mpr h]
  rfl

theorem strip_of_not_exists (h : ¬∃ base, IsBaseOf base name) : strip name = name := by
  have hnone : base? name = none := by
    rw [Option.eq_none_iff_forall_ne_some]
    exact fun base hbase => h ⟨base, base?_eq_some_iff.mp hbase⟩
  rw [strip, hnone]
  rfl

theorem isMarked_iff : isMarked name = true ↔ ∃ base, IsBaseOf base name := by
  rw [isMarked, Option.isSome_iff_exists]
  exact exists_congr fun base => base?_eq_some_iff

theorem count_of_isBaseOf (h : IsBaseOf base name) :
    name.toList.count '\x60' = base.toList.count '\x60' + 1 := by
  obtain ⟨digits, -, hdigits, rfl⟩ := h
  have hzero : digits.toList.count '\x60' = 0 := by
    rw [List.count_eq_zero]
    exact fun hmem => absurd (hdigits _ hmem) (by decide)
  simp [hzero]

end Characters

/-! ### By bytes -/

/-- The byte offset of the last occurrence of a character, for a text that starts at `offset`. -/
def lastOffset? (c : Char) : Nat → List Char → Option Nat
  | _, [] => none
  | offset, d :: ds =>
      (lastOffset? c (offset + d.utf8Size) ds).or (if d = c then some offset else none)

/-- The bytes of a text from one offset to another. There is no slice unless both offsets are on a
boundary between characters. -/
def slice? (text : String) (start stop : Nat) : Option String :=
  let start : String.Pos.Raw := ⟨start⟩
  let stop : String.Pos.Raw := ⟨stop⟩
  if start ≤ stop ∧ start.IsValid text ∧ stop.IsValid text then
    some (start.extract text stop)
  else
    none

def isDigitByte (byte : UInt8) : Bool :=
  48 ≤ byte && byte ≤ 57

/-- Removes a marker that is found from the end by byte offsets. -/
def stripAt? (name : String) : Option String :=
  match lastOffset? '\x60' 0 name.toList with
  | none => some name
  | some index =>
      if index + 1 < name.utf8ByteSize then
        (slice? name (index + 1) name.utf8ByteSize).bind fun digits =>
          if digits.toByteArray.data.toList.all isDigitByte then
            slice? name 0 index
          else
            some name
      else
        some name

section Bytes

open String (utf8Len)

theorem lastOffset?_of_not_mem {c : Char} {chars : List Char} (h : c ∉ chars) (offset : Nat) :
    lastOffset? c offset chars = none := by
  induction chars generalizing offset with
  | nil => rfl
  | cons d chars ih =>
      rw [List.mem_cons, not_or] at h
      rw [lastOffset?, ih h.2, if_neg (Ne.symm h.1)]
      rfl

theorem lastOffset?_append_cons {c : Char} (front : List Char) {back : List Char} (h : c ∉ back)
    (offset : Nat) : lastOffset? c offset (front ++ c :: back) = some (offset + utf8Len front) := by
  induction front generalizing offset with
  | nil =>
      rw [List.nil_append, lastOffset?, lastOffset?_of_not_mem h, if_pos rfl]
      rfl
  | cons d front ih =>
      rw [List.cons_append, lastOffset?, ih, Option.some_or, String.utf8Len_cons]
      congr 1
      omega

theorem isValid_utf8Len (front back : List Char) :
    String.Pos.Raw.IsValid (String.ofList (front ++ back)) ⟨utf8Len front⟩ := by
  rw [String.Pos.Raw.isValid_iff_exists_append]
  refine ⟨String.ofList front, String.ofList back, String.ofList_append, ?_⟩
  rw [String.rawEndPos_ofList]

/-- What stands between two parts of a text is a slice of it. -/
theorem slice?_append (front middle back : List Char) :
    slice? (String.ofList (front ++ middle ++ back)) (utf8Len front)
      (utf8Len front + utf8Len middle) = some (String.ofList middle) := by
  rw [slice?, if_pos, String.extract_of_valid]
  refine ⟨Nat.le_add_right _ _, ?_, ?_⟩
  · rw [List.append_assoc]
    exact isValid_utf8Len front (middle ++ back)
  · rw [← String.utf8Len_append]
    exact isValid_utf8Len (front ++ middle) back

theorem isDigitByte_iff {byte : UInt8} :
    isDigitByte byte = true ↔ '0'.toNat ≤ byte.toNat ∧ byte.toNat ≤ '9'.toNat := by
  simp [isDigitByte, UInt8.le_iff_toNat_le]

/-- Beyond ASCII, the first byte of a character is too large for a digit. -/
theorem exists_mem_utf8EncodeChar {c : Char} (h : ¬c.val.toNat ≤ 127) :
    ∃ byte ∈ String.utf8EncodeChar c, 192 ≤ byte.toNat := by
  rw [String.utf8EncodeChar]
  simp only [h, if_false]
  split
  case' isFalse => split
  all_goals
    refine ⟨_, List.mem_cons_self, ?_⟩
    rw [UInt8.toNat_ofNat']
    omega

theorem all_isDigitByte_utf8EncodeChar (c : Char) :
    (String.utf8EncodeChar c).all isDigitByte = c.isDigit := by
  rw [Bool.eq_iff_iff, Char.isDigit_iff_toNat]
  by_cases hascii : c.val.toNat ≤ 127
  · have hbyte : c.val.toUInt8.toNat = c.toNat := by
      rw [UInt32.toNat_toUInt8, ← Char.toNat_val]
      omega
    rw [String.utf8EncodeChar_eq_singleton (Char.utf8Size_eq_one_iff.mpr hascii), List.all_cons,
      List.all_nil, Bool.and_true, isDigitByte_iff, hbyte]
  · obtain ⟨byte, hmem, hbyte⟩ := exists_mem_utf8EncodeChar hascii
    have hnine : '9'.toNat = 57 := rfl
    rw [Char.toNat_val] at hascii
    refine iff_of_false (fun hall => ?_) (by omega)
    have hdigit := isDigitByte_iff.mp (List.all_eq_true.mp hall byte hmem)
    omega

theorem all_isDigitByte (chars : List Char) :
    (String.ofList chars).toByteArray.data.toList.all isDigitByte = chars.all Char.isDigit := by
  rw [String.toByteArray_ofList, List.utf8Encode, List.toList_data_toByteArray, List.all_flatMap]
  simp only [all_isDigitByte_utf8EncodeChar]

/-- Only what stands behind the last back-tick can be a marker. -/
theorem strip_append_cons (front : List Char) {back : List Char} (h : '\x60' ∉ back) :
    strip (String.ofList (front ++ '\x60' :: back)) =
      if back ≠ [] ∧ back.all Char.isDigit then
        String.ofList front
      else
        String.ofList (front ++ '\x60' :: back) := by
  split
  · obtain ⟨hne, hdigits⟩ := ‹_ ∧ _›
    apply strip_of_isBaseOf
    refine ⟨String.ofList back, ?_, ?_, ?_⟩
    · rwa [Ne, String.ofList_eq_empty_iff]
    · rw [String.toList_ofList]
      exact List.all_eq_true.mp hdigits
    · rw [← String.toList_inj]
      simp
  · rename_i hback
    apply strip_of_not_exists
    rintro ⟨base, digits, hne, hdigits, hname⟩
    have hchars : front ++ '\x60' :: back = base.toList ++ '\x60' :: digits.toList := by
      simpa using congrArg String.toList hname
    have htick : '\x60' ∉ digits.toList := fun hmem => absurd (hdigits _ hmem) (by decide)
    obtain ⟨-, rfl⟩ := Bracketing.append_cons_inj_of_last h htick hchars
    exact hback ⟨String.toList_eq_nil_iff.not.mpr hne, List.all_eq_true.mpr hdigits⟩

/-- The offsets found from the end are on boundaries, and lead to the same base name. -/
theorem stripAt?_eq (name : String) : stripAt? name = some (strip name) := by
  by_cases hmem : '\x60' ∈ name.toList
  · obtain ⟨front, back, hchars, hback⟩ := Bracketing.exists_last_of_mem hmem
    obtain rfl : name = String.ofList (front ++ '\x60' :: back) := by
      rw [← hchars, String.ofList_toList]
    have htick : utf8Len ['\x60'] = 1 := by
      decide
    have hsize : (String.ofList (front ++ '\x60' :: back)).utf8ByteSize =
        utf8Len front + 1 + utf8Len back := by
      rw [String.utf8ByteSize_ofList, List.append_cons, String.utf8Len_append,
        String.utf8Len_append, htick]
    have hdigits : slice? (String.ofList (front ++ '\x60' :: back)) (utf8Len front + 1)
        (utf8Len front + 1 + utf8Len back) = some (String.ofList back) := by
      have hslice := slice?_append (front ++ ['\x60']) back []
      rwa [String.utf8Len_append, htick, List.append_nil, ← List.append_cons] at hslice
    have hbase : slice? (String.ofList (front ++ '\x60' :: back)) 0 (utf8Len front) =
        some (String.ofList front) := by
      have hslice := slice?_append [] front ('\x60' :: back)
      rwa [String.utf8Len_nil, Nat.zero_add] at hslice
    have hguard : utf8Len front + 1 < utf8Len front + 1 + utf8Len back ↔ back ≠ [] := by
      rw [Nat.lt_add_right_iff_pos, Nat.pos_iff_ne_zero, Ne, String.utf8Len_eq_zero]
    rw [stripAt?, String.toList_ofList, lastOffset?_append_cons front hback,
      strip_append_cons front hback, hsize]
    -- both slices exist, so that only the guard and the test for digits decide
    simp only [Nat.zero_add, hguard, hdigits, hbase, Option.bind_some, all_isDigitByte]
    by_cases hne : back ≠ [] <;> by_cases hall : back.all Char.isDigit <;> simp [hne, hall]
  · have hnone : ¬∃ base, IsBaseOf base name := by
      rintro ⟨base, digits, -, -, rfl⟩
      simp at hmem
    rw [stripAt?, lastOffset?_of_not_mem hmem, strip_of_not_exists hnone]

end Bytes

/-! ### Names of types -/

section Types

variable {name base base' : String}

theorem strip_eq_and_ne_iff : strip name = base ∧ base ≠ name ↔ IsBaseOf base name := by
  constructor
  · rintro ⟨rfl, hne⟩
    by_cases hexists : ∃ base, IsBaseOf base name
    · obtain ⟨base, h⟩ := hexists
      rwa [strip_of_isBaseOf h]
    · exact absurd (strip_of_not_exists hexists) hne
  · exact fun h => ⟨strip_of_isBaseOf h, ne_of_isBaseOf h⟩

theorem isBaseOf_unique (h : IsBaseOf base name) (h' : IsBaseOf base' name) : base = base' :=
  (strip_of_isBaseOf h).symm.trans (strip_of_isBaseOf h')

/-- Comparing the sizes tells whether there is a marker. -/
theorem isMarked_iff_utf8ByteSize_ne :
    isMarked name = true ↔ (strip name).utf8ByteSize ≠ name.utf8ByteSize := by
  rw [isMarked_iff]
  constructor
  · rintro ⟨base, h⟩
    rw [strip_of_isBaseOf h]
    exact Nat.ne_of_lt (utf8ByteSize_of_isBaseOf h)
  · intro hsize
    by_contra h
    exact hsize (congrArg String.utf8ByteSize (strip_of_not_exists h))

end Types

/-- Markers are recognised exactly, the last one of a name and no other. -/
theorem recognised_exactly (name : String) :
    (∀ base, strip name = base ∧ base ≠ name ↔ IsBaseOf base name) ∧
      (∀ base base', IsBaseOf base name → IsBaseOf base' name → base = base') ∧
      ((¬∃ base, IsBaseOf base name) → strip name = name) ∧
      (∀ type : TypeUse, type.name = name →
        (type.isArityMarked = true ↔ ∃ base, IsBaseOf base name) ∧
          (type.isArityMarked = true ↔ (strip name).utf8ByteSize ≠ name.utf8ByteSize) ∧
          ∀ scope, type.showsArguments scope = true ↔
            type.isInstantiated = true ∧
              ((∃ base, IsBaseOf base name) ∨ scope.inSignature = true)) ∧
      stripAt? name = some (strip name) ∧
      ∀ base, IsBaseOf base name →
        name.toList.count '\x60' = (strip name).toList.count '\x60' + 1 := by
  refine ⟨fun base => strip_eq_and_ne_iff, fun base base' => isBaseOf_unique, strip_of_not_exists,
    ?_, stripAt?_eq name, fun base h => ?_⟩
  · rintro type rfl
    refine ⟨isMarked_iff, isMarked_iff_utf8ByteSize_ne, fun scope => ?_⟩
    rw [TypeUse.showsArguments, Bool.and_eq_true, Bool.or_eq_true, TypeUse.isArityMarked,
      isMarked_iff]
  · rw [strip_of_isBaseOf h]
    exact count_of_isBaseOf h

/-- A base name that ends in a marker of its own, after characters of more than one byte; and digits
beyond ASCII, which are no marker. -/
theorem recognised_exactly_multibyte :
    IsBaseOf "Größe`1" "Größe`1`23" ∧ strip "Größe`1`23" = "Größe`1" ∧
      stripAt? "Größe`1`23" = some "Größe`1" ∧
      (¬∃ base, IsBaseOf base "Liste`1`٣") ∧ strip "Liste`1`٣" = "Liste`1`٣" := by
  have hbase : IsBaseOf "Größe`1" "Größe`1`23" :=
    ⟨"23", by decide, List.all_eq_true.mp (by decide), by decide⟩
  have hnone : ¬∃ base, IsBaseOf base "Liste`1`٣" := by
    rw [← isMarked_iff]
    decide
  have hstrip := (((recognised_exactly "Größe`1`23").1 _).mpr hbase).1
  refine ⟨hbase, hstrip, ?_, hnone, (recognised_exactly "Liste`1`٣").2.2.1 hnone⟩
  rw [← hstrip]
  exact (recognised_exactly "Größe`1`23").2.2.2.2.1

end CommentId.ArityMarker
