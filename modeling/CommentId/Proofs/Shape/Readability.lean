import CommentId.Proofs.Bracketing
import CommentId.Shape

/-!
Reading shapes. Main statement: two shapes with the same text are the same shape, provided that
their paths hold none of the characters that spell out the structure of a type.
-/

namespace CommentId

open Bracketing (Balanced dueAfter append_cons_inj_of_first append_cons_inj_of_last
  eq_of_intercalate_eq)

/-- The characters that spell out the structure of a type, and the mark of a reference in
metadata. -/
def Shape.delimiters : List Char :=
  ['\x7b', '\x7d', '[', ']', ',', '*', '@', '&']

/-- A name that cannot be mistaken for structure: some text that does not start like a generic
parameter, without delimiters and without the `further` characters. -/
structure Plain (further : List Char) (text : String) : Prop where
  ne_empty : text ≠ ""
  head?_ne : text.toList.head? ≠ some '\x60'
  not_mem : ∀ c ∈ text.toList, c ∉ Shape.delimiters ∧ c ∉ further

namespace Shape

inductive IsPlain (further : List Char) : Shape → Prop
  | named {path : String} {arguments : List Shape} (hpath : Plain further path)
      (harguments : ∀ argument ∈ arguments, IsPlain further argument) :
      IsPlain further (.named path arguments)
  | genericParameter (level : Level) (position : Nat) :
      IsPlain further (.genericParameter level position)
  | array {element : Shape} {rank : Nat} (helement : IsPlain further element)
      (hrank : rank ≠ 0) : IsPlain further (.array element rank)
  | pointer {element : Shape} (helement : IsPlain further element) :
      IsPlain further (.pointer element)
  | reference {target : Shape} (htarget : IsPlain further target) :
      IsPlain further (.reference target)

/-! ### Texts as rows of characters -/

theorem toList_enclose (opening closing : String) (items : List String) :
    (enclose opening closing items).toList =
      opening.toList ++ [','].intercalate (items.map String.toList) ++ closing.toList := by
  rw [enclose, String.toList_append, String.toList_append, String.toList_intercalate]
  rfl

def bounds (rank : Nat) : List Char :=
  if rank = 1 then [] else [','].intercalate (List.replicate rank ['0', ':'])

theorem toList_dimensions (rank : Nat) :
    (dimensions rank).toList = '[' :: bounds rank ++ [']'] := by
  rw [dimensions, bounds]
  split
  · rfl
  · rw [toList_enclose, List.map_replicate]
    rfl

theorem toList_render_named_cons (path : String) (argument : Shape) (arguments : List Shape) :
    (named path (argument :: arguments)).render.toList =
      path.toList ++ '\x7b' :: ([','].intercalate
        ((argument :: arguments).map fun shape => shape.render.toList) ++ ['\x7d']) := by
  rw [render_named_cons, String.toList_append, toList_enclose, List.map_map, List.append_assoc]
  rfl

theorem toList_render_genericParameter (level : Level) (position : Nat) :
    (genericParameter level position).render.toList =
      level.ticks.toList ++ Nat.toDigits 10 position := by
  rw [render, String.toList_append, Nat.toList_repr]

theorem toList_render_array (element : Shape) (rank : Nat) :
    (array element rank).render.toList =
      element.render.toList ++ '[' :: (bounds rank ++ [']']) := by
  rw [render, String.toList_append, toList_dimensions]
  rfl

theorem toList_render_pointer (element : Shape) :
    (pointer element).render.toList = element.render.toList ++ ['*'] := by
  rw [render, String.toList_append]
  rfl

theorem toList_render_reference (target : Shape) :
    (reference target).render.toList = target.render.toList ++ ['@'] := by
  rw [render, String.toList_append]
  rfl

theorem isDigit_of_mem_toDigits {c : Char} {n : Nat} (h : c ∈ Nat.toDigits 10 n) : c.isDigit :=
  Nat.isDigit_of_mem_toDigits (by omega) (by omega) h

theorem not_mem_of_mem_toDigits {c : Char} {n : Nat} (h : c ∈ Nat.toDigits 10 n)
    {chars : List Char} (hchars : chars.any Char.isDigit = false) : c ∉ chars := by
  intro hmem
  exact List.any_eq_false.mp hchars c hmem (isDigit_of_mem_toDigits h)

theorem mem_of_mem_intercalate {separator c : Char} {items : List (List Char)}
    (h : c ∈ [separator].intercalate items) : c = separator ∨ ∃ text ∈ items, c ∈ text := by
  induction items with
  | nil => simp at h
  | cons text items ih =>
      cases items with
      | nil =>
          rw [List.intercalate_singleton] at h
          exact .inr ⟨text, List.mem_cons_self, h⟩
      | cons next items =>
          rw [List.intercalate_cons_cons, List.mem_append, List.mem_append, List.mem_singleton] at h
          rcases h with (h | rfl) | h
          · exact .inr ⟨text, List.mem_cons_self, h⟩
          · exact .inl rfl
          · rcases ih h with h | ⟨text', htext', h⟩
            · exact .inl h
            · exact .inr ⟨text', List.mem_cons_of_mem _ htext', h⟩

theorem mem_bounds {c : Char} {rank : Nat} (h : c ∈ bounds rank) : c = ',' ∨ c = '0' ∨ c = ':' := by
  rw [bounds] at h
  split at h
  · cases h
  · rcases mem_of_mem_intercalate h with h | ⟨text, htext, h⟩
    · exact .inl h
    · obtain rfl := List.eq_of_mem_replicate htext
      simpa using Or.inr h

/-! ### Balanced brackets -/

variable {further : List Char}

section Balanced

variable {path : String} {element target : Shape} {arguments : List Shape}

theorem balanced_of_mem_replicate {rank : Nat} :
    ∀ text ∈ List.replicate rank ['0', ':'], Balanced text := by
  intro text htext
  obtain rfl := List.eq_of_mem_replicate htext
  exact Balanced.of_all (by decide)

theorem dueAfter_bounds (rank : Nat) : dueAfter [] (bounds rank) = some [] := by
  rw [bounds]
  split
  · rfl
  · exact Balanced.dueAfter_intercalate balanced_of_mem_replicate

theorem balanced_named (hpath : ∀ c ∈ path.toList, c ∉ Bracketing.marks)
    (harguments : ∀ argument ∈ arguments, Balanced argument.render.toList) :
    Balanced (named path arguments).render.toList := by
  cases arguments with
  | nil =>
      rw [render_named_nil]
      exact Balanced.of_forall hpath
  | cons argument arguments =>
      rw [toList_render_named_cons]
      refine (Balanced.of_forall hpath).append (Balanced.bracket (by decide) ?_)
      apply Balanced.dueAfter_intercalate
      intro text htext
      obtain ⟨shape, hshape, rfl⟩ := List.mem_map.mp htext
      exact harguments shape hshape

theorem balanced_genericParameter (level : Level) (position : Nat) :
    Balanced (genericParameter level position).render.toList := by
  rw [toList_render_genericParameter]
  refine Balanced.append ?_ (Balanced.of_forall fun c hc => ?_)
  · cases level <;> exact Balanced.of_all (by decide)
  · exact not_mem_of_mem_toDigits hc (by decide)

theorem balanced_array (h : Balanced element.render.toList) (rank : Nat) :
    Balanced (array element rank).render.toList := by
  rw [toList_render_array]
  exact h.append (Balanced.bracket (by decide) (dueAfter_bounds rank))

theorem balanced_pointer (h : Balanced element.render.toList) :
    Balanced (pointer element).render.toList := by
  rw [toList_render_pointer]
  exact h.append (Balanced.of_all (by decide))

theorem balanced_reference (h : Balanced target.render.toList) :
    Balanced (reference target).render.toList := by
  rw [toList_render_reference]
  exact h.append (Balanced.of_all (by decide))

end Balanced

theorem not_mem_marks_of_plain {text : String} (h : Plain further text) :
    ∀ c ∈ text.toList, c ∉ Bracketing.marks := by
  intro c hc hmarks
  have hsubset : Bracketing.marks ⊆ delimiters := by
    decide
  exact (h.not_mem c hc).1 (hsubset hmarks)

theorem balanced_render {shape : Shape} (h : shape.IsPlain further) :
    Balanced shape.render.toList := by
  induction h with
  | named hpath _ ih => exact balanced_named (not_mem_marks_of_plain hpath) ih
  | genericParameter level position => exact balanced_genericParameter level position
  | array _ _ ih => exact balanced_array ih _
  | pointer _ ih => exact balanced_pointer ih
  | reference _ ih => exact balanced_reference ih

/-- A character that stands in no path and spells out no structure is not in the text. -/
theorem not_mem_render {shape : Shape} (h : shape.IsPlain further) {c : Char} (hc : c ∈ further)
    (hstructure : c ∉ delimiters) (hother : c ∉ ['\x60', ':']) (hdigit : c.isDigit = false) :
    c ∉ shape.render.toList := by
  have hdelimiters := hstructure
  simp only [delimiters, List.mem_cons, List.not_mem_nil, or_false, not_or] at hdelimiters hother
  induction h with
  | @named path arguments hpath _ ih =>
      have hname : c ∉ path.toList := fun hmem => (hpath.not_mem c hmem).2 hc
      cases arguments with
      | nil => rwa [render_named_nil]
      | cons argument arguments =>
          rw [toList_render_named_cons]
          simp only [List.mem_append, List.mem_cons, List.not_mem_nil, or_false, not_or]
          refine ⟨hname, hdelimiters.1, fun hmem => ?_, hdelimiters.2.1⟩
          rcases mem_of_mem_intercalate hmem with rfl | ⟨text, htext, hmem⟩
          · simp at hdelimiters
          · obtain ⟨shape, hshape, rfl⟩ := List.mem_map.mp htext
            exact ih shape hshape hmem
  | genericParameter level position =>
      rw [toList_render_genericParameter, List.mem_append]
      rintro (hmem | hmem)
      · cases level <;> simp [Level.ticks, hother] at hmem
      · rw [isDigit_of_mem_toDigits hmem] at hdigit
        cases hdigit
  | array _ _ ih =>
      rw [toList_render_array]
      simp only [List.mem_append, List.mem_cons, List.not_mem_nil, or_false, not_or]
      refine ⟨ih, hdelimiters.2.2.1, fun hmem => ?_, hdelimiters.2.2.2.1⟩
      rcases mem_bounds hmem with rfl | rfl | rfl
      · simp at hdelimiters
      · simp at hdigit
      · simp at hother
  | pointer _ ih =>
      rw [toList_render_pointer]
      simp [ih, hdelimiters]
  | reference _ ih =>
      rw [toList_render_reference]
      simp [ih, hdelimiters]

/-! ### The last character -/

def endings : List Char :=
  ['\x7d', ']', '*', '@']

def ending : Shape → Option Char
  | .named _ [] | .genericParameter _ _ => none
  | .named _ (_ :: _) => some '\x7d'
  | .array _ _ => some ']'
  | .pointer _ => some '*'
  | .reference _ => some '@'

theorem ending_eq {shape : Shape} (h : shape.IsPlain further) :
    shape.ending = shape.render.toList.getLast?.filter (· ∈ endings) := by
  have hnone {chars : List Char} (hchars : ∀ c ∈ chars, c ∉ endings) :
      chars.getLast?.filter (· ∈ endings) = none := by
    rw [Option.filter_eq_none_iff]
    intro c hc
    simpa using hchars c (List.mem_of_getLast? hc)
  cases h with
  | @named path arguments hpath _ =>
      cases arguments with
      | nil =>
          rw [render_named_nil, hnone]
          · rfl
          · intro c hc hmem
            have hdelimiter := (hpath.not_mem c hc).1
            simp only [endings, List.mem_cons, List.not_mem_nil, or_false] at hmem
            rcases hmem with rfl | rfl | rfl | rfl <;> exact hdelimiter (by decide)
      | cons argument arguments =>
          rw [toList_render_named_cons, ← List.cons_append, ← List.append_assoc,
            List.getLast?_concat]
          rfl
  | genericParameter level position =>
      rw [toList_render_genericParameter, hnone]
      · rfl
      · intro c hc
        rcases List.mem_append.mp hc with hmem | hmem
        · have hticks : ∀ level : Level, ∀ c ∈ level.ticks.toList, c ∉ endings := by
            rintro (_ | _) <;> simp [Level.ticks, endings]
          exact hticks level c hmem
        · exact not_mem_of_mem_toDigits hmem (by decide)
  | array _ _ =>
      rw [toList_render_array, ← List.cons_append, ← List.append_assoc, List.getLast?_concat]
      rfl
  | pointer _ =>
      rw [toList_render_pointer, List.getLast?_concat]
      rfl
  | reference _ =>
      rw [toList_render_reference, List.getLast?_concat]
      rfl

/-! ### Reading -/

theorem bounds_injective {rank rank' : Nat} (hrank : rank ≠ 0) (hrank' : rank' ≠ 0)
    (h : bounds rank = bounds rank') : rank = rank' := by
  have hne {n : Nat} (hn : n ≠ 0) : List.replicate n ['0', ':'] ≠ [] := by
    simpa using hn
  have hbounds {n : Nat} (hn : n ≠ 0) : [','].intercalate (List.replicate n ['0', ':']) ≠ [] := by
    obtain ⟨m, rfl⟩ := Nat.exists_eq_succ_of_ne_zero hn
    cases m <;> simp [List.replicate_succ]
  by_cases hone : rank = 1 <;> by_cases hone' : rank' = 1
  · rw [hone, hone']
  · simp only [bounds, hone, hone', if_true, if_false] at h
    exact absurd h.symm (hbounds hrank')
  · simp only [bounds, hone, hone', if_true, if_false] at h
    exact absurd h (hbounds hrank)
  · simp only [bounds, hone, hone', if_false] at h
    have hrow := eq_of_intercalate_eq balanced_of_mem_replicate balanced_of_mem_replicate
      (hne hrank) (hne hrank') h
    simpa using congrArg List.length hrow

theorem toDigits_injective {m n : Nat} (h : Nat.toDigits 10 m = Nat.toDigits 10 n) : m = n := by
  have hvalue := congrArg (Nat.ofDigitChars 10 · 0) h
  simpa only [Nat.ofDigitChars_ten_toDigits] using hvalue

theorem genericParameter_of_render_eq {level level' : Level} {position position' : Nat}
    (h : (genericParameter level position).render = (genericParameter level' position').render) :
    level = level' ∧ position = position' := by
  have hchars := congrArg String.toList h
  rw [toList_render_genericParameter, toList_render_genericParameter] at hchars
  have hticks (n : Nat) (chars : List Char) : Nat.toDigits 10 n ≠ '\x60' :: chars := by
    intro heq
    have hdigit := isDigit_of_mem_toDigits (heq ▸ List.mem_cons_self)
    revert hdigit
    decide
  cases level <;> cases level'
  · exact ⟨rfl, toDigits_injective (List.append_cancel_left hchars)⟩
  · exact absurd (List.cons.inj hchars).2 (hticks position _)
  · exact absurd (List.cons.inj hchars).2.symm (hticks position' _)
  · exact ⟨rfl, toDigits_injective (List.append_cancel_left hchars)⟩

/-- A generic parameter starts with a back-tick, which no plain path does. -/
theorem render_genericParameter_ne {path : String} (hpath : Plain further path) (level : Level)
    (position : Nat) : (genericParameter level position).render ≠ path := by
  rintro rfl
  refine hpath.head?_ne ?_
  rw [toList_render_genericParameter]
  cases level <;> rfl

/-- The bounds of an array stand behind the last opening bracket. -/
theorem array_of_render_eq {element element' : Shape} {rank rank' : Nat} (hrank : rank ≠ 0)
    (hrank' : rank' ≠ 0) (h : (array element rank).render = (array element' rank').render) :
    element.render = element'.render ∧ rank = rank' := by
  have hbracket (n : Nat) : '[' ∉ bounds n ++ [']'] := by
    intro hmem
    rcases List.mem_append.mp hmem with hmem | hmem
    · rcases mem_bounds hmem with hc | hc | hc <;> cases hc
    · simp at hmem
  have hchars := congrArg String.toList h
  rw [toList_render_array, toList_render_array] at hchars
  obtain ⟨hhead, htail⟩ := append_cons_inj_of_last (hbracket rank) (hbracket rank') hchars
  exact ⟨String.toList_inj.mp hhead,
    bounds_injective hrank hrank' (List.append_cancel_right htail)⟩

theorem eq_of_map_render_eq {shapes shapes' : List Shape}
    (h : ∀ shape ∈ shapes, ∀ shape' ∈ shapes', shape.render = shape'.render → shape = shape')
    (hmap : shapes.map (fun shape => shape.render.toList) =
      shapes'.map fun shape => shape.render.toList) : shapes = shapes' := by
  induction shapes generalizing shapes' with
  | nil => exact (List.map_eq_nil_iff.mp hmap.symm).symm
  | cons shape shapes ih =>
      cases shapes' with
      | nil => cases hmap
      | cons shape' shapes' =>
          obtain ⟨hhead, htail⟩ := List.cons.inj hmap
          rw [h shape List.mem_cons_self shape' List.mem_cons_self (String.toList_inj.mp hhead),
            ih (fun s hs s' hs' =>
              h s (List.mem_cons_of_mem _ hs) s' (List.mem_cons_of_mem _ hs')) htail]

/-- Arguments in braces are read up to the last brace, and one by one between them. -/
theorem named_of_render_eq {path path' : String} {argument argument' : Shape}
    {arguments arguments' : List Shape} (hpath : Plain further path) (hpath' : Plain further path')
    (harguments : ∀ shape ∈ argument :: arguments, shape.IsPlain further)
    (harguments' : ∀ shape ∈ argument' :: arguments', shape.IsPlain further)
    (ih : ∀ shape ∈ argument :: arguments, ∀ shape' ∈ argument' :: arguments',
      shape.render = shape'.render → shape = shape')
    (h : (named path (argument :: arguments)).render =
      (named path' (argument' :: arguments')).render) :
    path = path' ∧ argument :: arguments = argument' :: arguments' := by
  have hbrace {text : String} (htext : Plain further text) : '\x7b' ∉ text.toList :=
    fun hmem => (htext.not_mem _ hmem).1 (by decide)
  have hbalanced {shapes : List Shape} (hshapes : ∀ shape ∈ shapes, shape.IsPlain further) :
      ∀ text ∈ shapes.map (fun shape => shape.render.toList), Balanced text := by
    intro text htext
    obtain ⟨shape, hshape, rfl⟩ := List.mem_map.mp htext
    exact balanced_render (hshapes shape hshape)
  have hchars := congrArg String.toList h
  rw [toList_render_named_cons, toList_render_named_cons] at hchars
  obtain ⟨hhead, htail⟩ := append_cons_inj_of_first (hbrace hpath) (hbrace hpath') hchars
  have hrow := eq_of_intercalate_eq (hbalanced harguments) (hbalanced harguments')
    (by simp) (by simp) (List.append_cancel_right htail)
  exact ⟨String.toList_inj.mp hhead, eq_of_map_render_eq ih hrow⟩

theorem ending_eq_of_render_eq {shape shape' : Shape} (hshape : shape.IsPlain further)
    (hshape' : shape'.IsPlain further) (h : shape.render = shape'.render) :
    shape.ending = shape'.ending := by
  rw [ending_eq hshape, ending_eq hshape', h]

/-- The ends of the texts tell shapes of different forms apart, but for names without arguments and
generic parameters. -/
theorem render_injective {shape shape' : Shape} (hshape : shape.IsPlain further)
    (hshape' : shape'.IsPlain further) (h : shape.render = shape'.render) : shape = shape' := by
  induction hshape generalizing shape' with
  | @named path arguments hpath harguments ih =>
      -- `ending` leaves only another name, or a generic parameter if there are no arguments
      have hending := ending_eq_of_render_eq (.named hpath harguments) hshape' h
      cases hshape' with
      | @named path' arguments' hpath' harguments' =>
          rcases arguments with _ | ⟨argument, arguments⟩ <;>
            rcases arguments' with _ | ⟨argument', arguments'⟩
          · rw [render_named_nil, render_named_nil] at h
            rw [h]
          · cases hending
          · cases hending
          · have hread := named_of_render_eq hpath hpath' harguments harguments'
              (fun s hs s' hs' => ih s hs (harguments' s' hs')) h
            rw [hread.1, hread.2]
      | genericParameter level position =>
          cases arguments with
          | nil => exact absurd h.symm (render_genericParameter_ne hpath level position)
          | cons argument arguments => cases hending
      | array | pointer | reference => cases arguments <;> cases hending
  | genericParameter level position =>
      have hending := ending_eq_of_render_eq (.genericParameter level position) hshape' h
      cases hshape' with
      | @named path' arguments' hpath' _ =>
          cases arguments' with
          | nil => exact absurd h (render_genericParameter_ne hpath' level position)
          | cons argument' arguments' => cases hending
      | genericParameter level' position' =>
          obtain ⟨rfl, rfl⟩ := genericParameter_of_render_eq h
          rfl
      | array | pointer | reference => cases hending
  | @array element rank helement hrank ih =>
      have hending := ending_eq_of_render_eq (.array helement hrank) hshape' h
      cases hshape' with
      | @array element' rank' helement' hrank' =>
          obtain ⟨helements, hranks⟩ := array_of_render_eq hrank hrank' h
          rw [ih helement' helements, hranks]
      | @named _ arguments' => cases arguments' <;> cases hending
      | genericParameter | pointer | reference => cases hending
  | @pointer element helement ih =>
      have hending := ending_eq_of_render_eq (.pointer helement) hshape' h
      cases hshape' with
      | @pointer element' helement' =>
          have hchars := congrArg String.toList h
          rw [toList_render_pointer, toList_render_pointer] at hchars
          rw [ih helement' (String.toList_inj.mp (List.append_cancel_right hchars))]
      | @named _ arguments' => cases arguments' <;> cases hending
      | genericParameter | array | reference => cases hending
  | @reference target htarget ih =>
      have hending := ending_eq_of_render_eq (.reference htarget) hshape' h
      cases hshape' with
      | @reference target' htarget' =>
          have hchars := congrArg String.toList h
          rw [toList_render_reference, toList_render_reference] at hchars
          rw [ih htarget' (String.toList_inj.mp (List.append_cancel_right hchars))]
      | @named _ arguments' => cases arguments' <;> cases hending
      | genericParameter | array | pointer => cases hending

end Shape

end CommentId
