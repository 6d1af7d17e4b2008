import Mathlib.Data.List.Basic

/-!
Rows of texts between commas, where the texts may hold commas of their own inside brackets. Main
statement: a row is split back into its texts at the commas outside of all brackets, as long as
each of the texts is balanced.
-/

namespace CommentId.Bracketing

section Split

variable {α : Type} {a : α} {x y u v : List α}

/-- A text splits in one way only into a part without marks and a part that starts with one. -/
theorem append_inj_of_marks {marks : List α} (hx : ∀ c ∈ x, c ∉ marks) (hy : ∀ c ∈ y, c ∉ marks)
    (hu : ∀ c, u.head? = some c → c ∈ marks) (hv : ∀ c, v.head? = some c → c ∈ marks)
    (h : x ++ u = y ++ v) : x = y ∧ u = v := by
  induction x generalizing y with
  | nil =>
      cases y with
      | nil => exact ⟨rfl, h⟩
      | cons c y =>
          have hhead : u.head? = some c := by
            rw [← List.nil_append u, h]
            rfl
          exact absurd (hu c hhead) (hy c List.mem_cons_self)
  | cons c x ih =>
      cases y with
      | nil =>
          have hhead : v.head? = some c := by
            rw [← List.nil_append v, ← h]
            rfl
          exact absurd (hv c hhead) (hx c List.mem_cons_self)
      | cons d y =>
          obtain ⟨rfl, htail⟩ := List.cons.inj h
          obtain ⟨rfl, rfl⟩ := ih (fun e he => hx e (List.mem_cons_of_mem _ he))
            (fun e he => hy e (List.mem_cons_of_mem _ he)) htail
          exact ⟨rfl, rfl⟩

theorem forall_not_mem_singleton (hx : a ∉ x) : ∀ c ∈ x, c ∉ [a] := by
  intro c hc hmem
  obtain rfl := List.mem_singleton.mp hmem
  exact hx hc

theorem append_cons_inj_of_first (hx : a ∉ x) (hy : a ∉ y) (h : x ++ a :: u = y ++ a :: v) :
    x = y ∧ u = v := by
  have hhead (z : List α) : ∀ c, (a :: z).head? = some c → c ∈ [a] := by
    simp
  obtain ⟨hfront, hback⟩ := append_inj_of_marks (forall_not_mem_singleton hx)
    (forall_not_mem_singleton hy) (hhead u) (hhead v) h
  exact ⟨hfront, (List.cons.inj hback).2⟩

/-- A text splits in one way only at the last occurrence of a character. -/
theorem append_cons_inj_of_last (hu : a ∉ u) (hv : a ∉ v) (h : x ++ a :: u = y ++ a :: v) :
    x = y ∧ u = v := by
  have hreverse : u.reverse ++ a :: x.reverse = v.reverse ++ a :: y.reverse := by
    simpa using congrArg List.reverse h
  obtain ⟨htail, hhead⟩ := append_cons_inj_of_first (by simpa using hu) (by simpa using hv) hreverse
  exact ⟨List.reverse_injective hhead, List.reverse_injective htail⟩

theorem exists_last_of_mem (h : a ∈ x) : ∃ front back, x = front ++ a :: back ∧ a ∉ back := by
  obtain ⟨back, front, hreverse, hback⟩ := List.eq_append_cons_of_mem (List.mem_reverse.mpr h)
  refine ⟨front.reverse, back.reverse, ?_, by simpa using hback⟩
  simpa using congrArg List.reverse hreverse

end Split

def opening : List Char := ['\x7b', '[']

def closing : List Char := ['\x7d', ']']

/-- The characters that have a meaning in a row. -/
def marks : List Char := opening ++ closing ++ [',']

/-- The bracket that closes what an opening one opens. -/
def partner (c : Char) : Char :=
  if c = '\x7b' then '\x7d' else ']'

/-- The closing brackets that are due after a character, the next one first. There are none if a
bracket closes that is not the next one due. -/
def step (due : List Char) (c : Char) : Option (List Char) :=
  if c ∈ opening then
    some (partner c :: due)
  else if c ∈ closing then
    if due.head? = some c then some due.tail else none
  else
    some due

/-- The closing brackets that are due after a text. -/
def dueAfter (due text : List Char) : Option (List Char) :=
  text.foldlM step due

/-- Every bracket that opens is closed by its partner, in the order of nesting, and no comma stands
outside of brackets. -/
structure Balanced (text : List Char) : Prop where
  closed : dueAfter [] text = some []
  comma : ∀ front back, text = front ++ ',' :: back → dueAfter [] front ≠ some []

/-- The texts between the commas outside of all brackets, of which `depth` are open at the start. -/
def split : Nat → List Char → List (List Char)
  | _, [] => [[]]
  | depth, c :: cs =>
      if c ∈ opening then
        (split (depth + 1) cs).modifyHead (c :: ·)
      else if c ∈ closing then
        (split (depth - 1) cs).modifyHead (c :: ·)
      else if c = ',' ∧ depth = 0 then
        [] :: split 0 cs
      else
        (split depth cs).modifyHead (c :: ·)

section Nesting

variable {due due' outer text front back : List Char} {c : Char}

theorem dueAfter_append (due front back : List Char) :
    dueAfter due (front ++ back) = (dueAfter due front).bind (dueAfter · back) :=
  List.foldlM_append

theorem dueAfter_cons (due text : List Char) (c : Char) :
    dueAfter due (c :: text) = (step due c).bind (dueAfter · text) :=
  List.foldlM_cons

theorem not_mem_opening_of_mem_closing (h : c ∈ closing) : c ∉ opening := by
  rcases List.mem_pair.mp h with rfl | rfl <;> decide

theorem partner_mem_closing (c : Char) : partner c ∈ closing := by
  rw [partner]
  split <;> decide

theorem step_of_opening (h : c ∈ opening) : step due c = some (partner c :: due) := by
  rw [step, if_pos h]

theorem step_of_not_mem (hopening : c ∉ opening) (hclosing : c ∉ closing) :
    step due c = some due := by
  rw [step, if_neg hopening, if_neg hclosing]

theorem step_of_closing (h : c ∈ closing) : step (c :: due) c = some due := by
  rw [step, if_neg (not_mem_opening_of_mem_closing h), if_pos h]
  exact if_pos rfl

/-- A step opens a bracket, closes the one that is due, or leaves what is due as it is. -/
theorem step_cases (h : step due c = some due') :
    (c ∈ opening ∧ due' = partner c :: due) ∨ (c ∈ closing ∧ due = c :: due') ∨
      (c ∉ opening ∧ c ∉ closing ∧ due' = due) := by
  rw [step] at h
  split at h
  · exact .inl ⟨‹_›, (Option.some.inj h).symm⟩
  split at h
  · split at h
    · obtain ⟨tail, rfl⟩ := List.head?_eq_some_iff.mp ‹_›
      exact .inr (.inl ⟨‹_›, congrArg (c :: ·) (Option.some.inj h)⟩)
    · cases h
  · exact .inr (.inr ⟨‹_›, ‹_›, (Option.some.inj h).symm⟩)

theorem step_append (outer : List Char) (h : step due c = some due') :
    step (due ++ outer) c = some (due' ++ outer) := by
  rcases step_cases h with ⟨hopening, rfl⟩ | ⟨hclosing, rfl⟩ | ⟨hopening, hclosing, rfl⟩
  · exact step_of_opening hopening
  · exact step_of_closing hclosing
  · exact step_of_not_mem hopening hclosing

/-- What is due outside of a text has no part in it. -/
theorem dueAfter_append_outer (outer : List Char) (h : dueAfter due text = some due') :
    dueAfter (due ++ outer) text = some (due' ++ outer) := by
  induction text generalizing due with
  | nil =>
      obtain rfl := Option.some.inj h
      rfl
  | cons c text ih =>
      rw [dueAfter_cons, Option.bind_eq_some_iff] at h
      obtain ⟨next, hstep, htext⟩ := h
      rw [dueAfter_cons, step_append outer hstep]
      exact ih htext

theorem length_of_step (h : step due c = some due') :
    due'.length + [c].countP (· ∈ closing) = due.length + [c].countP (· ∈ opening) := by
  rcases step_cases h with ⟨hopening, rfl⟩ | ⟨hclosing, rfl⟩ | ⟨hopening, hclosing, rfl⟩
  · have hclosing : c ∉ closing := fun hmem => not_mem_opening_of_mem_closing hmem hopening
    simp [hopening, hclosing]
  · simp [hclosing, not_mem_opening_of_mem_closing hclosing]
  · simp [hopening, hclosing]

theorem length_of_dueAfter (h : dueAfter due text = some due') :
    due'.length + text.countP (· ∈ closing) = due.length + text.countP (· ∈ opening) := by
  induction text generalizing due with
  | nil =>
      obtain rfl := Option.some.inj h
      rfl
  | cons c text ih =>
      rw [dueAfter_cons, Option.bind_eq_some_iff] at h
      obtain ⟨next, hstep, htext⟩ := h
      have hc := length_of_step hstep
      have hrest := ih htext
      rw [← List.singleton_append, List.countP_append, List.countP_append]
      omega

theorem dueAfter_of_forall (h : ∀ c ∈ text, c ∉ opening ∧ c ∉ closing) :
    dueAfter due text = some due := by
  induction text with
  | nil => rfl
  | cons c text ih =>
      obtain ⟨hopening, hclosing⟩ := h c List.mem_cons_self
      rw [dueAfter_cons, step_of_not_mem hopening hclosing]
      exact ih fun d hd => h d (List.mem_cons_of_mem _ hd)

end Nesting

theorem intercalate_comma_cons (text next : List Char) (items : List (List Char)) :
    [','].intercalate (text :: next :: items) =
      text ++ ',' :: [','].intercalate (next :: items) := by
  rw [List.intercalate_cons_cons, List.append_assoc, List.singleton_append]

namespace Balanced

variable {text text' : List Char}

/-- At each place of the text, no more brackets are closed than opened, and those that are still
open are closed by their partners. -/
theorem exists_dueAfter (h : Balanced text) {front : List Char} (hfront : front <+: text) :
    ∃ due, dueAfter [] front = some due ∧
      front.countP (· ∈ opening) = front.countP (· ∈ closing) + due.length := by
  obtain ⟨back, rfl⟩ := hfront
  have hclosed := h.closed
  rw [dueAfter_append, Option.bind_eq_some_iff] at hclosed
  obtain ⟨due, hdue, -⟩ := hclosed
  have hlength := length_of_dueAfter hdue
  refine ⟨due, hdue, ?_⟩
  rw [List.length_nil] at hlength
  omega

theorem of_forall (h : ∀ c ∈ text, c ∉ marks) : Balanced text where
  closed := by
    apply dueAfter_of_forall
    intro c hc
    have hmarks := h c hc
    simp only [marks, List.mem_append, not_or] at hmarks
    exact hmarks.1
  comma := by
    rintro front back rfl
    exact absurd (h ',' (by simp)) (by decide)

/-- A closed text without marks is found to be so by evaluation. -/
theorem of_all (h : text.all (· ∉ marks) = true) : Balanced text :=
  of_forall (by simpa using h)

theorem append (h : Balanced text) (h' : Balanced text') : Balanced (text ++ text') where
  closed := by
    rw [dueAfter_append, h.closed]
    exact h'.closed
  comma := by
    intro front back heq
    rcases List.append_eq_append_iff.mp heq with ⟨middle, rfl, htext'⟩ | ⟨middle, rfl, hback⟩
    · rw [dueAfter_append, h.closed]
      exact h'.comma middle back htext'
    · cases middle with
      | nil => exact absurd rfl (h'.comma [] back hback.symm)
      | cons c middle =>
          obtain ⟨rfl, -⟩ := List.cons.inj hback
          exact h.comma front middle rfl

/-- Between brackets, commas may stand anywhere. -/
theorem bracket {o : Char} (ho : o ∈ opening) (h : dueAfter [] text = some []) :
    Balanced (o :: text ++ [partner o]) where
  closed := by
    have hinner : dueAfter [partner o] text = some [partner o] := dueAfter_append_outer _ h
    rw [List.cons_append, dueAfter_cons, step_of_opening ho, Option.bind_some, dueAfter_append,
      hinner, Option.bind_some, dueAfter_cons, step_of_closing (partner_mem_closing o)]
    rfl
  comma := by
    intro front back heq
    cases front with
    | nil =>
        obtain rfl : o = ',' := (List.cons.inj heq).1
        exact absurd ho (by decide)
    | cons d front =>
        obtain ⟨rfl, hrow⟩ := List.cons.inj heq
        rcases List.append_eq_append_iff.mp hrow with
          ⟨middle, rfl, hlast⟩ | ⟨middle, rfl, -⟩
        · have hcomma : ',' ∈ [partner o] := by simp [hlast]
          rw [List.mem_singleton] at hcomma
          exact absurd (hcomma ▸ partner_mem_closing o) (by decide)
        · rw [dueAfter_append, Option.bind_eq_some_iff] at h
          obtain ⟨due, hfront, -⟩ := h
          have houter : dueAfter [partner o] front = some (due ++ [partner o]) :=
            dueAfter_append_outer _ hfront
          rw [dueAfter_cons, step_of_opening ho, Option.bind_some, houter]
          simp

/-- A row of balanced texts closes all its brackets. -/
theorem dueAfter_intercalate {items : List (List Char)} (h : ∀ text ∈ items, Balanced text) :
    dueAfter [] ([','].intercalate items) = some [] := by
  induction items with
  | nil => rfl
  | cons text items ih =>
      have htext := (h text List.mem_cons_self).closed
      have hitems := ih fun text' htext' => h text' (List.mem_cons_of_mem _ htext')
      cases items with
      | nil => rwa [List.intercalate_singleton]
      | cons next items =>
          have hcomma : step [] ',' = some [] := by
            decide
          rw [intercalate_comma_cons, dueAfter_append, htext, Option.bind_some, dueAfter_cons,
            hcomma]
          exact hitems

end Balanced

section Split

variable {due due' text : List Char} {c : Char}

theorem split_cons (h : step due c = some due') (hcomma : c = ',' → due ≠ []) (cs : List Char) :
    split due.length (c :: cs) = (split due'.length cs).modifyHead (c :: ·) := by
  rw [split]
  rcases step_cases h with ⟨hopening, rfl⟩ | ⟨hclosing, rfl⟩ | ⟨hopening, hclosing, rfl⟩
  · rw [if_pos hopening, List.length_cons]
  · rw [if_neg (not_mem_opening_of_mem_closing hclosing), if_pos hclosing, List.length_cons,
      Nat.add_sub_cancel]
  · rw [if_neg hopening, if_neg hclosing, if_neg]
    rintro ⟨hc, hlength⟩
    exact hcomma hc (List.length_eq_zero_iff.mp hlength)

theorem split_append (h : dueAfter due text = some due')
    (hcomma : ∀ front back, text = front ++ ',' :: back → dueAfter due front ≠ some [])
    (rest : List Char) :
    split due.length (text ++ rest) = (split due'.length rest).modifyHead (text ++ ·) := by
  induction text generalizing due with
  | nil =>
      obtain rfl := Option.some.inj h
      exact (congrFun List.modifyHead_id (split due.length rest)).symm
  | cons c text ih =>
      rw [dueAfter_cons, Option.bind_eq_some_iff] at h
      obtain ⟨next, hstep, htext⟩ := h
      have hfirst : c = ',' → due ≠ [] := by
        rintro rfl rfl
        exact hcomma [] text rfl rfl
      have hrest := ih htext fun front back heq hfront =>
        hcomma (c :: front) back (congrArg (c :: ·) heq) (by
          rw [dueAfter_cons, hstep]
          exact hfront)
      rw [List.cons_append, split_cons hstep hfirst, hrest, List.modifyHead_modifyHead]
      rfl

theorem split_of_balanced (h : Balanced text) : split 0 text = [text] := by
  have hsplit := split_append h.closed h.comma []
  rwa [List.append_nil, split, List.modifyHead_cons, List.append_nil] at hsplit

theorem split_append_comma (h : Balanced text) (rest : List Char) :
    split 0 (text ++ ',' :: rest) = text :: split 0 rest := by
  have hcomma : split 0 (',' :: rest) = [] :: split 0 rest := rfl
  have hsplit := split_append h.closed h.comma (',' :: rest)
  rwa [List.length_nil, hcomma, List.modifyHead_cons, List.append_nil] at hsplit

theorem split_intercalate {items : List (List Char)} (h : ∀ text ∈ items, Balanced text)
    (hne : items ≠ []) : split 0 ([','].intercalate items) = items := by
  induction items with
  | nil => exact absurd rfl hne
  | cons text items ih =>
      have htext := h text List.mem_cons_self
      cases items with
      | nil => rw [List.intercalate_singleton, split_of_balanced htext]
      | cons next items =>
          rw [intercalate_comma_cons, split_append_comma htext,
            ih (fun text' htext' => h text' (List.mem_cons_of_mem _ htext'))
              (List.cons_ne_nil _ _)]

example : split 0 "Map\x7bA,B[0:,0:]\x7d,C".toList = ["Map\x7bA,B[0:,0:]\x7d".toList, ['C']] := by
  decide

theorem eq_of_intercalate_eq {items items' : List (List Char)}
    (hitems : ∀ text ∈ items, Balanced text) (hitems' : ∀ text ∈ items', Balanced text)
    (hne : items ≠ []) (hne' : items' ≠ [])
    (h : [','].intercalate items = [','].intercalate items') : items = items' := by
  have hsplit := congrArg (split 0) h
  rwa [split_intercalate hitems hne, split_intercalate hitems' hne'] at hsplit

end Split

end CommentId.Bracketing
