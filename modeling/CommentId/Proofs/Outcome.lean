/-!
Results that are decided by whether something stands in the way of a value. Main statement: of two
steps in a row, the obstacle of the first one counts.
-/

namespace CommentId

/-- The value, unless there is an obstacle. -/
def outcome {ε α : Type} (obstacle : Option ε) (value : α) : Except ε α :=
  obstacle.elim (.ok value) .error

section bind

variable {ε α β : Type}

theorem ok_bind (a : α) (f : α → Except ε β) : (Except.ok a >>= f) = f a := rfl

theorem map_eq_bind (result : Except ε α) (f : α → β) :
    result.map f = result >>= fun a => .ok (f a) := by
  cases result <;> rfl

theorem map_eq_ok_iff {result : Except ε α} {f : α → β} {value : β} :
    result.map f = .ok value ↔ ∃ a, result = .ok a ∧ f a = value := by
  cases result <;> simp [Except.map]

end bind

section outcome

variable {ε ε' α β : Type}

@[simp] theorem outcome_none (value : α) : outcome (none : Option ε) value = .ok value := rfl

@[simp] theorem outcome_some (obstacle : ε) (value : α) :
    outcome (some obstacle) value = .error obstacle := rfl

theorem outcome_eq_ok_iff {obstacle : Option ε} {value value' : α} :
    outcome obstacle value = .ok value' ↔ obstacle = none ∧ value = value' := by
  cases obstacle <;> simp

theorem outcome_eq_error_iff {obstacle : Option ε} {value : α} {fault : ε} :
    outcome obstacle value = .error fault ↔ obstacle = some fault := by
  cases obstacle <;> simp

theorem map_outcome (f : α → β) (obstacle : Option ε) (value : α) :
    (outcome obstacle value).map f = outcome obstacle (f value) := by
  cases obstacle <;> rfl

theorem mapError_outcome (f : ε → ε') (obstacle : Option ε) (value : α) :
    (outcome obstacle value).mapError f = outcome (obstacle.map f) value := by
  cases obstacle <;> rfl

theorem outcome_bind_ok (obstacle : Option ε) (a : α) (f : α → β) :
    (outcome obstacle a >>= fun x => .ok (f x)) = outcome obstacle (f a) := by
  cases obstacle <;> rfl

/-- Of two steps in a row, the obstacle of the first one counts. -/
theorem outcome_bind_outcome (first second : Option ε) (a : α) (f : α → β) :
    (outcome first a >>= fun x => outcome second (f x)) = outcome (first.or second) (f a) := by
  cases first <;> rfl

end outcome

section AgreeUnless

variable {ε : Type} {p : ε → Prop} {first first' second second' : Option ε}

/-- The obstacles of two runs are the same, unless the first run is stopped in a way of its own. -/
def AgreeUnless (p : ε → Prop) (obstacle obstacle' : Option ε) : Prop :=
  obstacle = obstacle' ∨ ∃ fault, obstacle = some fault ∧ p fault

theorem AgreeUnless.refl (obstacle : Option ε) : AgreeUnless p obstacle obstacle :=
  .inl rfl

theorem AgreeUnless.or (h : AgreeUnless p first first') (h' : AgreeUnless p second second') :
    AgreeUnless p (first.or second) (first'.or second') := by
  rcases h with rfl | ⟨fault, rfl, hfault⟩
  · cases first with
    | none => simpa using h'
    | some fault => exact .inl rfl
  · exact .inr ⟨fault, rfl, hfault⟩

end AgreeUnless

section mapError

variable {ε ε' α β : Type} {f : ε → ε'} {result result' : Except ε α}

/-- Results that differ at most in their errors, and there not under `f`, still do so after
another step. -/
theorem mapError_bind_congr {next next' : α → Except ε β}
    (h : result.mapError f = result'.mapError f)
    (hnext : ∀ a, (next a).mapError f = (next' a).mapError f) :
    (result >>= next).mapError f = (result' >>= next').mapError f := by
  cases result with
  | error fault =>
      cases result' with
      | error fault' => exact congrArg Except.error (Except.error.inj h)
      | ok value => cases h
  | ok value =>
      cases result' with
      | error fault => cases h
      | ok value' =>
          cases Except.ok.inj h
          exact hnext value

theorem mapError_map_congr (h : result.mapError f = result'.mapError f) (g : α → β) :
    (result.map g).mapError f = (result'.map g).mapError f := by
  rw [map_eq_bind, map_eq_bind]
  exact mapError_bind_congr h fun _ => rfl

end mapError

end CommentId
