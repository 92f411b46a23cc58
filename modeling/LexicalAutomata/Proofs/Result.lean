namespace LexicalAutomata

/-!
# Results that may be errors
-/

variable {ε α β : Type}

/-- What is made of a result that is no error comes from a value. -/
theorem exists_of_map_eq_ok
    {function : α → β}
    {result : Except ε α}
    {value : β}
    (mapped : result.map function = .ok value) :
    ∃ original, result = .ok original ∧ function original = value := by
  cases result with
  | error _ =>
      contradiction
  | ok original =>
      exact ⟨original, rfl, Except.ok.inj mapped⟩

/-- A result with a value is no error. -/
theorem ok_of_toOption
    {result : Except ε α}
    {value : α}
    (isSome : result.toOption = some value) :
    result = .ok value := by
  cases result with
  | error _ =>
      contradiction
  | ok _ =>
      exact congrArg Except.ok (Option.some.inj isSome)

end LexicalAutomata
