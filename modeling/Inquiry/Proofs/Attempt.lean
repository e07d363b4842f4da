/-!
A chain of attempts that succeeds has succeeded at every step, and one that fails has failed at one
of them.
-/
namespace Inquiry

variable {α β ε : Type} {attempt : Except ε α} {result : β}

theorem bind_ok {f : α → Except ε β} (bound : (attempt >>= f) = .ok result) :
    ∃ found, attempt = .ok found ∧ f found = .ok result := by
  cases attempt with
  | error fault => cases bound
  | ok found => exact ⟨found, rfl, bound⟩

theorem map_ok {f : α → β} (mapped : attempt.map f = .ok result) :
    ∃ found, attempt = .ok found ∧ result = f found := by
  cases attempt with
  | error fault => cases mapped
  | ok found => exact ⟨found, rfl, (Except.ok.inj mapped).symm⟩

theorem fails_iff : (∃ fault, attempt = .error fault) ↔ ∀ found, attempt ≠ .ok found := by
  cases attempt with
  | error fault => exact iff_of_true ⟨fault, rfl⟩ fun _ same => by cases same
  | ok found =>
    refine iff_of_false ?_ fun never => never found rfl
    rintro ⟨fault, same⟩
    cases same

theorem bind_fails {f : α → Except ε β} : (∃ fault, (attempt >>= f) = .error fault) ↔
    (∃ fault, attempt = .error fault) ∨
      ∃ found, attempt = .ok found ∧ ∃ fault, f found = .error fault := by
  cases attempt with
  | error fault => exact iff_of_true ⟨fault, rfl⟩ (.inl ⟨fault, rfl⟩)
  | ok found =>
    constructor
    · exact fun fails => .inr ⟨found, rfl, fails⟩
    · rintro (⟨fault, same⟩ | ⟨_, same, fails⟩)
      · cases same
      · cases same
        exact fails

theorem map_fails {f : α → β} : (∃ fault, (do return f (← attempt)) = Except.error (ε := ε) fault) ↔
    ∃ fault, attempt = .error fault := by
  rw [bind_fails]
  exact or_iff_left fun ⟨_, _, _, same⟩ => by cases same

end Inquiry
