/-!
A loop as turns of one state. A turn may reach for something that is not there, and there may be too
few turns; where every turn succeeds and brings the state closer to its end, neither happens.
-/
namespace Inquiry

inductive Progress (σ ρ : Type) where
  | on (state : σ)
  | done (result : ρ)

def before? : Nat → Option Nat
  | 0 => none
  | n + 1 => some n

theorem before_pos {n : Nat} (positive : 0 < n) : before? n = some (n - 1) := by
  cases n with
  | zero => cases positive
  | succ n => rfl

section Loops

variable {σ ρ : Type}

/-- At most `limit` turns; `none` where one of them fails or they do not suffice. -/
def turns (turn : σ → Option (Progress σ ρ)) : Nat → σ → Option ρ
  | 0, _ => none
  | limit + 1, state => do
    match ← turn state with
    | .on next => turns turn limit next
    | .done result => some result

/-- The turns from a state end with a result, and each but the last leaves less. -/
inductive EndsIn (turn : σ → Option (Progress σ ρ)) (left : σ → Nat) : σ → ρ → Prop
  | done {state : σ} {result : ρ} (last : turn state = some (.done result)) :
      EndsIn turn left state result
  | on {state next : σ} {result : ρ} (goesOn : turn state = some (.on next))
      (fewer : left next < left state) (rest : EndsIn turn left next result) :
      EndsIn turn left state result

/-- A turn that succeeds: it comes to the result, or it leaves less, and what then holds of the result
holds of it before as well. -/
inductive Sound (turn : σ → Option (Progress σ ρ)) (left : σ → Nat) (holds : σ → ρ → Prop)
    (state : σ) : Prop
  | done {result : ρ} (last : turn state = some (.done result)) (held : holds state result)
  | on {next : σ} (goesOn : turn state = some (.on next)) (fewer : left next < left state)
      (passed : ∀ result, holds next result → holds state result)

variable {turn : σ → Option (Progress σ ρ)} {left : σ → Nat} {state : σ} {result : ρ} {limit : Nat}

/-- With less left after every turn, more turns than what is left suffice. -/
theorem EndsIn.turns (ends : EndsIn turn left state result) (enough : left state < limit) :
    turns turn limit state = some result := by
  induction ends generalizing limit with
  | done last =>
    obtain ⟨limit, rfl⟩ := Nat.exists_eq_succ_of_ne_zero (Nat.ne_of_gt (Nat.zero_lt_of_lt enough))
    rw [Inquiry.turns, last]
    rfl
  | on goesOn fewer rest ih =>
    obtain ⟨limit, rfl⟩ := Nat.exists_eq_succ_of_ne_zero (Nat.ne_of_gt (Nat.zero_lt_of_lt enough))
    rw [Inquiry.turns, goesOn]
    exact ih (Nat.lt_of_lt_of_le fewer (Nat.le_of_lt_succ enough))

/-- Sound turns come to a result, and what they pass on holds of it. -/
theorem turns_sound {holds : σ → ρ → Prop}
    (sound : ∀ state, Sound turn left holds state) (state : σ) (enough : left state < limit) :
    ∃ result, turns turn limit state = some result ∧ holds state result := by
  induction limit generalizing state with
  | zero => cases enough
  | succ limit ih =>
    rw [turns]
    cases sound state with
    | done last held =>
      rw [last]
      exact ⟨_, rfl, held⟩
    | on goesOn fewer passed =>
      obtain ⟨result, ends, held⟩ := ih _ (Nat.lt_of_lt_of_le fewer (Nat.le_of_lt_succ enough))
      rw [goesOn]
      exact ⟨result, ends, passed result held⟩

end Loops
end Inquiry
