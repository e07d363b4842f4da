import Inquiry.Embedding.Basic
import Mathlib.Data.List.Induction

/-!
The cosine of two vectors is their product over the product of their lengths, each rounded as it is
computed. Vectors that cannot be compared, and quotients that are no finite number, have zero instead,
so every cosine is finite.
-/
namespace Inquiry.Vector32

inductive IsDot : Vector32 → Vector32 → Float32 → Prop
  | nil : IsDot [] [] (-0.0)
  | snoc {first second : Vector32} {total : Float32} (x y : Float32)
      (before : IsDot first second total) : IsDot (first ++ [x]) (second ++ [y]) (total + x * y)

def IsNorm (vector : Vector32) (norm : Float32) : Prop :=
  ∃ square, IsDot vector vector square ∧ norm = square.sqrt

inductive IsCosine (first second : Vector32) : Float32 → Prop
  | unequal (apart : first.length ≠ second.length) : IsCosine first second 0
  | empty (blank : first = []) : IsCosine first second 0
  | zero {norm other : Float32} (measured : IsNorm first norm) (measuredToo : IsNorm second other)
      (vanishes : norm == 0 ∨ other == 0) : IsCosine first second 0
  | infinite {dot norm other : Float32} (product : IsDot first second dot)
      (measured : IsNorm first norm) (measuredToo : IsNorm second other)
      (unbounded : ¬ (dot / (norm * other)).isFinite) : IsCosine first second 0
  | quotient {dot norm other : Float32} (product : IsDot first second dot)
      (measured : IsNorm first norm) (measuredToo : IsNorm second other)
      (extended : ¬ (norm == 0 ∨ other == 0)) (bounded : (dot / (norm * other)).isFinite) :
      IsCosine first second (dot / (norm * other))

variable {first second : Vector32} {x y total score : Float32}

theorem dot_snoc (same : first.length = second.length) :
    dot (first ++ [x]) (second ++ [y]) = dot first second + x * y := by
  rw [dot, List.zipWith_append same, sum, List.foldl_append]
  rfl

theorem isDot_iff :
    IsDot first second total ↔ first.length = second.length ∧ total = dot first second := by
  constructor
  · intro product
    induction product with
    | nil => exact ⟨rfl, rfl⟩
    | snoc x y before ih =>
      obtain ⟨same, sum⟩ := ih
      rw [dot_snoc same, sum, List.length_append, List.length_append, same]
      exact ⟨rfl, rfl⟩
  · rintro ⟨same, rfl⟩
    induction first using List.reverseRecOn generalizing second with
    | nil =>
      rw [List.eq_nil_of_length_eq_zero same.symm]
      exact .nil
    | append_singleton first x ih =>
      rcases List.eq_nil_or_concat second with rfl | ⟨second, y, rfl⟩
      · simp at same
      · have fewer : first.length = second.length := by simpa using same
        rw [List.concat_eq_append, dot_snoc fewer]
        exact .snoc x y (ih fewer)

theorem isNorm_iff {vector : Vector32} {length : Float32} :
    IsNorm vector length ↔ length = vector.norm := by
  constructor
  · rintro ⟨square, product, rfl⟩
    rw [(isDot_iff.1 product).2, norm]
  · rintro rfl
    exact ⟨_, isDot_iff.2 ⟨rfl, rfl⟩, rfl⟩

theorem norm_nil : norm [] == 0 := by decide +kernel

/-- The empty vector is no case of its own, since its length is zero. -/
theorem cosine_measured (same : first.length = second.length) :
    let quotient := dot first second / (norm first * norm second)
    cosine first second = if norm first == 0 ∨ norm second == 0 then 0
      else if quotient.isFinite then quotient else 0 := by
  intro quotient
  unfold cosine
  cases first with
  | nil => simp [norm_nil]
  | cons x first => simp [same, quotient]

theorem isCosine_iff : IsCosine first second score ↔ score = cosine first second := by
  constructor
  · intro nearness
    cases nearness with
    | unequal apart => simp [cosine, apart]
    | empty blank => simp [cosine, blank]
    | zero measured measuredToo vanishes =>
      by_cases same : first.length = second.length
      · rw [isNorm_iff] at measured measuredToo
        rw [cosine_measured same, if_pos (measured ▸ measuredToo ▸ vanishes)]
      · simp [cosine, same]
    | infinite product measured measuredToo unbounded =>
      obtain ⟨same, rfl⟩ := isDot_iff.1 product
      rw [isNorm_iff] at measured measuredToo
      subst measured measuredToo
      rw [cosine_measured same, if_neg unbounded, ite_self]
    | quotient product measured measuredToo extended bounded =>
      obtain ⟨same, rfl⟩ := isDot_iff.1 product
      rw [isNorm_iff] at measured measuredToo
      subst measured measuredToo
      rw [cosine_measured same, if_neg extended, if_pos bounded]
  · rintro rfl
    by_cases same : first.length = second.length
    · have product : IsDot first second (dot first second) := isDot_iff.2 ⟨same, rfl⟩
      have measured : IsNorm first (norm first) := isNorm_iff.2 rfl
      have measuredToo : IsNorm second (norm second) := isNorm_iff.2 rfl
      rw [cosine_measured same]
      split
      next vanishes => exact .zero measured measuredToo vanishes
      next extended =>
        split
        next bounded => exact .quotient product measured measuredToo extended bounded
        next unbounded => exact .infinite product measured measuredToo unbounded
    · have zero : cosine first second = 0 := by simp [cosine, same]
      rw [zero]
      exact .unequal same

theorem IsCosine.finite (nearness : IsCosine first second score) : score.isFinite = true := by
  cases nearness with
  | quotient product measured measuredToo extended bounded => exact bounded
  | _ => decide

end Inquiry.Vector32
