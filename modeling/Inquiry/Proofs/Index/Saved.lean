import Inquiry.Proofs.Index.Cache
import Inquiry.Proofs.Index.Score

/-!
A record that has been saved is loaded as it was, under its own fingerprint and no other. Where a
number of it is not finite, nothing is loaded.
-/
namespace Inquiry.Cache

/-- Only a pattern with the highest exponent has no literal. -/
theorem literal_ofBits (layout : Decimal.DataLayout) (width precision bits : Nat) :
    (Decimal.data? layout (Decimal.readingOfBits width precision bits)).isSome = true ↔
      bits / 2 ^ precision % 2 ^ width ≠ 2 ^ width - 1 := by
  change _ ↔ bits / Decimal.twoTo precision % Decimal.twoTo width ≠ Decimal.twoTo width - 1
  unfold Decimal.readingOfBits
  dsimp only
  split
  next full => split <;> simp [Decimal.data?, full]
  next below =>
    split
    next => split <;> simp [Decimal.data?, below]
    next => simp [Decimal.data?, below]

/-- The numbers with a literal are the finite ones. -/
theorem hasLiteral_iff {x : Float32} : HasLiteral x ↔ x.isFinite = true := by
  have bound : x.toBits.toNat < 2 ^ 32 := x.toBits.toBitVec.isLt
  rw [Score.isFinite_iff, HasLiteral, Decimal.reading32, literal_ofBits, Score.magnitude]
  omega

def IsFinite (index : Index) : Prop := index.EachNumber fun x => x.isFinite = true

theorem isFinite_iff {index : Index} : IsFinite index ↔ index.EachNumber HasLiteral := by
  have same : HasLiteral = fun x => x.isFinite = true := funext fun _ => propext hasLiteral_iff
  rw [same, IsFinite]

/-- A saved index is loaded under its fingerprint and under no other; one with a number that is not
finite makes a file that no fingerprint reads. -/
theorem load_save {files saved : Files} {path fingerprint embedder created : String} {index : Index}
    (exact : index.IsExact)
    (written : save files path ⟨fingerprint, embedder, created, index⟩ = .ok saved) :
    (IsFinite index →
      load saved path fingerprint = .ok (some index) ∧
      ∀ other, other ≠ fingerprint → load saved path other = .ok none) ∧
    (¬ IsFinite index → ∀ other, load saved path other = .error .malformed) := by
  constructor
  · intro finite
    have read := @ofText_text ⟨fingerprint, embedder, created, index⟩ exact (isFinite_iff.1 finite)
    constructor
    · rw [load_written written, read]
      exact congrArg Except.ok (if_pos rfl)
    · intro other different
      rw [load_written written, read]
      exact congrArg Except.ok (if_neg different.symm)
  · intro infinite other
    have lost := @ofText_lost ⟨fingerprint, embedder, created, index⟩ exact
      fun writable => infinite (isFinite_iff.2 writable)
    rw [load_written written, lost]

section Archive

def archive (vector : Vector32) : Index :=
  .ofList [("\"é\\", ⟨"first\n\x01 second", vector, [⟨"the \"field\"", "string"⟩],
    .ofList [("the \"field\"", [0.1])], 18446744073709551615, ["_id_"]⟩)]

def archived (vector : Vector32) : Record := ⟨"5d2c", "hashing:2", "2024-05-01", archive vector⟩

variable {Kind : Float32 → Prop} {vector : Vector32}

theorem archive_each (own : ∀ x ∈ vector, Kind x) (field : Kind 0.1) :
    (archive vector).EachNumber Kind :=
  List.forall_mem_singleton.2
    ⟨own, List.forall_mem_singleton.2 (List.forall_mem_singleton.2 field)⟩

theorem archive_exact (own : ∀ x ∈ vector, IsExact x) : (archive vector).IsExact :=
  ⟨archive_each own (by decide +kernel),
    List.forall_mem_singleton.2 (show 18446744073709551615 < UInt64.size by decide)⟩

theorem archive_infinite (lost : ¬ ∀ x ∈ vector, x.isFinite = true) : ¬ IsFinite (archive vector) :=
  fun finite => lost (finite _ List.mem_cons_self).vector

theorem archived_saved (vector : Vector32) : ∃ saved,
    save .empty "caches/index.json" (archived vector) = .ok saved := ⟨_, rfl⟩

/-- A vector with both signs of zero comes back, one with a quotient of zeros does not. -/
theorem load_save_archive : ∃ saved lost,
    save .empty "caches/index.json" (archived [1.5, 0.0, -0.0]) = .ok saved ∧
    load saved "caches/index.json" "5d2c" = .ok (some (archive [1.5, 0.0, -0.0])) ∧
    load saved "caches/index.json" "5d2d" = .ok none ∧
    save .empty "caches/index.json" (archived [1.5, 0.0 / 0.0]) = .ok lost ∧
    load lost "caches/index.json" "5d2c" = .error .malformed := by
  obtain ⟨saved, written⟩ := archived_saved [1.5, 0.0, -0.0]
  obtain ⟨lost, writtenToo⟩ := archived_saved [1.5, 0.0 / 0.0]
  obtain ⟨same, unknown⟩ := (load_save (archive_exact (by decide +kernel)) written).1
    (archive_each (by decide +kernel) (by decide +kernel))
  have malformed := (load_save (archive_exact (by decide +kernel)) writtenToo).2
    (archive_infinite (by decide +kernel))
  exact ⟨saved, lost, written, same, unknown "5d2d" (by decide), writtenToo, malformed "5d2c"⟩

end Archive

end Inquiry.Cache
