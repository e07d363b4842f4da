import Inquiry.Index.Fingerprint
import Inquiry.Proofs.Embedding.Hashing
import Inquiry.Proofs.Text.Cut
import Inquiry.Proofs.Text.Utf8

/-! The bytes of which a fingerprint is the digest. -/
namespace Inquiry.Fingerprint

theorem sorted_key {α : Type} (key : α → String) (items : List α) :
    (items.mergeSort fun first second => key first ≤ key second).Pairwise fun first second =>
      key first ≤ key second := by
  have transitive : ∀ first second third : α, decide (key first ≤ key second) = true →
      decide (key second ≤ key third) = true → decide (key first ≤ key third) = true := by
    simp only [decide_eq_true_eq]
    exact fun _ _ _ => String.le_trans
  have total : ∀ first second : α,
      (decide (key first ≤ key second) || decide (key second ≤ key first)) = true := by
    simp only [Bool.or_eq_true, decide_eq_true_eq]
    exact fun first second => String.le_total _ _
  exact (List.pairwise_mergeSort transitive total _).imp of_decide_eq_true

theorem pairs_sorted (fields : List Field) : (pairs fields).Pairwise (· ≤ ·) :=
  sorted_key id (fields.map pair)

/-- The order in which fields are listed does not matter. -/
theorem pairs_perm {fields others : List Field} (same : fields.Perm others) :
    pairs fields = pairs others := by
  have members : (pairs fields).Perm (pairs others) :=
    (List.mergeSort_perm _ _).trans ((same.map pair).trans (List.mergeSort_perm _ _).symm)
  exact members.eq_of_pairwise (fun _ _ _ _ => String.le_antisymm) (pairs_sorted fields)
    (pairs_sorted others)

theorem line_bytes (text : String) : line text = text.toUTF8.toList ++ [10] := by
  rw [line, Utf8.bytes_text, Utf8.bytes_text, String.toList_append, List.flatMap_append]
  rfl

theorem span_feed {text : String} (plain : '\n' ∉ text.toList) (rest : List UInt8) :
    (line text ++ rest).takeWhile (· ≠ 10) = text.toUTF8.toList ∧
      (line text ++ rest).dropWhile (· ≠ 10) = 10 :: rest := by
  rw [line_bytes, List.append_assoc, List.singleton_append]
  refine Text.span_append _ _ _ (fun byte member => ?_) (fun byte first => ?_)
  · have other : byte ≠ 10 := fun feed => Utf8.feed_text plain (feed ▸ member)
    exact decide_eq_true other
  · cases first
    rfl

theorem line_cut {first second : String} {rest more : List UInt8}
    (plain : '\n' ∉ first.toList) (plainToo : '\n' ∉ second.toList)
    (same : line first ++ rest = line second ++ more) : first = second ∧ rest = more := by
  obtain ⟨front, back⟩ := span_feed plain rest
  obtain ⟨frontToo, backToo⟩ := span_feed plainToo more
  rw [same] at front back
  exact ⟨Utf8.bytes_inj (front.symm.trans frontToo), (List.cons.inj (back.symm.trans backToo)).2⟩

/-- The bytes of a fingerprint tell which hashing embedder they are of. -/
theorem shape_embedder {first second : Nat} {before after : List Collection}
    (same : shape (Hashing.embedder first).descriptor before =
      shape (Hashing.embedder second).descriptor after) :
    Hashing.embedder first = Hashing.embedder second :=
  Hashing.descriptor_inj
    (line_cut (Hashing.descriptor_plain first) (Hashing.descriptor_plain second) same).1

end Inquiry.Fingerprint
