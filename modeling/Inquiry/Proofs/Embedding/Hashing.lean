import Inquiry.Embedding.Hashing
import Inquiry.Proofs.Decimal.Digits

/-! The hashing embedder has a vector for every text, and is known by its descriptor. -/
namespace Inquiry.Hashing

theorem add_length (vector : Vector32) (word : String) : (add vector word).length = vector.length :=
  List.length_modify _ _ _

theorem counts_length (dimension : Nat) (text : String) :
    (counts dimension text).length = dimension := by
  unfold counts
  generalize words text = words
  suffices all : ∀ vector : Vector32, (words.foldl add vector).length = vector.length by
    rw [all, List.length_replicate]
  induction words with
  | nil => intro vector; rfl
  | cons word rest ih => intro vector; rw [List.foldl_cons, ih, add_length]

theorem embed_length (dimension : Nat) (text : String) : (embed dimension text).length = dimension := by
  unfold embed
  dsimp only
  split
  · rw [List.length_map, counts_length]
  · exact counts_length dimension text

theorem embedder_embed (dimension : Nat) (text : String) :
    (embedder dimension).embed text = .ok (embed (max dimension 1) text) := by
  have nonempty : (embed (max dimension 1) text).isEmpty = false := by
    rw [List.isEmpty_eq_false_iff_exists_mem, ← List.length_pos_iff_exists_mem, embed_length]
    omega
  simp only [Embedder.embed, embedder]
  change (if (embed (max dimension 1) text).isEmpty then _ else _) = _
  rw [nonempty]
  rfl

theorem descriptor_inj {first second : Nat}
    (same : (embedder first).descriptor = (embedder second).descriptor) :
    embedder first = embedder second := by
  have digits := congrArg String.toList same
  simp only [embedder, String.toList_append, List.append_cancel_left_eq] at digits
  have places := Decimal.natText_inj (String.toList_inj.1 digits)
  simp only [embedder, places]

theorem descriptor_plain (dimension : Nat) : '\n' ∉ (embedder dimension).descriptor.toList := by
  simp only [embedder, String.toList_append]
  intro member
  rcases List.mem_append.1 member with prefixed | digit
  · revert prefixed
    decide
  · exact Decimal.natText_unbroken _ digit

end Inquiry.Hashing
