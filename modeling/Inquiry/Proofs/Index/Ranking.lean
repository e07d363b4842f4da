import Inquiry.Proofs.Catalog
import Inquiry.Proofs.Embedding.Cosine
import Inquiry.Proofs.Index.Score

/-!
A ranking has the names whose vectors are nearest to a question, best first, and as many of them as
asked for. This holds whatever numbers the vectors are made of, since every score is finite.
-/
namespace Inquiry.Index

/-- The better score, or the lesser name under one score. -/
def Scored.Precedes (first second : Scored) : Prop :=
  Score.Exceeds first.score second.score ∨
    first.score = second.score ∧ first.name < second.name

structure IsNearest (question : Vector32) (vectors : List (String × Vector32)) (limit : Nat)
    (found : List Scored) : Prop where
  length : found.length = min limit vectors.length
  distinct : (found.map (·.name)).Nodup
  scores : ∀ item ∈ found, item.score.isFinite = true ∧
    ∃ vector, (item.name, vector) ∈ vectors ∧ question.IsCosine vector item.score
  sorted : found.Pairwise Scored.Precedes
  omitted : ∀ named ∈ vectors, named.1 ∉ found.map (·.name) →
    ∃ score, question.IsCosine named.2 score ∧ ∀ item ∈ found, item.Precedes ⟨named.1, score⟩

theorem precedes_iff {first second : Scored} : precedes first second = true ↔
    rank second.score < rank first.score ∨
      rank first.score = rank second.score ∧ first.name ≤ second.name := by
  simp only [precedes, Bool.or_eq_true, Bool.and_eq_true, decide_eq_true_eq]

theorem precedes_trans (first second third : Scored) (before : precedes first second = true)
    (after : precedes second third = true) : precedes first third = true := by
  rw [precedes_iff] at *
  rcases before with less | ⟨same, name⟩
  · exact .inl (by omega)
  · rcases after with less | ⟨sameToo, nameToo⟩
    · exact .inl (by omega)
    · exact .inr ⟨same.trans sameToo, String.le_trans name nameToo⟩

theorem precedes_total (first second : Scored) :
    (precedes first second || precedes second first) = true := by
  rw [Bool.or_eq_true, precedes_iff, precedes_iff]
  rcases Int.lt_trichotomy (rank first.score) (rank second.score) with less | same | greater
  · exact .inr (.inl less)
  · rcases String.le_total first.name second.name with name | name
    · exact .inl (.inr ⟨same, name⟩)
    · exact .inr (.inr ⟨same.symm, name⟩)
  · exact .inl (.inl greater)

theorem precedes_antisymm {first second : Scored} (before : precedes first second = true)
    (after : precedes second first = true) : first = second := by
  rw [precedes_iff] at before after
  rcases before with less | ⟨same, name⟩
  · omega
  · rcases after with less | ⟨-, nameToo⟩
    · omega
    · exact congrArg₂ Scored.mk (String.le_antisymm name nameToo) (Score.rank_inj same)

/-- Under different names, the order of the sort is the strict order of finite scores. -/
theorem precedes_strict {first second : Scored} (finite : first.score.isFinite = true)
    (finiteToo : second.score.isFinite = true) (apart : first.name ≠ second.name)
    (before : precedes first second = true) : first.Precedes second := by
  rcases precedes_iff.1 before with less | ⟨same, name⟩
  · exact .inl ((Score.exceeds_iff finite finiteToo).2 less)
  · have strict : first.name < second.name :=
      String.not_le.1 fun back => apart (String.le_antisymm name back)
    exact .inr ⟨Score.rank_inj same, strict⟩

section Nearest

variable {question : Vector32} {vectors : List (String × Vector32)}

def ranked (question : Vector32) (vectors : List (String × Vector32)) : List Scored :=
  (vectors.map fun (name, vector) => ⟨name, question.cosine vector⟩).mergeSort precedes

theorem nearest_take (limit : Nat) :
    nearest question vectors limit = (ranked question vectors).take limit := rfl

theorem mem_ranked {item : Scored} : item ∈ ranked question vectors ↔
    ∃ vector, (item.name, vector) ∈ vectors ∧ question.IsCosine vector item.score := by
  rw [ranked, List.mem_mergeSort, List.mem_map]
  constructor
  · rintro ⟨⟨name, vector⟩, member, rfl⟩
    exact ⟨vector, member, Vector32.isCosine_iff.2 rfl⟩
  · rintro ⟨vector, member, nearness⟩
    refine ⟨(item.name, vector), member, ?_⟩
    change Scored.mk item.name (question.cosine vector) = item
    rw [← Vector32.isCosine_iff.1 nearness]

theorem ranked_finite {item : Scored} (member : item ∈ ranked question vectors) :
    item.score.isFinite = true := by
  obtain ⟨vector, -, nearness⟩ := mem_ranked.1 member
  exact nearness.finite

theorem ranked_eq {scored : List Scored}
    (listed : scored.Perm (vectors.map fun (name, vector) => ⟨name, question.cosine vector⟩))
    (ordered : scored.Pairwise fun first second => precedes first second = true) :
    ranked question vectors = scored :=
  List.Perm.eq_of_pairwise (fun _ _ _ _ => precedes_antisymm)
    (List.pairwise_mergeSort precedes_trans precedes_total _) ordered
    ((List.mergeSort_perm _ _).trans listed.symm)

theorem ranked_names (question : Vector32) (vectors : List (String × Vector32)) :
    ((ranked question vectors).map (·.name)).Perm (vectors.map (·.1)) := by
  let scored := vectors.map fun (name, vector) => Scored.mk name (question.cosine vector)
  have listed := (List.mergeSort_perm scored precedes).map (·.name)
  rwa [List.map_map] at listed

theorem ranked_distinct (question : Vector32) (distinct : (vectors.map (·.1)).Nodup) :
    ((ranked question vectors).map (·.name)).Nodup :=
  (ranked_names question vectors).nodup_iff.2 distinct

theorem ranked_sorted (question : Vector32) (distinct : (vectors.map (·.1)).Nodup) :
    (ranked question vectors).Pairwise Scored.Precedes := by
  have ordered : (ranked question vectors).Pairwise fun first second =>
      precedes first second = true :=
    List.pairwise_mergeSort precedes_trans precedes_total _
  have apart := List.pairwise_map.1 (ranked_distinct question distinct)
  refine (ordered.and apart).imp_of_mem fun member memberToo both => ?_
  exact precedes_strict (ranked_finite member) (ranked_finite memberToo) both.2 both.1

theorem nearest_isNearest (question : Vector32) (distinct : (vectors.map (·.1)).Nodup)
    (limit : Nat) : IsNearest question vectors limit (nearest question vectors limit) := by
  rw [nearest_take]
  have parts := List.take_append_drop limit (ranked question vectors)
  have sorted := ranked_sorted question distinct
  rw [← parts] at sorted
  obtain ⟨within, -, across⟩ := List.pairwise_append.1 sorted
  refine ⟨?_, ?_, fun item member => ?_, within, fun named listed absent => ?_⟩
  · have length := (ranked_names question vectors).length_eq
    rw [List.length_map, List.length_map] at length
    rw [List.length_take, length]
  · rw [List.map_take]
    exact (ranked_distinct question distinct).take
  · have ranks := List.mem_of_mem_take member
    exact ⟨ranked_finite ranks, mem_ranked.1 ranks⟩
  · have nearness : question.IsCosine named.2 (question.cosine named.2) :=
      Vector32.isCosine_iff.2 rfl
    have ranks : (⟨named.1, question.cosine named.2⟩ : Scored) ∈ ranked question vectors :=
      mem_ranked.2 ⟨named.2, listed, nearness⟩
    rw [← parts] at ranks
    refine ⟨_, nearness, fun item member => ?_⟩
    rcases List.mem_append.1 ranks with kept | left
    · exact absurd (List.mem_map_of_mem (f := (·.name)) kept) absent
    · exact across item member _ left

theorem nearest_more (question : Vector32) (vectors : List (String × Vector32)) (limit more : Nat) :
    nearest question vectors limit <+: nearest question vectors (limit + more) := by
  rw [nearest_take, nearest_take]
  exact List.take_prefix_take_left (Nat.le_add_right limit more)

end Nearest

def collectionVectors (index : Index) : List (String × Vector32) :=
  index.entries.map fun (name, entry) => (name, entry.vector)

theorem collectionVectors_distinct (index : Index) :
    (index.collectionVectors.map (·.1)).Nodup := by
  rw [collectionVectors, List.map_map]
  exact index.names_distinct

/-- A ranking of collections, or of the fields of one, has the nearest of them, and is the beginning
of every longer ranking. -/
theorem rank_nearest (index : Index) (question : Vector32) (limit more : Nat) :
    (IsNearest question index.collectionVectors limit (index.rankCollections question limit) ∧
      index.rankCollections question limit <+: index.rankCollections question (limit + more)) ∧
    ∀ name entry, index.get? name = some entry →
      IsNearest question entry.fieldVectors.entries limit (index.rankFields question name limit) ∧
        index.rankFields question name limit <+: index.rankFields question name (limit + more) := by
  refine ⟨⟨?_, ?_⟩, fun name entry found => ?_⟩
  · exact nearest_isNearest question index.collectionVectors_distinct limit
  · exact nearest_more question index.collectionVectors limit more
  · simp only [rankFields, found]
    exact ⟨nearest_isNearest question entry.fieldVectors.names_distinct limit,
      nearest_more question entry.fieldVectors.entries limit more⟩

/-- Fields with vectors of any kind, three of which cannot be compared with a pair. -/
def mixed : Entry where
  description := "Collection with 6 fields and 7 documents"
  vector := [0, 1]
  fields := ["amount", "due", "note", "price", "rate", "tax"].map fun name => ⟨name, "double"⟩
  fieldVectors :=
    .ofList [("amount", [1, 0]), ("due", [0 / 0, 1]), ("note", []), ("price", [3, 4]),
      ("rate", [1 / 0, 1]), ("tax", [-0.0, -1])]
  count := 7
  indexes := ["_id_"]

theorem mixed_ranked : ranked [1, 0] mixed.fieldVectors.entries =
    [⟨"amount", 1⟩, ⟨"price", 0.6⟩, ⟨"due", 0⟩, ⟨"note", 0⟩, ⟨"rate", 0⟩, ⟨"tax", -0.0⟩] :=
  ranked_eq (by decide +kernel) (by decide +kernel)

theorem rank_nearest_mixed :
    Catalog.get? (.insert .empty "orders" mixed) "orders" = some mixed ∧
      rankFields (.insert .empty "orders" mixed) [1, 0] "orders" 3 =
        [⟨"amount", 1⟩, ⟨"price", 0.6⟩, ⟨"due", 0⟩] ∧
      IsNearest [1, 0] mixed.fieldVectors.entries 3 [⟨"amount", 1⟩, ⟨"price", 0.6⟩, ⟨"due", 0⟩] ∧
      [⟨"amount", 1⟩, ⟨"price", 0.6⟩, ⟨"due", 0⟩] <+:
        rankFields (.insert .empty "orders" mixed) [1, 0] "orders" 5 := by
  have found : Catalog.get? (.insert .empty "orders" mixed) "orders" = some mixed := by
    rw [Catalog.get?_insert, if_pos rfl]
  have first : rankFields (.insert .empty "orders" mixed) [1, 0] "orders" 3 =
      [⟨"amount", 1⟩, ⟨"price", 0.6⟩, ⟨"due", 0⟩] := by
    simp only [rankFields, found]
    rw [nearest_take, mixed_ranked]
    rfl
  have ranks := (rank_nearest (.insert .empty "orders" mixed) [1, 0] 3 2).2 "orders" mixed found
  rw [first] at ranks
  exact ⟨found, first, ranks.1, ranks.2⟩

end Inquiry.Index
