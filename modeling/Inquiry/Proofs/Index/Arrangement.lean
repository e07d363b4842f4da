import Inquiry.Proofs.Index.Separation

/-!
A fingerprint does not tell in which order a schema lists its collections, nor in which order these
list their fields, nor what is counted and described live.
-/
namespace Inquiry

structure Collection.SameFields (live other : Collection) : Prop where
  name : live.name = other.name
  fields : live.fields.Perm other.fields

/-- Collections in another order, each with its fields in another order and with new counts,
descriptions and indexes. -/
def Schema.Rearranged (first second : List Collection) : Prop :=
  ∃ middle, first.Perm middle ∧ List.Forall₂ Collection.SameFields middle second

namespace Fingerprint

variable {first middle second : List Collection}

theorem group_congr {live other : Collection} (same : live.SameFields other) :
    group live = group other := Prod.ext same.name (pairs_perm same.fields)

theorem groups_congr (same : List.Forall₂ Collection.SameFields middle second) :
    middle.map group = second.map group := by
  induction same with
  | nil => rfl
  | cons head _ ih => rw [List.map_cons, List.map_cons, group_congr head, ih]

theorem groups_listed (schema : List Collection) : (groups schema).Perm (schema.map group) :=
  (List.mergeSort_perm _ _).map group

theorem groups_rearranged (distinct : (second.map (·.name)).Nodup)
    (rearranged : Schema.Rearranged first second) : groups first = groups second := by
  obtain ⟨middle, order, same⟩ := rearranged
  apply groups_perm distinct
  have listed : (groups first).Perm (middle.map group) :=
    (groups_listed first).trans (order.map group)
  rw [groups_congr same] at listed
  exact listed.trans (groups_listed second).symm

theorem names_rearranged (rearranged : Schema.Rearranged first second) :
    (first.map (·.name)).Perm (second.map (·.name)) := by
  obtain ⟨middle, order, same⟩ := rearranged
  have names := congrArg (List.map (·.1)) (groups_congr same)
  rw [List.map_map, List.map_map] at names
  exact names ▸ order.map (·.name)

theorem ofSchema_rearranged (descriptor : String) (distinct : (first.map (·.name)).Nodup)
    (rearranged : Schema.Rearranged first second) :
    ofSchema descriptor first = ofSchema descriptor second := by
  have distinctToo := (names_rearranged rearranged).nodup_iff.1 distinct
  rw [ofSchema, ofSchema, shape_rows, shape_rows, groups_rearranged distinctToo rearranged]

/-- Names that begin each other, and a name that holds the mark between name and kind. -/
def ledger (fields : List Field) (count : Nat) : List Collection :=
  [Schema.collection "order" fields count ["_id_"],
    Schema.collection "order:lines" [⟨"a", "b:c"⟩, ⟨"a:b", "c"⟩] 3 ["_id_", "a_1"]]

theorem ofSchema_rearranged_ledger :
    ((ledger [⟨"at", "date"⟩, ⟨"at:utc", "date"⟩] 7).map (·.name)).Nodup ∧
      Schema.Rearranged (ledger [⟨"at", "date"⟩, ⟨"at:utc", "date"⟩] 7)
        (ledger [⟨"at:utc", "date"⟩, ⟨"at", "date"⟩] 9).reverse ∧
      ofSchema "hash:fnv1a:2" (ledger [⟨"at", "date"⟩, ⟨"at:utc", "date"⟩] 7) =
        ofSchema "hash:fnv1a:2" (ledger [⟨"at:utc", "date"⟩, ⟨"at", "date"⟩] 9).reverse := by
  have distinct : ((ledger [⟨"at", "date"⟩, ⟨"at:utc", "date"⟩] 7).map (·.name)).Nodup := by
    change ["order", "order:lines"].Nodup
    decide
  have rearranged : Schema.Rearranged (ledger [⟨"at", "date"⟩, ⟨"at:utc", "date"⟩] 7)
      (ledger [⟨"at:utc", "date"⟩, ⟨"at", "date"⟩] 9).reverse := by
    refine ⟨(ledger [⟨"at", "date"⟩, ⟨"at:utc", "date"⟩] 7).reverse, (List.reverse_perm _).symm, ?_⟩
    refine .cons ⟨rfl, .refl _⟩ (.cons ⟨rfl, ?_⟩ .nil)
    exact .swap _ _ _
  exact ⟨distinct, rearranged, ofSchema_rearranged "hash:fnv1a:2" distinct rearranged⟩

end Fingerprint
end Inquiry
