import Inquiry.Json.Record
import Inquiry.Proofs.Json.Pretty

/-! What readers of records make of values that have been written. -/
namespace Inquiry.Json

section Members

variable {entries : List (String × Json)}

theorem filter_named (distinct : (entries.map (·.1)).Nodup) {entry : String × Json}
    (member : entry ∈ entries) : entries.filter (fun other => other.1 = entry.1) = [entry] := by
  induction entries with
  | nil => cases member
  | cons head rest ih =>
    obtain ⟨fresh, distinctRest⟩ := List.nodup_cons.1 distinct
    rcases List.mem_cons.1 member with rfl | later
    · have others : rest.filter (fun other => other.1 = entry.1) = [] :=
        List.filter_eq_nil_iff.2 fun other inRest same =>
          fresh (List.mem_map.2 ⟨other, inRest, of_decide_eq_true same⟩)
      simp [others]
    · have different : head.1 ≠ entry.1 := fun same =>
        fresh (List.mem_map.2 ⟨entry, later, same.symm⟩)
      simpa [different] using ih distinctRest later

theorem members_object (distinct : (entries.map (·.1)).Nodup) {wanted : List (String × Json)}
    (inside : ∀ entry ∈ wanted, entry ∈ entries) :
    ((wanted.map (·.1)).map fun name => Member.mk name true).mapM (·.among entries) =
      some (wanted.map fun entry => some entry.2) := by
  induction wanted with
  | nil => rfl
  | cons entry rest ih =>
    have here : (Member.mk entry.1 true).among entries = some (some entry.2) := by
      simp only [Member.among]
      rw [filter_named distinct (inside entry List.mem_cons_self)]
    have later := ih fun other member => inside other (List.mem_cons_of_mem _ member)
    simp only [List.map_cons, List.mapM_cons, here, later]
    rfl

theorem mapM_some (values : List Json) : (values.map some).mapM id = some values := by
  induction values with
  | nil => rfl
  | cons value rest ih =>
    simp only [List.map_cons, List.mapM_cons, ih]
    rfl

theorem record?_object (distinct : (entries.map (·.1)).Nodup) :
    record? (entries.map (·.1)) (.object entries) = some (entries.map (·.2)) := by
  have all := members_object distinct fun _ member => member
  have values := mapM_some (entries.map (·.2))
  rw [List.map_map] at values
  simp only [record?, members?, all, Option.bind_some]
  exact values

end Members

section Reading

variable {α : Type} {depth : Nat} {item? : Json → Option α}

/-- From the text of a value, which is nested within a depth, `x` is read if it can be written. -/
def ReadsBack (depth : Nat) (item? : Json → Option α) (written : Json) (x : α) (writable : Prop) :
    Prop :=
  ∃ meant, WrittenAs written meant ∧ meant.depth ≤ depth ∧
    (writable → item? meant = some x) ∧ (¬ writable → item? meant = none)

theorem ReadsBack.text (s : String) : ReadsBack 0 text? (.text s) s True :=
  ⟨.text s, .text s, Nat.le_refl 0, fun _ => rfl, fun never => absurd trivial never⟩

theorem ReadsBack.count {n : Nat} (bound : n < UInt64.size) :
    ReadsBack 0 count? (.number (.integer n)) n True :=
  ⟨_, .integer bound, Nat.le_refl 0, fun _ => rfl, fun never => absurd trivial never⟩

theorem depthOfItems_le {items : List Json} (each : ∀ item ∈ items, item.depth ≤ depth) :
    depthOfItems items ≤ depth := by
  induction items with
  | nil => exact Nat.zero_le _
  | cons item rest ih =>
    obtain ⟨here, later⟩ := List.forall_mem_cons.1 each
    exact Nat.max_le.2 ⟨here, ih later⟩

theorem depthOfEntries_le {entries : List (String × Json)}
    (each : ∀ entry ∈ entries, entry.2.depth ≤ depth) : depthOfEntries entries ≤ depth := by
  induction entries with
  | nil => exact Nat.zero_le _
  | cons entry rest ih =>
    obtain ⟨here, later⟩ := List.forall_mem_cons.1 each
    exact Nat.max_le.2 ⟨here, ih later⟩

/-- What is read of each item is read of all in a row. -/
theorem readsBack_each {β γ δ : Type} {json : β → γ} {Written : γ → δ → Prop} {Fits : δ → Prop}
    {item? : δ → Option β} {Writable : β → Prop} {xs : List β}
    (each : ∀ x ∈ xs, ∃ meant, Written (json x) meant ∧ Fits meant ∧
      (Writable x → item? meant = some x) ∧ (¬ Writable x → item? meant = none)) :
    ∃ meants, List.Forall₂ Written (xs.map json) meants ∧ (∀ meant ∈ meants, Fits meant) ∧
      ((∀ x ∈ xs, Writable x) → meants.mapM item? = some xs) ∧
      (¬ (∀ x ∈ xs, Writable x) → meants.mapM item? = none) := by
  induction xs with
  | nil => exact ⟨[], .nil, nofun, fun _ => rfl, fun never => absurd nofun never⟩
  | cons x rest ih =>
    obtain ⟨here, later⟩ := List.forall_mem_cons.1 each
    obtain ⟨meant, written, fits, same, lost⟩ := here
    obtain ⟨meants, all, fitsRest, sameRest, lostRest⟩ := ih later
    refine ⟨meant :: meants, .cons written all, List.forall_mem_cons.2 ⟨fits, fitsRest⟩, ?_, ?_⟩
    · intro writable
      obtain ⟨first, others⟩ := List.forall_mem_cons.1 writable
      simp [List.mapM_cons, same first, sameRest others]
    · intro never
      by_cases first : Writable x
      · have others : ¬ ∀ x ∈ rest, Writable x := fun others =>
          never (List.forall_mem_cons.2 ⟨first, others⟩)
        simp [List.mapM_cons, lostRest others]
      · simp [List.mapM_cons, lost first]

theorem ReadsBack.list {json : α → Json} {Writable : α → Prop} {xs : List α}
    (each : ∀ x ∈ xs, ReadsBack depth item? (json x) x (Writable x)) :
    ReadsBack (depth + 1) (listOf? item?) (.list (xs.map json)) xs (∀ x ∈ xs, Writable x) := by
  obtain ⟨meants, written, shallow, back⟩ := readsBack_each each
  exact ⟨.list meants, .list written, Nat.succ_le_succ (depthOfItems_le shallow), back⟩

theorem ReadsBack.parse {written : Json} {x : α} {writable : Prop}
    (back : ReadsBack depth item? written x writable) (shallow : depth ≤ maxDepth) :
    (writable → (parse? (written.pretty 0).toList).bind item? = some x) ∧
      (¬ writable → (parse? (written.pretty 0).toList).bind item? = none) := by
  obtain ⟨meant, isWritten, nested, back⟩ := back
  rw [isWritten.parse (Nat.le_trans nested shallow)]
  exact back

end Reading

end Inquiry.Json
