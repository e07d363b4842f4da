import Inquiry.Bson.Extended

/-! Which objects stand for documents, and which for values of another kind. -/
namespace Inquiry.Extended

section Plain

variable {key : String}

theorem reserved_dollar : ∀ kind ∈ beforeCode ++ afterCode, kind.1.toList.head? = some '$' := by
  have names : ∀ name ∈ (beforeCode ++ afterCode).map Prod.fst, name.toList.head? = some '$' := by
    decide
  exact fun kind member => names kind.1 (List.mem_map_of_mem member)

/-- An object whose only key begins with no dollar is a document. -/
theorem shape_plain (plain : key.toList.head? ≠ some '$') (entry : Json) :
    shapeOf [(key, entry)] = .plain := by
  have unnamed {name : String} (dollar : name.toList.head? = some '$') :
      hasKey [(key, entry)] name = false := by
    have other : key ≠ name := by
      rintro rfl
      exact plain dollar
    simp [hasKey, other]
  have unreserved {kinds : List Reserved} (listed : kinds ⊆ beforeCode ++ afterCode) :
      reserved? kinds [(key, entry)] = none := by
    refine List.find?_eq_none.2 fun kind member => ?_
    rw [unnamed (reserved_dollar kind (listed member))]
    exact Bool.false_ne_true
  rw [shapeOf, unreserved (List.subset_append_left _ _),
    unreserved (List.subset_append_right _ _), unnamed rfl]
  rfl

end Plain

section Special

variable {fields : Document} {entries : List (String × Json)}

theorem bind_never {α β : Type} {attempt : Option α} {f : α → Option β} {result : β}
    (never : ∀ found, f found ≠ some result) : attempt.bind f ≠ some result := by
  intro bound
  obtain ⟨found, _, made⟩ := Option.bind_eq_some_iff.1 bound
  exact never found made

theorem map_never {α β : Type} {attempt : Option α} {f : α → β} {result : β}
    (never : ∀ found, f found ≠ result) : attempt.map f ≠ some result := by
  intro mapped
  obtain ⟨found, _, made⟩ := Option.map_eq_some_iff.1 mapped
  exact never found made

theorem unitKey_special (name : String) {value : Value} (other : value ≠ .document fields) :
    unitKey? name value entries ≠ some (.document fields) := by
  refine bind_never fun body => ?_
  split
  · simpa using other
  · simp

/-- What a reserved key makes of an object is no document. -/
theorem reserved_special : ∀ kind ∈ beforeCode ++ afterCode, kind.2 entries ≠ some (.document fields) := by
  simp only [beforeCode, afterCode, List.cons_append, List.nil_append, List.forall_mem_cons]
  refine ⟨?oid, ?symbol, ?regex, ?int, ?long, ?double, ?decimal, ?binary, ?uuid, ?timestamp, ?date,
    ?minKey, ?maxKey, ?pointer, ?undefined, by simp⟩
  case oid | symbol | long => exact map_never (by simp)
  case int => exact bind_never fun digits => map_never (by simp)
  case double => exact bind_never fun digits => map_never (by simp)
  case decimal => exact bind_never fun digits => map_never (by simp)
  case regex => exact bind_never fun body => by split <;> simp
  case binary =>
    refine bind_never fun body => ?_
    split
    · exact bind_never fun bytes => bind_never fun kinds => by split <;> simp
    · simp
  case uuid => exact bind_never fun text => bind_never fun bytes => by split <;> simp
  case timestamp =>
    refine bind_never fun body => ?_
    split
    · exact bind_never fun seconds => bind_never fun increment => by simp [pure]
    · simp
  case date =>
    refine bind_never fun body => ?_
    split
    · exact map_never (by simp)
    · exact map_never (by simp)
    · exact map_never (by simp)
  case minKey => exact unitKey_special "$minKey" (by simp)
  case maxKey => exact unitKey_special "$maxKey" (by simp)
  case pointer =>
    refine bind_never fun body => ?_
    split
    · exact map_never (by simp)
    · simp
  case undefined => exact bind_never fun body => by split <;> simp

theorem code_special (scope : Option Document) : code? entries scope ≠ some (.document fields) := by
  unfold code?
  split
  · simp
  · simp
  · exact map_never (by simp)
  · simp

end Special

section Empty

variable {α : Type} {entries kept : List (String × α)}

theorem put_ne_nil (key : String) (value : α) : Json.put key value kept ≠ [] := by
  cases kept with
  | nil => simp [Json.put]
  | cons entry kept =>
    rw [Json.put]
    split <;> simp

theorem mapM_nil {β : Type} {f : α → Option β} {items : List α} (mapped : items.mapM f = some []) :
    items = [] := by
  cases items with
  | nil => rfl
  | cons item items =>
    rw [List.mapM_cons] at mapped
    exact absurd mapped (bind_never fun first => bind_never fun rest => by simp [pure])

theorem foldl_put_nil
    (vanished : entries.foldl (fun kept (key, value) => Json.put key value kept) kept = []) :
    entries = [] ∧ kept = [] := by
  induction entries generalizing kept with
  | nil => exact ⟨rfl, vanished⟩
  | cons entry entries ih => exact absurd (ih vanished).2 (put_ne_nil _ _)

/-- Only the object without entries stands for the document without fields. -/
theorem value_empty {tree : Json} (read : value? tree = some (.document [])) : tree = .object [] := by
  cases tree with
  | object entries =>
    rw [value?] at read
    split at read
    next kind special =>
      have listed : kind ∈ beforeCode ++ afterCode := by
        unfold shapeOf at special
        split at special
        next found =>
          cases special
          exact List.mem_append_left _ (List.mem_of_find?_eq_some found)
        next =>
          split at special
          next => cases special
          next =>
            split at special
            next found =>
              cases special
              exact List.mem_append_right _ (List.mem_of_find?_eq_some found)
            next => cases special
      exact absurd read (reserved_special kind listed)
    next => exact absurd read (code_special _)
    next =>
      obtain ⟨document, plain, empty⟩ := Option.map_eq_some_iff.1 read
      cases empty
      have blank := (foldl_put_nil (mapM_nil plain)).1
      cases entries with
      | nil => rfl
      | cons entry entries => cases blank
  | list items =>
    rw [value?] at read
    exact absurd read (map_never (by simp))
  | number n =>
    rw [value?] at read
    cases n with
    | integer n =>
      simp only [ofNumber?, ofInteger, Option.some.injEq] at read
      split at read <;> cases read
    | _ => cases read
  | _ =>
    simp [value?] at read

end Empty

end Inquiry.Extended
