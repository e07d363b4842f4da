import Inquiry.Gate.Operator

/-!
The query gate reports the first write operator among the keys of a query, in the order in which they
are written, and lets through what has none, however deep. It does not look into the scopes of code.
-/
namespace Inquiry

/-- The documents that stand in a value, through documents and lists at any depth. -/
inductive Value.Holds : Value → Document → Prop
  | here (fields : Document) : Holds (.document fields) fields
  | field {fields inner : Document} {name : String} {value : Value} (member : (name, value) ∈ fields)
      (inside : Holds value inner) : Holds (.document fields) inner
  | item {items : List Value} {inner : Document} {value : Value} (member : value ∈ items)
      (inside : Holds value inner) : Holds (.list items) inner

def Value.ReadOnly (value : Value) : Prop :=
  ∀ inner, value.Holds inner → ∀ field ∈ inner, field.1 ∉ Gate.writeOperators

def Document.ReadOnly (document : Document) : Prop := (Value.document document).ReadOnly

def Operation.documents : Operation → List Document
  | .find filter | .count filter => [filter]
  | .aggregate pipeline => pipeline

namespace Value

mutual

/-- The keys of all documents that stand in a value, each before the keys inside its own value. -/
def keys : Value → List String
  | .document fields => fieldKeys fields
  | .list items => itemKeys items
  | _ => []

def itemKeys : List Value → List String
  | [] => []
  | item :: rest => item.keys ++ itemKeys rest

def fieldKeys : List (String × Value) → List String
  | [] => []
  | (name, value) :: rest => name :: (value.keys ++ fieldKeys rest)

end

inductive HasScope : Value → Document → Prop
  | here (source : String) (scope : Document) : HasScope (.scopedCode source scope) scope
  | field {fields scope : Document} {name : String} {value : Value} (member : (name, value) ∈ fields)
      (inside : HasScope value scope) : HasScope (.document fields) scope
  | item {items : List Value} {scope : Document} {value : Value} (member : value ∈ items)
      (inside : HasScope value scope) : HasScope (.list items) scope

/-- The documents in a value, through documents, lists and the scopes of code at any depth. -/
inductive Encloses : Value → Document → Prop
  | here (fields : Document) : Encloses (.document fields) fields
  | field {fields inner : Document} {name : String} {value : Value} (member : (name, value) ∈ fields)
      (inside : Encloses value inner) : Encloses (.document fields) inner
  | item {items : List Value} {inner : Document} {value : Value} (member : value ∈ items)
      (inside : Encloses value inner) : Encloses (.list items) inner
  | scope {source : String} {scope inner : Document} (inside : Encloses (.document scope) inner) :
      Encloses (.scopedCode source scope) inner

end Value

def Document.HasKey (document : Document) (key : String) : Prop := ∃ value, (key, value) ∈ document

def Document.Writes (document : Document) : Prop := ∃ key ∈ Gate.writeOperators, document.HasKey key

def Operation.keys (operation : Operation) : List String :=
  operation.documents.flatMap Value.fieldKeys

namespace Value

variable {value : Value} {inner : Document} {key : String}

theorem fieldKeys_flatMap (fields : Document) :
    fieldKeys fields = fields.flatMap fun field => field.1 :: field.2.keys := by
  induction fields with
  | nil => simp [fieldKeys]
  | cons field rest ih => simp [fieldKeys, ih]

theorem itemKeys_flatMap (items : List Value) : itemKeys items = items.flatMap keys := by
  induction items with
  | nil => simp [itemKeys]
  | cons item rest ih => simp [itemKeys, ih]

theorem Holds.keys (inside : value.Holds inner) (has : inner.HasKey key) : key ∈ value.keys := by
  induction inside with
  | here fields =>
    obtain ⟨value, member⟩ := has
    rw [Value.keys, fieldKeys_flatMap]
    exact List.mem_flatMap.2 ⟨_, member, List.mem_cons_self⟩
  | field member _ ih =>
    rw [Value.keys, fieldKeys_flatMap]
    exact List.mem_flatMap.2 ⟨_, member, List.mem_cons_of_mem _ (ih has)⟩
  | item member _ ih =>
    rw [Value.keys, itemKeys_flatMap]
    exact List.mem_flatMap.2 ⟨_, member, ih has⟩

mutual

theorem key_held (value : Value) (member : key ∈ value.keys) :
    ∃ inner, value.Holds inner ∧ inner.HasKey key := by
  match value with
  | .document fields =>
    rcases fieldKey_held fields member with own | ⟨field, place, inner, inside, has⟩
    · exact ⟨fields, .here fields, own⟩
    · exact ⟨inner, .field place inside, has⟩
  | .list items =>
    obtain ⟨item, place, inner, inside, has⟩ := itemKey_held items member
    exact ⟨inner, .item place inside, has⟩
  | .double _ | .text _ | .bool _ | .null | .regex .. | .code _ | .scopedCode .. | .int _ | .long _
  | .timestamp .. | .binary .. | .objectId _ | .date _ | .symbol _ | .decimal _ | .undefined
  | .minKey | .maxKey | .pointer .. => cases member

theorem itemKey_held (items : List Value) (member : key ∈ itemKeys items) :
    ∃ item ∈ items, ∃ inner, item.Holds inner ∧ inner.HasKey key := by
  match items with
  | [] => cases member
  | item :: rest =>
    rcases List.mem_append.1 member with here | there
    · exact ⟨item, List.mem_cons_self, key_held item here⟩
    · obtain ⟨other, place, held⟩ := itemKey_held rest there
      exact ⟨other, List.mem_cons_of_mem _ place, held⟩

theorem fieldKey_held (fields : List (String × Value)) (member : key ∈ fieldKeys fields) :
    Document.HasKey fields key ∨
      ∃ field ∈ fields, ∃ inner, field.2.Holds inner ∧ inner.HasKey key := by
  match fields with
  | [] => cases member
  | (name, value) :: rest =>
    rcases List.mem_cons.1 member with rfl | below
    · exact .inl ⟨value, List.mem_cons_self⟩
    rcases List.mem_append.1 below with here | there
    · exact .inr ⟨_, List.mem_cons_self, key_held value here⟩
    rcases fieldKey_held rest there with ⟨other, place⟩ | ⟨field, place, held⟩
    · exact .inl ⟨other, List.mem_cons_of_mem _ place⟩
    · exact .inr ⟨field, List.mem_cons_of_mem _ place, held⟩

end

theorem mem_keys : key ∈ value.keys ↔ ∃ inner, value.Holds inner ∧ inner.HasKey key :=
  ⟨key_held value, fun ⟨_, inside, has⟩ => inside.keys has⟩

theorem readOnly_keys : value.ReadOnly ↔ ∀ key ∈ value.keys, key ∉ Gate.writeOperators := by
  constructor
  · intro harmless key member
    obtain ⟨inner, inside, value, place⟩ := mem_keys.1 member
    exact harmless inner inside (key, value) place
  · intro harmless inner inside field member
    exact harmless field.1 (inside.keys ⟨field.2, member⟩)

theorem readOnly_holds : value.ReadOnly ↔ ∀ inner, value.Holds inner → ¬ inner.Writes := by
  constructor
  · rintro harmless inner inside ⟨key, written, value, member⟩
    exact harmless inner inside (key, value) member written
  · intro harmless inner inside field member written
    exact harmless inner inside ⟨field.1, written, field.2, member⟩

/-- What does not stand outside the scopes of code stands in one of them. -/
theorem Encloses.cases_scope (inside : value.Encloses inner) :
    value.Holds inner ∨ ∃ fields, value.HasScope fields ∧ (Value.document fields).Encloses inner := by
  induction inside with
  | here fields => exact .inl (.here fields)
  | field member _ ih =>
    exact ih.imp (.field member) fun ⟨fields, has, inside⟩ => ⟨fields, .field member has, inside⟩
  | item member _ ih =>
    exact ih.imp (.item member) fun ⟨fields, has, inside⟩ => ⟨fields, .item member has, inside⟩
  | scope inside _ => exact .inr ⟨_, .here _ _, inside⟩

end Value

namespace Gate

def firstOperator (keys : List String) : Option Blocked :=
  (keys.find? writeOperators.contains).map Blocked.mk

section First

variable {front back keys : List String} {blocked : Blocked}

theorem firstOperator_append :
    firstOperator (front ++ back) = (firstOperator front).or (firstOperator back) := by
  rw [firstOperator, List.find?_append, Option.map_or]
  rfl

theorem firstOperator_some : firstOperator keys = some blocked ↔ ∃ before after,
    keys = before ++ blocked.pattern :: after ∧ blocked.pattern ∈ writeOperators ∧
      ∀ key ∈ before, key ∉ writeOperators := by
  have named : firstOperator keys = some blocked ↔
      keys.find? writeOperators.contains = some blocked.pattern := by
    rw [firstOperator, Option.map_eq_some_iff]
    exact ⟨fun ⟨_, found, same⟩ => same ▸ found, fun found => ⟨_, found, rfl⟩⟩
  rw [named, List.find?_eq_some_iff_append]
  simp only [List.contains_iff_mem, Bool.not_eq_true', Bool.eq_false_iff, ne_eq]
  constructor
  · rintro ⟨written, before, after, shape, clear⟩
    exact ⟨before, after, shape, written, clear⟩
  · rintro ⟨before, after, shape, written, clear⟩
    exact ⟨written, before, after, shape, clear⟩

theorem firstOperator_none : firstOperator keys = none ↔ ∀ key ∈ keys, key ∉ writeOperators := by
  simp [firstOperator]

end First

mutual

theorem screenValue_first (value : Value) : screenValue value = firstOperator value.keys := by
  match value with
  | .document fields => exact screenFields_first fields
  | .list items => exact screenItems_first items
  | .double _ | .text _ | .bool _ | .null | .regex .. | .code _ | .scopedCode .. | .int _ | .long _
  | .timestamp .. | .binary .. | .objectId _ | .date _ | .symbol _ | .decimal _ | .undefined
  | .minKey | .maxKey | .pointer .. => rfl

theorem screenItems_first (items : List Value) :
    screenItems items = firstOperator (Value.itemKeys items) := by
  match items with
  | [] => rfl
  | item :: rest =>
    rw [screenItems, screenValue_first item, screenItems_first rest, Value.itemKeys,
      firstOperator_append]

theorem screenFields_first (fields : List (String × Value)) :
    screenFields fields = firstOperator (Value.fieldKeys fields) := by
  match fields with
  | [] => rfl
  | (name, value) :: rest =>
    rw [screenFields, screenValue_first value, screenFields_first rest, Value.fieldKeys,
      ← firstOperator_append]
    split
    next written => rw [firstOperator, List.find?_cons_of_pos written]; rfl
    next harmless => rw [firstOperator, firstOperator, List.find?_cons_of_neg harmless]

end

theorem screenQuery_keys (query : Query) : screenQuery query = firstOperator query.operation.keys := by
  have stages (pipeline : List Document) :
      pipeline.findSome? screenDocument = firstOperator (pipeline.flatMap Value.fieldKeys) := by
    induction pipeline with
    | nil => rfl
    | cons stage rest ih =>
      rw [List.flatMap_cons, firstOperator_append, ← ih, List.findSome?_cons, screenDocument,
        screenFields_first]
      cases firstOperator (Value.fieldKeys stage) <;> rfl
  rw [screenQuery, Operation.keys]
  cases query.operation with
  | find filter | count filter =>
    rw [screenOperation, screenDocument, screenFields_first, Operation.documents, List.flatMap_singleton]
  | aggregate pipeline => exact stages pipeline

theorem screenDocument_none {document : Document} :
    screenDocument document = none ↔ document.ReadOnly := by
  rw [screenDocument, screenFields_first, firstOperator_none, Document.ReadOnly, Value.readOnly_keys,
    Value.keys]

/-- The query gate lets through exactly the queries without write operators. -/
theorem screenQuery_none {query : Query} :
    screenQuery query = none ↔ ∀ document ∈ query.operation.documents, document.ReadOnly := by
  simp only [screenQuery_keys, Operation.keys, firstOperator_none, List.mem_flatMap,
    Document.ReadOnly, Value.readOnly_keys, Value.keys]
  exact ⟨fun unused document stands key member => unused key ⟨document, stands, member⟩,
    fun unused key ⟨document, stands, member⟩ => unused document stands key member⟩

/-- A query is refused exactly when a document outside the scopes of code has a write operator as a
key, and for the first such key. A query that passes can have them in the scopes of code only. -/
theorem screenQuery_first (query : Query) :
    (screenQuery query ≠ none ↔ ∃ document ∈ query.operation.documents, ∃ inner,
      (Value.document document).Holds inner ∧ inner.Writes) ∧
    (∀ blocked, screenQuery query = some blocked ↔ ∃ before after,
      query.operation.keys = before ++ blocked.pattern :: after ∧
        blocked.pattern ∈ writeOperators ∧ ∀ key ∈ before, key ∉ writeOperators) ∧
    (screenQuery query = none → ∀ document ∈ query.operation.documents, ∀ inner,
      (Value.document document).Encloses inner → inner.Writes →
        ∃ scope, (Value.document document).HasScope scope ∧ (Value.document scope).Encloses inner) := by
  refine ⟨?_, fun blocked => ?_, fun passed document stands inner inside writes => ?_⟩
  · simp only [ne_eq, screenQuery_none, Document.ReadOnly, Value.readOnly_holds,
      Classical.not_forall, Classical.not_not, exists_prop]
  · rw [screenQuery_keys, firstOperator_some]
  · refine inside.cases_scope.resolve_left fun held => ?_
    exact Value.readOnly_holds.1 (screenQuery_none.1 passed document stands) inner held writes

def scopedQuery : Query := ⟨"orders", .find [("total", .scopedCode "total()" [("$set", .int 1)])]⟩

theorem screenQuery_scoped : screenQuery scopedQuery = none ∧
    ∃ document ∈ scopedQuery.operation.documents, ∃ inner,
      (Value.document document).Encloses inner ∧ inner.Writes :=
  ⟨rfl, _, List.mem_singleton_self _, [("$set", .int 1)],
    .field List.mem_cons_self (.scope (.here _)), "$set", by decide, .int 1, List.mem_cons_self⟩

end Gate

end Inquiry
