import Inquiry.Index.Basic
import Inquiry.Proofs.Attempt
import Inquiry.Proofs.Catalog

/-!
The vectors of an index are those of its own texts, whether it has just been built or has been
brought up to date, and what it knows of a live collection is what is live. Where every text has a
vector, neither can fail.
-/
namespace Inquiry

/-- Distinct names of collections, distinct names of fields in each, and counts of 64 bits. -/
structure Schema.IsSound (schema : List Collection) : Prop where
  names : (schema.map (·.name)).Nodup
  fields : ∀ live ∈ schema, (live.fields.map (·.name)).Nodup
  counts : ∀ live ∈ schema, live.count < UInt64.size

namespace Catalog

section Gathering

variable {α β ε : Type} {name : β → String} {value : β → Except ε α} {known all : Catalog α}
  {items : List β}

def gather (name : β → String) (value : β → Except ε α) (known : Catalog α) :
    List β → Except ε (Catalog α)
  | [] => .ok known
  | item :: rest => do
    let made ← value item
    gather name value (known.insert (name item) made) rest

theorem gather_other {other : String} (run : gather name value known items = .ok all)
    (absent : other ∉ items.map name) : all.get? other = known.get? other := by
  induction items generalizing known with
  | nil => cases run; rfl
  | cons item rest ih =>
    obtain ⟨different, absentRest⟩ := not_or.1 (List.mem_cons.not.1 absent)
    obtain ⟨made, -, run⟩ := bind_ok run
    rw [ih run absentRest, get?_insert, if_neg (Ne.symm different)]

theorem gather_item (run : gather name value known items = .ok all)
    (distinct : (items.map name).Nodup) {item : β} (member : item ∈ items) :
    ∃ made, value item = .ok made ∧ all.get? (name item) = some made := by
  induction items generalizing known with
  | nil => cases member
  | cons first rest ih =>
    obtain ⟨fresh, distinctRest⟩ := List.nodup_cons.1 distinct
    obtain ⟨made, isMade, run⟩ := bind_ok run
    rcases List.mem_cons.1 member with rfl | later
    · exact ⟨made, isMade, by rw [gather_other run fresh, get?_insert, if_pos rfl]⟩
    · exact ih run distinctRest later

theorem gather_total (total : ∀ item ∈ items, ∃ made, value item = .ok made) :
    ∃ all, gather name value known items = .ok all := by
  induction items generalizing known with
  | nil => exact ⟨known, rfl⟩
  | cons item rest ih =>
    obtain ⟨⟨made, here⟩, later⟩ := List.forall_mem_cons.1 total
    simp only [gather, here]
    exact ih later

end Gathering

end Catalog

namespace Index

variable {embedder : Embedder} {index next : Index} {schema : List Collection} {changes : Nat}

theorem embedFields_gather (known : Catalog Vector32) (fields : List Field) :
    embedFields embedder known fields =
      known.gather (·.name) (fun field => embedder.embed (fieldText field)) fields := by
  induction fields generalizing known with
  | nil => rfl
  | cons field rest ih => simp only [embedFields, Catalog.gather, ih]

theorem extend_gather (known : Index) (schema : List Collection) :
    extend embedder known schema = known.gather (·.name) (entryOf embedder) schema := by
  induction schema generalizing known with
  | nil => rfl
  | cons live rest ih => simp only [extend, Catalog.gather, ih]

structure Entry.IsCoherent (embedder : Embedder) (name : String) (entry : Entry) : Prop where
  vector : embedder.embed (name ++ ": " ++ entry.description) = .ok entry.vector
  covers : ∀ field ∈ entry.fields, ∃ vector,
    embedder.embed (field.name ++ ": " ++ field.kind) = .ok vector ∧
      entry.fieldVectors.get? field.name = some vector
  only : ∀ name vector, entry.fieldVectors.get? name = some vector →
    ∃ field ∈ entry.fields, field.name = name

def IsCoherent (embedder : Embedder) (index : Index) : Prop :=
  ∀ name entry, index.get? name = some entry → entry.IsCoherent embedder name

structure Entry.IsCurrent (live : Collection) (entry : Entry) : Prop where
  count : entry.count = live.count
  indexes : entry.indexes = live.indexes
  description : entry.description = live.description

def IsCurrent (schema : List Collection) (index : Index) : Prop :=
  ∀ live ∈ schema, ∀ entry, index.get? live.name = some entry → entry.IsCurrent live

section Entries

variable {live : Collection} {entry fresh : Entry}

theorem entryOf_coherent (made : entryOf embedder live = .ok entry)
    (distinct : (live.fields.map (·.name)).Nodup) : entry.IsCoherent embedder live.name := by
  obtain ⟨vector, collection, made⟩ := bind_ok made
  obtain ⟨fieldVectors, fields, made⟩ := bind_ok made
  cases made
  rw [embedFields_gather] at fields
  refine ⟨collection, fun field member => Catalog.gather_item fields distinct member, ?_⟩
  intro name vector found
  by_cases listed : name ∈ live.fields.map (·.name)
  · exact List.mem_map.1 listed
  · rw [Catalog.gather_other fields listed] at found
    cases found

theorem entryOf_current (made : entryOf embedder live = .ok entry) :
    entry.IsCurrent live ∧ entry.fields = live.fields := by
  obtain ⟨vector, -, made⟩ := bind_ok made
  obtain ⟨fieldVectors, -, made⟩ := bind_ok made
  cases made
  exact ⟨⟨rfl, rfl, rfl⟩, rfl⟩

/-- What becomes of an entry: all but its fields is live, and its vector is the old one only for the
old text. -/
theorem refreshed_ok (run : refreshed embedder live entry = .ok fresh) :
    ∃ vector, fresh = { entry with
        count := live.count, indexes := live.indexes, description := live.description, vector } ∧
      (entry.description = live.description ∧ vector = entry.vector ∨
        embedder.embed (collectionText live.name live.description) = .ok vector) := by
  unfold refreshed at run
  dsimp only at run
  split at run
  next same =>
    cases run
    exact ⟨entry.vector, by rw [← same], .inl ⟨same, rfl⟩⟩
  next =>
    obtain ⟨vector, embedded, run⟩ := bind_ok run
    cases run
    exact ⟨vector, rfl, .inr embedded⟩

theorem refreshed_current (run : refreshed embedder live entry = .ok fresh) :
    fresh.IsCurrent live ∧ fresh.fields = entry.fields := by
  obtain ⟨vector, rfl, -⟩ := refreshed_ok run
  exact ⟨⟨rfl, rfl, rfl⟩, rfl⟩

theorem refreshed_coherent (run : refreshed embedder live entry = .ok fresh)
    (coherent : entry.IsCoherent embedder live.name) : fresh.IsCoherent embedder live.name := by
  obtain ⟨vector, rfl, ⟨same, rfl⟩ | embedded⟩ := refreshed_ok run
  · exact ⟨same ▸ coherent.vector, coherent.covers, coherent.only⟩
  · exact ⟨embedded, coherent.covers, coherent.only⟩

end Entries

theorem build_item (built : build embedder schema = .ok index) (sound : Schema.IsSound schema)
    {live : Collection} (member : live ∈ schema) :
    ∃ entry, entryOf embedder live = .ok entry ∧ index.get? live.name = some entry := by
  rw [build, extend_gather] at built
  exact Catalog.gather_item built sound.names member

/-- Where an entry of a new index comes from. -/
theorem build_source (built : build embedder schema = .ok index) (sound : Schema.IsSound schema)
    {name : String} {entry : Entry} (found : index.get? name = some entry) :
    ∃ live ∈ schema, live.name = name ∧ entryOf embedder live = .ok entry := by
  by_cases listed : name ∈ schema.map (·.name)
  · obtain ⟨live, member, rfl⟩ := List.mem_map.1 listed
    obtain ⟨made, isMade, there⟩ := build_item built sound member
    cases there.symm.trans found
    exact ⟨live, member, rfl, isMade⟩
  · rw [build, extend_gather] at built
    rw [Catalog.gather_other built listed] at found
    cases found

theorem build_coherent (built : build embedder schema = .ok index)
    (sound : Schema.IsSound schema) : index.IsCoherent embedder := by
  intro name entry found
  obtain ⟨live, member, rfl, made⟩ := build_source built sound found
  exact entryOf_coherent made (sound.fields live member)

theorem build_current (built : build embedder schema = .ok index)
    (sound : Schema.IsSound schema) : index.IsCurrent schema := by
  intro live member entry found
  obtain ⟨made, isMade, there⟩ := build_item built sound member
  cases there.symm.trans found
  exact (entryOf_current isMade).1

/-- One step of a refresh, when it has an entry to refresh. -/
theorem refresh_cons {live : Collection} {rest : List Collection}
    (run : refresh embedder index (live :: rest) = .ok (changes, next)) :
    (index.get? live.name = none ∧ refresh embedder index rest = .ok (changes, next)) ∨
      ∃ entry fresh fewer, index.get? live.name = some entry ∧
        refreshed embedder live entry = .ok fresh ∧
        refresh embedder (index.insert live.name fresh) rest = .ok (fewer, next) := by
  rw [refresh] at run
  split at run
  next absent => exact .inl ⟨absent, run⟩
  next entry found =>
    obtain ⟨fresh, isFresh, run⟩ := bind_ok run
    obtain ⟨⟨fewer, last⟩, more, run⟩ := bind_ok run
    cases run
    exact .inr ⟨entry, fresh, fewer, found, isFresh, more⟩

theorem refresh_other (run : refresh embedder index schema = .ok (changes, next)) {name : String}
    (absent : name ∉ schema.map (·.name)) : next.get? name = index.get? name := by
  induction schema generalizing index changes with
  | nil => cases run; rfl
  | cons live rest ih =>
    obtain ⟨different, absentRest⟩ := not_or.1 (List.mem_cons.not.1 absent)
    rcases refresh_cons run with ⟨-, run⟩ | ⟨entry, fresh, fewer, -, -, run⟩
    · exact ih run absentRest
    · rw [ih run absentRest, Catalog.get?_insert, if_neg (Ne.symm different)]

/-- A live collection is refreshed if it is there, and does not come to be there otherwise. -/
theorem refresh_item (run : refresh embedder index schema = .ok (changes, next))
    (distinct : (schema.map (·.name)).Nodup) {live : Collection} (member : live ∈ schema) :
    (index.get? live.name = none ∧ next.get? live.name = none) ∨
      ∃ entry fresh, index.get? live.name = some entry ∧ refreshed embedder live entry = .ok fresh ∧
        next.get? live.name = some fresh := by
  induction schema generalizing index changes with
  | nil => cases member
  | cons first rest ih =>
    obtain ⟨unique, distinctRest⟩ := List.nodup_cons.1 distinct
    rcases refresh_cons run with ⟨absent, more⟩ | ⟨entry, fresh, fewer, found, isFresh, more⟩
    · rcases List.mem_cons.1 member with rfl | later
      · exact .inl ⟨absent, (refresh_other more unique).trans absent⟩
      · exact ih more distinctRest later
    · rcases List.mem_cons.1 member with rfl | later
      · refine .inr ⟨entry, fresh, found, isFresh, ?_⟩
        rw [refresh_other more unique, Catalog.get?_insert, if_pos rfl]
      · have different : first.name ≠ live.name := fun same =>
          unique (List.mem_map.2 ⟨live, later, same.symm⟩)
        have step := ih more distinctRest later
        simp only [Catalog.get?_insert, if_neg different] at step
        exact step

/-- Where an entry of a refreshed index comes from. -/
theorem refresh_source (run : refresh embedder index schema = .ok (changes, next))
    (sound : Schema.IsSound schema) {name : String} {entry : Entry}
    (found : next.get? name = some entry) :
    index.get? name = some entry ∨ ∃ live ∈ schema, live.name = name ∧
      ∃ old, index.get? name = some old ∧ refreshed embedder live old = .ok entry := by
  by_cases listed : name ∈ schema.map (·.name)
  · obtain ⟨live, member, rfl⟩ := List.mem_map.1 listed
    rcases refresh_item run sound.names member with ⟨-, absent⟩ | ⟨old, fresh, there, isFresh, now⟩
    · rw [absent] at found
      cases found
    · cases now.symm.trans found
      exact .inr ⟨live, member, rfl, old, there, isFresh⟩
  · rw [refresh_other run listed] at found
    exact .inl found

theorem refresh_coherent (run : refresh embedder index schema = .ok (changes, next))
    (sound : Schema.IsSound schema) (coherent : index.IsCoherent embedder) :
    next.IsCoherent embedder := by
  intro name entry found
  rcases refresh_source run sound found with there | ⟨live, -, rfl, old, there, isFresh⟩
  · exact coherent name entry there
  · exact refreshed_coherent isFresh (coherent live.name old there)

theorem refresh_current (run : refresh embedder index schema = .ok (changes, next))
    (sound : Schema.IsSound schema) : next.IsCurrent schema := by
  intro live member entry found
  rcases refresh_item run sound.names member with ⟨-, absent⟩ | ⟨old, fresh, -, isFresh, now⟩
  · rw [absent] at found
    cases found
  · cases now.symm.trans found
    exact (refreshed_current isFresh).1

section Totality

variable (total : ∀ text, ∃ vector, embedder.embed text = .ok vector)

include total

theorem entryOf_total (live : Collection) : ∃ entry, entryOf embedder live = .ok entry := by
  obtain ⟨vector, collection⟩ := total (collectionText live.name live.description)
  obtain ⟨fieldVectors, fields⟩ :=
    @Catalog.gather_total _ _ _ (·.name) (fun field => embedder.embed (fieldText field)) .empty
      live.fields fun field _ => total (fieldText field)
  rw [← embedFields_gather] at fields
  exact ⟨_, by simp only [entryOf, collection, fields]; rfl⟩

theorem build_total (schema : List Collection) : ∃ index, build embedder schema = .ok index := by
  rw [build, extend_gather]
  exact Catalog.gather_total fun live _ => entryOf_total total live

theorem refresh_total (index : Index) (schema : List Collection) :
    ∃ changes next, refresh embedder index schema = .ok (changes, next) := by
  induction schema generalizing index with
  | nil => exact ⟨0, index, rfl⟩
  | cons live rest ih =>
    rw [refresh]
    split
    next => exact ih index
    next entry _ =>
      have step : ∃ fresh, refreshed embedder live entry = .ok fresh := by
        unfold refreshed
        dsimp only
        split
        · exact ⟨_, rfl⟩
        · obtain ⟨vector, collection⟩ := total (collectionText live.name live.description)
          exact ⟨_, by rw [collection]; rfl⟩
      obtain ⟨fresh, isFresh⟩ := step
      obtain ⟨changes, next, more⟩ := ih (index.insert live.name fresh)
      exact ⟨_, next, by rw [isFresh]; simp only [bind, Except.bind, more]; rfl⟩

end Totality

end Index
end Inquiry
