import Inquiry.Proofs.Index.Fingerprint
import Inquiry.Proofs.Index.Rebuild

/-!
What the bytes of a fingerprint tell about a schema. They are lines in a row, with no mark of which
line names a collection and which one a field, so two schemas have the same bytes exactly when they
have the same lines. That is the same shape where a colon tells the two kinds of lines apart.
-/
namespace Inquiry

/-- No text breaks a line, and no colon stands in the name of a collection or in a kind. -/
structure Schema.IsLegible (schema : List Collection) : Prop where
  names : ∀ live ∈ schema, '\n' ∉ live.name.toList ∧ ':' ∉ live.name.toList
  fields : ∀ live ∈ schema, ∀ field ∈ live.fields,
    '\n' ∉ field.name.toList ∧ '\n' ∉ field.kind.toList ∧ ':' ∉ field.kind.toList

namespace Fingerprint

section Groups

variable {α : Type} {mark : α → Bool} {known others : List (α × List α)} {group : α × List α}

def column (group : α × List α) : List α := group.1 :: group.2

/-- The mark is on all that stands below a head and on no head. -/
structure IsMarked (mark : α → Bool) (known : List (α × List α)) : Prop where
  heads : ∀ group ∈ known, mark group.1 = false
  below : ∀ group ∈ known, ∀ part ∈ group.2, mark part = true

theorem IsMarked.tail (marked : IsMarked mark (group :: known)) : IsMarked mark known :=
  ⟨fun other member => marked.heads other (List.mem_cons_of_mem _ member),
    fun other member => marked.below other (List.mem_cons_of_mem _ member)⟩

theorem IsMarked.span (marked : IsMarked mark (group :: known)) :
    (group.2 ++ known.flatMap column).takeWhile mark = group.2 ∧
      (group.2 ++ known.flatMap column).dropWhile mark = known.flatMap column := by
  refine Text.span_append _ _ _ (marked.below group List.mem_cons_self) fun c first => ?_
  cases known with
  | nil => cases first
  | cons next known =>
    cases first
    exact marked.tail.heads next List.mem_cons_self

/-- Marked columns in a row can be taken apart again. -/
theorem IsMarked.inj (marked : IsMarked mark known) (markedToo : IsMarked mark others)
    (same : known.flatMap column = others.flatMap column) : known = others := by
  induction known generalizing others with
  | nil =>
    cases others with
    | nil => rfl
    | cons other others => cases same
  | cons group known ih =>
    cases others with
    | nil => cases same
    | cons other others =>
      obtain ⟨heads, rest⟩ := List.cons.inj same
      obtain ⟨front, back⟩ := marked.span
      obtain ⟨frontToo, backToo⟩ := markedToo.span
      change group.2 ++ known.flatMap column = other.2 ++ others.flatMap column at rest
      rw [rest] at front back
      rw [ih marked.tail markedToo.tail (back.symm.trans backToo),
        Prod.ext heads (front.symm.trans frontToo)]

end Groups

def group (collection : Collection) : String × List String := (collection.name, pairs collection.fields)

def groups (schema : List Collection) : List (String × List String) :=
  (schema.mergeSort fun first second => first.name ≤ second.name).map group

/-- The lines that a reader of the bytes finds; a text with line feeds makes several of them. -/
def lines (schema : List Collection) : List (List Char) :=
  ((groups schema).flatMap column).flatMap fun row => row.toList.splitOn '\n'

section Lines

variable {descriptor : String} {schema first second : List Collection}

theorem shape_rows (descriptor : String) (schema : List Collection) :
    shape descriptor schema = line descriptor ++ ((groups schema).flatMap column).flatMap line := by
  simp only [shape, groups, List.flatMap_map, List.flatMap_assoc]
  rfl

theorem rows_bytes (rows : List String) : rows.flatMap line =
    (String.ofList (rows.flatMap fun row => row.toList ++ ['\n'])).toUTF8.toList := by
  rw [Utf8.bytes_text, String.toList_ofList]
  induction rows with
  | nil => rfl
  | cons row rows ih =>
    rw [List.flatMap_cons, List.flatMap_cons, List.flatMap_append, ih, line, Utf8.bytes_text,
      String.toList_append]
    rfl

theorem splitOn_rows (rows : List String) :
    (rows.flatMap fun row => row.toList ++ ['\n']).splitOn '\n' =
      (rows.flatMap fun row => row.toList.splitOn '\n') ++ [[]] := by
  induction rows with
  | nil => rfl
  | cons row rows ih =>
    rw [List.flatMap_cons, List.flatMap_cons, List.append_assoc, List.append_assoc, ← ih]
    exact List.splitOnP_append_cons _ _ rfl

theorem splitOn_inj {left right : List Char} (same : left.splitOn '\n' = right.splitOn '\n') :
    left = right := by
  have joined := congrArg ['\n'].intercalate same
  rwa [List.intercalate_splitOn, List.intercalate_splitOn] at joined

/-- The bytes are the same exactly when the lines are. -/
theorem shape_lines : shape descriptor first = shape descriptor second ↔
    lines first = lines second := by
  rw [shape_rows, shape_rows, List.append_right_inj, rows_bytes, rows_bytes]
  constructor
  · intro same
    have split := congrArg (List.splitOn '\n') (String.ofList_injective (Utf8.bytes_inj same))
    rw [splitOn_rows, splitOn_rows] at split
    exact List.append_cancel_right split
  · intro same
    have split : lines first ++ [[]] = lines second ++ [[]] := by rw [same]
    rw [lines, lines, ← splitOn_rows, ← splitOn_rows] at split
    rw [splitOn_inj split]

end Lines

section Fields

variable {field : Field} {fields others : List Field}

/-- The field of a pair whose last colon is the one between name and kind. -/
def ofPair (pair : String) : Field :=
  let after := pair.toList.reverse.takeWhile (· ≠ ':')
  let before := pair.toList.reverse.dropWhile (· ≠ ':')
  ⟨String.ofList before.tail.reverse, String.ofList after.reverse⟩

theorem pair_toList (field : Field) :
    (pair field).toList = field.name.toList ++ ':' :: field.kind.toList := by
  rw [pair, String.toList_append, String.toList_append, List.append_assoc]
  rfl

theorem ofPair_pair (plain : ':' ∉ field.kind.toList) : ofPair (pair field) = field := by
  obtain ⟨after, before⟩ := Text.span_append (· ≠ ':') field.kind.toList.reverse
    (':' :: field.name.toList.reverse)
    (fun c member => decide_eq_true fun colon => plain (colon ▸ List.mem_reverse.1 member))
    (fun c first => by cases first; rfl)
  have shape : (pair field).toList.reverse =
      field.kind.toList.reverse ++ ':' :: field.name.toList.reverse := by
    rw [pair_toList]
    simp
  simp only [ofPair, shape, after, before, List.tail_cons, List.reverse_reverse, String.ofList_toList]

theorem pairs_listed (fields : List Field) : (pairs fields).Perm (fields.map pair) :=
  List.mergeSort_perm _ _

theorem pairs_inj (plain : ∀ field ∈ fields, ':' ∉ field.kind.toList)
    (plainToo : ∀ field ∈ others, ':' ∉ field.kind.toList) (same : pairs fields = pairs others) :
    fields.Perm others := by
  have read {known : List Field} (plain : ∀ field ∈ known, ':' ∉ field.kind.toList) :
      (known.map pair).map ofPair = known := by
    rw [List.map_map]
    exact (List.map_congr_left fun field member => ofPair_pair (plain field member)).trans
      (List.map_id known)
  have listed : (fields.map pair).Perm (others.map pair) :=
    (pairs_listed fields).symm.trans (same ▸ pairs_listed others)
  have back := listed.map ofPair
  rwa [read plain, read plainToo] at back

end Fields

section Shapes

variable {descriptor : String} {schema first second : List Collection}

theorem mem_groups {entry : String × List String} :
    entry ∈ groups schema ↔ ∃ live ∈ schema, group live = entry := by
  rw [groups, List.mem_map]
  simp only [List.mem_mergeSort]

theorem mem_names {name : String} :
    name ∈ schema.map (·.name) ↔ ∃ pairs, (name, pairs) ∈ groups schema := by
  simp only [mem_groups, List.mem_map, group, Prod.mk.injEq]
  constructor
  · rintro ⟨live, member, same⟩
    exact ⟨_, live, member, same, rfl⟩
  · rintro ⟨pairs, live, member, same, -⟩
    exact ⟨live, member, same⟩

theorem legible_marked (legible : Schema.IsLegible schema) :
    IsMarked (fun row => row.toList.contains ':') (groups schema) := by
  constructor
  · intro entry member
    obtain ⟨live, there, rfl⟩ := mem_groups.1 member
    simpa [group] using (legible.names live there).2
  · intro entry member row below
    obtain ⟨live, there, rfl⟩ := mem_groups.1 member
    obtain ⟨field, -, rfl⟩ := List.mem_map.1 ((pairs_listed live.fields).mem_iff.1 below)
    simp [pair_toList]

theorem legible_unbroken (legible : Schema.IsLegible schema) :
    ∀ row ∈ (groups schema).flatMap column, '\n' ∉ row.toList := by
  intro row member
  obtain ⟨entry, listed, inside⟩ := List.mem_flatMap.1 member
  obtain ⟨live, there, rfl⟩ := mem_groups.1 listed
  rcases List.mem_cons.1 inside with rfl | below
  · exact (legible.names live there).1
  · obtain ⟨field, known, rfl⟩ := List.mem_map.1 ((pairs_listed live.fields).mem_iff.1 below)
    obtain ⟨name, kind, -⟩ := legible.fields live there field known
    simp [pair_toList, name, kind]

theorem legible_lines (legible : Schema.IsLegible schema) :
    lines schema = ((groups schema).flatMap column).map String.toList := by
  rw [lines, List.map_eq_flatMap]
  refine List.flatMap_congr fun row member => ?_
  refine List.splitOnP_eq_singleton fun c inside => ?_
  simpa using fun same : c = '\n' => legible_unbroken legible row member (same ▸ inside)

theorem same_name {live other : Collection} (distinct : (schema.map (·.name)).Nodup)
    (member : live ∈ schema) (memberToo : other ∈ schema) (same : live.name = other.name) :
    live = other := List.inj_on_of_nodup_map distinct member memberToo same

/-- Legible lines tell the shape. -/
theorem lines_shape (legible : Schema.IsLegible first) (legibleToo : Schema.IsLegible second)
    (distinct : (second.map (·.name)).Nodup) (same : lines first = lines second) :
    Schema.SameShape first second := by
  rw [legible_lines legible, legible_lines legibleToo] at same
  have rows := List.map_injective_iff.2 (fun _ _ => String.toList_injective) same
  have entries := (legible_marked legible).inj (legible_marked legibleToo) rows
  constructor
  · intro name
    rw [mem_names, mem_names, entries]
  · intro before member after memberToo sameName
    have listed : group before ∈ groups second := entries ▸ mem_groups.2 ⟨before, member, rfl⟩
    obtain ⟨live, there, made⟩ := mem_groups.1 listed
    obtain ⟨name, pairs⟩ := Prod.mk.inj made
    obtain rfl := same_name distinct there memberToo (name.trans sameName)
    exact pairs_inj (fun field known => (legible.fields before member field known).2.2)
      (fun field known => (legibleToo.fields live there field known).2.2) pairs.symm

theorem groups_sorted (schema : List Collection) :
    (groups schema).Pairwise fun first second => first.1 ≤ second.1 :=
  List.pairwise_map.2 (sorted_key (·.name) schema)

theorem groups_names (distinct : (schema.map (·.name)).Nodup) :
    ((groups schema).map (·.1)).Nodup := by
  rw [groups, List.map_map]
  exact ((List.mergeSort_perm _ _).map _).nodup_iff.2 distinct

/-- Under distinct names, there is one order of the names. -/
theorem groups_perm (distinct : (second.map (·.name)).Nodup)
    (members : (groups first).Perm (groups second)) : groups first = groups second := by
  refine members.eq_of_pairwise (fun entry other listed listedToo before after => ?_)
    (groups_sorted first) (groups_sorted second)
  have name : entry.1 = other.1 := String.le_antisymm before after
  exact List.inj_on_of_nodup_map (groups_names distinct) (members.mem_iff.1 listed) listedToo name

/-- The order in which a schema lists its collections and fields is not written down. -/
theorem groups_same (distinct : (first.map (·.name)).Nodup) (distinctToo : (second.map (·.name)).Nodup)
    (same : Schema.SameShape first second) : groups first = groups second := by
  have equal {before after : Collection} (member : before ∈ first) (memberToo : after ∈ second)
      (sameName : before.name = after.name) : group before = group after :=
    Prod.ext sameName (pairs_perm (same.fields before member after memberToo sameName))
  have nodup := (groups_names distinct).of_map
  have nodupToo := (groups_names distinctToo).of_map
  apply groups_perm distinctToo
  refine (List.perm_ext_iff_of_nodup nodup nodupToo).2 fun entry => ?_
  rw [mem_groups, mem_groups]
  constructor
  · rintro ⟨before, member, rfl⟩
    obtain ⟨after, memberToo, sameName⟩ :=
      List.mem_map.1 ((same.names before.name).1 (List.mem_map_of_mem member))
    exact ⟨after, memberToo, (equal member memberToo sameName.symm).symm⟩
  · rintro ⟨after, memberToo, rfl⟩
    obtain ⟨before, member, sameName⟩ :=
      List.mem_map.1 ((same.names after.name).2 (List.mem_map_of_mem memberToo))
    exact ⟨before, member, equal member memberToo sameName⟩

end Shapes

/-- The bytes of a fingerprint tell the lines that they are made of and nothing else. For legible
schemas with distinct names of collections, this is the shape. -/
theorem shape_eq_iff (descriptor : String) (first second : List Collection) :
    (shape descriptor first = shape descriptor second ↔ lines first = lines second) ∧
    ((first.map (·.name)).Nodup → (second.map (·.name)).Nodup → Schema.IsLegible first →
      Schema.IsLegible second →
      (shape descriptor first = shape descriptor second ↔ Schema.SameShape first second)) := by
  refine ⟨shape_lines, fun distinct distinctToo legible legibleToo => shape_lines.trans ?_⟩
  constructor
  · exact lines_shape legible legibleToo distinctToo
  · intro same
    rw [lines, lines, groups_same distinct distinctToo same]

def archive (kind : String) : List Collection :=
  [Schema.collection "orders" [⟨"at:utc", kind⟩, ⟨"amount", "double"⟩] 7 ["_id_"],
    Schema.collection "drafts" [] 0 ["_id_"]]

theorem archive_distinct (kind : String) : ((archive kind).map (·.name)).Nodup := by
  change ["orders", "drafts"].Nodup
  decide

theorem archive_legible {kind : String} (unbroken : '\n' ∉ kind.toList) (plain : ':' ∉ kind.toList) :
    Schema.IsLegible (archive kind) := by
  have names : ∀ name ∈ ["orders", "drafts"], '\n' ∉ name.toList ∧ ':' ∉ name.toList := by decide
  have name : '\n' ∉ "at:utc".toList := by decide
  have other : '\n' ∉ "amount".toList ∧ '\n' ∉ "double".toList ∧ ':' ∉ "double".toList := by decide
  constructor
  · exact fun live member => names live.name (List.mem_map_of_mem member)
  · simp only [archive, Schema.collection, List.forall_mem_cons]
    exact ⟨⟨⟨name, unbroken, plain⟩, other, nofun⟩, nofun, nofun⟩

/-- Another order gives the same bytes, and another kind gives others. -/
theorem shape_eq_iff_archive :
    Schema.IsLegible (archive "date") ∧ Schema.IsLegible (archive "string") ∧
      shape "hash:fnv1a:2" (archive "date") = shape "hash:fnv1a:2" (archive "date").reverse ∧
      shape "hash:fnv1a:2" (archive "date") ≠ shape "hash:fnv1a:2" (archive "string") := by
  have date : Schema.IsLegible (archive "date") := archive_legible (by decide) (by decide)
  have string : Schema.IsLegible (archive "string") := archive_legible (by decide) (by decide)
  have reversed : Schema.IsLegible (archive "date").reverse :=
    ⟨fun live member => date.names live (List.mem_reverse.1 member),
      fun live member => date.fields live (List.mem_reverse.1 member)⟩
  have distinct : ((archive "date").reverse.map (·.name)).Nodup := by
    rw [List.map_reverse]
    exact List.nodup_reverse.2 (archive_distinct "date")
  refine ⟨date, string, ?_, fun same => ?_⟩
  · refine ((shape_eq_iff _ _ _).2 (archive_distinct _) distinct date reversed).2 ⟨?_, ?_⟩
    · intro name
      rw [List.map_reverse, List.mem_reverse]
    · intro before member after memberToo sameName
      rw [same_name (archive_distinct _) member (List.mem_reverse.1 memberToo) sameName]
  · have fields := (((shape_eq_iff _ _ _).2 (archive_distinct _) (archive_distinct _) date string).1
      same).fields _ List.mem_cons_self _ List.mem_cons_self rfl
    have listed : (⟨"at:utc", "date"⟩ : Field) ∈ [⟨"at:utc", "string"⟩, ⟨"amount", "double"⟩] :=
      fields.mem_iff.1 List.mem_cons_self
    revert listed
    decide

def bare (name : String) : Collection := Schema.collection name [] 0 ["_id_"]

def tagged : Collection := Schema.collection "notes" [⟨"tag", "int"⟩] 1 ["_id_"]

/-- The name of a collection reads like a field of the collection before it. -/
theorem shape_tagged :
    ([bare "notes", bare "tag:int"].map (·.name)).Nodup ∧
      (∀ live ∈ [tagged, bare "notes", bare "tag:int"], (live.fields.map (·.name)).Nodup) ∧
      shape "hash:fnv1a:2" [tagged] = shape "hash:fnv1a:2" [bare "notes", bare "tag:int"] ∧
      ¬ Schema.SameShape [tagged] [bare "notes", bare "tag:int"] := by
  refine ⟨by decide, by decide, ?_, fun same => ?_⟩
  · have text : pair ⟨"tag", "int"⟩ = "tag:int" := by decide
    have sorted : [bare "notes", bare "tag:int"].mergeSort
        (fun first second => first.name ≤ second.name) = [bare "notes", bare "tag:int"] :=
      List.mergeSort_of_pairwise (by decide +kernel)
    have field : collectionShape tagged = line "notes" ++ line "tag:int" := by
      simp only [collectionShape, tagged, Schema.collection, pairs, List.map_cons, List.map_nil,
        List.mergeSort_singleton, text, List.flatMap_cons, List.flatMap_nil, List.append_nil]
    have alone (name : String) : collectionShape (bare name) = line name := by
      simp only [collectionShape, bare, Schema.collection, pairs, List.map_nil, List.mergeSort_nil,
        List.flatMap_nil, List.append_nil]
    simp only [shape, sorted, List.mergeSort_singleton, List.flatMap_cons, List.flatMap_nil, field,
      alone, List.append_nil]
  · have listed : "tag:int" ∈ ["notes"] := (same.names "tag:int").2 (by decide)
    revert listed
    decide

end Fingerprint
end Inquiry
