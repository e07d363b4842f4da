import Inquiry.Answer.Rendering
import Inquiry.Proofs.Decimal.Digits
import Inquiry.Proofs.Text.Cut

/-!
A list of documents as it is rendered: under the heading one numbered row for each document, with the
fields that tell documents apart. A field counts by its own key, however deep it stands.
-/
namespace Inquiry.Answer

mutual

def leaves (key : String) : Value → List (String × Value)
  | .document fields => fieldLeaves fields
  | value => [(key, value)]

def fieldLeaves : List (String × Value) → List (String × Value)
  | [] => []
  | (key, value) :: rest => leaves key value ++ fieldLeaves rest

end

def tells (key : String) : Bool :=
  displayKeys.contains key || Text.containsText "name" (Text.lowercase key)

def details (document : Document) : List String :=
  ((fieldLeaves document).filter fun leaf => tells leaf.1).map fun leaf => leaf.1 ++ ": " ++ leaf.2.displayed

def summary (document : Document) : String :=
  if (details document).isEmpty then Text.truncated fallbackLength document.shown
  else ", ".intercalate (details document)

def heading (count : Nat) : String :=
  "Found " ++ Decimal.natText count ++ " result" ++ (if count = 1 then "" else "s") ++ ":"

/-- A path is empty at the top, and below it a dot parts its keys. -/
def IsPath (path : String) : Prop := path = "" ∨ '.' ∈ path.toList

theorem IsPath.below (path key : String) : IsPath (path ++ key ++ ".") := by
  refine .inr ?_
  rw [String.toList_append]
  exact List.mem_append_right _ (List.mem_singleton.2 rfl)

/-- No path of more than one key is a key to show. -/
theorem isShown_own {path : String} (isPath : IsPath path) (key : String) : isShown path key = tells key := by
  have undotted : ∀ shown ∈ displayKeys, '.' ∉ shown.toList := by decide
  rcases isPath with rfl | dotted
  · rw [isShown, String.empty_append, Bool.or_self, tells]
  · have absent : displayKeys.contains (path ++ key) = false := by
      refine Bool.eq_false_iff.2 fun found => undotted _ (List.contains_iff_mem.1 found) ?_
      rw [String.toList_append]
      exact List.mem_append_left _ dotted
    rw [isShown, absent, Bool.or_false, tells]

mutual

theorem shownParts_leaves {path : String} (isPath : IsPath path) (key : String) (value : Value) :
    shownParts path key value = ((leaves key value).filter fun leaf => tells leaf.1).map
      fun leaf => leaf.1 ++ ": " ++ leaf.2.displayed := by
  match value with
  | .document fields => exact shownFields_leaves (.below path key) fields
  | .double _ | .text _ | .list _ | .bool _ | .null | .regex .. | .code _ | .scopedCode .. | .int _
  | .long _ | .timestamp .. | .binary .. | .objectId _ | .date _ | .symbol _ | .decimal _ | .undefined
  | .minKey | .maxKey | .pointer .. =>
    simp only [shownParts, isShown_own isPath, leaves, List.filter_cons, List.filter_nil]
    split <;> rfl

theorem shownFields_leaves {path : String} (isPath : IsPath path) (fields : List (String × Value)) :
    shownFields path fields = ((fieldLeaves fields).filter fun leaf => tells leaf.1).map
      fun leaf => leaf.1 ++ ": " ++ leaf.2.displayed := by
  match fields with
  | [] => rfl
  | (key, value) :: rest =>
    rw [shownFields, fieldLeaves, List.filter_append, List.map_append, shownParts_leaves isPath,
      shownFields_leaves isPath]

end

theorem line_summary (document : Document) : line document = summary document := by
  have parts : shownFields "" document = details document := shownFields_leaves (.inl rfl) document
  simp only [line, summary, parts]

section Rows

variable {documents : List Document} {document : Document}

/-- There is always something to see in the row of a document. -/
theorem summary_visible (document : Document) :
    ∃ c ∈ (summary document).toList, Text.isWhitespace c = false := by
  unfold summary
  split
  · refine ⟨'\x7b', ?_, by decide⟩
    have brace : ∃ rest, document.shown.toList = '\x7b' :: rest := by
      cases document with
      | nil => exact ⟨['\x7d'], rfl⟩
      | cons field rest => exact ⟨_, by simp [Document.shown, Value.shownFields]; rfl⟩
    obtain ⟨rest, shape⟩ := brace
    rw [Text.truncated, shape, fallbackLength, String.toList_ofList, List.take_succ_cons]
    exact List.mem_cons_self
  · next nonempty =>
    refine ⟨':', ?_, by decide⟩
    obtain ⟨detail, others, shape⟩ := List.exists_cons_of_ne_nil (mt List.isEmpty_iff.2 nonempty)
    have colon : ':' ∈ detail.toList := by
      have member : detail ∈ details document := shape ▸ List.mem_cons_self
      obtain ⟨leaf, _, rfl⟩ := List.mem_map.1 member
      simp
    rw [shape, String.toList_intercalate, List.map_cons]
    cases others.map String.toList with
    | nil => rwa [List.intercalate_singleton]
    | cons other more =>
      rw [List.intercalate_cons_cons, List.append_assoc]
      exact List.mem_append_left _ colon

theorem number_unbroken (n : Nat) : '\n' ∉ (Decimal.natText n ++ ". ").toList := by
  rw [String.toList_append]
  exact List.not_mem_append (Decimal.natText_unbroken n) (by decide)

theorem heading_unbroken (count : Nat) : '\n' ∉ (heading count).toList := by
  have plural : '\n' ∉ (if count = 1 then "" else "s").toList := by split <;> decide
  simp only [heading, String.toList_append, List.mem_append, not_or]
  exact ⟨⟨⟨⟨by decide, Decimal.natText_unbroken count⟩, by decide⟩, plural⟩, by decide⟩

/-- The numbered rows of a list whose first document has this number, split at their line feeds. -/
theorem numberedLines_split (nonempty : documents ≠ [])
    (unbroken : ∀ document ∈ documents, '\n' ∉ (summary document).toList) (first : Nat) :
    (Text.trimEnd (numberedLines first documents).toList).splitOn '\n' =
      documents.mapIdx fun i document => (Decimal.natText (first + i) ++ ". ").toList ++
        if i + 1 < documents.length then (summary document).toList
        else Text.trimEnd (summary document).toList := by
  induction documents generalizing first with
  | nil => exact absurd rfl nonempty
  | cons document rest ih =>
    obtain ⟨own, others⟩ := List.forall_mem_cons.1 unbroken
    have row : (numberedLines first (document :: rest)).toList =
        ((Decimal.natText first ++ ". ").toList ++ (summary document).toList) ++
          '\n' :: (numberedLines (first + 1) rest).toList := by
      simp [numberedLines, line_summary]
    -- the last row alone meets the end of the text, where white space is cut off
    cases rest with
    | nil =>
      have feed : Text.IsWhite ['\n'] := by simp [Text.IsWhite, show Text.isWhitespace '\n' = true by decide]
      have last : '\n' ∉ (Decimal.natText first ++ ". ").toList ++ Text.trimEnd (summary document).toList :=
        List.not_mem_append (number_unbroken first) fun member => own (Text.trimEnd_subset _ member)
      rw [row, numberedLines, String.toList_empty, Text.trimEnd_white feed,
        Text.trimEnd_append _ (summary_visible document), Text.splitOn_alone last]
      simp
    | cons next rest =>
      have seen : ∃ c ∈ (numberedLines (first + 1) (next :: rest)).toList, Text.isWhitespace c = false := by
        obtain ⟨c, member, visible⟩ := summary_visible next
        exact ⟨c, by simp [numberedLines, line_summary, member], visible⟩
      have whole : '\n' ∉ (Decimal.natText first ++ ". ").toList ++ (summary document).toList :=
        List.not_mem_append (number_unbroken first) own
      have shape (front back : List Char) : front ++ '\n' :: back = (front ++ ['\n']) ++ back := by simp
      rw [row, shape, Text.trimEnd_append _ seen, ← shape, Text.splitOn_feed whole, ih (by simp) others,
        List.mapIdx_cons]
      have shift (i : Nat) : first + 1 + i = first + (i + 1) := by omega
      simp only [shift, List.length_cons, Nat.add_lt_add_iff_right]
      simp

end Rows

/-- Nothing is lost in a list: every document has its own row, with its number and all that tells it
apart, and only white space at the very end is. -/
theorem render_rows {documents : List Document} (subject : Subject) (nonempty : documents ≠ [])
    (uncounted : ∀ single, documents = [single] → countValue? single = none ∧ hasNullId single = false)
    (unbroken : ∀ document ∈ documents, '\n' ∉ (summary document).toList) :
    (render documents subject).toList.splitOn '\n' = (heading documents.length).toList :: [] ::
      documents.mapIdx fun i document => (Decimal.natText (i + 1) ++ ". ").toList ++
        if i + 1 < documents.length then (summary document).toList
        else Text.trimEnd (summary document).toList := by
  have listed : render documents subject = listing documents := by
    cases documents with
    | nil => exact absurd rfl nonempty
    | cons document rest =>
      cases rest with
      | nil =>
        obtain ⟨count, id⟩ := uncounted document rfl
        simp [render, count, id]
      | cons => rfl
  have seen : ∃ c ∈ (numberedLines 1 documents).toList, Text.isWhitespace c = false := by
    obtain ⟨document, rest, rfl⟩ := List.exists_cons_of_ne_nil nonempty
    obtain ⟨c, member, visible⟩ := summary_visible document
    exact ⟨c, by simp [numberedLines, line_summary, member], visible⟩
  have feeds : ":\n\n".toList = ":".toList ++ ['\n', '\n'] := rfl
  have shape : (listing documents).toList = (heading documents.length).toList ++
      '\n' :: '\n' :: Text.trimEnd (numberedLines 1 documents).toList := by
    simp only [listing, Text.trimmedEnd, String.toList_ofList, String.toList_append,
      Text.trimEnd_append _ seen, heading, feeds]
    simp
  have blank := @Text.splitOn_feed [] (Text.trimEnd (numberedLines 1 documents).toList) (by simp)
  rw [listed, shape, Text.splitOn_feed (heading_unbroken _)]
  refine congrArg _ (blank.trans ?_)
  rw [numberedLines_split nonempty unbroken]
  simp [Nat.add_comm]

/-- A field of an inner document counts, and a blank is missing at the end alone. -/
theorem render_rows_nested :
    (render [[("owner", .document [("nickName", .text "Ann "), ("age", .bool true)])],
        [("city", .text "Rome ")]] ⟨"where?", "people"⟩).toList.splitOn '\n' =
      ["Found 2 results:".toList, [], "1. nickName: Ann ".toList, "2. city: Rome".toList] := by
  have first : summary [("owner", .document [("nickName", .text "Ann "), ("age", .bool true)])] =
      "nickName: Ann " := by decide
  have second : summary [("city", .text "Rome ")] = "city: Rome " := by decide
  have unbroken : ∀ document ∈ [[("owner", .document [("nickName", .text "Ann "), ("age", .bool true)])],
      [("city", .text "Rome ")]], '\n' ∉ (summary document).toList := by
    simp only [List.forall_mem_cons, first, second]
    decide
  rw [render_rows ⟨"where?", "people"⟩ (by simp) (by simp) unbroken]
  simp only [List.mapIdx_cons, List.mapIdx_nil, first, second]
  decide

end Inquiry.Answer
