import Inquiry.Proofs.Json.Number
import Inquiry.Proofs.Json.Printed
import Inquiry.Proofs.Json.Written
import Mathlib.Data.List.Forall2

/-!
Values written with an entry on each line, and the values that such a text stands for. The two
differ in the numbers, of which a text has only the literals.
-/
namespace Inquiry.Json

/-- At every level of nesting, the text of the first value is a way to write the second. -/
def WrittenAs (value meant : Json) : Prop :=
  ∀ level, Prints .strict (.value meant) (value.pretty level).toList

theorem gap_margin (level : Nat) : IsGap (margin level).toList := by
  have blanks : IsGap (List.replicate (2 * level) ' ') := fun c member =>
    (List.eq_of_mem_replicate member).symm ▸ rfl
  simpa [margin] using gap_cons rfl blanks

def between (gap last : List Char) (members : List (List Char)) : List Char :=
  gap ++ (',' :: gap).intercalate members ++ last

theorem between_single (gap last member : List Char) :
    between gap last [member] = gap ++ member ++ last := by simp [between]

theorem between_cons (gap last member next : List Char) (rest : List (List Char)) :
    between gap last (member :: next :: rest) =
      gap ++ member ++ ',' :: between gap last (next :: rest) := by
  simp [between, List.intercalate_cons_cons]

theorem block_toList {level : Nat} {opening closing first : String} {rest : List String} :
    (block level opening closing (first :: rest)).toList = opening.toList ++
      between (margin (level + 1)).toList (margin level).toList
        ((first :: rest).map String.toList) ++ closing.toList := by
  simp [block, between, String.toList_intercalate]

theorem prints_items {gap last : List Char} (blank : IsGap gap) (blankLast : IsGap last)
    {members : List (List Char)} {items : List Json}
    (written : List.Forall₂ (fun text item => Prints .strict (.value item) text) members items)
    (nonempty : items ≠ []) : Prints .strict (.items items) (between gap last members) := by
  induction written with
  | nil => exact absurd rfl nonempty
  | @cons text item _ _ here more ih =>
    cases more with
    | nil =>
      rw [between_single]
      exact .lastItem (.member blank blankLast (.plain here))
    | cons next rest =>
      have member := Prints.member blank gap_nil (Prints.plain here)
      rw [List.append_nil] at member
      rw [between_cons]
      exact .nextItem member (ih (by simp))

def PrintsEntry (text : List Char) (entry : String × Json) : Prop :=
  ∃ value, text = (quotedText entry.1).toList ++ ':' :: ' ' :: value ∧
    Prints .strict (.value entry.2) value

theorem label_quoted (name : String) {gap : List Char} (blank : IsGap gap) :
    Label .strict name (gap ++ ((quotedText name).toList ++ [':'])) := by
  have label := @Label.intro .strict name gap _ [] blank gap_nil
    (.quoted (.double (spells_escaped name.toList)))
  simpa [quotedText, quoted] using label

theorem prints_entries {gap last : List Char} (blank : IsGap gap) (blankLast : IsGap last)
    {members : List (List Char)} {entries : List (String × Json)}
    (written : List.Forall₂ PrintsEntry members entries) (nonempty : entries ≠ []) :
    Prints .strict (.entries entries) (between gap last members) := by
  induction written with
  | nil => exact absurd rfl nonempty
  | @cons text entry _ _ here more ih =>
    obtain ⟨name, meant⟩ := entry
    obtain ⟨value, rfl, prints⟩ := here
    have label := label_quoted name blank
    cases more with
    | nil =>
      have member := Prints.member gap_space blankLast (Prints.plain prints)
      have entry := Prints.lastEntry label member
      rw [between_single]
      simpa using entry
    | cons next rest =>
      have entry := Prints.nextEntry label prints.spaced (ih (by simp))
      rw [between_cons]
      simpa using entry

theorem WrittenAs.text (s : String) : WrittenAs (.text s) (.text s) := fun _ => by
  have quoted := @Quoted.double .strict s _ (spells_escaped s.toList)
  simpa [pretty, quotedText, Json.quoted] using Prints.text quoted

theorem WrittenAs.list {items meants : List Json}
    (written : List.Forall₂ WrittenAs items meants) : WrittenAs (.list items) (.list meants) := by
  intro level
  cases written with
  | nil => simpa [pretty, prettyItems, block] using @Prints.noItems .strict [] gap_nil
  | @cons item meant items meants here rest =>
    have texts : List.Forall₂ (fun text item => Prints .strict (.value item) text)
        ((prettyItems (level + 1) (item :: items)).map String.toList) (meant :: meants) := by
      have all := List.Forall₂.cons here rest
      generalize item :: items = items at all
      generalize meant :: meants = meants at all
      induction all with
      | nil => exact .nil
      | cons here more ih => exact .cons (here _) ih
    have inner := prints_items (gap_margin (level + 1)) (gap_margin level) texts (by simp)
    have list := Prints.list inner (.inl rfl)
    rw [List.append_nil] at list
    rw [pretty, prettyItems, block_toList]
    exact list

def EntryWrittenAs (entry meant : String × Json) : Prop :=
  entry.1 = meant.1 ∧ WrittenAs entry.2 meant.2

theorem WrittenAs.object {entries meants : List (String × Json)}
    (written : List.Forall₂ EntryWrittenAs entries meants) : WrittenAs (.object entries) (.object meants) := by
  intro level
  cases written with
  | nil => simpa [pretty, prettyEntries, block] using @Prints.noEntries .strict [] gap_nil
  | @cons entry meant entries meants here rest =>
    have texts : List.Forall₂ PrintsEntry
        ((prettyEntries (level + 1) (entry :: entries)).map String.toList) (meant :: meants) := by
      have all := List.Forall₂.cons here rest
      generalize entry :: entries = entries at all
      generalize meant :: meants = meants at all
      induction all with
      | nil => exact .nil
      | @cons entry meant _ _ here more ih =>
        obtain ⟨name, value⟩ := entry
        obtain ⟨same, written⟩ := here
        exact .cons ⟨(pretty (level + 1) value).toList, by simp [← same], written _⟩ ih
    obtain ⟨name, value⟩ := entry
    have inner := prints_entries (gap_margin (level + 1)) (gap_margin level) texts (by simp)
    have object := Prints.object inner (.inl rfl)
    rw [List.append_nil] at object
    rw [pretty, prettyEntries, block_toList]
    exact object

theorem WrittenAs.literal {number value : Number} (read : Number.ofLiteral? number.written = some value)
    (inRange : value ≠ .beyond) : WrittenAs (.number number) (.number value) := by
  intro level
  have prints := @Prints.number .strict _ (isNumber_of_value read)
    (by rw [read]; exact fun same => inRange (Option.some.inj same))
  simpa [read, pretty] using prints

theorem WrittenAs.integer {n : Nat} (bound : n < UInt64.size) :
    WrittenAs (.number (.integer n)) (.number (.integer n)) :=
  .literal (ofLiteral_ofNat bound) nofun

theorem WrittenAs.parse {value meant : Json} (written : WrittenAs value meant)
    (shallow : meant.depth ≤ maxDepth) : Json.parse? (value.pretty 0).toList = some meant :=
  IsText.parse ⟨[], _, [], by simp, gap_nil, gap_nil, written 0⟩ shallow

end Inquiry.Json
