import Inquiry.Proofs.Text.Cut
import Inquiry.Query.ValueCall

/-! Constructor calls are replaced only where their names stand before an opening bracket. -/
namespace Inquiry.ValueCall

/-- The texts with which constructor calls begin; every date ends in the last one. -/
def openings : List (List Char) := ["ObjectId(".toList, "ISODate(".toList, "Date(".toList]

def IsCallFree (text : List Char) : Prop := ∀ opening ∈ openings, ¬ opening <:+: text

section Replacing

variable {found : List Char → Found} {text : List Char}

theorem replaceAll_none (unfound : ∀ rest, rest <:+ text → found rest = none) :
    Text.replaceAll found text = text := by
  unfold Text.replaceAll
  induction text with
  | nil => rfl
  | cons c text ih =>
    rw [Text.replaceAfter, unfound _ (List.suffix_refl _),
      ih fun rest suffix => unfound rest (suffix.trans (List.suffix_cons c text))]

/-- Where every replacement would show, none has been made. -/
theorem replaceAll_kept {mark : Char}
    (marks : ∀ text replacement rest, found text = some (replacement, rest) → mark ∈ replacement)
    (unmarked : mark ∉ Text.replaceAll found text) : Text.replaceAll found text = text := by
  unfold Text.replaceAll at unmarked ⊢
  induction text with
  | nil => rfl
  | cons c text ih =>
    rw [Text.replaceAfter] at unmarked ⊢
    split at unmarked
    next replacement rest same =>
      exact absurd (List.mem_append_left _ (marks _ _ _ same)) unmarked
    next => rw [ih fun member => unmarked (List.mem_cons_of_mem _ member)]

end Replacing

section Calls

variable {text rest : List Char}

theorem IsCallFree.within {part : List Char} (free : IsCallFree text) (inside : part <:+: text) : IsCallFree part :=
  fun opening listed found => free opening listed (found.trans inside)

theorem IsCallFree.after (free : IsCallFree text) {opening : List Char} (listed : opening ∈ openings) :
    Text.after? opening text = none := by
  cases found : Text.after? opening text with
  | none => rfl
  | some rest =>
    refine absurd ?_ (free opening listed)
    rw [Text.append_of_after found]
    exact (List.prefix_append opening rest).isInfix

theorem trimStart_suffix (text : List Char) : Text.trimStart text <:+ text := List.dropWhile_suffix _

theorem IsCallFree.objectId (free : IsCallFree text) : objectId text = none := by
  rw [ValueCall.objectId, free.after (by simp [openings])]
  rfl

theorem IsCallFree.dateCall (free : IsCallFree text) : dateCall? text = none := by
  unfold dateCall?
  rw [free.after (by simp [openings])]
  cases begun : Text.after? "new".toList text with
  | none => rfl
  | some rest =>
    have inside : Text.trimStart rest <:+: text := by
      refine (trimStart_suffix rest).isInfix.trans ?_
      rw [Text.append_of_after begun]
      exact (List.suffix_append _ rest).isInfix
    have ended : Text.after? "Date(".toList (Text.trimStart rest) = none :=
      (free.within inside).after (by simp [openings])
    cases rest with
    | nil => rfl
    | cons gap rest =>
      change (if !Text.isWhitespace gap then _ else _) = _
      split
      next => rfl
      next => exact ended

theorem expand_callFree (now : Int) (free : IsCallFree text) : expand now text = text := by
  have ids : Text.replaceAll objectId text = text :=
    replaceAll_none fun rest suffix => (free.within suffix.isInfix).objectId
  rw [expand, ids]
  refine replaceAll_none fun rest suffix => ?_
  rw [date, (free.within suffix.isInfix).dateCall]
  rfl

theorem objectId_quoted {replacement : List Char} (found : objectId text = some (replacement, rest)) :
    '"' ∈ replacement := by
  simp only [objectId, bind, Option.bind_eq_some_iff] at found
  obtain ⟨_, _, _, _, found⟩ := found
  split at found
  · cases found
  · simp only [Option.bind_eq_some_iff] at found
    obtain ⟨_, _, _, _, found⟩ := found
    rw [← (Prod.mk.inj (Option.some.inj found)).1]
    have opening : '"' ∈ "\x7b\"$oid\": \"".toList := by decide
    exact List.mem_append_left _ (List.mem_append_left _ opening)

theorem dateObject_quoted (instant : List Char) : '"' ∈ dateObject instant := by
  have opening : '"' ∈ "\x7b\"$date\": \"".toList := by decide
  exact List.mem_append_left _ (List.mem_append_left _ opening)

theorem date_quoted {now replacement : List Char} (found : date now text = some (replacement, rest)) :
    '"' ∈ replacement := by
  simp only [date, bind, Option.bind_eq_some_iff] at found
  obtain ⟨_, _, found⟩ := found
  split at found
  · simp only [Option.bind_eq_some_iff] at found
    obtain ⟨_, _, found⟩ := found
    rw [← (Prod.mk.inj (Option.some.inj found)).1]
    exact dateObject_quoted _
  · simp only [Option.bind_eq_some_iff] at found
    obtain ⟨_, _, _, _, found⟩ := found
    rw [← (Prod.mk.inj (Option.some.inj found)).1]
    exact dateObject_quoted _

theorem expand_kept {now : Int} (unquoted : '"' ∉ expand now text) : expand now text = text := by
  have dates : expand now text = Text.replaceAll objectId text :=
    replaceAll_kept (fun _ _ _ => date_quoted) unquoted
  rw [dates] at unquoted ⊢
  exact replaceAll_kept (fun _ _ _ => objectId_quoted) unquoted

end Calls

section Slashes

variable {front back word : List Char}

theorem prefix_slash (unslashed : '/' ∉ word) (found : word <+: front ++ '/' :: back) :
    word <+: front := by
  rcases List.prefix_or_prefix_of_prefix found (List.prefix_append _ _) with within | ⟨more, rfl⟩
  · exact within
  · cases more with
    | nil => exact (List.append_nil front).symm ▸ List.prefix_refl _
    | cons c more =>
      have slash := List.cons_prefix_cons.1 ((List.prefix_append_right_inj front).1 found)
      exact absurd (slash.1 ▸ List.mem_append_right _ List.mem_cons_self) unslashed

/-- What holds no slash stands on one side of it. -/
theorem infix_slash (unslashed : '/' ∉ word) (found : word <:+: front ++ '/' :: back) :
    word <:+: front ∨ word <:+: back := by
  induction front with
  | nil =>
    rcases List.infix_cons_iff.1 found with starts | inside
    · exact .inl (prefix_slash unslashed starts).isInfix
    · exact .inr inside
  | cons c front ih =>
    rcases List.infix_cons_iff.1 found with starts | inside
    · exact .inl (prefix_slash unslashed starts).isInfix
    · exact (ih inside).imp_left fun within => within.trans (List.suffix_cons c front).isInfix

theorem openings_signs : ∀ opening ∈ openings, '(' ∈ opening ∧ '/' ∉ opening := by decide

theorem IsCallFree.slash (freeFront : IsCallFree front) (freeBack : IsCallFree back) :
    IsCallFree (front ++ '/' :: back) := by
  intro opening listed found
  rcases infix_slash (openings_signs opening listed).2 found with inside | inside
  · exact freeFront opening listed inside
  · exact freeBack opening listed inside

theorem callFree_unopened (unopened : '(' ∉ word) : IsCallFree word :=
  fun opening listed found => unopened (found.subset (openings_signs opening listed).1)

end Slashes

end Inquiry.ValueCall
