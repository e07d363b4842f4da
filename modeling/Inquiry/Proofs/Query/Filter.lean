import Inquiry.Proofs.Attempt
import Inquiry.Proofs.Bson.Extended
import Inquiry.Proofs.Query.Hollow
import Inquiry.Proofs.Query.Search
import Inquiry.Proofs.Query.ValueCall
import Inquiry.Query.Reading
import Mathlib

/-!
Where a filter comes from: from the first group in braces that its argument has outside strings, all
of which it stands for, and from no text where there is no such group. What stands around the group
counts for nothing, so a filter without fields may come from an argument that is no object.
-/
namespace Inquiry.Bracket

def Unbraced (text : List Char) : Prop := fromBracket? '\x7b' .outside text = none

def IsGroup (group : List Char) : Prop :=
  ∃ tail, group = '\x7b' :: tail ∧ groupTail? .outside 0 tail = some tail

/-- The group is the first one in the text, not in a string. -/
structure IsFirstGroup (text front group back : List Char) : Prop where
  shape : text = front ++ group ++ back
  unbraced : Unbraced front
  outside : front.foldl Quote.next .outside = .outside
  isGroup : IsGroup group

section Groups

variable {bracket : Char} {quote : Quote} {text front group back rest : List Char}

theorem groupTail_prefix {tail : List Char} (found : groupTail? .outside 0 rest = some tail) :
    ∃ back, rest = tail ++ back ∧ groupTail? .outside 0 tail = some tail := by
  obtain ⟨front, c, back, after, inner, rfl, rfl, stands, ends⟩ := groupTail_found.1 found
  refine ⟨back, by simp, ?_⟩
  rw [groupTail_on stands, groupTail_end ends]
  rfl

theorem group_first : group? '\x7b' text = .ok (some group) ↔
    ∃ front back, IsFirstGroup text front group back := by
  constructor
  · intro found
    unfold group? at found
    split at found
    next => cases found
    next rest opened =>
      split at found
      next tail closed =>
        cases found
        obtain ⟨front, rfl, unbraced, outside⟩ := fromBracket_inv opened
        obtain ⟨back, rfl, whole⟩ := groupTail_prefix closed
        exact ⟨front, back, by simp, unbraced, outside, tail, rfl, whole⟩
      next => cases found
  · rintro ⟨front, back, rfl, unbraced, outside, tail, rfl, whole⟩
    obtain ⟨inside, c, _, after, inner, shape, ended, stands, ends⟩ := groupTail_found.1 whole
    have closed : groupTail? .outside 0 (tail ++ back) = some tail := by
      rw [ended, List.append_assoc, groupTail_on stands, List.singleton_append, groupTail_end ends]
      rfl
    have opened : fromBracket? '\x7b' .outside (front ++ '\x7b' :: tail ++ back) = some (tail ++ back) := by
      rw [List.append_assoc, fromBracket_on unbraced, outside]
      rfl
    rw [group?, opened]
    simp only [closed]

theorem group_none : group? '\x7b' text = .ok none ↔ Unbraced text := by
  unfold group? Unbraced
  split
  next unopened => simp [unopened]
  next rest found => split <;> simp [found]

theorem blank_unbraced (blank : isBlank front = true) :
    Unbraced front ∧ front.foldl Quote.next .outside = .outside := by
  have signs : Text.isWhitespace '"' = false ∧ Text.isWhitespace '\'' = false ∧
      Text.isWhitespace '\x7b' = false := by decide
  induction front with
  | nil => exact ⟨rfl, rfl⟩
  | cons c front ih =>
    obtain ⟨white, blank⟩ := Bool.and_eq_true_iff.1 (List.all_cons.symm.trans blank)
    have other {mark : Char} (dark : Text.isWhitespace mark = false) : c ≠ mark := by
      rintro rfl
      rw [white] at dark
      cases dark
    have next : Quote.outside.next c = .outside := by
      simp [Quote.next, isQuote, other signs.1, other signs.2.1]
    have unseen : ¬ (Quote.outside.sees c && c == '\x7b') = true := by simp [other signs.2.2]
    rw [Unbraced, fromBracket?, if_neg unseen, List.foldl_cons, next]
    exact ih blank

end Groups

end Inquiry.Bracket

namespace Inquiry

def Operation.filter? : Operation → Option Document
  | .find filter | .count filter => some filter
  | .aggregate _ => none

namespace Query

open Json Inquiry.Bracket Inquiry.Relaxed

def filterText (call : Invocation) : List Char :=
  match call.method with
  | .find => (arguments (callParts call.rest).1).headD []
  | .aggregate | .count => (callParts call.rest).1

inductive FilterOf (now : Int) (text : List Char) : Document → Prop
  | absent (unbraced : Unbraced text) : FilterOf now text []
  | group {front group back : List Char} {filter : Document}
      (first : IsFirstGroup text front group back) (read : document now group = .ok filter)
      (hollow : filter = [] → IsHollow group) : FilterOf now text filter

section Filters

variable {now : Int} {text group : List Char} {filter : Document} {call : Invocation}
  {operation : Operation}

theorem document_tree (read : document now group = .ok filter) :
    ∃ tree, json now group = .ok tree ∧ Extended.value? tree = some (.document filter) := by
  obtain ⟨meant, found, isDocument⟩ := bind_ok read
  obtain rfl : meant = .document filter := by
    split at isDocument <;> cases isDocument
    rfl
  unfold value at found
  split at found
  next => cases found
  next tree json =>
    split at found
    next converted =>
      cases found
      exact ⟨tree, json, converted⟩
    next => cases found

/-- A group without fields is hollow, whether it was strict or had to be made so. -/
theorem document_hollow (isGroup : IsGroup group) (read : document now group = .ok []) :
    IsHollow group := by
  obtain ⟨tree, found, converted⟩ := document_tree read
  obtain rfl := Extended.value_empty converted
  obtain ⟨tail, rfl, whole⟩ := isGroup
  obtain ⟨inside, c, _, after, inner, _, rfl, _, ends⟩ := groupTail_found.1 whole
  have closing : c = '\x7d' ∨ c = ']' := by
    simp only [groupSearch, isClosing, Bool.and_eq_true, Bool.or_eq_true, beq_iff_eq] at ends
    exact ends.1.2
  -- A list that closes the group would be a fault.
  have braces (clean : ¬ IsSoiled ('\x7b' :: (inside ++ [c]))) : c = '\x7d' := by
    rcases closing with brace | rfl
    · exact brace
    · exact absurd ⟨']', by simp, by decide⟩ clean
  unfold json at found
  split at found
  next known strict =>
    cases found
    obtain rfl := braces (empty_clean strict).1
    exact read_hollow strict
  next =>
    have clean : ¬ IsSoiled (ValueCall.expand now ('\x7b' :: (inside ++ [c]))) :=
      fun soiled => (empty_clean found).1 (strict_soiled soiled)
    have kept := ValueCall.expand_kept fun quoted => clean ⟨'"', quoted, by decide⟩
    rw [kept] at found clean
    obtain rfl := braces clean
    exact strict_hollow found

theorem optionalDocument_filter (read : optionalDocument now text = .ok filter) :
    FilterOf now text filter := by
  unfold optionalDocument at read
  cases found : group? '\x7b' text with
  | error fault =>
    rw [found] at read
    cases read
  | ok group =>
    rw [found] at read
    cases group with
    | none =>
      cases read
      exact .absent (group_none.1 found)
    | some group =>
      obtain ⟨front, back, first⟩ := group_first.1 found
      exact .group first read fun empty => document_hollow first.isGroup (empty ▸ read)

theorem operation_filter (run : operationOf now call = .ok operation)
    (reads : operation.filter? = some filter) : FilterOf now (filterText call) filter := by
  obtain ⟨collection, method, rest⟩ := call
  unfold operationOf at run
  cases method with
  | find =>
    obtain ⟨found, read, run⟩ := bind_ok run
    obtain ⟨projection, _, run⟩ := bind_ok run
    obtain ⟨cursor, _, run⟩ := bind_ok run
    have same : found = filter := by
      split at run
      next =>
        cases run
        exact Option.some.inj reads
      next =>
        split at run <;> cases run
        · exact Option.some.inj reads
        · cases reads
      next =>
        cases run
        cases reads
    exact optionalDocument_filter (same ▸ read)
  | aggregate =>
    obtain ⟨_, _, run⟩ := bind_ok run
    obtain ⟨group, _, run⟩ := bind_ok run
    cases group with
    | none => cases run
    | some group =>
      obtain ⟨stages, _, run⟩ := bind_ok run
      cases run
      cases reads
  | count =>
    obtain ⟨_, _, run⟩ := bind_ok run
    obtain ⟨found, read, run⟩ := bind_ok run
    cases run
    cases reads
    exact optionalDocument_filter read

theorem FilterOf.blank (source : FilterOf now text filter) (blank : isBlank text = true) :
    filter = [] := by
  cases source with
  | absent => rfl
  | group first read =>
    have unbraced := group_none.2 (blank_unbraced blank).1
    rw [group_first.2 ⟨_, _, first⟩] at unbraced
    cases unbraced

theorem FilterOf.whole {front back : List Char} (source : FilterOf now text filter)
    (first : IsFirstGroup text front group back) : document now group = .ok filter := by
  have found := group_first.2 ⟨_, _, first⟩
  cases source with
  | absent unbraced =>
    rw [group_none.2 unbraced] at found
    cases found
  | group other read =>
    rw [group_first.2 ⟨_, _, other⟩] at found
    cases found
    exact read

end Filters

/-- A filter is what the first group of its argument stands for. It has no fields when the argument
has no group, whatever else it has, or when only blanks and at most one comma stand in the group; an
argument that is blank or one group is read as what it is. -/
theorem ofText_filter (now : Int) {text : String} {query : Query} {filter : Document}
    (parsed : ofText now text = .ok query) (reads : query.operation.filter? = some filter) :
    ∃ call, command? (withoutFences text.toList) = some call ∧ call.collection = query.collection ∧
      FilterOf now (filterText call) filter ∧
      (isBlank (filterText call) = true → filter = []) ∧
      ∀ front group back, filterText call = front ++ group ++ back → isBlank front = true →
        IsGroup group → document now group = .ok filter := by
  unfold ofText ofCode at parsed
  split at parsed
  next => cases parsed
  next call found =>
    obtain ⟨operation, run, parsed⟩ := bind_ok parsed
    cases parsed
    have source := operation_filter run reads
    refine ⟨call, found, rfl, source, source.blank, fun front group back shape blank isGroup => ?_⟩
    obtain ⟨unbraced, outside⟩ := blank_unbraced blank
    exact source.whole ⟨shape, unbraced, outside, isGroup⟩

def openText : String := "db.orders.find( \x7b\"status\": \"open\"\x7d, \x7b\"_id\": 0\x7d ).count()"

theorem ofText_filter_open : ofText 0 openText = .ok ⟨"orders", .count [("status", .text "open")]⟩ ∧
    ∃ call, command? (withoutFences openText.toList) = some call ∧
      FilterOf 0 (filterText call) [("status", .text "open")] := by
  have parsed : ofText 0 openText = .ok ⟨"orders", .count [("status", .text "open")]⟩ := by cbv
  obtain ⟨call, found, _, source, _⟩ := ofText_filter 0 parsed rfl
  exact ⟨parsed, call, found, source⟩

/-- An argument that is no object, but a member of one. -/
theorem ofText_member :
    ofText 0 "db.orders.find(status: 'pending')" = .ok ⟨"orders", .find []⟩ := by cbv

end Query

end Inquiry
