import Inquiry.Prompt.Question
import Inquiry.Proofs.Catalog
import Inquiry.Proofs.Prompt.Template
import Inquiry.Proofs.Text.Cut

/-!
The prompt for a question holds one copy of the schema and one of the question, whatever these texts
look like, in the fixed text of its template.
-/
namespace Inquiry.Prompt

open Template

def usualPieces : List Piece :=
  [⟨"Available Database Schema:".toList ++ ['\n'], "schema_context".toList⟩,
   ⟨['\n', '\n'] ++ "User Question: \"".toList, "question".toList⟩]

def usualEnd : List Char :=
  ['"', '\n', '\n'] ++
    "Generate the MongoDB query to answer this question. Use ONLY the collections and fields shown above.".toList ++
    ['\n'] ++ "Return ONLY the query code, no explanation.".toList

theorem usualUser_written : usualUser.toList = written usualPieces usualEnd := by
  have feed : "\n".toList = ['\n'] := by rfl
  have blank : "".toList = [] := by rfl
  have context : "\x7b\x7bschema_context\x7d\x7d".toList = hole "schema_context".toList := by rfl
  have question : "User Question: \"\x7b\x7bquestion\x7d\x7d\"".toList =
      "User Question: \"".toList ++ hole "question".toList ++ ['"'] := by rfl
  rw [usualUser, String.toList_intercalate]
  simp only [List.map_cons, List.map_nil, List.intercalate_cons_cons, List.intercalate_singleton,
    feed, blank, context, question, written, usualPieces, usualEnd, List.flatMap_cons,
    List.flatMap_nil, Piece.written, List.append_assoc, List.nil_append, List.cons_append]

-- The characters of a literal are taken from it as a list: decoding it would take seconds.
theorem absent {c : Char} {characters : List Char} (unlisted : characters.contains c = false) :
    c ∉ (String.ofList characters).toList := by
  rw [String.toList_ofList]
  simpa using unlisted

theorem ends_in {c : Char} {characters : List Char} (last : characters.getLast? = some c) :
    (String.ofList characters).toList.getLast? = some c := by
  rw [String.toList_ofList, last]

theorem usual_plain : (∀ piece ∈ usualPieces, '\x7b' ∉ piece.literal ∧ '\x7d' ∉ piece.name) ∧
    '\x7b' ∉ usualEnd := by
  constructor
  · refine List.forall_mem_cons.2 ⟨⟨?_, absent rfl⟩, List.forall_mem_singleton.2 ⟨?_, absent rfl⟩⟩
    · exact List.not_mem_append (absent rfl) (by decide)
    · exact List.not_mem_append (by decide) (absent rfl)
  · refine List.not_mem_append (List.not_mem_append (List.not_mem_append (by decide) ?_) (by decide)) ?_
    · exact absent rfl
    · exact absent rfl

theorem layered_usual : layered [usualUser] = written usualPieces usualEnd := by
  have first : (written usualPieces usualEnd).head? = some 'A' := by rfl
  have last : (written usualPieces usualEnd).getLast? = some '.' := by
    have ended : "Return ONLY the query code, no explanation.".toList.getLast? = some '.' :=
      ends_in rfl
    rw [written, usualEnd, List.getLast?_append, List.getLast?_append, ended]
    rfl
  have trimmed : Text.trim (written usualPieces usualEnd) = written usualPieces usualEnd := by
    refine Text.trim_visible (fun c found => ?_) fun c found => ?_
    · rw [first] at found
      cases found
      decide
    · rw [last] at found
      cases found
      decide
  have nonempty : (written usualPieces usualEnd).isEmpty = false := by
    rw [List.isEmpty_eq_false_iff]
    intro empty
    rw [empty] at first
    cases first
  simp [layered, usualUser_written, trimmed, nonempty, Text.joined]

theorem values_context (context question : String) :
    (values context question).get? "schema_context" = some context := by
  rw [values, Catalog.get?_ofList (by simp)]
  simp

theorem values_question (context question : String) :
    (values context question).get? "question" = some question := by
  rw [values, Catalog.get?_ofList (by simp)]
  simp

theorem forQuestion_usual {files : Files} {directory context question : String}
    (unread : ∀ text, files.read (Path.join directory userFile) ≠ .ok text) :
    (forQuestion files directory context question).user = String.ofList
      (filled (values context question) usualPieces usualEnd) := by
  have usual : layer files directory userFile usualUser = usualUser := by
    unfold layer
    split
    next text read => exact absurd read (unread text)
    next => rfl
  rw [forQuestion, usual]
  exact build_written usual_plain.1 usual_plain.2 layered_usual

/-- One pass fills a template: each hole gets the value of its name as it is, or stays, and nothing
else changes. So the usual prompt has one copy of the schema and one of the question. -/
theorem build_fills :
    (∀ values layers pieces last,
      (∀ piece ∈ pieces, '\x7b' ∉ piece.literal ∧ '\x7d' ∉ piece.name) → '\x7b' ∉ last →
      layered layers = written pieces last →
      build layers values = String.ofList (filled values pieces last)) ∧
    (∀ values layers,
      (∀ name, IsHole (layered layers) name → values.get? (String.ofList name) = none) →
      build layers values = String.ofList (layered layers)) ∧
    ∃ front middle back,
      usualUser =
        front ++ "\x7b\x7bschema_context\x7d\x7d" ++ middle ++ "\x7b\x7bquestion\x7d\x7d" ++ back ∧
      ∀ files directory context question,
        (∀ text, files.read (Path.join directory userFile) ≠ .ok text) →
        (forQuestion files directory context question).user =
          front ++ context ++ middle ++ question ++ back := by
  refine ⟨fun _ _ _ _ => build_written, fun _ _ => build_unbound, ?_⟩
  refine ⟨String.ofList ("Available Database Schema:".toList ++ ['\n']),
    String.ofList (['\n', '\n'] ++ "User Question: \"".toList), String.ofList usualEnd, ?_, ?_⟩
  · have context : "\x7b\x7bschema_context\x7d\x7d".toList = hole "schema_context".toList := by rfl
    have question : "\x7b\x7bquestion\x7d\x7d".toList = hole "question".toList := by rfl
    rw [← String.toList_inj, usualUser_written]
    simp only [String.toList_append, String.toList_ofList, context, question, written,
      usualPieces, List.flatMap_cons, List.flatMap_nil, Piece.written, List.append_assoc,
      List.nil_append, List.cons_append]
  · intro files directory context question unread
    rw [forQuestion_usual unread, ← String.toList_inj]
    simp only [filled, usualPieces, List.flatMap_cons, List.flatMap_nil, Piece.filled,
      String.ofList_toList, values_context, values_question, Option.map_some,
      Option.getD_some, String.toList_append, String.toList_ofList, List.append_assoc, List.nil_append]

/-- A letter to a name in braces, of which one layer is blank and one hole has no value. -/
def letter : List String :=
  [" Dear \x7b\x7bname\x7d\x7d,", " \t", "see page \x7b\x7bpage\x7d\x7d.\n\x7b\x7bname\x7d\x7d\n"]

/-- What is filled in looks like holes, and stays. -/
theorem build_fills_braces :
    build letter (.ofList [("name", "\x7b\x7bpage\x7d\x7d\x7d")]) =
        "Dear \x7b\x7bpage\x7d\x7d\x7d,\n\nsee page \x7b\x7bpage\x7d\x7d.\n\x7b\x7bpage\x7d\x7d\x7d" ∧
      build (letter ++ ["\x7b\x7bend"]) (.ofList [("title", "\x7b\x7bname\x7d\x7d")]) =
        "Dear \x7b\x7bname\x7d\x7d,\n\nsee page \x7b\x7bpage\x7d\x7d.\n\x7b\x7bname\x7d\x7d\n\n\x7b\x7bend" ∧
      ∃ front middle back,
        usualUser =
          front ++ "\x7b\x7bschema_context\x7d\x7d" ++ middle ++ "\x7b\x7bquestion\x7d\x7d" ++ back ∧
        (forQuestion .empty "" "\x7b\x7bquestion\x7d\x7d" "\x7b\x7bschema_context\x7d\x7d?").user =
          front ++ "\x7b\x7bquestion\x7d\x7d" ++ middle ++ "\x7b\x7bschema_context\x7d\x7d?" ++ back := by
  obtain ⟨fills, keeps, front, middle, back, shape, asks⟩ := build_fills
  refine ⟨?_, ?_, front, middle, back, shape, asks _ _ _ _ fun text read => by cases read⟩
  · have filled := fills (.ofList [("name", "\x7b\x7bpage\x7d\x7d\x7d")]) letter
      [⟨"Dear ".toList, "name".toList⟩, ⟨",\n\nsee page ".toList, "page".toList⟩,
        ⟨".\n".toList, "name".toList⟩] [] (by decide) (by decide) (by decide +kernel)
    rw [filled]
    decide +kernel
  · rw [keeps]
    · decide +kernel
    · intro name isHole
      rw [Catalog.get?_ofList (by decide), List.find?_eq_none.2]
      · rfl
      · intro entry member titled
        have same : "title" = String.ofList name := by simpa [List.mem_singleton.1 member] using titled
        have letters : 'i' ∈ name := by
          rw [← String.toList_ofList (l := name), ← same]
          decide
        exact absurd (isHole.subset letters) (by decide +kernel)

end Inquiry.Prompt
