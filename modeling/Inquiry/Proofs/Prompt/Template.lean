import Inquiry.Prompt.Template
import Mathlib.Data.List.Infix

/-!
Every template reads as literal texts around holes. Filling puts the values into these holes as they
are and keeps all else.
-/
namespace Inquiry.Template

def opening : List Char := ['\x7b', '\x7b']

def closing : List Char := ['\x7d', '\x7d']

structure Piece where
  literal : List Char
  name : List Char

def Piece.written (piece : Piece) : List Char := piece.literal ++ hole piece.name

/-- The value in place of the hole, which stays where its name has none. -/
def Piece.filled (values : Catalog String) (piece : Piece) : List Char :=
  piece.literal ++ ((values.get? (String.ofList piece.name)).map String.toList).getD (hole piece.name)

def written (pieces : List Piece) (last : List Char) : List Char :=
  pieces.flatMap Piece.written ++ last

def filled (values : Catalog String) (pieces : List Piece) (last : List Char) : List Char :=
  pieces.flatMap (Piece.filled values) ++ last

/-- The first hole of a text, again and again, and the text after the last one. A hole that is not
closed is none. -/
inductive Reads : List Char → List Piece → List Char → Prop
  | plain {text : List Char} (unopened : ¬ opening <:+: text) : Reads text [] text
  | unclosed {literal text : List Char} (first : ¬ opening <:+: literal ++ ['\x7b'])
      (unended : ¬ closing <:+: text) : Reads (literal ++ opening ++ text) [] (literal ++ opening ++ text)
  | piece {piece : Piece} {text : List Char} {pieces : List Piece} {last : List Char}
      (first : ¬ opening <:+: piece.literal ++ ['\x7b']) (ends : ¬ closing <:+: piece.name ++ ['\x7d'])
      (more : Reads text pieces last) : Reads (piece.written ++ text) (piece :: pieces) last

def IsHole (template name : List Char) : Prop :=
  ∃ pieces last, Reads template pieces last ∧ ∃ piece ∈ pieces, piece.name = name

section Reading

variable {c : Char} {text rest : List Char}

theorem first_double (found : [c, c] <:+: text) :
    ∃ before after, text = before ++ c :: c :: after ∧ ¬ [c, c] <:+: before ++ [c] := by
  induction text with
  | nil => simp at found
  | cons d text ih =>
    by_cases here : [c, c] <+: d :: text
    · obtain ⟨after, shape⟩ := here
      exact ⟨[], after, shape.symm, fun found => by simpa using found.length_le⟩
    · obtain ⟨before, after, rfl, first⟩ := ih ((List.infix_cons_iff.1 found).resolve_left here)
      refine ⟨d :: before, after, rfl, fun found => ?_⟩
      rcases List.infix_cons_iff.1 found with start | later
      · exact here (start.trans ⟨c :: after, by simp⟩)
      · exact first later

theorem reads_total (text : List Char) : ∃ pieces last, Reads text pieces last := by
  -- A piece takes many characters at once, so the induction is on the length.
  induction size : text.length using Nat.strongRecOn generalizing text with
  | ind n ih =>
    by_cases opens : opening <:+: text
    · obtain ⟨literal, inside, rfl, first⟩ := first_double opens
      by_cases closes : closing <:+: inside
      · obtain ⟨name, after, rfl, ends⟩ := first_double closes
        have shorter : after.length < n := by
          simp only [List.length_append, List.length_cons] at size
          omega
        obtain ⟨pieces, last, more⟩ := ih _ shorter after rfl
        have shape : literal ++ '\x7b' :: '\x7b' :: (name ++ '\x7d' :: '\x7d' :: after) =
            Piece.written ⟨literal, name⟩ ++ after := by simp [Piece.written, hole]
        rw [shape]
        exact ⟨_, last, .piece first ends more⟩
      · have shape : literal ++ '\x7b' :: '\x7b' :: inside = literal ++ opening ++ inside := by
          simp [opening]
        rw [shape]
        exact ⟨[], _, .unclosed first closes⟩
    · exact ⟨[], text, .plain opens⟩

end Reading

section Filling

variable {values : Catalog String} {c : Char} {text rest literal name seen last : List Char}
  {pieces : List Piece}

theorem fillFrom_outside (other : ¬ opening <+: c :: rest) :
    fillFrom values none (c :: rest) = c :: fillFrom values none rest := by
  rw [fillFrom]
  rintro after rfl rfl
  exact other ⟨after, rfl⟩

theorem fillFrom_inside (other : ¬ closing <+: c :: rest) :
    fillFrom values (some seen) (c :: rest) = fillFrom values (some (c :: seen)) rest := by
  rw [fillFrom]
  rintro after rfl rfl
  exact other ⟨after, rfl⟩

/-- Of what follows a text, its first character tells whether two of a kind begin in the text. -/
theorem double_apart {d : Char} (single : ¬ [d, d] <:+: c :: text ++ rest.take 1) :
    ¬ [d, d] <+: c :: (text ++ rest) ∧ ¬ [d, d] <:+: text ++ rest.take 1 := by
  refine ⟨fun start => single (List.IsPrefix.isInfix ?_), fun found => single (List.infix_cons found)⟩
  cases text with
  | nil =>
    cases rest with
    | nil => simp at start
    | cons => simpa using start
  | cons => simpa using start

theorem fillFrom_literal (unopened : ¬ opening <:+: literal ++ rest.take 1) :
    fillFrom values none (literal ++ rest) = literal ++ fillFrom values none rest := by
  induction literal with
  | nil => rfl
  | cons c literal ih =>
    obtain ⟨here, later⟩ := double_apart unopened
    rw [List.cons_append, fillFrom_outside here, ih later, List.cons_append]

theorem fillFrom_name (unended : ¬ closing <:+: name ++ rest.take 1) :
    fillFrom values (some seen) (name ++ rest) = fillFrom values (some (name.reverse ++ seen)) rest := by
  induction name generalizing seen with
  | nil => rfl
  | cons c name ih =>
    obtain ⟨here, later⟩ := double_apart unended
    rw [List.cons_append, fillFrom_inside here, ih later, List.reverse_cons, List.append_assoc]
    rfl

theorem fillFrom_unclosed (unended : ¬ closing <:+: text) :
    fillFrom values (some []) text = opening ++ text := by
  have all := @fillFrom_name values [] text [] (by simpa using unended)
  simpa [fillFrom, opening] using all

theorem fillFrom_hole (ends : ¬ closing <:+: name ++ ['\x7d']) :
    fillFrom values (some []) (name ++ (closing ++ text)) =
      filling values name ++ fillFrom values none text := by
  rw [fillFrom_name ends, List.append_nil]
  conv_rhs => rw [← List.reverse_reverse name]
  rfl

theorem Piece.filled_literal (values : Catalog String) (piece : Piece) :
    piece.filled values = piece.literal ++ filling values piece.name := by
  rw [Piece.filled, filling]
  cases values.get? (String.ofList piece.name) <;> rfl

/-- What is filled in is not read again, whatever it holds. -/
theorem Reads.fill (reads : Reads text pieces last) :
    Template.fill values text = filled values pieces last := by
  rw [Template.fill]
  induction reads with
  | @plain text unopened =>
    have all := @fillFrom_literal values [] text (by simpa using unopened)
    simpa [filled, fillFrom] using all
  | @unclosed literal text first unended =>
    calc fillFrom values none (literal ++ opening ++ text)
      _ = literal ++ fillFrom values (some []) text := by
        rw [List.append_assoc, fillFrom_literal first]
        rfl
      _ = filled values [] (literal ++ opening ++ text) := by
        rw [fillFrom_unclosed unended, ← List.append_assoc]
        rfl
  | @piece piece text pieces last first ends more ih =>
    have shape : piece.written ++ text =
        piece.literal ++ (opening ++ (piece.name ++ (closing ++ text))) := by
      simp [Piece.written, hole, opening, closing]
    calc fillFrom values none (piece.written ++ text)
      _ = piece.literal ++ fillFrom values (some []) (piece.name ++ (closing ++ text)) := by
        rw [shape, fillFrom_literal first]
        rfl
      _ = piece.filled values ++ fillFrom values none text := by
        rw [fillFrom_hole ends, piece.filled_literal, List.append_assoc]
      _ = filled values (piece :: pieces) last := by
        rw [ih, filled, filled, List.flatMap_cons, List.append_assoc]

theorem Reads.written (reads : Reads text pieces last) : Template.written pieces last = text := by
  induction reads with
  | plain | unclosed => rfl
  | piece first ends more ih =>
    rw [Template.written, List.flatMap_cons, List.append_assoc, ← ih]
    rfl

theorem IsHole.subset (isHole : IsHole text name) : name ⊆ text := by
  obtain ⟨pieces, last, reads, piece, member, rfl⟩ := isHole
  intro c found
  rw [← reads.written, Template.written]
  refine List.mem_append_left _ (List.mem_flatMap.2 ⟨piece, member, ?_⟩)
  simp [Piece.written, hole, found]

theorem filled_unbound (unbound : ∀ piece ∈ pieces, values.get? (String.ofList piece.name) = none) :
    filled values pieces last = written pieces last := by
  have same : ∀ piece ∈ pieces, piece.filled values = piece.written := fun piece member => by
    rw [Piece.filled, unbound piece member]
    rfl
  rw [filled, written, List.flatMap_congr same]

theorem double_absent {d : Char} (absent : d ∉ text) : ¬ [d, d] <:+: text ++ [d] := by
  intro found
  have count := found.sublist.count_le d
  rw [List.count_append, List.count_eq_zero.2 absent] at count
  simp at count

/-- With no opening brace in the literals and no closing one in the names, a template reads as it is
put together. -/
theorem reads_written (plain : ∀ piece ∈ pieces, '\x7b' ∉ piece.literal ∧ '\x7d' ∉ piece.name)
    (plainLast : '\x7b' ∉ last) : Reads (written pieces last) pieces last := by
  induction pieces with
  | nil => exact .plain fun found => plainLast (found.subset List.mem_cons_self)
  | cons piece pieces ih =>
    obtain ⟨⟨literal, name⟩, rest⟩ := List.forall_mem_cons.1 plain
    rw [written, List.flatMap_cons, List.append_assoc]
    exact .piece (double_absent literal) (double_absent name) (ih rest)

end Filling

section Build

variable {values : Catalog String} {layers : List String} {pieces : List Piece} {last : List Char}

theorem build_written (plain : ∀ piece ∈ pieces, '\x7b' ∉ piece.literal ∧ '\x7d' ∉ piece.name)
    (plainLast : '\x7b' ∉ last) (shape : layered layers = written pieces last) :
    build layers values = String.ofList (filled values pieces last) := by
  rw [build, shape, (reads_written plain plainLast).fill]

theorem build_unbound
    (unbound : ∀ name, IsHole (layered layers) name → values.get? (String.ofList name) = none) :
    build layers values = String.ofList (layered layers) := by
  obtain ⟨pieces, last, reads⟩ := reads_total (layered layers)
  have free : ∀ piece ∈ pieces, values.get? (String.ofList piece.name) = none :=
    fun piece member => unbound piece.name ⟨pieces, last, reads, piece, member, rfl⟩
  rw [build, reads.fill, filled_unbound free, reads.written]

end Build

example : build ["Dear \x7b\x7bname\x7d\x7d,", " ", "\x7b\x7bname"]
    (.ofList [("name", "\x7b\x7bname\x7d\x7d")]) =
      "Dear \x7b\x7bname\x7d\x7d,\n\n\x7b\x7bname" := by
  decide +kernel

end Inquiry.Template
