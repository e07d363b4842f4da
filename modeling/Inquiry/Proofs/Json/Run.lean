import Inquiry.Json.Reading

/-! The reader over a whole text, where nothing in it is at fault. -/
namespace Inquiry.Json

namespace Reader

def after (limits : Limits) (reader : Reader) (text : List Char) : Except Cause Reader :=
  text.foldlM (Reader.step limits) reader

def Accepts (limits : Limits) (reader : Reader) (text : List Char) (value : Json) : Prop :=
  ∃ last, reader.after limits text = .ok last ∧ last.finish limits = .ok value

variable {limits : Limits} {reader next : Reader} {text rest : List Char} {c : Char} {value : Json}

@[simp] theorem after_nil : reader.after limits [] = .ok reader := rfl

theorem after_cons (stepped : reader.step limits c = .ok next) :
    reader.after limits (c :: rest) = next.after limits rest := by
  simp only [after, List.foldlM_cons, stepped]
  rfl

theorem after_append (first : reader.after limits text = .ok next) :
    reader.after limits (text ++ rest) = next.after limits rest := by
  unfold after at first ⊢
  rw [List.foldlM_append, first]
  rfl

theorem after_snoc (first : reader.after limits text = .ok next) :
    reader.after limits (text ++ [c]) = next.step limits c := by
  rw [after_append first, after, List.foldlM_cons]
  cases next.step limits c <;> rfl

theorem accepts_nil : reader.Accepts limits [] value ↔ reader.finish limits = .ok value := by
  simp [Accepts]

theorem accepts_cons : reader.Accepts limits (c :: rest) value ↔
    ∃ next, reader.step limits c = .ok next ∧ next.Accepts limits rest value := by
  constructor
  · rintro ⟨last, run, finished⟩
    cases stepped : reader.step limits c with
    | error cause =>
      simp only [after, List.foldlM_cons, stepped] at run
      cases run
    | ok next =>
      rw [after_cons stepped] at run
      exact ⟨next, rfl, last, run, finished⟩
  · rintro ⟨next, stepped, last, run, finished⟩
    exact ⟨last, (after_cons stepped).trans run, finished⟩

theorem run_ok (place : Place) :
    Reader.run limits place reader text = .ok value ↔ reader.Accepts limits text value := by
  induction text generalizing reader place with
  | nil =>
    rw [accepts_nil, Reader.run]
    cases reader.finish limits with
    | ok last => constructor <;> rintro ⟨⟩ <;> rfl
    | error cause => exact ⟨nofun, nofun⟩
  | cons c rest ih =>
    rw [accepts_cons, Reader.run]
    cases stepped : reader.step limits c with
    | error cause => simp
    | ok next => simp [ih]

end Reader

theorem read_ok {text : List Char} {value : Json} :
    read text = .ok value ↔ Reader.start.Accepts .usual text value :=
  Reader.run_ok .start

theorem blank_iff {c : Char} : isBlank c = true ↔ c = ' ' ∨ c = '\t' ∨ c = '\n' ∨ c = '\r' := by
  simp [isBlank, or_assoc]

theorem step_blank {limits : Limits} {state : State} {c : Char} (blank : isBlank c = true) :
    Reader.step limits ⟨none, state⟩ c = .ok ⟨none, state⟩ := by
  simp [Reader.step, State.step, blank]

theorem after_blanks {limits : Limits} {state : State} {gap : List Char}
    (blank : ∀ c ∈ gap, isBlank c = true) :
    Reader.after limits ⟨none, state⟩ gap = .ok ⟨none, state⟩ := by
  induction gap with
  | nil => rfl
  | cons c rest ih =>
    rw [Reader.after_cons (step_blank (blank c List.mem_cons_self))]
    exact ih fun d member => blank d (List.mem_cons_of_mem _ member)

end Inquiry.Json
