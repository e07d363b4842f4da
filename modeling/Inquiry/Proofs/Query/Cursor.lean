import Inquiry.Proofs.Query.Filter

/-!
What the calls chained onto `find` must be, and that each of them is checked in its turn until one of
them counts. What comes after a call that counts is never looked at.
-/
namespace Inquiry.Decimal

inductive Writes : List Char → Int → Prop
  | plain {digits : List Char} (numeral : isNumeral digits = true) : Writes digits (valueOf digits)
  | plus {digits : List Char} (numeral : isNumeral digits = true) :
      Writes ('+' :: digits) (valueOf digits)
  | minus {digits : List Char} (numeral : isNumeral digits = true) :
      Writes ('-' :: digits) (-(valueOf digits : Int))

section Reading

variable {digits text : List Char} {n : Int}

theorem natOf_iff {n : Nat} :
    natOf? digits = some n ↔ isNumeral digits = true ∧ n = valueOf digits := by
  unfold natOf?
  split
  next numeral => simp [numeral, eq_comm]
  next other => simp [other]

theorem map_natOf {f : Int → Int} (read : Option.map f (do return ↑(← natOf? digits)) = some n) :
    isNumeral digits = true ∧ n = f (valueOf digits) := by
  obtain ⟨_, lifted, rfl⟩ := Option.map_eq_some_iff.1 read
  obtain ⟨value, natural, same⟩ := Option.bind_eq_some_iff.1 lifted
  cases same
  obtain ⟨numeral, rfl⟩ := natOf_iff.1 natural
  exact ⟨numeral, rfl⟩

theorem unsigned_head (numeral : isNumeral digits = true) (rest : List Char) :
    digits ≠ '-' :: rest ∧ digits ≠ '+' :: rest := by
  have digit := (Json.numeral_digit numeral).2
  constructor <;>
    · rintro rfl
      exact absurd (digit _ List.mem_cons_self) (by decide)

theorem intOf_iff : intOf? text = some n ↔ Writes text n := by
  constructor
  · intro read
    unfold intOf? at read
    split at read
    all_goals obtain ⟨numeral, rfl⟩ := map_natOf read
    · exact .minus numeral
    · exact .plus numeral
    · exact .plain numeral
  · intro writes
    cases writes with
    | plain numeral =>
      obtain ⟨minus, plus⟩ := forall_and.1 (unsigned_head numeral)
      rw [intOf?, natOf_iff.2 ⟨numeral, rfl⟩]
      · rfl
      · exact minus
      · exact plus
    | plus numeral => simp [intOf?, natOf_iff.2 ⟨numeral, rfl⟩]
    | minus numeral => simp [intOf?, natOf_iff.2 ⟨numeral, rfl⟩]

theorem Writes.characters (writes : Writes text n) :
    text ≠ [] ∧ ∀ c ∈ text, c.isDigit = true ∨ c = '-' ∨ c = '+' := by
  have digit {digits : List Char} (numeral : isNumeral digits = true) :
      digits ≠ [] ∧ ∀ c ∈ digits, c.isDigit = true ∨ c = '-' ∨ c = '+' :=
    (Json.numeral_digit numeral).imp_right fun digit c member => .inl (digit c member)
  cases writes with
  | plain numeral => exact digit numeral
  | plus numeral =>
    exact ⟨List.cons_ne_nil _ _, List.forall_mem_cons.2 ⟨.inr (.inr rfl), (digit numeral).2⟩⟩
  | minus numeral =>
    exact ⟨List.cons_ne_nil _ _, List.forall_mem_cons.2 ⟨.inr (.inl rfl), (digit numeral).2⟩⟩

end Reading

end Inquiry.Decimal

namespace Inquiry.Query

open Inquiry.Bracket

def IsInteger64 (text : List Char) (n : Int) : Prop :=
  ∃ before digits after, text = before ++ digits ++ after ∧ Text.IsWhite before ∧
    Text.IsWhite after ∧ Decimal.Writes digits n ∧ -Decimal.int64Bound ≤ n ∧ n < Decimal.int64Bound

def Call.counts (call : Call) : Bool := call.method == "count" || call.method == "countDocuments"

def cursorMethods : List String :=
  ["sort", "skip", "limit", "count", "countDocuments", "pretty", "toArray"]

inductive Call.IsFaulty (now : Int) (call : Call) : Prop
  | unknown (other : call.method ∉ cursorMethods)
  | number (numeric : call.method = "skip" ∨ call.method = "limit")
      (malformed : ∀ n, ¬ IsInteger64 call.argument n)
  | order (sorts : call.method = "sort")
      (malformed : ∀ front group back order, IsFirstGroup call.argument front group back →
        document now group ≠ .ok order)

section Numbers

variable {text : List Char} {call : Call} {n : Int}

theorem writes_visible (writes : Decimal.Writes text n) : ∀ c ∈ text, Text.isWhitespace c = false := by
  intro c member
  rcases writes.characters.2 c member with digit | rfl | rfl
  · exact (Relaxed.digit_part digit).1.2.2.2
  · decide
  · decide

theorem cursorNumber_iff : cursorNumber call = .ok n ↔ IsInteger64 call.argument n := by
  have within : Decimal.intWithin? (-Decimal.int64Bound) (Decimal.int64Bound - 1)
      (Text.trim call.argument) = some n ↔ Decimal.Writes (Text.trim call.argument) n ∧
        -Decimal.int64Bound ≤ n ∧ n < Decimal.int64Bound := by
    rw [Decimal.intWithin?, Option.filter_eq_some_iff, Decimal.intOf_iff, Bool.and_eq_true,
      decide_eq_true_eq, decide_eq_true_eq, Int.le_sub_one_iff]
  have read : cursorNumber call = .ok n ↔ Decimal.intWithin? (-Decimal.int64Bound)
      (Decimal.int64Bound - 1) (Text.trim call.argument) = some n := by
    unfold cursorNumber
    split
    next found => simp [found]
    next found => simp [found]
  rw [read, within]
  constructor
  · rintro ⟨writes, low, high⟩
    obtain ⟨before, after, shape, white, whiteAfter⟩ := Text.trim_parts call.argument
    exact ⟨before, _, after, shape, white, whiteAfter, writes, low, high⟩
  · rintro ⟨before, digits, after, shape, white, whiteAfter, writes, low, high⟩
    rw [shape, Text.trim_spaced white whiteAfter writes.characters.1 (writes_visible writes)]
    exact ⟨writes, low, high⟩

theorem sortOrder_iff {now : Int} {order : Document} : sortOrder now call = .ok order ↔
    ∃ front group back, IsFirstGroup call.argument front group back ∧
      document now group = .ok order := by
  constructor
  · intro read
    obtain ⟨found, grouped, read⟩ := bind_ok read
    cases found with
    | none => cases read
    | some group =>
      obtain ⟨front, back, first⟩ := group_first.1 grouped
      exact ⟨front, group, back, first, read⟩
  · rintro ⟨front, group, back, first, read⟩
    rw [sortOrder, group_first.2 ⟨front, back, first⟩]
    exact read

end Numbers

def Cursor.after (now : Int) (cursor : Cursor) (call : Call) : Except Fault Cursor :=
  match call.method with
  | "sort" => return { cursor with sort := some (← sortOrder now call) }
  | "skip" => return { cursor with skip := some (← cursorNumber call) }
  | "limit" => return { cursor with limit := some (← cursorNumber call) }
  | "pretty" | "toArray" => .ok cursor
  | method => .error (.unsupportedMethod method)

section Calls

variable {now : Int} {cursor : Cursor} {call : Call} {calls before rest : List Call} {fault : Fault}

theorem follow_counts (counts : call.counts = true) :
    Cursor.follow now cursor (call :: rest) = .ok none := by
  simp only [Call.counts, Bool.or_eq_true, beq_iff_eq] at counts
  rcases counts with method | method <;> simp [Cursor.follow, method]

theorem after_unknown (other : call.method ∉ cursorMethods) :
    cursor.after now call = .error (.unsupportedMethod call.method) := by
  simp only [cursorMethods, List.mem_cons, List.not_mem_nil, or_false, not_or] at other
  unfold Cursor.after
  split <;> simp_all

theorem follow_unknown (other : call.method ∉ cursorMethods) :
    Cursor.follow now cursor (call :: rest) = .error (.unsupportedMethod call.method) := by
  simp only [cursorMethods, List.mem_cons, List.not_mem_nil, or_false, not_or] at other
  rw [Cursor.follow]
  split <;> simp_all

theorem follow_cons (goesOn : call.counts = false) :
    Cursor.follow now cursor (call :: rest) =
      cursor.after now call >>= fun next => Cursor.follow now next rest := by
  by_cases known : call.method ∈ cursorMethods
  · simp only [Call.counts, Bool.or_eq_false_iff, beq_eq_false_iff_ne] at goesOn
    simp only [cursorMethods, List.mem_cons, List.not_mem_nil, or_false, goesOn, false_or] at known
    rcases known with method | method | method | method | method
    all_goals simp only [Cursor.follow, Cursor.after, method]
    · cases sortOrder now call <;> rfl
    · cases cursorNumber call <;> rfl
    · cases cursorNumber call <;> rfl
    · rfl
    · rfl
  · rw [follow_unknown known, after_unknown known]
    rfl

theorem faulty_order (method : call.method = "sort") :
    call.IsFaulty now ↔ ∀ order, sortOrder now call ≠ .ok order := by
  constructor
  · intro faulty order read
    obtain ⟨front, group, back, first, read⟩ := sortOrder_iff.1 read
    cases faulty with
    | unknown other => exact other (method ▸ by decide)
    | number numeric => simp [method] at numeric
    | order _ malformed => exact malformed front group back order first read
  · exact fun malformed => .order method fun front group back order first read =>
      malformed order (sortOrder_iff.2 ⟨front, group, back, first, read⟩)

theorem faulty_number (method : call.method = "skip" ∨ call.method = "limit") :
    call.IsFaulty now ↔ ∀ n, cursorNumber call ≠ .ok n := by
  constructor
  · intro faulty n read
    cases faulty with
    | unknown other => rcases method with method | method <;> exact other (method ▸ by decide)
    | number _ malformed => exact malformed n (cursorNumber_iff.1 read)
    | order sorts => rcases method with method | method <;> simp [method] at sorts
  · exact fun malformed => .number method fun n isInteger => malformed n (cursorNumber_iff.2 isInteger)

theorem faulty_neutral (method : call.method = "pretty" ∨ call.method = "toArray") :
    ¬ call.IsFaulty now := by
  intro faulty
  cases faulty with
  | unknown other => rcases method with method | method <;> exact other (method ▸ by decide)
  | number numeric => rcases method with method | method <;> simp [method] at numeric
  | order sorts => rcases method with method | method <;> simp [method] at sorts

/-- A call that does not count is refused exactly when it is faulty. -/
theorem after_fails (goesOn : call.counts = false) :
    (∃ fault, cursor.after now call = .error fault) ↔ call.IsFaulty now := by
  by_cases known : call.method ∈ cursorMethods
  · simp only [Call.counts, Bool.or_eq_false_iff, beq_eq_false_iff_ne] at goesOn
    simp only [cursorMethods, List.mem_cons, List.not_mem_nil, or_false, goesOn, false_or] at known
    rcases known with method | method | method | method | method
    all_goals simp only [Cursor.after, method]
    · rw [map_fails, fails_iff, faulty_order method]
    · rw [map_fails, fails_iff, faulty_number (.inl method)]
    · rw [map_fails, fails_iff, faulty_number (.inr method)]
    · simp [faulty_neutral (.inl method)]
    · simp [faulty_neutral (.inr method)]
  · exact iff_of_true ⟨_, after_unknown known⟩ (.unknown known)

/-- The calls that are looked at: all before the first one that counts. -/
def counted (calls : List Call) : List Call := calls.takeWhile fun call => !call.counts

theorem follow_fails : (∃ fault, Cursor.follow now cursor calls = .error fault) ↔
    ∃ call ∈ counted calls, call.IsFaulty now := by
  induction calls generalizing cursor with
  | nil => exact iff_of_false (fun ⟨_, same⟩ => by cases same) fun ⟨_, member, _⟩ => by cases member
  | cons call rest ih =>
    cases counts : call.counts with
    | true =>
      have uncounted : counted (call :: rest) = [] := by simp [counted, counts]
      rw [follow_counts counts, uncounted]
      exact iff_of_false (fun ⟨_, same⟩ => by cases same) fun ⟨_, member, _⟩ => by cases member
    | false =>
      have more : counted (call :: rest) = call :: counted rest := by simp [counted, counts]
      rw [follow_cons counts, bind_fails, after_fails counts, more, List.exists_mem_cons_iff]
      constructor
      · rintro (faulty | ⟨next, _, fails⟩)
        · exact .inl faulty
        · exact .inr (ih.1 fails)
      · rintro (faulty | later)
        · exact .inl faulty
        · cases made : cursor.after now call with
          | error fault => exact .inl ((after_fails counts).1 ⟨fault, made⟩)
          | ok next => exact .inr ⟨next, rfl, ih.2 later⟩

theorem follow_counted (counts : call.counts = true) :
    Cursor.follow now cursor (before ++ call :: rest) =
      Cursor.follow now cursor (before ++ [call]) := by
  induction before generalizing cursor with
  | nil => rw [List.nil_append, List.nil_append, follow_counts counts, follow_counts counts]
  | cons first before ih =>
    rw [List.cons_append, List.cons_append]
    cases counted : first.counts with
    | true => rw [follow_counts counted, follow_counts counted]
    | false => simp only [follow_cons counted, ih]

end Calls

def folded (filter : Document) (projection : Option Document) : Option Cursor → Operation
  | none => .count filter
  | some ⟨none, none, none⟩ =>
    match projection with
    | none => .find filter
    | some _ => .aggregate (pipelineOf filter ⟨none, none, none⟩ projection)
  | some cursor => .aggregate (pipelineOf filter cursor projection)

theorem findOperation_folded (now : Int) (arguments : List Char) (calls : List Call) :
    findOperation now arguments calls = do
      let filter ← optionalDocument now ((Bracket.arguments arguments).headD [])
      let projection ← projection? now (Bracket.arguments arguments)
      let settings ← Cursor.follow now ⟨none, none, none⟩ calls
      return folded filter projection settings := by
  refine congrArg (optionalDocument now _ >>= ·) (funext fun filter => ?_)
  refine congrArg (projection? now _ >>= ·) (funext fun projection => ?_)
  refine congrArg (Cursor.follow now _ calls >>= ·) (funext fun settings => ?_)
  rcases settings with _ | ⟨order, skip, limit⟩
  · rfl
  · cases order <;> cases skip <;> cases limit <;> cases projection <;> rfl

/-- A chain is refused exactly for a faulty call before the first one that counts; what follows that
one is passed over. -/
theorem findOperation_fails (now : Int) (arguments : List Char) (calls : List Call) :
    ((∃ fault, findOperation now arguments calls = .error fault) ↔
      (∃ fault, findOperation now arguments [] = .error fault) ∨
        ∃ call ∈ counted calls, call.IsFaulty now) ∧
    ∀ before call rest, calls = before ++ call :: rest → call.counts = true →
      findOperation now arguments calls = findOperation now arguments (before ++ [call]) := by
  constructor
  · have never (operation : Operation) :
        ¬ ∃ fault, (pure operation : Except Fault Operation) = .error fault :=
      fun ⟨_, same⟩ => by cases same
    simp only [findOperation_folded, bind_fails, follow_fails, never, and_false, exists_false, or_false]
    cases optionalDocument now ((Bracket.arguments arguments).headD []) with
    | error fault => simp
    | ok filter =>
      cases projection? now (Bracket.arguments arguments) with
      | error fault => simp
      | ok projection => simp [counted]
  · rintro before call rest rfl counts
    rw [findOperation_folded, findOperation_folded, follow_counted counts]

def countedCalls : List Call := [⟨"count", []⟩, ⟨"forEach", "printjson".toList⟩]

theorem findOperation_fails_counted : Call.counts ⟨"count", []⟩ = true ∧
    findOperation 0 "\x7b\x7d".toList countedCalls =
      findOperation 0 "\x7b\x7d".toList [⟨"count", []⟩] :=
  ⟨by decide,
    (findOperation_fails 0 "\x7b\x7d".toList countedCalls).2 [] ⟨"count", []⟩ _ rfl (by decide)⟩

/-- A chain with a faulty call that is taken. -/
theorem findOperation_counted : (∃ call ∈ countedCalls, call.IsFaulty 0) ∧
    findOperation 0 "\x7b\x7d".toList countedCalls = .ok (.count []) :=
  ⟨⟨⟨"forEach", "printjson".toList⟩, by simp [countedCalls], .unknown (by decide)⟩, by cbv⟩

end Inquiry.Query
