import Inquiry.Proofs.Query.Chain
import Inquiry.Proofs.Query.Offsets
import Inquiry.Proofs.Query.Surroundings
import Inquiry.Proofs.Query.Walk

/-!
Reading a query with every access checked: a place outside the text, an offset within a character, a
depth below zero, a loop that does not end and a magnitude that no machine integer has would stop it.
For all texts nothing of the kind happens, the limit without a magnitude aside, and what is read is
the query or the fault that the unchecked reading gives.
-/
namespace Inquiry.Query

open Inquiry.Bracket

/-- One turn of the loop over chained calls: the text behind the last call, and the calls so far. -/
def chainTurn : List Char × List Call → Option (Progress (List Char × List Call) (List Call))
  | (text, calls) =>
    match Text.after? ['.'] (Text.trimStart text) with
    | none => some (.done calls)
    | some dotted => do
      let dotted := Text.trimStart dotted
      let (method, opened) ← Text.cut? (Text.size (dotted.takeWhile isMethodChar)) dotted
      match Text.after? ['('] (Text.trimStart opened) with
      | none => return .done calls
      | some inner =>
        if method.isEmpty then return .done calls
        match closeOffset? inner with
        | some close =>
          let argument ← Text.slice? 0 close inner
          let following ← Text.slice? (close + 1) (Text.size inner) inner
          return .on (following, calls ++ [⟨String.ofList method, argument⟩])
        | none => return .done (calls ++ [⟨String.ofList method, inner⟩])

def chain? (text : List Char) : Option (List Call) := turns chainTurn (text.length + 1) (text, [])

section Chains

variable {text rest : List Char} {calls : List Call}

theorem closed_slices {inside after : List Char} (closed : closeCall? text = some (inside, after)) :
    closeOffset? text = some (Text.size inside) ∧
      Text.slice? 0 (Text.size inside) text = some inside ∧
      Text.slice? (Text.size inside + 1) (Text.size text) text = some after := by
  obtain ⟨closer, closing, rfl⟩ := splitClose_inv closed
  refine ⟨by rw [closeOffset_eq, closed]; rfl, ?_, ?_⟩
  · have cut := Text.slice_append [] inside (closer :: after)
    rwa [Text.size_nil, Nat.zero_add] at cut
  · have cut := Text.slice_append (inside ++ [closer]) after []
    have behind : Text.size (inside ++ [closer]) = Text.size inside + 1 := by
      rw [Text.size_append, Text.size_cons, bracket_size (.inr closing), Text.size_nil]
    rw [behind] at cut
    simpa [bracket_size (.inr closing), Nat.add_assoc] using cut

/-- A turn takes the call that stands first, as long as one does. -/
theorem chainTurn_eq (text : List Char) (calls : List Call) :
    call? text = none ∧ chainTurn (text, calls) = some (.done calls) ∨
    (∃ call, call? text = some (call, []) ∧ chainTurn (text, calls) = some (.done (calls ++ [call]))) ∨
    ∃ call rest, call? text = some (call, rest) ∧
      chainTurn (text, calls) = some (.on (rest, calls ++ [call])) := by
  cases dot : Text.after? ['.'] (Text.trimStart text) with
  | none => exact .inl ⟨by simp [call?, dot], by simp [chainTurn, dot]⟩
  | some dotted =>
    have cut := Text.cut_append ((Text.trimStart dotted).takeWhile isMethodChar)
      ((Text.trimStart dotted).dropWhile isMethodChar)
    rw [List.takeWhile_append_dropWhile] at cut
    cases opened : Text.after? ['('] (Text.trimStart ((Text.trimStart dotted).dropWhile isMethodChar)) with
    | none => exact .inl ⟨by simp [call?, dot, opened], by simp [chainTurn, dot, cut, opened]⟩
    | some inner =>
      simp only [call?, chainTurn, dot, cut, opened, bind, Option.bind_some]
      generalize (Text.trimStart dotted).takeWhile isMethodChar = method
      by_cases nameless : method.isEmpty = true
      · exact .inl ⟨by rw [if_pos nameless]; rfl, by rw [if_pos nameless]; rfl⟩
      rw [if_neg nameless, if_neg nameless]
      cases closed : closeCall? inner with
      | none =>
        have offset : closeOffset? inner = none := by
          rw [closeOffset_eq, closed]
          rfl
        rw [offset]
        exact .inr (.inl ⟨_, rfl, rfl⟩)
      | some parts =>
        obtain ⟨offset, argument, following⟩ := closed_slices closed
        rw [offset]
        simp only [argument, following]
        exact .inr (.inr ⟨_, _, rfl, rfl⟩)

/-- The turns end with the whole chain, each behind a text that has become shorter. -/
theorem chain_turns (text : List Char) : chain? text = some (chain text) := by
  have sound (state : List Char × List Call) : Sound chainTurn (fun state => state.1.length)
      (fun state result => result = state.2 ++ chain state.1) state := by
    obtain ⟨text, calls⟩ := state
    rcases chainTurn_eq text calls with ⟨stops, last⟩ | ⟨call, found, last⟩ | ⟨call, rest, found, goesOn⟩
    · exact .done last (by rw [chain_stops stops, List.append_nil])
    · exact .done last (by rw [chain_cons found, chain_nil])
    · refine .on goesOn (call_length found) fun result same => ?_
      rw [same, chain_cons found, List.append_assoc]
      rfl
  obtain ⟨result, found, rfl⟩ := turns_sound sound (text, []) (Nat.lt_succ_self _)
  exact found

end Chains

/-- A reading that may fail, and that an access outside, a loop without an end or an overflow would
stop. -/
abbrev Checked (α : Type) := ExceptT Fault Option α

namespace Checked

def sure {α : Type} (attempt : Except Fault α) : Checked α := ExceptT.mk (some attempt)

def json (now : Int) (text : List Char) : Option (Except Json.Fault Json) :=
  match Json.read text with
  | .ok value => some (.ok value)
  | .error _ => do return Json.read (← Relaxed.strict? (ValueCall.expand now text))

def value (now : Int) (text : List Char) : Checked Value := do
  match ← json now text with
  | .error fault => throw (.invalidDocument (.malformed fault))
  | .ok tree =>
    match Extended.value? tree with
    | some value => return value
    | none => throw (.invalidDocument .misshapen)

def document (now : Int) (text : List Char) : Checked Document := do
  match ← value now text with
  | .document fields => return fields
  | other => throw (.invalidDocument (.notObject other))

def optionalDocument (now : Int) (text : List Char) : Checked Document := do
  match ← ExceptT.mk (groupSlice? '\x7b' text) with
  | some group => document now group
  | none => return []

def sortOrder (now : Int) (call : Call) : Checked Document := do
  match ← ExceptT.mk (groupSlice? '\x7b' call.argument) with
  | some group => document now group
  | none => throw (.invalidArgument call.method)

def follow (now : Int) (cursor : Cursor) : List Call → Checked (Option Cursor)
  | [] => return some cursor
  | call :: rest =>
    match call.method with
    | "count" | "countDocuments" => return none
    | "sort" => do
      let order ← sortOrder now call
      follow now { cursor with sort := some order } rest
    | "skip" => do
      let n ← sure (cursorNumber call)
      follow now { cursor with skip := some n } rest
    | "limit" => do
      let n ← sure (cursorNumber call)
      follow now { cursor with limit := some n } rest
    | "pretty" | "toArray" => follow now cursor rest
    | method => throw (.unsupportedMethod method)

/-- The least integer of 64 bits has no magnitude of 64 bits. -/
def magnitude? (n : Int) : Option Nat := if n = -Decimal.int64Bound then none else some n.natAbs

def limitStage : Option Int → Option (List Document)
  | some n =>
    if n ≠ 0 then do return [stage "$limit" (.long (Int64.ofInt (← magnitude? n)))] else return []
  | none => return []

def pipelineOf (filter : Document) (cursor : Cursor) (projection : Option Document) :
    Option (List Document) := do
  let limits ← limitStage cursor.limit
  return matchStage filter ++ sortStage cursor.sort ++ skipStage cursor.skip ++ limits
    ++ projectStage projection

def folded (filter : Document) (projection : Option Document) : Option Cursor → Option Operation
  | none => return .count filter
  | some ⟨none, none, none⟩ =>
    match projection with
    | none => return .find filter
    | some _ => do return .aggregate (← pipelineOf filter ⟨none, none, none⟩ projection)
  | some cursor => do return .aggregate (← pipelineOf filter cursor projection)

def projection? (now : Int) : List (List Char) → Checked (Option Document)
  | _ :: raw :: _ => do
    let fields ← optionalDocument now raw
    return if fields.isEmpty then none else some fields
  | _ => return none

def findOperation (now : Int) (arguments : List Char) (calls : List Call) : Checked Operation := do
  let parts ← argumentSlices? arguments
  let filter ← optionalDocument now (parts.headD [])
  let projection ← projection? now parts
  let settings ← follow now ⟨none, none, none⟩ calls
  folded filter projection settings

def pipeline (now : Int) (text : List Char) : Checked (List Document) := do
  match ← value now text with
  | .list items => sure (stages 0 items)
  | _ => throw .missingPipeline

def aggregateOperation (now : Int) (arguments : List Char) (calls : List Call) :
    Checked Operation := do
  sure (rejectCalls calls)
  match ← ExceptT.mk (groupSlice? '[' arguments) with
  | some group => return .aggregate (← pipeline now group)
  | none => throw .missingPipeline

def countOperation (now : Int) (arguments : List Char) (calls : List Call) : Checked Operation := do
  sure (rejectCalls calls)
  return .count (← optionalDocument now arguments)

def callParts (rest : List Char) : Option (List Char × List Call) :=
  match closeOffset? rest with
  | some close => do
    let arguments ← Text.slice? 0 close rest
    let after ← Text.slice? (close + 1) (Text.size rest) rest
    return (arguments, ← chain? after)
  | none => return (rest, [])

def operationOf (now : Int) (command : Invocation) : Checked Operation := do
  let (arguments, calls) ← callParts command.rest
  match command.method with
  | .find => findOperation now arguments calls
  | .aggregate => aggregateOperation now arguments calls
  | .count => countOperation now arguments calls

def ofCode (now : Int) (code : List Char) : Checked Query :=
  match command? code with
  | none => throw .noCommand
  | some command => do
    let rest ← Text.slice? (Text.size code - Text.size command.rest) (Text.size code) code
    return ⟨command.collection, ← operationOf now { command with rest }⟩

def ofText (now : Int) (text : String) : Checked Query := ofCode now (withoutFences text.toList)

end Checked

def Checked.Runs {α : Type} (reading : Checked α) (outcome : Except Fault α) : Prop :=
  reading.run = some outcome

section Runs

variable {α β : Type} {now : Int} {reading : Checked α} {outcome : Except Fault α}

theorem Checked.Runs.bind {next : α → Checked β} {rest : α → Except Fault β}
    (runs : reading.Runs outcome)
    (goesOn : ∀ value, outcome = .ok value → (next value).Runs (rest value)) :
    Checked.Runs (reading >>= next) (outcome >>= rest) := by
  obtain rfl : reading = .sure outcome := runs
  cases outcome with
  | error fault => rfl
  | ok value => exact goesOn value rfl

theorem Checked.Runs.lift {part : Option α} {value : α} {next : α → Checked β}
    {outcome : Except Fault β} (found : part = some value) (goesOn : (next value).Runs outcome) :
    Checked.Runs ((liftM part : Checked α) >>= next) outcome := by
  subst found
  exact goesOn

theorem json_runs (now : Int) (text : List Char) : Checked.json now text = some (json now text) := by
  unfold Checked.json json
  rw [Relaxed.strict_walk]
  cases Json.read text <;> rfl

theorem value_runs (now : Int) (text : List Char) :
    (Checked.value now text).Runs (value now text) := by
  refine .lift (json_runs now text) ?_
  unfold value
  cases json now text with
  | error fault => rfl
  | ok tree =>
    simp only
    cases Extended.value? tree <;> rfl

theorem document_runs (now : Int) (text : List Char) :
    (Checked.document now text).Runs (document now text) :=
  (value_runs now text).bind fun value _ => by cases value <;> rfl

theorem optionalDocument_runs (now : Int) (text : List Char) :
    (Checked.optionalDocument now text).Runs (optionalDocument now text) :=
  .bind (groupSlice_eq rfl text) fun group _ => by
    cases group with
    | none => rfl
    | some group => exact document_runs now group

theorem sortOrder_runs (now : Int) (call : Call) :
    (Checked.sortOrder now call).Runs (sortOrder now call) :=
  .bind (groupSlice_eq rfl call.argument) fun group _ => by
    cases group with
    | none => rfl
    | some group => exact document_runs now group

theorem follow_runs (now : Int) (cursor : Cursor) (calls : List Call) :
    (Checked.follow now cursor calls).Runs (Cursor.follow now cursor calls) := by
  fun_induction Cursor.follow now cursor calls with
  | case1 => rfl
  | case2 _ _ _ method | case3 _ _ _ method =>
    simp only [Checked.follow, method]
    rfl
  | case4 _ call _ method ih =>
    simp only [Checked.follow, method]
    exact (sortOrder_runs now call).bind fun order _ => ih order
  | case5 _ _ _ method ih | case6 _ _ _ method ih =>
    simp only [Checked.follow, method]
    exact .bind rfl fun n _ => ih n
  | case7 _ _ _ method ih | case8 _ _ _ method ih =>
    simp only [Checked.follow, method]
    exact ih
  | case9 =>
    simp only [Checked.follow]
    rfl

theorem projection_runs (now : Int) (parts : List (List Char)) :
    (Checked.projection? now parts).Runs (projection? now parts) := by
  match parts with
  | [] | [_] => rfl
  | _ :: raw :: _ => exact (optionalDocument_runs now raw).bind fun fields _ => rfl

theorem pipeline_runs (now : Int) (text : List Char) :
    (Checked.pipeline now text).Runs (pipeline now text) :=
  (value_runs now text).bind fun value _ => by cases value <;> rfl

theorem aggregateOperation_runs (now : Int) (arguments : List Char) (calls : List Call) :
    (Checked.aggregateOperation now arguments calls).Runs (aggregateOperation now arguments calls) :=
  .bind rfl fun _ _ => .bind (groupSlice_eq rfl arguments) fun group _ => by
    cases group with
    | none => rfl
    | some group => exact (pipeline_runs now group).bind fun _ _ => rfl

theorem countOperation_runs (now : Int) (arguments : List Char) (calls : List Call) :
    (Checked.countOperation now arguments calls).Runs (countOperation now arguments calls) :=
  .bind rfl fun _ _ => (optionalDocument_runs now arguments).bind fun _ _ => rfl

/-- The limit of a chain is one that a call sets. -/
theorem follow_limit {cursor last : Cursor} {calls : List Call} {n : Int}
    (followed : Cursor.follow now cursor calls = .ok (some last)) (limit : last.limit = some n) :
    cursor.limit = some n ∨
      ∃ call ∈ calls, call.method = "limit" ∧ IsInteger64 call.argument n := by
  have later {call : Call} {calls : List Call} {P : Prop}
      (set : P ∨ ∃ call ∈ calls, call.method = "limit" ∧ IsInteger64 call.argument n) :
      P ∨ ∃ other ∈ call :: calls, other.method = "limit" ∧ IsInteger64 other.argument n :=
    set.imp_right fun ⟨other, member, sets⟩ => ⟨other, List.mem_cons_of_mem _ member, sets⟩
  fun_induction Cursor.follow now cursor calls with
  | case1 =>
    cases followed
    exact .inl limit
  | case2 | case3 | case9 => cases followed
  | case4 _ call _ _ ih =>
    obtain ⟨order, -, followed⟩ := bind_ok followed
    exact later (ih order followed)
  | case5 _ call _ _ ih =>
    obtain ⟨skip, -, followed⟩ := bind_ok followed
    exact later (ih skip followed)
  | case6 _ call _ method ih =>
    obtain ⟨set, read, followed⟩ := bind_ok followed
    rcases ih set followed with same | other
    · cases same
      exact .inr ⟨call, List.mem_cons_self, method, cursorNumber_iff.1 read⟩
    · exact later (.inr other)
  | case7 _ _ _ _ ih | case8 _ _ _ _ ih => exact later (ih followed)

theorem limitStage_some {limit : Option Int} (bounded : limit ≠ some (-Decimal.int64Bound)) :
    Checked.limitStage limit = some (limitStage limit) := by
  cases limit with
  | none => rfl
  | some n =>
    have magnitude : Checked.magnitude? n = some n.natAbs := if_neg fun least => bounded (by rw [least])
    rw [Checked.limitStage, limitStage, magnitude]
    split <;> rfl

theorem pipelineOf_some {filter : Document} {cursor : Cursor} {projection : Option Document}
    (bounded : cursor.limit ≠ some (-Decimal.int64Bound)) :
    Checked.pipelineOf filter cursor projection = some (pipelineOf filter cursor projection) := by
  rw [Checked.pipelineOf, limitStage_some bounded]
  rfl

theorem folded_some {filter : Document} {projection : Option Document} {settings : Option Cursor}
    (bounded : ∀ cursor, settings = some cursor → cursor.limit ≠ some (-Decimal.int64Bound)) :
    Checked.folded filter projection settings = some (folded filter projection settings) := by
  cases settings with
  | none => rfl
  | some cursor =>
    have pipelines := @pipelineOf_some filter cursor projection (bounded cursor rfl)
    obtain ⟨order, skip, limit⟩ := cursor
    cases order <;> cases skip <;> cases limit <;> cases projection <;>
      simp only [Checked.folded, folded, pipelines] <;> rfl

theorem findOperation_runs (now : Int) (arguments : List Char) {calls : List Call}
    (bounded : ∀ call ∈ calls, call.method = "limit" →
      ¬ IsInteger64 call.argument (-Decimal.int64Bound)) :
    (Checked.findOperation now arguments calls).Runs (findOperation now arguments calls) := by
  rw [findOperation_folded]
  refine .lift (argumentSlices_eq arguments) ((optionalDocument_runs now _).bind fun filter _ => ?_)
  refine (projection_runs now _).bind fun projection _ => ?_
  refine (follow_runs now _ calls).bind fun settings followed => ?_
  have folds := @folded_some filter projection settings fun cursor same least => by
    rw [same] at followed
    rcases follow_limit followed least with unlimited | ⟨call, member, method, isLeast⟩
    · cases unlimited
    · exact bounded call member method isLeast
  rw [folds]
  rfl

theorem callParts_some (rest : List Char) : Checked.callParts rest = some (callParts rest) := by
  unfold Checked.callParts callParts
  cases closed : closeCall? rest with
  | none =>
    rw [closeOffset_eq, closed]
    rfl
  | some parts =>
    obtain ⟨offset, argument, following⟩ := closed_slices closed
    rw [offset]
    simp only [argument, following, chain_turns]
    rfl

theorem command_suffix {code : List Char} {command : Invocation} (found : command? code = some command) :
    ∃ front, code = front ++ command.rest := by
  induction code with
  | nil => cases found
  | cons c code ih =>
    rw [command?] at found
    split at found
    next here =>
      cases found
      obtain ⟨call, -, shape⟩ := commandHere_inv here
      exact ⟨call, shape⟩
    next =>
      obtain ⟨front, shape⟩ := ih found
      exact ⟨c :: front, by rw [shape]; rfl⟩

/-- The one number that a cursor takes and that has no magnitude, as the limit of a query. -/
def HasLeastLimit (text : String) : Prop :=
  ∃ command, command? (withoutFences text.toList) = some command ∧ command.method = .find ∧
    ∃ call ∈ (callParts command.rest).2, call.method = "limit" ∧
      IsInteger64 call.argument (-Decimal.int64Bound)

theorem operationOf_runs (now : Int) {command : Invocation}
    (bounded : command.method = .find → ∀ call ∈ (callParts command.rest).2, call.method = "limit" →
      ¬ IsInteger64 call.argument (-Decimal.int64Bound)) :
    (Checked.operationOf now command).Runs (operationOf now command) := by
  refine .lift (callParts_some command.rest) ?_
  unfold operationOf
  cases method : command.method with
  | find => exact findOperation_runs now _ (bounded method)
  | aggregate => exact aggregateOperation_runs now _ _
  | count => exact countOperation_runs now _ _

theorem ofText_runs (now : Int) {text : String} (bounded : ¬ HasLeastLimit text) :
    (Checked.ofText now text).Runs (ofText now text) := by
  unfold Checked.ofText Checked.ofCode ofText ofCode
  cases found : command? (withoutFences text.toList) with
  | none => rfl
  | some command =>
    obtain ⟨front, shape⟩ := command_suffix found
    have cut := Text.slice_append front command.rest []
    have size := congrArg Text.size shape
    rw [Text.size_append] at size
    rw [List.append_nil, ← shape, ← size, ← Nat.add_sub_cancel_right (Text.size front), ← size] at cut
    refine .lift cut (.bind (operationOf_runs now ?_) fun _ _ => rfl)
    exact fun method call member limit least => bounded ⟨command, found, method, call, member, limit, least⟩

end Runs

/-- Every scanner reads what is in the text, comes on and ends, and finds what the unchecked one finds. -/
structure StaysInside (text : List Char) : Prop where
  string : ∀ start mark, text[start]? = some mark → isQuote mark = true →
    ∃ stop, Relaxed.stringEnd? text mark start = some stop ∧ start < stop ∧ stop ≤ text.length
  expression : ∀ start, ∃ object next,
    Relaxed.expression? text start = some (object, next) ∧ start < next
  turn : ∀ walk : Relaxed.Walk, walk.place < text.length →
    ∃ next, walk.turn? text = some (.on next) ∧ walk.place < next.place
  strict : Relaxed.strict? text = some (Relaxed.strict text)
  close : closeOffset? text = (closeCall? text).map (fun parts => Text.size parts.1) ∧
    ∀ offset, closeOffset? text = some offset →
      ∃ closer, closes closer = true ∧ Text.StandsAt text offset closer
  /-- No bracket closes a group that is not open, or nothing would be found. -/
  group : ∀ bracket, isOpening bracket = true →
    groupSlice? bracket text = some (group? bracket text) ∧
    ∀ first last, groupOffsets? bracket text = some (.ok (some (first, last))) →
      first < last ∧ Text.StandsAt text first bracket ∧
        ∃ closer, isClosing closer = true ∧ Text.StandsAt text last closer
  arguments : argumentSlices? text = some (arguments text) ∧
    ∀ offsets ∈ argumentOffsets text,
      offsets.1 ≤ offsets.2 ∧ Text.IsOffset text offsets.1 ∧ Text.IsOffset text offsets.2
  call : ∀ calls, ∃ turn, chainTurn (text, calls) = some turn ∧
    ∀ rest more, turn = .on (rest, more) → rest.length < text.length
  chain : chain? text = some (chain text)

theorem staysInside (text : List Char) : StaysInside text where
  string start mark found quote := by
    refine Relaxed.stringEnd_inside ?_ (List.getElem?_eq_some_iff.1 found).1
    rintro rfl
    cases quote
  expression start := by
    obtain ⟨object, next, found, onward, -⟩ := Relaxed.expression_end text start
    exact ⟨object, next, found, onward⟩
  turn walk within := by
    obtain ⟨next, turned, leads⟩ := Relaxed.turn_leads within
    exact ⟨next, turned, leads.onward⟩
  strict := Relaxed.strict_walk text
  close := ⟨closeOffset_eq text, fun _ found => closeOffset_stands found⟩
  group bracket opening :=
    ⟨groupSlice_eq opening text, fun _ _ found => groupOffsets_stand opening found⟩
  arguments := ⟨argumentSlices_eq text, fun _ member => argumentOffsets_inside member⟩
  call calls := by
    rcases chainTurn_eq text calls with ⟨-, last⟩ | ⟨call, -, last⟩ | ⟨call, rest, found, goesOn⟩
    · exact ⟨_, last, fun _ _ same => by cases same⟩
    · exact ⟨_, last, fun _ _ same => by cases same⟩
    · refine ⟨_, goesOn, fun _ _ same => ?_⟩
      cases same
      exact call_length found
  chain := chain_turns text

/-- The scanners stay inside every text, and so a text is read to its query or its fault. Only the
limit without a magnitude can stop it. -/
theorem scanners_inside : (∀ text, StaysInside text) ∧
    ∀ now text, HasLeastLimit text ∨ (Checked.ofText now text).Runs (ofText now text) :=
  ⟨staysInside, fun now _ => or_iff_not_imp_left.2 fun bounded => ofText_runs now bounded⟩

example : (Checked.ofText 0 "db.a.find().limit(-9223372036854775808)").run = none := by cbv

end Inquiry.Query
