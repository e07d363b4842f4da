import Inquiry.Proofs.Decimal.Digits
import Inquiry.Proofs.Query.Cursor

/-!
What the settings of a cursor come to: of each kind the last one counts, and the pipeline that is
made of them does to the documents what the cursor would do.
-/
namespace Inquiry.Query

inductive Setting where
  | sort (order : Document)
  | skip (n : Int)
  | limit (n : Int)
  | neutral

namespace Setting

def order? : Setting → Option Document
  | .sort order => some order
  | _ => none

def skip? : Setting → Option Int
  | .skip n => some n
  | _ => none

def limit? : Setting → Option Int
  | .limit n => some n
  | _ => none

end Setting

def lastOf {α : Type} (given? : Setting → Option α) (settings : List Setting) : Option α :=
  (settings.filterMap given?).getLast?

def Cursor.set (cursor : Cursor) : Setting → Cursor
  | .sort order => { cursor with sort := some order }
  | .skip n => { cursor with skip := some n }
  | .limit n => { cursor with limit := some n }
  | .neutral => cursor

structure Plan where
  filter : Document
  order : Option Document
  skip : Option Int
  limit : Option Int
  projection : Option Document

def Plan.of (filter : Document) (settings : List Setting) (projection : Option Document) : Plan :=
  ⟨filter, lastOf Setting.order? settings, lastOf Setting.skip? settings,
    lastOf Setting.limit? settings, projection⟩

/-- The stages of a plan; what is absent or changes nothing has none. -/
def Plan.pipeline (plan : Plan) : List Document :=
  (if plan.filter.isEmpty then [] else [[("$match", .document plan.filter)]]) ++
  (plan.order.elim [] fun order => [[("$sort", .document order)]]) ++
  (plan.skip.elim [] fun n => if 0 < n then [[("$skip", .long (Int64.ofInt n))]] else []) ++
  (plan.limit.elim [] fun n => if n = 0 then [] else [[("$limit", .long (Int64.ofInt n.natAbs))]]) ++
  plan.projection.elim [] fun fields =>
    if fields.isEmpty then [] else [[("$project", .document fields)]]

def Plan.operation (plan : Plan) : Operation :=
  match plan with
  | ⟨filter, none, none, none, none⟩ | ⟨filter, none, none, none, some []⟩ => .find filter
  | plan => .aggregate plan.pipeline

structure Interpretation where
  matching : Document → List Document → List Document
  sorting : Document → List Document → List Document
  projecting : Document → List Document → List Document

def Interpretation.stage? (meaning : Interpretation) :
    Document → Option (List Document → List Document)
  | [("$match", .document filter)] => some (meaning.matching filter)
  | [("$sort", .document order)] => some (meaning.sorting order)
  | [("$skip", .long n)] => if 0 ≤ n.toInt then some (List.drop n.toInt.toNat) else none
  | [("$limit", .long n)] => if 0 < n.toInt then some (List.take n.toInt.toNat) else none
  | [("$project", .document fields)] => some (meaning.projecting fields)
  | _ => none

def Interpretation.run (meaning : Interpretation) :
    List Document → List Document → Option (List Document)
  | [], documents => some documents
  | stage :: rest, documents => do meaning.run rest ((← meaning.stage? stage) documents)

/-- The documents that a cursor gives: those that match, sorted, without the first ones, as many as
the limit says, and of each the fields that are asked for. -/
def Plan.answer (meaning : Interpretation) (plan : Plan) (documents : List Document) :
    List Document :=
  let matched := if plan.filter.isEmpty then documents else meaning.matching plan.filter documents
  let sorted := plan.order.elim matched fun order => meaning.sorting order matched
  let left := plan.skip.elim sorted fun n => sorted.drop n.toNat
  let limited := plan.limit.elim left fun n => if n = 0 then left else left.take n.natAbs
  plan.projection.elim limited fun fields =>
    if fields.isEmpty then limited else meaning.projecting fields limited

structure Plan.IsBounded (plan : Plan) : Prop where
  skip : ∀ n, plan.skip = some n → n < Decimal.int64Bound
  limit : ∀ n, plan.limit = some n → n.natAbs < Decimal.int64Bound

def Setting.IsBounded : Setting → Prop
  | .skip n => n < Decimal.int64Bound
  | .limit n => n.natAbs < Decimal.int64Bound
  | .sort _ | .neutral => True

section Running

variable {meaning : Interpretation} {first second documents : List Document} {plan : Plan}

theorem run_append : meaning.run (first ++ second) documents =
    (meaning.run first documents).bind (meaning.run second) := by
  induction first generalizing documents with
  | nil => rfl
  | cons stage first ih =>
    rw [List.cons_append, Interpretation.run, Interpretation.run]
    cases meaning.stage? stage with
    | none => rfl
    | some change => exact ih

theorem run_single {stage : Document} {change : List Document → List Document}
    (meant : meaning.stage? stage = some change) :
    meaning.run [stage] documents = some (change documents) := by
  rw [Interpretation.run, meant]
  rfl

theorem run_match (filter : Document) : meaning.run
    (if filter.isEmpty then [] else [[("$match", .document filter)]]) documents =
      some (if filter.isEmpty then documents else meaning.matching filter documents) := by
  split
  · rfl
  · exact run_single rfl

theorem run_sort (order : Option Document) : meaning.run
    (order.elim [] fun order => [[("$sort", .document order)]]) documents =
      some (order.elim documents fun order => meaning.sorting order documents) := by
  cases order with
  | none => rfl
  | some order => exact run_single rfl

theorem run_skip {skip : Option Int} (bounded : ∀ n, skip = some n → n < Decimal.int64Bound) :
    meaning.run (skip.elim [] fun n => if 0 < n then [[("$skip", .long (Int64.ofInt n))]] else [])
      documents = some (skip.elim documents fun n => documents.drop n.toNat) := by
  cases skip with
  | none => rfl
  | some n =>
    simp only [Option.elim_some]
    split
    next positive =>
      have same : (Int64.ofInt n).toInt = n :=
        Decimal.long_toInt (Int.le_trans (by decide) (Int.le_of_lt positive)) (bounded n rfl)
      refine run_single ?_
      simp only [Interpretation.stage?, same, if_pos (Int.le_of_lt positive)]
    next other =>
      rw [Int.toNat_of_nonpos (Int.not_lt.1 other), List.drop_zero]
      rfl

theorem run_limit {limit : Option Int}
    (bounded : ∀ n, limit = some n → n.natAbs < Decimal.int64Bound) : meaning.run
      (limit.elim [] fun n => if n = 0 then [] else [[("$limit", .long (Int64.ofInt n.natAbs))]])
      documents =
        some (limit.elim documents fun n => if n = 0 then documents else documents.take n.natAbs) := by
  cases limit with
  | none => rfl
  | some n =>
    simp only [Option.elim_some]
    split
    next => rfl
    next other =>
      have same : (Int64.ofInt n.natAbs).toInt = n.natAbs :=
        Decimal.long_toInt (Int.le_trans (by decide) (Int.natCast_nonneg _)) (bounded n rfl)
      have positive : (0 : Int) < n.natAbs := Int.natCast_pos.2 (Int.natAbs_pos.2 other)
      refine run_single ?_
      simp only [Interpretation.stage?, same, if_pos positive, Int.toNat_natCast]

theorem run_project (projection : Option Document) : meaning.run
    (projection.elim [] fun fields =>
      if fields.isEmpty then [] else [[("$project", .document fields)]]) documents =
      some (projection.elim documents fun fields =>
        if fields.isEmpty then documents else meaning.projecting fields documents) := by
  cases projection with
  | none => rfl
  | some fields =>
    simp only [Option.elim_some]
    split
    · rfl
    · exact run_single rfl

/-- The pipeline of a plan gives what the cursor gives. -/
theorem run_pipeline (bounded : plan.IsBounded) (documents : List Document) :
    meaning.run plan.pipeline documents = some (plan.answer meaning documents) := by
  rw [Plan.pipeline, run_append, run_append, run_append, run_append, run_match, Option.bind_some,
    run_sort, Option.bind_some, run_skip bounded.skip, Option.bind_some, run_limit bounded.limit,
    Option.bind_some, run_project]
  rfl

end Running

structure Call.Sets (now : Int) (call : Call) (setting : Setting) : Prop where
  goesOn : call.counts = false
  after : ∀ cursor : Cursor, cursor.after now call = .ok (cursor.set setting)

section Settings

variable {now : Int} {call : Call} {cursor : Cursor} {calls : List Call} {settings : List Setting}
  {filter : Document} {projection : Option Document}

theorem sets_sort {order : Document} (method : call.method = "sort")
    (read : sortOrder now call = .ok order) : call.Sets now (.sort order) := by
  refine ⟨by simp [Call.counts, method], fun cursor => ?_⟩
  simp only [Cursor.after, method, read]
  rfl

theorem sets_skip {n : Int} (method : call.method = "skip") (read : cursorNumber call = .ok n) :
    call.Sets now (.skip n) := by
  refine ⟨by simp [Call.counts, method], fun cursor => ?_⟩
  simp only [Cursor.after, method, read]
  rfl

theorem sets_limit {n : Int} (method : call.method = "limit") (read : cursorNumber call = .ok n) :
    call.Sets now (.limit n) := by
  refine ⟨by simp [Call.counts, method], fun cursor => ?_⟩
  simp only [Cursor.after, method, read]
  rfl

theorem sets_neutral (method : call.method = "pretty" ∨ call.method = "toArray") :
    call.Sets now .neutral := by
  rcases method with method | method
  all_goals
    refine ⟨by simp [Call.counts, method], fun cursor => ?_⟩
    simp only [Cursor.after, method]
    rfl

theorem follow_sets (sets : List.Forall₂ (Call.Sets now) calls settings) :
    Cursor.follow now cursor calls = .ok (some (settings.foldl Cursor.set cursor)) := by
  induction sets generalizing cursor with
  | nil => rfl
  | cons first rest ih =>
    rw [follow_cons first.goesOn, first.after, List.foldl_cons, ← ih]
    rfl

theorem last_cons {α : Type} (given? : Setting → Option α) (setting : Setting) :
    lastOf given? (setting :: settings) = (lastOf given? settings).or (given? setting) := by
  unfold lastOf
  cases given : given? setting with
  | none => rw [List.filterMap_cons_none given, Option.or_none]
  | some value =>
    rw [List.filterMap_cons_some given, List.getLast?_cons]
    cases (settings.filterMap given?).getLast? <;> rfl

theorem last_found {α : Type} {given? : Setting → Option α} {value : α}
    (last : lastOf given? settings = some value) :
    ∃ setting ∈ settings, given? setting = some value :=
  List.mem_filterMap.1 (List.mem_of_getLast? last)

theorem Plan.of_bounded (each : ∀ setting ∈ settings, setting.IsBounded) :
    (Plan.of filter settings projection).IsBounded := by
  constructor
  all_goals
    intro n last
    obtain ⟨setting, member, given⟩ := last_found last
    have bounded := each setting member
    cases setting <;> cases given
    exact bounded

/-- Later settings replace earlier ones of their kind. -/
theorem foldl_set : settings.foldl Cursor.set cursor =
    ⟨(lastOf Setting.order? settings).or cursor.sort, (lastOf Setting.skip? settings).or cursor.skip,
      (lastOf Setting.limit? settings).or cursor.limit⟩ := by
  induction settings generalizing cursor with
  | nil => rfl
  | cons setting settings ih =>
    rw [List.foldl_cons, ih, last_cons, last_cons, last_cons, Option.or_assoc, Option.or_assoc,
      Option.or_assoc]
    cases setting <;> rfl

def wanted (projection : Option Document) : Option Document :=
  projection.filter fun fields => !fields.isEmpty

theorem pipelineOf_plan (filter : Document) (cursor : Cursor) (projection : Option Document) :
    pipelineOf filter cursor (wanted projection) =
      (Plan.mk filter cursor.sort cursor.skip cursor.limit projection).pipeline := by
  obtain ⟨order, skip, limit⟩ := cursor
  have sorts : sortStage order = order.elim [] fun order => [[("$sort", .document order)]] := by
    cases order <;> rfl
  have skips : skipStage skip =
      skip.elim [] fun n => if 0 < n then [[("$skip", .long (Int64.ofInt n))]] else [] := by
    cases skip <;> rfl
  have limits : limitStage limit =
      limit.elim [] fun n => if n = 0 then [] else [[("$limit", .long (Int64.ofInt n.natAbs))]] := by
    cases limit with
    | none => rfl
    | some n => exact ite_not ..
  have projects : projectStage (wanted projection) = projection.elim [] fun fields =>
      if fields.isEmpty then [] else [[("$project", .document fields)]] := by
    rcases projection with _ | _ | _ <;> rfl
  rw [pipelineOf, sorts, skips, limits, projects]
  rfl

theorem folded_plan (filter : Document) (cursor : Cursor) (projection : Option Document) :
    folded filter (wanted projection) (some cursor) =
      (Plan.mk filter cursor.sort cursor.skip cursor.limit projection).operation := by
  have same := pipelineOf_plan filter cursor projection
  obtain ⟨order, skip, limit⟩ := cursor
  -- Without settings an empty projection is one more way to ask for the filter only.
  cases order <;> cases skip <;> cases limit <;> rcases projection with _ | _ | _
  all_goals first
    | rfl
    | exact congrArg Operation.aggregate same

theorem findOperation_plan {arguments : List Char}
    (found : optionalDocument now ((Bracket.arguments arguments).headD []) = .ok filter)
    (projected : projection? now (Bracket.arguments arguments) = .ok (wanted projection))
    (sets : List.Forall₂ (Call.Sets now) calls settings) :
    findOperation now arguments calls = .ok (Plan.of filter settings projection).operation := by
  rw [findOperation_folded, found, projected, follow_sets sets, foldl_set]
  simp only [Option.or_none]
  exact congrArg Except.ok (folded_plan filter _ projection)

end Settings

end Inquiry.Query
