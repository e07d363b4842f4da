import Inquiry.Proofs.Query.Plan

/-!
The pipelines that `find` and its chain become, beside what a server takes: every stage holds
something, no kind comes twice, and the kinds stand in the order in which a cursor applies its
settings. All of this holds but for one case: an order without keys makes a stage of its own.
-/
namespace Inquiry.Query

def Holds (operator : String) : Value → Prop
  | .document fields => operator ∈ ["$match", "$sort", "$project"] ∧ fields ≠ []
  | .long n => operator ∈ ["$skip", "$limit"] ∧ 0 < n.toInt
  | _ => False

def cursorStages : List String := ["$match", "$sort", "$skip", "$limit", "$project"]

def operators (pipeline : List Document) : List String :=
  pipeline.flatMap fun stage => stage.map (·.1)

/-- Stages with one operator each, no operator twice and all of them in a cursor's order. -/
structure IsAccepted (pipeline : List Document) : Prop where
  stages : ∀ stage ∈ pipeline, ∃ operator value, stage = [(operator, value)] ∧ Holds operator value
  order : (operators pipeline).Sublist cursorStages

inductive Call.Asks (now : Int) (call : Call) : Setting → Prop
  | sort {order : Document} (method : call.method = "sort") (read : sortOrder now call = .ok order) :
      Asks now call (.sort order)
  | skip {n : Int} (method : call.method = "skip") (read : cursorNumber call = .ok n) :
      Asks now call (.skip n)
  | limit {n : Int} (method : call.method = "limit") (read : cursorNumber call = .ok n) :
      Asks now call (.limit n)
  | neutral (method : call.method = "pretty" ∨ call.method = "toArray") : Asks now call .neutral

def lastSort (calls : List Call) : Option Call :=
  (calls.filter fun call => call.method == "sort").getLast?

section Plans

variable {plan : Plan} {stage : Document} {pipeline : List Document}

theorem Plan.mem_pipeline : stage ∈ plan.pipeline ↔
    (plan.filter ≠ [] ∧ stage = [("$match", .document plan.filter)]) ∨
    (∃ order, plan.order = some order ∧ stage = [("$sort", .document order)]) ∨
    (∃ n, plan.skip = some n ∧ 0 < n ∧ stage = [("$skip", .long (Int64.ofInt n))]) ∨
    (∃ n, plan.limit = some n ∧ n ≠ 0 ∧ stage = [("$limit", .long (Int64.ofInt n.natAbs))]) ∨
    ∃ fields, plan.projection = some fields ∧ fields ≠ [] ∧
      stage = [("$project", .document fields)] := by
  obtain ⟨filter, order, skip, limit, projection⟩ := plan
  simp only [Plan.pipeline, List.mem_append, or_assoc]
  refine or_congr ?_ (or_congr ?_ (or_congr ?_ (or_congr ?_ ?_)))
  · cases filter <;> simp
  · cases order <;> simp
  · cases skip with
    | none => simp
    | some n => by_cases positive : 0 < n <;> simp [positive]
  · cases limit with
    | none => simp
    | some n => by_cases zero : n = 0 <;> simp [zero]
  · rcases projection with _ | _ | _ <;> simp

/-- A stage holds something, unless it is an order without keys. -/
theorem Plan.stage_holds (bounded : plan.IsBounded) (member : stage ∈ plan.pipeline) :
    ∃ operator value, stage = [(operator, value)] ∧
      (Holds operator value ∨ operator = "$sort" ∧ value = .document [] ∧ plan.order = some []) := by
  rcases mem_pipeline.1 member with
    ⟨filters, rfl⟩ | ⟨order, sorted, rfl⟩ | ⟨n, skipped, positive, rfl⟩ | ⟨n, limited, other, rfl⟩ |
      ⟨fields, _, chosen, rfl⟩
  · exact ⟨_, _, rfl, .inl ⟨by simp, filters⟩⟩
  · by_cases empty : order = []
    · subst empty
      exact ⟨_, _, rfl, .inr ⟨rfl, rfl, sorted⟩⟩
    · exact ⟨_, _, rfl, .inl ⟨by simp, empty⟩⟩
  · have same : (Int64.ofInt n).toInt = n :=
      Decimal.long_toInt (Int.le_trans (by decide) (Int.le_of_lt positive)) (bounded.skip n skipped)
    exact ⟨_, _, rfl, .inl ⟨by simp, same.symm ▸ positive⟩⟩
  · have same : (Int64.ofInt n.natAbs).toInt = n.natAbs :=
      Decimal.long_toInt (Int.le_trans (by decide) (Int.natCast_nonneg _)) (bounded.limit n limited)
    have positive : (0 : Int) < n.natAbs := Int.natCast_pos.2 (Int.natAbs_pos.2 other)
    exact ⟨_, _, rfl, .inl ⟨by simp, same.symm ▸ positive⟩⟩
  · exact ⟨_, _, rfl, .inl ⟨by simp, chosen⟩⟩

theorem operators_append (first second : List Document) :
    operators (first ++ second) = operators first ++ operators second :=
  List.flatMap_append

/-- The stages of a plan come in the order of a cursor, at most one of a kind. -/
theorem Plan.operators_pipeline (plan : Plan) :
    (operators plan.pipeline).Sublist cursorStages := by
  obtain ⟨filter, order, skip, limit, projection⟩ := plan
  have part {operator : String} {stages : List Document} (single : stages = [] ∨
      ∃ value, stages = [[(operator, value)]]) : (operators stages).Sublist [operator] := by
    rcases single with rfl | ⟨value, rfl⟩
    · exact List.nil_sublist _
    · exact List.Sublist.refl _
  have filters : (operators (if filter.isEmpty then [] else [[("$match", .document filter)]])).Sublist
      ["$match"] := part (by split <;> simp)
  have sorts : (operators (order.elim [] fun order => [[("$sort", .document order)]])).Sublist
      ["$sort"] := part (by cases order <;> simp)
  have skips : (operators (skip.elim [] fun n =>
      if 0 < n then [[("$skip", .long (Int64.ofInt n))]] else [])).Sublist ["$skip"] :=
    part (by cases skip <;> simp only [Option.elim] <;> (try split) <;> simp)
  have limits : (operators (limit.elim [] fun n =>
      if n = 0 then [] else [[("$limit", .long (Int64.ofInt n.natAbs))]])).Sublist ["$limit"] :=
    part (by cases limit <;> simp only [Option.elim] <;> (try split) <;> simp)
  have projects : (operators (projection.elim [] fun fields =>
      if fields.isEmpty then [] else [[("$project", .document fields)]])).Sublist ["$project"] :=
    part (by rcases projection with _ | _ | _ <;> simp)
  simp only [Plan.pipeline, operators_append]
  exact (((filters.append sorts).append skips).append limits).append projects

theorem Plan.accepted_iff (bounded : plan.IsBounded) :
    IsAccepted plan.pipeline ↔ plan.order ≠ some [] := by
  constructor
  · intro accepted sorted
    obtain ⟨operator, value, same, holds⟩ :=
      accepted.stages _ (mem_pipeline.2 (.inr (.inl ⟨[], sorted, rfl⟩)))
    cases same
    exact holds.2 rfl
  · refine fun sorted => ⟨fun stage member => ?_, plan.operators_pipeline⟩
    obtain ⟨operator, value, rfl, holds | ⟨_, _, empty⟩⟩ := stage_holds bounded member
    · exact ⟨operator, value, rfl, holds⟩
    · exact absurd empty sorted

theorem Plan.operation_aggregate (made : plan.operation = .aggregate pipeline) :
    pipeline = plan.pipeline := by
  unfold Plan.operation at made
  split at made
  next => cases made
  next => cases made
  next =>
    cases made
    rfl

end Plans

section Chains

variable {now : Int} {cursor next last : Cursor} {call : Call} {calls : List Call}
  {settings : List Setting} {setting : Setting} {filter : Document} {projection : Option Document}
  {arguments : List Char} {pipeline : List Document}

/-- What a step of the cursor does is what its call asks for. -/
theorem after_asks (stepped : cursor.after now call = .ok next) :
    ∃ setting, call.Asks now setting ∧ next = cursor.set setting := by
  unfold Cursor.after at stepped
  split at stepped
  next method =>
    obtain ⟨order, read, made⟩ := bind_ok stepped
    cases made
    exact ⟨.sort order, .sort method read, rfl⟩
  next method =>
    obtain ⟨n, read, made⟩ := bind_ok stepped
    cases made
    exact ⟨.skip n, .skip method read, rfl⟩
  next method =>
    obtain ⟨n, read, made⟩ := bind_ok stepped
    cases made
    exact ⟨.limit n, .limit method read, rfl⟩
  next method =>
    cases stepped
    exact ⟨.neutral, .neutral (.inl method), rfl⟩
  next method =>
    cases stepped
    exact ⟨.neutral, .neutral (.inr method), rfl⟩
  next => cases stepped

/-- The settings of a chain that does not count are those that its calls ask for. -/
theorem follow_asks (followed : Cursor.follow now cursor calls = .ok (some last)) :
    ∃ settings, List.Forall₂ (Call.Asks now) calls settings ∧
      last = settings.foldl Cursor.set cursor := by
  induction calls generalizing cursor with
  | nil =>
    cases followed
    exact ⟨[], .nil, rfl⟩
  | cons call rest ih =>
    cases counts : call.counts with
    | true =>
      rw [follow_counts counts] at followed
      cases followed
    | false =>
      rw [follow_cons counts] at followed
      obtain ⟨next, stepped, followed⟩ := bind_ok followed
      obtain ⟨setting, asks, rfl⟩ := after_asks stepped
      obtain ⟨settings, others, rfl⟩ := ih followed
      exact ⟨setting :: settings, .cons asks others, rfl⟩

theorem lastSort_cons (call : Call) (calls : List Call) : lastSort (call :: calls) =
    (lastSort calls).or (if call.method = "sort" then some call else none) := by
  unfold lastSort
  by_cases sorts : call.method = "sort"
  · rw [List.filter_cons_of_pos (by simpa using sorts), List.getLast?_cons, if_pos sorts]
    cases (calls.filter fun call => call.method == "sort").getLast? <;> rfl
  · rw [List.filter_cons_of_neg (by simpa using sorts), if_neg sorts, Option.or_none]

/-- The last order is what the last call of `sort` asks for. -/
theorem asks_order (asks : List.Forall₂ (Call.Asks now) calls settings) :
    (lastSort calls = none ∧ lastOf Setting.order? settings = none) ∨
      ∃ call order, lastSort calls = some call ∧ sortOrder now call = .ok order ∧
        lastOf Setting.order? settings = some order := by
  induction asks with
  | nil => exact .inl ⟨rfl, rfl⟩
  | @cons first setting calls settings asks _ ih =>
    rw [lastSort_cons, last_cons]
    rcases ih with ⟨unsorted, noOrder⟩ | ⟨call, order, sorts, read, ordered⟩
    · rw [unsorted, noOrder, Option.none_or, Option.none_or]
      cases asks with
      | sort method read => exact .inr ⟨first, _, if_pos method, read, rfl⟩
      | skip method => exact .inl ⟨if_neg (by simp [method]), rfl⟩
      | limit method => exact .inl ⟨if_neg (by simp [method]), rfl⟩
      | neutral method => exact .inl ⟨if_neg (by rcases method with method | method <;> simp [method]), rfl⟩
    · rw [sorts, ordered]
      exact .inr ⟨call, order, rfl, read, rfl⟩

theorem Call.Asks.bounded (asks : call.Asks now setting)
    (notLeast : call.method = "limit" → ¬ IsInteger64 call.argument (-Decimal.int64Bound)) :
    setting.IsBounded := by
  cases asks with
  | sort | neutral => trivial
  | skip _ read =>
    obtain ⟨_, _, _, _, _, _, _, _, high⟩ := cursorNumber_iff.1 read
    exact high
  | @limit n method read =>
    have integer := cursorNumber_iff.1 read
    have other : n ≠ -Decimal.int64Bound := by
      rintro rfl
      exact notLeast method integer
    obtain ⟨_, _, _, _, _, _, _, low, high⟩ := integer
    simp only [Setting.IsBounded]
    omega

/-- Only the least limit has a magnitude beyond 64 bits. -/
theorem asks_bounded (asks : List.Forall₂ (Call.Asks now) calls settings)
    (limits : ∀ call ∈ calls, call.method = "limit" →
      ¬ IsInteger64 call.argument (-Decimal.int64Bound)) :
    ∀ setting ∈ settings, setting.IsBounded := by
  induction asks with
  | nil => nofun
  | cons first _ ih =>
    obtain ⟨here, later⟩ := List.forall_mem_cons.1 limits
    exact List.forall_mem_cons.2 ⟨first.bounded here, ih later⟩

theorem projection_wanted {parts : List (List Char)} (read : projection? now parts = .ok projection) :
    wanted projection = projection := by
  unfold projection? at read
  split at read
  next =>
    obtain ⟨fields, _, made⟩ := bind_ok read
    cases made
    cases fields <;> rfl
  next =>
    cases read
    rfl

/-- A pipeline that `find` and its chain become is that of a plan with the settings of the chain. -/
theorem findOperation_plan_inv (made : findOperation now arguments calls = .ok (.aggregate pipeline)) :
    ∃ filter projection settings, List.Forall₂ (Call.Asks now) calls settings ∧
      pipeline = (Plan.of filter settings projection).pipeline := by
  rw [findOperation_folded] at made
  obtain ⟨filter, _, made⟩ := bind_ok made
  obtain ⟨projection, projected, made⟩ := bind_ok made
  obtain ⟨cursor, followed, made⟩ := bind_ok made
  have folds := Except.ok.inj made
  cases cursor with
  | none => cases folds
  | some cursor =>
    obtain ⟨settings, asks, rfl⟩ := follow_asks followed
    rw [← projection_wanted projected, folded_plan, foldl_set] at folds
    simp only [Option.or_none] at folds
    exact ⟨filter, projection, settings, asks, Plan.operation_aggregate folds⟩

end Chains

/-- The pipeline of a chain is one that a server takes exactly when the last order has keys. Without
it, only the stage of that order is at fault. -/
theorem findOperation_accepted (now : Int) {arguments : List Char} {calls : List Call}
    {pipeline : List Document}
    (made : findOperation now arguments calls = .ok (.aggregate pipeline))
    (limits : ∀ call ∈ calls, call.method = "limit" →
      ¬ IsInteger64 call.argument (-Decimal.int64Bound)) :
    (IsAccepted pipeline ↔ ∀ call, lastSort calls = some call → sortOrder now call ≠ .ok []) ∧
      (operators pipeline).Sublist cursorStages ∧
      ∀ stage ∈ pipeline, ∃ operator value, stage = [(operator, value)] ∧
        (Holds operator value ∨ operator = "$sort" ∧ value = .document []) := by
  obtain ⟨filter, projection, settings, asks, rfl⟩ := findOperation_plan_inv made
  have bounded : (Plan.of filter settings projection).IsBounded :=
    Plan.of_bounded (asks_bounded asks limits)
  refine ⟨(Plan.accepted_iff bounded).trans ?_, Plan.operators_pipeline _, fun stage member => ?_⟩
  · change lastOf Setting.order? settings ≠ some [] ↔ _
    rcases asks_order asks with ⟨unsorted, noOrder⟩ | ⟨call, order, sorts, read, ordered⟩
    · simp [unsorted, noOrder]
    · simp [sorts, read, ordered]
  · obtain ⟨operator, value, same, holds | ⟨sorts, empty, _⟩⟩ := Plan.stage_holds bounded member
    · exact ⟨operator, value, same, .inl holds⟩
    · exact ⟨operator, value, same, .inr ⟨sorts, empty⟩⟩

def sortedCalls : List Call :=
  [⟨"sort", "\x7b\x7d".toList⟩, ⟨"limit", "-3".toList⟩, ⟨"skip", "0".toList⟩,
    ⟨"sort", "\x7b\"x\": 1\x7d".toList⟩]

theorem findOperation_accepted_sorted :
    findOperation 0 "\x7b\x7d".toList sortedCalls =
      .ok (.aggregate [[("$sort", .document [("x", .int 1)])], [("$limit", .long 3)]]) ∧
    IsAccepted [[("$sort", .document [("x", .int 1)])], [("$limit", .long 3)]] := by
  have made : findOperation 0 "\x7b\x7d".toList sortedCalls =
      .ok (.aggregate [[("$sort", .document [("x", .int 1)])], [("$limit", .long 3)]]) := by cbv
  have limits : ∀ call ∈ sortedCalls, call.method = "limit" →
      ¬ IsInteger64 call.argument (-Decimal.int64Bound) := by
    intro call member limit integer
    have least := cursorNumber_iff.2 integer
    simp only [sortedCalls, List.mem_cons, List.not_mem_nil, or_false] at member
    rcases member with rfl | rfl | rfl | rfl
    · exact absurd limit (by decide)
    · have three : cursorNumber ⟨"limit", "-3".toList⟩ = .ok (-3) := by cbv
      rw [three] at least
      exact absurd (Except.ok.inj least) (by decide)
    · exact absurd limit (by decide)
    · exact absurd limit (by decide)
  refine ⟨made, (findOperation_accepted 0 made limits).1.2 fun call last read => ?_⟩
  have sorts : lastSort sortedCalls = some ⟨"sort", "\x7b\"x\": 1\x7d".toList⟩ := rfl
  cases sorts.symm.trans last
  have ordered : sortOrder 0 ⟨"sort", "\x7b\"x\": 1\x7d".toList⟩ = .ok [("x", .int 1)] := by cbv
  cases ordered.symm.trans read

/-- An order without keys makes a stage, which a server refuses. -/
theorem findOperation_unordered :
    findOperation 0 "\x7bx: 1\x7d".toList
        [⟨"sort", "\x7b\x7d".toList⟩, ⟨"limit", "5".toList⟩] =
      .ok (.aggregate [[("$match", .document [("x", .int 1)])], [("$sort", .document [])],
        [("$limit", .long 5)]]) ∧
    ¬ IsAccepted [[("$match", .document [("x", .int 1)])], [("$sort", .document [])],
      [("$limit", .long 5)]] := by
  refine ⟨by cbv, fun accepted => ?_⟩
  obtain ⟨operator, value, same, holds⟩ :=
    accepted.stages [("$sort", .document [])] (List.mem_cons_of_mem _ List.mem_cons_self)
  cases same
  exact holds.2 rfl

end Inquiry.Query
