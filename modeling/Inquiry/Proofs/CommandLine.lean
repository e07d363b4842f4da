import Inquiry.CommandLine
import Inquiry.Proofs.Attempt
import Mathlib

/-!
How loud the arguments ask the program to be, and the words that stand behind a separator. The level
goes by the number of letters, however they are grouped, with one exception: of a group that is as
long as 256 letters only the remainder counts.
-/
namespace Inquiry.CommandLine

def groupText (letters : Nat) : String := String.ofList ('-' :: List.replicate letters 'v')

def isPathMark (argument : String) : Bool := argument == "-f" || argument == "--config"

/-- The arguments before a lone `--`, without the paths of settings. -/
def marks : List String → List String
  | [] => []
  | [argument] => if argument = "--" then [] else [argument]
  | argument :: next :: rest =>
    if argument = "--" then [] else
    if isPathMark argument then argument :: marks rest else argument :: marks (next :: rest)

def steps (argument : String) : Nat :=
  if argument = "--verbose" then 1 else (verbosityGroup? argument).getD 0

def stepsAsked (arguments : List String) : Nat := ((marks arguments).map steps).sum

/-- The steps that are taken: of each group the remainder by 256. -/
def stepsTaken (arguments : List String) : Nat :=
  ((marks arguments).map fun argument => steps argument % 256).sum

def rank : Option Level → Nat
  | none => 0
  | some level => Level.all.idxOf level + 1

section Groups

variable {argument : String} {letters n : Nat}

theorem group_iff : verbosityGroup? argument = some n ↔ 0 < n ∧ argument = groupText n := by
  have spelt : argument = groupText n ↔ argument.toList = '-' :: List.replicate n 'v' := by
    rw [groupText, ← String.toList_inj, String.toList_ofList]
  rw [spelt, verbosityGroup?]
  split
  next letter letters same =>
    rw [same, List.cons.injEq, List.eq_replicate_iff]
    split
    next all =>
      have letters := List.all_eq_true.1 all
      simp only [decide_eq_true_eq] at letters
      rw [Option.some.injEq, List.length_cons]
      exact ⟨fun same => ⟨by omega, rfl, same, letters⟩, fun parts => parts.2.2.1⟩
    next other =>
      refine iff_of_false (fun found => by cases found) fun ⟨_, _, _, letters⟩ => other ?_
      exact List.all_eq_true.2 fun c member => decide_eq_true (letters c member)
  next other =>
    refine iff_of_false (fun found => by cases found) ?_
    rintro ⟨positive, same⟩
    obtain ⟨more, rfl⟩ := Nat.exists_eq_succ_of_ne_zero (Nat.ne_of_gt positive)
    exact other _ _ same

theorem steps_of_group (found : verbosityGroup? argument = some n)
    (other : argument = "--verbose" → False) : steps argument = n := by
  rw [steps, if_neg other, found]
  rfl

theorem steps_of_other (found : verbosityGroup? argument = none)
    (other : argument = "--verbose" → False) : steps argument = 0 := by
  rw [steps, if_neg other, found]
  rfl

theorem group_other (positive : 0 < letters) : groupText letters ≠ "--" ∧
    groupText letters ≠ "-h" ∧ groupText letters ≠ "--help" ∧ groupText letters ≠ "-f" ∧
    groupText letters ≠ "--config" ∧ groupText letters ≠ "--verbose" := by
  have found := group_iff.2 ⟨positive, rfl⟩
  have other {text : String} (ungrouped : verbosityGroup? text = none) : groupText letters ≠ text := by
    intro same
    rw [same, ungrouped] at found
    cases found
  exact ⟨other rfl, other rfl, other rfl, other rfl, other rfl, other rfl⟩

theorem steps_group (positive : 0 < letters) : steps (groupText letters) = letters :=
  steps_of_group (group_iff.2 ⟨positive, rfl⟩) (group_other positive).2.2.2.2.2

end Groups

section Reading

variable {arguments rest : List String} {argument path : String} {reading last : Reading}

theorem path_iff : isPathMark argument = true ↔ argument = "-f" ∨ argument = "--config" := by
  rw [isPathMark, Bool.or_eq_true, beq_iff_eq, beq_iff_eq]

theorem path_none (short : argument ≠ "-f") (long : argument ≠ "--config") :
    isPathMark argument = false :=
  Bool.eq_false_iff.2 fun mark => (path_iff.1 mark).elim short long

theorem path_silent (mark : isPathMark argument = true) : argument ≠ "--" ∧ steps argument = 0 := by
  rcases path_iff.1 mark with rfl | rfl <;> decide

theorem taken_path (mark : isPathMark argument = true) :
    stepsTaken (argument :: path :: rest) = stepsTaken rest := by
  obtain ⟨other, silent⟩ := path_silent mark
  simp [stepsTaken, marks, other, mark, silent]

theorem taken_cons (other : argument ≠ "--") (mark : isPathMark argument = false) :
    stepsTaken (argument :: rest) = steps argument % 256 + stepsTaken rest := by
  cases rest with
  | nil => simp [stepsTaken, marks, other]
  | cons next rest => simp [stepsTaken, marks, other, mark]

theorem taken_separator (rest : List String) : stepsTaken ("--" :: rest) = 0 := by
  cases rest <;> rfl

theorem read_group {letters : Nat} (positive : 0 < letters) :
    read reading (groupText letters :: rest) = read (reading.louder (letters % 256)) rest := by
  obtain ⟨separator, short, long, path, settings, verbose⟩ := group_other positive
  rw [read, group_iff.2 ⟨positive, rfl⟩]
  all_goals assumption

/-- Whatever else the arguments say, they are as loud as the steps that are taken. -/
theorem read_verbosity (bound : reading.verbosity ≤ maxVerbosity)
    (found : read reading arguments = .ok (.words last)) :
    last.verbosity = min maxVerbosity (reading.verbosity + stepsTaken arguments) := by
  have within (reading : Reading) (n : Nat) : (reading.louder n).verbosity ≤ maxVerbosity :=
    Nat.min_le_left _ _
  have louder (reading : Reading) (first more : Nat) :
      min maxVerbosity ((reading.louder first).verbosity + more) =
        min maxVerbosity (reading.verbosity + (first + more)) := by
    simp only [Reading.louder]
    omega
  fun_induction read reading arguments with
  | case1 reading =>
    cases found
    exact (Nat.min_eq_right bound).symm
  | case2 reading rest =>
    cases found
    rw [taken_separator]
    exact (Nat.min_eq_right bound).symm
  | case3 | case4 | case5 | case7 | case11 => cases found
  | case6 reading path rest ih => rw [ih bound found, taken_path rfl]
  | case8 reading path rest ih => rw [ih bound found, taken_path rfl]
  | case9 reading rest ih =>
    rw [ih (within _ _) found, louder, taken_cons (by decide) rfl]
    rfl
  | case10 reading argument rest separator _ _ short long verbose letters group ih =>
    have mark := path_none short long
    rw [ih (within _ _) found, louder, taken_cons separator mark, steps_of_group group verbose]
  | case12 reading argument rest separator _ _ short long verbose group _ ih =>
    have mark := path_none short long
    rw [ih bound found, taken_cons separator mark, steps_of_other group verbose, Nat.zero_mod,
      Nat.zero_add]

/-- Arguments that do not ask for help are read to their end. -/
theorem parse_inv {parsed : Arguments} (accepted : parse arguments = .ok parsed)
    (wanted : parsed.command ≠ .help) : ∃ last, read {} arguments = .ok (.words last) ∧
      parsed.level = Level.ofVerbosity last.verbosity := by
  obtain ⟨outcome, found, accepted⟩ := bind_ok accepted
  cases outcome with
  | help settingsPath =>
    cases accepted
    exact absurd rfl wanted
  | words last =>
    obtain ⟨command, _, accepted⟩ := bind_ok accepted
    cases accepted
    exact ⟨last, found, rfl⟩

end Reading

section Levels

variable {arguments : List String} {first second : Nat}

theorem rank_ofVerbosity (n : Nat) :
    rank (Level.ofVerbosity n) = if n = 0 then 0 else min n 4 + 2 := by
  match n with
  | 0 | 1 | 2 | 3 => rfl
  | n + 4 =>
    rw [if_neg (by omega), Nat.min_eq_right (by omega)]
    rfl

theorem rank_mono (le : first ≤ second) :
    rank (Level.ofVerbosity first) ≤ rank (Level.ofVerbosity second) := by
  rw [rank_ofVerbosity, rank_ofVerbosity]
  split <;> split <;> omega

/-- The fourth step is the last one that tells. -/
theorem ofVerbosity_four (n : Nat) : Level.ofVerbosity n = Level.ofVerbosity (min n 4) := by
  match n with
  | 0 | 1 | 2 | 3 => rfl
  | n + 4 =>
    rw [Nat.min_eq_right (by omega)]
    rfl

theorem ofVerbosity_most (n : Nat) : Level.ofVerbosity (min maxVerbosity n) = Level.ofVerbosity n := by
  rw [ofVerbosity_four, ofVerbosity_four n]
  congr 1
  simp only [maxVerbosity]
  omega

theorem ofVerbosity_eq_iff :
    Level.ofVerbosity first = Level.ofVerbosity second ↔ min first 4 = min second 4 := by
  constructor
  · intro same
    have ranks := congrArg rank same
    rw [rank_ofVerbosity, rank_ofVerbosity] at ranks
    split at ranks <;> split at ranks <;> omega
  · intro same
    rw [ofVerbosity_four, same, ← ofVerbosity_four]

def IsShort (arguments : List String) : Prop := ∀ mark ∈ marks arguments, steps mark < 256

instance (arguments : List String) : Decidable (IsShort arguments) :=
  inferInstanceAs (Decidable (∀ mark ∈ marks arguments, steps mark < 256))

theorem taken_le (arguments : List String) : stepsTaken arguments ≤ stepsAsked arguments :=
  List.sum_le_sum fun mark _ => Nat.mod_le (steps mark) 256

theorem taken_short (short : IsShort arguments) : stepsTaken arguments = stepsAsked arguments :=
  congrArg List.sum (List.map_congr_left fun mark member => Nat.mod_eq_of_lt (short mark member))

theorem asked_long (long : ¬ IsShort arguments) : 256 ≤ stepsAsked arguments := by
  simp only [IsShort, not_forall, Nat.not_lt] at long
  obtain ⟨mark, member, letters⟩ := long
  exact Nat.le_trans letters (List.le_sum_of_mem (List.mem_map_of_mem member))

theorem parse_taken {parsed : Arguments} (accepted : parse arguments = .ok parsed)
    (wanted : parsed.command ≠ .help) :
    parsed.level = Level.ofVerbosity (min maxVerbosity (stepsTaken arguments)) := by
  obtain ⟨last, found, level⟩ := parse_inv accepted wanted
  rw [level, read_verbosity (Nat.zero_le _) found, Nat.zero_add]

end Levels

/-- The level goes by the steps that are taken, at most 255. They are as many as are asked for, unless
a group has 256 letters or more; that shows where fewer than four of its steps are left. -/
theorem parse_level {arguments : List String} {parsed : Arguments}
    (accepted : parse arguments = .ok parsed) (wanted : parsed.command ≠ .help) :
    parsed.level = Level.ofVerbosity (min maxVerbosity (stepsTaken arguments)) ∧
    (parsed.level = Level.ofVerbosity (min maxVerbosity (stepsAsked arguments)) ↔
      IsShort arguments ∨ 4 ≤ stepsTaken arguments) ∧
    ∀ {others : List String} {louder : Arguments}, parse others = .ok louder →
      louder.command ≠ .help → IsShort others →
      (stepsAsked arguments ≤ stepsAsked others → rank parsed.level ≤ rank louder.level) ∧
      (IsShort arguments → stepsAsked arguments = stepsAsked others →
        parsed.level = louder.level) := by
  have level := parse_taken accepted wanted
  refine ⟨level, ?_, fun {others louder} acceptedToo wantedToo short => ⟨fun fewer => ?_, ?_⟩⟩
  · rw [level, ofVerbosity_most, ofVerbosity_most, ofVerbosity_eq_iff]
    by_cases short : IsShort arguments
    · exact iff_of_true (by rw [taken_short short]) (.inl short)
    · have long := asked_long short
      rw [Nat.min_eq_right (by omega : 4 ≤ stepsAsked arguments), min_eq_right_iff]
      exact (or_iff_right short).symm
  · rw [level, parse_taken acceptedToo wantedToo, taken_short short, ofVerbosity_most, ofVerbosity_most]
    exact rank_mono (Nat.le_trans (taken_le arguments) fewer)
  · intro shortToo same
    rw [level, parse_taken acceptedToo wantedToo, taken_short short, taken_short shortToo, same]

def scatteredArguments : List String :=
  ["-vv", "-f", "-v", "ask", "-v", "--", "-vvvv"]

theorem parse_level_scattered :
    parse scatteredArguments = .ok ⟨.ask "-vvvv", some "-v", some .debug⟩ ∧
    some Level.debug = Level.ofVerbosity (min maxVerbosity (stepsAsked scatteredArguments)) := by
  have accepted : parse scatteredArguments = .ok ⟨.ask "-vvvv", some "-v", some .debug⟩ := by cbv
  exact ⟨accepted, (parse_level accepted (by decide)).2.1.2 (.inl (by decide))⟩

/-- One letter more than 255 in a group, and nothing is louder. -/
theorem parse_level_lost : parse [groupText 255] = .ok ⟨.converse, none, some .trace⟩ ∧
    parse [groupText 256] = .ok ⟨.converse, none, none⟩ ∧
    stepsAsked [groupText 256] = 256 ∧ Level.ofVerbosity (min maxVerbosity 256) = some .trace := by
  have parsed (letters : Nat) (positive : 0 < letters) : parse [groupText letters] =
      .ok ⟨.converse, none, Level.ofVerbosity (min maxVerbosity (letters % 256))⟩ := by
    rw [parse, read_group positive]
    simp [read, Reading.louder, command, bind, Except.bind, pure, Except.pure]
  refine ⟨parsed 255 (by decide), parsed 256 (by decide), ?_, rfl⟩
  simp [stepsAsked, marks, group_other, steps_group]

inductive Flag where
  | group (letters : Nat) (positive : 0 < letters)
  | verbose
  | settings (long : Bool) (path : String)

namespace Flag

def written : Flag → List String
  | group letters _ => [groupText letters]
  | verbose => ["--verbose"]
  | settings long path => [if long then "--config" else "-f", path]

def path? : Flag → Option String
  | settings _ path => some path
  | _ => none

def set (reading : Reading) : Flag → Reading
  | group letters _ => reading.louder (letters % 256)
  | verbose => reading.louder 1
  | settings _ path => { reading with settingsPath := some path }

end Flag

section Questions

variable {reading : Reading} {rest : List String}

theorem read_flag (flag : Flag) :
    read reading (flag.written ++ rest) = read (flag.set reading) rest := by
  cases flag with
  | group letters positive => exact read_group positive
  | verbose => rfl
  | settings long path => cases long <;> rfl

theorem read_flags (flags : List Flag) :
    read reading (flags.flatMap Flag.written ++ rest) = read (flags.foldl Flag.set reading) rest := by
  induction flags generalizing reading with
  | nil => rfl
  | cons flag flags ih => rw [List.flatMap_cons, List.append_assoc, read_flag, ih, List.foldl_cons]

theorem set_words (flag : Flag) : (flag.set reading).words = reading.words := by
  cases flag <;> rfl

theorem set_path (flag : Flag) :
    (flag.set reading).settingsPath = flag.path?.or reading.settingsPath := by
  cases flag <;> rfl

theorem flags_words (flags : List Flag) : (flags.foldl Flag.set reading).words = reading.words := by
  induction flags generalizing reading with
  | nil => rfl
  | cons flag flags ih => rw [List.foldl_cons, ih, set_words]

/-- Of several paths the last one counts. -/
theorem flags_path (flags : List Flag) : (flags.foldl Flag.set reading).settingsPath =
    (flags.filterMap Flag.path?).getLast?.or reading.settingsPath := by
  induction flags generalizing reading with
  | nil => rfl
  | cons flag flags ih =>
    rw [List.foldl_cons, ih, set_path, List.filterMap_cons]
    cases flag.path? with
    | none => rfl
    | some path =>
      rw [List.getLast?_cons]
      cases (flags.filterMap Flag.path?).getLast? <;> rfl

theorem read_before (alone : reading.words = []) (words : List String) :
    read reading ("--" :: "ask" :: words) = .ok (.words { reading with words := "ask" :: words }) := by
  simp [read, alone]

theorem read_behind (alone : reading.words = []) (words : List String) :
    read reading ("ask" :: "--" :: words) = .ok (.words { reading with words := "ask" :: words }) := by
  have word : verbosityGroup? "ask" = none := rfl
  have plain : isOption "ask" = false := rfl
  simp [read, alone, word, plain]

end Questions

/-- Behind a separator every word belongs to the question, whatever it looks like. -/
theorem parse_question (flags : List Flag) (word : String) (words : List String) : ∃ level,
    parse (flags.flatMap Flag.written ++ "--" :: "ask" :: word :: words) =
        .ok ⟨.ask (" ".intercalate (word :: words)), (flags.filterMap Flag.path?).getLast?, level⟩ ∧
      parse (flags.flatMap Flag.written ++ "ask" :: "--" :: word :: words) =
        .ok ⟨.ask (" ".intercalate (word :: words)), (flags.filterMap Flag.path?).getLast?, level⟩ := by
  have alone : (flags.foldl Flag.set {}).words = [] := flags_words flags
  have path : (flags.foldl Flag.set {}).settingsPath = (flags.filterMap Flag.path?).getLast? := by
    rw [flags_path, Option.or_none]
  refine ⟨Level.ofVerbosity (flags.foldl Flag.set {}).verbosity, ?_, ?_⟩
  · rw [parse, read_flags, read_before alone, ← path]
    rfl
  · rw [parse, read_flags, read_behind alone, ← path]
    rfl

end Inquiry.CommandLine
