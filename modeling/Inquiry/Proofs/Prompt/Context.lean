import Inquiry.Prompt.Context
import Inquiry.Proofs.Index.Ranking
import Inquiry.Settings.Reading
import Inquiry.Store.Memory

/-!
A prompt describes the leading collections of a ranking, those that score enough, in their order.
The bound that makes a question relevant is apart from the bound that a collection has to reach, so
where the second is the higher one a relevant question may have no collection.
-/
namespace Inquiry.Context

/-- In a list in which `p` once lost is never found again, the members with `p` come first. -/
theorem filter_leads {α : Type} {p : α → Bool} {items : List α}
    (falling : items.Pairwise fun first second => p second = true → p first = true) :
    items.filter p <+: items := by
  induction items with
  | nil => exact List.prefix_refl []
  | cons head rest ih =>
    obtain ⟨lost, fallingRest⟩ := List.pairwise_cons.1 falling
    by_cases kept : p head = true
    · rw [List.filter_cons_of_pos kept, List.prefix_cons_inj]
      exact ih fallingRest
    · have empty : rest.filter p = [] :=
        List.filter_eq_nil_iff.2 fun item member found => kept (lost item member found)
      rw [List.filter_cons_of_neg kept, empty]
      exact List.nil_prefix

section Selected

variable {source : Source} {question : Vector32} {scored : Index.Scored}
  {ranked : List Index.Scored}

def candidates (source : Source) (question : Vector32) : List Index.Scored :=
  source.index.rankCollections question source.ranking.topCollections

def reaches (source : Source) (scored : Index.Scored) : Bool :=
  source.ranking.minScore ≤ scored.score

theorem candidates_nearest (source : Source) (question : Vector32) :
    Index.IsNearest question source.index.collectionVectors source.ranking.topCollections
      (candidates source question) :=
  Index.nearest_isNearest question source.index.collectionVectors_distinct
    source.ranking.topCollections

theorem candidates_eq (few : ranked.length ≤ source.ranking.topCollections)
    (listed : ranked.Perm (source.index.collectionVectors.map fun (name, vector) =>
      ⟨name, question.cosine vector⟩))
    (ordered : ranked.Pairwise fun first second => Index.precedes first second = true) :
    candidates source question = ranked := by
  rw [candidates, Index.rankCollections, Index.nearest_take, ← Index.collectionVectors,
    Index.ranked_eq listed ordered, List.take_of_length_le few]

theorem candidate_known (member : scored ∈ candidates source question) :
    ∃ entry, source.index.get? scored.name = some entry := by
  obtain ⟨-, vector, listed, -⟩ := (candidates_nearest source question).scores scored member
  obtain ⟨⟨name, entry⟩, known, same⟩ := List.mem_map.1 listed
  cases same
  exact ⟨entry, Catalog.get?_iff.2 known⟩

theorem reaching_leads (source : Source) (question : Vector32) :
    (candidates source question).filter (reaches source) <+: candidates source question := by
  have nearest := candidates_nearest source question
  apply filter_leads
  apply nearest.sorted.imp_of_mem
  intro first second member memberToo before reached
  have finite := (nearest.scores first member).1
  have finiteToo := (nearest.scores second memberToo).1
  have ahead : Index.rank second.score ≤ Index.rank first.score := by
    rcases before with exceeds | ⟨same, -⟩
    · exact Int.le_of_lt ((Score.exceeds_iff finite finiteToo).1 exceeds)
    · rw [same]
  exact decide_eq_true (Score.le_of_rank finite ahead (of_decide_eq_true reached))

theorem selected_names
    (known : ∀ scored ∈ ranked, ∃ entry, source.index.get? scored.name = some entry) :
    (selected source ranked).map (·.1) = (ranked.filter (reaches source)).map (·.name) := by
  rw [selected, List.map_filterMap]
  apply List.filterMap_eq_map_iff_forall_eq_some.2
  intro scored member
  obtain ⟨entry, found⟩ := known scored (List.mem_of_mem_filter member)
  simp only [found, Option.map_some]

theorem selected_known {name : String} {entry : Index.Entry}
    (member : (name, entry) ∈ selected source ranked) : source.index.get? name = some entry := by
  obtain ⟨scored, -, made⟩ := List.mem_filterMap.1 member
  obtain ⟨found, known, same⟩ := Option.map_eq_some_iff.1 made
  cases same
  exact known

theorem selected_single {entry : Index.Entry} (found : source.index.get? scored.name = some entry) :
    selected source [scored] =
      if source.ranking.minScore ≤ scored.score then [(scored.name, entry)] else [] := by
  split
  next reached => simp only [selected, List.filter, reached, decide_true, List.filterMap, found,
    Option.map_some]
  next below => simp only [selected, List.filter, below, decide_false, List.filterMap]

theorem build_ranked {best : Index.Scored} {rest : List Index.Scored}
    (ranks : candidates source question = best :: rest) : build source question =
      if source.ranking.minTopScore ≤ best.score then
        .relevant
          (heading ++ String.join ((selected source (best :: rest)).map fun (name, entry) =>
            describe source question name entry))
          ((selected source (best :: rest)).map (·.1))
      else .irrelevant := by
  rw [candidates] at ranks
  rw [build, ranks]

end Selected

/-- What a context says of candidates of which `best` is the first: one section for each of the
collections that lead them, down to the bound on scores. -/
structure Tells (source : Source) (question : Vector32) (best : Index.Scored)
    (rest : List Index.Scored) (text : String) (collections : List String) : Prop where
  relevant : source.ranking.minTopScore ≤ best.score
  leading : collections <+: (best :: rest).map (·.name)
  listed : ∀ scored ∈ best :: rest,
    scored.name ∈ collections ↔ source.ranking.minScore ≤ scored.score
  first : collections.head? = if source.ranking.minScore ≤ best.score then some best.name else none
  sections : ∃ sections, text = heading ++ String.join sections ∧
    List.Forall₂ (fun name part => ∃ entry, source.index.get? name = some entry ∧
      part = describe source question name entry) collections sections

section Build

variable {source : Source} {question : Vector32} {best : Index.Scored} {rest : List Index.Scored}

theorem mem_reaching (ranks : candidates source question = best :: rest) {scored : Index.Scored}
    (member : scored ∈ best :: rest) :
    scored.name ∈ ((best :: rest).filter (reaches source)).map (·.name) ↔
      source.ranking.minScore ≤ scored.score := by
  have distinct := (candidates_nearest source question).distinct
  rw [ranks] at distinct
  constructor
  · intro among
    obtain ⟨other, kept, same⟩ := List.mem_map.1 among
    obtain ⟨memberToo, reached⟩ := List.mem_filter.1 kept
    rw [← List.inj_on_of_nodup_map distinct memberToo member same]
    exact of_decide_eq_true reached
  · intro reached
    exact List.mem_map_of_mem (List.mem_filter.2 ⟨member, decide_eq_true reached⟩)

theorem reaching_first (ranks : candidates source question = best :: rest) :
    ((best :: rest).filter (reaches source)).head? =
      if source.ranking.minScore ≤ best.score then some best else none := by
  have leads := reaching_leads source question
  rw [ranks] at leads
  split
  next reached =>
    have kept : reaches source best = true := decide_eq_true reached
    rw [List.filter_cons_of_pos kept, List.head?_cons]
  next below =>
    rcases List.prefix_cons_iff.1 leads with empty | ⟨others, begins, -⟩
    · rw [empty, List.head?_nil]
    · have kept : best ∈ (best :: rest).filter (reaches source) := begins ▸ List.mem_cons_self
      exact absurd (of_decide_eq_true (List.mem_filter.1 kept).2) below

theorem tells_selected (ranks : candidates source question = best :: rest)
    (relevant : source.ranking.minTopScore ≤ best.score) : Tells source question best rest
      (heading ++ String.join ((selected source (best :: rest)).map fun (name, entry) =>
        describe source question name entry))
      ((selected source (best :: rest)).map (·.1)) := by
  have names : (selected source (best :: rest)).map (·.1) =
      ((best :: rest).filter (reaches source)).map (·.name) :=
    selected_names fun scored member => candidate_known (ranks ▸ member)
  refine ⟨relevant, ?_, fun scored member => ?_, ?_, _, rfl, ?_⟩
  · rw [names, ← ranks]
    exact (reaching_leads source question).map (·.name)
  · rw [names]
    exact mem_reaching ranks member
  · rw [names, List.head?_map, reaching_first ranks]
    split <;> rfl
  · apply List.forall₂_map_left_iff.2
    apply List.forall₂_map_right_iff.2
    apply List.forall₂_same.2
    intro named member
    exact ⟨named.2, selected_known member, rfl⟩

/-- Under a bound that is not above the one for relevance, the best collection is described. -/
theorem Tells.starts {text : String} {collections : List String}
    (tells : Tells source question best rest text collections)
    (lower : source.ranking.minScore ≤ source.ranking.minTopScore) :
    collections.head? = some best.name := by
  rw [tells.first, if_pos (Score.le_trans lower tells.relevant)]

theorem build_tells {text : String} {collections : List String}
    (built : build source question = .relevant text collections) :
    ∃ best rest, candidates source question = best :: rest ∧
      Tells source question best rest text collections := by
  rcases ranks : candidates source question with - | ⟨best, rest⟩
  · rw [candidates] at ranks
    rw [build, ranks] at built
    cases built
  · rw [build_ranked ranks] at built
    split at built
    next relevant =>
      have tells := tells_selected ranks relevant
      cases built
      exact ⟨best, rest, rfl, tells⟩
    next => cases built

/-- A question is relevant when its best collection is, and a prompt then describes the leading
collections that score enough. -/
theorem build_relevant (source : Source) (question : Vector32) :
    ((∃ text collections, build source question = .relevant text collections) ↔
      ∃ best rest,
        source.index.rankCollections question source.ranking.topCollections = best :: rest ∧
        source.ranking.minTopScore ≤ best.score) ∧
    ∀ text collections, build source question = .relevant text collections →
      ∃ best rest,
        source.index.rankCollections question source.ranking.topCollections = best :: rest ∧
        Tells source question best rest text collections ∧
        (source.ranking.minScore ≤ source.ranking.minTopScore →
          collections.head? = some best.name) := by
  refine ⟨⟨?_, ?_⟩, fun text collections built => ?_⟩
  · rintro ⟨text, collections, built⟩
    obtain ⟨best, rest, ranks, tells⟩ := build_tells built
    exact ⟨best, rest, ranks, tells.relevant⟩
  · rintro ⟨best, rest, ranks, relevant⟩
    exact ⟨_, _, (build_ranked ranks).trans (if_pos relevant)⟩
  · obtain ⟨best, rest, ranks, tells⟩ := build_tells built
    exact ⟨best, rest, ranks, tells, tells.starts⟩

end Build

section Shop

def bare (vector : Vector32) : Index.Entry := ⟨"", vector, [], .empty, 0, []⟩

/-- Usual settings, and collections at three distances from a question about invoices. -/
def shop : Source where
  index := .ofList [("customers", bare [0, 1]), ("invoices", bare [1, 0]), ("orders", bare [3, 4])]
  store := Memory.store .empty
  ranking := {}
  sampleLength := 60

theorem shop_candidates :
    candidates shop [1, 0] = [⟨"invoices", 1⟩, ⟨"orders", 0.6⟩, ⟨"customers", 0⟩] :=
  candidates_eq (Nat.le_refl 3) (by decide +kernel) (by decide +kernel)

/-- The last collection of the ranking scores too little to be described. -/
theorem build_relevant_shop :
    ∃ text, build shop [1, 0] = .relevant text ["invoices", "orders"] ∧
      ∃ best rest,
        Index.rankCollections shop.index [1, 0] 3 = best :: rest ∧
        best :: rest = [⟨"invoices", 1⟩, ⟨"orders", 0.6⟩, ⟨"customers", 0⟩] ∧
        Tells shop [1, 0] best rest text ["invoices", "orders"] ∧
        (0.2 : Float32) ≤ 0.3 ∧ best.name = "invoices" := by
  have relevant : shop.ranking.minTopScore ≤ (1 : Float32) := by decide +kernel
  have names : (selected shop [⟨"invoices", 1⟩, ⟨"orders", 0.6⟩, ⟨"customers", 0⟩]).map (·.1) =
      ["invoices", "orders"] := by
    rw [selected_names fun scored member => candidate_known (shop_candidates ▸ member)]
    decide +kernel
  have built := build_ranked shop_candidates
  rw [if_pos relevant, names] at built
  obtain ⟨best, rest, ranks, tells, starts⟩ := (build_relevant shop [1, 0]).2 _ _ built
  have lower : (0.2 : Float32) ≤ 0.3 := by decide +kernel
  exact ⟨_, built, best, rest, ranks, ranks.symm.trans shop_candidates, tells, lower,
    (Option.some.inj (starts lower)).symm⟩

end Shop

section Sole

def orders : Index.Entry where
  description := "Collection with 1 fields and 5 documents"
  vector := [1, 1]
  fields := [⟨"amount", "double"⟩]
  fieldVectors := .ofList [("amount", [1, 0])]
  count := 5
  indexes := ["_id_"]

def sole (settings : Settings) : Source :=
  ⟨.insert .empty "orders" orders, Memory.store .empty, settings.ranking,
    settings.database.sampleLength⟩

def bounded (minScore : Float32) : Settings :=
  { ranking := { minTopScore := 0.3, minScore } }

theorem bounded_accepted (minScore : Float32) :
    Settings.resolve none {} (bounded minScore) = .ok (bounded minScore) := by
  have level : Logging.level "info" = .ok .info := by cbv
  simp [Settings.resolve, bounded, level, Path.expandHome]

theorem sole_candidates (minScore : Float32) : candidates (sole (bounded minScore)) [1, 0] =
    [⟨"orders", Vector32.cosine [1, 0] [1, 1]⟩] :=
  candidates_eq (Nat.le_add_left 1 2) (.refl _) (List.pairwise_singleton _ _)

theorem sole_selected (minScore score : Float32) :
    selected (sole (bounded minScore)) [⟨"orders", score⟩] =
      if minScore ≤ score then [("orders", orders)] else [] := by
  apply selected_single
  rw [sole, Catalog.get?_insert, if_pos rfl]

theorem sole_relevant (minScore : Float32) :
    (sole (bounded minScore)).ranking.minTopScore ≤ Vector32.cosine [1, 0] [1, 1] := by
  change (0.3 : Float32) ≤ Vector32.cosine [1, 0] [1, 1]
  decide +kernel

/-- A question can be relevant to a collection that no prompt then describes. -/
theorem relevant_without_collections :
    Settings.resolve none {} (bounded 0.9) = .ok (bounded 0.9) ∧
      build (sole (bounded 0.9)) [1, 0] = .relevant heading [] := by
  refine ⟨bounded_accepted 0.9, ?_⟩
  have below : ¬ (0.9 : Float32) ≤ Vector32.cosine [1, 0] [1, 1] := by decide +kernel
  rw [build_ranked (sole_candidates 0.9), if_pos (sole_relevant 0.9), sole_selected,
    if_neg below, List.map_nil, List.map_nil, String.join_nil, String.append_empty]

end Sole

end Inquiry.Context
