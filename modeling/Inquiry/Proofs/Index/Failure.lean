import Inquiry.Proofs.Index.Reload
import Mathlib.Logic.Function.Basic

/-!
An index is made of the vectors of texts that are asked for one after the other. Where one of these
texts has no vector, nothing comes of the index: what is in the cache and what the agent knows stay
as they were, however many of the other texts have been asked for.
-/
namespace Inquiry

section Faults

variable {α β ε : Type} {attempt : Except ε α}

def fault? : Except ε α → Option ε
  | .ok _ => none
  | .error fault => some fault

theorem fault?_iff {fault : ε} : fault? attempt = some fault ↔ attempt = .error fault := by
  cases attempt with
  | ok found => exact iff_of_false nofun nofun
  | error other => exact Option.some_inj.trans (Except.error.injEq other fault).symm.to_iff

/-- What comes after an attempt can only fail if that has succeeded. -/
theorem fault?_bind {f : α → Except ε β} {later : Option ε}
    (same : ∀ found, attempt = .ok found → fault? (f found) = later) :
    fault? (attempt >>= f) = (fault? attempt).or later := by
  cases attempt with
  | ok found => exact same found rfl
  | error fault => rfl

theorem fault?_total {f : α → Except ε β}
    (total : ∀ found, attempt = .ok found → fault? (f found) = none) :
    fault? (attempt >>= f) = fault? attempt :=
  (fault?_bind total).trans Option.or_none

theorem fault?_map (f : α → β) : fault? (attempt.map f) = fault? attempt := by
  cases attempt <;> rfl

theorem findSome?_head (f : α → Option β) (item : α) (rest : List α) :
    (item :: rest).findSome? f = (f item).or (rest.findSome? f) := by
  rw [List.findSome?_cons]
  cases f item <;> rfl

theorem Catalog.gather_fault {name : β → String} {value : β → Except ε α} (known : Catalog α)
    (items : List β) :
    fault? (known.gather name value items) = items.findSome? fun item => fault? (value item) := by
  induction items generalizing known with
  | nil => rfl
  | cons item rest ih =>
    rw [Catalog.gather, fault?_bind fun made _ => ih (known.insert (name item) made),
      findSome?_head]

end Faults

def Embedder.firstFault (embedder : Embedder) (texts : List String) : Option Embedding.Fault :=
  texts.findSome? fun text => fault? (embedder.embed text)

theorem Embedder.firstFault_cons (embedder : Embedder) (text : String) (rest : List String) :
    embedder.firstFault (text :: rest) =
      (fault? (embedder.embed text)).or (embedder.firstFault rest) := findSome?_head _ text rest

theorem Embedder.firstFault_append (embedder : Embedder) (texts rest : List String) :
    embedder.firstFault (texts ++ rest) =
      (embedder.firstFault texts).or (embedder.firstFault rest) := List.findSome?_append

namespace Index

variable {embedder : Embedder}

theorem embedFields_fault (known : Catalog Vector32) (fields : List Field) :
    fault? (embedFields embedder known fields) = embedder.firstFault (fields.map fieldText) := by
  rw [embedFields_gather, Catalog.gather_fault, Embedder.firstFault, List.findSome?_map]
  rfl

theorem entryOf_fault (live : Collection) : fault? (entryOf embedder live) =
    embedder.firstFault
      (collectionText live.name live.description :: live.fields.map fieldText) := by
  rw [entryOf, Embedder.firstFault_cons]
  apply fault?_bind
  intro vector _
  rw [← embedFields_fault .empty]
  exact fault?_total fun _ _ => rfl

theorem build_fault (schema : List Collection) :
    fault? (build embedder schema) = embedder.firstFault (Schema.texts schema) := by
  rw [build, extend_gather, Catalog.gather_fault]
  induction schema with
  | nil => rfl
  | cons live rest ih =>
    rw [Schema.texts, List.flatMap_cons, Embedder.firstFault_append, ← entryOf_fault live,
      ← Schema.texts, ← ih, findSome?_head]

/-- The texts that a refresh asks for: those of the collections whose description is known and is
another one by now. -/
def renewals (described : String → Option String) : List Collection → List String
  | [] => []
  | live :: rest =>
    match described live.name with
    | none => renewals described rest
    | some description =>
      let later := renewals (Function.update described live.name (some live.description)) rest
      if description = live.description then later
      else collectionText live.name live.description :: later

theorem renewals_known {described : String → Option String} {live : Collection}
    {description : String} (known : described live.name = some description) (other : description ≠ live.description)
    (rest : List Collection) : renewals described (live :: rest) =
      collectionText live.name live.description ::
        renewals (Function.update described live.name (some live.description)) rest := by
  simp only [renewals, known, if_neg other]

def descriptions (index : Index) (name : String) : Option String :=
  (index.get? name).map (·.description)

theorem descriptions_insert (index : Index) (name : String) (entry : Entry) :
    (descriptions (index.insert name entry)) =
      Function.update index.descriptions name (some entry.description) := by
  funext other
  rw [descriptions, Catalog.get?_insert]
  by_cases same : name = other
  · rw [if_pos same, ← same, Function.update_self]
    rfl
  · rw [if_neg same, Function.update_of_ne (Ne.symm same)]
    rfl

theorem build_description {index : Index} {schema : List Collection}
    (built : build embedder schema = .ok index) (sound : Schema.IsSound schema) {live : Collection}
    (member : live ∈ schema) : index.descriptions live.name = some live.description := by
  obtain ⟨entry, made, found⟩ := build_item built sound member
  rw [descriptions, found, Option.map_some, (entryOf_current made).1.description]

theorem refreshed_fault (live : Collection) (entry : Entry) :
    fault? (refreshed embedder live entry) =
      if entry.description = live.description then none
      else fault? (embedder.embed (collectionText live.name live.description)) := by
  rw [refreshed]
  split
  · rfl
  · exact fault?_total fun _ _ => rfl

theorem refresh_fault (index : Index) (schema : List Collection) :
    fault? (refresh embedder index schema) =
      embedder.firstFault (renewals index.descriptions schema) := by
  induction schema generalizing index with
  | nil => rfl
  | cons live rest ih =>
    rw [refresh, renewals, descriptions]
    rcases index.get? live.name with - | entry
    · exact ih index
    · -- the description is the live one after this step, whether it was before or not
      let described := Function.update index.descriptions live.name (some live.description)
      have after (fresh : Entry) (isFresh : refreshed embedder live entry = .ok fresh) :
          fault? (refresh embedder (index.insert live.name fresh) rest) =
            embedder.firstFault (renewals described rest) := by
        rw [ih, descriptions_insert, (refreshed_current isFresh).1.description]
      change fault? (refreshed embedder live entry >>= _) = _
      rw [fault?_bind fun fresh isFresh => (fault?_total fun _ _ => rfl).trans (after fresh isFresh)]
      rw [refreshed_fault]
      dsimp only [Option.map_some]
      split
      · rfl
      · rw [Embedder.firstFault_cons]

end Index

namespace Cache

variable {files after : Files} {index : Index} {force : Bool} {fault : Embedding.Fault}

def Task.asked (task : Task) (files : Files) (force : Bool) : List String :=
  if force then Schema.texts task.schema
  else
    match load files task.path task.fingerprint with
    | .ok (some known) => Index.renewals known.descriptions task.schema
    | _ => Schema.texts task.schema

theorem Task.asked_built {task : Task} (anew : task.BuildsAnew files force) :
    task.asked files force = Schema.texts task.schema := by
  rcases anew with rfl | unusable
  · rfl
  · unfold asked
    split
    next => rfl
    next =>
      split
      next known loaded => exact absurd loaded (unusable known)
      next => rfl

theorem Task.asked_updated {task : Task} {known : Index} (unforced : force = false)
    (loaded : load files task.path task.fingerprint = .ok (some known)) :
    task.asked files force = Index.renewals known.descriptions task.schema := by
  simp [asked, unforced, loaded]

theorem Task.run_fault (task : Task) (files : Files) (force : Bool) :
    fault? (task.run files force).2 = task.embedder.firstFault (task.asked files force) := by
  rcases task.run_cases files force with anew | ⟨unforced, known, loaded⟩
  · rw [run_built anew, asked_built anew, built_outcome, Index.build_fault]
  · rw [run_updated unforced loaded, asked_updated unforced loaded, updated_outcome, fault?_map,
      Index.refresh_fault]

theorem Task.built_kept {task : Task} (failed : task.built files = (after, .error fault)) :
    after = files := by
  unfold built at failed
  split at failed <;> cases failed
  rfl

theorem Task.updated_kept {task : Task}
    (failed : task.updated files index = (after, .error fault)) : after = files := by
  unfold updated at failed
  split at failed <;> cases failed
  rfl

theorem Task.run_kept {task : Task} (failed : task.run files force = (after, .error fault)) :
    after = files := by
  rcases task.run_cases files force with anew | ⟨unforced, known, loaded⟩
  · rw [run_built anew] at failed
    exact built_kept failed
  · rw [run_updated unforced loaded] at failed
    exact updated_kept failed

theorem Task.run_error {task : Task} : task.run files force = (after, .error fault) ↔
    after = files ∧ task.embedder.firstFault (task.asked files force) = some fault := by
  rw [← run_fault, fault?_iff]
  constructor
  · intro failed
    exact ⟨run_kept failed, by rw [failed]⟩
  · rintro ⟨rfl, failed⟩
    have ran : task.run after force = ((task.run after force).1, .error fault) :=
      Prod.ext rfl failed
    exact ran.trans (Prod.ext (run_kept ran) rfl)

end Cache

/-- Why no new index can be made: the schema cannot be read, or a text of it has no vector. -/
inductive Agent.CannotIndex (agent : Agent) : Failure → Prop
  | database {fault : Store.Fault} (surveyed : agent.store.survey.schema = .error fault) :
      CannotIndex agent (.database fault)
  | embedding {schema : List Collection} {fault : Embedding.Fault}
      (surveyed : agent.store.survey.schema = .ok schema)
      (failed : agent.embedder.firstFault (Schema.texts schema) = some fault) :
      CannotIndex agent (.embedding fault)

namespace Session

variable {session next : Session} {now : Int} {failure : Failure}

def surveyed (session : Session) : Session :=
  { session with executed := session.executed ++ session.agent.store.survey.commands }

theorem reindex_unread {fault : Store.Fault}
    (unread : session.agent.store.survey.schema = .error fault) (now : Int) :
    session.reindex now = (.error (.database fault), session.surveyed) := by
  simp only [reindex, indexing, unread]
  rfl

section Read

variable {schema : List Collection} (read : session.agent.store.survey.schema = .ok schema)

include read

theorem reindex_made {files : Files} {index : Index}
    (ran : (cacheTask session.agent.settings session.agent.embedder now schema).run session.files
      true = (files, .ok index)) : (session.reindex now).1 = .ok index.size := by
  simp only [reindex, indexing, read, ran]
  rfl

theorem reindex_unmade {fault : Embedding.Fault}
    (failed : session.agent.embedder.firstFault (Schema.texts schema) = some fault) (now : Int) :
    session.reindex now = (.error (.embedding fault), session.surveyed) := by
  have ran : (cacheTask session.agent.settings session.agent.embedder now schema).run session.files
      true = (session.files, .error fault) := Cache.Task.run_error.2 ⟨rfl, failed⟩
  simp only [reindex, indexing, read, ran]
  rfl

end Read

theorem reindex_error : session.reindex now = (.error failure, next) ↔
    next = session.surveyed ∧ session.agent.CannotIndex failure := by
  constructor
  · intro failed
    rcases read : session.agent.store.survey.schema with fault | schema
    · cases (reindex_unread read now).symm.trans failed
      exact ⟨rfl, .database read⟩
    · rcases ran : (cacheTask session.agent.settings session.agent.embedder now schema).run
        session.files true with ⟨files, fault | index⟩
      · have fails := (Cache.Task.run_error.1 ran).2
        cases (reindex_unmade read fails now).symm.trans failed
        exact ⟨rfl, .embedding read fails⟩
      · rw [Prod.ext_iff, reindex_made read ran] at failed
        cases failed.1
  · rintro ⟨rfl, unread | ⟨read, fails⟩⟩
    · exact reindex_unread unread now
    · exact reindex_unmade read fails now

end Session

/-- A call that fails has asked for a text without a vector, and leaves the files alone; a survey
that fails leaves all but the record of what it has sent. -/
theorem failed_indexing :
    (∀ (task : Cache.Task) (files after : Files) (force : Bool) (fault : Embedding.Fault),
      task.run files force = (after, .error fault) ↔
        after = files ∧ task.embedder.firstFault (task.asked files force) = some fault) ∧
    ∀ (session next : Session) (now : Int) (failure : Failure),
      session.reindex now = (.error failure, next) ↔
        next = { session with
          executed := session.executed ++ session.agent.store.survey.commands } ∧
        session.agent.CannotIndex failure :=
  ⟨fun _ _ _ _ _ => Cache.Task.run_error, fun _ _ _ _ => Session.reindex_error⟩

section Refusing

open Cache

def refusing (refused : String) : Embedder where
  descriptor := (Hashing.embedder 2).descriptor
  vector text := if text = refused then .error (.request "refused") else .ok [1]

def grown (refused : String) : Task :=
  ⟨refusing refused, "cache.json", "2024-05-02", shop [status, amount] 42⟩

/-- A cached index cannot be brought up to date, and a new one fails at its last text. -/
theorem failed_indexing_shop : ∃ saved index,
    (hashing 2 "cache.json" "2024-05-01" (shop [amount, status] 10)).run .empty false =
      (saved, .ok index) ∧
    (grown "orders: Collection with 2 fields and 42 documents").run saved false =
      (saved, .error (.request "refused")) ∧
    (grown "amount: double").run saved true = (saved, .error (.request "refused")) := by
  obtain ⟨saved, index, built, written, ran⟩ := shop_saved "2024-05-01"
  have sound : Schema.IsSound (shop [amount, status] 10) := shop_sound (by decide) (by decide)
  have described : index.descriptions "orders" = some (Schema.description 2 10) :=
    Index.build_description built sound List.mem_cons_self
  have renewals : Index.renewals index.descriptions (shop [status, amount] 42) =
      ["orders: Collection with 2 fields and 42 documents"] := by
    have other : Schema.description 2 10 ≠ Schema.description 2 42 := by decide +kernel
    have text : Index.collectionText "orders" (Schema.description 2 42) =
        "orders: Collection with 2 fields and 42 documents" := by decide +kernel
    rw [shop, Index.renewals_known described other]
    exact congrArg (· :: []) text
  have loaded := shop_loaded built written 42
  refine ⟨saved, index, ran, (failed_indexing.1 _ _ _ _ _).2 ⟨rfl, ?_⟩,
    (failed_indexing.1 _ _ _ _ _).2 ⟨rfl, ?_⟩⟩
  · rw [Task.asked_updated rfl loaded]
    exact renewals ▸ by decide +kernel
  · change (refusing "amount: double").firstFault (Schema.texts (shop [status, amount] 42)) = _
    decide +kernel

end Refusing

end Inquiry
