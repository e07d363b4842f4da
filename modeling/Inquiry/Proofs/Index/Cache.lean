import Inquiry.Embedding.Hashing
import Inquiry.Index.Cache
import Inquiry.Proofs.Embedding.Hashing
import Inquiry.Proofs.Files.Write
import Inquiry.Proofs.Index.Exact

/-! What one call for an index reads, makes and leaves in the file of its cache. -/
namespace Inquiry.Cache

variable {files after saved : Files} {path fingerprint text : String} {record : Record} {index : Index}
  {task : Task} {force : Bool}

theorem save_read (written : save files path record = .ok saved) :
    saved.isThere path = true ∧ saved.read path = .ok record.text := by
  unfold save at written
  split at written
  next => cases written
  next made _ =>
    split at written
    next => cases written
    next done =>
      cases written
      exact Files.write_read done

/-- What is loaded after a record has been saved is what its text is read as. -/
theorem load_written (written : save files path record = .ok saved) (fingerprint : String) :
    load saved path fingerprint =
      match Record.ofText? record.text with
      | none => .error .malformed
      | some found => .ok (if found.fingerprint = fingerprint then some found.index else none) := by
  obtain ⟨there, read⟩ := save_read written
  cases found : Record.ofText? record.text <;> simp [load, there, read, found]

theorem save_error {fault : Fault} (failed : save files path record = .error fault) :
    (files.withParent path).read path ≠ .ok text := by
  unfold save at failed
  split at failed
  next stopped => exact Files.makeParent_error stopped
  next made isMade =>
    rw [Files.makeParent_ok isMade]
    split at failed
    next stopped => exact Files.write_error stopped
    next => cases failed

/-- Whatever can be read after an index has been stored is its record. -/
theorem Task.stored_read (read : (task.stored files index).read task.path = .ok text) :
    text = (task.record index).text := by
  unfold stored at read
  split at read
  next written => exact (Except.ok.inj ((save_read written).2.symm.trans read)).symm
  next failed => exact absurd read (save_error failed)

/-- Over a file that can be read, an index can be stored. -/
theorem Task.read_stored (read : files.read task.path = .ok text) (index : Index) :
    (task.stored files index).read task.path = .ok (task.record index).text := by
  unfold stored
  split
  next written => exact (save_read written).2
  next failed => exact absurd (Files.read_withParent read) (save_error failed)

theorem load_some (loaded : load files path fingerprint = .ok (some index)) :
    ∃ text record, files.read path = .ok text ∧ Record.ofText? text = some record ∧
      record.fingerprint = fingerprint ∧ record.index = index := by
  unfold load at loaded
  split at loaded
  next =>
    split at loaded
    next => cases loaded
    next text read =>
      split at loaded
      next => cases loaded
      next record found =>
        split at loaded
        next same =>
          cases loaded
          exact ⟨text, record, read, found, same, rfl⟩
        next => cases loaded
  next => cases loaded

inductive Task.Course (task : Task) (files : Files) (index : Index) : Files → Prop
  | built (made : Index.build task.embedder task.schema = .ok index) :
      Course task files index (task.stored files index)
  | kept {known : Index} (loaded : load files task.path task.fingerprint = .ok (some known))
      (refreshed : Index.refresh task.embedder known task.schema = .ok (0, index)) :
      Course task files index files
  | renewed {known : Index} {changes : Nat}
      (loaded : load files task.path task.fingerprint = .ok (some known))
      (refreshed : Index.refresh task.embedder known task.schema = .ok (changes, index)) :
      Course task files index (task.stored files index)

def Task.BuildsAnew (task : Task) (files : Files) (force : Bool) : Prop :=
  force = true ∨ ∀ known, load files task.path task.fingerprint ≠ .ok (some known)

theorem Task.run_built (anew : task.BuildsAnew files force) :
    task.run files force = task.built files := by
  rcases anew with rfl | unusable
  · rfl
  · unfold run
    split
    next => rfl
    next =>
      split
      next known loaded => exact absurd loaded (unusable known)
      next => rfl

theorem Task.run_updated {known : Index} (unforced : force = false)
    (loaded : load files task.path task.fingerprint = .ok (some known)) :
    task.run files force = task.updated files known := by
  simp [run, unforced, loaded]

theorem Task.run_cases (task : Task) (files : Files) (force : Bool) :
    task.BuildsAnew files force ∨
      force = false ∧ ∃ known, load files task.path task.fingerprint = .ok (some known) := by
  by_cases usable : ∃ known, load files task.path task.fingerprint = .ok (some known)
  · cases force with
    | true => exact .inl (.inl rfl)
    | false => exact .inr ⟨rfl, usable⟩
  · exact .inl (.inr fun known loaded => usable ⟨known, loaded⟩)

theorem Task.built_outcome (task : Task) (files : Files) :
    (task.built files).2 = Index.build task.embedder task.schema := by
  unfold built
  split
  next failed => exact failed.symm
  next made => exact made.symm

theorem Task.updated_outcome (task : Task) (files : Files) (known : Index) :
    (task.updated files known).2 =
      (Index.refresh task.embedder known task.schema).map (·.2) := by
  unfold updated
  split
  all_goals
    next run =>
      rw [run]
      rfl

theorem Task.run_course (ran : task.run files force = (after, .ok index)) :
    task.Course files index after := by
  rcases task.run_cases files force with anew | ⟨unforced, known, loaded⟩
  · rw [run_built anew, built] at ran
    split at ran
    next => cases ran
    next made =>
      cases ran
      exact .built made
  · rw [run_updated unforced loaded, updated] at ran
    split at ran
    next => cases ran
    next refreshed =>
      cases ran
      exact .kept loaded refreshed
    next refreshed =>
      cases ran
      exact .renewed loaded refreshed

/-- Where every text has a vector, every call gives an index. -/
theorem Task.run_total (total : ∀ text, ∃ vector, task.embedder.embed text = .ok vector)
    (files : Files) (force : Bool) : ∃ index, (task.run files force).2 = .ok index := by
  rcases task.run_cases files force with anew | ⟨unforced, known, loaded⟩
  · rw [run_built anew, built_outcome]
    exact Index.build_total total task.schema
  · obtain ⟨changes, next, refreshed⟩ := Index.refresh_total total known task.schema
    rw [run_updated unforced loaded, updated_outcome, refreshed]
    exact ⟨next, rfl⟩

/-- The time of writing does not matter to the index that is given. -/
theorem Task.run_created (task : Task) (created : String) (files : Files) (force : Bool) :
    (({ task with created } : Task).run files force).2 = (task.run files force).2 := by
  rcases task.run_cases files force with anew | ⟨unforced, known, loaded⟩
  · have anewToo : ({ task with created } : Task).BuildsAnew files force := anew
    rw [run_built anew, run_built anewToo, built_outcome, built_outcome]
  · have loadedToo : load files ({ task with created } : Task).path
        ({ task with created } : Task).fingerprint = .ok (some known) := loaded
    rw [run_updated unforced loaded, run_updated unforced loadedToo, updated_outcome, updated_outcome]

/-- A call that finds no file builds its index and saves it. -/
theorem Task.run_unwritten (unwritten : files.isThere task.path = false)
    (made : Index.build task.embedder task.schema = .ok index)
    (written : save files task.path (task.record index) = .ok saved) :
    task.run files false = (saved, .ok index) := by
  have absent : load files task.path task.fingerprint = .ok none := by simp [load, unwritten]
  have anew : task.BuildsAnew files false := .inr fun known loaded => by
    rw [absent] at loaded
    cases loaded
  rw [run_built anew]
  simp only [built, made, stored, written]

def hashing (dimension : Nat) (path created : String) (schema : List Collection) : Task :=
  ⟨Hashing.embedder dimension, path, created, schema⟩

def hashingShape (dimension : Nat) (schema : List Collection) : List UInt8 :=
  Fingerprint.shape (Hashing.embedder dimension).descriptor schema

theorem hashing_total (dimension : Nat) (text : String) :
    ∃ vector, (Hashing.embedder dimension).embed text = .ok vector :=
  ⟨_, Hashing.embedder_embed dimension text⟩

theorem each_hashing {Kind : Float32 → Prop} {dimension : Nat} {text : String}
    (each : ∀ x ∈ Hashing.embed (max dimension 1) text, Kind x) :
    (Hashing.embedder dimension).EachNumber Kind text := by
  intro vector embedded
  rw [Hashing.embedder_embed] at embedded
  cases embedded
  exact each

end Inquiry.Cache
