import Inquiry.Files.Tree
import Mathlib.Data.List.Basic

/-!
Making directories and writing a file. What is made stays in place, so a file that has been written
is found again by the path that it was written under.
-/
namespace Inquiry.Files

variable {files made saved : Files} {start place other parts : List String} {node : Node}
  {path text : String} {fault : Fault}

theorem decode_encode (text : String) : Utf8.decode? (Utf8.encode text) = some text :=
  dif_pos text.isValidUTF8

def IsBase (place : List String) : Prop := place = [] ∨ place = ["/"]

theorem node?_base (base : IsBase place) : files.node? place = some .directory := by
  rcases base with rfl | rfl <;> rfl

theorem node?_listed (listed : ¬ IsBase place) :
    files.node? place = (files.nodes.find? fun node => node.1 = place).map (·.2) := by
  have apart : (decide (place = []) || decide (place = ["/"])) = false := by
    simpa [IsBase] using listed
  simp [node?, apart]

theorem node?_put_self (listed : ¬ IsBase place) :
    (files.put place node).node? place = some node := by
  simp [node?_listed listed, put]

theorem node?_put_other (different : other ≠ place) :
    (files.put place node).node? other = files.node? other := by
  by_cases base : IsBase other
  · rw [node?_base base, node?_base base]
  · have kept : ∀ entry : List String × Node,
        decide (decide (entry.1 ≠ place) = true ∧ decide (entry.1 = other) = true) =
          decide (entry.1 = other) := by
      intro entry
      by_cases here : entry.1 = other <;> simp [here, different]
    simp only [node?_listed base, put]
    rw [List.find?_cons_of_neg (by simpa using different.symm), List.find?_filter]
    simp only [kept]

def Keeps (files later : Files) : Prop :=
  ∀ place, files.node? place = some .directory → later.node? place = some .directory

theorem Keeps.descend {later : Files} (keeps : files.Keeps later)
    (run : files.descend start parts = .ok place) : later.descend start parts = .ok place := by
  induction parts generalizing start with
  | nil => exact run
  | cons part rest ih =>
    simp only [Files.descend] at run ⊢
    cases here : files.node? (step start part) with
    | none => simp [here] at run
    | some node =>
      cases node with
      | file content => simp [here] at run
      | directory =>
        simp only [here] at run
        simp only [keeps _ here]
        exact ih run

theorem put_keeps (notDirectory : files.node? place ≠ some .directory) :
    files.Keeps (files.put place node) := by
  intro other directory
  have different : other ≠ place := fun same => notDirectory (same ▸ directory)
  rw [node?_put_other different, directory]

theorem making_keeps (there : files.node? place = some node) :
    (files.making start parts).1.node? place = some node := by
  induction parts generalizing files start with
  | nil => exact there
  | cons part rest ih =>
    unfold making
    split
    next => exact ih there
    next => exact there
    next missing =>
      refine ih ?_
      rwa [node?_put_other (fun same => by simp [same, missing] at there)]

/-- Where all directories have been made, they can be followed; where not, they still cannot. -/
theorem descend_making :
    (∃ fault, (files.making start parts).1.descend start parts = .error fault) ∨
      (files.making start parts).2 = .ok () ∧
        ∃ place, (files.making start parts).1.descend start parts = .ok place := by
  induction parts generalizing files start with
  | nil => exact .inr ⟨rfl, start, rfl⟩
  | cons part rest ih =>
    have followed : ∀ later : Files, later.node? (step start part) = some .directory →
        (later.making (step start part) rest).1.descend start (part :: rest) =
          (later.making (step start part) rest).1.descend (step start part) rest := by
      intro later directory
      simp only [descend, making_keeps directory]
    cases here : files.node? (step start part) with
    | none =>
      have listed : ¬ IsBase (step start part) := fun base => by
        simp [node?_base base] at here
      simp only [making, here, followed _ (node?_put_self listed)]
      exact ih
    | some node =>
      cases node with
      | directory =>
        simp only [making, here, followed _ here]
        exact ih
      | file content =>
        refine .inl ⟨.notDirectory, ?_⟩
        simp only [making, descend, here]

theorem read_ok : files.read path = .ok text ↔ ∃ place content, files.place path = .ok place ∧
    files.node? place = some (.file content) ∧ Path.endsInSlash path = false ∧
      Utf8.decode? content = some text := by
  unfold read readBytes
  cases files.place path with
  | error fault => simp [bind, Except.bind]
  | ok place =>
    cases here : files.node? place with
    | none => simp [bind, Except.bind, here]
    | some node =>
      cases node with
      | directory => simp [bind, Except.bind, here]
      | file content =>
        cases slash : Path.endsInSlash path with
        | true => simp [bind, Except.bind, here]
        | false =>
          cases decoded : Utf8.decode? content with
          | none => simp [bind, Except.bind, here, decoded]
          | some known => simp [bind, Except.bind, here, decoded]

theorem write_ok : files.write path text = .ok saved ↔ ∃ place, files.place path = .ok place ∧
    files.node? place ≠ some .directory ∧ Path.endsInSlash path = false ∧
      saved = files.put place (.file (Utf8.encode text)) := by
  unfold write writeBytes
  cases files.place path with
  | error fault => simp [bind, Except.bind]
  | ok place =>
    cases here : files.node? place with
    | none => cases slash : Path.endsInSlash path <;> simp [bind, Except.bind, here, eq_comm]
    | some node =>
      cases node with
      | directory => simp [bind, Except.bind, here]
      | file content =>
        cases slash : Path.endsInSlash path <;> simp [bind, Except.bind, here, eq_comm]

/-- A path leads into the directory before its last part. -/
theorem place_ok : files.place path = .ok place ↔ path ≠ "" ∧ ∃ folder,
    files.descend [] (Path.parts path).dropLast = .ok folder ∧
      place = (Path.parts path).getLast?.elim folder (step folder) := by
  unfold Files.place
  by_cases unnamed : path = ""
  · simp [unnamed]
  · rw [if_neg unnamed]
    cases ends : (Path.parts path).getLast? with
    | none => simp [List.getLast?_eq_none_iff.1 ends, descend, unnamed, eq_comm]
    | some last =>
      cases files.descend [] (Path.parts path).dropLast with
      | error fault => simp [bind, Except.bind]
      | ok folder => simp [bind, Except.bind, pure, Except.pure, unnamed, eq_comm]

theorem Keeps.leads {later : Files} (keeps : files.Keeps later)
    (leads : files.place path = .ok place) : later.place path = .ok place := by
  obtain ⟨named, folder, run, isPlace⟩ := place_ok.1 leads
  exact place_ok.2 ⟨named, folder, keeps.descend run, isPlace⟩

theorem write_read (written : files.write path text = .ok saved) :
    saved.isThere path = true ∧ saved.read path = .ok text := by
  obtain ⟨place, leads, notDirectory, noSlash, rfl⟩ := write_ok.1 written
  have listed : ¬ IsBase place := fun base => notDirectory (node?_base base)
  have leadsStill := (@put_keeps _ _ (.file (Utf8.encode text)) notDirectory).leads leads
  refine ⟨?_, read_ok.2 ⟨place, _, leadsStill, node?_put_self listed, noSlash, decode_encode text⟩⟩
  simp [isThere, leadsStill, node?_put_self listed]

/-- What cannot be written cannot be read either. -/
theorem write_error (failed : files.write path text = .error fault) {found : String} :
    files.read path ≠ .ok found := by
  intro read
  obtain ⟨place, content, leads, here, noSlash, _⟩ := read_ok.1 read
  have notDirectory : files.node? place ≠ some .directory := by simp [here]
  rw [write_ok.2 ⟨place, leads, notDirectory, noSlash, rfl⟩] at failed
  cases failed

theorem read_descends (read : files.read path = .ok text) :
    ∃ folder, files.descend [] (Path.parts path).dropLast = .ok folder := by
  obtain ⟨place, content, leads, -⟩ := read_ok.1 read
  obtain ⟨-, folder, run, -⟩ := place_ok.1 leads
  exact ⟨folder, run⟩

/-- A file stays where it is when the directories for it are made. -/
theorem read_withParent (read : files.read path = .ok text) :
    (files.withParent path).read path = .ok text := by
  obtain ⟨place, content, leads, here, noSlash, decoded⟩ := read_ok.1 read
  have keeps : files.Keeps (files.withParent path) := fun _ there => making_keeps there
  exact read_ok.2 ⟨place, content, keeps.leads leads, making_keeps here, noSlash, decoded⟩

theorem makeParent_ok (success : files.makeParent path = .ok made) :
    files.withParent path = made := by
  unfold makeParent makeDirectories at success
  unfold withParent
  split at success
  next run =>
    cases success
    rw [run]
  next => cases success

theorem makeParent_error (failed : files.makeParent path = .error fault) {found : String} :
    (files.withParent path).read path ≠ .ok found := by
  intro read
  obtain ⟨folder, run⟩ := read_descends read
  unfold makeParent makeDirectories at failed
  rcases @descend_making files [] (Path.parts path).dropLast with ⟨stop, blocked⟩ | ⟨success, -⟩
  · rw [withParent, blocked] at run
    cases run
  · split at failed
    next => cases failed
    next stopped =>
      rw [stopped] at success
      cases success

end Inquiry.Files
