import Inquiry.Proofs.Index.Cache
import Inquiry.Proofs.Index.Exact
import Inquiry.Proofs.Index.Fingerprint

/-!
Any number of calls for an index at one path, under hashing embedders of any dimensions. Whatever
the calls before have left there, each call gives an index with the vectors of its own embedder, and
leaves a record with the vectors of the embedder that it names.
-/
namespace Inquiry.Cache

structure Call where
  dimension : Nat
  created : String
  schema : List Collection
  force : Bool

namespace Call

def task (path : String) (call : Call) : Task :=
  hashing call.dimension path call.created call.schema

def shape (call : Call) : List UInt8 := hashingShape call.dimension call.schema

def run (path : String) (files : Files) (call : Call) : Files × Except Embedding.Fault Index :=
  (call.task path).run files call.force

/-- Each call finds the files as the one before has left them. -/
def runAll (path : String) (files : Files) : List Call → Files × List (Except Embedding.Fault Index)
  | [] => (files, [])
  | call :: rest =>
    let (left, outcome) := call.run path files
    let (last, outcomes) := runAll path left rest
    (last, outcome :: outcomes)

structure IsSound (call : Call) : Prop where
  schema : Schema.IsSound call.schema
  exact : ∀ text ∈ Schema.texts call.schema,
    (Hashing.embedder call.dimension).EachNumber Cache.IsExact text

/-- A record under the fingerprint of a call, with the vectors of the embedder that it names. -/
structure Left (call : Call) (record : Record) : Prop where
  fingerprint : record.fingerprint = Sha256.hex call.shape
  embedder : record.embedder = (Hashing.embedder call.dimension).descriptor
  coherent : record.index.IsCoherent (Hashing.embedder call.dimension)
  exact : record.index.IsExact

def Holds (path : String) (calls : List Call) (files : Files) : Prop :=
  ∀ text, files.read path = .ok text → ∃ call ∈ calls, ∃ record, text = record.text ∧ call.Left record

def Apart (calls : List Call) : Prop :=
  ∀ first ∈ calls, ∀ second ∈ calls, Sha256.hex first.shape = Sha256.hex second.shape →
    first.shape = second.shape

variable {path : String} {files after : Files} {calls : List Call} {call : Call} {index : Index}

theorem load_coherent (holds : Holds path calls files) (apart : Apart calls) (member : call ∈ calls)
    (loaded : load files path (Sha256.hex call.shape) = .ok (some index)) :
    index.IsCoherent (Hashing.embedder call.dimension) ∧ index.IsExact := by
  obtain ⟨text, found, read, parsed, same, rfl⟩ := load_some loaded
  obtain ⟨earlier, before, record, rfl, left⟩ := holds text read
  cases ofText_only left.exact parsed
  have shape := apart earlier before call member (left.fingerprint.symm.trans same)
  have embedder := Fingerprint.shape_embedder shape
  exact ⟨embedder ▸ left.coherent, left.exact⟩

theorem stored_holds (member : call ∈ calls)
    (coherent : index.IsCoherent (Hashing.embedder call.dimension)) (exact : index.IsExact) :
    Holds path calls ((call.task path).stored files index) := by
  intro text read
  exact ⟨call, member, (call.task path).record index, Task.stored_read read, rfl, rfl, coherent, exact⟩

/-- What one call makes of what it finds. -/
theorem run_holds (holds : Holds path calls files) (apart : Apart calls) (member : call ∈ calls)
    (sound : call.IsSound) (ran : call.run path files = (after, .ok index)) :
    index.IsCoherent (Hashing.embedder call.dimension) ∧ index.IsCurrent call.schema ∧
      Holds path calls after := by
  cases Task.run_course ran with
  | built made =>
    have describes := Index.build_describes made sound.schema
    have exact := describes.isExact sound.schema sound.exact
    exact ⟨describes.coherent, describes.current, stored_holds member describes.coherent exact⟩
  | kept loaded refreshed =>
    obtain ⟨coherent, -⟩ := load_coherent holds apart member loaded
    exact ⟨Index.refresh_coherent refreshed sound.schema coherent,
      Index.refresh_current refreshed sound.schema, holds⟩
  | renewed loaded refreshed =>
    obtain ⟨coherent, exact⟩ := load_coherent holds apart member loaded
    have coherentNow := Index.refresh_coherent refreshed sound.schema coherent
    have exactNow := Index.refresh_exact refreshed sound.schema exact sound.exact
    exact ⟨coherentNow, Index.refresh_current refreshed sound.schema,
      stored_holds member coherentNow exactNow⟩

def Gives (call : Call) (outcome : Except Embedding.Fault Index) : Prop :=
  ∃ index, outcome = .ok index ∧ index.IsCoherent (Hashing.embedder call.dimension) ∧
    index.IsCurrent call.schema

theorem runAll_holds {pending : List Call} (holds : Holds path calls files) (apart : Apart calls)
    (sound : ∀ call ∈ calls, call.IsSound) (inside : ∀ call ∈ pending, call ∈ calls) :
    List.Forall₂ Gives pending (runAll path files pending).2 ∧
      Holds path calls (runAll path files pending).1 := by
  induction pending generalizing files with
  | nil => exact ⟨.nil, holds⟩
  | cons call rest ih =>
    obtain ⟨member, later⟩ := List.forall_mem_cons.1 inside
    obtain ⟨index, outcome⟩ :=
      @Task.run_total (call.task path) (hashing_total call.dimension) files call.force
    have ran : call.run path files = ((call.run path files).1, .ok index) := Prod.ext rfl outcome
    obtain ⟨coherent, current, holdsNow⟩ := run_holds holds apart member (sound call member) ran
    obtain ⟨outcomes, last⟩ := ih holdsNow later
    exact ⟨.cons ⟨index, outcome, coherent, current⟩ outcomes, last⟩

theorem unwritten_holds (unwritten : files.isThere path = false) : Holds path calls files := by
  intro text read
  obtain ⟨place, content, leads, here, -, -⟩ := Files.read_ok.1 read
  simp [Files.isThere, leads, here] at unwritten

theorem run_readable (readable : ∃ text, files.read path = .ok text)
    (ran : call.run path files = (after, .ok index)) : ∃ text, after.read path = .ok text := by
  obtain ⟨text, read⟩ := readable
  cases Task.run_course ran with
  | built made => exact ⟨_, (call.task path).read_stored read index⟩
  | kept loaded refreshed => exact ⟨text, read⟩
  | renewed loaded refreshed => exact ⟨_, (call.task path).read_stored read index⟩

/-- A file that can be read is there for every later call. -/
theorem runAll_readable (readable : ∃ text, files.read path = .ok text) :
    ∃ text, (runAll path files calls).1.read path = .ok text := by
  induction calls generalizing files with
  | nil => exact readable
  | cons call rest ih =>
    obtain ⟨index, outcome⟩ :=
      @Task.run_total (call.task path) (hashing_total call.dimension) files call.force
    have ran : call.run path files = ((call.run path files).1, .ok index) := Prod.ext rfl outcome
    exact ih (run_readable readable ran)

/-- Calls that start without a file give coherent indexes and leave a coherent record, if anything. -/
theorem runAll_coherent (unwritten : files.isThere path = false)
    (sound : ∀ call ∈ calls, call.IsSound) (apart : Apart calls) :
    List.Forall₂ Gives calls (runAll path files calls).2 ∧
      ∀ text, (runAll path files calls).1.read path = .ok text →
        ∃ call ∈ calls, ∃ record, text = record.text ∧ call.Left record ∧
          ∀ other, Record.ofText? text = some other → other = record := by
  obtain ⟨gives, holds⟩ :=
    runAll_holds (unwritten_holds unwritten) apart sound fun _ member => member
  refine ⟨gives, fun text read => ?_⟩
  obtain ⟨call, member, record, rfl, left⟩ := holds text read
  exact ⟨call, member, record, rfl, left, fun other found => ofText_only left.exact found⟩

end Call

section Shop

def amount : Field := ⟨"amount", "double"⟩

def status : Field := ⟨"status", "string"⟩

def shop (fields : List Field) (count : Nat) : List Collection :=
  [Schema.collection "orders" fields count ["_id_"]]

theorem shop_sound {fields : List Field} {count : Nat} (distinct : (fields.map (·.name)).Nodup)
    (bound : count < UInt64.size) : Schema.IsSound (shop fields count) :=
  ⟨List.nodup_singleton _, List.forall_mem_singleton.2 distinct, List.forall_mem_singleton.2 bound⟩

theorem empty_unwritten : Files.isThere .empty "cache.json" = false := by decide

/-- A first call in an empty place builds its index and saves it. -/
theorem shop_saved (created : String) :
    let task := hashing 2 "cache.json" created (shop [amount, status] 10)
    ∃ saved index, Index.build (Hashing.embedder 2) (shop [amount, status] 10) = .ok index ∧
      save .empty "cache.json" (task.record index) = .ok saved ∧
      task.run .empty false = (saved, .ok index) := by
  intro task
  obtain ⟨index, built⟩ := Index.build_total (hashing_total 2) (shop [amount, status] 10)
  obtain ⟨saved, written⟩ : ∃ saved, save .empty "cache.json" (task.record index) = .ok saved :=
    ⟨_, rfl⟩
  exact ⟨saved, index, built, written, Task.run_unwritten empty_unwritten built written⟩

end Shop

namespace Call

variable {dimension count : Nat} {force : Bool}

def orders (dimension count : Nat) (force : Bool) : Call :=
  ⟨dimension, "2024-05-01T10:00:00+00:00", shop [amount, status] count, force⟩

theorem orders_sound (bound : count < UInt64.size)
    (exact : ∀ text ∈ Schema.texts (shop [amount, status] count),
      ∀ x ∈ Hashing.embed (max dimension 1) text, IsExact x) :
    (orders dimension count force).IsSound :=
  ⟨shop_sound (by decide) bound, fun text member => each_hashing (exact text member)⟩

theorem orders_shape : (orders dimension count force).shape =
    (Hashing.embedder dimension).descriptor.toUTF8.toList ++ [10] ++
      "orders\namount:double\nstatus:string\n".toList.flatMap String.utf8EncodeChar := by
  have pairs : Fingerprint.pairs [amount, status] = ["amount:double", "status:string"] :=
    List.mergeSort_of_pairwise (by decide +kernel)
  simp only [Call.shape, orders, hashingShape, shop, Schema.collection, Fingerprint.shape,
    List.mergeSort_singleton, List.flatMap_cons, List.flatMap_nil, Fingerprint.collectionShape, pairs,
    Fingerprint.line_bytes, Utf8.bytes_text, List.append_nil]
  rfl

theorem orders_digest (more : Nat) (forced : Bool) :
    Sha256.hex (orders 1 count force).shape ≠ Sha256.hex (orders 2 more forced).shape := by
  simp only [orders_shape, Utf8.bytes_text]
  decide +kernel

/-- Two counts, a second dimension and a call that sets the cache aside. -/
def ordersRun : List Call :=
  [orders 2 10 false, orders 2 42 false, orders 1 42 false, orders 2 42 true]

theorem ordersRun_apart : Apart ordersRun := by
  intro first firstMember second secondMember same
  have known : ∀ call ∈ ordersRun,
      ∃ count force, call = orders 1 count force ∨ call = orders 2 count force := by
    simp only [ordersRun, List.forall_mem_cons, List.not_mem_nil]
    exact ⟨⟨10, false, .inr rfl⟩, ⟨42, false, .inr rfl⟩, ⟨42, false, .inl rfl⟩, ⟨42, true, .inr rfl⟩,
      nofun⟩
  obtain ⟨count, force, rfl | rfl⟩ := known first firstMember
  · obtain ⟨more, forced, rfl | rfl⟩ := known second secondMember
    · rw [orders_shape, orders_shape]
    · exact absurd same (orders_digest more forced)
  · obtain ⟨more, forced, rfl | rfl⟩ := known second secondMember
    · exact absurd same.symm (orders_digest count force)
    · rw [orders_shape, orders_shape]

/-- The first call builds the one entry and writes it, and a file stays for the calls after it. -/
theorem runAll_coherent_orders : ∃ index text,
    (runAll "cache.json" .empty ordersRun).2.head? = some (.ok index) ∧
      (index.get? "orders").map (·.fields) = some [amount, status] ∧
      List.Forall₂ Gives ordersRun (runAll "cache.json" .empty ordersRun).2 ∧
      (runAll "cache.json" .empty ordersRun).1.read "cache.json" = .ok text ∧
      ∃ call ∈ ordersRun, ∃ record, text = record.text ∧ call.Left record ∧
        ∀ other, Record.ofText? text = some other → other = record := by
  have small : (orders 2 10 false).IsSound := orders_sound (by decide) (by decide +kernel)
  have grown : (orders 2 42 false).IsSound := orders_sound (by decide) (by decide +kernel)
  have narrow : (orders 1 42 false).IsSound := orders_sound (by decide) (by decide +kernel)
  have forced : (orders 2 42 true).IsSound := orders_sound (by decide) (by decide +kernel)
  have sound : ∀ call ∈ ordersRun, call.IsSound := by
    simp only [ordersRun, List.forall_mem_cons, List.not_mem_nil]
    exact ⟨small, grown, narrow, forced, nofun⟩
  obtain ⟨gives, leaves⟩ := runAll_coherent empty_unwritten sound ordersRun_apart
  obtain ⟨saved, index, built, written, ran⟩ := shop_saved "2024-05-01T10:00:00+00:00"
  have first : (orders 2 10 false).run "cache.json" .empty = (saved, .ok index) := ran
  have fields := Index.build_fields built small.schema List.mem_cons_self
  obtain ⟨text, read⟩ : ∃ text, (runAll "cache.json" .empty ordersRun).1.read "cache.json" = .ok text := by
    rw [ordersRun, runAll, first]
    exact runAll_readable ⟨_, (save_read written).2⟩
  refine ⟨index, text, ?_, fields, gives, read, leaves text read⟩
  rw [ordersRun, runAll, first]
  rfl

end Call

end Inquiry.Cache
