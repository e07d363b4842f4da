import Inquiry.Agent.Session
import Inquiry.Proofs.Index.Runs
import Inquiry.Store.Memory

/-!
An index that a call has written is what the next call at the path begins with. What that one gives
is the index that it would build anew, but for the order of the fields, which is the cached one.
-/
namespace Inquiry

namespace Session

variable {parts : Parts} {session : Session} {schema : List Collection} {index : Index}

/-- A session that starts has the index that its call has given. -/
theorem ofParts_index {occasion : Occasion} (surveyed : parts.store.survey.schema = .ok schema)
    (given : ((cacheTask parts.settings parts.embedder occasion.now schema).run occasion.files
      false).2 = .ok index) :
    ∃ session, (ofParts parts occasion).outcome = .ok session ∧ session.agent.index = index ∧
      session.agent.store = parts.store ∧ session.agent.embedder = parts.embedder := by
  simp only [ofParts, indexing, surveyed, given]
  exact ⟨_, rfl, rfl, rfl, rfl⟩

/-- A survey that succeeds puts a new index in the place of the old one. -/
theorem reindex_index (now : Int) (surveyed : session.agent.store.survey.schema = .ok schema)
    (built : Index.build session.agent.embedder schema = .ok index) :
    (session.reindex now).2.agent.index = index := by
  have given : ((cacheTask session.agent.settings session.agent.embedder now schema).run
      session.files true).2 = .ok index := by
    simp only [Cache.Task.run, Cache.Task.built, cacheTask, built, if_true]
  simp only [reindex, indexing, surveyed, given]
  rfl

end Session

namespace Cache

/-- A cached index that may be used is coherent and has the shape of the schema. -/
def IsTrusted (dimension : Nat) (path : String) (schema : List Collection) (files : Files) : Prop :=
  ∀ known, load files path (Sha256.hex (hashingShape dimension schema)) = .ok (some known) →
    known.IsCoherent (Hashing.embedder dimension) ∧ known.HasShape schema

section Reloading

variable {dimension : Nat} {path created later : String} {first second : List Collection}
  {files saved after : Files} {index reloaded rebuilt : Index} {force : Bool}

/-- The index that a call gives describes its schema, if the cache that it begins with may be used. -/
theorem run_describes (sound : Schema.IsSound first)
    (trusted : IsTrusted dimension path first files)
    (ran : (hashing dimension path created first).run files force = (after, .ok index)) :
    index.Describes (Hashing.embedder dimension) first := by
  cases Task.run_course ran with
  | built made => exact Index.build_describes made sound
  | kept loaded refreshed =>
    obtain ⟨coherent, shape⟩ := trusted _ loaded
    exact Index.refresh_describes refreshed sound coherent shape
  | renewed loaded refreshed =>
    obtain ⟨coherent, shape⟩ := trusted _ loaded
    exact Index.refresh_describes refreshed sound coherent shape

/-- What is loaded after a call has written its index is that index. -/
theorem load_saved {fingerprint : String} {known : Index} (exact : index.IsExact)
    (written : save files path ((hashing dimension path created first).record index) = .ok saved)
    (loaded : load saved path fingerprint = .ok (some known)) :
    known = index ∧ fingerprint = Sha256.hex (hashingShape dimension first) := by
  obtain ⟨text, record, read, found, rfl, rfl⟩ := load_some loaded
  cases read.symm.trans (save_read written).2
  cases ofText_only exact found
  exact ⟨rfl, rfl⟩

/-- The index that a call has saved is loaded under its fingerprint. -/
theorem load_saved_some (exact : index.IsExact) (writable : index.EachNumber HasLiteral)
    (written : save files path ((hashing dimension path created first).record index) = .ok saved) :
    load saved path (Sha256.hex (hashingShape dimension first)) = .ok (some index) := by
  rw [load_written written, ofText_text exact writable]
  exact congrArg Except.ok (if_pos rfl)

/-- The second call builds anew, or refreshes what the first has saved for the same bytes. -/
theorem run_saved (exact : index.IsExact)
    (written : save files path ((hashing dimension path created first).record index) = .ok saved)
    (ran : (hashing dimension path later second).run saved force = (after, .ok reloaded)) :
    Index.build (Hashing.embedder dimension) second = .ok reloaded ∨
      Sha256.hex (hashingShape dimension first) = Sha256.hex (hashingShape dimension second) ∧
        ∃ changes, Index.refresh (Hashing.embedder dimension) index second = .ok (changes, reloaded) := by
  cases Task.run_course ran with
  | built made => exact .inl made
  | kept loaded refreshed =>
    obtain ⟨rfl, same⟩ := load_saved exact written loaded
    exact .inr ⟨same.symm, _, refreshed⟩
  | renewed loaded refreshed =>
    obtain ⟨rfl, same⟩ := load_saved exact written loaded
    exact .inr ⟨same.symm, _, refreshed⟩

theorem refresh_eq_build {changes : Nat} (sound : Schema.IsSound second)
    (refreshed : Index.refresh (Hashing.embedder dimension) index second = .ok (changes, reloaded))
    (built : Index.build (Hashing.embedder dimension) second = .ok rebuilt)
    (same : reloaded.SameButOrder rebuilt)
    (order : ∀ live ∈ second, ∀ entry, index.get? live.name = some entry →
      entry.fields = live.fields) : reloaded = rebuilt := by
  refine same.eq fun name entry other found foundToo => ?_
  obtain ⟨live, member, rfl, made⟩ := Index.build_source built sound foundToo
  have kept := Index.refresh_fields refreshed sound live.name
  rw [found] at kept
  obtain ⟨old, before, fields⟩ := Option.map_eq_some_iff.1 kept.symm
  rw [(Index.entryOf_current made).2, ← order live member old before]
  exact fields.symm

/-- What a call gives after another has written its index, beside a new index. -/
theorem run_beside (sound : Schema.IsSound first) (soundToo : Schema.IsSound second)
    (exact : ∀ text ∈ Schema.texts first, (Hashing.embedder dimension).EachNumber IsExact text)
    (describes : index.Describes (Hashing.embedder dimension) first)
    (written : save files path ((hashing dimension path created first).record index) = .ok saved)
    (secure : Sha256.hex (hashingShape dimension first) = Sha256.hex (hashingShape dimension second) →
      hashingShape dimension first = hashingShape dimension second)
    (told : hashingShape dimension first = hashingShape dimension second →
      Schema.SameShape first second)
    (ran : (hashing dimension path later second).run saved force = (after, .ok reloaded))
    (built : Index.build (Hashing.embedder dimension) second = .ok rebuilt) :
    reloaded.SameButOrder rebuilt ∧
      ((Sha256.hex (hashingShape dimension first) = Sha256.hex (hashingShape dimension second) →
        ∀ live ∈ second, ∀ entry, index.get? live.name = some entry →
          entry.fields = live.fields) → reloaded = rebuilt) := by
  have describesRebuilt := Index.build_describes built soundToo
  rcases run_saved (describes.isExact sound exact) written ran with
    anew | ⟨digests, changes, refreshed⟩
  · cases built.symm.trans anew
    exact ⟨describesRebuilt.sameButOrder describesRebuilt, fun _ => rfl⟩
  · have shape := describes.shape.congr (told (secure digests))
    have describesReloaded := Index.refresh_describes refreshed soundToo describes.coherent shape
    have same := describesReloaded.sameButOrder describesRebuilt
    exact ⟨same, fun order => refresh_eq_build soundToo refreshed built same (order digests)⟩

/-- After a call has written its index, a call at the path gives what it would build anew, but for the
order of the fields where it finds its own fingerprint. A session that starts there has that index,
and a survey makes it the new one. -/
theorem run_reload (sound : Schema.IsSound first) (soundToo : Schema.IsSound second)
    (exact : ∀ text ∈ Schema.texts first,
      (Hashing.embedder dimension).EachNumber IsExact text)
    (trusted : IsTrusted dimension path first files)
    (ran : (hashing dimension path created first).run files false = (saved, .ok index))
    (written : save files path ((hashing dimension path created first).record index) = .ok saved)
    (secure : Sha256.hex (hashingShape dimension first) = Sha256.hex (hashingShape dimension second) →
      hashingShape dimension first = hashingShape dimension second)
    (told : hashingShape dimension first = hashingShape dimension second →
      Schema.SameShape first second) :
    ∃ reloaded rebuilt,
      ((hashing dimension path later second).run saved false).2 = .ok reloaded ∧
      Index.build (Hashing.embedder dimension) second = .ok rebuilt ∧
      reloaded.SameButOrder rebuilt ∧
      ((Sha256.hex (hashingShape dimension first) = Sha256.hex (hashingShape dimension second) →
        ∀ live ∈ second, ∀ entry, index.get? live.name = some entry →
          entry.fields = live.fields) → reloaded = rebuilt) ∧
      ∀ (parts : Session.Parts) (now next : Int), parts.settings.cachePath = path →
        parts.embedder = Hashing.embedder dimension → parts.store.survey.schema = .ok second →
        ∃ session, (Session.ofParts parts ⟨saved, now⟩).outcome = .ok session ∧
          session.agent.index = reloaded ∧ (session.reindex next).2.agent.index = rebuilt := by
  have describes := run_describes sound trusted ran
  obtain ⟨rebuilt, built⟩ := Index.build_total (hashing_total dimension) second
  obtain ⟨reloaded, outcome⟩ :=
    @Task.run_total (hashing dimension path later second) (hashing_total dimension) saved false
  have again : (hashing dimension path later second).run saved false =
      (((hashing dimension path later second).run saved false).1, .ok reloaded) := Prod.ext rfl outcome
  obtain ⟨same, equal⟩ := run_beside sound soundToo exact describes written secure told again built
  refine ⟨reloaded, rebuilt, outcome, built, same, equal, ?_⟩
  rintro parts now next rfl hashed surveyed
  have given : ((Session.cacheTask parts.settings parts.embedder now second).run saved false).2 =
      .ok reloaded := by
    rw [← outcome, hashed]
    exact Task.run_created (hashing dimension parts.settings.cachePath later second) _ saved false
  obtain ⟨session, started, hasIndex, store, embedder⟩ :=
    @Session.ofParts_index parts second reloaded ⟨saved, now⟩ surveyed given
  have surveyedAgain : session.agent.store.survey.schema = .ok second := by rw [store, surveyed]
  have builtAgain : Index.build session.agent.embedder second = .ok rebuilt := by
    rw [embedder, hashed, built]
  exact ⟨session, started, hasIndex, Session.reindex_index next surveyedAgain builtAgain⟩

end Reloading

section Orders

variable {fields others : List Field}

theorem shop_shape (same : fields.Perm others) (dimension count more : Nat) :
    hashingShape dimension (shop fields count) = hashingShape dimension (shop others more) := by
  have pairs := Fingerprint.pairs_perm same
  simp only [hashingShape, shop, Fingerprint.shape, List.mergeSort_singleton, List.flatMap_cons,
    Fingerprint.collectionShape, Schema.collection, pairs]

theorem shop_same (same : fields.Perm others) (count more : Nat) :
    Schema.SameShape (shop fields count) (shop others more) := by
  refine ⟨fun name => Iff.rfl, fun before member after memberToo _ => ?_⟩
  cases List.mem_singleton.1 member
  cases List.mem_singleton.1 memberToo
  exact same

theorem shop_each {Kind : Float32 → Prop}
    (numbers : ∀ text ∈ Schema.texts (shop [amount, status] 10), ∀ x ∈ Hashing.embed 2 text, Kind x) :
    ∀ text ∈ Schema.texts (shop [amount, status] 10), (Hashing.embedder 2).EachNumber Kind text :=
  fun text member => each_hashing (numbers text member)

theorem shop_exact : ∀ text ∈ Schema.texts (shop [amount, status] 10),
    (Hashing.embedder 2).EachNumber IsExact text := shop_each (by decide +kernel)

theorem shop_literals : ∀ text ∈ Schema.texts (shop [amount, status] 10),
    (Hashing.embedder 2).EachNumber HasLiteral text := shop_each (by decide +kernel)

/-- What the first call has saved is there for a schema that lists the fields in another order. -/
theorem shop_loaded {saved : Files} {index : Index}
    (built : Index.build (Hashing.embedder 2) (shop [amount, status] 10) = .ok index)
    (written : save .empty "cache.json"
      ((hashing 2 "cache.json" "2024-05-01" (shop [amount, status] 10)).record index) = .ok saved)
    (count : Nat) :
    load saved "cache.json" (Sha256.hex (hashingShape 2 (shop [status, amount] count))) =
      .ok (some index) := by
  have describes := Index.build_describes built (shop_sound (by decide) (by decide))
  have exact := describes.isExact (shop_sound (by decide) (by decide)) shop_exact
  rw [← shop_shape (.swap status amount []) 2 10 count]
  exact load_saved_some exact (describes.each shop_literals) written

def shopParts : Session.Parts where
  settings := { workDirectory := "", ranking := { cacheFile := "cache.json" } }
  store := { Memory.store .empty with survey := ⟨[], .ok (shop [status, amount] 42)⟩ }
  embedder := Hashing.embedder 2
  model := .scripted [] 0

/-- With another count only, the second call gives a new index; where the fields come in another
order, the session that starts has the cached order until it makes its index anew. -/
theorem run_reload_shop : ∃ saved index,
    (hashing 2 "cache.json" "2024-05-01" (shop [amount, status] 10)).run .empty false =
      (saved, .ok index) ∧
    (∃ grown, Index.build (Hashing.embedder 2) (shop [amount, status] 42) = .ok grown ∧
      ((hashing 2 "cache.json" "2024-05-02" (shop [amount, status] 42)).run saved false).2 =
        .ok grown) ∧
    ∃ reloaded rebuilt session,
      ((hashing 2 "cache.json" "2024-05-02" (shop [status, amount] 42)).run saved false).2 =
        .ok reloaded ∧
      Index.build (Hashing.embedder 2) (shop [status, amount] 42) = .ok rebuilt ∧
      reloaded.SameButOrder rebuilt ∧
      (Session.ofParts shopParts ⟨saved, 0⟩).outcome = .ok session ∧
      session.agent.index = reloaded ∧ (session.reindex 1).2.agent.index = rebuilt := by
  obtain ⟨saved, index, built, written, ran⟩ := shop_saved "2024-05-01"
  have sound : Schema.IsSound (shop [amount, status] 10) := shop_sound (by decide) (by decide)
  have soundGrown : Schema.IsSound (shop [amount, status] 42) := shop_sound (by decide) (by decide)
  have soundTurned : Schema.IsSound (shop [status, amount] 42) := shop_sound (by decide) (by decide)
  have trusted : IsTrusted 2 "cache.json" (shop [amount, status] 10) .empty := fun known loaded => by
    simp [load, empty_unwritten] at loaded
  have turns : [amount, status].Perm [status, amount] := .swap status amount []
  have order : ∀ live ∈ shop [amount, status] 42, ∀ entry, index.get? live.name = some entry →
      entry.fields = live.fields := by
    intro live member entry found
    cases List.mem_singleton.1 member
    have fields : (index.get? "orders").map (·.fields) = some [amount, status] :=
      Index.build_fields built sound List.mem_cons_self
    have there : index.get? "orders" = some entry := found
    rw [there] at fields
    exact Option.some.inj fields
  obtain ⟨kept, grown, outcome, builtGrown, -, equal, -⟩ :=
    @run_reload 2 "cache.json" "2024-05-01" "2024-05-02" _ _ _ _ _ sound soundGrown shop_exact trusted
      ran written (fun _ => shop_shape (.refl _) 2 10 42) (fun _ => shop_same (.refl _) 10 42)
  obtain ⟨reloaded, rebuilt, outcomeTurned, builtTurned, same, -, starts⟩ :=
    @run_reload 2 "cache.json" "2024-05-01" "2024-05-02" _ _ _ _ _ sound soundTurned shop_exact trusted
      ran written (fun _ => shop_shape turns 2 10 42) (fun _ => shop_same turns 10 42)
  obtain ⟨session, started, has, anew⟩ := starts shopParts 0 1 (by decide +kernel) rfl rfl
  exact ⟨saved, index, ran, ⟨grown, builtGrown, equal (fun _ => order) ▸ outcome⟩,
    reloaded, rebuilt, session, outcomeTurned, builtTurned, same, started, has, anew⟩

/-- The order of the fields is that of the first document, which a new index would not have. -/
theorem run_reload_reordered : ∃ saved index reloaded rebuilt,
    (hashing 2 "cache.json" "2024-05-01" (shop [amount, status] 10)).run .empty false =
      (saved, .ok index) ∧
    ((hashing 2 "cache.json" "2024-05-02" (shop [status, amount] 42)).run saved false).2 =
      .ok reloaded ∧
    Index.build (Hashing.embedder 2) (shop [status, amount] 42) = .ok rebuilt ∧
    reloaded ≠ rebuilt := by
  obtain ⟨saved, index, built, written, ran⟩ := shop_saved "2024-05-01"
  have sound : Schema.IsSound (shop [amount, status] 10) := shop_sound (by decide) (by decide)
  have soundToo : Schema.IsSound (shop [status, amount] 42) := shop_sound (by decide) (by decide)
  have loaded := shop_loaded built written 42
  obtain ⟨changes, reloaded, refreshed⟩ :=
    Index.refresh_total (hashing_total 2) index (shop [status, amount] 42)
  obtain ⟨rebuilt, builtAgain⟩ := Index.build_total (hashing_total 2) (shop [status, amount] 42)
  refine ⟨saved, index, reloaded, rebuilt, ran, ?_, builtAgain, ?_⟩
  · rw [Task.run_updated rfl loaded, Task.updated_outcome]
    exact congrArg (Except.map (·.2)) refreshed
  · rintro rfl
    have kept := Index.refresh_fields refreshed soundToo "orders"
    have before : (index.get? "orders").map (·.fields) = some [amount, status] :=
      Index.build_fields built sound List.mem_cons_self
    have now : (reloaded.get? "orders").map (·.fields) = some [status, amount] :=
      Index.build_fields builtAgain soundToo List.mem_cons_self
    rw [before, now] at kept
    revert kept
    decide

end Orders

end Cache
end Inquiry
