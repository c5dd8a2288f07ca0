import RecordSchema.Proofs.Manifest

/-!
# Writing manifests back

A manifest is written as the record it could have been read from (`Manifest.toValue`), each trail under its path.
The paths govern the same entries in it as before, and what they govern is good and trimmed by now, so reading it
again gives the same manifest (`ofValue_toValue`), whose answers fit together (`Consistent`).
-/

namespace RecordSchema

/-- The fields of a trail. -/
def Trail.toRecord (trail : Trail) : Record :=
  [(.text "name", .text trail.name), (.text "globalVar", .text trail.globalVar),
    (.text "url", .text trail.url)]

/-- The entry of a trail. -/
def Trail.toEntry (trail : Trail) : Value :=
  .record false trail.toRecord

/-- The record of a trail shows the trail. -/
lemma Trail.shows_toRecord (trail : Trail) : Shows trail.toRecord trail :=
  ⟨rfl, rfl, rfl⟩

namespace Manifest

open Assertion

/-- The entries of a manifest in the order of its paths. -/
def toRecord (manifest : Manifest) : Record :=
  manifest.trails.map fun named => (named.1, named.2.toEntry)

/-- A manifest as a record. -/
def toValue (manifest : Manifest) : Value :=
  .record false manifest.toRecord

/-- A manifest is written under its paths. -/
lemma keys_toRecord (manifest : Manifest) : Record.keys manifest.toRecord = manifest.paths := by
  rw [Record.keys, toRecord, List.map_map]
  rfl

/-- The trails of the entries of a manifest are its own. -/
lemma trailsOf_toRecord (manifest : Manifest) : trailsOf manifest.toRecord = .ok manifest.trails := by
  rw [trailsOf_ok_iff, toRecord, List.forall₂_map_left_iff, List.forall₂_same]
  intro named _
  exact ⟨rfl, Trail.ofEntry_of_shows named.2.shows_toRecord⟩

variable {raw : Value} {manifest : Manifest}

/-- The paths of a manifest are the keys of the entries that its trails are read from. -/
lemma paths_of_trailsOf {entries} (read : trailsOf entries = .ok manifest.trails) :
    manifest.paths = Record.keys entries := by
  have same := (trailsOf_ok_iff.1 read).imp fun _ _ => And.left
  rw [paths, Record.keys, ← List.forall₂_eq_eq_eq, List.forall₂_map_left_iff, List.forall₂_map_right_iff]
  exact same.flip

/-- Only mappings with texts as keys are read. -/
lemma texts_of_ofValue (read : ofValue raw = .ok manifest) :
    ∃ readOnly entries, raw = .record readOnly entries ∧
      ∀ entry ∈ entries, ∃ path, entry.1 = Value.text path := by
  obtain ⟨last, sanitized, _⟩ := bind_ok_iff.1 read
  obtain ⟨schema, compiled, walked⟩ := sanitizeWithin_ok_iff.1 sanitized
  cases raw with
  | record readOnly entries =>
    refine ⟨readOnly, entries, rfl, ?_⟩
    obtain ⟨_, _, e, all⟩ := Schema.compile_ok_iff.1 compiled
    obtain ⟨rfl, rfl⟩ := Value.record.inj e
    rintro ⟨key, v⟩ mem
    obtain ⟨p, _, c⟩ := exists_right_of_mem all (List.mem_map_of_mem mem)
    cases c
    exact ⟨_, rfl⟩
  | _ => cases walked

section Again

variable {budget : Nat} {entries last : Record}

/-- A path settles an entry that is accepted as it is. -/
lemma settle_path_fixed {T : Table} {path record}
    (e : Trail.walkEntry T budget (.record false record) = .ok record) :
    settle .builtin T (walk (tableServices T) .builtin (budget + 1)) (pathProperty path)
      (.record false record) = .ok (.record false record) := by
  refine settle_ok_iff.2 ⟨_, rfl, descend_ok_iff.2 (.inr ⟨_, _, .inline rfl rfl, e, rfl⟩), ?_⟩
  intro rule mem
  cases mem

/-- Every trail under a path that is governed is good. -/
lemma valid_of_governed (all : List.Forall₂ (Becomes budget entries) entries last)
    (read : trailsOf last = .ok manifest.trails) {path trail}
    (mem : (Value.text path, trail) ∈ manifest.trails) (governed : Governed entries path) :
    Trail.Valid trail := by
  obtain ⟨⟨key, v⟩, _, ⟨key', w⟩, ⟨rfl, becomes⟩, rfl, et⟩ :=
    exists_left_of_mem (forall₂_trans all (trailsOf_ok_iff.1 read)) mem
  obtain ⟨trail', et', _, valid⟩ := ((becomes path rfl).1 governed).trail
  cases et.symm.trans et'
  exact valid

/-- The run over the paths of a manifest that is written back leaves its entries as they are. -/
lemma runPaths_toRecord (budget' : Nat) (distinct : manifest.paths.Nodup)
    (good : ∀ path trail, (Value.text path, trail) ∈ manifest.trails →
      Governed manifest.toRecord path → Trail.Valid trail) :
    runPaths budget' manifest.toRecord = .ok manifest.toRecord := by
  have distinct : Record.Distinct manifest.toRecord := by
    apply Record.distinct_of_nodup
    rwa [keys_toRecord]
  apply row_fixed
  intro p mem
  obtain ⟨path, listed, rfl⟩ := List.mem_map.1 mem
  have key := mem_pathsOf_iff.1 listed
  cases ev : Record.get? manifest.toRecord (pathProperty path).name with
  | none =>
    -- Only a marked path may lack the entry that it governs.
    refine .absent ?_
    by_contra required
    have name : (pathProperty path).name = path := splitKey_required (Bool.eq_false_of_not_eq_true required)
    obtain ⟨⟨_, v⟩, entry, rfl⟩ := List.mem_map.1 key
    rw [name, Record.get?_of_mem distinct entry] at ev
    cases ev
  | some v =>
    obtain ⟨⟨_, trail⟩, named, e⟩ := List.mem_map.1 (Record.mem_of_get? ev)
    obtain ⟨rfl, rfl⟩ := Prod.mk.inj e
    have valid := good _ trail named ⟨path, key, rfl⟩
    exact .present (settle_path_fixed (Trail.walkEntry_shows valid trail.shows_toRecord))

end Again

/-- The answers of a manifest fit together: its paths are distinct and as many as it says, a path resolves to the
trail that it is listed with, and a manifest contains what resolves. Every text can be asked for. -/
structure Consistent (manifest : Manifest) : Prop where
  distinct : manifest.paths.Nodup
  size_eq : manifest.size = manifest.paths.length
  contains_iff : ∀ path, manifest.contains path = .ok true ↔ path ∈ manifest.paths
  resolve_iff : ∀ path trail,
    manifest.resolve path = .ok (some trail) ↔ (path, trail) ∈ manifest.trails
  contains_eq : ∀ path, manifest.contains path = (manifest.resolve path).map Option.isSome
  resolve_text : ∀ name, ∃ found, manifest.resolve (.text name) = .ok found

section Answers

variable (texts : ∀ path ∈ manifest.paths, ∃ name, path = Value.text name)
  (distinct : manifest.paths.Nodup)

include texts distinct in
/-- What is found for a path is the entry under it. -/
lemma find?_iff {path : Value} {named : Value × Trail} :
    (manifest.trails.find? fun entry => entry.1.same path) = some named ↔
      named ∈ manifest.trails ∧ named.1 = path := by
  have same_iff : ∀ entry ∈ manifest.trails, (entry.1.same path = true ↔ entry.1 = path) := by
    intro entry mem
    obtain ⟨name, e⟩ := texts entry.1 (List.mem_map_of_mem mem)
    rw [e]
    cases path with
    | text other => exact beq_iff_eq.trans ⟨congrArg Value.text, Value.text.inj⟩
    | _ => exact iff_of_false nofun nofun
  have found_same : ∀ entry,
      (manifest.trails.find? fun entry => entry.1.same path) = some entry →
      entry ∈ manifest.trails ∧ entry.1 = path := by
    intro entry found
    have mem := List.mem_of_find?_eq_some found
    have same := List.find?_some found
    exact ⟨mem, (same_iff entry mem).1 same⟩
  refine ⟨found_same named, ?_⟩
  rintro ⟨mem, e⟩
  have some : (manifest.trails.find? fun entry => entry.1.same path).isSome :=
    List.find?_isSome.2 ⟨named, mem, (same_iff named mem).2 e⟩
  obtain ⟨other, found⟩ := Option.isSome_iff_exists.1 some
  obtain ⟨mem', e'⟩ := found_same other found
  rw [found, List.inj_on_of_nodup_map distinct mem' mem (e'.trans e.symm)]

include texts distinct in
/-- A path resolves to the trail that it is listed with, and nothing else does. -/
lemma resolve_eq_iff {path : Value} {trail : Trail} :
    manifest.resolve path = .ok (some trail) ↔ (path, trail) ∈ manifest.trails := by
  rw [resolve]
  constructor
  · intro e
    split at e
    · cases e
    · obtain ⟨named, found, rfl⟩ := Option.map_eq_some_iff.1 (Except.ok.inj e)
      obtain ⟨mem, rfl⟩ := (find?_iff texts distinct).1 found
      exact mem
  · intro mem
    obtain ⟨name, rfl⟩ := texts path (List.mem_map_of_mem mem)
    rw [(find?_iff texts distinct).2 ⟨mem, rfl⟩]
    rfl

include texts distinct in
/-- A manifest with distinct texts for paths has answers that fit together. -/
lemma consistent_of_texts : Consistent manifest := by
  have contains_eq : ∀ path, manifest.contains path = (manifest.resolve path).map Option.isSome := by
    intro path
    rw [contains]
    cases manifest.resolve path <;> rfl
  refine ⟨distinct, (List.length_map _).symm, ?_, fun _ _ => resolve_eq_iff texts distinct, contains_eq,
    fun name => ⟨_, rfl⟩⟩
  intro path
  rw [contains_eq]
  constructor
  · intro e
    cases er : manifest.resolve path with
    | error fault =>
      rw [er] at e
      cases e
    | ok found =>
      rw [er] at e
      obtain ⟨trail, rfl⟩ := Option.isSome_iff_exists.1 (Except.ok.inj e)
      exact List.mem_map_of_mem ((resolve_eq_iff texts distinct).1 er)
  · intro mem
    obtain ⟨⟨_, trail⟩, named, rfl⟩ := List.mem_map.1 mem
    rw [(resolve_eq_iff texts distinct).2 named]
    rfl

end Answers

/-- A manifest is read when a run goes well and trails can be read off what it leaves. -/
lemma readRun_ok_iff {run} :
    readRun run = .ok manifest ↔ ∃ last, run = .ok last ∧ trailsOf last = .ok manifest.trails := by
  cases run with
  | error fault => exact iff_of_false nofun nofun
  | ok last =>
    rw [readRun]
    constructor
    · intro e
      cases et : trailsOf last with
      | error fault =>
        rw [et] at e
        cases e
      | ok trails =>
        rw [et] at e
        cases e
        exact ⟨last, rfl, et⟩
    · rintro ⟨_, ⟨⟩, et⟩
      rw [et]
      rfl

/-- A manifest that has been read can be written back: what is written is read as the same manifest, with the same
paths in the same order and the same trails, and its answers fit together. -/
theorem ofValue_toValue {raw : Mapping} {readOnly : Bool}
    (read : ofValue (raw.toValue readOnly) = .ok manifest) :
    ofValue manifest.toValue = .ok manifest ∧ Consistent manifest := by
  obtain ⟨entries, apart⟩ := raw
  obtain ⟨_, _, same, texts⟩ := texts_of_ofValue read
  cases same
  have distinct : (Record.keys entries).Nodup := Record.nodup_of_distinct apart texts
  obtain ⟨budget, eq⟩ := ofValue_eq readOnly texts
  obtain ⟨last, run, trails⟩ := readRun_ok_iff.1 (eq.symm.trans read)
  have paths : manifest.paths = Record.keys entries := by
    rw [← row_keys run]
    exact paths_of_trailsOf trails
  have texts' : ∀ path ∈ manifest.paths, ∃ name, path = Value.text name := by
    rw [paths]
    exact List.forall_mem_map.2 texts
  have distinct' : manifest.paths.Nodup := paths ▸ distinct
  refine ⟨?_, consistent_of_texts texts' distinct'⟩
  -- Governed trails are good ones, so reading them again changes nothing.
  have good : ∀ path trail, (Value.text path, trail) ∈ manifest.trails →
      Governed manifest.toRecord path → Trail.Valid trail := by
    rintro path trail mem ⟨key, listed, e⟩
    rw [keys_toRecord, paths] at listed
    exact valid_of_governed (row_becomes texts distinct run) trails mem ⟨key, listed, e⟩
  have named : ∀ entry ∈ manifest.toRecord, ∃ path, entry.1 = Value.text path := by
    intro entry mem
    exact texts' _ (keys_toRecord manifest ▸ List.mem_map_of_mem mem)
  obtain ⟨budget', eq'⟩ := ofValue_eq false named
  rw [toValue, eq']
  exact readRun_ok_iff.2 ⟨_, runPaths_toRecord budget' distinct' good, trailsOf_toRecord manifest⟩

/-- Two marked paths: the longer one governs the entry of the other, and nothing governs its own. -/
def markedEntries : Mapping where
  entries := [
    (.text "/x?", .record true [
      (.text "name", .text " a "), (.text "version", .int 1), (.text "globalVar", .text "$a\n"),
      (.text "url", .text "\thttps://x")]),
    (.text "/x??", paddedEntry)]
  distinct := by simp [Record.Distinct, Record.keys]

/-- The entry that is governed has been trimmed, the other one is kept as it was. -/
def markedTrails : Manifest :=
  ⟨[(.text "/x?", ⟨"a", "$a", "https://x"⟩), (.text "/x??", ⟨" a ", "g", "http://x"⟩)]⟩

/-- Whether what is read is that manifest. -/
def isMarkedTrails : Except Fault Manifest → Bool
  | .ok ⟨[(.text path, trail), (.text path', trail')]⟩ =>
    path == "/x?" && trail == ⟨"a", "$a", "https://x"⟩ && path' == "/x??" &&
      trail' == ⟨" a ", "g", "http://x"⟩
  | _ => false

/-- The manifest of the example is read as the two trails. -/
lemma ofValue_markedEntries : ofValue (markedEntries.toValue true) = .ok markedTrails := by
  -- Values have no decidable equality, so the parts of what is read are compared.
  have read : isMarkedTrails (ofValue (markedEntries.toValue true)) = true := by
    decide +kernel
  unfold isMarkedTrails at read
  split at read
  · rename_i e
    simp only [Bool.and_eq_true, beq_iff_eq] at read
    obtain ⟨⟨⟨rfl, rfl⟩, rfl⟩, rfl⟩ := read
    exact e
  · cases read

/-- What is read of two marked paths is read again from what is written. -/
theorem ofValue_toValue_marked :
    ofValue (markedEntries.toValue true) = .ok markedTrails ∧
      ofValue markedTrails.toValue = .ok markedTrails ∧
      markedTrails.resolve (.text "/x??") = .ok (some ⟨" a ", "g", "http://x"⟩) := by
  obtain ⟨again, consistent⟩ := ofValue_toValue ofValue_markedEntries
  refine ⟨ofValue_markedEntries, again, (consistent.resolve_iff _ _).2 ?_⟩
  exact List.mem_cons_of_mem _ List.mem_cons_self

end Manifest

end RecordSchema
