import RecordSchema.Proofs.Trail

/-!
# Reading manifests

Every path of a manifest becomes a key of a schema, where a mark at the end makes a property optional
and is no part of its name. So a path governs the entry of the path without its mark, twice when both
paths are there. `row_cleans` and `row_error` say what a run makes of the entries that are governed;
the others pass unseen. `promised_iff` says when a manifest is read as it should be.
-/

namespace RecordSchema.Manifest

open Assertion

/-- The property of a path: a mapping with the fields of a trail. -/
def pathProperty (path : Text) : Property :=
  ⟨(splitKey path).1, (splitKey path).2, [], .inline Trail.fields, []⟩

/-- The rule set of a path compiles to its property. -/
lemma entryCompiles_path {path} :
    Schema.EntryCompiles (Table.contains ⟨[]⟩)
      (.text path, .record false [(.text "properties", Trail.schema)]) (pathProperty path) := by
  refine .intro (.inline ?_ ?_ rfl rfl Trail.compile_schema)
  · intro v e
    cases e
  · intro field mem
    rw [List.mem_singleton] at mem
    exact ⟨"properties", by rw [mem]⟩

/-- The schema of a manifest whose paths are texts has the properties of its paths. -/
lemma compile_schemaOf (readOnly : Bool) {entries}
    (texts : ∀ entry ∈ entries, ∃ path, entry.1 = Value.text path) :
    Schema.compile (.total (Table.contains ⟨[]⟩)) (schemaOf (.record readOnly entries)) =
      .ok ((Schema.textItems (Record.keys entries)).map pathProperty) := by
  refine Schema.compile_ok_iff.2 ⟨false, _, rfl, ?_⟩
  induction entries with
  | nil => exact .nil
  | cons entry rest ih =>
    obtain ⟨path, e⟩ := texts entry List.mem_cons_self
    obtain ⟨key, v⟩ := entry
    cases e
    exact .cons entryCompiles_path (ih fun other mem => texts other (List.mem_cons_of_mem _ mem))

section Step

variable {T : Table} {budget : Nat}

/-- A path settles an entry that is accepted, and nothing else. -/
lemma settle_path_ok {path v x}
    (e : settle .builtin T (walk (tableServices T) .builtin (budget + 1)) (pathProperty path) v =
      .ok x) :
    ∃ result, Trail.walkEntry T budget v = .ok result ∧ x = .record false result := by
  obtain ⟨w, et, ed, _⟩ := settle_ok_iff.1 e
  cases et
  obtain ⟨en, _⟩ | ⟨schema?, result, d, er, rfl⟩ := descend_ok_iff.1 ed
  · cases en
  · cases d with
    | reference en => cases en
    | inline en =>
      cases en
      exact ⟨result, er, rfl⟩

/-- A failure is located at a path or at a field of its entry. -/
def LocatedAt (path : Text) (fault : Fault) : Prop :=
  ∃ rest violation, fault = .violated (path :: rest) violation ∧
    (rest = [] ∨ ∃ p ∈ Trail.fields, rest = [p.name])

/-- A path that does not settle what is under it fails there, and would not accept it as an entry. -/
lemma settle_path_error {path v fault}
    (e : settle .builtin T (walk (tableServices T) .builtin (budget + 1)) (pathProperty path) v =
      .error fault) :
    (∀ result, Trail.walkEntry T budget v ≠ .ok result) ∧ LocatedAt (splitKey path).1 fault := by
  cases settle_error_iff.1 e with
  | transform et => cases et
  | rule _ _ stated =>
    have stated := congrArg List.length stated
    simp [pathProperty] at stated
  | descent et fails =>
    cases et
    cases fails with
    | lookup en => cases en
    | notObject en ev =>
      refine ⟨?_, [], _, rfl, .inl rfl⟩
      intro result er
      rw [Trail.walkEntry, walk_succ, level_notRecord ev] at er
      cases er
    | nested d ei =>
      cases d with
      | reference en => cases en
      | inline en ev =>
        cases en
        refine ⟨?_, ?_⟩
        · intro result er
          cases er.symm.trans ei
        · cases v with
          | record readOnly record =>
            obtain ⟨p, mem, violation, rfl⟩ := Trail.walkEntry_error ei
            exact ⟨[p.name], violation, rfl, .inr ⟨p, mem, rfl⟩⟩
          | _ => cases ev

/-- What an entry that is accepted becomes; what is not there stays away. -/
inductive Cleaned (T : Table) (budget : Nat) : Option Value → Option Value → Prop where
  | absent :
    Cleaned T budget none none
  | accepted {v result} :
    Trail.walkEntry T budget v = .ok result →
    Cleaned T budget (some v) (some (.record false result))

/-- Whatever is under a name is as it was or has become what it should. -/
def Kept (T : Table) (budget : Nat) (raw mid : Record) : Prop :=
  ∀ name, Record.get? mid name = Record.get? raw name ∨
    Cleaned T budget (Record.get? raw name) (Record.get? mid name)

/-- What has become of an entry is accepted as it is. -/
lemma Cleaned.again {v w result} (c : Cleaned T budget (some v) (some w))
    (e : Trail.walkEntry T budget w = .ok result) : w = .record false result := by
  cases c with
  | accepted er =>
    cases e.symm.trans (Trail.walkEntry_again er)
    rfl

/-- An entry that has been cleaned is accepted. -/
lemma Cleaned.accepts {v w} (c : Cleaned T budget (some v) (some w)) :
    ∃ result, Trail.walkEntry T budget w = .ok result := by
  cases c with
  | accepted er => exact ⟨_, Trail.walkEntry_again er⟩

/-- A path cleans the entry it governs, if there is one, and what has been cleaned stays so. -/
lemma step_cleans {raw mid last path} (kept : Kept T budget raw mid)
    (e : step (tableServices T) .builtin (walk (tableServices T) .builtin (budget + 1)) mid
      (pathProperty path) = .ok last) :
    Kept T budget raw last ∧
      Cleaned T budget (Record.get? raw (splitKey path).1) (Record.get? last (splitKey path).1) ∧
      ∀ name, Cleaned T budget (Record.get? raw name) (Record.get? mid name) →
        Cleaned T budget (Record.get? raw name) (Record.get? last name) := by
  have governed : Cleaned T budget (Record.get? raw (splitKey path).1)
      (Record.get? last (splitKey path).1) := by
    obtain ⟨en, _, rfl⟩ | ⟨v, x, ev, es, rfl⟩ := step_ok_iff.1 e
    · have en : Record.get? last (splitKey path).1 = none := en
      obtain same | c := kept (splitKey path).1
      · rw [← same, en]
        exact .absent
      · exact c
    · have ev : Record.get? mid (splitKey path).1 = some v := ev
      obtain ⟨result, er, rfl⟩ := settle_path_ok es
      change Cleaned _ _ _ (Record.get? (Record.set mid (splitKey path).1 _) _)
      rw [Record.get?_set_self]
      -- Two paths may govern one entry; the second finds it cleaned and cleans it to the same.
      obtain same | c := kept (splitKey path).1
      · rw [← same, ev]
        exact .accepted er
      · rw [ev] at c
        cases eo : Record.get? raw (splitKey path).1 with
        | none =>
          rw [eo] at c
          cases c
        | some old =>
          rw [eo] at c
          rwa [← c.again er]
  have later : ∀ name, name = (splitKey path).1 ∨ Record.get? last name = Record.get? mid name := by
    intro name
    by_cases same : name = (splitKey path).1
    · exact .inl same
    · exact .inr (step_get? e same)
  refine ⟨?_, governed, ?_⟩
  · intro name
    obtain rfl | same := later name
    · exact .inr governed
    · rw [same]
      exact kept name
  · intro name c
    obtain rfl | same := later name
    · exact governed
    · rwa [same]

/-- A row of paths cleans every entry that one of them governs. -/
lemma row_cleans {raw mid last} {paths : List Text} (kept : Kept T budget raw mid)
    (e : List.foldlM (step (tableServices T) .builtin (walk (tableServices T) .builtin (budget + 1)))
      mid (paths.map pathProperty) = .ok last) :
    Kept T budget raw last ∧
      (∀ path ∈ paths, Cleaned T budget (Record.get? raw (splitKey path).1)
        (Record.get? last (splitKey path).1)) ∧
      ∀ name, Cleaned T budget (Record.get? raw name) (Record.get? mid name) →
        Cleaned T budget (Record.get? raw name) (Record.get? last name) := by
  induction paths generalizing mid with
  | nil =>
    cases e
    exact ⟨kept, nofun, fun _ c => c⟩
  | cons path rest ih =>
    rw [List.map_cons, List.foldlM_cons, bind_ok_iff] at e
    obtain ⟨next, es, e⟩ := e
    obtain ⟨kept, governed, stays⟩ := step_cleans kept es
    obtain ⟨kept, others, stays'⟩ := ih kept e
    refine ⟨kept, ?_, fun name c => stays' name (stays name c)⟩
    intro other mem
    rcases List.mem_cons.1 mem with rfl | mem
    · exact stays' _ governed
    · exact others other mem

/-- A row of paths that are all there fails at an entry that one of them governs and that is not
accepted. -/
lemma row_error {raw fault} {paths : List Text}
    (there : ∀ path ∈ paths, ∃ v, Record.get? raw path = some v)
    (e : List.foldlM (step (tableServices T) .builtin (walk (tableServices T) .builtin (budget + 1)))
      raw (paths.map pathProperty) = .error fault) :
    ∃ path ∈ paths, ∃ v, Record.get? raw (splitKey path).1 = some v ∧
      (∀ result, Trail.walkEntry T budget v ≠ .ok result) ∧ LocatedAt (splitKey path).1 fault := by
  obtain ⟨before, p, after, mid, split, em, es⟩ := foldlM_error e
  obtain ⟨paths', rest, rfl, rfl, er⟩ := List.map_eq_append_iff.1 split
  obtain ⟨path, rest, rfl, rfl, rfl⟩ := List.map_eq_cons_iff.1 er
  have mem : path ∈ paths' ++ path :: rest := List.mem_append_right _ List.mem_cons_self
  obtain ⟨kept, _, _⟩ := row_cleans (fun _ => .inl rfl) em
  refine ⟨path, mem, ?_⟩
  obtain ⟨en, eo, _⟩ | ⟨v, ev, es⟩ := step_error_iff.1 es
  · -- A required path is its own name, and no step has taken its entry away.
    obtain ⟨v, ev⟩ := there path mem
    have name : (splitKey path).1 = path := splitKey_required eo
    have en : Record.get? mid (splitKey path).1 = none := en
    rw [name] at en
    obtain same | c := kept path
    · rw [en, ev] at same
      cases same
    · rw [en, ev] at c
      cases c
  · have ev : Record.get? mid (splitKey path).1 = some v := ev
    obtain ⟨refused, located⟩ := settle_path_error es
    obtain same | c := kept (splitKey path).1
    · exact ⟨v, same ▸ ev, refused, located⟩
    · rw [ev] at c
      cases eo : Record.get? raw (splitKey path).1 with
      | none =>
        rw [eo] at c
        cases c
      | some old =>
        rw [eo] at c
        obtain ⟨result, er⟩ := c.accepts
        exact (refused result er).elim

end Step

/-- Trails are read off entries one by one, under the same paths. -/
lemma trailsOf_ok_iff {entries trails} :
    trailsOf entries = .ok trails ↔
      List.Forall₂ (fun entry named => named.1 = entry.1 ∧ Trail.ofEntry entry.2 = .ok named.2)
        entries trails := by
  induction entries generalizing trails with
  | nil => cases trails <;> simp [trailsOf]
  | cons entry rest ih =>
    obtain ⟨path, v⟩ := entry
    rw [trailsOf]
    constructor
    · intro e
      obtain ⟨trail, et, e⟩ := bind_ok_iff.1 e
      obtain ⟨others, er, e⟩ := bind_ok_iff.1 e
      cases e
      exact .cons ⟨rfl, et⟩ (ih.1 er)
    · intro all
      cases all with
      | @cons _ named _ _ first others =>
        obtain ⟨path', trail⟩ := named
        obtain ⟨rfl, et⟩ := first
        rw [show Trail.ofEntry v = .ok trail from et, ih.2 others]
        rfl

/-- What no trails can be read from stops the run, but with no failure. -/
lemma trailsOf_error {entries fault} (e : trailsOf entries = .error fault) :
    ∃ mishap, fault = .mishap mishap := by
  induction entries with
  | nil => cases e
  | cons entry rest ih =>
    obtain ⟨path, v⟩ := entry
    rw [trailsOf] at e
    rcases bind_error_iff.1 e with et | ⟨trail, _, e⟩
    · exact Trail.ofEntry_error et
    · rcases bind_error_iff.1 e with er | ⟨others, _, e⟩
      · exact ih er
      · cases e

/-- A path of a manifest, its mark stripped, is the given one. -/
def Governed (entries : Record) (path : Text) : Prop :=
  ∃ key, Value.text key ∈ Record.keys entries ∧ (splitKey key).1 = path

/-- What is promised of reading a manifest: trails under the paths of the entries, each of them good
and with the trimmed fields of its entry, or a failure that is located at the path of an entry that
is not sound or at one of its fields. -/
inductive Promised (entries : Record) : Except Fault Manifest → Prop where
  | read {manifest} :
    List.Forall₂ (fun entry named => named.1 = entry.1 ∧ Trail.Trims entry.2 named.2 ∧
      Trail.Valid named.2) entries manifest.trails →
    Promised entries (.ok manifest)
  | refused {failure path entry} :
    (.text path, entry) ∈ entries →
    ¬Trail.Sound entry →
    (failure.property? = some path ∨ ∃ field ∈ (["name", "globalVar", "url"] : List Text),
      failure.property? = some (path ++ "." ++ field)) →
    Promised entries (.error (.failure failure))

/-- The paths of the entries of a manifest. -/
abbrev pathsOf (entries : Record) : List Text :=
  Schema.textItems (Record.keys entries)

/-- The paths of a manifest are the texts among its keys. -/
lemma mem_pathsOf_iff {entries path} :
    path ∈ pathsOf entries ↔ Value.text path ∈ Record.keys entries := by
  unfold pathsOf Schema.textItems
  rw [List.mem_filterMap]
  constructor
  · rintro ⟨key, mem, e⟩
    cases key with
    | text s =>
      cases e
      exact mem
    | _ => cases e
  · intro mem
    exact ⟨_, mem, rfl⟩

/-- The run over the paths of a manifest. -/
def runPaths (budget : Nat) (entries : Record) : Except Fault Record :=
  List.foldlM (step (tableServices ⟨[]⟩) .builtin (walk (tableServices ⟨[]⟩) .builtin (budget + 1)))
    entries ((pathsOf entries).map pathProperty)

/-- The trails of what comes of a run. -/
def readRun : Except Fault Record → Except Fault Manifest
  | .error fault => .error fault
  | .ok last => (trailsOf last).map Manifest.mk

/-- A manifest is read by a run over its paths and then trail by trail. -/
lemma ofValue_eq (readOnly : Bool) {entries}
    (texts : ∀ entry ∈ entries, ∃ path, entry.1 = Value.text path) :
    ∃ budget, ofValue (.record readOnly entries) = readRun (runPaths budget entries) := by
  refine ⟨(Value.record readOnly entries).depth + 999, ?_⟩
  have run : sanitize .builtin ⟨[]⟩ (.document (schemaOf (.record readOnly entries)))
      (.record readOnly entries) =
        runPaths ((Value.record readOnly entries).depth + 999) entries :=
    sanitizeWithin_eq (compile_schemaOf readOnly texts)
  rw [ofValue, run]
  cases runPaths ((Value.record readOnly entries).depth + 999) entries with
  | error fault => rfl
  | ok last =>
    change (trailsOf last >>= fun trails => pure ⟨trails⟩) = (trailsOf last).map Manifest.mk
    cases trailsOf last <;> rfl

section Read

variable {budget : Nat} {entries : Record}
  (texts : ∀ entry ∈ entries, ∃ path, entry.1 = Value.text path)
  (distinct : (Record.keys entries).Nodup)

/-- What a run makes of an entry: one that is governed is cleaned, another stays. -/
def Becomes (budget : Nat) (entries : Record) (old new : Value × Value) : Prop :=
  new.1 = old.1 ∧ ∀ path, old.1 = .text path →
    (Governed entries path → Cleaned ⟨[]⟩ budget (some old.2) (some new.2)) ∧
      (¬Governed entries path → new.2 = old.2)

include texts distinct in
/-- A run that goes well makes of every entry what it should. -/
lemma row_becomes {last} (e : runPaths budget entries = .ok last) :
    List.Forall₂ (Becomes budget entries) entries last := by
  apply Record.forall₂_of_keys texts (row_keys e) distinct
  intro name v w ev ew
  refine ⟨rfl, ?_⟩
  rintro path ep
  cases ep
  constructor
  · rintro ⟨key, mem, rfl⟩
    obtain ⟨_, governed, _⟩ := row_cleans (fun _ => .inl rfl) e
    have c := governed key (mem_pathsOf_iff.2 mem)
    rwa [ev, ew] at c
  · intro free
    have same : Record.get? last name = Record.get? entries name := by
      apply row_get? e
      rw [List.map_map, List.mem_map]
      rintro ⟨key, mem, named⟩
      exact free ⟨key, mem_pathsOf_iff.1 mem, named⟩
    rw [ev, ew] at same
    exact Option.some.inj same

include distinct in
/-- A run that fails does so at an entry that is governed and not sound. -/
lemma row_refuses {fault} (e : runPaths budget entries = .error fault) :
    ∃ path entry, (.text path, entry) ∈ entries ∧ Governed entries path ∧ ¬Trail.Sound entry ∧
      LocatedAt path fault := by
  have there : ∀ path ∈ pathsOf entries, ∃ v, Record.get? entries path = some v := by
    intro path mem
    obtain ⟨⟨_, v⟩, mem, rfl⟩ := List.mem_map.1 (mem_pathsOf_iff.1 mem)
    exact ⟨v, Record.get?_of_mem (Record.distinct_of_nodup distinct) mem⟩
  obtain ⟨key, mem, entry, ev, refused, located⟩ := row_error there e
  refine ⟨_, entry, Record.mem_of_get? ev, ⟨key, mem_pathsOf_iff.1 mem, rfl⟩, ?_, located⟩
  rintro ⟨trail, trims, valid⟩
  obtain ⟨result, er⟩ := Trail.walkEntry_exists trims valid
  exact refused result er

/-- A fault that is located at an entry that is not sound is what is promised. -/
lemma LocatedAt.promised {path entry fault} (located : LocatedAt path fault)
    (mem : (.text path, entry) ∈ entries) (unsound : ¬Trail.Sound entry) :
    Promised entries (.error fault) := by
  obtain ⟨rest, violation, rfl, located⟩ := located
  refine .refused mem unsound ?_
  rcases located with rfl | ⟨p, mem, rfl⟩
  · exact .inl rfl
  · right
    simp only [Trail.fields, List.mem_cons, List.not_mem_nil, or_false] at mem
    rcases mem with rfl | rfl | rfl
    · exact ⟨"name", by simp, rfl⟩
    · exact ⟨"globalVar", by simp, rfl⟩
    · exact ⟨"url", by simp, rfl⟩

/-- An entry that has been cleaned is sound, and the trail read from what has become of it is the one
that it trims to. -/
lemma Cleaned.trail {T v w} (c : Cleaned T budget (some v) (some w)) :
    ∃ trail, Trail.ofEntry w = .ok trail ∧ Trail.Trims v trail ∧ Trail.Valid trail := by
  cases c with
  | accepted er =>
    obtain ⟨trail, trims, valid, shows⟩ := Trail.walkEntry_ok er
    exact ⟨trail, Trail.ofEntry_of_shows shows, trims, valid⟩

/-- An entry gives the trail that it trims to, and a good one, as it is. -/
def Clean (entry : Value) : Prop :=
  ∃ trail, Trail.ofEntry entry = .ok trail ∧ Trail.Trims entry trail ∧ Trail.Valid trail

include texts in
/-- After a run that goes well, a manifest is read as it is promised exactly when every entry that is
not governed is clean. -/
lemma promised_readRun_iff {last} (all : List.Forall₂ (Becomes budget entries) entries last) :
    Promised entries (readRun (.ok last)) ↔
      ∀ path entry, (.text path, entry) ∈ entries → ¬Governed entries path → Clean entry := by
  rw [readRun]
  constructor
  · intro promised path entry mem free
    cases er : trailsOf last with
    | error fault =>
      rw [er] at promised
      obtain ⟨mishap, rfl⟩ := trailsOf_error er
      cases promised
    | ok trails =>
      rw [er] at promised
      obtain ⟨promised⟩ := promised
      have read := forall₂_trans all (trailsOf_ok_iff.1 er)
      obtain ⟨named, _, ⟨⟨_, w⟩, ⟨_, becomes⟩, _, et⟩, _, trims, valid⟩ :=
        exists_right_of_mem (forall₂_and read promised) mem
      -- The run has left the entry as it was, so the trail was read off the entry itself.
      have same := (becomes path rfl).2 free
      rw [same] at et
      exact ⟨_, et, trims, valid⟩
  · intro clean
    -- What is promised and what is read have to be the same trails, found entry by entry.
    have shared : List.Forall₂ (fun old new => ∃ named : Value × Trail,
        (named.1 = old.1 ∧ Trail.Trims old.2 named.2 ∧ Trail.Valid named.2) ∧
          named.1 = new.1 ∧ Trail.ofEntry new.2 = .ok named.2) entries last := by
      obtain ⟨length, each⟩ := List.forall₂_iff_zip.1 all
      refine List.forall₂_iff_zip.2 ⟨length, ?_⟩
      rintro ⟨key, v⟩ ⟨key', w⟩ mem
      obtain ⟨rfl, becomes⟩ := each mem
      have mem := (List.of_mem_zip mem).1
      obtain ⟨path, rfl⟩ := texts _ mem
      obtain ⟨governed, free⟩ := becomes path rfl
      by_cases g : Governed entries path
      · obtain ⟨trail, et, trims, valid⟩ := (governed g).trail
        exact ⟨(.text path, trail), ⟨rfl, trims, valid⟩, rfl, et⟩
      · obtain ⟨trail, et, trims, valid⟩ := clean path v mem g
        have same : w = v := free g
        exact ⟨(.text path, trail), ⟨rfl, trims, valid⟩, rfl, same ▸ et⟩
    obtain ⟨trails, promised, read⟩ := exists_shared shared
    rw [trailsOf_ok_iff.2 read]
    exact .read promised

end Read

/-- A manifest is read as it is promised exactly when some entry that a path governs is not sound, so
that it is refused, or every entry that no path governs is clean. This is so, in particular, when no
path ends in a mark. -/
theorem promised_iff (raw : Mapping) (readOnly : Bool)
    (texts : ∀ entry ∈ raw.entries, ∃ path, entry.1 = Value.text path) :
    (Promised raw.entries (ofValue (raw.toValue readOnly)) ↔
      (∃ path entry, (.text path, entry) ∈ raw.entries ∧ Governed raw.entries path ∧
        ¬Trail.Sound entry) ∨
      ∀ path entry, (.text path, entry) ∈ raw.entries → ¬Governed raw.entries path → Clean entry) ∧
    ((∀ path, .text path ∈ Record.keys raw.entries → (splitKey path).2 = false) →
      Promised raw.entries (ofValue (raw.toValue readOnly))) := by
  obtain ⟨entries, apart⟩ := raw
  have distinct : (Record.keys entries).Nodup := Record.nodup_of_distinct apart texts
  rw [Mapping.toValue]
  obtain ⟨budget, eq⟩ := ofValue_eq readOnly texts
  have iff : Promised entries (ofValue (.record readOnly entries)) ↔
      (∃ path entry, (.text path, entry) ∈ entries ∧ Governed entries path ∧ ¬Trail.Sound entry) ∨
      ∀ path entry, (.text path, entry) ∈ entries → ¬Governed entries path → Clean entry := by
    rw [eq]
    cases e : runPaths budget entries with
    | error fault =>
      -- A run that fails blames a governed entry that is not sound, which settles both sides.
      obtain ⟨path, entry, mem, governed, unsound, located⟩ := row_refuses distinct e
      constructor
      · intro _
        exact .inl ⟨path, entry, mem, governed, unsound⟩
      · intro _
        exact located.promised mem unsound
    | ok last =>
      -- The run has cleaned all governed entries, so that only the others are in question.
      have all := row_becomes texts distinct e
      rw [promised_readRun_iff texts all]
      constructor
      · exact .inr
      · rintro (⟨path, entry, mem, governed, unsound⟩ | clean)
        · obtain ⟨_, _, _, becomes⟩ := exists_right_of_mem all mem
          obtain ⟨trail, _, trims, valid⟩ := ((becomes path rfl).1 governed).trail
          exact (unsound ⟨trail, trims, valid⟩).elim
        · exact clean
  refine ⟨iff, ?_⟩
  intro unmarked
  refine iff.2 (.inr ?_)
  intro path entry mem free
  have key : Value.text path ∈ Record.keys entries := List.mem_map.2 ⟨_, mem, rfl⟩
  exact (free ⟨path, key, splitKey_required (unmarked path key)⟩).elim

/-- An entry with blanks around its name. -/
def paddedEntry : Value :=
  .record false [(.text "name", .text " a "), (.text "globalVar", .text "g"),
    (.text "url", .text "http://x")]

/-- A mapping with that entry under a path without a mark. -/
def unmarked : Mapping where
  entries := [(.text "/x", paddedEntry)]
  distinct := List.pairwise_singleton _ _

/-- A manifest without marked paths is read as it is promised. -/
theorem promised_unmarked :
    (∀ entry ∈ unmarked.entries, ∃ path, entry.1 = Value.text path) ∧
      Promised unmarked.entries (ofValue (unmarked.toValue false)) := by
  have texts : ∀ entry ∈ unmarked.entries, ∃ path, entry.1 = Value.text path :=
    List.forall_mem_singleton.2 ⟨"/x", rfl⟩
  obtain ⟨_, read⟩ := promised_iff unmarked false texts
  refine ⟨texts, read ?_⟩
  intro path mem
  have mem : Value.text path ∈ [Value.text "/x"] := mem
  rw [List.mem_singleton, Value.text.injEq] at mem
  rw [mem]
  decide

/-- A manifest with one marked path is read as it stands, blanks included. -/
theorem not_promised_marked :
    ¬Promised [(.text "/x?", paddedEntry)] (ofValue (.record false [(.text "/x?", paddedEntry)])) := by
  have read : ofValue (.record false [(.text "/x?", paddedEntry)]) =
      .ok ⟨[(.text "/x?", ⟨" a ", "g", "http://x"⟩)]⟩ := by
    cbv
  rw [read]
  intro promised
  obtain ⟨all⟩ := promised
  cases all with
  | cons first _ =>
    obtain ⟨_, _, valid⟩ := first
    have blank := valid.name_trimmed.1 ' ' ['a', ' '] rfl
    cases blank

end RecordSchema.Manifest
