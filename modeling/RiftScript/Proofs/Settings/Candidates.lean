/-
The files that settings may come from.

The candidates are tried in turn. One that is missing, cannot be opened, is malformed or is not a
mapping is skipped, and the settings are the same as if it were not there. A candidate that is not
text, however, ends the search with a fault. So does one that cannot be looked for, and one whose game
state is neither a mapping nor made up of pairs. There are settings unless such a candidate comes up.
-/
import RiftScript.Proofs.Scanning.Decoding
import RiftScript.Proofs.Settings.Layers
import RiftScript.Proofs.Settings.Paths

namespace RiftScript
namespace Settings

open Datum (DistinctKeys)

variable {read : String → Option Datum} {files : Files}

/-! ## One candidate -/

/-- What stands in a settings file that can be read and is not malformed. -/
def content? (read : String → Option Datum) : FileEntry → Option Datum
  | .file bytes => (Source.decodeStrict? bytes).bind read
  | _ => none

/-- The entries of what stands in a settings file. Falsy data count as an empty mapping. -/
def topEntries? : Datum → Option Entries
  | .dict entries => some entries
  | d => if d.truthy then none else some []

/-- The entries of a settings file that can be used. -/
def usable? (read : String → Option Datum) (entry : FileEntry) : Option Entries :=
  (content? read entry).bind topEntries?

/-- What ends the search: a file whose bytes are not UTF-8, or a path that does not even tell whether
something is there. -/
inductive Barred : FileEntry → Prop
  | garbled {bytes : ByteArray} (h : ∀ cs : List Char, bytes ≠ cs.utf8Encode) : Barred (.file bytes)
  | hidden (code : Nat) (reason : String) : Barred (.hidden code reason)

/-- What is skipped when settings are looked for. -/
def Skipped (read : String → Option Datum) (entry : FileEntry) : Prop :=
  ¬Barred entry ∧ usable? read entry = none

theorem decodeStrict?_eq_none {bytes : ByteArray} :
    Source.decodeStrict? bytes = none ↔ ∀ cs : List Char, bytes ≠ cs.utf8Encode := by
  rw [Source.decodeStrict?, Option.map_eq_none_iff]
  constructor
  · rintro h cs rfl
    rw [Source.fromUTF8?_utf8Encode] at h
    cases h
  · exact Source.fromUTF8?_eq_none

theorem readFile_of_barred {entry : FileEntry} (h : Barred entry) (path : String) :
    ∃ fault, readFile read path entry = .error fault := by
  cases h with
  | garbled h =>
    refine ⟨.notUtf8, ?_⟩
    simp [readFile, FileEntry.present, FileEntry.bytes, decodeStrict?_eq_none.mpr h]
  | hidden code reason => exact ⟨_, rfl⟩

theorem readFile_of_usable {entry : FileEntry} {entries : Entries}
    (h : usable? read entry = some entries) (path : String) :
    readFile read path entry = .ok (.entries entries) := by
  obtain ⟨d, hd, hentries⟩ := Option.bind_eq_some_iff.mp h
  cases entry with
  | file bytes =>
    obtain ⟨text, htext, hread⟩ := Option.bind_eq_some_iff.mp hd
    simp only [readFile, FileEntry.present, FileEntry.bytes, htext, hread]
    cases d with
    | dict es =>
      cases hentries
      rfl
    | _ =>
      rw [topEntries?] at hentries
      · split at hentries
        · cases hentries
        · next htruthy =>
          cases hentries
          simp [htruthy]
      · intro es h
        cases h
  | _ => cases hd

theorem readFile_of_skipped {entry : FileEntry} (h : Skipped read entry) (path : String) :
    ∃ warning, readFile read path entry = .ok (.skipped warning) := by
  obtain ⟨hbarred, hunusable⟩ := h
  cases entry with
  | absent => exact ⟨none, rfl⟩
  | blocked => exact ⟨none, rfl⟩
  | directory => exact ⟨_, rfl⟩
  | locked => exact ⟨_, rfl⟩
  | hidden code reason => exact absurd (.hidden code reason) hbarred
  | file bytes =>
    cases hdecode : Source.decodeStrict? bytes with
    | none => exact absurd (.garbled (decodeStrict?_eq_none.mp hdecode)) hbarred
    | some text =>
      rw [usable?, content?, hdecode, Option.bind_some] at hunusable
      simp only [readFile, FileEntry.present, FileEntry.bytes, hdecode]
      cases hread : read text with
      | none => exact ⟨_, rfl⟩
      | some d =>
        rw [hread, Option.bind_some] at hunusable
        cases d with
        | dict es => cases hunusable
        | _ =>
          rw [topEntries?] at hunusable
          · split at hunusable
            · next htruthy => simp [htruthy]
            · cases hunusable
          · intro es h
            cases h

theorem not_skipped_cases {entry : FileEntry} (h : ¬Skipped read entry) :
    Barred entry ∨ ∃ entries, usable? read entry = some entries := by
  by_cases hbarred : Barred entry
  · exact .inl hbarred
  · exact .inr (Option.ne_none_iff_exists'.mp fun hnone => h ⟨hbarred, hnone⟩)

/-- Falsy data count as an empty mapping, and all other entries come from a mapping that was read. -/
theorem distinctKeys_of_usable (hread : ReadsMappings read) {entry : FileEntry} {entries : Entries}
    (h : usable? read entry = some entries) :
    DistinctKeys entries ∧ ∀ state, stateSetting entries = .dict state → DistinctKeys state := by
  obtain ⟨d, hd, hentries⟩ := Option.bind_eq_some_iff.mp h
  cases entry with
  | file bytes =>
    obtain ⟨text, -, hd⟩ := Option.bind_eq_some_iff.mp hd
    cases d with
    | dict es =>
      cases hentries
      exact hread text _ hd
    | _ =>
      rw [topEntries?] at hentries
      · split at hentries
        · cases hentries
        · cases hentries
          exact ⟨.nil, fun state h => by cases h⟩
      · intro es h
        cases h
  | _ => cases hd

/-! ## The search -/

/-- The first candidate that can be used. -/
def firstUsable? (read : String → Option Datum) (files : Files) (paths : List String) :
    Option (String × Entries) :=
  paths.findSome? fun path => (usable? read (files path)).map (path, ·)

theorem search_cons_of_skipped {path : String} (h : Skipped read (files path))
    (rest : List String) : (search read files (path :: rest)).2 = (search read files rest).2 := by
  obtain ⟨warning, hread⟩ := readFile_of_skipped h path
  rw [search, hread]

theorem search_append_of_skipped {before : List String}
    (h : ∀ path ∈ before, Skipped read (files path)) (rest : List String) :
    (search read files (before ++ rest)).2 = (search read files rest).2 := by
  induction before with
  | nil => rfl
  | cons path before ih =>
    obtain ⟨hpath, hbefore⟩ := List.forall_mem_cons.mp h
    rw [List.cons_append, search_cons_of_skipped hpath, ih hbefore]

theorem search_cons_of_usable {path : String} {entries : Entries}
    (h : usable? read (files path) = some entries) (rest : List String) :
    (search read files (path :: rest)).2 = .ok (some (path, entries)) := by
  rw [search, readFile_of_usable h]

theorem search_cons_of_barred {path : String} (h : Barred (files path)) (rest : List String) :
    ∃ fault, (search read files (path :: rest)).2 = .error fault := by
  obtain ⟨fault, hfault⟩ := @readFile_of_barred read _ h path
  exact ⟨fault, by rw [search, hfault]⟩

/-- The search passes all candidates, or comes to one that is not skipped. -/
theorem skipped_or_exists (read : String → Option Datum) (files : Files) (paths : List String) :
    (∀ path ∈ paths, Skipped read (files path)) ∨
      ∃ before path after, paths = before ++ path :: after ∧
        (∀ p ∈ before, Skipped read (files p)) ∧ ¬Skipped read (files path) := by
  induction paths with
  | nil => exact .inl (List.forall_mem_nil _)
  | cons path paths ih =>
    by_cases hpath : Skipped read (files path)
    · rcases ih with hall | ⟨before, p, after, rfl, hbefore, hp⟩
      · exact .inl (List.forall_mem_cons.mpr ⟨hpath, hall⟩)
      · exact .inr ⟨path :: before, p, after, rfl, List.forall_mem_cons.mpr ⟨hpath, hbefore⟩, hp⟩
    · exact .inr ⟨[], path, paths, rfl, List.forall_mem_nil _, hpath⟩

theorem search_of_skipped {paths : List String} (h : ∀ path ∈ paths, Skipped read (files path)) :
    (search read files paths).2 = .ok none := by
  have happend := search_append_of_skipped h []
  rw [List.append_nil] at happend
  exact happend

theorem firstUsable?_append_of_skipped {before : List String}
    (h : ∀ path ∈ before, Skipped read (files path)) (rest : List String) :
    firstUsable? read files (before ++ rest) = firstUsable? read files rest := by
  have hnone : before.findSome? (fun path => (usable? read (files path)).map (path, ·)) = none :=
    List.findSome?_eq_none_iff.mpr fun path hpath => by rw [(h path hpath).2, Option.map_none]
  rw [firstUsable?, List.findSome?_append, hnone, Option.none_or, firstUsable?]

/-- What the search finds is the first candidate that can be used. -/
theorem eq_firstUsable?_of_search {paths : List String} {found : Option (String × Entries)}
    (h : (search read files paths).2 = .ok found) : found = firstUsable? read files paths := by
  rcases skipped_or_exists read files paths with hall | ⟨before, path, after, rfl, hbefore, hpath⟩
  · have hnone := firstUsable?_append_of_skipped hall []
    rw [List.append_nil] at hnone
    rw [search_of_skipped hall] at h
    rw [hnone, ← Except.ok.inj h]
    rfl
  · rw [search_append_of_skipped hbefore] at h
    rcases not_skipped_cases hpath with hbarred | ⟨entries, husable⟩
    · obtain ⟨fault, hfault⟩ := search_cons_of_barred hbarred after
      rw [hfault] at h
      cases h
    · rw [search_cons_of_usable husable] at h
      rw [← Except.ok.inj h, firstUsable?_append_of_skipped hbefore, firstUsable?,
        List.findSome?_cons, husable]
      rfl

theorem search_of_not_barred {paths : List String} (h : ∀ path ∈ paths, ¬Barred (files path)) :
    (search read files paths).2 = .ok (firstUsable? read files paths) := by
  cases hsearch : (search read files paths).2 with
  | ok found => rw [eq_firstUsable?_of_search hsearch]
  | error fault =>
    rcases skipped_or_exists read files paths with hall | ⟨before, path, after, rfl, hbefore, hpath⟩
    · rw [search_of_skipped hall] at hsearch
      cases hsearch
    · rw [search_append_of_skipped hbefore] at hsearch
      rcases not_skipped_cases hpath with hbarred | ⟨entries, husable⟩
      · exact absurd hbarred (h path (by simp))
      · rw [search_cons_of_usable husable] at hsearch
        cases hsearch

theorem exists_usable_of_firstUsable? {paths : List String} {path : String} {entries : Entries}
    (h : firstUsable? read files paths = some (path, entries)) :
    path ∈ paths ∧ usable? read (files path) = some entries := by
  obtain ⟨before, p, after, rfl, hp, -⟩ := List.findSome?_eq_some_iff.mp h
  obtain ⟨es, hes, heq⟩ := Option.map_eq_some_iff.mp hp
  cases heq
  exact ⟨by simp, hes⟩

theorem distinctKeys_firstUsable? (hread : ReadsMappings read) (paths : List String) :
    DistinctKeys (entriesOf (firstUsable? read files paths)) ∧
      DistinctKeys (stateOf (entriesOf (firstUsable? read files paths))) := by
  cases hfound : firstUsable? read files paths with
  | none => exact ⟨.nil, .nil⟩
  | some file =>
    obtain ⟨-, husable⟩ := exists_usable_of_firstUsable? hfound
    obtain ⟨hkeys, hstate⟩ := distinctKeys_of_usable hread husable
    refine ⟨hkeys, ?_⟩
    show DistinctKeys (stateOf file.2)
    rw [stateOf]
    split
    · next state heq => exact hstate state heq
    · exact .nil

/-- What can be laid over a mapping: a mapping, or what is made up of pairs. Falsy data add nothing. -/
def Mergeable (d : Datum) : Prop :=
  d.truthy = false ∨ (∃ entries, d = .dict entries) ∨
    ∃ items, sequence? d = some items ∧
      ∀ item ∈ items, ∃ key value, sequence? item = some [key, value] ∧ key.isKey = true

/-- A candidate that settings can do with or without: it does not end the search, and if it is used
its game state can be laid over the default one. -/
def Sound (read : String → Option Datum) (entry : FileEntry) : Prop :=
  ¬Barred entry ∧
    ∀ entries, usable? read entry = some entries → Mergeable (stateSetting entries)

theorem loadWith_eq (read : String → Option Datum) (files : Files) (home : String)
    (environment : Environment) (explicit : Option String) :
    (loadWith read files home environment explicit).2
      = (search read files (candidates home environment explicit)).2.bind fun found =>
          (defaults.withFound found).map (·.withEnvironment environment) := by
  rw [loadWith]
  rcases search read files (candidates home environment explicit) with ⟨warnings, found⟩
  cases found with
  | error fault => rfl
  | ok found =>
    show (defaults.withFound found).bind _ = (defaults.withFound found).map _
    cases defaults.withFound found <;> rfl

section Loading

variable {home : String} {environment : Environment} {explicit : Option String}

/-- The settings are those of the file that is used, between the environment and the defaults. -/
theorem layered_of_loadWith (hread : ReadsMappings read) {s : Settings}
    (h : (loadWith read files home environment explicit).2 = .ok s) :
    let found := firstUsable? read files (candidates home environment explicit)
    s.path = found.map Prod.fst ∧ Layered environment (entriesOf found) s ∧
      (PlainState (entriesOf found) → StateLayered (entriesOf found) s) := by
  rw [loadWith_eq] at h
  cases hsearch : (search read files (candidates home environment explicit)).2 with
  | error fault =>
    rw [hsearch] at h
    cases h
  | ok found =>
    rw [hsearch] at h
    obtain rfl := eq_firstUsable?_of_search hsearch
    cases hfile : defaults.withFound (firstUsable? read files
        (candidates home environment explicit)) with
    | error fault =>
      rw [Except.bind, hfile] at h
      cases h
    | ok s' =>
      rw [Except.bind, hfile] at h
      obtain rfl := Except.ok.inj h
      obtain ⟨hkeys, hstate⟩ := @distinctKeys_firstUsable? read files hread
        (candidates home environment explicit)
      obtain ⟨hpath, hlayered⟩ := layered_of_withFound hkeys hfile environment
      exact ⟨hpath, hlayered, fun hplain => stateLayered_of_withFound hplain hstate hfile⟩

end Loading

theorem usable?_file (read : String → Option Datum) (text : String) :
    usable? read (.file text.toUTF8)
      = (read (String.ofList (Source.joinLines text.toList))).bind topEntries? := by
  rw [usable?, content?, Source.decodeStrict?, fromUTF8?_toUTF8]
  rfl

theorem not_barred_text (text : String) : ¬Barred (.file text.toUTF8) := by
  intro h
  cases h with
  | garbled hbytes =>
    exact hbytes text.toList (by rw [String.utf8Encode_toList, String.toUTF8_eq_toByteArray])

end Settings
end RiftScript
