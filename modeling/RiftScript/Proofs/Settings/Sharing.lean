/-
Settings that are put together in place.

The default settings are kept once and for all, as two mappings, and settings are made from them by
changing mappings where they are. Whoever starts from a copy of the upper mapping still shares the
game state with the defaults and would change it for everyone. Here both mappings are copied before
anything is put into them. So the settings are those of `loadWith`, all mappings that were there
before stay as they are, and settings that are made later do not depend on those made earlier.
-/
import RiftScript.Proofs.Settings.Candidates

namespace RiftScript
namespace Settings

/-! ## A store of mappings -/

/-- Mappings that are changed in place. Each is known by its address. -/
structure Store where
  mappings : List Entries

/-- Settings in a store: where the mapping of the values is, and where that of the game state. -/
structure Handle where
  path : Option String
  values : Nat
  state : Nat

namespace Store

def size (store : Store) : Nat :=
  store.mappings.length

def get (store : Store) (address : Nat) : Entries :=
  (store.mappings[address]?).getD []

/-- A new mapping with the entries of another. -/
def copy (store : Store) (address : Nat) : Nat × Store :=
  (store.size, ⟨store.mappings ++ [store.get address]⟩)

/-- Give a key of a mapping a value. -/
def put (store : Store) (address : Nat) (key value : Datum) : Store :=
  ⟨store.mappings.modify address (Datum.setKey key value)⟩

/-- Put entries into a mapping, one after another. -/
def update (store : Store) (address : Nat) (entries : Entries) : Store :=
  entries.foldl (fun store e => store.put address e.1 e.2) store

/-- Settings of one's own. A copy of the values alone would leave the game state shared. -/
def detach (store : Store) (shared : Handle) : Handle × Store :=
  let (values, store) := store.copy shared.values
  let own := { shared with values }
  let (state, store) := store.copy own.state
  ({ own with state }, store)

/-- Put the entries of a file into settings. The values are changed before the game state is looked
at. -/
def addFile (store : Store) (own : Handle) (path : String) (entries : Entries) :
    Except SettingsFault Handle × Store :=
  let store := store.update own.values (withoutState entries)
  match stateEntries (stateSetting entries) with
  | .error fault => (.error fault, store)
  | .ok state => (.ok { own with path := some path }, store.update own.state state)

def addFound (store : Store) (own : Handle) :
    Option (String × Entries) → Except SettingsFault Handle × Store
  | none => (.ok own, store)
  | some (path, entries) => store.addFile own path entries

/-- Make settings from shared ones, with a file and the environment. -/
def load (store : Store) (read : String → Option Datum) (files : Files) (home : String)
    (environment : Environment) (explicit : Option String) (shared : Handle) :
    Except SettingsFault Handle × Store :=
  let (own, store) := store.detach shared
  match (search read files (candidates home environment explicit)).2 with
  | .error fault => (.error fault, store)
  | .ok found =>
    match store.addFound own found with
    | (.error fault, store) => (.error fault, store)
    | (.ok own, store) => (.ok own, store.update own.values (fromEnvironment environment))

end Store

namespace Handle

/-- The settings as they stand in a store. -/
def settings (h : Handle) (store : Store) : Settings :=
  ⟨h.path, store.get h.values, store.get h.state⟩

/-- The mappings are there, and they are two. -/
structure Within (h : Handle) (store : Store) : Prop where
  values : h.values < store.size
  state : h.state < store.size
  apart : h.values ≠ h.state

end Handle

/-! ## What stays as it is -/

/-- All mappings of the first store are in the second, with the same entries. -/
structure Store.Keeps (store store' : Store) : Prop where
  size : store.size ≤ store'.size
  get : ∀ address, address < store.size → store'.get address = store.get address

namespace Store

variable {store store' store'' : Store}

theorem Keeps.trans (h : Keeps store store') (h' : Keeps store' store'') : Keeps store store'' where
  size := Nat.le_trans h.size h'.size
  get address ha := (h'.get address (Nat.lt_of_lt_of_le ha h.size)).trans (h.get address ha)

theorem Keeps.settings {h : Handle} (hkeeps : Keeps store store') (hin : h.Within store) :
    h.settings store' = h.settings store := by
  rw [Handle.settings, hkeeps.get _ hin.values, hkeeps.get _ hin.state, Handle.settings]

theorem Keeps.within {h : Handle} (hkeeps : Keeps store store') (hin : h.Within store) :
    h.Within store' :=
  ⟨Nat.lt_of_lt_of_le hin.values hkeeps.size, Nat.lt_of_lt_of_le hin.state hkeeps.size, hin.apart⟩

theorem keeps_copy (store : Store) (address : Nat) : Keeps store (store.copy address).2 where
  size := by simp [copy, Store.size]
  get a ha := by
    rw [copy, Store.get, List.getElem?_append_left ha, Store.get]

theorem get_copy (store : Store) (address : Nat) :
    (store.copy address).2.get (store.copy address).1 = store.get address := by
  simp [copy, Store.get, Store.size]

theorem size_update (store : Store) (address : Nat) (entries : Entries) :
    (store.update address entries).size = store.size := by
  induction entries generalizing store with
  | nil => rfl
  | cons e entries ih =>
    rw [update, List.foldl_cons, ← update, ih, put, Store.size, List.length_modify, Store.size]

theorem get_update_self {address : Nat} (h : address < store.size) (entries : Entries) :
    (store.update address entries).get address = overlay (store.get address) entries := by
  induction entries generalizing store with
  | nil => rfl
  | cons e entries ih =>
    have hput : address < (store.put address e.1 e.2).size := by
      rw [put, Store.size, List.length_modify]
      exact h
    have hget : (store.put address e.1 e.2).get address =
        Datum.setKey e.1 e.2 (store.get address) := by
      have hsome : store.mappings[address]? = some (store.get address) := by
        rw [Store.get, List.getElem?_eq_getElem h, Option.getD_some]
      rw [put, Store.get, List.getElem?_modify_eq, hsome]
      rfl
    rw [update, List.foldl_cons, ← update, ih hput, hget, overlay, overlay, List.foldl_cons]

theorem get_update_ne {address other : Nat} (h : address ≠ other) (entries : Entries) :
    (store.update address entries).get other = store.get other := by
  induction entries generalizing store with
  | nil => rfl
  | cons e entries ih =>
    rw [update, List.foldl_cons, ← update, ih, put, Store.get, List.getElem?_modify_ne _ _ h,
      Store.get]

/-- A mapping that is new may be changed. -/
theorem Keeps.update {address : Nat} (h : Keeps store store') (hnew : store.size ≤ address)
    (entries : Entries) : Keeps store (store'.update address entries) where
  size := by
    rw [size_update]
    exact h.size
  get a ha := by
    rw [get_update_ne (by omega), h.get a ha]

/-! ## Making settings -/

/-- The settings of a handle, whose mappings are new in the second store. -/
structure Made (store store' : Store) (own : Handle) (s : Settings) : Prop where
  keeps : Keeps store store'
  within : own.Within store'
  newValues : store.size ≤ own.values
  newState : store.size ≤ own.state
  settings : own.settings store' = s

theorem made_detach {shared : Handle} (h : shared.Within store) :
    Made store (store.detach shared).2 (store.detach shared).1 (shared.settings store) := by
  have hfirst : Keeps store (store.copy shared.values).2 := keeps_copy store shared.values
  have hsecond : Keeps (store.copy shared.values).2 (store.detach shared).2 :=
    keeps_copy _ shared.state
  have hvalues : (store.detach shared).1.values = store.size := rfl
  have hstate : (store.detach shared).1.state = store.size + 1 := by
    simp [detach, copy, Store.size]
  have hsize : (store.detach shared).2.size = store.size + 2 := by
    simp [detach, copy, Store.size]
  refine ⟨hfirst.trans hsecond, ⟨by omega, by omega, by omega⟩, by omega, by omega, ?_⟩
  have hgetValues : (store.detach shared).2.get store.size = store.get shared.values :=
    (hsecond.get store.size (by simp [copy, Store.size])).trans (get_copy store shared.values)
  have hgetState : (store.detach shared).2.get (store.detach shared).1.state =
      store.get shared.state :=
    (get_copy _ shared.state).trans (hfirst.get shared.state h.state)
  rw [Handle.settings, hvalues, hgetValues, hgetState]
  rfl

theorem Made.updateValues {own : Handle} {s : Settings} (h : Made store store' own s)
    (entries : Entries) : Made store (store'.update own.values entries) own
      { s with values := overlay s.values entries } := by
  refine ⟨h.keeps.update h.newValues entries, ?_, h.newValues, h.newState, ?_⟩
  · exact ⟨by rw [size_update]; exact h.within.values, by rw [size_update]; exact h.within.state,
      h.within.apart⟩
  · rw [Handle.settings, get_update_self h.within.values, get_update_ne h.within.apart,
      ← h.settings, Handle.settings]

theorem Made.updateState {own : Handle} {s : Settings} (h : Made store store' own s)
    (entries : Entries) : Made store (store'.update own.state entries) own
      { s with gameState := overlay s.gameState entries } := by
  refine ⟨h.keeps.update h.newState entries, ?_, h.newValues, h.newState, ?_⟩
  · exact ⟨by rw [size_update]; exact h.within.values, by rw [size_update]; exact h.within.state,
      h.within.apart⟩
  · rw [Handle.settings, get_update_self h.within.state, get_update_ne h.within.apart.symm,
      ← h.settings, Handle.settings]

theorem Made.withPath {own : Handle} {s : Settings} (h : Made store store' own s)
    (path : Option String) : Made store store' { own with path } { s with path } :=
  ⟨h.keeps, ⟨h.within.values, h.within.state, h.within.apart⟩, h.newValues, h.newState, by
    rw [← h.settings, Handle.settings, Handle.settings]⟩

/-- What making settings comes to: the fault or the settings that are expected, and nothing changed
that was there before. -/
def Yields (store : Store) (result : Except SettingsFault Handle × Store)
    (expected : Except SettingsFault Settings) : Prop :=
  Keeps store result.2 ∧
    ((∃ fault, result.1 = .error fault ∧ expected = .error fault) ∨
      ∃ own s, result.1 = .ok own ∧ expected = .ok s ∧ Made store result.2 own s)

theorem yields_error {fault : SettingsFault} (h : Keeps store store') :
    Yields store (.error fault, store') (.error fault) :=
  ⟨h, .inl ⟨fault, rfl, rfl⟩⟩

theorem yields_ok {own : Handle} {s : Settings} (h : Made store store' own s) :
    Yields store (.ok own, store') (.ok s) :=
  ⟨h.keeps, .inr ⟨own, s, rfl, rfl, h⟩⟩

theorem yields_addFile {own : Handle} {s : Settings} (h : Made store store' own s) (path : String)
    (entries : Entries) : Yields store (store'.addFile own path entries) (s.withFile path entries) := by
  have hvalues := h.updateValues (withoutState entries)
  rw [addFile, withFile]
  cases stateEntries (stateSetting entries) with
  | error fault => exact yields_error hvalues.keeps
  | ok state => exact yields_ok ((hvalues.updateState state).withPath (some path))

theorem yields_addFound {own : Handle} {s : Settings} (h : Made store store' own s)
    (found : Option (String × Entries)) :
    Yields store (store'.addFound own found) (s.withFound found) := by
  cases found with
  | none => exact yields_ok h
  | some file => exact yields_addFile h file.1 file.2

/-- Making settings from the defaults in place gives those that are loaded. -/
theorem yields_load {shared : Handle} (hin : shared.Within store)
    (hshared : shared.settings store = defaults) (read : String → Option Datum) (files : Files)
    (home : String) (environment : Environment) (explicit : Option String) :
    Yields store (store.load read files home environment explicit shared)
      (loadWith read files home environment explicit).2 := by
  have hmade := made_detach hin
  rw [hshared] at hmade
  rw [Store.load, loadWith_eq]
  cases (search read files (candidates home environment explicit)).2 with
  | error fault => exact yields_error hmade.keeps
  | ok found =>
    have hfound := yields_addFound hmade found
    rw [Except.bind]
    dsimp only
    rcases hresult : (store.detach shared).2.addFound (store.detach shared).1 found with
      ⟨result, last⟩
    rw [hresult] at hfound
    obtain ⟨hkeeps, ⟨fault, rfl, hexpected⟩ | ⟨own, s, rfl, hexpected, hmade⟩⟩ := hfound
    · rw [hexpected]
      exact yields_error hkeeps
    · rw [hexpected]
      exact yields_ok (hmade.updateValues (fromEnvironment environment))

end Store

/-! ## Layers and later settings -/

/-- A candidate of one of these kinds: missing, closed, malformed, not a mapping, falsy, or a mapping
whose game state is falsy or a mapping. -/
def Regular (read : String → Option Datum) (entry : FileEntry) : Prop :=
  ¬Barred entry ∧ ∀ entries, usable? read entry = some entries → PlainState entries

theorem plainState_firstUsable? {read : String → Option Datum} {files : Files}
    {paths : List String} (h : ∀ path ∈ paths, Regular read (files path)) :
    PlainState (entriesOf (firstUsable? read files paths)) := by
  cases hfound : firstUsable? read files paths with
  | none => exact .inl rfl
  | some file =>
    obtain ⟨hmem, husable⟩ := exists_usable_of_firstUsable? hfound
    exact (h file.1 hmem).2 file.2 husable

/-- With regular candidates there are settings. -/
theorem exists_loadWith_of_regular {read : String → Option Datum} {files : Files} {home : String}
    {environment : Environment} {explicit : Option String}
    (h : ∀ path ∈ candidates home environment explicit, Regular read (files path)) :
    ∃ s, (loadWith read files home environment explicit).2 = .ok s := by
  obtain ⟨s, hs, -⟩ := exists_withFound (plainState_firstUsable? h)
  refine ⟨s.withEnvironment environment, ?_⟩
  rw [loadWith_eq, search_of_not_barred fun path hpath => (h path hpath).1, Except.bind, hs]
  rfl

/-- With regular candidates there are settings. They come from the first candidate that can be used:
the environment stands over its values and the defaults under them, and its game state stands over the
default one, key by key. Made in place, the settings are the same, the defaults and everything else
that was there stay as they are, and so do these settings when others are made after them, which are
what they would have been without them. -/
theorem load_layers (read : String → Option Datum) (hread : ReadsMappings read) (files : Files)
    {home : String} {environment : Environment} {explicit : Option String} {paths : List String}
    (hpaths : LooksIn home environment explicit paths)
    (hfiles : ∀ path ∈ paths, Regular read (files path)) :
    let found := firstUsable? read files paths
    ∃ s, (loadWith read files home environment explicit).2 = .ok s ∧
      s.path = found.map Prod.fst ∧
      Layered environment (entriesOf found) s ∧
      StateLayered (entriesOf found) s ∧
      ∀ (store : Store) (shared : Handle), shared.Within store →
        shared.settings store = defaults →
        ∃ own store', store.load read files home environment explicit shared = (.ok own, store') ∧
          store.Keeps store' ∧ own.settings store' = s ∧
          ∀ read' files' home' environment' explicit',
            let later := store'.load read' files' home' environment' explicit' shared
            store.Keeps later.2 ∧ own.settings later.2 = s ∧
              later.1.map (·.settings later.2)
                = (loadWith read' files' home' environment' explicit').2 := by
  intro found
  obtain rfl := looksIn_iff.mp hpaths
  obtain ⟨s, hload⟩ := exists_loadWith_of_regular hfiles
  obtain ⟨hpath, hlayered, hstate⟩ := layered_of_loadWith hread hload
  refine ⟨s, hload, hpath, hlayered, hstate (plainState_firstUsable? hfiles), ?_⟩
  intro store shared hin hshared
  obtain ⟨hkeeps, hresult⟩ := Store.yields_load hin hshared read files home environment explicit
  rcases hresult with ⟨fault, -, hfault⟩ | ⟨own, s', hown, hs', hmade⟩
  · rw [hload] at hfault
    cases hfault
  obtain rfl : s = s' := Except.ok.inj (hload.symm.trans hs')
  refine ⟨own, (store.load read files home environment explicit shared).2, Prod.ext hown rfl,
    hkeeps, hmade.settings, ?_⟩
  intro read' files' home' environment' explicit' later
  have hshared' := (hkeeps.settings hin).trans hshared
  obtain ⟨hkeeps', hresult'⟩ := Store.yields_load (hkeeps.within hin) hshared' read' files' home'
    environment' explicit'
  refine ⟨hkeeps.trans hkeeps', (hkeeps'.settings hmade.within).trans hmade.settings, ?_⟩
  rcases hresult' with ⟨fault, hlater, hexpected⟩ | ⟨own', s', hlater, hexpected, hmade'⟩
  · rw [hlater, hexpected]
    rfl
  · rw [hlater, hexpected, ← hmade'.settings]
    rfl

/-- A list in the working directory, which is skipped, and settings in the home directory and
elsewhere. -/
def seasoned : Files :=
  .ofList [("lsl.yaml", .file "- a list".toUTF8),
    ("/home/annie/.lsl/config.yaml",
      .file "max_errors: 5\nprompt: '>> '\ngame_state:\n  health: 25".toUTF8),
    ("conf/dev.yaml", .file "show_groups: no".toUTF8)]

/-- The defaults as the only settings in a store. -/
def onlyDefaults : Store :=
  ⟨[defaultValues, defaultState]⟩

/-- The file that the environment names is used and no other, and without it the one in the home
directory is. -/
theorem load_layers_named_and_usual :
    (∃ s, (load seasoned "/home/annie" [("LSL_CONFIG", "conf//dev.yaml"), ("LSL_PROMPT", "? ")]
          none).2 = .ok s ∧
        s.path = some "conf/dev.yaml" ∧ s.get? "prompt" = some (.text "? ") ∧
        s.get? "show_groups" = some (.bool false) ∧ s.get? "max_errors" = some (.int 100) ∧
        Datum.get? (.text "health") s.gameState = some (.int 100)) ∧
      ∃ s own store', (load seasoned "/home/annie" [("LSL_PROMPT", "? ")] none).2 = .ok s ∧
        s.path = some "/home/annie/.lsl/config.yaml" ∧
        s.get? "prompt" = some (.text "? ") ∧ s.get? "max_errors" = some (.int 5) ∧
        s.get? "show_groups" = some (.bool true) ∧
        Datum.get? (.text "health") s.gameState = some (.int 25) ∧
        Datum.get? (.text "mana") s.gameState = some (.int 100) ∧
        onlyDefaults.load Yaml.read? seasoned "/home/annie" [("LSL_PROMPT", "? ")] none ⟨none, 0, 1⟩
          = (.ok own, store') ∧
        own.settings store' = s ∧ store'.get 0 = defaultValues ∧ store'.get 1 = defaultState := by
  have hlist : usable? Yaml.read? (seasoned "lsl.yaml") = none :=
    (usable?_file _ _).trans (Option.isNone_iff_eq_none.mp (by decide +kernel))
  have hdev : usable? Yaml.read? (seasoned "conf/dev.yaml") =
      some [(.text "show_groups", .bool false)] :=
    (usable?_file _ _).trans (by decide +kernel)
  have hhome : usable? Yaml.read? (seasoned "/home/annie/.lsl/config.yaml") =
      some [(.text "max_errors", .int 5), (.text "prompt", .text ">> "),
        (.text "game_state", .dict [(.text "health", .int 25)])] :=
    (usable?_file _ _).trans (by decide +kernel)
  constructor
  · have hpaths : LooksIn "/home/annie" [("LSL_CONFIG", "conf//dev.yaml"), ("LSL_PROMPT", "? ")]
        none ["conf/dev.yaml"] := by
      rw [show "conf/dev.yaml" = Path.normal "conf//dev.yaml" by decide +kernel]
      exact .named rfl (by decide)
    obtain ⟨s, hs, hpath, hlayered, hstate, -⟩ := load_layers Yaml.read? readsMappings_yaml seasoned
      hpaths fun path hmem => by
        rw [List.mem_singleton.mp hmem]
        refine ⟨not_barred_text _, fun entries hentries => ?_⟩
        rw [hdev] at hentries
        cases hentries
        exact .inl rfl
    rw [firstUsable?, List.findSome?_cons, hdev] at hpath hlayered hstate
    exact ⟨s, hs, hpath, (hlayered.get? rfl).trans (by decide +kernel),
      (hlayered.get? rfl).trans (by decide +kernel), (hlayered.get? rfl).trans (by decide +kernel),
      (hstate _).trans (by decide +kernel)⟩
  · have hpaths : LooksIn "/home/annie" [("LSL_PROMPT", "? ")] none
        ["lsl.yaml", "/home/annie/.lsl/config.yaml"] := by
      rw [show "/home/annie/.lsl/config.yaml" = Path.join "/home/annie" ".lsl/config.yaml" by
        decide +kernel]
      exact .usual fun path h => by cases h
    obtain ⟨s, hs, hpath, hlayered, hstate, hstore⟩ := load_layers Yaml.read? readsMappings_yaml
      seasoned hpaths fun path hmem => by
        rcases List.mem_cons.mp hmem with rfl | hmem
        · refine ⟨not_barred_text _, fun entries hentries => ?_⟩
          rw [hlist] at hentries
          cases hentries
        · rw [List.mem_singleton.mp hmem]
          refine ⟨not_barred_text _, fun entries hentries => ?_⟩
          rw [hhome] at hentries
          cases hentries
          exact .inr ⟨_, rfl⟩
    rw [firstUsable?, List.findSome?_cons, hlist, Option.map_none, List.findSome?_cons, hhome]
      at hpath hlayered hstate
    obtain ⟨own, store', hload, hkeeps, hown, -⟩ := hstore onlyDefaults ⟨none, 0, 1⟩
      ⟨by decide, by decide, by decide⟩ rfl
    exact ⟨s, own, store', hs, hpath, (hlayered.get? rfl).trans (by decide +kernel),
      (hlayered.get? rfl).trans (by decide +kernel), (hlayered.get? rfl).trans (by decide +kernel),
      (hstate _).trans (by decide +kernel), (hstate _).trans (by decide +kernel), hload, hown,
      hkeeps.get 0 (by decide), hkeeps.get 1 (by decide)⟩

end Settings
end RiftScript
