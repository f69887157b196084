/-
The layers of settings.

The environment stands over the settings file, and the file over the defaults. A setting comes from
the uppermost layer that has it. The game state is a mapping of its own with two layers, the file and
the defaults.
-/
import RiftScript.Proofs.Settings.Keys

namespace RiftScript
namespace Settings

open Datum (DistinctKeys WellKeyed)

/-! ## The environment -/

/-- The setting at a key as the environment has it, if the variable for it is set. -/
def override? (environment : Environment) (key : Datum) : Option Datum :=
  (overrides.find? fun o => key.isText o.2.1).bind fun o => (environment.lookup o.1).map o.2.2

/-- Each setting has one variable. -/
theorem overrides_pairwise : overrides.Pairwise fun o o' => o.2.1 ≠ o'.2.1 := by
  decide

theorem isTextual_of_mem_fromEnvironment {environment : Environment} {e : Datum × Datum}
    (h : e ∈ fromEnvironment environment) : e.1.isTextual = true := by
  obtain ⟨o, -, ho⟩ := List.mem_filterMap.mp h
  obtain ⟨text, -, rfl⟩ := Option.map_eq_some_iff.mp ho
  rfl

theorem distinctKeys_fromEnvironment (environment : Environment) :
    DistinctKeys (fromEnvironment environment) := by
  rw [DistinctKeys, fromEnvironment, List.map_filterMap, List.pairwise_filterMap]
  refine overrides_pairwise.imp ?_
  intro o o' hne a ha b hb
  obtain ⟨e, he, rfl⟩ := Option.map_eq_some_iff.mp ha
  obtain ⟨_, -, rfl⟩ := Option.map_eq_some_iff.mp he
  obtain ⟨f, hf, rfl⟩ := Option.map_eq_some_iff.mp hb
  obtain ⟨_, -, rfl⟩ := Option.map_eq_some_iff.mp hf
  rw [Datum.sameKey_text]
  exact beq_false_of_ne hne

/-- The entry for a variable is found if the variable is set. -/
theorem get?_filterMap_lookup {os : List (String × String × (String → Datum))}
    (hos : os.Pairwise fun o o' => o.2.1 ≠ o'.2.1) (environment : Environment) (key : Datum) :
    Datum.get? key (os.filterMap fun o =>
        (environment.lookup o.1).map fun text => (Datum.text o.2.1, o.2.2 text))
      = (os.find? fun o => key.isText o.2.1).bind fun o =>
          (environment.lookup o.1).map o.2.2 := by
  induction os with
  | nil => rfl
  | cons o os ih =>
    obtain ⟨hne, hos⟩ := List.pairwise_cons.mp hos
    have ih := ih hos
    rw [List.filterMap_cons, List.find?_cons]
    by_cases hkey : key.isText o.2.1 = true
    · -- No later variable is for the same setting.
      have hlater : Datum.get? key (os.filterMap fun o =>
          (environment.lookup o.1).map fun text => (Datum.text o.2.1, o.2.2 text)) = none := by
        refine Datum.get?_eq_none fun e he => ?_
        obtain ⟨o', ho', he⟩ := List.mem_filterMap.mp he
        obtain ⟨text, -, rfl⟩ := Option.map_eq_some_iff.mp he
        rw [Datum.isText_iff.mp hkey, Datum.sameKey_text]
        exact beq_false_of_ne (hne o' ho').symm
      simp only [hkey, Option.bind_some]
      cases environment.lookup o.1 with
      | none => exact hlater
      | some text =>
        simp only [Option.map_some, Datum.get?_cons, Datum.text_sameKey, hkey, if_true]
    · simp only [hkey]
      cases environment.lookup o.1 with
      | none => exact ih
      | some text =>
        simp only [Option.map_some, Datum.get?_cons, Datum.text_sameKey, hkey]
        exact ih

theorem get?_fromEnvironment (environment : Environment) (key : Datum) :
    Datum.get? key (fromEnvironment environment) = override? environment key :=
  get?_filterMap_lookup overrides_pairwise environment key

/-! ## The file -/

/-- The entries of the file that is used, and none if no file is. -/
def entriesOf (found : Option (String × Entries)) : Entries :=
  (found.map Prod.snd).getD []

/-- The game state that a file describes by a mapping. -/
def stateOf (entries : Entries) : Entries :=
  match stateSetting entries with
  | .dict state => state
  | _ => []

/-- The file says nothing about the game state, or describes it by a mapping. -/
def PlainState (entries : Entries) : Prop :=
  (stateSetting entries).truthy = false ∨ ∃ state, stateSetting entries = .dict state

theorem stateEntries_of_plainState {entries : Entries} (h : PlainState entries) :
    stateEntries (stateSetting entries) = .ok (stateOf entries) := by
  rw [PlainState] at h
  unfold stateOf stateEntries
  generalize stateSetting entries = d at h ⊢
  cases d with
  | dict state =>
    cases state with
    | nil => rfl
    | cons e state => rfl
  | _ =>
    rcases h with h | ⟨state, h⟩
    · rw [h]
      rfl
    · cases h

theorem get?_withoutState {key : Datum} (hkey : key.isText "game_state" = false)
    (entries : Entries) : Datum.get? key (withoutState entries) = Datum.get? key entries := by
  refine Datum.get?_filter fun e _ hsame => ?_
  rw [Bool.not_eq_true', Bool.eq_false_iff]
  intro he
  rw [Datum.isText_iff.mp he, Datum.text_sameKey, hkey] at hsame
  cases hsame

theorem get?_withoutState_state (entries : Entries) :
    Datum.get? (.text "game_state") (withoutState entries) = none := by
  refine Datum.get?_eq_none fun e he => ?_
  rw [Datum.sameKey_text]
  exact (Bool.not_eq_true' _).mp (List.mem_filter.mp he).2

theorem distinctKeys_withoutState {entries : Entries} (h : DistinctKeys entries) :
    DistinctKeys (withoutState entries) :=
  h.sublist (List.filter_sublist.map Prod.fst)

theorem distinctKeys_of_wellKeyed {entries : Entries} (h : WellKeyed (.dict entries)) :
    DistinctKeys entries := by
  cases h with
  | scalar h => cases h
  | dict hkeys _ => exact hkeys

/-- Neither the settings that the reader gives nor a mapping for the game state among them has one key
twice. -/
def ReadsMappings (read : String → Option Datum) : Prop :=
  ∀ text entries, read text = some (.dict entries) →
    DistinctKeys entries ∧ ∀ state, stateSetting entries = .dict state → DistinctKeys state

theorem readsMappings_yaml : ReadsMappings Yaml.read? := by
  intro text entries hread
  have hkeyed := Yaml.wellKeyed_read? hread
  refine ⟨distinctKeys_of_wellKeyed hkeyed, fun state hstate => ?_⟩
  rw [stateSetting, Datum.lookup] at hstate
  cases hfind : entries.find? fun e => e.1.isText "game_state" with
  | none =>
    rw [hfind] at hstate
    cases hstate
  | some e =>
    rw [hfind] at hstate
    cases hkeyed with
    | scalar h => cases h
    | dict _ hvalues =>
      have he := hvalues e (List.mem_of_find?_eq_some hfind)
      rw [show e.2 = .dict state from hstate] at he
      exact distinctKeys_of_wellKeyed he

/-! ## All layers -/

theorem isTextual_defaultValues : ∀ e ∈ defaultValues, e.1.isTextual = true :=
  List.all_eq_true.mp rfl

theorem isTextual_defaultState : ∀ e ∈ defaultState, e.1.isTextual = true :=
  List.all_eq_true.mp rfl

theorem get?_all {s : Settings} {key : Datum} (hkey : key.isText "game_state" = false) :
    Datum.get? key s.all = Datum.get? key s.values := by
  rw [all, Datum.get?_append, Datum.get?_cons, Datum.text_sameKey, hkey]
  exact Option.or_none

theorem get?_state {s : Settings} (h : Datum.get? (.text "game_state") s.values = none) :
    s.get? "game_state" = some (.dict s.gameState) := by
  rw [get?, ← Datum.get?_text, all, Datum.get?_append, h]
  rfl

/-- The settings other than the game state come from the environment, the file and the defaults. -/
structure Layered (environment : Environment) (entries : Entries) (s : Settings) : Prop where
  value : ∀ key : Datum, key.isText "game_state" = false →
    Datum.get? key s.all = (override? environment key).or
      ((Datum.get? key entries).or (Datum.get? key defaultValues))
  state : s.get? "game_state" = some (.dict s.gameState)

theorem Layered.get? {environment : Environment} {entries : Entries} {s : Settings}
    (h : Layered environment entries s) {key : String}
    (hkey : (Datum.text key).isText "game_state" = false) :
    s.get? key = (override? environment (.text key)).or
      ((Datum.get? (.text key) entries).or (Datum.get? (.text key) defaultValues)) := by
  rw [Settings.get?, ← Datum.get?_text]
  exact h.value (.text key) hkey

theorem layered_of_values {environment : Environment} {entries : Entries} {s : Settings}
    (hentries : DistinctKeys entries)
    (hs : s.values = overlay (overlay defaultValues (withoutState entries))
      (fromEnvironment environment)) : Layered environment entries s := by
  have hvalues : ∀ key, Datum.get? key s.values = (override? environment key).or
      ((Datum.get? key (withoutState entries)).or (Datum.get? key defaultValues)) := by
    intro key
    rw [hs, get?_overlay (distinctKeys_fromEnvironment environment)
        (.inr fun _ => isTextual_of_mem_fromEnvironment),
      get?_overlay (distinctKeys_withoutState hentries) (.inl isTextual_defaultValues),
      get?_fromEnvironment]
  constructor
  · intro key hkey
    rw [get?_all hkey, hvalues, get?_withoutState hkey]
  · apply get?_state
    rw [hvalues, get?_withoutState_state]
    rfl

/-- Where settings can be put together, they stand in their layers. -/
theorem layered_of_withFound {found : Option (String × Entries)} {s : Settings}
    (hfound : DistinctKeys (entriesOf found)) (h : defaults.withFound found = .ok s)
    (environment : Environment) :
    s.path = found.map Prod.fst ∧
      Layered environment (entriesOf found) (s.withEnvironment environment) := by
  cases found with
  | none =>
    obtain rfl := Except.ok.inj h
    exact ⟨rfl, layered_of_values hfound rfl⟩
  | some file =>
    rw [withFound, withFile] at h
    cases hstate : stateEntries (stateSetting file.2) with
    | error fault =>
      rw [hstate] at h
      cases h
    | ok state =>
      rw [hstate] at h
      obtain rfl := Except.ok.inj h
      exact ⟨rfl, layered_of_values hfound rfl⟩

/-- The game state comes from the file and the defaults. -/
def StateLayered (entries : Entries) (s : Settings) : Prop :=
  ∀ key : Datum, Datum.get? key s.gameState
    = (Datum.get? key (stateOf entries)).or (Datum.get? key defaultState)

/-- With a plain game state the settings can be put together. -/
theorem exists_withFound {found : Option (String × Entries)}
    (hplain : PlainState (entriesOf found)) :
    ∃ s, defaults.withFound found = .ok s ∧
      s.gameState = overlay defaultState (stateOf (entriesOf found)) := by
  cases found with
  | none => exact ⟨defaults, rfl, rfl⟩
  | some file =>
    have hstate := stateEntries_of_plainState hplain
    rw [entriesOf, Option.map_some, Option.getD_some] at hstate
    refine ⟨⟨some file.1, overlay defaultValues (withoutState file.2),
      overlay defaultState (stateOf file.2)⟩, ?_, rfl⟩
    rw [withFound, withFile, hstate]
    rfl

theorem stateLayered_of_withFound {found : Option (String × Entries)} {s : Settings}
    {environment : Environment} (hplain : PlainState (entriesOf found))
    (hstate : DistinctKeys (stateOf (entriesOf found))) (h : defaults.withFound found = .ok s) :
    StateLayered (entriesOf found) (s.withEnvironment environment) := by
  obtain ⟨s', hs', hgameState⟩ := exists_withFound hplain
  obtain rfl : s = s' := Except.ok.inj (h.symm.trans hs')
  intro key
  show Datum.get? key s.gameState = _
  rw [hgameState, get?_overlay hstate (.inl isTextual_defaultState)]

end Settings
end RiftScript
