/-
Registries as replays.

A registry comes about by declaring champions one after another. What it then holds can be told from
the declarations alone: every name once, where it was first declared, and under it the champion that
was declared last.
-/
import Mathlib.Data.List.Induction
import RiftScript.Eval.Registry

namespace RiftScript
namespace Registry

/-- Declare champions one after another. -/
def replay (r : Registry) (declared : List Champion) : Registry :=
  declared.foldl register r

theorem replay_append (r : Registry) (ds es : List Champion) :
    r.replay (ds ++ es) = (r.replay ds).replay es :=
  List.foldl_append

theorem replay_concat (r : Registry) (ds : List Champion) (d : Champion) :
    r.replay (ds ++ [d]) = (r.replay ds).register d := by
  rw [replay_append]
  rfl

/-! ## One declaration -/

theorem map_key_place (c : Champion) (ds : List Champion) :
    (place c ds).map Champion.key =
      if c.key ∈ ds.map Champion.key then ds.map Champion.key
      else ds.map Champion.key ++ [c.key] := by
  induction ds with
  | nil => rfl
  | cons d ds ih =>
    rw [place]
    by_cases hkey : d.key = c.key
    · simp [hkey]
    · rw [if_neg hkey, List.map_cons, List.map_cons, ih]
      by_cases hmem : c.key ∈ ds.map Champion.key
      · rw [if_pos hmem, if_pos (List.mem_cons_of_mem _ hmem)]
      · have hmem' : c.key ∉ d.key :: ds.map Champion.key :=
          List.not_mem_cons_of_ne_of_not_mem (Ne.symm hkey) hmem
        rw [if_neg hmem, if_neg hmem', List.cons_append]

/-- A name that is declared again keeps its place. -/
theorem names_register (r : Registry) (c : Champion) :
    (r.register c).names = if c.key ∈ r.names then r.names else r.names ++ [c.key] :=
  map_key_place c r.champions

theorem find?_place (c : Champion) (name : String) (ds : List Champion) :
    (place c ds).find? (·.key == name) =
      if c.key = name then some c else ds.find? (·.key == name) := by
  induction ds with
  | nil =>
    by_cases hname : c.key = name <;> simp [place, hname]
  | cons d ds ih =>
    rw [place]
    by_cases hkey : d.key = c.key
    · rw [if_pos hkey]
      by_cases hname : c.key = name
      · simp [hname]
      · simp [hkey, hname]
    · rw [if_neg hkey, List.find?_cons, ih, List.find?_cons]
      by_cases hname : c.key = name
      · have hother : (d.key == name) = false := by
          rw [← hname]
          exact beq_eq_false_iff_ne.mpr hkey
        rw [if_pos hname, if_pos hname, hother]
      · rw [if_neg hname, if_neg hname]

/-- The last declaration of a name counts. -/
theorem get?_register (r : Registry) (c : Champion) (name : String) :
    (r.register c).get? name = if c.key = name then some c else r.get? name :=
  find?_place c name r.champions

/-! ## All declarations -/

theorem eraseDups_concat (names : List String) (name : String) :
    (names ++ [name]).eraseDups =
      if name ∈ names then names.eraseDups else names.eraseDups ++ [name] := by
  rw [List.eraseDups_append]
  by_cases hname : name ∈ names
  · simp [List.removeAll, hname]
  · simp [List.removeAll, hname, List.eraseDups_cons]

theorem names_replay (declared : List Champion) :
    (empty.replay declared).names = (declared.map Champion.key).eraseDups := by
  induction declared using List.reverseRecOn with
  | nil => rfl
  | append_singleton ds d ih =>
    rw [replay_concat, names_register, ih, List.map_append, List.map_singleton, eraseDups_concat]
    simp only [List.mem_eraseDups]

theorem nodup_names_replay (declared : List Champion) : (empty.replay declared).names.Nodup := by
  induction declared using List.reverseRecOn with
  | nil => exact List.nodup_nil
  | append_singleton ds d ih =>
    rw [replay_concat, names_register]
    split
    · exact ih
    · next hmem =>
      refine List.nodup_append.mpr ⟨ih, by simp, ?_⟩
      rintro name hname _ hd rfl
      exact hmem (List.mem_singleton.mp hd ▸ hname)

theorem get?_replay (declared : List Champion) (name : String) :
    (empty.replay declared).get? name = declared.reverse.find? (·.key == name) := by
  induction declared using List.reverseRecOn with
  | nil => rfl
  | append_singleton ds d ih =>
    rw [replay_concat, get?_register, ih, List.reverse_append, List.reverse_singleton,
      List.singleton_append]
    by_cases hname : d.key = name
    · rw [if_pos hname, List.find?_cons_of_pos (by simp [hname])]
    · rw [if_neg hname, List.find?_cons_of_neg (by simp [hname])]

/-- Where no two champions have the same name, each is found under its own. -/
theorem map_find?_key {ds : List Champion} (h : (ds.map Champion.key).Nodup) :
    ds.map some = (ds.map Champion.key).map fun name => ds.find? (·.key == name) := by
  rw [List.map_map]
  refine List.map_congr_left fun d hd => ?_
  rw [Function.comp_apply]
  induction ds with
  | nil => cases hd
  | cons e ds ih =>
    rw [List.map_cons, List.nodup_cons] at h
    rw [List.find?_cons]
    rcases List.mem_cons.mp hd with rfl | hd
    · simp
    · have hother : (e.key == d.key) = false := by
        refine beq_eq_false_iff_ne.mpr fun hkey => h.1 ?_
        rw [hkey]
        exact List.mem_map_of_mem hd
      rw [hother]
      exact ih h.2 hd

/-- The registry is what the declarations make of an empty one, in every respect in which it can be
looked at. -/
structure Replays (r : Registry) (declared : List Champion) : Prop where
  eq_replay : r = empty.replay declared
  /-- Each name is listed in the order of its first declaration. -/
  names_eq : r.names = (declared.map Champion.key).eraseDups
  nodup_names : r.names.Nodup
  /-- Under each name is the champion that was declared last. -/
  get?_eq : ∀ name, r.get? name = declared.reverse.find? (·.key == name)
  key_eq : ∀ name c, r.get? name = some c → c.name.lexeme = name
  size_eq : r.size = r.names.length
  /-- The champions come in the order of their names. -/
  champions_eq : r.champions.map some = r.names.map r.get?
  contains_iff : ∀ name, r.contains name = true ↔ name ∈ r.names

theorem replays_replay (declared : List Champion) : (empty.replay declared).Replays declared where
  eq_replay := rfl
  names_eq := names_replay declared
  nodup_names := nodup_names_replay declared
  get?_eq := get?_replay declared
  key_eq name c h := beq_iff_eq.mp (List.find?_some (p := fun c : Champion => c.key == name) h)
  size_eq := (List.length_map Champion.key).symm
  champions_eq := map_find?_key (nodup_names_replay declared)
  contains_iff name := by simp [contains, names]

end Registry
end RiftScript
