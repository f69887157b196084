/-
Where settings are looked for.

A path is told by where it starts and by the steps that it takes from there. Paths that agree in both
have one normal spelling, and that agrees with them. The file that settings are asked to come from is
the only candidate, and without one the file that the environment names is. Only if there is neither
are the working directory and the home directory looked into.
-/
import RiftScript.Settings

namespace RiftScript
namespace Path

/-! ## Pieces and steps -/

theorem pieces_ne_nil (cs : List Char) : pieces cs ≠ [] := by
  cases cs with
  | nil => exact List.cons_ne_nil _ _
  | cons c cs =>
    rw [pieces]
    split
    · exact List.cons_ne_nil _ _
    · intro h
      exact pieces_ne_nil cs (List.modifyHead_eq_nil_iff.mp h)

theorem pieces_append_slash (cs ds : List Char) :
    pieces (cs ++ '/' :: ds) = pieces cs ++ pieces ds := by
  induction cs with
  | nil => rfl
  | cons c cs ih =>
    rw [List.cons_append, pieces, pieces, ih]
    split
    · rfl
    · rcases List.exists_cons_of_ne_nil (pieces_ne_nil cs) with ⟨first, rest, hpieces⟩
      rw [hpieces]
      rfl

theorem pieces_of_not_mem {cs : List Char} (h : '/' ∉ cs) : pieces cs = [cs] := by
  induction cs with
  | nil => rfl
  | cons c cs ih =>
    rw [List.mem_cons, not_or] at h
    rw [pieces, if_neg (Ne.symm h.1), ih h.2]
    rfl

theorem not_mem_of_mem_pieces {cs piece : List Char} (h : piece ∈ pieces cs) : '/' ∉ piece := by
  induction cs generalizing piece with
  | nil =>
    rw [List.mem_singleton.mp h]
    exact List.not_mem_nil
  | cons c cs ih =>
    rw [pieces] at h
    rcases List.exists_cons_of_ne_nil (pieces_ne_nil cs) with ⟨first, rest, hpieces⟩
    rw [hpieces] at h ih
    split at h
    · rcases List.mem_cons.mp h with rfl | h
      · exact List.not_mem_nil
      · exact ih h
    · next hc =>
      rcases List.mem_cons.mp h with rfl | h
      · rw [List.mem_cons, not_or]
        exact ⟨Ne.symm hc, ih List.mem_cons_self⟩
      · exact ih (List.mem_cons_of_mem _ h)

/-- A step that leads somewhere: no slash in it, not empty and not idle. -/
structure IsStep (step : String) : Prop where
  slash : '/' ∉ step.toList
  nonempty : step ≠ ""
  dot : step ≠ "."

theorem isStep_of_mem_steps {path step : String} (h : step ∈ steps path) : IsStep step := by
  obtain ⟨hpart, hstep⟩ := List.mem_filter.mp h
  obtain ⟨piece, hpiece, rfl⟩ := List.mem_map.mp hpart
  rw [Bool.and_eq_true, bne_iff_ne, bne_iff_ne] at hstep
  refine ⟨?_, hstep.1, hstep.2⟩
  rw [String.toList_ofList]
  exact not_mem_of_mem_pieces hpiece

theorem steps_append_slash (a b : String) : steps (a ++ "/" ++ b) = steps a ++ steps b := by
  have htoList : (a ++ "/" ++ b).toList = a.toList ++ '/' :: b.toList := by
    rw [String.toList_append, String.toList_append, List.append_assoc]
    rfl
  rw [steps, parts, htoList, pieces_append_slash, List.map_append, List.filter_append]
  rfl

theorem steps_slash (path : String) : steps ("/" ++ path) = steps path :=
  steps_append_slash "" path

theorem steps_of_isStep {step : String} (h : IsStep step) : steps step = [step] := by
  rw [steps, parts, pieces_of_not_mem h.slash, List.map_singleton, String.ofList_toList]
  simp [h.nonempty, h.dot]

theorem steps_intercalate {ss : List String} (h : ∀ step ∈ ss, IsStep step) :
    steps ("/".intercalate ss) = ss := by
  induction ss with
  | nil => rfl
  | cons step ss ih =>
    obtain ⟨hstep, hss⟩ := List.forall_mem_cons.mp h
    cases ss with
    | nil => rw [String.intercalate_singleton, steps_of_isStep hstep]
    | cons next ss =>
      rw [String.intercalate_cons_cons, steps_append_slash, steps_of_isStep hstep, ih hss]
      rfl

/-! ## Where paths start -/

theorem root_cases (path : String) : root path = "" ∨ root path = "/" ∨ root path = "//" := by
  unfold root
  split
  · exact .inl rfl
  · exact .inr (.inr rfl)
  · exact .inr (.inl rfl)

theorem takeWhile_of_head? {cs : List Char} (h : cs.head? ≠ some '/') :
    cs.takeWhile (· == '/') = [] := by
  cases cs with
  | nil => rfl
  | cons c cs =>
    rw [List.takeWhile_cons_of_neg]
    intro hc
    exact h (congrArg some (eq_of_beq hc))

/-- Where a path starts is told by a first part of it that does not end amid slashes. -/
theorem root_append {path rest : String} (hpath : path ≠ "")
    (h : path.toList.getLast? ≠ some '/' ∨ rest.toList.head? ≠ some '/') :
    root (path ++ rest) = root path := by
  have hslashes : (path ++ rest).toList.takeWhile (· == '/') = path.toList.takeWhile (· == '/') := by
    rw [String.toList_append, List.takeWhile_append]
    split
    · next hall =>
      have hall := List.takeWhile_sublist (· == '/') |>.eq_of_length hall
      have hlast : path.toList.getLast? = some '/' := by
        have hne : path.toList ≠ [] := fun hnil => hpath (String.toList_eq_nil_iff.mp hnil)
        have hmem : path.toList.getLast hne ∈ path.toList.takeWhile (· == '/') := by
          rw [hall]
          exact List.getLast_mem hne
        have hslash := List.all_eq_true.mp List.all_takeWhile _ hmem
        rw [List.getLast?_eq_some_getLast hne, eq_of_beq hslash]
      rw [takeWhile_of_head? (h.resolve_left fun hne => hne hlast), List.append_nil, hall]
    · rfl
  rw [root, hslashes, root]

/-! ## Normal paths -/

theorem normal_cases (path : String) :
    normal path = root path ++ "/".intercalate (steps path) ∨
      normal path = "." ∧ root path ++ "/".intercalate (steps path) = "" := by
  unfold normal
  dsimp only
  split
  · next hempty => exact .inr ⟨rfl, String.isEmpty_iff.mp hempty⟩
  · exact .inl rfl

theorem steps_root_append (path rest : String) : steps (root path ++ rest) = steps rest := by
  rcases root_cases path with h | h | h
  · rw [h, String.empty_append]
  · rw [h, steps_slash]
  · rw [h, show "//" = "/" ++ "/" from rfl, String.append_assoc, steps_slash, steps_slash]

/-- Normal paths take the same steps. -/
theorem steps_normal (path : String) : steps (normal path) = steps path := by
  have hsteps : steps (root path ++ "/".intercalate (steps path)) = steps path := by
    rw [steps_root_append]
    exact steps_intercalate fun _ => isStep_of_mem_steps
  rcases normal_cases path with h | ⟨h, hempty⟩
  · rw [h, hsteps]
  · rw [h]
    rw [hempty] at hsteps
    exact hsteps

theorem head?_intercalate {ss : List String} (h : ∀ step ∈ ss, IsStep step) :
    ("/".intercalate ss).toList.head? ≠ some '/' := by
  cases ss with
  | nil => decide
  | cons step ss =>
    obtain ⟨hstep, -⟩ := List.forall_mem_cons.mp h
    have hfirst : ∃ rest, ("/".intercalate (step :: ss)).toList = step.toList ++ rest := by
      cases ss with
      | nil => exact ⟨[], by rw [String.intercalate_singleton, List.append_nil]⟩
      | cons next ss =>
        rw [String.intercalate_cons_cons, String.toList_append, String.toList_append,
          List.append_assoc]
        exact ⟨_, rfl⟩
    obtain ⟨rest, hrest⟩ := hfirst
    rw [hrest]
    have hslash := hstep.slash
    cases hcs : step.toList with
    | nil => exact absurd (String.toList_eq_nil_iff.mp hcs) hstep.nonempty
    | cons c cs =>
      rw [hcs, List.mem_cons, not_or] at hslash
      exact fun hc => hslash.1 (Option.some.inj hc).symm

/-- Normal paths start where they started. -/
theorem root_normal (path : String) : root (normal path) = root path := by
  have hhead : ("/".intercalate (steps path)).toList.head? ≠ some '/' :=
    head?_intercalate fun _ => isStep_of_mem_steps
  have hroot : root (root path ++ "/".intercalate (steps path)) = root path := by
    rcases root_cases path with h | h | h
    · rw [h, String.empty_append, root, takeWhile_of_head? hhead]
      rfl
    · rw [h, root_append (by decide) (.inr hhead)]
      rfl
    · rw [h, root_append (by decide) (.inr hhead)]
      rfl
  rcases normal_cases path with h | ⟨h, hempty⟩
  · rw [h, hroot]
  · rw [h]
    rw [hempty] at hroot
    exact hroot

/-- One spelling stands for all paths that start in one place and take the same steps. -/
theorem normal_eq_iff {a b : String} :
    normal a = normal b ↔ root a = root b ∧ steps a = steps b := by
  constructor
  · intro h
    rw [← root_normal a, ← steps_normal a, h, root_normal, steps_normal]
    exact ⟨rfl, rfl⟩
  · rintro ⟨hroot, hsteps⟩
    rw [normal, normal, hroot, hsteps]

/-! ## Joined paths -/

theorem eq_append_slash {path : String} (h : path.toList.getLast? = some '/') :
    ∃ front, path = front ++ "/" := by
  obtain ⟨cs, hcs⟩ := List.getLast?_eq_some_iff.mp h
  refine ⟨String.ofList cs, String.toList_injective ?_⟩
  rw [hcs, String.toList_append, String.toList_ofList]
  rfl

/-- A file in a directory is reached by the steps to the directory and those from there on. -/
theorem steps_join (directory file : String) :
    steps (join directory file) = steps directory ++ steps file := by
  unfold join
  split
  · next hempty =>
    rw [List.getLast?_eq_none_iff, String.toList_eq_nil_iff] at hempty
    rw [hempty, steps_normal, String.empty_append]
    rfl
  · next hslash =>
    obtain ⟨front, rfl⟩ := eq_append_slash hslash
    have hfront : steps (front ++ "/") = steps front := by
      have h := steps_append_slash front ""
      rw [String.append_empty] at h
      exact h.trans (List.append_nil _)
    rw [steps_normal, steps_append_slash, hfront]
  · rw [steps_normal, steps_append_slash]

/-- A file in a directory is looked for from where the directory is. -/
theorem root_join {directory file : String} (hdirectory : directory ≠ "")
    (hfile : file.toList.head? ≠ some '/') : root (join directory file) = root directory := by
  unfold join
  split
  · next hempty =>
    rw [List.getLast?_eq_none_iff, String.toList_eq_nil_iff] at hempty
    exact absurd hempty hdirectory
  · rw [root_normal, root_append hdirectory (.inr hfile)]
  · next hslash =>
    rw [root_normal, String.append_assoc, root_append hdirectory (.inl hslash)]

end Path

namespace Settings

/-! ## Candidates -/

/-- Where settings are looked for: in the file that is asked for, else in the one that the environment
names, else in the working directory and then in the home directory. -/
inductive LooksIn (home : String) (environment : Environment) : Option String → List String → Prop
  | asked (path : String) : LooksIn home environment (some path) [Path.normal path]
  | named {path : String} (hname : environment.lookup "LSL_CONFIG" = some path)
      (hpath : path ≠ "") : LooksIn home environment none [Path.normal path]
  | usual (hname : ∀ path, environment.lookup "LSL_CONFIG" = some path → path = "") :
      LooksIn home environment none ["lsl.yaml", Path.join home ".lsl/config.yaml"]

/-- There is one list of candidates, and `candidates` gives it. -/
theorem looksIn_iff {home : String} {environment : Environment} {explicit : Option String}
    {paths : List String} :
    LooksIn home environment explicit paths ↔ paths = candidates home environment explicit := by
  constructor
  · intro h
    cases h with
    | asked path => rfl
    | named hname hpath =>
      rw [candidates, hname]
      exact (if_neg fun hempty => hpath (String.isEmpty_iff.mp hempty)).symm
    | usual hname =>
      rw [candidates]
      split
      · next path hlookup => rw [if_pos (String.isEmpty_iff.mpr (hname path hlookup))]
      · rfl
  · rintro rfl
    unfold candidates
    split
    · exact .asked _
    · split
      · next path hlookup =>
        split
        · next hempty =>
          refine .usual fun path' hlookup' => ?_
          rw [← Option.some.inj (hlookup.symm.trans hlookup')]
          exact String.isEmpty_iff.mp hempty
        · next hempty => exact .named hlookup fun h => hempty (String.isEmpty_iff.mpr h)
      · next hlookup =>
        refine .usual fun path' hlookup' => ?_
        rw [hlookup] at hlookup'
        cases hlookup'

end Settings
end RiftScript
