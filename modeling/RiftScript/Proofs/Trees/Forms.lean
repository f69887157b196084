/-
Forms.

A form is an atom or a list of forms. A list is written in parentheses, with a space between its
members, and several forms can be written one after another with some other sign between them. The
text of a form can be read back where every atom is a word without spaces, quotes and parentheses,
or a stretch in quotes, whatever that holds: the text shows where each atom ends, so no two forms
have the same text.
-/
import RiftScript.Proofs.Trees.Words

namespace RiftScript

inductive Form where
  | atom (text : String)
  | list (items : List Form)

namespace Form

mutual

def text : Form → String
  | atom t => t
  | list items => "(" ++ " ".intercalate (texts items) ++ ")"

def texts : List Form → List String
  | [] => []
  | f :: fs => f.text :: texts fs

end

/-- The signs that a word must not hold. -/
def marks : List Char :=
  [' ', '\n', '"', '(', ')']

/-- The text of an atom without quotes. -/
structure Bare (cs : List Char) : Prop where
  ne_nil : cs ≠ []
  unmarked : ∀ c ∈ cs, c ∉ marks

def Quoted (cs : List Char) : Prop :=
  ∃ body, '"' ∉ body ∧ cs = '"' :: body ++ ['"']

mutual

/-- Every atom is a word or stands in quotes. -/
def Clear : Form → Prop
  | atom t => Bare t.toList ∨ Quoted t.toList
  | list items => AllClear items

def AllClear : List Form → Prop
  | [] => True
  | f :: fs => f.Clear ∧ AllClear fs

end

/-! ## What stands after a form -/

/-- The text after a form is empty or starts with a sign that closes an atom. -/
def Closes (rest : List Char) : Prop :=
  ∀ c ∈ rest.head?, c ∈ [' ', '\n', ')']

/-- The text after the last of several forms is empty or starts with a parenthesis. -/
def Ends (rest : List Char) : Prop :=
  ∀ c ∈ rest.head?, c = ')'

theorem Ends.closes {rest : List Char} (h : Ends rest) : Closes rest := by
  intro c hc
  rw [h c hc]
  decide

theorem ends_parenthesis (rest : List Char) : Ends (')' :: rest) := by
  intro c hc
  exact (Option.some.inj hc).symm

theorem Ends.ne_separator {rest : List Char} (h : Ends rest) {c : Char} (hc : c ∈ [' ', '\n'])
    (cs : List Char) : rest ≠ c :: cs := by
  rintro rfl
  rw [h c rfl] at hc
  exact absurd hc (by decide)

theorem closes_cons {c : Char} (hc : c ∈ [' ', '\n']) (rest : List Char) : Closes (c :: rest) := by
  intro d hd
  obtain rfl : c = d := Option.some.inj hd
  exact List.subset_append_left [' ', '\n'] [')'] hc

/-- The texts that follow the first one, each with a separator in front of it. -/
def behind (separator : Char) (ts : List String) : List Char :=
  ts.flatMap fun t => separator :: t.toList

theorem behind_cons (separator : Char) (t : String) (ts : List String) :
    behind separator (t :: ts) = separator :: (t.toList ++ behind separator ts) :=
  List.flatMap_cons

theorem closes_behind {c : Char} (hc : c ∈ [' ', '\n']) (ts : List String) {rest : List Char}
    (hrest : Ends rest) : Closes (behind c ts ++ rest) := by
  cases ts with
  | nil => exact hrest.closes
  | cons t ts =>
    rw [behind_cons]
    exact closes_cons hc _

theorem toList_intercalate_cons {separator : String} {c : Char} (hc : separator.toList = [c])
    (t : String) (ts : List String) :
    (separator.intercalate (t :: ts)).toList = t.toList ++ behind c ts := by
  rw [String.toList_intercalate, hc]
  induction ts generalizing t with
  | nil => simp [behind]
  | cons u us ih =>
    rw [List.map_cons, List.map_cons, List.intercalate_cons_cons, ← List.map_cons, ih u,
      behind_cons]
    simp

/-! ## Reading forms back -/

theorem Bare.opens {cs : List Char} (h : Bare cs) : ∃ c ds, cs = c :: ds ∧ c ∉ marks := by
  obtain ⟨c, ds, rfl⟩ := List.exists_cons_of_ne_nil h.ne_nil
  exact ⟨c, ds, rfl, h.unmarked c List.mem_cons_self⟩

/-- What a list is written as, up to the parenthesis that closes it. -/
theorem toList_text_list (fs : List Form) (rest : List Char) :
    (list fs).text.toList ++ rest
      = '(' :: ((" ".intercalate (texts fs)).toList ++ ')' :: rest) := by
  rw [text]
  simp

/-- No form is written as nothing, and none starts with a sign that closes an atom. -/
theorem Clear.opens {f : Form} (h : f.Clear) :
    ∃ c cs, f.text.toList = c :: cs ∧ c ∉ [' ', '\n', ')'] := by
  cases f with
  | list fs =>
    refine ⟨'(', (" ".intercalate (texts fs)).toList ++ [')'], ?_, by decide⟩
    rw [← List.append_nil (list fs).text.toList, toList_text_list]
  | atom t =>
    rcases h with hbare | ⟨body, _, ht⟩
    · obtain ⟨c, cs, ht, hc⟩ := hbare.opens
      refine ⟨c, cs, ht, fun hmem => hc ?_⟩
      exact (show [' ', '\n', ')'] ⊆ marks by decide) hmem
    · exact ⟨'"', _, ht, by decide⟩

/-- What closes an atom is not the start of a form. -/
theorem Clear.not_closes {f : Form} (h : f.Clear) (cs : List Char) {rest : List Char}
    (hrest : Closes rest) : rest ≠ f.text.toList ++ cs := by
  obtain ⟨c, ds, hf, hc⟩ := h.opens
  rintro rfl
  exact hc (hrest c (by simp [hf]))

theorem atom_append_inj {t u : String} {rest rest' : List Char} (ht : (atom t).Clear)
    (hu : (atom u).Clear) (hrest : Closes rest) (hrest' : Closes rest')
    (h : t.toList ++ rest = u.toList ++ rest') : t = u ∧ rest = rest' := by
  rcases ht with ht | ⟨body, hbody, ht⟩ <;> rcases hu with hu | ⟨body', hbody', hu⟩
  · have hclosing : [' ', '\n', ')'] ⊆ marks := by decide
    have hsame := word_append_inj (fun c hc hd => ht.unmarked c hc (hclosing hd))
      (fun c hc hd => hu.unmarked c hc (hclosing hd)) hrest hrest' h
    exact ⟨String.ext hsame.1, hsame.2⟩
  · obtain ⟨c, cs, hc, hmark⟩ := ht.opens
    rw [hc, hu] at h
    exact absurd ((List.cons.inj h).1 ▸ hmark) (by decide)
  · obtain ⟨c, cs, hc, hmark⟩ := hu.opens
    rw [hc, ht] at h
    exact absurd ((List.cons.inj h).1 ▸ hmark) (by decide)
  · -- The quote that closes the atom is the first one inside it.
    rw [ht, hu, List.cons_append, List.cons_append, List.append_assoc, List.append_assoc] at h
    have hsame := @word_append_inj (· = '"') _ _ _ _ (fun c hc hd => hbody (hd ▸ hc))
      (fun c hc hd => hbody' (hd ▸ hc)) (by simp) (by simp) (List.cons.inj h).2
    refine ⟨String.ext ?_, (List.cons.inj hsame.2).2⟩
    rw [ht, hu, hsame.1]

theorem atom_append_ne_list {t : String} (ht : (atom t).Clear) (fs : List Form)
    (rest rest' : List Char) : t.toList ++ rest ≠ (list fs).text.toList ++ rest' := by
  rw [toList_text_list]
  intro h
  rcases ht with hbare | ⟨body, _, ht⟩
  · obtain ⟨c, cs, hc, hmark⟩ := hbare.opens
    rw [hc] at h
    exact absurd ((List.cons.inj h).1 ▸ hmark) (by decide)
  · rw [ht] at h
    exact absurd (List.cons.inj h).1 (by decide)

mutual

/-- A form and what follows it can be told from the text. -/
theorem text_append_inj : (f g : Form) → {rest rest' : List Char} → f.Clear → g.Clear →
    Closes rest → Closes rest' → f.text.toList ++ rest = g.text.toList ++ rest' →
    f = g ∧ rest = rest'
  | atom t, atom u, _, _, hf, hg, hrest, hrest', h => by
    obtain ⟨rfl, hsame⟩ := atom_append_inj hf hg hrest hrest' h
    exact ⟨rfl, hsame⟩
  | atom t, list gs, _, _, hf, _, _, _, h => absurd h (atom_append_ne_list hf gs _ _)
  | list fs, atom u, _, _, _, hg, _, _, h => absurd h.symm (atom_append_ne_list hg fs _ _)
  | list fs, list gs, rest, rest', hf, hg, _, _, h => by
    rw [toList_text_list, toList_text_list] at h
    obtain ⟨rfl, hsame⟩ := intercalate_append_inj fs gs rfl (by decide) hf hg
      (ends_parenthesis rest) (ends_parenthesis rest') (List.cons.inj h).2
    exact ⟨rfl, (List.cons.inj hsame).2⟩

theorem intercalate_append_inj : (fs gs : List Form) → {separator : String} → {c : Char} →
    {rest rest' : List Char} → separator.toList = [c] → c ∈ [' ', '\n'] → AllClear fs →
    AllClear gs → Ends rest → Ends rest' →
    (separator.intercalate (texts fs)).toList ++ rest
      = (separator.intercalate (texts gs)).toList ++ rest' →
    fs = gs ∧ rest = rest'
  | [], [], _, _, _, _, _, _, _, _, _, _, h => ⟨rfl, h⟩
  | [], g :: gs, _, _, _, _, hc, _, _, hgs, hrest, _, h => by
    rw [texts, texts, toList_intercalate_cons hc, List.append_assoc] at h
    exact absurd h (hgs.1.not_closes _ hrest.closes)
  | f :: fs, [], _, _, _, _, hc, _, hfs, _, _, hrest', h => by
    rw [texts, texts, toList_intercalate_cons hc, List.append_assoc] at h
    exact absurd h.symm (hfs.1.not_closes _ hrest'.closes)
  | f :: fs, g :: gs, _, _, _, _, hc, hmem, hfs, hgs, hrest, hrest', h => by
    rw [texts, texts, toList_intercalate_cons hc, toList_intercalate_cons hc, List.append_assoc,
      List.append_assoc] at h
    obtain ⟨rfl, hmore⟩ := text_append_inj f g hfs.1 hgs.1 (closes_behind hmem _ hrest)
      (closes_behind hmem _ hrest') h
    obtain ⟨rfl, hsame⟩ := behind_append_inj fs gs hmem hfs.2 hgs.2 hrest hrest' hmore
    exact ⟨rfl, hsame⟩

theorem behind_append_inj : (fs gs : List Form) → {c : Char} → {rest rest' : List Char} →
    c ∈ [' ', '\n'] → AllClear fs → AllClear gs → Ends rest → Ends rest' →
    behind c (texts fs) ++ rest = behind c (texts gs) ++ rest' → fs = gs ∧ rest = rest'
  | [], [], _, _, _, _, _, _, _, _, h => ⟨rfl, h⟩
  | [], g :: gs, _, _, _, hc, _, _, hrest, _, h => by
    rw [texts, texts, behind_cons] at h
    exact absurd h (hrest.ne_separator hc _)
  | f :: fs, [], _, _, _, hc, _, _, _, hrest', h => by
    rw [texts, texts, behind_cons] at h
    exact absurd h.symm (hrest'.ne_separator hc _)
  | f :: fs, g :: gs, _, _, _, hc, hfs, hgs, hrest, hrest', h => by
    rw [texts, texts, behind_cons, behind_cons, List.cons_append, List.cons_append,
      List.append_assoc, List.append_assoc] at h
    obtain ⟨rfl, hmore⟩ := text_append_inj f g hfs.1 hgs.1 (closes_behind hc _ hrest)
      (closes_behind hc _ hrest') (List.cons.inj h).2
    obtain ⟨rfl, hsame⟩ := behind_append_inj fs gs hc hfs.2 hgs.2 hrest hrest' hmore
    exact ⟨rfl, hsame⟩

end

/-- Forms that are written one to a line can be told from the text. -/
theorem lines_inj {fs gs : List Form} (hfs : AllClear fs) (hgs : AllClear gs)
    (h : "\n".intercalate (texts fs) = "\n".intercalate (texts gs)) : fs = gs := by
  have hnone : Ends [] := fun c hc => by cases hc
  have hchars := congrArg (fun s : String => s.toList ++ []) h
  exact (intercalate_append_inj fs gs rfl (by decide) hfs hgs hnone hnone hchars).1

end Form
end RiftScript
