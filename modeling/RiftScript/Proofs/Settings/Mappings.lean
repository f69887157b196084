/-
Mappings laid over one another.

A mapping has no two entries with the same key, and a settings file gives such mappings at every
depth. Numbers can be the same key without being the same datum, so a key is looked up by `sameKey`.
That relation is not reflexive, and nothing here asks it to be transitive: at most one of two layers
has keys other than texts, and a text is the same key as itself alone.
-/
import Mathlib.Data.List.Induction
import RiftScript.Settings

namespace RiftScript
namespace Datum

/-- What a mapping holds at a key. -/
def get? (key : Datum) (entries : Entries) : Option Datum :=
  (entries.find? fun e => e.1.sameKey key).map Prod.snd

def isTextual : Datum → Bool
  | text _ => true
  | _ => false

theorem isText_iff {d : Datum} {s : String} : d.isText s = true ↔ d = .text s := by
  cases d <;> simp [isText]

theorem sameKey_text (d : Datum) (s : String) : d.sameKey (.text s) = d.isText s := by
  cases d <;> simp [sameKey, isText, int?]

theorem text_sameKey (s : String) (d : Datum) : (Datum.text s).sameKey d = d.isText s := by
  cases d with
  | text t => exact Bool.beq_comm
  | _ => simp [sameKey, isText, int?]

theorem exists_of_isTextual {d : Datum} (h : d.isTextual = true) : ∃ s, d = .text s := by
  cases d with
  | text s => exact ⟨s, rfl⟩
  | _ => cases h

/-- A text and a datum that is none are different keys. -/
theorem sameKey_of_isTextual {d e : Datum} (hd : d.isTextual = true) (he : e.isTextual = false) :
    d.sameKey e = false := by
  obtain ⟨s, rfl⟩ := exists_of_isTextual hd
  rw [text_sameKey, Bool.eq_false_iff]
  intro h
  rw [isText_iff.mp h] at he
  cases he

theorem isTextual_of_sameKey {d e : Datum} (h : d.sameKey e = true) :
    d.isTextual = e.isTextual := by
  cases e with
  | text s =>
    rw [sameKey_text] at h
    rw [isText_iff.mp h]
  | _ =>
    cases hd : d.isTextual with
    | false => rfl
    | true =>
      rw [sameKey_of_isTextual hd rfl] at h
      cases h

/-! ## Looking up -/

theorem get?_text (key : String) (entries : Entries) :
    get? (.text key) entries = lookup key entries := by
  simp only [get?, lookup, sameKey_text]

theorem get?_cons (key : Datum) (e : Datum × Datum) (entries : Entries) :
    get? key (e :: entries) = if e.1.sameKey key then some e.2 else get? key entries := by
  rw [get?, List.find?_cons]
  cases e.1.sameKey key <;> rfl

theorem get?_append (key : Datum) (xs ys : Entries) :
    get? key (xs ++ ys) = (get? key xs).or (get? key ys) := by
  rw [get?, List.find?_append, Option.map_or, get?, get?]

theorem get?_eq_none {key : Datum} {entries : Entries}
    (h : ∀ e ∈ entries, e.1.sameKey key = false) : get? key entries = none := by
  rw [get?, List.find?_eq_none.mpr fun e he => by simp [h e he], Option.map_none]

/-- Only entries with another key are left out. -/
theorem get?_filter {key : Datum} {entries : Entries} {p : Datum × Datum → Bool}
    (h : ∀ e ∈ entries, e.1.sameKey key = true → p e = true) :
    get? key (entries.filter p) = get? key entries := by
  induction entries with
  | nil => rfl
  | cons e rest ih =>
    have hrest := ih fun f hf => h f (List.mem_cons_of_mem e hf)
    rw [List.filter_cons, get?_cons]
    by_cases hkey : e.1.sameKey key = true
    · rw [if_pos (h e List.mem_cons_self hkey), get?_cons, if_pos hkey, if_pos hkey]
    · rw [if_neg hkey, ← hrest]
      split
      · rw [get?_cons, if_neg hkey]
      · rfl

theorem setKey_of_fresh {key value : Datum} {entries : Entries}
    (h : ∀ e ∈ entries, e.1.sameKey key = false) :
    setKey key value entries = entries ++ [(key, value)] := by
  induction entries with
  | nil => rfl
  | cons e rest ih =>
    obtain ⟨he, hrest⟩ := List.forall_mem_cons.mp h
    rw [setKey, he, ih hrest]
    rfl

theorem get?_setKey_text (key : Datum) (s : String) (value : Datum) (entries : Entries) :
    get? key (setKey (.text s) value entries)
      = if key.isText s then some value else get? key entries := by
  induction entries with
  | nil =>
    rw [setKey, get?_cons, text_sameKey]
  | cons e rest ih =>
    rw [setKey, sameKey_text, get?_cons key e]
    by_cases he : e.1.isText s = true
    · rw [if_pos he, get?_cons, isText_iff.mp he, text_sameKey]
      split <;> rfl
    · rw [if_neg he, get?_cons, ih]
      by_cases hkey : key.isText s = true
      · rw [if_pos hkey, if_pos hkey, isText_iff.mp hkey, sameKey_text, if_neg he]
      · rw [if_neg hkey, if_neg hkey]

/-- A key that is set was there before, or it is the new one. -/
theorem mem_setKey {key value : Datum} {e : Datum × Datum} {entries : Entries}
    (h : e ∈ setKey key value entries) :
    (e.1 = key ∨ ∃ f ∈ entries, f.1 = e.1) ∧ (e.2 = value ∨ ∃ f ∈ entries, f.2 = e.2) := by
  induction entries with
  | nil =>
    obtain rfl := List.mem_singleton.mp h
    exact ⟨.inl rfl, .inl rfl⟩
  | cons f rest ih =>
    rw [setKey] at h
    split at h
    · rcases List.mem_cons.mp h with rfl | h
      · exact ⟨.inr ⟨f, List.mem_cons_self, rfl⟩, .inl rfl⟩
      · exact ⟨.inr ⟨e, List.mem_cons_of_mem f h, rfl⟩, .inr ⟨e, List.mem_cons_of_mem f h, rfl⟩⟩
    · rcases List.mem_cons.mp h with rfl | h
      · exact ⟨.inr ⟨e, List.mem_cons_self, rfl⟩, .inr ⟨e, List.mem_cons_self, rfl⟩⟩
      · obtain ⟨hkey, hvalue⟩ := ih h
        exact ⟨hkey.imp_right fun ⟨g, hg, heq⟩ => ⟨g, List.mem_cons_of_mem f hg, heq⟩,
          hvalue.imp_right fun ⟨g, hg, heq⟩ => ⟨g, List.mem_cons_of_mem f hg, heq⟩⟩

/-! ## Mappings without repeated keys -/

/-- No entry has the same key as an earlier one. -/
def DistinctKeys (entries : Entries) : Prop :=
  (entries.map Prod.fst).Pairwise fun a b => a.sameKey b = false

theorem distinctKeys_append_singleton {entries : Entries} {e : Datum × Datum} :
    DistinctKeys (entries ++ [e]) ↔
      DistinctKeys entries ∧ ∀ f ∈ entries, f.1.sameKey e.1 = false := by
  rw [DistinctKeys, List.map_append, List.pairwise_append]
  simp [DistinctKeys]

theorem map_fst_setKey_of_mem {key value : Datum} {entries : Entries}
    (h : ∃ e ∈ entries, e.1.sameKey key = true) :
    (setKey key value entries).map Prod.fst = entries.map Prod.fst := by
  induction entries with
  | nil =>
    obtain ⟨e, he, -⟩ := h
    cases he
  | cons f rest ih =>
    rw [setKey]
    by_cases hf : f.1.sameKey key = true
    · rw [if_pos hf]
      rfl
    · obtain ⟨e, he, hkey⟩ := h
      rcases List.mem_cons.mp he with rfl | he
      · exact absurd hkey hf
      · rw [if_neg hf, List.map_cons, ih ⟨e, he, hkey⟩, List.map_cons]

theorem DistinctKeys.setKey {key value : Datum} {entries : Entries} (h : DistinctKeys entries) :
    DistinctKeys (setKey key value entries) := by
  by_cases hkey : ∃ e ∈ entries, e.1.sameKey key = true
  · rw [DistinctKeys, map_fst_setKey_of_mem hkey]
    exact h
  · have hfresh : ∀ e ∈ entries, e.1.sameKey key = false :=
      fun e he => Bool.eq_false_iff.mpr fun hsame => hkey ⟨e, he, hsame⟩
    rw [setKey_of_fresh hfresh]
    exact distinctKeys_append_singleton.mpr ⟨h, hfresh⟩

/-- Every mapping in the datum has distinct keys. -/
inductive WellKeyed : Datum → Prop
  | scalar {d : Datum} (h : d.isKey = true) : WellKeyed d
  | list {items : List Datum} (h : ∀ d ∈ items, WellKeyed d) : WellKeyed (.list items)
  | dict {entries : Entries} (hkeys : DistinctKeys entries) (h : ∀ e ∈ entries, WellKeyed e.2) :
      WellKeyed (.dict entries)

end Datum

namespace Settings

open Datum (DistinctKeys)

theorem overlay_append_singleton (base top : Entries) (e : Datum × Datum) :
    overlay base (top ++ [e]) = Datum.setKey e.1 e.2 (overlay base top) :=
  List.foldl_append

theorem key_of_mem_overlay {base top : Entries} {e : Datum × Datum} (h : e ∈ overlay base top) :
    ∃ f, (f ∈ base ∨ f ∈ top) ∧ f.1 = e.1 := by
  induction top using List.reverseRecOn generalizing e with
  | nil => exact ⟨e, .inl h, rfl⟩
  | append_singleton top last ih =>
    rw [overlay_append_singleton] at h
    rcases (Datum.mem_setKey h).1 with hkey | ⟨g, hg, hkey⟩
    · exact ⟨last, .inr (by simp), hkey.symm⟩
    · obtain ⟨f, hf, hfg⟩ := ih hg
      exact ⟨f, hf.imp_right (List.mem_append_left [last]), hfg.trans hkey⟩

/-- The upper of two layers decides on the keys that it has, if the keys of one of them are texts. -/
theorem get?_overlay {base top : Entries} (htop : DistinctKeys top)
    (htexts : (∀ e ∈ base, e.1.isTextual = true) ∨ ∀ e ∈ top, e.1.isTextual = true)
    (key : Datum) :
    Datum.get? key (overlay base top) = (Datum.get? key top).or (Datum.get? key base) := by
  induction top using List.reverseRecOn with
  | nil => rfl
  | append_singleton top e ih =>
    obtain ⟨htop, hfresh⟩ := Datum.distinctKeys_append_singleton.mp htop
    have ih := ih htop (htexts.imp_right fun h f hf => h f (List.mem_append_left [e] hf))
    rw [overlay_append_singleton, Datum.get?_append, Datum.get?_cons]
    cases he : e.1.isTextual with
    | true =>
      obtain ⟨s, hs⟩ := Datum.exists_of_isTextual he
      rw [hs, Datum.get?_setKey_text, Datum.text_sameKey, ih]
      split
      · next hkey =>
        rw [hs, ← Datum.isText_iff.mp hkey] at hfresh
        rw [Datum.get?_eq_none hfresh]
        rfl
      · rw [show Datum.get? key [] = none from rfl, Option.or_none]
    | false =>
      have hbase : ∀ f ∈ base, f.1.isTextual = true := by
        rcases htexts with h | h
        · exact h
        · rw [h e (by simp)] at he
          cases he
      have hnew : ∀ f ∈ overlay base top, f.1.sameKey e.1 = false := by
        intro f hf
        obtain ⟨g, hg, hkey⟩ := key_of_mem_overlay hf
        rw [← hkey]
        rcases hg with hg | hg
        · exact Datum.sameKey_of_isTextual (hbase g hg) he
        · exact hfresh g hg
      rw [Datum.setKey_of_fresh hnew, Datum.get?_append, Datum.get?_cons, ih]
      split
      · next hkey =>
        -- A key that is no text is not in the lower layer.
        have hnone : Datum.get? key base = none := by
          refine Datum.get?_eq_none fun f hf => ?_
          have hplain : key.isTextual = false := by rw [← Datum.isTextual_of_sameKey hkey, he]
          exact Datum.sameKey_of_isTextual (hbase f hf) hplain
        rw [hnone, Option.or_none, Option.or_none]
      · rw [show Datum.get? key [] = none from rfl, Option.or_none, Option.or_none]

end Settings
end RiftScript
