/-
Game states from mappings.

A mapping describes a game state field by field: each field that it names holds the converted datum
and each other field its default, whatever the order of the keys. It may also hold names of the
record itself, which no field has and which are passed over. One of them, the name of the record's
own fields, replaces all fields at once, so that what stands before it is lost.
-/
import Mathlib.Data.List.Pairwise
import Mathlib.Data.List.Perm.Basic
import RiftScript.Game.State
import RiftScript.Proofs.Settings.Mappings

namespace RiftScript

/-- What a collection is to a host, if there is anything. -/
def Collection.datum? : Collection → Option Datum
  | set s => some (.set s.elements)
  | other d => some d
  | missing => none

theorem Collection.datum?_ofDatum (d : Datum) : (Collection.ofDatum d).datum? = some d := by
  cases d <;> rfl

namespace GameState

open Datum (DistinctKeys)

/-! ## Fields -/

inductive Field where
  | health | mana | enemyDistance | allyDistance | nearestEnemy
  | buffs | readyItems | readyAbilities
deriving DecidableEq

/-- What a field is for. -/
inductive FieldKind where
  | amount | enemy | collection

namespace Field

def name : Field → String
  | health => "health"
  | mana => "mana"
  | enemyDistance => "enemy_distance"
  | allyDistance => "ally_distance"
  | nearestEnemy => "nearest_enemy"
  | buffs => "buffs"
  | readyItems => "ready_items"
  | readyAbilities => "ready_abilities"

def kind : Field → FieldKind
  | health | mana | enemyDistance | allyDistance => .amount
  | nearestEnemy => .enemy
  | buffs | readyItems | readyAbilities => .collection

theorem name_injective {f g : Field} (h : f.name = g.name) : f = g := by
  cases f <;> cases g <;> first | rfl | exact absurd h (by decide)

end Field

/-- What a field holds. -/
def get (s : GameState) : Field → Option Datum
  | .health => some s.health
  | .mana => some s.mana
  | .enemyDistance => some s.enemyDistance
  | .allyDistance => some s.allyDistance
  | .nearestEnemy => some s.nearestEnemy
  | .buffs => s.buffs.datum?
  | .readyItems => s.readyItems.datum?
  | .readyAbilities => s.readyAbilities.datum?

/-- The state with a datum in one field. -/
def set (s : GameState) (f : Field) (d : Datum) : GameState :=
  match f with
  | .health => { s with health := d }
  | .mana => { s with mana := d }
  | .enemyDistance => { s with enemyDistance := d }
  | .allyDistance => { s with allyDistance := d }
  | .nearestEnemy => { s with nearestEnemy := d }
  | .buffs => { s with buffs := .ofDatum d }
  | .readyItems => { s with readyItems := .ofDatum d }
  | .readyAbilities => { s with readyAbilities := .ofDatum d }

theorem get_set_self (s : GameState) (f : Field) (d : Datum) : (s.set f d).get f = some d := by
  cases f <;> first | rfl | exact Collection.datum?_ofDatum d

theorem get_set_ne (s : GameState) {f g : Field} (h : f ≠ g) (d : Datum) :
    (s.set f d).get g = s.get g := by
  cases f <;> cases g <;> first | rfl | exact absurd rfl h

theorem set_comm (s : GameState) {f g : Field} (h : f ≠ g) (c d : Datum) :
    (s.set f c).set g d = (s.set g d).set f c := by
  cases f <;> cases g <;> first | rfl | exact absurd rfl h

theorem put_name (s : GameState) (f : Field) (d : Datum) : s.put f.name d = .ok (s.set f d) := by
  cases f <;> rfl

/-! ## Conversion -/

/-- What a datum of a mapping becomes in a field: a set in a collection, a float in an amount unless
it is null, and itself as the nearest enemy. -/
inductive Converts (f : Field) : Datum → Datum → Prop
  | collection {d : Datum} {s : DatumSet} (hf : f.kind = .collection)
      (h : DatumSet.ofDatum d = .ok s) : Converts f d (.set s.elements)
  | unknown (hf : f.kind = .amount) : Converts f .null .null
  | amount {d : Datum} {x : Float} (hf : f.kind = .amount) (hd : d ≠ .null)
      (h : d.toFloat = .ok x) : Converts f d (.float x)
  | enemy {d : Datum} (hf : f.kind = .enemy) : Converts f d d

theorem meant_of_amount {f : Field} (hf : f.kind = .amount) (d : Datum) :
    meant f.name d = amount d := by
  cases f <;> first | rfl | cases hf

theorem meant_of_enemy {f : Field} (hf : f.kind = .enemy) (d : Datum) : meant f.name d = .ok d := by
  cases f <;> first | rfl | cases hf

theorem meant_of_collection {f : Field} (hf : f.kind = .collection) (d : Datum) :
    meant f.name d =
      ((DatumSet.ofDatum d).mapError StateFault.datum).map fun s => .set s.elements := by
  cases f with
  | buffs | readyItems | readyAbilities =>
    simp only [meant, Field.name]
    cases DatumSet.ofDatum d <;> rfl
  | _ => cases hf

theorem converts_of_amount {f : Field} (hf : f.kind = .amount) {d c : Datum}
    (h : amount d = .ok c) : Converts f d c := by
  rw [amount.eq_def] at h
  split at h
  · cases h
    exact .unknown hf
  · next hnull =>
    split at h
    · next x hx =>
      cases h
      exact .amount hf hnull hx
    · cases h

theorem converts_of_meant {f : Field} {d c : Datum} (h : meant f.name d = .ok c) :
    Converts f d c := by
  cases hf : f.kind with
  | amount => exact converts_of_amount hf (meant_of_amount hf d ▸ h)
  | enemy =>
    cases (meant_of_enemy hf d).symm.trans h
    exact .enemy hf
  | collection =>
    rw [meant_of_collection hf] at h
    cases hd : DatumSet.ofDatum d with
    | error fault =>
      rw [hd] at h
      cases h
    | ok s =>
      rw [hd] at h
      cases h
      exact .collection hf hd

theorem Converts.meant {f : Field} {d c : Datum} (h : Converts f d c) : meant f.name d = .ok c := by
  cases h with
  | collection hf h =>
    rw [meant_of_collection hf, h]
    rfl
  | unknown hf => exact meant_of_amount hf .null
  | amount hf hd h =>
    rw [meant_of_amount hf, GameState.amount.eq_def]
    split
    · exact absurd rfl hd
    · rw [h]
  | enemy hf => exact meant_of_enemy hf d

/-! ## One entry -/

def fieldNames : List String :=
  [Field.health, .mana, .enemyDistance, .allyDistance, .nearestEnemy, .buffs, .readyItems,
    .readyAbilities].map Field.name

/-- Names of the record that cannot be given any datum, or that mean more than themselves. -/
def reservedNames : List String := ["__class__", "__dict__", "__weakref__"]

def isPlain (name : String) : Bool :=
  !(fieldNames.contains name || reservedNames.contains name)

/-- What an entry does to a state that knows these names: it gives a field its converted datum, or
it is passed over. -/
inductive Takes (names : List String) : Datum × Datum → Option (Field × Datum) → Prop
  | field {f : Field} {d c : Datum} (known : f.name ∈ fixedNames ∨ f.name ∈ names)
      (h : Converts f d c) : Takes names (.text f.name, d) (some (f, c))
  | passed {name : String} {d : Datum} (known : name ∈ fixedNames ∨ name ∈ names)
      (h : isPlain name = true) : Takes names (.text name, d) none

def apply (s : GameState) : Option (Field × Datum) → GameState
  | some (f, c) => s.set f c
  | none => s

/-- One step of reading a mapping. -/
def Draft.take (draft : Draft) (e : Datum × Datum) : Except StateFault Draft :=
  match e.1 with
  | .text key => draft.assign key e.2
  | _ => .error (.datum .wrongType)

theorem bind_eq_ok {α β : Type} {x : Except StateFault α} {f : α → Except StateFault β} {b : β} :
    x >>= f = .ok b ↔ ∃ a, x = .ok a ∧ f a = .ok b := by
  cases x with
  | error fault => exact ⟨nofun, nofun⟩
  | ok a =>
    refine ⟨fun h => ⟨a, rfl, h⟩, ?_⟩
    rintro ⟨_, h, hf⟩
    cases h
    exact hf

theorem ofEntries_eq_ok_iff {entries : Entries} {s : GameState} :
    ofEntries entries = .ok s ↔ ∃ names, entries.foldlM Draft.take {} = .ok ⟨s, names⟩ := by
  have heq : ofEntries entries =
      entries.foldlM Draft.take {} >>= fun draft => .ok draft.state := rfl
  rw [heq, bind_eq_ok]
  constructor
  · rintro ⟨draft, hdraft, h⟩
    cases h
    exact ⟨draft.names, hdraft⟩
  · rintro ⟨names, h⟩
    exact ⟨_, h, rfl⟩

theorem knows_iff {s : GameState} {names : List String} {key : String} :
    (Draft.mk s names).knows key = true ↔ key ∈ fixedNames ∨ key ∈ names := by
  simp [Draft.knows]

theorem exists_field_or_isPlain (key : String) :
    (∃ f : Field, f.name = key) ∨ isPlain key = true ∨ key ∈ reservedNames := by
  by_cases hf : key ∈ fieldNames
  · obtain ⟨f, -, rfl⟩ := List.mem_map.mp hf
    exact .inl ⟨f, rfl⟩
  · by_cases hkey : key ∈ reservedNames
    · exact .inr (.inr hkey)
    · exact .inr (.inl (by simp [isPlain, hf, hkey]))

theorem assign_of_isPlain {s : GameState} {names : List String} {key : String}
    (known : key ∈ fixedNames ∨ key ∈ names) (h : isPlain key = true) (d : Datum) :
    (Draft.mk s names).assign key d = .ok ⟨s, names⟩ := by
  have hmeant : meant key d = .ok d := by
    unfold meant
    split <;> first | rfl | exact absurd h (by decide)
  have hput : s.put key d = .ok s := by
    unfold put
    split <;> first | rfl | exact absurd h (by decide)
  have hnames : (Draft.mk s names).namesAfter key d = names := by
    unfold Draft.namesAfter
    split
    · exact absurd h (by decide)
    · rfl
  rw [Draft.assign, if_pos (knows_iff.mpr known), hmeant]
  show (s.put key d >>= fun s' => Except.ok (Draft.mk s' _)) = _
  rw [hput, hnames]
  rfl

theorem assign_name {s : GameState} {names : List String} {f : Field}
    (known : f.name ∈ fixedNames ∨ f.name ∈ names) (d : Datum) :
    (Draft.mk s names).assign f.name d = (meant f.name d).map fun c => ⟨s.set f c, names⟩ := by
  have hnames : ∀ c, (Draft.mk s names).namesAfter f.name c = names := fun c => by cases f <;> rfl
  rw [Draft.assign, if_pos (knows_iff.mpr known)]
  cases meant f.name d with
  | error fault => rfl
  | ok c =>
    show (s.put f.name c >>= fun s' => Except.ok (Draft.mk s' _)) = _
    rw [put_name, hnames]
    rfl

/-- Every name but that of the record's own fields either takes effect on its own or is refused. -/
theorem take_eq_ok {s : GameState} {names : List String} {e : Datum × Datum} {draft : Draft}
    (he : e.1 ≠ .text "__dict__") :
    (Draft.mk s names).take e = .ok draft ↔
      ∃ t, Takes names e t ∧ draft = ⟨s.apply t, names⟩ := by
  constructor
  · intro h
    obtain ⟨key, d⟩ := e
    rw [Draft.take.eq_def] at h
    split at h
    next _ key hkey =>
      cases hkey
      have known : key ∈ fixedNames ∨ key ∈ names := by
        by_contra hknown
        rw [Draft.assign, if_neg (mt knows_iff.mp hknown)] at h
        cases h
      obtain ⟨f, rfl⟩ | hplain | hkey := exists_field_or_isPlain key
      · rw [assign_name known] at h
        cases hc : meant f.name d with
        | error fault =>
          rw [hc] at h
          cases h
        | ok c =>
          rw [hc] at h
          cases h
          exact ⟨some (f, c), .field known (converts_of_meant hc), rfl⟩
      · rw [assign_of_isPlain known hplain] at h
        cases h
        exact ⟨none, .passed known hplain, rfl⟩
      · rw [Draft.assign, if_pos (knows_iff.mpr known)] at h
        simp only [reservedNames, List.mem_cons, List.not_mem_nil, or_false] at hkey
        obtain rfl | rfl | rfl := hkey
        · cases h
        · exact absurd rfl he
        · cases h
    · cases h
  · rintro ⟨t, ht, rfl⟩
    cases ht with
    | field known h =>
      show (Draft.mk s names).assign _ _ = _
      rw [assign_name known, h.meant]
      rfl
    | passed known h => exact assign_of_isPlain known h _

/-- The keys of a mapping that are texts. -/
def textKeys (fields : Entries) : List String :=
  fields.filterMap fun field =>
    match field.1 with
    | .text name => some name
    | _ => none

/-- The name of the record's own fields replaces all of them and the names that are known. -/
theorem take_dict {s : GameState} {names : List String} {d : Datum} {draft : Draft} :
    (Draft.mk s names).take (.text "__dict__", d) = .ok draft ↔
      ∃ fields, d = .dict fields ∧ draft = ⟨ofFields fields, textKeys fields⟩ := by
  have htake : (Draft.mk s names).take (.text "__dict__", d) =
      (s.put "__dict__" d).map fun s' => ⟨s', (Draft.mk s names).namesAfter "__dict__" d⟩ := by
    show (Draft.mk s names).assign "__dict__" d = _
    rw [Draft.assign, if_pos (knows_iff.mpr (.inl (by decide)))]
    show (s.put "__dict__" d >>= fun s' => Except.ok (Draft.mk s' _)) = _
    cases s.put "__dict__" d <;> rfl
  rw [htake]
  constructor
  · intro h
    cases d with
    | dict fields =>
      cases h
      exact ⟨fields, rfl, rfl⟩
    | _ => cases h
  · rintro ⟨fields, rfl, rfl⟩
    rfl

/-! ## Whole mappings -/

section
variable {s : GameState} {names : List String} {entries : Entries}

theorem foldlM_take_cons {draft draft' : Draft} {e : Datum × Datum} :
    (e :: entries).foldlM Draft.take draft = .ok draft' ↔
      ∃ next, draft.take e = .ok next ∧ entries.foldlM Draft.take next = .ok draft' := by
  rw [List.foldlM_cons]
  exact bind_eq_ok

theorem foldlM_take_append {draft draft' : Draft} {before after : Entries} :
    (before ++ after).foldlM Draft.take draft = .ok draft' ↔
      ∃ next, before.foldlM Draft.take draft = .ok next ∧
        after.foldlM Draft.take next = .ok draft' := by
  rw [List.foldlM_append]
  exact bind_eq_ok

/-- Reading is one entry after the other, each with its own effect. -/
theorem foldlM_take_eq_ok {draft : Draft} (hdict : ∀ e ∈ entries, e.1 ≠ .text "__dict__") :
    entries.foldlM Draft.take ⟨s, names⟩ = .ok draft ↔
      ∃ ts, List.Forall₂ (Takes names) entries ts ∧ draft = ⟨ts.foldl apply s, names⟩ := by
  induction entries generalizing s with
  | nil =>
    constructor
    · intro h
      cases h
      exact ⟨[], .nil, rfl⟩
    · rintro ⟨ts, hts, rfl⟩
      cases hts
      rfl
  | cons e rest ih =>
    rw [foldlM_take_cons]
    constructor
    · rintro ⟨next, hnext, hrest⟩
      obtain ⟨t, ht, rfl⟩ := (take_eq_ok (hdict e List.mem_cons_self)).mp hnext
      obtain ⟨ts, hts, rfl⟩ := (ih fun e he => hdict e (List.mem_cons_of_mem _ he)).mp hrest
      exact ⟨t :: ts, .cons ht hts, rfl⟩
    · rintro ⟨ts, hts, rfl⟩
      cases hts with
      | cons ht hts =>
        exact ⟨_, (take_eq_ok (hdict e List.mem_cons_self)).mpr ⟨_, ht, rfl⟩,
          (ih fun e he => hdict e (List.mem_cons_of_mem _ he)).mpr ⟨_, hts, rfl⟩⟩

/-- Whether an entry is accepted once these names are known. -/
def Admitted (names : List String) (e : Datum × Datum) : Prop := ∃ t, Takes names e t

theorem exists_takes_iff :
    (∃ ts, List.Forall₂ (Takes names) entries ts) ↔ ∀ e ∈ entries, Admitted names e := by
  induction entries with
  | nil => exact ⟨fun _ e he => absurd he List.not_mem_nil, fun _ => ⟨[], .nil⟩⟩
  | cons e rest ih =>
    rw [List.forall_mem_cons, ← ih]
    constructor
    · rintro ⟨ts, hts⟩
      cases hts with
      | cons ht hts => exact ⟨⟨_, ht⟩, _, hts⟩
    · rintro ⟨⟨t, ht⟩, ts, hts⟩
      exact ⟨t :: ts, .cons ht hts⟩

theorem lookup_cons (key : String) (e : Datum × Datum) (entries : Entries) :
    Datum.lookup key (e :: entries) =
      if e.1.isText key then some e.2 else Datum.lookup key entries := by
  rw [← Datum.get?_text, Datum.get?_cons, Datum.sameKey_text, Datum.get?_text]

theorem get_foldl_of_lookup_eq_none {f : Field} {ts : List (Option (Field × Datum))}
    (h : List.Forall₂ (Takes names) entries ts) (hf : Datum.lookup f.name entries = none) :
    (ts.foldl apply s).get f = s.get f := by
  induction h generalizing s with
  | nil => rfl
  | cons ht _ ih =>
    rw [lookup_cons] at hf
    split at hf
    · cases hf
    · next hne =>
      rw [List.foldl_cons, ih hf]
      cases ht with
      | field =>
        refine get_set_ne s (fun heq => hne ?_) _
        rw [heq]
        exact Datum.isText_iff.mpr rfl
      | passed => rfl

theorem get_foldl_of_lookup_eq_some {f : Field} {d : Datum} {ts : List (Option (Field × Datum))}
    (h : List.Forall₂ (Takes names) entries ts) (hkeys : DistinctKeys entries)
    (hf : Datum.lookup f.name entries = some d) :
    ∃ c, Converts f d c ∧ (ts.foldl apply s).get f = some c := by
  induction h generalizing s with
  | nil => cases hf
  | @cons e t rest ts ht hts ih =>
    obtain ⟨hhead, hrest⟩ := List.pairwise_cons.mp hkeys
    rw [lookup_cons] at hf
    split at hf
    · next heq =>
      cases hf
      -- No later entry has this key again.
      have hnone : Datum.lookup f.name rest = none := by
        rw [← Datum.get?_text]
        refine Datum.get?_eq_none fun g hg => ?_
        have := hhead g.1 (List.mem_map_of_mem hg)
        rwa [Datum.isText_iff.mp heq, Datum.text_sameKey, ← Datum.sameKey_text] at this
      rw [List.foldl_cons, get_foldl_of_lookup_eq_none hts hnone]
      cases ht with
      | field _ hc =>
        cases Field.name_injective (Datum.text.inj (Datum.isText_iff.mp heq))
        exact ⟨_, hc, get_set_self ..⟩
      | passed _ hplain =>
        cases Datum.text.inj (Datum.isText_iff.mp heq)
        cases f <;> exact absurd hplain (by decide)
    · exact ih hrest hf

/-- The fields that a mapping names hold what it gives them, and the others are as they were. -/
def Filled (base : GameState) (entries : Entries) (s : GameState) : Prop :=
  ∀ f : Field,
    (∀ d, Datum.lookup f.name entries = some d → ∃ c, Converts f d c ∧ s.get f = some c) ∧
      (Datum.lookup f.name entries = none → s.get f = base.get f)

theorem filled_foldl {ts : List (Option (Field × Datum))}
    (h : List.Forall₂ (Takes names) entries ts) (hkeys : DistinctKeys entries) :
    Filled s entries (ts.foldl apply s) :=
  fun _ => ⟨fun _ => get_foldl_of_lookup_eq_some h hkeys, get_foldl_of_lookup_eq_none h⟩

/-! ## The order of the keys -/

/-- Whether two effects can be exchanged. -/
def Commute (t u : Option (Field × Datum)) : Prop :=
  ∀ s : GameState, (s.apply t).apply u = (s.apply u).apply t

instance : Std.Symm Commute := ⟨fun _ _ h s => (h s).symm⟩

theorem pairwise_commute {ts : List (Option (Field × Datum))}
    (h : List.Forall₂ (Takes names) entries ts) (hkeys : DistinctKeys entries) :
    ts.Pairwise Commute := by
  induction h with
  | nil => exact .nil
  | @cons e t rest ts ht hts ih =>
    obtain ⟨hhead, hrest⟩ := List.pairwise_cons.mp hkeys
    refine List.pairwise_cons.mpr ⟨fun u hu s => ?_, ih hrest⟩
    obtain ⟨g, hg, hgu⟩ : ∃ g ∈ rest, Takes names g u := by
      obtain ⟨i, hi, rfl⟩ := List.getElem_of_mem hu
      have hlen := hts.length_eq
      exact ⟨rest[i], List.getElem_mem _, hts.get (by omega) hi⟩
    have hne := hhead g.1 (List.mem_map_of_mem hg)
    cases ht with
    | passed => rfl
    | field =>
      cases hgu with
      | passed => rfl
      | field =>
        refine set_comm s (fun heq => ?_) _ _
        subst heq
        rw [Datum.text_sameKey] at hne
        cases hne.symm.trans (Datum.isText_iff.mpr rfl)

theorem foldl_apply_perm {ts us : List (Option (Field × Datum))} (hts : ts.Pairwise Commute)
    (h : ts.Perm us) : ts.foldl apply s = us.foldl apply s :=
  h.foldl_eq' (fun _ ht _ hu s => hts.forall_of_forall (fun _ _ _ => rfl) ht hu s) s

end

theorem ofEntries_eq_ok {entries : Entries} {s : GameState}
    (hdict : ∀ e ∈ entries, e.1 ≠ .text "__dict__") :
    ofEntries entries = .ok s ↔
      ∃ ts, List.Forall₂ (Takes collectionNames) entries ts ∧ s = ts.foldl apply {} := by
  rw [ofEntries_eq_ok_iff]
  constructor
  · rintro ⟨names, h⟩
    obtain ⟨ts, hts, heq⟩ := (foldlM_take_eq_ok hdict).mp h
    cases heq
    exact ⟨ts, hts, rfl⟩
  · rintro ⟨ts, hts, rfl⟩
    exact ⟨_, (foldlM_take_eq_ok hdict).mpr ⟨ts, hts, rfl⟩⟩

theorem ofEntries_append_dict_eq_ok {before after : Entries} {d : Datum} {s : GameState}
    (hbefore : ∀ e ∈ before, e.1 ≠ .text "__dict__")
    (hafter : ∀ e ∈ after, e.1 ≠ .text "__dict__") :
    ofEntries (before ++ (.text "__dict__", d) :: after) = .ok s ↔
      (∀ e ∈ before, Admitted collectionNames e) ∧ ∃ fields ts, d = .dict fields ∧
        List.Forall₂ (Takes (textKeys fields)) after ts ∧ s = ts.foldl apply (ofFields fields) := by
  rw [ofEntries_eq_ok_iff, ← exists_takes_iff]
  constructor
  · rintro ⟨names, h⟩
    obtain ⟨draft, hdraft, hrest⟩ := foldlM_take_append.mp h
    obtain ⟨ts, hts, rfl⟩ := (foldlM_take_eq_ok hbefore).mp hdraft
    obtain ⟨next, hnext, hrest⟩ := foldlM_take_cons.mp hrest
    obtain ⟨fields, rfl, rfl⟩ := take_dict.mp hnext
    obtain ⟨us, hus, heq⟩ := (foldlM_take_eq_ok hafter).mp hrest
    cases heq
    exact ⟨⟨ts, hts⟩, fields, us, rfl, hus, rfl⟩
  · rintro ⟨⟨ts, hts⟩, fields, us, rfl, hus, rfl⟩
    refine ⟨textKeys fields, foldlM_take_append.mpr
      ⟨_, (foldlM_take_eq_ok hbefore).mpr ⟨ts, hts, rfl⟩, ?_⟩⟩
    exact foldlM_take_cons.mpr ⟨_, take_dict.mpr ⟨fields, rfl, rfl⟩,
      (foldlM_take_eq_ok hafter).mpr ⟨us, hus, rfl⟩⟩

/-- At first the names that are admitted are those of the fields and, with no effect, plain names
of the record. -/
theorem admitted_collectionNames_iff {e : Datum × Datum} :
    Admitted collectionNames e ↔
      (∃ f c, e.1 = .text (Field.name f) ∧ Converts f e.2 c) ∨
        ∃ name ∈ fixedNames, isPlain name = true ∧ e.1 = .text name := by
  constructor
  · rintro ⟨t, ht⟩
    cases ht with
    | field _ h => exact .inl ⟨_, _, rfl, h⟩
    | passed known h =>
      refine .inr ⟨_, known.resolve_right fun hmem => ?_, h, rfl⟩
      simp only [collectionNames, List.mem_cons, List.not_mem_nil, or_false] at hmem
      obtain rfl | rfl | rfl := hmem <;> exact absurd h (by decide)
  · obtain ⟨key, d⟩ := e
    rintro (⟨f, c, rfl, h⟩ | ⟨name, hmem, h, rfl⟩)
    · exact ⟨_, .field (by cases f <;> decide) h⟩
    · exact ⟨_, .passed (.inl hmem) h⟩

theorem ne_dict_of_distinctKeys {before after : Entries} {d : Datum}
    (hkeys : DistinctKeys (before ++ (.text "__dict__", d) :: after)) :
    DistinctKeys after ∧ (∀ e ∈ before, e.1 ≠ .text "__dict__") ∧
      ∀ e ∈ after, e.1 ≠ .text "__dict__" := by
  rw [DistinctKeys, List.map_append, List.map_cons, List.pairwise_append,
    List.pairwise_cons] at hkeys
  obtain ⟨-, ⟨hafter, hkeys⟩, hbefore⟩ := hkeys
  have hself : ∀ e : Datum × Datum, e.1 = .text "__dict__" →
      e.1.sameKey (.text "__dict__") = true ∧ (Datum.text "__dict__").sameKey e.1 = true := by
    intro e he
    rw [Datum.sameKey_text, Datum.text_sameKey, he]
    exact ⟨by decide, by decide⟩
  refine ⟨hkeys, fun e he heq => ?_, fun e he heq => ?_⟩
  · have := hbefore e.1 (List.mem_map_of_mem he) _ List.mem_cons_self
    cases (hself e heq).1.symm.trans this
  · have := hafter e.1 (List.mem_map_of_mem he)
    cases (hself e heq).2.symm.trans this

/-- A mapping without the name of the record's own fields describes a state exactly if each of its
keys is a field whose datum can be converted, or a plain name of the record. Each field then holds
its converted datum or its default, and no order of the keys gives another state. Where the mapping
does replace the record's fields, what comes before is only checked, and what comes after is checked
against the names that the record then has and fills the new fields. -/
theorem ofEntries_admits_fields {entries : Entries} (hkeys : DistinctKeys entries) :
    ((∀ e ∈ entries, e.1 ≠ .text "__dict__") →
      ((∃ s, ofEntries entries = .ok s) ↔
        ∀ e ∈ entries, (∃ f c, e.1 = .text (Field.name f) ∧ Converts f e.2 c) ∨
          ∃ name ∈ fixedNames, isPlain name = true ∧ e.1 = .text name) ∧
      ∀ s, ofEntries entries = .ok s → Filled {} entries s ∧
        ∀ entries', entries'.Perm entries → ofEntries entries' = .ok s) ∧
    ∀ before d after, entries = before ++ (.text "__dict__", d) :: after →
      ((∃ s, ofEntries entries = .ok s) ↔
        (∀ e ∈ before, Admitted collectionNames e) ∧
          ∃ fields, d = .dict fields ∧ ∀ e ∈ after, Admitted (textKeys fields) e) ∧
      ∀ s, ofEntries entries = .ok s →
        ∃ fields, d = .dict fields ∧ Filled (ofFields fields) after s := by
  refine ⟨fun hdict => ⟨?_, fun s hs => ?_⟩, fun before d after heq => ?_⟩
  · simp only [← admitted_collectionNames_iff, ofEntries_eq_ok hdict, ← exists_takes_iff]
    exact ⟨fun ⟨_, ts, hts, _⟩ => ⟨ts, hts⟩, fun ⟨ts, hts⟩ => ⟨_, ts, hts, rfl⟩⟩
  · obtain ⟨ts, hts, rfl⟩ := (ofEntries_eq_ok hdict).mp hs
    refine ⟨filled_foldl hts hkeys, fun entries' hperm => ?_⟩
    obtain ⟨us, hus, hperm'⟩ := List.perm_comp_forall₂ hperm hts
    refine (ofEntries_eq_ok fun e he => hdict e (hperm.mem_iff.mp he)).mpr ⟨us, hus, ?_⟩
    exact foldl_apply_perm (pairwise_commute hts hkeys) hperm'.symm
  · subst heq
    obtain ⟨hkeysAfter, hbefore, hafter⟩ := ne_dict_of_distinctKeys hkeys
    simp only [ofEntries_append_dict_eq_ok hbefore hafter, ← @exists_takes_iff _ after]
    constructor
    · constructor
      · rintro ⟨s, hadmitted, fields, ts, rfl, hts, -⟩
        exact ⟨hadmitted, fields, rfl, ts, hts⟩
      · rintro ⟨hadmitted, fields, rfl, ts, hts⟩
        exact ⟨_, hadmitted, fields, ts, rfl, hts, rfl⟩
    · rintro s ⟨-, fields, ts, rfl, hts, rfl⟩
      exact ⟨fields, rfl, filled_foldl hts hkeysAfter⟩

/-- Health, mana and buffs with two names of the record between them. -/
def sample : Entries :=
  [(.text "health", .int 40), (.text "__init__", .int 1), (.text "mana", .null),
    (.text "from_dict", .null), (.text "buffs", .list [.text "haste", .text "haste"])]

theorem ofEntries_admits_fields_and_methods :
    DistinctKeys sample ∧ (∀ e ∈ sample, e.1 ≠ .text "__dict__") ∧
      ∃ s, ofEntries sample = .ok s ∧ s.get .mana = some .null ∧
        s.get .buffs = some (.set [.text "haste"]) ∧ s.get .enemyDistance = some .null ∧
        ofEntries sample.reverse = .ok s := by
  have hkeys : DistinctKeys sample := by
    simp [DistinctKeys, sample, Datum.text_sameKey, Datum.isText]
  have hdict : ∀ e ∈ sample, e.1 ≠ .text "__dict__" := by
    simp [sample]
  obtain ⟨-, hstate⟩ := (ofEntries_admits_fields hkeys).1 hdict
  obtain ⟨s, hs⟩ : ∃ s, ofEntries sample = .ok s := ⟨_, rfl⟩
  obtain ⟨hfilled, horder⟩ := hstate s hs
  refine ⟨hkeys, hdict, s, hs, ?_, ?_, (hfilled .enemyDistance).2 rfl,
    horder _ (List.reverse_perm _)⟩
  · obtain ⟨c, hc, hget⟩ := (hfilled .mana).1 _ rfl
    cases hc.meant
    exact hget
  · obtain ⟨c, hc, hget⟩ := (hfilled .buffs).1 _ rfl
    cases hc.meant
    exact hget

/-- A name of no field is accepted, and the order of the keys matters where the record's own fields
are replaced. -/
theorem ofEntries_accepts_init :
    ((∃ s, ofEntries [(.text "__init__", .int 1)] = .ok s) ∧ ∀ f : Field, f.name ≠ "__init__") ∧
      ∃ entries entries' s s', List.Perm entries entries' ∧ ofEntries entries = .ok s ∧
        ofEntries entries' = .ok s' ∧ s.get .health ≠ s'.get .health := by
  refine ⟨⟨⟨_, rfl⟩, fun f => by cases f <;> decide⟩, ?_⟩
  exact ⟨[(.text "health", .null), (.text "__dict__", .dict [])],
    [(.text "__dict__", .dict []), (.text "health", .null)], _, _, .swap _ _ _, rfl, rfl, nofun⟩

end GameState
end RiftScript
