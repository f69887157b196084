/-
Settings files give mappings without repeated keys.

A key that comes again replaces the datum of the earlier one, in a block as well as in braces.
-/
import RiftScript.Proofs.Settings.Mappings

namespace RiftScript
namespace Yaml

open Datum (WellKeyed DistinctKeys)

/-! ## Scalars -/

theorem isKey_of_plain? {s : String} {d : Datum} (h : plain? s = some d) : d.isKey = true := by
  rw [plain?] at h
  split at h
  · cases h
  · split at h
    · cases h
      rfl
    · split at h <;> cases h <;> rfl

theorem isKey_of_scalar? {inBrackets : Bool} {least : Nat} {k after : Cursor} {d : Datum}
    (h : scalar? inBrackets least k = some (d, after)) : d.isKey = true := by
  rw [scalar?] at h
  split at h
  · cases h
    rfl
  · split at h
    · obtain ⟨e, he, heq⟩ := Option.map_eq_some_iff.mp h
      cases heq
      exact isKey_of_plain? he
    · cases h

/-! ## Entries -/

/-- Entries that a mapping may have. -/
structure KeptApart (entries : Entries) : Prop where
  keys : DistinctKeys entries
  values : ∀ e ∈ entries, WellKeyed e.2

theorem keptApart_nil : KeptApart [] :=
  ⟨.nil, List.forall_mem_nil _⟩

theorem KeptApart.setKey {entries : Entries} (h : KeptApart entries) (key : Datum) {value : Datum}
    (hvalue : WellKeyed value) : KeptApart (Datum.setKey key value entries) := by
  refine ⟨h.keys.setKey, fun e he => ?_⟩
  rcases (Datum.mem_setKey he).2 with heq | ⟨f, hf, heq⟩
  · rw [heq]
    exact hvalue
  · rw [← heq]
    exact h.values f hf

theorem KeptApart.dict {entries : Entries} (h : KeptApart entries) : WellKeyed (.dict entries) :=
  .dict h.keys h.values

theorem forall_wellKeyed_append {seen : List Datum} {item : Datum}
    (hseen : ∀ d ∈ seen, WellKeyed d) (hitem : WellKeyed item) :
    ∀ d ∈ seen ++ [item], WellKeyed d := by
  intro d hd
  rcases List.mem_append.mp hd with hd | hd
  · exact hseen d hd
  · rw [List.mem_singleton.mp hd]
    exact hitem

/-! ## Brackets -/

/-- How a list in brackets goes on after an item. -/
def itemsAfter? (fuel : Nat) (seen : List Datum) (item : Datum) (after : Cursor) :
    Option (List Datum × Cursor) :=
  match after.next.chars with
  | ',' :: _ => flowItems? fuel (seen ++ [item]) (after.next.drop 1).next
  | ']' :: _ => some (seen ++ [item], after.next.drop 1)
  | _ => none

/-- How a mapping in braces goes on after an entry. -/
def entriesAfter? (fuel : Nat) (seen : Entries) (key value : Datum) (after : Cursor) :
    Option (Entries × Cursor) :=
  if !key.isKey then none
  else
    match after.next.chars with
    | ',' :: _ => flowEntries? fuel (Datum.setKey key value seen) (after.next.drop 1).next
    | '}' :: _ => some (Datum.setKey key value seen, after.next.drop 1)
    | _ => none

mutual

theorem wellKeyed_flowNode? : {fuel : Nat} → {k after : Cursor} → {d : Datum} →
    flowNode? fuel k = some (d, after) → WellKeyed d
  | 0, _, _, _, h => by cases h
  | fuel + 1, k, after, d, h => by
    rw [flowNode?] at h
    split at h
    · obtain ⟨⟨items, rest⟩, hitems, heq⟩ := Option.map_eq_some_iff.mp h
      cases heq
      exact .list (wellKeyed_flowItems? (List.forall_mem_nil _) hitems)
    · obtain ⟨⟨entries, rest⟩, hentries, heq⟩ := Option.map_eq_some_iff.mp h
      cases heq
      exact (keptApart_flowEntries? keptApart_nil hentries).dict
    · exact .scalar (isKey_of_scalar? h)

theorem wellKeyed_flowValue? : {fuel : Nat} → {closing : Char} → {k after : Cursor} → {d : Datum} →
    flowValue? fuel closing k = some (d, after) → WellKeyed d
  | 0, _, _, _, _, h => by cases h
  | fuel + 1, closing, k, after, d, h => by
    rw [flowValue?] at h
    split at h
    · cases h
    · split at h
      · cases h
        exact .scalar rfl
      · exact wellKeyed_flowNode? h

theorem wellKeyed_flowItems? : {fuel : Nat} → {seen items : List Datum} → {k after : Cursor} →
    (∀ d ∈ seen, WellKeyed d) → flowItems? fuel seen k = some (items, after) →
    ∀ d ∈ items, WellKeyed d
  | 0, _, _, _, _, _, h => by cases h
  | fuel + 1, seen, items, k, after, hseen, h => by
    rw [flowItems?] at h
    split at h
    · cases h
      exact hseen
    · obtain ⟨item, mid, hitem, h⟩ : ∃ item mid, WellKeyed item ∧
          itemsAfter? fuel seen item mid = some (items, after) := by
        dsimp only at h
        split at h
        · obtain ⟨⟨value, mid⟩, hvalue, h⟩ := Option.bind_eq_some_iff.mp h
          exact ⟨_, mid, (keptApart_nil.setKey _ (wellKeyed_flowValue? hvalue)).dict, h⟩
        · obtain ⟨⟨item, mid⟩, hitem, h⟩ := Option.bind_eq_some_iff.mp h
          exact ⟨item, mid, wellKeyed_flowNode? hitem, h⟩
      have hseen := forall_wellKeyed_append hseen hitem
      rw [itemsAfter?] at h
      split at h
      · exact wellKeyed_flowItems? hseen h
      · cases h
        exact hseen
      · cases h

theorem keptApart_flowEntries? : {fuel : Nat} → {seen entries : Entries} → {k after : Cursor} →
    KeptApart seen → flowEntries? fuel seen k = some (entries, after) → KeptApart entries
  | 0, _, _, _, _, _, h => by cases h
  | fuel + 1, seen, entries, k, after, hseen, h => by
    rw [flowEntries?] at h
    split at h
    · cases h
      exact hseen
    · obtain ⟨key, value, mid, hvalue, h⟩ : ∃ key value mid, WellKeyed value ∧
          entriesAfter? fuel seen key value mid = some (entries, after) := by
        dsimp only at h
        split at h
        · obtain ⟨⟨value, mid⟩, hvalue, h⟩ := Option.bind_eq_some_iff.mp h
          exact ⟨_, value, mid, wellKeyed_flowValue? hvalue, h⟩
        · obtain ⟨⟨key, value, mid⟩, hentry, h⟩ := Option.bind_eq_some_iff.mp h
          obtain ⟨r, -, heq⟩ := Option.map_eq_some_iff.mp hentry
          cases heq
          exact ⟨_, .null, _, .scalar rfl, h⟩
      have hseen := hseen.setKey key hvalue
      rw [entriesAfter?] at h
      split at h
      · cases h
      · split at h
        · exact keptApart_flowEntries? hseen h
        · cases h
          exact hseen
        · cases h

end

theorem wellKeyed_inline? {least : Nat} {k after : Cursor} {d : Datum}
    (h : inline? least k = some (d, after)) : WellKeyed d := by
  have hd : flowNode? (4 * k.chars.length + 4) k = some (d, after) ∨
      scalar? false least k = some (d, after) := by
    rw [inline?] at h
    dsimp only at h
    split at h
    all_goals
      obtain ⟨⟨e, mid⟩, he, h⟩ := Option.bind_eq_some_iff.mp h
      dsimp only at h
      split at h
      · cases h
        simp [he]
      · cases h
  rcases hd with hd | hd
  · exact wellKeyed_flowNode? hd
  · exact .scalar (isKey_of_scalar? hd)

/-! ## Blocks -/

/-- How a list in a block goes on after an item. -/
def itemsBelow? (fuel : Nat) (underKey : Bool) (column : Nat) (seen : List Datum) (item : Datum)
    (after : Cursor) : Option (List Datum × Cursor) :=
  let start := after.next
  if start.atEnd || decide (start.column < column) then some (seen ++ [item], after)
  else if start.column = column then
    if startsItem start then items? fuel underKey column (seen ++ [item]) start
    else if underKey then some (seen ++ [item], after)
    else none
  else none

/-- How a mapping in a block goes on after an entry. -/
def entriesBelow? (fuel column : Nat) (seen : Entries) (key value : Datum) (after : Cursor) :
    Option (Entries × Cursor) :=
  let seen := Datum.setKey key value seen
  let start := after.next
  if start.atEnd || decide (start.column < column) then some (seen, after)
  else if start.column = column then entries? fuel column seen start
  else none

mutual

theorem wellKeyed_block? : {fuel least : Nat} → {k after : Cursor} → {d : Datum} →
    block? fuel least k = some (d, after) → WellKeyed d
  | 0, _, _, _, _, h => by cases h
  | fuel + 1, least, k, after, d, h => by
    rw [block?] at h
    split at h
    · obtain ⟨⟨items, rest⟩, hitems, heq⟩ := Option.map_eq_some_iff.mp h
      cases heq
      exact .list (wellKeyed_items? (List.forall_mem_nil _) hitems)
    · split at h
      · obtain ⟨⟨entries, rest⟩, hentries, heq⟩ := Option.map_eq_some_iff.mp h
        cases heq
        exact (keptApart_entries? keptApart_nil hentries).dict
      · exact wellKeyed_inline? h

theorem wellKeyed_items? : {fuel : Nat} → {underKey : Bool} → {column : Nat} →
    {seen items : List Datum} → {k after : Cursor} → (∀ d ∈ seen, WellKeyed d) →
    items? fuel underKey column seen k = some (items, after) → ∀ d ∈ items, WellKeyed d
  | 0, _, _, _, _, _, _, _, h => by cases h
  | fuel + 1, underKey, column, seen, items, k, after, hseen, h => by
    rw [items?] at h
    obtain ⟨item, mid, hitem, h⟩ : ∃ item mid, WellKeyed item ∧
        itemsBelow? fuel underKey column seen item mid = some (items, after) := by
      dsimp only at h
      split at h
      · split at h
        · obtain ⟨⟨item, mid⟩, hitem, h⟩ := Option.bind_eq_some_iff.mp h
          exact ⟨item, mid, wellKeyed_block? hitem, h⟩
        · exact ⟨.null, _, .scalar rfl, h⟩
      · obtain ⟨⟨item, mid⟩, hitem, h⟩ := Option.bind_eq_some_iff.mp h
        exact ⟨item, mid, wellKeyed_block? hitem, h⟩
    have hseen := forall_wellKeyed_append hseen hitem
    rw [itemsBelow?] at h
    split at h
    · cases h
      exact hseen
    · split at h
      · split at h
        · exact wellKeyed_items? hseen h
        · split at h
          · cases h
            exact hseen
          · cases h
      · cases h

theorem keptApart_entries? : {fuel column : Nat} → {seen entries : Entries} → {k after : Cursor} →
    KeptApart seen → entries? fuel column seen k = some (entries, after) → KeptApart entries
  | 0, _, _, _, _, _, _, h => by cases h
  | fuel + 1, column, seen, entries, k, after, hseen, h => by
    rw [entries?] at h
    obtain ⟨⟨key, colon⟩, -, h⟩ := Option.bind_eq_some_iff.mp h
    obtain ⟨value, mid, hvalue, h⟩ : ∃ value mid, WellKeyed value ∧
        entriesBelow? fuel column seen key value mid = some (entries, after) := by
      dsimp only at h
      split at h
      · split at h
        · exact ⟨.null, _, .scalar rfl, h⟩
        · split at h
          · obtain ⟨⟨value, mid⟩, hvalue, h⟩ := Option.bind_eq_some_iff.mp h
            exact ⟨value, mid, wellKeyed_block? hvalue, h⟩
          · split at h
            · obtain ⟨⟨value, mid⟩, hvalue, h⟩ := Option.bind_eq_some_iff.mp h
              obtain ⟨⟨items, rest⟩, hitems, heq⟩ := Option.map_eq_some_iff.mp hvalue
              cases heq
              exact ⟨_, _, .list (wellKeyed_items? (List.forall_mem_nil _) hitems), h⟩
            · exact ⟨.null, _, .scalar rfl, h⟩
      · obtain ⟨⟨value, mid⟩, hvalue, h⟩ := Option.bind_eq_some_iff.mp h
        exact ⟨value, mid, wellKeyed_inline? hvalue, h⟩
    have hseen := hseen.setKey key hvalue
    rw [entriesBelow?] at h
    split at h
    · cases h
      exact hseen
    · split at h
      · exact keptApart_entries? hseen h
      · cases h

end

/-- Every mapping in a settings file has distinct keys. -/
theorem wellKeyed_read? {text : String} {d : Datum} (h : read? text = some d) : WellKeyed d := by
  rw [read?] at h
  split at h
  · cases h
  · dsimp only at h
    split at h
    · cases h
      exact .scalar rfl
    · obtain ⟨⟨e, after⟩, he, h⟩ := Option.bind_eq_some_iff.mp h
      dsimp only at h
      split at h
      · cases h
        exact wellKeyed_block? he
      · cases h

end Yaml
end RiftScript
