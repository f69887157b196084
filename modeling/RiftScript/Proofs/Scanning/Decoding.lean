/-
Files as characters.

A file is read in one of four ways, which exclude one another: as UTF-8 behind a byte order mark, as
UTF-8 without one, as nothing if it ends within a mark, and byte by byte otherwise. The characters
are then put into lines that a newline ends, whatever ended them in the file. The text of a file is
exactly what this leaves, and it never holds a carriage return.
-/
import RiftScript.Source

namespace RiftScript

theorem fromUTF8?_toUTF8 (s : String) : String.fromUTF8? s.toUTF8 = some s := by
  rw [String.fromUTF8?, dif_pos (show s.toUTF8.IsValidUTF8 from s.isValidUTF8)]
  rfl

namespace Source

/-! ## Line ends -/

/-- The second text is the first with a newline in place of each pair of a carriage return and a
newline, and of each carriage return that stands alone. -/
inductive Unified : List Char → List Char → Prop
  | nil : Unified [] []
  | pair {cs out : List Char} : Unified cs out → Unified ('\r' :: '\n' :: cs) ('\n' :: out)
  | lone {cs out : List Char} :
      cs.head? ≠ some '\n' → Unified cs out → Unified ('\r' :: cs) ('\n' :: out)
  | other {c : Char} {cs out : List Char} :
      c ≠ '\r' → Unified cs out → Unified (c :: cs) (c :: out)

theorem unified_joinLines (cs : List Char) : Unified cs (joinLines cs) := by
  fun_induction joinLines cs with
  | case1 => exact .nil
  | case2 rest ih => exact .pair ih
  | case3 cs hcs ih =>
    refine .lone ?_ ih
    intro hhead
    obtain ⟨rest, rfl⟩ := List.head?_eq_some_iff.mp hhead
    exact hcs rest rfl
  | case4 c cs hc ih => exact .other hc ih

namespace Unified

theorem eq_joinLines {cs out : List Char} (h : Unified cs out) : out = joinLines cs := by
  induction h with
  | nil => rfl
  | pair _ ih => rw [joinLines, if_pos rfl, ih]
  | @lone cs out hhead _ ih =>
    cases cs with
    | nil => rw [ih]; rfl
    | cons d ds =>
      have hd : d ≠ '\n' := by simpa using hhead
      simp [joinLines, hd, ih]
  | other hc _ ih =>
    rw [joinLines.eq_def]
    simp [hc, ih]

theorem not_mem_cr {cs out : List Char} (h : Unified cs out) : '\r' ∉ out := by
  induction h with
  | nil => exact List.not_mem_nil
  | pair _ ih => simpa using ih
  | lone _ _ ih => simpa using ih
  | other hc _ ih => simpa [Ne.symm hc] using ih

theorem of_not_mem_cr {cs : List Char} (h : '\r' ∉ cs) : Unified cs cs := by
  induction cs with
  | nil => exact .nil
  | cons c cs ih =>
    rw [List.mem_cons, not_or] at h
    exact .other (Ne.symm h.1) (ih h.2)

end Unified

/-! ## Bytes -/

theorem toList_loop_bytes (bytes : ByteArray) (i : Nat) (seen : List UInt8) :
    ByteArray.toList.loop bytes i seen = seen.reverse ++ bytes.data.toList.drop i := by
  fun_induction ByteArray.toList.loop bytes i seen with
  | case1 i seen hi ih =>
    have hlength : i < bytes.data.toList.length := by simpa using hi
    have hget : bytes.get! i = bytes.data.toList.get ⟨i, hlength⟩ := by
      rw [show bytes.get! i = bytes.data[i]! from rfl, getElem!_pos bytes.data i hi]
      rfl
    rw [ih, List.drop_eq_getElem_cons hlength, hget]
    simp
  | case2 i seen hi =>
    rw [List.drop_eq_nil_of_le (by simpa using Nat.le_of_not_lt hi), List.append_nil]

theorem toList_bytes (bytes : ByteArray) : bytes.toList = bytes.data.toList := by
  simp [ByteArray.toList, toList_loop_bytes]

theorem toList_eq_iff {bytes : ByteArray} {bs : List UInt8} :
    bytes.toList = bs ↔ bytes = bs.toByteArray := by
  rw [toList_bytes]
  constructor
  · rintro rfl
    exact ByteArray.ext (Array.toList_inj.mp List.toList_data_toByteArray.symm)
  · rintro rfl
    exact List.toList_data_toByteArray

theorem utf8Encode_injective {cs ds : List Char} (h : cs.utf8Encode = ds.utf8Encode) : cs = ds := by
  rw [← String.toByteArray_ofList, ← String.toByteArray_ofList] at h
  exact String.ofList_injective (String.toByteArray_inj.mp h)

theorem fromUTF8?_utf8Encode (cs : List Char) :
    String.fromUTF8? cs.utf8Encode = some (String.ofList cs) := by
  rw [← String.toByteArray_ofList]
  exact fromUTF8?_toUTF8 _

theorem fromUTF8?_eq_none {bytes : ByteArray} (h : ∀ cs : List Char, bytes ≠ cs.utf8Encode) :
    String.fromUTF8? bytes = none := by
  rw [String.fromUTF8?, dif_neg]
  rintro ⟨cs, hcs⟩
  exact h cs hcs

/-! ## Marks -/

/-- The file ends within a byte order mark. -/
def CutMark (bytes : ByteArray) : Prop :=
  bytes.toList = [0xEF] ∨ bytes.toList = [0xEF, 0xBB]

theorem not_cutMark_utf8Encode (cs : List Char) : ¬CutMark cs.utf8Encode := by
  have hvalid : cs.utf8Encode.IsValidUTF8 := ByteArray.isValidUTF8_utf8Encode
  rintro (hcut | hcut)
  · rw [toList_eq_iff.mp hcut] at hvalid
    exact absurd hvalid (by decide)
  · rw [toList_eq_iff.mp hcut] at hvalid
    exact absurd hvalid (by decide)

/-- The start of a mark is nothing, the mark itself, or a mark that is cut. -/
theorem isPrefixOf_markBytes {bytes : ByteArray} :
    bytes.toList.isPrefixOf markBytes ↔
      bytes = [].utf8Encode ∨ CutMark bytes ∨ bytes = ['\uFEFF'].utf8Encode := by
  have hempty : ([] : List Char).utf8Encode = ([] : List UInt8).toByteArray := by decide
  have hmark : ['\uFEFF'].utf8Encode = markBytes.toByteArray := by decide
  rw [hempty, hmark, ← toList_eq_iff, ← toList_eq_iff, CutMark, List.isPrefixOf_iff_prefix]
  constructor
  · intro hprefix
    simp only [markBytes, List.prefix_cons_iff, List.prefix_nil, exists_eq_right] at hprefix ⊢
    grind
  · rintro (h | (h | h) | h) <;> rw [h] <;> decide

theorem dropMark_mark (cs : List Char) : dropMark ('\uFEFF' :: cs) = cs :=
  rfl

theorem dropMark_of_head? {cs : List Char} (h : cs.head? ≠ some '\uFEFF') : dropMark cs = cs := by
  cases cs with
  | nil => rfl
  | cons c cs =>
    have hc : c.toNat ≠ 0xFEFF := by
      intro hnat
      exact h (congrArg some (Char.toNat_inj.mp hnat))
    exact if_neg hc

/-! ## Reading -/

/-- The characters that a file stands for. A file in UTF-8 stands for what it encodes, less a byte
order mark at its front. One that ends within such a mark stands for nothing, and any other for the
characters that have its bytes as their numbers. -/
inductive Reading : ByteArray → List Char → Prop
  | marked (text : List Char) : Reading ('\uFEFF' :: text).utf8Encode text
  | unmarked {text : List Char} : text.head? ≠ some '\uFEFF' → Reading text.utf8Encode text
  | cut {bytes : ByteArray} : CutMark bytes → Reading bytes []
  | bytewise {bytes : ByteArray} {text : List Char} :
      (∀ cs : List Char, bytes ≠ cs.utf8Encode) → ¬CutMark bytes →
      text.map Char.toNat = bytes.toList.map UInt8.toNat → Reading bytes text

theorem toNat_latin1 (bytes : ByteArray) :
    (latin1 bytes).map Char.toNat = bytes.toList.map UInt8.toNat := by
  rw [latin1, List.map_map]
  refine List.map_congr_left fun b _ => ?_
  have hvalid : b.toNat.isValidChar := Or.inl (Nat.lt_trans b.toNat_lt (by decide))
  have hchar : Char.ofNat b.toNat = Char.ofNatAux b.toNat hvalid := dif_pos hvalid
  show (Char.ofNat b.toNat).toNat = b.toNat
  rw [hchar]
  exact UInt32.toNat_ofNatLT

theorem decode_utf8Encode (cs : List Char) :
    decode cs.utf8Encode = String.ofList (joinLines (dropMark cs)) := by
  rw [decode]
  by_cases hmark : cs.utf8Encode.toList.isPrefixOf markBytes
  · have hempty : dropMark cs = [] := by
      obtain hnil | hcut | hwhole := isPrefixOf_markBytes.mp hmark
      · rw [utf8Encode_injective hnil]
        rfl
      · exact absurd hcut (not_cutMark_utf8Encode cs)
      · rw [utf8Encode_injective hwhole]
        rfl
    rw [if_pos hmark, hempty]
  · rw [if_neg hmark, fromUTF8?_utf8Encode]
    simp only [String.toList_ofList]

theorem Reading.decode_eq {bytes : ByteArray} {text : List Char} (h : Reading bytes text) :
    decode bytes = String.ofList (joinLines text) := by
  cases h with
  | marked => rw [decode_utf8Encode, dropMark_mark]
  | unmarked hhead => rw [decode_utf8Encode, dropMark_of_head? hhead]
  | cut hcut => rw [decode, if_pos (isPrefixOf_markBytes.mpr (.inr (.inl hcut)))]
  | bytewise hinvalid hcut htext =>
    have hmark : ¬bytes.toList.isPrefixOf markBytes := by
      intro hmark
      obtain hnil | hcut' | hwhole := isPrefixOf_markBytes.mp hmark
      · exact hinvalid _ hnil
      · exact hcut hcut'
      · exact hinvalid _ hwhole
    have hlatin : latin1 bytes = text := by
      refine (List.map_inj_right fun c d => Char.toNat_inj.mp).mp ?_
      rw [toNat_latin1, htext]
    rw [decode, if_neg hmark, fromUTF8?_eq_none hinvalid, ← hlatin]

theorem exists_reading (bytes : ByteArray) : ∃ text, Reading bytes text := by
  by_cases hvalid : ∃ cs : List Char, bytes = cs.utf8Encode
  · obtain ⟨cs, rfl⟩ := hvalid
    by_cases hhead : cs.head? = some '\uFEFF'
    · obtain ⟨text, rfl⟩ := List.head?_eq_some_iff.mp hhead
      exact ⟨text, .marked text⟩
    · exact ⟨cs, .unmarked hhead⟩
  · by_cases hcut : CutMark bytes
    · exact ⟨[], .cut hcut⟩
    · exact ⟨latin1 bytes, .bytewise (not_exists.mp hvalid) hcut (toNat_latin1 bytes)⟩

/-- The text of a file is what the file stands for, with a newline at the end of each line. It holds
no carriage return, and a text without one that starts with no mark is read back from its bytes. -/
theorem decode_eq_iff_reading (bytes : ByteArray) (s : String) :
    (decode bytes = s ↔ ∃ text, Reading bytes text ∧ Unified text s.toList) ∧
      '\r' ∉ (decode bytes).toList ∧
      (s.toList.head? ≠ some '\uFEFF' → '\r' ∉ s.toList → decode s.toUTF8 = s) := by
  refine ⟨⟨?_, ?_⟩, ?_, ?_⟩
  · rintro rfl
    obtain ⟨text, htext⟩ := exists_reading bytes
    refine ⟨text, htext, ?_⟩
    rw [htext.decode_eq, String.toList_ofList]
    exact unified_joinLines text
  · rintro ⟨text, htext, hs⟩
    rw [htext.decode_eq, ← hs.eq_joinLines, String.ofList_toList]
  · obtain ⟨text, htext⟩ := exists_reading bytes
    rw [htext.decode_eq, String.toList_ofList]
    exact (unified_joinLines text).not_mem_cr
  · intro hhead hcr
    have hread : Reading s.toUTF8 s.toList := by
      rw [String.toUTF8_eq_toByteArray, ← String.utf8Encode_toList]
      exact .unmarked hhead
    rw [hread.decode_eq, ← (Unified.of_not_mem_cr hcr).eq_joinLines, String.ofList_toList]

/-- A lone first byte of a mark is not UTF-8, and it is not read as the character of its number. -/
theorem decode_cut_not_bytewise :
    (∀ cs : List Char, ByteArray.mk #[0xEF] ≠ cs.utf8Encode) ∧
      ∀ text : List Char, text.map Char.toNat = (ByteArray.mk #[0xEF]).toList.map UInt8.toNat →
        ¬Unified text (decode ⟨#[0xEF]⟩).toList := by
  have hcut : CutMark ⟨#[0xEF]⟩ := .inl (toList_bytes _)
  refine ⟨?_, ?_⟩
  · intro cs hcs
    exact not_cutMark_utf8Encode cs (hcs ▸ hcut)
  · intro text htext hunified
    have hdecode : (decode ⟨#[0xEF]⟩).toList = [] := by
      rw [(Reading.cut hcut).decode_eq, String.toList_ofList]
      rfl
    rw [hdecode] at hunified
    cases hunified
    rw [toList_bytes] at htext
    exact absurd htext (by decide)

end Source
end RiftScript
