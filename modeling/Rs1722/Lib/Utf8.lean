/-
# `Rs1722.Lib.Utf8` — texts as bytes

A text is written in UTF-8, and read back from it (`decodeUtf8_encodeUtf8`).  The byte of a line
break is in the bytes of no other character (`lineFeed_mem_encodeUtf8`), so that a text and its bytes
have the same lines.
-/
import Rs1722.Lib.Text

namespace Lib

/-- `str::as_bytes`. -/
def encodeUtf8 (s : Text) : List UInt8 := s.flatMap String.utf8EncodeChar

/-- `str::from_utf8`. -/
def decodeUtf8 (bytes : List UInt8) : Option Text :=
  (String.fromUTF8? bytes.toByteArray).map String.toList

/-- `\n`, as a byte. -/
def lineFeed : UInt8 := 10

theorem encodeUtf8_append (s t : Text) : encodeUtf8 (s ++ t) = encodeUtf8 s ++ encodeUtf8 t :=
  List.flatMap_append

theorem encodeUtf8_lines (texts : List Text) :
    encodeUtf8 (texts.map fun text => text ++ ['\n']).flatten =
      (texts.map fun text => encodeUtf8 text ++ [lineFeed]).flatten := by
  induction texts with
  | nil => rfl
  | cons text texts ih =>
      rw [List.map_cons, List.flatten_cons, encodeUtf8_append, encodeUtf8_append, ih]
      rfl

theorem decodeUtf8_encodeUtf8 (s : Text) : decodeUtf8 (encodeUtf8 s) = some s := by
  have hvalid : (encodeUtf8 s).toByteArray.IsValidUTF8 := .intro s rfl
  have hdecode : String.fromUTF8? (encodeUtf8 s).toByteArray = some (String.ofList s) := by
    unfold String.fromUTF8?
    rw [dif_pos hvalid]
    rfl
  rw [decodeUtf8, hdecode, Option.map_some, String.toList_ofList]

theorem encodeUtf8_eq_nil {s : Text} : encodeUtf8 s = [] ↔ s = [] := by
  constructor
  · intro h
    have hdecode := decodeUtf8_encodeUtf8 s
    rw [h] at hdecode
    exact Option.some.inj (hdecode.symm.trans (decodeUtf8_encodeUtf8 []))
  · rintro rfl
    rfl

theorem eq_of_mem_utf8EncodeChar {c : Char} {b : UInt8} (hb : b.toNat < 128)
    (h : b ∈ String.utf8EncodeChar c) : c.toNat = b.toNat := by
  -- the first byte of several, and the others, have the highest bit set
  have hhigh {x k : Nat} (hmem : b = UInt8.ofNat (x + k)) (hk : 128 ≤ k) (hx : x + k < 256) :
      False := by
    rw [hmem, UInt8.toNat_ofNat', Nat.mod_eq_of_lt hx] at hb
    omega
  unfold String.utf8EncodeChar at h
  dsimp only at h
  split at h
  · rename_i hsmall
    obtain rfl := List.mem_singleton.mp h
    rw [UInt8.toNat_ofNat', Nat.mod_eq_of_lt (Nat.lt_of_le_of_lt hsmall (by decide))]
    rfl
  · exfalso
    split at h
    · rcases List.mem_pair.mp h with hmem | hmem
      · exact hhigh hmem (by omega) (by omega)
      · exact hhigh hmem (by omega) (by omega)
    · split at h
      · simp only [List.mem_cons, List.not_mem_nil, or_false] at h
        rcases h with hmem | hmem | hmem
        · exact hhigh hmem (by omega) (by omega)
        · exact hhigh hmem (by omega) (by omega)
        · exact hhigh hmem (by omega) (by omega)
      · simp only [List.mem_cons, List.not_mem_nil, or_false] at h
        rcases h with hmem | hmem | hmem | hmem
        · exact hhigh hmem (by omega) (by omega)
        · exact hhigh hmem (by omega) (by omega)
        · exact hhigh hmem (by omega) (by omega)
        · exact hhigh hmem (by omega) (by omega)

theorem lineFeed_mem_encodeUtf8 {s : Text} : lineFeed ∈ encodeUtf8 s ↔ '\n' ∈ s := by
  unfold encodeUtf8
  rw [List.mem_flatMap]
  constructor
  · rintro ⟨c, hc, hmem⟩
    have hnat : c.toNat = '\n'.toNat := eq_of_mem_utf8EncodeChar (by decide) hmem
    obtain rfl := Char.toNat_inj.mp hnat
    exact hc
  · intro h
    exact ⟨'\n', h, by decide⟩

end Lib
