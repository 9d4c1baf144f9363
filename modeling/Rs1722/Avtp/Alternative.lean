/-
# `Rs1722.Avtp.Alternative` — what the alternative header's encoder keeps of a payload

The payload of an alternative header starts 12 bits behind a byte boundary.  Each of its bytes
straddles two on the wire, and the nibble it ends in, which is padding, is not written:

    image ++ 4 zero bits = common header ++ payload,
    the payload that is empty being there as one zero byte       (`bits_padding`)

So the image is a whole number of bytes, and it tells any two headers apart that do not say
"nothing" in those two ways (`encode_lossless`).
-/
import Rs1722.Avtp.Format

namespace Rs1722

open Lib

namespace AlternativeHeader

/-- The headers the encoder is meant for: of an alternative subtype, the payload empty or with
padding in the low nibble of its last byte. -/
structure Padded (h : AlternativeHeader) : Prop where
  alternative : h.common.subtype.headerType = .alternative
  nibble : ∀ last, h.alternativeDataPayload.getLast? = some last → last &&& 0x0F = 0

/-- From any byte boundary at which there is room for them, `encode` writes exactly `bytes`, and
ends on a byte boundary. -/
def WrittenAs (io : BitstreamIo) (b : Build) (h : AlternativeHeader) (bytes : List UInt8) : Prop :=
  ∀ w, io.writerAligned w = true →
    Fits (io.capacity w) ((io.written w).length + 8 * bytes.length) →
    ∃ w', h.encode io b w = (.ok (), w') ∧ io.writerAligned w' = true ∧
      io.buffer w' = io.buffer w ++ bytes

def payloadOnWire (h : AlternativeHeader) : List UInt8 :=
  if h.alternativeDataPayload = [] then [0] else h.alternativeDataPayload

/-! ## The nibble that is not written -/

theorem nibbleBits_padding {last : UInt8} (h : last &&& 0x0F = 0) :
    natBits 4 (last >>> 4).toNat ++ natBits 4 0 = byteBits last := by
  have hhigh : (last >>> 4).toNat = last.toNat / 2 ^ 4 := by
    rw [UInt8.toNat_shiftRight, Nat.shiftRight_eq_div_pow]
    rfl
  have hlow : last.toNat % 2 ^ 4 = 0 := by
    have hand := congrArg UInt8.toNat h
    rw [UInt8.toNat_and] at hand
    rwa [← Nat.and_two_pow_sub_one_eq_mod]
  have hpad : natBits 4 last.toNat = natBits 4 0 := natBits_eq_iff.mpr hlow
  rw [byteBits, natBits_append 4 4, hhigh, hpad]

theorem bits_padding {h : AlternativeHeader} (hp : h.Padded) :
    h.bits ++ natBits 4 0 = h.common.bits ++ bytesBits h.payloadOnWire := by
  unfold bits payloadOnWire
  rw [List.append_assoc]
  congr 1
  cases hlast : h.alternativeDataPayload.getLast? with
  | none =>
      rw [if_pos (List.getLast?_eq_none_iff.mp hlast)]
      rfl
  | some last =>
      have hne : h.alternativeDataPayload ≠ [] := by
        intro hnil
        rw [hnil] at hlast
        cases hlast
      have hsplit : h.alternativeDataPayload = h.alternativeDataPayload.dropLast ++ [last] := by
        rw [List.getLast?_eq_some_getLast hne, Option.some_inj] at hlast
        rw [← hlast, List.dropLast_append_getLast]
      rw [if_neg hne]
      conv_rhs => rw [hsplit]
      rw [bytesBits_append, bytesBits_cons, bytesBits_nil, List.append_nil, List.append_assoc,
        nibbleBits_padding (hp.nibble last hlast)]

/-- A payload on the wire is another only if one of them is none and the other is a zero byte. -/
theorem payloadOnWire_inj {h h' : AlternativeHeader} (heq : h.payloadOnWire = h'.payloadOnWire) :
    h.alternativeDataPayload = h'.alternativeDataPayload ∨
      (h.alternativeDataPayload = [] ∧ h'.alternativeDataPayload = [0]) ∨
      (h.alternativeDataPayload = [0] ∧ h'.alternativeDataPayload = []) := by
  unfold payloadOnWire at heq
  by_cases hnil : h.alternativeDataPayload = []
  · by_cases hnil' : h'.alternativeDataPayload = []
    · exact .inl (hnil.trans hnil'.symm)
    · rw [if_pos hnil, if_neg hnil'] at heq
      exact .inr (.inl ⟨hnil, heq.symm⟩)
  · by_cases hnil' : h'.alternativeDataPayload = []
    · rw [if_neg hnil, if_pos hnil'] at heq
      exact .inr (.inr ⟨heq, hnil'⟩)
    · rw [if_neg hnil, if_neg hnil'] at heq
      exact .inl heq

/-! ## The encoder -/

section Encode
variable {io : BitstreamIo} {b : Build} {h : AlternativeHeader}

variable (io b) in
theorem Padded.writtenAs (hp : h.Padded) :
    ∃ bytes, h.WrittenAs io b bytes ∧ bytesBits bytes = h.bits := by
  have hbits := bytesBits_bitsBytes_eq h.bits_length
  refine ⟨_, ?_, hbits⟩
  intro w hal hfit
  refine Puts.bytes ?_ hal hfit
  rw [hbits]
  exact puts_encode (Nat.zero_mod 8) hp.alternative fun _ => hp.nibble

theorem WrittenAs.unique {bytes bytes' : List UInt8} (hw : h.WrittenAs io b bytes)
    (hw' : h.WrittenAs io b bytes') : bytes = bytes' := by
  have hal : io.writerAligned (io.writer []) = true := by
    rw [io.writerAligned_iff, io.written_writer]
    rfl
  have hroom : ∀ n, Fits (io.capacity (io.writer [])) n := by
    intro n
    rw [io.capacity_writer]
    exact fits_growable n
  obtain ⟨w₁, h₁, -, hbuf⟩ := hw _ hal (hroom _)
  obtain ⟨w₂, h₂, -, hbuf'⟩ := hw' _ hal (hroom _)
  obtain rfl := (Prod.mk.inj (h₁.symm.trans h₂)).2
  exact List.append_cancel_left (hbuf.symm.trans hbuf')

/-- From a byte boundary to a byte boundary, an alternative header is written in two bytes, and one
more for each payload byte behind the first; and two headers that are written alike are one, or one
of them has no payload and the other the zero byte. -/
theorem encode_lossless (io : BitstreamIo) (b : Build) {h : AlternativeHeader} (hp : h.Padded) :
    (∃ bytes, h.WrittenAs io b bytes ∧ bytes.length =
      if h.alternativeDataPayload = [] then 2 else h.alternativeDataPayload.length + 1) ∧
    ∀ (h' : AlternativeHeader) (bytes : List UInt8), h'.Padded →
      h.WrittenAs io b bytes → h'.WrittenAs io b bytes →
      h = h' ∨ (h.common = h'.common ∧
        ((h.alternativeDataPayload = [] ∧ h'.alternativeDataPayload = [0]) ∨
          (h.alternativeDataPayload = [0] ∧ h'.alternativeDataPayload = []))) := by
  obtain ⟨image, himage, hbits⟩ := hp.writtenAs io b
  constructor
  · refine ⟨image, himage, ?_⟩
    have hlen := h.bits_length
    rw [← hbits, bytesBits_length] at hlen
    split
    · rename_i hnil
      rw [hnil] at hlen
      simp only [List.length_nil] at hlen
      omega
    · rename_i hne
      have hpos := List.length_pos_iff.mpr hne
      omega
  · intro h' bytes hp' hw hw'
    obtain ⟨image', himage', hbits'⟩ := hp'.writtenAs io b
    have hsame : h.bits = h'.bits := by
      rw [← hbits, ← hbits', himage.unique hw, himage'.unique hw']
    have hfilled : h.common.bits ++ bytesBits h.payloadOnWire =
        h'.common.bits ++ bytesBits h'.payloadOnWire := by
      rw [← bits_padding hp, ← bits_padding hp', hsame]
    obtain ⟨hcommon, hpayload⟩ := List.append_inj hfilled (by simp)
    have hcommon' := CommonHeader.bits_inj hcommon
    rcases payloadOnWire_inj (bytesBits_inj hpayload) with heq | hdiffer
    · exact .inl (AlternativeHeader.ext hcommon' heq)
    · exact .inr ⟨hcommon', hdiffer⟩

end Encode

def crfHeader : AlternativeHeader := ⟨⟨.crf, true, 0⟩, [0x12, 0x30]⟩

theorem crfHeader_padded : crfHeader.Padded where
  alternative := rfl
  nibble := by
    rintro _ ⟨⟩
    rfl

theorem encode_lossless_crf :
    ∃ bytes, crfHeader.WrittenAs BitstreamIo.bits Build.debug bytes ∧ bytes.length = 3 :=
  (encode_lossless BitstreamIo.bits Build.debug crfHeader_padded).1

end AlternativeHeader

end Rs1722
