/-
# `Rs1722.Avtp.Write` — which PDUs `Avtpdu::write` puts on the wire whole

`Wire` writes the PDUs whose fields agree with one another.  The fields of the headers are
public and a caller can hand `write` any others; what keeps those off the wire stands in
three places:

    a subtype of another family      an error before the first byte      (`write_incompatible`)
    a stream payload over 16 bits    refused by whatever makes one       (`Made.payload_le`)
    a control length field that      a debug assertion, and nothing      (`read_overlong`,
    is not the payload's length      in a build without them              `read_overdeclared`)

So a build without debug assertions writes every PDU whole or refuses it with the buffer as
it was, the control PDUs of the third line excepted (`writesWhole_iff`).
-/
import Rs1722.Avtp.Wire

namespace Rs1722

open Lib

/-! ## The stream payloads a caller can have -/

section Made
variable {io : BitstreamIo} {b : Build}

variable (io b) in
/-- Stream data a caller can have: of the constructor and of the decoder, with its fields set any
number of times. -/
inductive SpecificStreamData.Made : SpecificStreamData → Prop
  | newUnchecked {formatSpecificData : BitVec 2} {formatSpecificData1 : BitVec 7}
      {formatSpecificData2 : Vector UInt8 4} {formatSpecificData3 : Vector UInt8 2}
      {streamDataPayload : List UInt8} {s : SpecificStreamData}
      (h : SpecificStreamData.newUnchecked formatSpecificData formatSpecificData1
        formatSpecificData2 formatSpecificData3 streamDataPayload = .ok s) : Made s
  | decoded {common : CommonHeader} {header : StreamHeader} {r r' : io.Reader}
      (h : StreamHeader.decodeAfterCommon io b common r = (.ok header, r')) : Made header.specific
  | setFormatSpecificData {s : SpecificStreamData} (h : Made s) (formatSpecificData : BitVec 2)
      (formatSpecificData1 : BitVec 7) (formatSpecificData2 : Vector UInt8 4)
      (formatSpecificData3 : Vector UInt8 2) :
      Made ⟨formatSpecificData, formatSpecificData1, formatSpecificData2, formatSpecificData3,
        s.streamDataPayload⟩
  | setStreamDataPayload {s : SpecificStreamData} (h : Made s) (streamDataPayload : List UInt8) :
      Made (SpecificStreamData.setStreamDataPayload streamDataPayload s).2

theorem StreamHeader.decodeAfterCommon_payload {common : CommonHeader} {header : StreamHeader}
    {r r' : io.Reader} (h : decodeAfterCommon io b common r = (.ok header, r')) :
    header.specific.streamDataPayload.length ≤ u16Max := by
  have hsplit : decodeAfterCommon io b common = (do
      assertHeaderType b common .stream
      let hd ← StreamHead.decode io b
      let payload ← readArc io hd.streamDataLength.toNat
      return hd.toHeader common payload) := by
    simp only [decodeAfterCommon, StreamHead.decode, bind_assoc, pure_bind]
    rfl
  rw [hsplit] at h
  obtain ⟨_, r₁, -, h⟩ := Act.bind_ok_iff.mp h
  obtain ⟨hd, r₂, -, h⟩ := Act.bind_ok_iff.mp h
  obtain ⟨payload, r₃, hread, h⟩ := Act.bind_ok_iff.mp h
  obtain rfl := Outcome.ok.inj (Prod.mk.inj h).1
  show payload.length ≤ 65535
  have hlt := hd.streamDataLength.isLt
  have hfield := io.readBytes_spec hd.streamDataLength.toNat r₂
  by_cases hn : (io.ahead r₂).length < 8 * hd.streamDataLength.toNat
  · have herr := hfield.1 hn
    rw [show io.readBytes hd.streamDataLength.toNat r₂ = _ from hread] at herr
    cases herr
  · obtain ⟨p, r₄, hp, -, hlen⟩ := hfield.2 (Nat.not_lt.mp hn)
    rw [show io.readBytes hd.streamDataLength.toNat r₂ = _ from hread] at hp
    obtain rfl := Outcome.ok.inj (Prod.mk.inj hp).1
    rw [bytesBits_length] at hlen
    omega

theorem SpecificStreamData.Made.payload_le {s : SpecificStreamData} (h : s.Made io b) :
    s.streamDataPayload.length ≤ u16Max := by
  induction h with
  | @newUnchecked _ _ _ _ payload s h =>
      unfold SpecificStreamData.newUnchecked at h
      by_cases hlen : u16Max < payload.length
      · rw [if_pos hlen] at h
        cases h
      · rw [if_neg hlen] at h
        obtain rfl := Outcome.ok.inj h
        exact Nat.not_lt.mp hlen
  | decoded h => exact StreamHeader.decodeAfterCommon_payload h
  | setFormatSpecificData h fsd fsd1 fsd2 fsd3 ih => exact ih
  | setStreamDataPayload h payload ih =>
      unfold SpecificStreamData.setStreamDataPayload
      by_cases hlen : u16Max < payload.length
      · rw [if_pos hlen]
        exact ih
      · rw [if_neg hlen]
        exact Nat.not_lt.mp hlen

theorem SpecificStreamData.made_of_payload_le {s : SpecificStreamData}
    (h : s.streamDataPayload.length ≤ u16Max) : s.Made io b :=
  .newUnchecked (if_neg (Nat.not_lt.mpr h))

end Made

namespace Avtpdu

def image : Avtpdu → List Bool
  | .stream h => h.bits
  | .control h => h.bits
  | .alternative h => h.bits

/-- A control PDU of a control subtype whose length field is not its payload's length. -/
def Misdeclared : Avtpdu → Prop
  | .stream _ => False
  | .control h => h.common.subtype.headerType = .control ∧
      h.controlDataLength.toNat ≠ h.controlDataPayload.length
  | .alternative _ => False

section
variable (io : BitstreamIo) (b : Build)

/-- PDUs a caller can have: any header, its stream data made as stream data is. -/
inductive Made : Avtpdu → Prop
  | stream {h : StreamHeader} (hs : h.specific.Made io b) : Made (.stream h)
  | control (h : ControlHeader) : Made (.control h)
  | alternative (h : AlternativeHeader) : Made (.alternative h)

/-- The bytes declare the payload that follows in them, and are read as the PDU, whatever comes
behind them.  Nothing declares the payload of an alternative PDU, and none is read. -/
def Delivers (bytes : List UInt8) : Avtpdu → Prop
  | .stream h => bytes.length = 24 + streamDataLength bytes ∧
      ∀ tail, read io b (bytes ++ tail) = (.ok (.stream h), tail)
  | .control h => bytes.length = 12 + controlDataLength bytes ∧
      ∀ tail, read io b (bytes ++ tail) = (.ok (.control h), tail)
  | .alternative _ => True

/-- A `write` of the PDU fails with the buffer as it was, or appends bytes that deliver it. -/
def WritesWhole (pdu : Avtpdu) : Prop :=
  ∀ buf, (∃ e, pdu.write io b buf = (.err e, buf)) ∨
    ∃ bytes, pdu.write io b buf = (.ok (), buf ++ bytes) ∧ pdu.Delivers io b bytes

end

/-! ## What `write` does with any PDU -/

section Write
variable {io : BitstreamIo} {b : Build}

theorem exists_image (pdu : Avtpdu) : ∃ bytes : List UInt8, bytesBits bytes = pdu.image := by
  have hlen : ∃ n, pdu.image.length = 8 * n := by
    cases pdu with
    | stream h => exact ⟨_, h.bits_length⟩
    | control h => exact ⟨_, h.bits_length⟩
    | alternative h => exact ⟨_, h.bits_length⟩
  obtain ⟨n, hn⟩ := hlen
  exact ⟨bitsBytes n pdu.image, bytesBits_bitsBytes_eq hn⟩

theorem write_incompatible {pdu : Avtpdu} (h : pdu.subtype.headerType ≠ pdu.headerType)
    (buf : List UInt8) : pdu.write io b buf =
      (.err (.specific (.incompatibleSubtype ⟨pdu.subtype, pdu.headerType⟩)), buf) := by
  unfold write
  rw [validateSubtype, if_pos h]

theorem write_image (hb : b.debugAssertions = false) {pdu : Avtpdu} (hmade : pdu.Made io b)
    (hfamily : pdu.subtype.headerType = pdu.headerType) {bytes : List UInt8}
    (hbytes : bytesBits bytes = pdu.image) (buf : List UInt8) :
    pdu.write io b buf = (.ok (), buf ++ bytes) := by
  have hrelease : ¬ b.debugAssertions = true := by
    rw [hb]
    exact Bool.false_ne_true
  refine write_of_puts (if_neg (not_not.mpr hfamily)) ?_ buf
  rw [hbytes]
  cases hmade with
  | stream hs => exact (StreamHeader.puts_encode rfl hfamily hs.payload_le).mapErr _
  | control h => exact (h.puts_encode rfl hfamily fun hd => absurd hd hrelease).mapErr _
  | alternative h => exact (h.puts_encode rfl hfamily fun hd => absurd hd hrelease).mapErr _

theorem WellFormed.delivers {pdu : Avtpdu} (h : pdu.WellFormed) {bytes : List UInt8}
    (hbytes : bytesBits bytes = pdu.bits) : pdu.Delivers io b bytes := by
  have hlen : 8 * bytes.length = 8 * pdu.wireLength := by
    rw [← bytesBits_length, hbytes, h.bits_length]
  have hread : ∀ tail, read io b (bytes ++ tail) = (.ok pdu, tail) := read_image h hbytes
  rw [← List.append_nil pdu.bits] at hbytes
  cases pdu with
  | stream s =>
      refine ⟨?_, hread⟩
      rw [s.streamDataLength_eq h.2 hbytes]
      exact Nat.eq_of_mul_eq_mul_left (by decide) hlen
  | control c =>
      refine ⟨?_, hread⟩
      rw [c.controlDataLength_eq hbytes, h.2]
      exact Nat.eq_of_mul_eq_mul_left (by decide) hlen
  | alternative a => trivial

/-- A length field short of the payload ends the PDU where it says: what is read is the PDU cut
there, and the payload's rest is left to be read as another. -/
theorem read_overlong {h : ControlHeader} (ht : h.common.subtype.headerType = .control)
    (hlen : h.controlDataLength.toNat < h.controlDataPayload.length) {bytes : List UInt8}
    (hbytes : bytesBits bytes = h.bits) (tail : List UInt8) :
    read io b (bytes ++ tail) =
      (.ok (.control { h with
        controlDataPayload := h.controlDataPayload.take h.controlDataLength.toNat }),
        h.controlDataPayload.drop h.controlDataLength.toNat ++ tail) := by
  let n := h.controlDataLength.toNat
  let cut : ControlHeader := { h with controlDataPayload := h.controlDataPayload.take n }
  have hcut : (Avtpdu.control cut).WellFormed :=
    ⟨ht, (List.length_take_of_le (Nat.le_of_lt hlen)).symm⟩
  obtain ⟨first, hfirst, -⟩ := hcut.exists_bytes
  have hsplit : bytes = first ++ h.controlDataPayload.drop n := by
    apply bytesBits_inj
    rw [bytesBits_append, hfirst, hbytes]
    show _ = h.common.bits ++ (h.head.bits ++ bytesBits (h.controlDataPayload.take n)) ++ _
    rw [List.append_assoc, List.append_assoc, ← bytesBits_append, List.take_append_drop]
    rfl
  rw [hsplit, List.append_assoc]
  exact read_image hcut hfirst _

/-- A length field past the payload's end makes the reader wait for bytes that were never
written. -/
theorem read_overdeclared {h : ControlHeader} (ht : h.common.subtype.headerType = .control)
    (hlen : h.controlDataPayload.length < h.controlDataLength.toNat) {bytes : List UInt8}
    (hbytes : bytesBits bytes = h.bits) : (read io b bytes).1 = .err (.io .unexpectedEof) := by
  have hdecl := h.controlDataLength_eq (hbytes.trans (List.append_nil h.bits).symm)
  have htotal := congrArg List.length hbytes
  rw [bytesBits_length, h.bits_length] at htotal
  obtain ⟨rest, rfl⟩ := CommonHeader.first_byte hbytes
  refine (read_control ht rest).1 ?_
  rintro ⟨-, hword⟩
  omega

theorem writesWhole_iff_delivers {pdu : Avtpdu} {bytes : List UInt8}
    (h : ∀ buf, pdu.write io b buf = (.ok (), buf ++ bytes)) :
    pdu.WritesWhole io b ↔ pdu.Delivers io b bytes := by
  constructor
  · intro hwhole
    rcases hwhole [] with ⟨e, he⟩ | ⟨bytes', hok, hdelivers⟩
    · rw [h] at he
      cases he
    · rw [h] at hok
      obtain rfl := List.append_cancel_left (Prod.mk.inj hok).2
      exact hdelivers
  · intro hdelivers buf
    exact Or.inr ⟨bytes, h buf, hdelivers⟩

theorem writesWhole_of_incompatible {pdu : Avtpdu}
    (h : pdu.subtype.headerType ≠ pdu.headerType) : pdu.WritesWhole io b :=
  fun buf => Or.inl ⟨_, write_incompatible h buf⟩

variable (io) in
/-- Without debug assertions a PDU is refused or written whole, except where a control header
declares a length its payload does not have. -/
theorem writesWhole_iff (hb : b.debugAssertions = false) {pdu : Avtpdu} (hmade : pdu.Made io b) :
    pdu.WritesWhole io b ↔ ¬ pdu.Misdeclared := by
  by_cases hfamily : pdu.subtype.headerType = pdu.headerType
  · obtain ⟨bytes, hbytes⟩ := pdu.exists_image
    rw [writesWhole_iff_delivers (write_image hb hmade hfamily hbytes)]
    cases hmade with
    | stream hs =>
        have hwf : (Avtpdu.stream _).WellFormed := ⟨hfamily, hs.payload_le⟩
        exact ⟨fun _ => id, fun _ => hwf.delivers hbytes⟩
    | alternative h => exact ⟨fun _ => id, fun _ => trivial⟩
    | control h =>
        constructor
        · rintro ⟨hlen, -⟩ ⟨-, hne⟩
          have himage := hbytes.trans (List.append_nil h.bits).symm
          rw [h.controlDataLength_eq himage] at hlen
          have htotal := congrArg List.length hbytes
          rw [bytesBits_length, image, h.bits_length] at htotal
          omega
        · intro hno
          have hlen : h.controlDataLength.toNat = h.controlDataPayload.length :=
            not_not.mp fun hne => hno ⟨hfamily, hne⟩
          have hwf : (Avtpdu.control h).WellFormed := ⟨hfamily, hlen⟩
          exact hwf.delivers hbytes
  · refine ⟨fun _ => ?_, fun _ => writesWhole_of_incompatible hfamily⟩
    intro hmis
    cases hmade with
    | stream hs => exact hmis
    | control h => exact hfamily hmis.1
    | alternative h => exact hmis

theorem writesWhole_adp :
    let pdu : Avtpdu := .control {
      common := { subtype := .adp, headerSpecificBit := true, version := 0 }
      formatSpecificData := 5
      controlDataLength := 1
      streamId := ⟨⟨#v[2, 0, 0, 0, 0, 1]⟩, 7⟩
      controlDataPayload := [9] }
    pdu.WritesWhole .bits .release :=
  (writesWhole_iff .bits rfl (.control _)).mpr fun h => h.2 rfl

/-- A discovery PDU with the length field left at zero goes out with a byte nothing declares. -/
theorem adp_undeclared :
    let pdu : Avtpdu := .control {
      common := { subtype := .adp, headerSpecificBit := true, version := 0 }
      formatSpecificData := 5
      controlDataLength := 0
      streamId := ⟨⟨#v[2, 0, 0, 0, 0, 1]⟩, 7⟩
      controlDataPayload := [9] }
    pdu.Made .bits .release ∧ pdu.write .bits .release [] =
      (.ok (), [0xFA, 0x80, 0x28, 0x00, 2, 0, 0, 0, 0, 1, 0, 7, 9]) ∧
      ¬ pdu.WritesWhole .bits .release := by
  intro pdu
  have hwrite : pdu.write .bits .release [] =
      (.ok (), [0xFA, 0x80, 0x28, 0x00, 2, 0, 0, 0, 0, 1, 0, 7, 9]) := by decide
  refine ⟨.control _, hwrite, ?_⟩
  intro h
  rcases h [] with ⟨e, he⟩ | ⟨bytes, hok, hlen, -⟩
  · rw [hwrite] at he
    cases he
  · rw [hwrite] at hok
    obtain rfl := (Prod.mk.inj hok).2
    exact absurd hlen (by decide)

end Write

end Avtpdu

end Rs1722
