/-
# `Rs1722.Avtp.Wire` — what `Avtpdu::read` accepts, and what `Avtpdu::write` gives back

The wire grammar, stated on byte strings and without a decoder: a stream PDU is 24 bytes
and as many more as its 16-bit length field declares (`StreamWord`), a control PDU 12 bytes
and as many as its 11-bit field declares (`ControlWord`).  `read` is then described by cases
on the first byte, and everything about the two entry points follows from the cases:

    unknown subtype         `Err(UnknownSubtype)`                    (`read_unknown`)
    stream, control         `Ok` on the words, `Err(Io)` elsewhere   (`read_stream`, `read_control`)
    alternative             `Err(Io)` on one byte, a panic on more   (`read_alternative`)
-/
import Rs1722.Avtp.Format

namespace Rs1722

open Lib

/-! ## The grammar -/

/-- `stream_data_length`, where the wire format puts it. -/
def streamDataLength (bytes : List UInt8) : Nat := bitField bytes 160 16

/-- `control_data_length`, where the wire format puts it. -/
def controlDataLength (bytes : List UInt8) : Nat := bitField bytes 21 11

/-- The bytes hold the fixed stream header and the payload it declares. -/
def StreamWord (bytes : List UInt8) : Prop :=
  24 ≤ bytes.length ∧ 24 + streamDataLength bytes ≤ bytes.length

/-- The bytes hold the fixed control header and the payload it declares. -/
def ControlWord (bytes : List UInt8) : Prop :=
  12 ≤ bytes.length ∧ 12 + controlDataLength bytes ≤ bytes.length

instance (bytes : List UInt8) : Decidable (StreamWord bytes) :=
  inferInstanceAs (Decidable (_ ∧ _))

instance (bytes : List UInt8) : Decidable (ControlWord bytes) :=
  inferInstanceAs (Decidable (_ ∧ _))

def Word : List UInt8 → Prop
  | [] => False
  | c :: rest =>
      match Subtype.tryFrom c with
      | .ok s =>
          match s.headerType with
          | .stream => StreamWord (c :: rest)
          | .control => ControlWord (c :: rest)
          | .alternative => False
      | _ => False

theorem word_toU8 (s : Subtype) (rest : List UInt8) : Word (s.toU8 :: rest) ↔
    (s.headerType = .stream ∧ StreamWord (s.toU8 :: rest)) ∨
      (s.headerType = .control ∧ ControlWord (s.toU8 :: rest)) := by
  rw [Word, Subtype.tryFrom_toU8]
  cases hs : s.headerType <;> simp [hs]

theorem not_word_of_unknown {c : UInt8} {rest : List UInt8} (h : ∀ s : Subtype, s.toU8 ≠ c) :
    ¬ Word (c :: rest) := by
  rw [Word, Subtype.tryFrom_unknown h]
  exact id

theorem CommonHeader.first_byte {bytes : List UInt8} {common : CommonHeader} {post : List Bool}
    (h : bytesBits bytes = common.bits ++ post) :
    ∃ rest, bytes = common.subtype.toU8 :: rest := by
  cases bytes with
  | nil =>
      have := congrArg List.length h
      simp at this
      omega
  | cons c rest =>
      rw [bytesBits_cons, CommonHeader.bits, List.append_assoc] at h
      have hc : byteBits c = byteBits common.subtype.toU8 := (List.append_inj h (by simp)).1
      exact ⟨rest, by rw [byteBits_inj hc]⟩

theorem StreamHead.streamDataLength_eq {bytes : List UInt8} {hd : StreamHead}
    (common : CommonHeader) (post : List Bool)
    (h : bytesBits bytes = common.bits ++ (hd.bits ++ post)) :
    Rs1722.streamDataLength bytes = hd.streamDataLength.toNat := by
  have hpre : (common.bits ++ ([hd.mediaClockRestart] ++ (natBits 2 hd.formatSpecificData.toNat ++
      ([hd.avtpTimestampValid] ++ (natBits 8 hd.sequenceNum.toNat ++
      (natBits 7 hd.formatSpecificData1.toNat ++ ([hd.timestampUncertain] ++ (hd.streamId.bits ++
      (natBits 32 hd.avtpTimestamp.toNat ++
      bytesBits hd.formatSpecificData2.toList))))))))).length = 160 := by
    simp
  refine bitField_eq hpre hd.streamDataLength.isLt (bytesBits hd.formatSpecificData3.toList ++ post) ?_
  rw [h]
  simp only [StreamHead.bits, List.append_assoc]

theorem ControlHead.controlDataLength_eq {bytes : List UInt8} {hd : ControlHead}
    (common : CommonHeader) (post : List Bool)
    (h : bytesBits bytes = common.bits ++ (hd.bits ++ post)) :
    Rs1722.controlDataLength bytes = hd.controlDataLength.toNat := by
  have hpre : (common.bits ++ natBits 9 hd.formatSpecificData.toNat).length = 21 := by
    simp
  refine bitField_eq hpre hd.controlDataLength.isLt (hd.streamId.bits ++ post) ?_
  rw [h]
  simp only [ControlHead.bits, List.append_assoc]

theorem StreamHeader.streamDataLength_eq (h : StreamHeader) {bytes : List UInt8} {post : List Bool}
    (hlen : h.specific.streamDataPayload.length ≤ u16Max)
    (hbits : bytesBits bytes = h.bits ++ post) :
    streamDataLength bytes = h.specific.streamDataPayload.length := by
  have himage : bytesBits bytes = h.generic.common.bits ++
      (h.head.bits ++ (bytesBits h.specific.streamDataPayload ++ post)) := by
    rw [hbits, StreamHeader.bits, List.append_assoc, List.append_assoc]
  rw [StreamHead.streamDataLength_eq _ _ himage, StreamHeader.head, BitVec.toNat_ofNat]
  exact Nat.mod_eq_of_lt (Nat.lt_succ_of_le hlen)

theorem ControlHeader.controlDataLength_eq (h : ControlHeader) {bytes : List UInt8}
    {post : List Bool} (hbits : bytesBits bytes = h.bits ++ post) :
    Rs1722.controlDataLength bytes = h.controlDataLength.toNat := by
  have himage : bytesBits bytes = h.common.bits ++
      (h.head.bits ++ (bytesBits h.controlDataPayload ++ post)) := by
    rw [hbits, ControlHeader.bits, List.append_assoc, List.append_assoc]
  rw [ControlHead.controlDataLength_eq _ _ himage]
  rfl

theorem StreamHeader.bits_append_inj {s t : StreamHeader} {x y : List Bool}
    (hs : s.specific.streamDataPayload.length ≤ u16Max)
    (ht : t.specific.streamDataPayload.length ≤ u16Max) (h : s.bits ++ x = t.bits ++ y) :
    s = t ∧ x = y := by
  simp only [StreamHeader.bits, List.append_assoc] at h
  obtain ⟨hcommon, h⟩ := List.append_inj h (by simp)
  obtain ⟨hhead, h⟩ := List.append_inj h (by simp)
  have hcommon := CommonHeader.bits_inj hcommon
  have hhead := StreamHead.bits_inj hhead
  -- both heads declare the same length, so the payloads end together
  have hlen : s.specific.streamDataPayload.length = t.specific.streamDataPayload.length := by
    have hfield := congrArg (fun hd => hd.streamDataLength.toNat) hhead
    have hs : s.specific.streamDataPayload.length ≤ 65535 := hs
    have ht : t.specific.streamDataPayload.length ≤ 65535 := ht
    simp only [StreamHeader.head, BitVec.toNat_ofNat] at hfield
    omega
  obtain ⟨hpayload, hxy⟩ := List.append_inj h (by simp [hlen])
  refine ⟨?_, hxy⟩
  rw [← s.head_toHeader, ← t.head_toHeader, hhead, hcommon, bytesBits_inj hpayload]

theorem ControlHeader.bits_append_inj {c d : ControlHeader} {x y : List Bool}
    (hc : c.controlDataLength.toNat = c.controlDataPayload.length)
    (hd : d.controlDataLength.toNat = d.controlDataPayload.length) (h : c.bits ++ x = d.bits ++ y) :
    c = d ∧ x = y := by
  simp only [ControlHeader.bits, List.append_assoc] at h
  obtain ⟨hcommon, h⟩ := List.append_inj h (by simp)
  obtain ⟨hhead, h⟩ := List.append_inj h (by simp)
  have hcommon := CommonHeader.bits_inj hcommon
  have hhead := ControlHead.bits_inj hhead
  have hlen : c.controlDataPayload.length = d.controlDataPayload.length := by
    rw [← hc, ← hd]
    exact congrArg (fun hd => hd.controlDataLength.toNat) hhead
  obtain ⟨hpayload, hxy⟩ := List.append_inj h (by simp [hlen])
  refine ⟨?_, hxy⟩
  rw [← c.head_toHeader, ← d.head_toHeader, hhead, hcommon, bytesBits_inj hpayload]

namespace Avtpdu

/-- The PDUs the encoders promise to take: the family fits the subtype, and the payload fits
the length field. -/
def WellFormed : Avtpdu → Prop
  | .stream h => h.generic.common.subtype.headerType = .stream ∧
      h.specific.streamDataPayload.length ≤ u16Max
  | .control h => h.common.subtype.headerType = .control ∧
      h.controlDataLength.toNat = h.controlDataPayload.length
  | .alternative _ => False

/-- The number of bytes a stream or control PDU takes. -/
def wireLength : Avtpdu → Nat
  | .stream h => 24 + h.specific.streamDataPayload.length
  | .control h => 12 + h.controlDataPayload.length
  | .alternative _ => 0

def bits : Avtpdu → List Bool
  | .stream h => h.bits
  | .control h => h.bits
  | .alternative _ => []

theorem WellFormed.bits_length {pdu : Avtpdu} (h : pdu.WellFormed) :
    pdu.bits.length = 8 * pdu.wireLength := by
  cases pdu with
  | stream s => exact s.bits_length
  | control c => exact c.bits_length
  | alternative a => exact h.elim

theorem WellFormed.take_bits {pdu : Avtpdu} (h : pdu.WellFormed) (post : List Bool) :
    (pdu.bits ++ post).take 12 = pdu.commonHeader.bits := by
  cases pdu with
  | stream s => simp [bits, StreamHeader.bits, commonHeader, List.take_left']
  | control c => simp [bits, ControlHeader.bits, commonHeader, List.take_left']
  | alternative a => exact h.elim

theorem WellFormed.headerType_eq {pdu : Avtpdu} (h : pdu.WellFormed) :
    pdu.subtype.headerType = pdu.headerType := by
  cases pdu with
  | stream s => exact h.1
  | control c => exact h.1
  | alternative a => exact h.elim

/-- Images are prefix-free: one string starts with the image of at most one PDU. -/
theorem WellFormed.bits_append_inj {p q : Avtpdu} (hp : p.WellFormed) (hq : q.WellFormed)
    {x y : List Bool} (h : p.bits ++ x = q.bits ++ y) : p = q ∧ x = y := by
  -- the common header comes first in both, and settles the family
  have hcommon : p.commonHeader = q.commonHeader := by
    apply CommonHeader.bits_inj
    rw [← hp.take_bits x, h, hq.take_bits y]
  have hfamily : p.headerType = q.headerType := by
    rw [← hp.headerType_eq, subtype, hcommon, ← subtype, hq.headerType_eq]
  cases p with
  | alternative a => exact hp.elim
  | stream s =>
      cases q with
      | alternative a => exact hq.elim
      | control c => cases hfamily
      | stream t =>
          obtain ⟨hst, hxy⟩ := StreamHeader.bits_append_inj hp.2 hq.2 h
          exact ⟨congrArg Avtpdu.stream hst, hxy⟩
  | control c =>
      cases q with
      | alternative a => exact hq.elim
      | stream s => cases hfamily
      | control d =>
          obtain ⟨hcd, hxy⟩ := ControlHeader.bits_append_inj hp.2 hq.2 h
          exact ⟨congrArg Avtpdu.control hcd, hxy⟩

/-! ## Writing -/

section Write
variable {io : BitstreamIo} {b : Build}

theorem puts_encode {pdu : Avtpdu} (h : pdu.WellFormed) {s : Nat} (hs : s % 8 = 0) :
    Puts io s (pdu.encode io b) pdu.bits := by
  cases pdu with
  | stream h' => exact (h'.puts_encode hs h.1 h.2).mapErr _
  | control h' => exact (h'.puts_encode hs h.1 fun _ => h.2).mapErr _
  | alternative h' => exact h.elim

theorem WellFormed.validateSubtype {pdu : Avtpdu} (h : pdu.WellFormed) :
    pdu.validateSubtype = .ok () := if_neg (not_not.mpr h.headerType_eq)

theorem write_of_puts {pdu : Avtpdu} (hvalid : pdu.validateSubtype = .ok ()) {bytes : List UInt8}
    (hencode : Puts io 0 (pdu.encode io b) (bytesBits bytes)) (buf : List UInt8) :
    pdu.write io b buf = (.ok (), buf ++ bytes) := by
  have hputs : Puts io 0 (do pdu.encode io b; assertWriterAligned io b) (bytesBits bytes) := by
    refine Puts.congr (Puts.bind hencode (puts_writerAligned ?_)) (List.append_nil _)
    rw [bytesBits_length]
    omega
  obtain ⟨w, hw, hwritten, -⟩ := hputs (io.writer buf)
    (by rw [io.written_writer, bytesBits_length]; omega)
    (by rw [io.capacity_writer]; exact fits_growable _)
  have hbuf : io.buffer w = buf ++ bytes := by
    apply io.buffer_of_aligned
    rw [hwritten, io.written_writer, bytesBits_append]
  unfold write
  rw [hvalid]
  simp only [hw, hbuf]

theorem write_eq {pdu : Avtpdu} (h : pdu.WellFormed) {bytes : List UInt8}
    (hbytes : bytesBits bytes = pdu.bits) (buf : List UInt8) :
    pdu.write io b buf = (.ok (), buf ++ bytes) := by
  refine write_of_puts h.validateSubtype ?_ buf
  rw [hbytes]
  exact puts_encode h rfl

theorem WellFormed.exists_bytes {pdu : Avtpdu} (h : pdu.WellFormed) :
    ∃ bytes : List UInt8, bytesBits bytes = pdu.bits ∧ bytes.length = pdu.wireLength := by
  exact ⟨bitsBytes pdu.wireLength pdu.bits, bytesBits_bitsBytes_eq h.bits_length,
    bitsBytes_length _ _⟩

end Write

/-! ## Reading -/

section Read
variable {io : BitstreamIo} {b : Build}

theorem read_nil : (read io b []).1 = .err (.io .unexpectedEof) := by
  have hrd : (io.readTo 8 (io.reader [])).1 = .err .unexpectedEof :=
    (io.readTo_spec 8 _).1 (by simp [io.ahead_reader])
  rcases h : io.readTo 8 (io.reader []) with ⟨x, r'⟩
  obtain rfl : x = .err .unexpectedEof := by
    rw [h] at hrd
    exact hrd
  have hsub : Subtype.decode io (io.reader []) = (.err (.io .unexpectedEof), r') :=
    Act.bind_of_err (by simp [h])
  have hcommon : CommonHeader.decode io (io.reader []) = (.err (.io .unexpectedEof), r') := by
    rw [CommonHeader.decode_eq]
    exact Act.bind_of_err hsub
  have hdec : decode io b (io.reader []) = (.err (.io .unexpectedEof), r') :=
    Act.bind_of_err (by simp [hcommon, IOWrapError.mapSpecific])
  simp [read, hdec]

theorem read_unknown {c : UInt8} (rest : List UInt8) (h : ∀ s : Subtype, s.toU8 ≠ c) :
    (read io b (c :: rest)).1 = .err (.specific (.unknownSubtype ⟨c⟩)) := by
  obtain ⟨r', hsub, -⟩ := Subtype.decode_apply (io.ahead_reader (c :: rest))
  rw [Subtype.tryFrom_unknown h] at hsub
  have hcommon : CommonHeader.decode io (io.reader (c :: rest)) = (.err (.specific ⟨c⟩), r') := by
    rw [CommonHeader.decode_eq]
    exact Act.bind_of_err hsub
  have hdec : decode io b (io.reader (c :: rest)) =
      (.err (.specific (.unknownSubtype ⟨c⟩)), r') :=
    Act.bind_of_err (by simp [hcommon, IOWrapError.mapSpecific])
  simp [read, hdec]

def decodeBody (io : BitstreamIo) (b : Build) (s : Subtype) : Act io.Reader IoError Avtpdu := do
  let common ← CommonHeader.decodeFlags io s
  match s.headerType with
  | .stream => do return .stream (← StreamHeader.decodeAfterCommon io b common)
  | .control => do return .control (← ControlHeader.decodeAfterCommon io b common)
  | .alternative => do return .alternative (← AlternativeHeader.decodeAfterCommon io b common)

variable (io b) in
theorem read_known (s : Subtype) (rest : List UInt8) :
    ∃ r', io.ahead r' = bytesBits rest ∧ read io b (s.toU8 :: rest) =
      ((decodeBody io b s r').1.mapErr .io, io.unread (decodeBody io b s r').2) := by
  obtain ⟨r', hsub, hahead⟩ := Subtype.decode_apply (io.ahead_reader (s.toU8 :: rest))
  rw [Subtype.tryFrom_toU8] at hsub
  refine ⟨r', hahead, ?_⟩
  have hdec : decode io b (io.reader (s.toU8 :: rest)) =
      Act.mapErr .io (decodeBody io b s) r' := by
    rw [decode, CommonHeader.decode_eq, Act.mapErr_bind, bind_assoc,
      Act.bind_of_ok (Act.mapErr_ok_iff.mpr hsub), decodeBody]
    simp only [CommonHeader.decodeFlags, Act.mapErr_bind, Act.mapErr_pure, bind_assoc, pure_bind,
      IOWrapError.mapSpecific_io]
    cases s.headerType <;> simp only [Act.mapErr_bind, Act.mapErr_pure]
  simp only [read, hdec, Act.mapErr_apply]

/-- A decoder body that is a fixed part and the payload it declares reads exactly the words of
the grammar. -/
theorem read_lengthPrefixed {α : Type} {s : Subtype} {rest : List UInt8} {m : Nat}
    {d : Act io.Reader IoError α} {k : α → Act io.Reader IoError Avtpdu} {n : α → Nat}
    {P : α → List Bool → Prop} {Q : α → Avtpdu → List Bool → Prop}
    {declared : List UInt8 → Nat} (hbody : decodeBody io b s = d >>= k)
    (hd : Takes io .unexpectedEof 0 d (8 * m) P)
    (hk : ∀ a, Takes io .unexpectedEof 0 (k a) (8 * n a) (Q a))
    (hlen : ∀ a bs bytes post, P a bs → bytesBits bytes = byteBits s.toU8 ++ (bs ++ post) →
      declared bytes = n a)
    (hbits : ∀ a pdu bs bs', P a bs → Q a pdu bs' → bs'.length = 8 * n a →
      byteBits s.toU8 ++ (bs ++ bs') = pdu.bits ∧ pdu.WellFormed) :
    (¬ (1 + m ≤ (s.toU8 :: rest).length ∧
        1 + m + declared (s.toU8 :: rest) ≤ (s.toU8 :: rest).length) →
      (read io b (s.toU8 :: rest)).1 = .err (.io .unexpectedEof)) ∧
    ((1 + m ≤ (s.toU8 :: rest).length ∧
        1 + m + declared (s.toU8 :: rest) ≤ (s.toU8 :: rest).length) →
      ∃ pdu tail, read io b (s.toU8 :: rest) = (.ok pdu, tail) ∧ pdu.WellFormed ∧
        bytesBits (s.toU8 :: rest) = pdu.bits ++ bytesBits tail) := by
  obtain ⟨r, hr, hread⟩ := read_known io b s rest
  have hrlen : (io.ahead r).length = 8 * rest.length := by rw [hr, bytesBits_length]
  obtain ⟨hshort, hlong⟩ := Takes.lengthPrefixed hd hk (r := r) (by omega)
  rw [hread, hbody, List.length_cons]
  by_cases hm : rest.length < m
  · refine ⟨fun _ => ?_, fun h => absurd h.1 (by omega)⟩
    simp [hshort (by omega)]
  obtain ⟨a, bs, post, hsplit, hbslen, hP, herr, hok⟩ := hlong (by omega)
  have hdecl : declared (s.toU8 :: rest) = n a := by
    refine hlen a bs _ post hP ?_
    rw [bytesBits_cons, ← hr, hsplit]
  have hpost : (io.ahead r).length = 8 * m + post.length := by
    rw [hsplit, List.length_append, hbslen]
  rw [hdecl]
  constructor
  · intro h
    simp [herr (by omega)]
  · rintro ⟨-, h⟩
    obtain ⟨pdu, r', bs', hrun, hpost', hbs', hQ⟩ := hok (by omega)
    obtain ⟨himage, hwf⟩ := hbits a pdu bs bs' hP hQ hbs'
    -- the payload ends on a byte boundary, so the reader holds no half-used byte
    have haligned : (io.ahead r').length % 8 = 0 := by
      have := congrArg List.length hpost'
      rw [List.length_append, hbs'] at this
      omega
    have hunread : bytesBits (io.unread r') = io.ahead r' := by
      rw [io.unread_spec, haligned, List.drop_zero]
    refine ⟨pdu, io.unread r', ?_, hwf, ?_⟩
    · rw [hrun]
      rfl
    · rw [hunread, ← himage, bytesBits_cons, ← hr, hsplit, hpost']
      simp only [List.append_assoc]

theorem read_stream {s : Subtype} (hs : s.headerType = .stream) (rest : List UInt8) :
    (¬ StreamWord (s.toU8 :: rest) →
      (read io b (s.toU8 :: rest)).1 = .err (.io .unexpectedEof)) ∧
    (StreamWord (s.toU8 :: rest) → ∃ pdu tail, read io b (s.toU8 :: rest) = (.ok pdu, tail) ∧
      pdu.WellFormed ∧ bytesBits (s.toU8 :: rest) = pdu.bits ++ bytesBits tail) := by
  refine read_lengthPrefixed (m := 23)
    (P := fun p bs => p.1.subtype = s ∧ byteBits s.toU8 ++ bs = p.1.bits ++ p.2.bits)
    (Q := fun p pdu bs => ∃ payload, bs = bytesBits payload ∧
      pdu = .stream (p.2.toHeader p.1 payload))
    (d := do
      let common ← CommonHeader.decodeFlags io s
      let hd ← StreamHead.decode io b
      return (common, hd))
    (k := fun p => do
      let payload ← readArc io p.2.streamDataLength.toNat
      return .stream (p.2.toHeader p.1 payload))
    (n := fun p => p.2.streamDataLength.toNat) ?_ ?_ ?_ ?_ ?_
  · simp only [decodeBody, hs, CommonHeader.decodeFlags, bind_assoc, pure_bind,
      StreamHeader.decodeAfterCommon_eq]
  · have h := Takes.bind (CommonHeader.takes_decodeFlags io s _) fun common =>
      Takes.bind (StreamHead.takes_decode (b := b) rfl) fun hd =>
        takes_pure io IoError.unexpectedEof 0 (common, hd)
    refine Takes.mono h ?_
    rintro _ _ ⟨common, _, _, rfl, ⟨hsub, hcommon⟩, hd, _, _, rfl, rfl, rfl, rfl⟩
    refine ⟨hsub, ?_⟩
    rw [← hcommon, List.append_nil, List.append_assoc]
  · rintro ⟨common, hd⟩
    refine Takes.mono (Takes.bind (takes_readArc _ _) fun payload =>
      takes_pure io IoError.unexpectedEof 0 _) ?_
    rintro _ _ ⟨payload, _, _, rfl, rfl, rfl, rfl⟩
    exact ⟨payload, List.append_nil _, rfl⟩
  · rintro ⟨common, hd⟩ bs bytes post ⟨-, hbs⟩ hbytes
    refine StreamHead.streamDataLength_eq common post ?_
    rw [hbytes, ← List.append_assoc, hbs, List.append_assoc]
  · rintro ⟨common, hd⟩ pdu bs bs' ⟨hsub, hbs⟩ ⟨payload, rfl, rfl⟩ hlen
    have hpay : payload.length = hd.streamDataLength.toNat := by
      rw [bytesBits_length] at hlen
      exact Nat.eq_of_mul_eq_mul_left (by decide) hlen
    have hhead : (hd.toHeader common payload).head = hd := by
      have hfield : BitVec.ofNat 16 payload.length = hd.streamDataLength := by
        rw [hpay, BitVec.ofNat_toNat, BitVec.setWidth_eq]
      exact StreamHead.ext rfl rfl rfl rfl rfl rfl rfl rfl rfl hfield rfl
    refine ⟨?_, ?_, ?_⟩
    · rw [← List.append_assoc, hbs, List.append_assoc, bits, StreamHeader.bits, hhead]
      rfl
    · show common.subtype.headerType = .stream
      rw [hsub, hs]
    · show payload.length ≤ 65535
      have := hd.streamDataLength.isLt
      omega

theorem read_control {s : Subtype} (hs : s.headerType = .control) (rest : List UInt8) :
    (¬ ControlWord (s.toU8 :: rest) →
      (read io b (s.toU8 :: rest)).1 = .err (.io .unexpectedEof)) ∧
    (ControlWord (s.toU8 :: rest) → ∃ pdu tail, read io b (s.toU8 :: rest) = (.ok pdu, tail) ∧
      pdu.WellFormed ∧ bytesBits (s.toU8 :: rest) = pdu.bits ++ bytesBits tail) := by
  refine read_lengthPrefixed (m := 11)
    (P := fun p bs => p.1.subtype = s ∧ byteBits s.toU8 ++ bs = p.1.bits ++ p.2.bits)
    (Q := fun p pdu bs => ∃ payload, bs = bytesBits payload ∧
      pdu = .control (p.2.toHeader p.1 payload))
    (d := do
      let common ← CommonHeader.decodeFlags io s
      let hd ← ControlHead.decode io b
      return (common, hd))
    (k := fun p => do
      let payload ← readArc io p.2.controlDataLength.toNat
      return .control (p.2.toHeader p.1 payload))
    (n := fun p => p.2.controlDataLength.toNat) ?_ ?_ ?_ ?_ ?_
  · simp only [decodeBody, hs, CommonHeader.decodeFlags, bind_assoc, pure_bind,
      ControlHeader.decodeAfterCommon_eq]
  · have h := Takes.bind (CommonHeader.takes_decodeFlags io s _) fun common =>
      Takes.bind (ControlHead.takes_decode (b := b) rfl) fun hd =>
        takes_pure io IoError.unexpectedEof 0 (common, hd)
    refine Takes.mono h ?_
    rintro _ _ ⟨common, _, _, rfl, ⟨hsub, hcommon⟩, hd, _, _, rfl, rfl, rfl, rfl⟩
    refine ⟨hsub, ?_⟩
    rw [← hcommon, List.append_nil, List.append_assoc]
  · rintro ⟨common, hd⟩
    refine Takes.mono (Takes.bind (takes_readArc _ _) fun payload =>
      takes_pure io IoError.unexpectedEof 0 _) ?_
    rintro _ _ ⟨payload, _, _, rfl, rfl, rfl, rfl⟩
    exact ⟨payload, List.append_nil _, rfl⟩
  · rintro ⟨common, hd⟩ bs bytes post ⟨-, hbs⟩ hbytes
    refine ControlHead.controlDataLength_eq common post ?_
    rw [hbytes, ← List.append_assoc, hbs, List.append_assoc]
  · rintro ⟨common, hd⟩ pdu bs bs' ⟨hsub, hbs⟩ ⟨payload, rfl, rfl⟩ hlen
    refine ⟨?_, ?_, ?_⟩
    · rw [← List.append_assoc, hbs, List.append_assoc]
      rfl
    · show common.subtype.headerType = .control
      rw [hsub, hs]
    · rw [bytesBits_length] at hlen
      exact (Nat.eq_of_mul_eq_mul_left (by decide) hlen).symm

variable (io b) in
theorem read_alternative {s : Subtype} (hs : s.headerType = .alternative) (rest : List UInt8) :
    (rest = [] → (read io b (s.toU8 :: rest)).1 = .err (.io .unexpectedEof)) ∧
    (rest ≠ [] → ∃ msg, (read io b (s.toU8 :: rest)).1 = .panic msg) := by
  obtain ⟨r, hr, hread⟩ := read_known io b s rest
  have hflags := CommonHeader.takes_decodeFlags io s 4 r (by simp [hr])
  have hlen : (io.ahead r).length = 8 * rest.length := by rw [hr, bytesBits_length]
  rw [hread, decodeBody, hs]
  constructor
  · rintro rfl
    have herr := hflags.1 (by simp [hlen])
    rcases hc : CommonHeader.decodeFlags io s r with ⟨x, r'⟩
    obtain rfl : x = .err .unexpectedEof := by
      rw [hc] at herr
      exact herr
    rw [Act.bind_of_err hc]
    rfl
  · intro hne
    have hpos : 0 < rest.length := List.length_pos_iff.mpr hne
    obtain ⟨common, r', _, hc, -, -, hsub, -⟩ := hflags.2 (by omega)
    have hpanic : ∃ msg, AlternativeHeader.decodeAfterCommon io b common r' = (.panic msg, r') := by
      rw [← hsub] at hs
      unfold AlternativeHeader.decodeAfterCommon
      rw [assertHeaderType_of hs, pure_bind]
      cases hst : common.subtype <;> exact ⟨_, rfl⟩
    obtain ⟨msg, hpanic⟩ := hpanic
    refine ⟨msg, ?_⟩
    rw [Act.bind_of_ok hc]
    dsimp only
    rw [Act.bind_of_panic hpanic]
    rfl

variable (io b) in
theorem read_of_word {bytes : List UInt8} (h : Word bytes) :
    ∃ pdu tail, read io b bytes = (.ok pdu, tail) ∧ pdu.WellFormed ∧
      bytesBits bytes = pdu.bits ++ bytesBits tail := by
  cases bytes with
  | nil => exact h.elim
  | cons c rest =>
      rcases Subtype.tryFrom_cases c with ⟨s, rfl, -⟩ | ⟨hne, -⟩
      · rcases (word_toU8 s rest).mp h with ⟨hs, hw⟩ | ⟨hs, hw⟩
        · exact (read_stream hs rest).2 hw
        · exact (read_control hs rest).2 hw
      · exact absurd h (not_word_of_unknown hne)

variable (io b) in
/-- Outside the grammar `read` ends in an error, or in the panic of an alternative subtype. -/
theorem read_of_not_word {bytes : List UInt8} (h : ¬ Word bytes) :
    (∃ e, (read io b bytes).1 = .err e) ∨ ∃ msg, (read io b bytes).1 = .panic msg := by
  cases bytes with
  | nil => exact Or.inl ⟨_, read_nil⟩
  | cons c rest =>
      rcases Subtype.tryFrom_cases c with ⟨s, rfl, -⟩ | ⟨hne, -⟩
      · rw [word_toU8] at h
        cases hs : s.headerType with
        | stream => exact Or.inl ⟨_, (read_stream hs rest).1 fun hw => h (Or.inl ⟨hs, hw⟩)⟩
        | control => exact Or.inl ⟨_, (read_control hs rest).1 fun hw => h (Or.inr ⟨hs, hw⟩)⟩
        | alternative =>
            by_cases hr : rest = []
            · exact Or.inl ⟨_, (read_alternative io b hs rest).1 hr⟩
            · exact Or.inr ((read_alternative io b hs rest).2 hr)
      · exact Or.inl ⟨_, read_unknown rest hne⟩

/-- `read` returns `Ok` exactly on the words of the grammar. -/
theorem read_isOk_iff_word {bytes : List UInt8} : (read io b bytes).1.IsOk ↔ Word bytes := by
  constructor
  · intro h
    by_contra hw
    rcases read_of_not_word io b hw with ⟨e, he⟩ | ⟨msg, hmsg⟩
    · rw [he] at h
      exact h
    · rw [hmsg] at h
      exact h
  · intro h
    obtain ⟨pdu, tail, hread, -⟩ := read_of_word io b h
    rw [hread]
    trivial

/-- What `read` accepted is well formed, and the consumed bytes are its image. -/
theorem read_ok {bytes tail : List UInt8} {pdu : Avtpdu}
    (h : read io b bytes = (.ok pdu, tail)) :
    pdu.WellFormed ∧ bytesBits bytes = pdu.bits ++ bytesBits tail := by
  have hok : (read io b bytes).1.IsOk := by
    rw [h]
    trivial
  obtain ⟨p, t, hread, hrest⟩ := read_of_word io b (read_isOk_iff_word.mp hok)
  rw [h] at hread
  obtain ⟨hp, rfl⟩ := Prod.mk.inj hread
  obtain rfl := Outcome.ok.inj hp
  exact hrest

theorem WellFormed.word {pdu : Avtpdu} (h : pdu.WellFormed) {bytes : List UInt8}
    {post : List Bool} (hbits : bytesBits bytes = pdu.bits ++ post) : Word bytes := by
  have hlen : 8 * pdu.wireLength ≤ 8 * bytes.length := by
    rw [← h.bits_length, ← bytesBits_length, hbits, List.length_append]
    exact Nat.le_add_right _ _
  have hle : pdu.wireLength ≤ bytes.length := Nat.le_of_mul_le_mul_left hlen (by decide)
  cases pdu with
  | alternative a => exact h.elim
  | stream s =>
      have hdecl : streamDataLength bytes = s.specific.streamDataPayload.length :=
        s.streamDataLength_eq h.2 hbits
      rw [bits, StreamHeader.bits, List.append_assoc] at hbits
      obtain ⟨rest, rfl⟩ := CommonHeader.first_byte hbits
      refine (word_toU8 _ _).mpr (Or.inl ⟨h.1, ?_⟩)
      simp only [wireLength] at hle
      exact ⟨by omega, by omega⟩
  | control c =>
      have hdecl : controlDataLength bytes = c.controlDataPayload.length :=
        (c.controlDataLength_eq hbits).trans h.2
      rw [bits, ControlHeader.bits, List.append_assoc] at hbits
      obtain ⟨rest, rfl⟩ := CommonHeader.first_byte hbits
      refine (word_toU8 _ _).mpr (Or.inr ⟨h.1, ?_⟩)
      simp only [wireLength] at hle
      exact ⟨by omega, by omega⟩

/-- The image of a well-formed PDU is read as that PDU, whatever is behind it. -/
theorem read_image {pdu : Avtpdu} (h : pdu.WellFormed) {bytes : List UInt8}
    (hbytes : bytesBits bytes = pdu.bits) (tail : List UInt8) :
    read io b (bytes ++ tail) = (.ok pdu, tail) := by
  have himage : bytesBits (bytes ++ tail) = pdu.bits ++ bytesBits tail := by
    rw [bytesBits_append, hbytes]
  obtain ⟨p, t, hread, hp, hpt⟩ := read_of_word io b (h.word himage)
  rw [himage] at hpt
  obtain ⟨rfl, htail⟩ := h.bits_append_inj hp hpt
  rw [hread, bytesBits_inj htail]

end Read

/-! ## The two entry points together -/

section Entry
variable (io : BitstreamIo) (b : Build)

/-- Decoding undoes encoding: a well-formed PDU is written after what the buffer holds, in its
header's bytes and its payload's, and those bytes are read back as it, up to what follows. -/
theorem read_write (pdu : Avtpdu) (h : pdu.WellFormed) (buf : List UInt8) :
    ∃ bytes, pdu.write io b buf = (.ok (), buf ++ bytes) ∧ bytes.length = pdu.wireLength ∧
      ∀ tail, read io b (bytes ++ tail) = (.ok pdu, tail) := by
  obtain ⟨bytes, hbytes, hlen⟩ := h.exists_bytes
  exact ⟨bytes, write_eq h hbytes buf, hlen, read_image h hbytes⟩

theorem read_write_aaf :
    let pdu : Avtpdu := .stream {
      generic := {
        common := { subtype := .aaf, headerSpecificBit := true, version := 0 }
        mediaClockRestart := false
        avtpTimestampValid := true
        sequenceNum := 255
        timestampUncertain := false
        streamId := ⟨⟨#v[2, 0, 0, 0, 0, 1]⟩, 7⟩
        avtpTimestamp := ⟨1000⟩ }
      specific := {
        formatSpecificData := 1
        formatSpecificData1 := 5
        formatSpecificData2 := #v[2, 0x50, 0x20, 16]
        formatSpecificData3 := #v[0, 0]
        streamDataPayload := [1, 2, 3] } }
    ∃ bytes, pdu.write .bits .debug [] = (.ok (), [] ++ bytes) ∧ bytes.length = 27 ∧
      ∀ tail, read .bits .debug (bytes ++ tail) = (.ok pdu, tail) := by
  intro pdu
  have hpdu : pdu.WellFormed := ⟨rfl, by decide⟩
  exact read_write .bits .debug pdu hpdu []

/-- The parser accepts exactly its grammar, names what it does not know, and is canonical:
writing what it accepted gives back the bytes it consumed. -/
theorem read_grammar (bytes : List UInt8) :
    (∀ (s : Subtype) (rest : List UInt8), bytes = s.toU8 :: rest → s.headerType = .stream →
      ((read io b bytes).1.IsOk ↔ StreamWord bytes) ∧
        (¬ StreamWord bytes → ∃ e, (read io b bytes).1 = .err (.io e))) ∧
    (∀ (s : Subtype) (rest : List UInt8), bytes = s.toU8 :: rest → s.headerType = .control →
      ((read io b bytes).1.IsOk ↔ ControlWord bytes) ∧
        (¬ ControlWord bytes → ∃ e, (read io b bytes).1 = .err (.io e))) ∧
    (∀ (c : UInt8) (rest : List UInt8), bytes = c :: rest → (∀ s : Subtype, s.toU8 ≠ c) →
      (read io b bytes).1 = .err (.specific (.unknownSubtype ⟨c⟩))) ∧
    ∀ (pdu : Avtpdu) (tail : List UInt8), read io b bytes = (.ok pdu, tail) →
      ∃ consumed, bytes = consumed ++ tail ∧
        ∀ buf, pdu.write io b buf = (.ok (), buf ++ consumed) := by
  refine ⟨?_, ?_, ?_, ?_⟩
  · rintro s rest rfl hs
    refine ⟨?_, fun hw => ⟨_, (read_stream hs rest).1 hw⟩⟩
    rw [read_isOk_iff_word, word_toU8]
    simp [hs]
  · rintro s rest rfl hs
    refine ⟨?_, fun hw => ⟨_, (read_control hs rest).1 hw⟩⟩
    rw [read_isOk_iff_word, word_toU8]
    simp [hs]
  · rintro c rest rfl hne
    exact read_unknown rest hne
  · intro pdu tail h
    obtain ⟨hwf, hbits⟩ := read_ok h
    obtain ⟨consumed, hconsumed, -⟩ := hwf.exists_bytes
    rw [← hconsumed, ← bytesBits_append] at hbits
    exact ⟨consumed, bytesBits_inj hbits, write_eq hwf hconsumed⟩

/-- `read` panics on the bytes of an alternative subtype as soon as one more byte is there, and
on no others. -/
theorem read_returns_iff (bytes : List UInt8) :
    (read io b bytes).1.Returns ↔
      ¬ ∃ (s : Subtype) (d : UInt8) (rest : List UInt8),
        bytes = s.toU8 :: d :: rest ∧ s.headerType = .alternative := by
  constructor
  · rintro h ⟨s, d, rest, rfl, hs⟩
    obtain ⟨msg, hpanic⟩ :=
      (read_alternative io b hs (d :: rest)).2 (List.cons_ne_nil d rest)
    rw [hpanic] at h
    exact h
  · intro h
    cases bytes with
    | nil =>
        rw [read_nil]
        trivial
    | cons c rest =>
        rcases Subtype.tryFrom_cases c with ⟨s, rfl, -⟩ | ⟨hne, -⟩
        · by_cases hw : Word (s.toU8 :: rest)
          · obtain ⟨pdu, tail, hread, -⟩ := read_of_word io b hw
            rw [hread]
            trivial
          · rw [word_toU8] at hw
            cases hs : s.headerType with
            | stream =>
                rw [(read_stream hs rest).1 fun hx => hw (Or.inl ⟨hs, hx⟩)]
                trivial
            | control =>
                rw [(read_control hs rest).1 fun hx => hw (Or.inr ⟨hs, hx⟩)]
                trivial
            | alternative =>
                cases rest with
                | nil =>
                    rw [(read_alternative io b hs []).1 rfl]
                    trivial
                | cons d rest => exact absurd ⟨s, d, rest, rfl, hs⟩ h
        · rw [read_unknown rest hne]
          trivial

/-- A clock reference packet of two bytes aborts the parser. -/
theorem read_crf_panics :
    ¬ ∀ bytes : List UInt8, (read .bits .release bytes).1.Returns := by
  intro h
  exact absurd (h [0x04, 0x00]) (by decide)

end Entry

end Avtpdu

end Rs1722
