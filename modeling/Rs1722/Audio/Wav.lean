/-
# `Rs1722.Audio.Wav` — WAV files, read and written

`src/audio/wav.rs`.  A file is the RIFF header and chunks; reading sorts the chunks into
what stands before the `fmt ` chunk, the `fmt ` chunk as a header and its extension bytes,
what stands before the `data` chunk, the data, and what follows.  Readers are byte strings,
writers growable buffers.

The two loops of the source are loops over turns; each turn that goes on has taken a chunk
header (`turn_consuming`, `afterDataTurn_consuming`).
-/
import Rs1722.Lib.Endian
import Rs1722.Lib.Loop
import Rs1722.Lib.MachineInt

namespace Rs1722

open Lib

abbrev ChunkId := Vector UInt8 4

namespace ChunkId

/-- `RIFF`. -/
def riff : ChunkId := #v[0x52, 0x49, 0x46, 0x46]

/-- `WAVE`. -/
def wave : ChunkId := #v[0x57, 0x41, 0x56, 0x45]

/-- `FMT`. -/
def fmt : ChunkId := #v[0x66, 0x6D, 0x74, 0x20]

/-- `DATA`. -/
def data : ChunkId := #v[0x64, 0x61, 0x74, 0x61]

end ChunkId

/-- `WAVE_FORMAT_EXTENSIBLE`. -/
def waveFormatExtensible : UInt16 := 0xFFFE

/-- `KS_SUBFORMAT_GUID_SUFFIX`. -/
def ksSubformatGuidSuffix : List UInt8 :=
  [0x00, 0x00, 0x00, 0x00, 0x10, 0x00, 0x80, 0x00, 0x00, 0xAA, 0x00, 0x38, 0x9B, 0x71]

/-- `WavError`. -/
inductive WavError where
  | invalidMagic (found expected : ChunkId)
  /-- `expected_size` is the range from `least` to `most`. -/
  | invalidChunkSize (chunkId : ChunkId) (foundSize least most : UInt32)
  | dataBeforeFmt
  | missingFmtChunk
  | missingDataChunk
  | io (e : IoError)
  deriving DecidableEq, Repr

/-! ## Chunks -/

/-- `WavChunk`. -/
structure WavChunk where
  chunkId : ChunkId
  data : List UInt8
  deriving DecidableEq, Repr

/-- `ChunkHeader`. -/
structure ChunkHeader where
  chunkId : ChunkId
  chunkSize : UInt32
  deriving DecidableEq, Repr

/-- `ChunkHeader::read`.  Running out inside the identifier is the end of the list. -/
def ChunkHeader.read : Act (List UInt8) WavError (Option ChunkHeader) := do
  match ← Act.result (readArray 4) with
  | .error .unexpectedEof => return none
  | .error err => Act.fail (.io err)
  | .ok chunkId =>
      let sizeBuf ← Act.mapErr .io (readArray 4)
      return some ⟨chunkId, u32FromLe sizeBuf.toList⟩

def ChunkHeader.bytes (header : ChunkHeader) : List UInt8 :=
  header.chunkId.toList ++ u32ToLe header.chunkSize

@[simp] theorem ChunkHeader.bytes_length (header : ChunkHeader) : header.bytes.length = 8 := by
  unfold bytes
  rw [List.length_append, u32ToLe_length, Vector.length_toList]

theorem ChunkHeader.consumes_read (header : ChunkHeader) :
    Consumes ChunkHeader.read header.bytes (some header) := by
  let size : Vector UInt8 4 := ⟨(u32ToLe header.chunkSize).toArray, u32ToLe_length _⟩
  have hsize : Consumes (Act.mapErr WavError.io (readArray 4)) (u32ToLe header.chunkSize) size :=
    (consumes_readArray size).mapErr .io
  have hheader : some (⟨header.chunkId, u32FromLe size.toList⟩ : ChunkHeader) = some header := by
    rw [show u32FromLe size.toList = header.chunkSize from u32FromLe_toLe _]
  refine Consumes.bind (consumes_readArray header.chunkId).result ?_
  rw [← hheader]
  exact hsize.bind_pure fun sizeBuf => some (⟨header.chunkId, u32FromLe sizeBuf.toList⟩ : ChunkHeader)

theorem ChunkHeader.read_cases (s : List UInt8) :
    (s.length < 4 ∧ ChunkHeader.read s = (.ok none, [])) ∨
      ((4 ≤ s.length ∧ s.length < 8) ∧ ChunkHeader.read s = (.err (.io .unexpectedEof), [])) ∨
      ∃ (header : ChunkHeader) (s' : List UInt8), s = header.bytes ++ s' ∧
        ChunkHeader.read s = (.ok (some header), s') := by
  rcases readArray_cases 4 s with ⟨hlen, hid⟩ | ⟨chunkId, s₁, rfl, hid⟩
  · left
    exact ⟨hlen, Act.bind_of_ok (Act.result_of_err hid)⟩
  · right
    rcases readArray_cases 4 s₁ with ⟨hlen, hsize⟩ | ⟨size, s₂, rfl, hsize⟩
    · left
      constructor
      · rw [List.length_append, chunkId.length_toList]
        omega
      · refine (Act.bind_of_ok (Act.result_of_ok hid)).trans ?_
        exact Act.bind_of_err (Act.mapErr_of_err hsize)
    · right
      let header : ChunkHeader := ⟨chunkId, u32FromLe size.toList⟩
      have hs : chunkId.toList ++ (size.toList ++ s₂) = header.bytes ++ s₂ := by
        unfold bytes
        rw [List.append_assoc, u32ToLe_fromLe size.length_toList]
      refine ⟨header, s₂, hs, ?_⟩
      rw [hs]
      exact header.consumes_read s₂

theorem ChunkHeader.read_some {header : ChunkHeader} {s s' : List UInt8}
    (h : ChunkHeader.read s = (.ok (some header), s')) : s = header.bytes ++ s' := by
  rcases ChunkHeader.read_cases s with ⟨-, hread⟩ | ⟨-, hread⟩ | ⟨header₁, s₁, rfl, hread⟩
  · rw [hread] at h
    cases (Prod.mk.inj h).1
  · rw [hread] at h
    cases (Prod.mk.inj h).1
  · rw [hread] at h
    obtain ⟨hsome, rfl⟩ := Prod.mk.inj h
    rw [Option.some.inj (Outcome.ok.inj hsome)]

/-- `skip_chunk_padding`. -/
def skipChunkPadding (chunkSize : UInt32) : Act (List UInt8) IoError Unit := do
  if chunkSize.toNat % 2 = 1 then
    let _ ← readExact 1

theorem consumes_skipChunkPadding {chunkSize : UInt32} {padding : List UInt8}
    (h : padding.length = chunkSize.toNat % 2) :
    Consumes (skipChunkPadding chunkSize) padding () := by
  unfold skipChunkPadding
  split
  · rename_i hodd
    exact (consumes_readExact (h.trans hodd)).bind_pure fun _ => ()
  · rename_i heven
    have hzero : padding = [] := List.eq_nil_of_length_eq_zero (by omega)
    rw [hzero]
    exact consumes_pure ()

theorem skipChunkPadding_cases (chunkSize : UInt32) (s : List UInt8) :
    skipChunkPadding chunkSize s = (.err .unexpectedEof, []) ∨
      ∃ padding s', s = padding ++ s' ∧ padding.length = chunkSize.toNat % 2 ∧
        skipChunkPadding chunkSize s = (.ok (), s') := by
  by_cases hodd : chunkSize.toNat % 2 = 1
  · rcases readExact_cases 1 s with ⟨-, hread⟩ | ⟨padding, s', rfl, hlen, -⟩
    · left
      unfold skipChunkPadding
      rw [if_pos hodd]
      exact Act.bind_of_err hread
    · right
      have hpad : padding.length = chunkSize.toNat % 2 := hlen.trans hodd.symm
      exact ⟨padding, s', rfl, hpad, consumes_skipChunkPadding hpad s'⟩
  · right
    have hpad : ([] : List UInt8).length = chunkSize.toNat % 2 := by
      rw [List.length_nil]
      omega
    exact ⟨[], s, rfl, hpad, consumes_skipChunkPadding hpad s⟩

namespace WavChunk

/-- `WavChunk::read`. -/
def read (header : ChunkHeader) : Act (List UInt8) WavError WavChunk := do
  let data ← Act.mapErr .io (readExact header.chunkSize.toNat)
  Act.mapErr .io (skipChunkPadding header.chunkSize)
  return ⟨header.chunkId, data⟩

theorem consumes_read {header : ChunkHeader} {data padding : List UInt8}
    (hdata : data.length = header.chunkSize.toNat)
    (hpadding : padding.length = header.chunkSize.toNat % 2) :
    Consumes (read header) (data ++ padding) ⟨header.chunkId, data⟩ := by
  refine Consumes.bind ((consumes_readExact hdata).mapErr WavError.io) ?_
  exact ((consumes_skipChunkPadding hpadding).mapErr WavError.io).bind_pure
    fun _ => (⟨header.chunkId, data⟩ : WavChunk)

theorem read_cases (header : ChunkHeader) (s : List UInt8) :
    read header s = (.err (.io .unexpectedEof), []) ∨
      ∃ data padding s', s = data ++ padding ++ s' ∧ data.length = header.chunkSize.toNat ∧
        padding.length = header.chunkSize.toNat % 2 ∧
        read header s = (.ok ⟨header.chunkId, data⟩, s') := by
  rcases readExact_cases header.chunkSize.toNat s with ⟨-, hread⟩ | ⟨data, s₁, rfl, hdata, hread⟩
  · left
    exact Act.bind_of_err (Act.mapErr_of_err hread)
  · rcases skipChunkPadding_cases header.chunkSize s₁ with hskip | ⟨padding, s₂, rfl, hpadding, -⟩
    · left
      refine (Act.bind_of_ok (Act.mapErr_ok_iff.mpr hread)).trans ?_
      exact Act.bind_of_err (Act.mapErr_of_err hskip)
    · right
      refine ⟨data, padding, s₂, (List.append_assoc _ _ _).symm, hdata, hpadding, ?_⟩
      rw [← List.append_assoc]
      exact consumes_read hdata hpadding s₂

/-- What a chunk that was read was read from. -/
theorem read_ok {header : ChunkHeader} {chunk : WavChunk} {s s' : List UInt8}
    (h : read header s = (.ok chunk, s')) :
    ∃ padding, s = chunk.data ++ padding ++ s' ∧ chunk.chunkId = header.chunkId ∧
      chunk.data.length = header.chunkSize.toNat ∧
      padding.length = header.chunkSize.toNat % 2 := by
  rcases read_cases header s with hread | ⟨data, padding, s₁, rfl, hdata, hpadding, hread⟩
  · rw [hread] at h
    cases (Prod.mk.inj h).1
  · rw [hread] at h
    obtain ⟨hchunk, rfl⟩ := Prod.mk.inj h
    obtain rfl := Outcome.ok.inj hchunk
    exact ⟨padding, rfl, rfl, hdata, hpadding⟩

theorem read_shrinks {header : ChunkHeader} {chunk : WavChunk} {s s' : List UInt8}
    (h : read header s = (.ok chunk, s')) : s'.length ≤ s.length := by
  obtain ⟨padding, rfl, -⟩ := read_ok h
  rw [List.length_append]
  exact Nat.le_add_left _ _

/-- `WavChunk::write`. -/
def write (chunk : WavChunk) : Act (List UInt8) IoError Unit := do
  let dataLen ← Act.lift (Outcome.okOr
    (.invalidInput "chunk payload is too large to fit into a RIFF chunk size field")
    (u32TryFrom chunk.data.length))
  writeAll chunk.chunkId.toList
  writeAll (u32ToLe dataLen)
  writeAll chunk.data
  if chunk.data.length % 2 = 1 then
    writeAll [0]

/-- `WavChunk::serialized_size`. -/
def serializedSize (chunk : WavChunk) : Nat :=
  8 + chunk.data.length + chunk.data.length % 2

/-- `chunks.iter().map(WavChunk::serialized_size).sum::<usize>()`. -/
def serializedSizes (chunks : List WavChunk) : Nat := (chunks.map serializedSize).sum

end WavChunk

/-! ## The `fmt ` chunk -/

/-- `WavAudioFormat`. -/
inductive WavAudioFormat where
  | pcm
  | ieeeFloat
  | other (tag : UInt16)
  deriving DecidableEq, Repr

/-- `WavAudioFormat::from`. -/
def WavAudioFormat.from (tag : UInt16) : WavAudioFormat :=
  if tag = 0x0001 then .pcm else if tag = 0x0003 then .ieeeFloat else .other tag

/-- `u16::from`. -/
def WavAudioFormat.tag : WavAudioFormat → UInt16
  | .pcm => 0x0001
  | .ieeeFloat => 0x0003
  | .other tag => tag

/-- `WavHeader`. -/
structure WavHeader where
  channels : UInt16
  sampleRate : UInt32
  bitsPerSample : UInt16
  validBitsPerSample : UInt16
  audioFormat : WavAudioFormat
  deriving DecidableEq, Repr

/-- `u16::from_le_bytes([data[i], data[i + 1]])`. -/
def u16At (data : List UInt8) (i : Nat) : UInt16 := u16FromLe ((data.drop i).take 2)

/-- `u32::from_le_bytes([data[i], data[i + 1], data[i + 2], data[i + 3]])`. -/
def u32At (data : List UInt8) (i : Nat) : UInt32 := u32FromLe ((data.drop i).take 4)

namespace WavHeader

variable (b : Build)

/-- `WavHeader::from_fmt_chunk_unchecked`. -/
def fromFmtChunkUnchecked (chunk : WavChunk) : Outcome WavError WavHeader := do
  b.debugAssert (chunk.chunkId = ChunkId.fmt) "expected a b\"fmt \" chunk"
  let foundSize := (u32TryFrom chunk.data.length).getD 0xFFFFFFFF
  if chunk.data.length < 16 then
    .err (.invalidChunkSize chunk.chunkId foundSize 16 0xFFFFFFFF)
  else
    let rawAudioFormat := WavAudioFormat.from (u16At chunk.data 0)
    let bitsPerSample := u16At chunk.data 14
    let (audioFormat, validBitsPerSample) ←
      if rawAudioFormat = .other waveFormatExtensible then
        if chunk.data.length < 40 then
          .err (.invalidChunkSize chunk.chunkId foundSize 40 0xFFFFFFFF)
        else
          let rawValidBits := u16At chunk.data 18
          let validBitsPerSample := if rawValidBits = 0 then bitsPerSample else rawValidBits
          let subformat := (chunk.data.drop 24).take 16
          let audioFormat :=
            if subformat.drop 2 = ksSubformatGuidSuffix then
              WavAudioFormat.from (u16At subformat 0)
            else .other (u16At subformat 0)
          .ok (audioFormat, validBitsPerSample)
      else .ok (rawAudioFormat, bitsPerSample)
    .ok {
      audioFormat
      channels := u16At chunk.data 2
      sampleRate := u32At chunk.data 4
      bitsPerSample
      validBitsPerSample }

/-- `WavHeader::needs_extensible_format`. -/
def needsExtensibleFormat (header : WavHeader) : Bool :=
  header.validBitsPerSample != header.bitsPerSample || header.channels > 2 ||
    header.audioFormat == .pcm && header.bitsPerSample > 16

/-- `WavHeader::extensible_fmt_extension`. -/
def extensibleFmtExtension (header : WavHeader) : List UInt8 :=
  u16ToLe 22 ++ u16ToLe header.validBitsPerSample ++ u32ToLe 0 ++
    u16ToLe header.audioFormat.tag ++ ksSubformatGuidSuffix

/-- `WavHeader::into_wav_chunk`.  It has no error; an overflowing product panics where the
build checks for it. -/
def intoWavChunk {ε : Type} (header : WavHeader) (fmtExtension : List UInt8) :
    Outcome ε WavChunk := do
  let needsExtensible := fmtExtension.length ≥ 24 || header.needsExtensibleFormat
  let extension :=
    if fmtExtension.isEmpty && needsExtensible then header.extensibleFmtExtension
    else fmtExtension
  let formatTag := if needsExtensible then waveFormatExtensible else header.audioFormat.tag
  let sampleBytes := (header.bitsPerSample / 8).toNat
  let channelRate ← b.unsigned 32 (header.sampleRate.toNat * header.channels.toNat)
  let byteRate ← b.unsigned 32 (channelRate * sampleBytes)
  let blockAlign ← b.unsigned 16 (header.channels.toNat * sampleBytes)
  return ⟨ChunkId.fmt, u16ToLe formatTag ++ u16ToLe header.channels ++
    u32ToLe header.sampleRate ++ u32ToLe (.ofNat byteRate) ++ u16ToLe (.ofNat blockAlign) ++
    u16ToLe header.bitsPerSample ++ extension⟩

end WavHeader

/-! ## The preamble -/

/-- `WavPreamble`. -/
structure WavPreamble where
  chunksBeforeFmt : List WavChunk
  header : WavHeader
  fmtExtension : List UInt8
  chunksBeforeData : List WavChunk
  dataSize : UInt32
  deriving DecidableEq, Repr

namespace WavPreamble

variable (b : Build)

/-- `WavPreamble::read_riff_header`. -/
def readRiffHeader : Act (List UInt8) WavError Unit := do
  let buf ← Act.mapErr .io (readArray 4)
  if buf ≠ ChunkId.riff then Act.fail (.invalidMagic buf ChunkId.riff)
  else
    let _ ← Act.mapErr .io (readArray 4)
    let buf ← Act.mapErr .io (readArray 4)
    if buf ≠ ChunkId.wave then Act.fail (.invalidMagic buf ChunkId.wave)
    else return ()

/-- `WavPreamble::write_riff_header`. -/
def writeRiffHeader (riffSize : UInt32) : Act (List UInt8) IoError Unit := do
  writeAll ChunkId.riff.toList
  writeAll (u32ToLe riffSize)
  writeAll ChunkId.wave.toList

/-- The variables of the loop in `WavPreamble::read`. -/
structure Progress where
  chunksBeforeFmt : List WavChunk := []
  chunksBeforeData : List WavChunk := []
  header : Option WavHeader := none
  fmtExtension : List UInt8 := []

/-- Where the loop puts a chunk that is not `data`. -/
def Progress.place (p : Progress) (chunk : WavChunk) : Outcome WavError Progress := do
  if chunk.chunkId = ChunkId.fmt then
    let decoded ← WavHeader.fromFmtChunkUnchecked b chunk
    return { p with fmtExtension := chunk.data.drop 16, header := some decoded }
  else if p.header.isSome then
    return { p with chunksBeforeData := p.chunksBeforeData ++ [chunk] }
  else
    return { p with chunksBeforeFmt := p.chunksBeforeFmt ++ [chunk] }

/-- The body of the loop in `WavPreamble::read`. -/
def turn (p : Progress) : Act (List UInt8) WavError (Turn Progress WavPreamble) := do
  match ← ChunkHeader.read with
  | none => Act.fail (if p.header.isSome then .missingDataChunk else .missingFmtChunk)
  | some chunkHeader =>
      if chunkHeader.chunkId = ChunkId.data then
        match p.header with
        | none => Act.fail .dataBeforeFmt
        | some header => return .done {
            chunksBeforeFmt := p.chunksBeforeFmt
            header
            fmtExtension := p.fmtExtension
            chunksBeforeData := p.chunksBeforeData
            dataSize := chunkHeader.chunkSize }
      else
        let chunk ← WavChunk.read chunkHeader
        let p ← Act.lift (p.place b chunk)
        return .again p

variable {b}

/-- A turn that goes on has read a chunk that is not `data` and put it away. -/
theorem turn_again {p p' : Progress} {s s' : List UInt8}
    (h : turn b p s = (.ok (.again p'), s')) :
    ∃ header chunk s₁, s = ChunkHeader.bytes header ++ s₁ ∧ header.chunkId ≠ ChunkId.data ∧
      WavChunk.read header s₁ = (.ok chunk, s') ∧ p.place b chunk = .ok p' := by
  unfold turn at h
  obtain ⟨found, s₁, hheader, hrest⟩ := Act.bind_ok_iff.mp h
  cases found with
  | none => cases (Prod.mk.inj hrest).1
  | some header =>
      obtain rfl := ChunkHeader.read_some hheader
      dsimp only at hrest
      split at hrest
      · cases hsome : p.header <;> rw [hsome] at hrest <;> cases (Prod.mk.inj hrest).1
      · rename_i hid
        obtain ⟨chunk, s₂, hchunk, hput⟩ := Act.bind_ok_iff.mp hrest
        obtain ⟨p₁, s₃, hplace, hagain⟩ := Act.bind_ok_iff.mp hput
        obtain ⟨hplaced, rfl⟩ := Prod.mk.inj hplace
        obtain ⟨hp, rfl⟩ := Prod.mk.inj hagain
        obtain rfl := Turn.again.inj (Outcome.ok.inj hp)
        exact ⟨header, chunk, s₁, rfl, hid, hchunk, hplaced⟩

theorem turn_done {p : Progress} {preamble : WavPreamble} {s s' : List UInt8}
    (h : turn b p s = (.ok (.done preamble), s')) :
    ∃ header, p.header = some header ∧
      s = ChunkHeader.bytes ⟨ChunkId.data, preamble.dataSize⟩ ++ s' ∧
      preamble = ⟨p.chunksBeforeFmt, header, p.fmtExtension, p.chunksBeforeData,
        preamble.dataSize⟩ := by
  unfold turn at h
  obtain ⟨found, s₁, hheader, hrest⟩ := Act.bind_ok_iff.mp h
  cases found with
  | none => cases (Prod.mk.inj hrest).1
  | some chunkHeader =>
      obtain rfl := ChunkHeader.read_some hheader
      dsimp only at hrest
      split at hrest
      · rename_i hid
        cases hsome : p.header with
        | none =>
            rw [hsome] at hrest
            cases (Prod.mk.inj hrest).1
        | some header =>
            rw [hsome] at hrest
            obtain ⟨hdone, rfl⟩ := Prod.mk.inj hrest
            obtain rfl := Turn.done.inj (Outcome.ok.inj hdone)
            exact ⟨header, rfl, by rw [← hid], rfl⟩
      · obtain ⟨chunk, s₂, -, hput⟩ := Act.bind_ok_iff.mp hrest
        obtain ⟨p₁, s₃, -, hagain⟩ := Act.bind_ok_iff.mp hput
        cases (Prod.mk.inj hagain).1

theorem turn_consuming : Consuming (turn b) := by
  intro p p' s s' h
  obtain ⟨header, chunk, s₁, rfl, -, hread, -⟩ := turn_again h
  have hshrinks := WavChunk.read_shrinks hread
  rw [List.length_append, ChunkHeader.bytes_length]
  omega

variable (b)

/-- `WavPreamble::read`. -/
def read : Act (List UInt8) WavError WavPreamble := do
  readRiffHeader
  loop (turn b) turn_consuming {}

/-- `WavPreamble::write_stream`. -/
def writeStream (preamble : WavPreamble) : Act (List UInt8) IoError Unit := do
  writeRiffHeader 0xFFFFFFFF
  preamble.chunksBeforeFmt.forM WavChunk.write
  let fmtChunk ← Act.lift (preamble.header.intoWavChunk b preamble.fmtExtension)
  fmtChunk.write
  preamble.chunksBeforeData.forM WavChunk.write
  writeAll ChunkId.data.toList
  writeAll (u32ToLe 0xFFFFFFFF)

end WavPreamble

/-! ## Whole files -/

/-- `Wav`. -/
structure Wav where
  chunksBeforeFmt : List WavChunk
  header : WavHeader
  fmtExtension : List UInt8
  chunksBeforeData : List WavChunk
  data : List UInt8
  chunksAfterData : List WavChunk
  deriving DecidableEq, Repr

namespace Wav

/-- `Wav::from_header_and_data`. -/
def fromHeaderAndData (header : WavHeader) (data : List UInt8) : Wav where
  chunksBeforeFmt := []
  header
  fmtExtension := []
  chunksBeforeData := []
  data
  chunksAfterData := []

/-- The body of the loop in `Wav::read`. -/
def afterDataTurn (chunksAfterData : List WavChunk) :
    Act (List UInt8) WavError (Turn (List WavChunk) (List WavChunk)) := do
  match ← ChunkHeader.read with
  | none => return .done chunksAfterData
  | some header =>
      let chunk ← WavChunk.read header
      return .again (chunksAfterData ++ [chunk])

theorem afterDataTurn_again {chunks chunks' : List WavChunk} {s s' : List UInt8}
    (h : afterDataTurn chunks s = (.ok (.again chunks'), s')) :
    ∃ header chunk s₁, s = ChunkHeader.bytes header ++ s₁ ∧
      WavChunk.read header s₁ = (.ok chunk, s') ∧ chunks' = chunks ++ [chunk] := by
  unfold afterDataTurn at h
  obtain ⟨found, s₁, hheader, hrest⟩ := Act.bind_ok_iff.mp h
  cases found with
  | none => cases (Prod.mk.inj hrest).1
  | some header =>
      obtain rfl := ChunkHeader.read_some hheader
      obtain ⟨chunk, s₂, hchunk, hput⟩ := Act.bind_ok_iff.mp hrest
      obtain ⟨hagain, rfl⟩ := Prod.mk.inj hput
      exact ⟨header, chunk, s₁, rfl, hchunk, (Turn.again.inj (Outcome.ok.inj hagain)).symm⟩

theorem afterDataTurn_consuming : Consuming afterDataTurn := by
  intro chunks chunks' s s' h
  obtain ⟨header, chunk, s₁, rfl, hread, -⟩ := afterDataTurn_again h
  have hshrinks := WavChunk.read_shrinks hread
  rw [List.length_append, ChunkHeader.bytes_length]
  omega

variable (b : Build)

/-- `Wav::read`. -/
def read : Act (List UInt8) WavError Wav := do
  let preamble ← WavPreamble.read b
  let data ← Act.mapErr .io (readExact preamble.dataSize.toNat)
  Act.mapErr .io (skipChunkPadding preamble.dataSize)
  let chunksAfterData ← loop afterDataTurn afterDataTurn_consuming []
  return {
    chunksBeforeFmt := preamble.chunksBeforeFmt
    header := preamble.header
    fmtExtension := preamble.fmtExtension
    chunksBeforeData := preamble.chunksBeforeData
    data
    chunksAfterData }

/-- `Wav::write`. -/
def write (wav : Wav) : Act (List UInt8) IoError Unit := do
  let fmtChunk ← Act.lift (wav.header.intoWavChunk b wav.fmtExtension)
  let dataChunk : WavChunk := ⟨ChunkId.data, wav.data⟩
  let riffSize := 4 + WavChunk.serializedSizes wav.chunksBeforeFmt + fmtChunk.serializedSize +
    WavChunk.serializedSizes wav.chunksBeforeData + dataChunk.serializedSize +
    WavChunk.serializedSizes wav.chunksAfterData
  let riffSize ← Act.lift (Outcome.okOr
    (.invalidInput "WAV file is too large to fit into a RIFF size field") (u32TryFrom riffSize))
  WavPreamble.writeRiffHeader riffSize
  wav.chunksBeforeFmt.forM WavChunk.write
  fmtChunk.write
  wav.chunksBeforeData.forM WavChunk.write
  dataChunk.write
  wav.chunksAfterData.forM WavChunk.write

end Wav

end Rs1722
