/-
# `Rs1722.Audio.WavRoundTrip` — a WAV file read, written and read again

The reader turns a `fmt ` chunk into a header and extension bytes, the writer turns these
into a `fmt ` chunk; the writer chooses the tag by what the header needs and by the length of
the extension, not by the tag that was read.  What comes back is the value that was written,
with the extension that was written (`WavHeader.writtenExtension`):

    a `fmt ` chunk that was read, as it is written, decodes to the header
                                                              (`WavHeader.decode_encode`)
    a value that was read has its chunks in place             (`Wav.read_ok`)
    so a file that was read, as it is written, is read again  (`Wav.rewrite_reads_back`)
    and a normalized value, when its arithmetic is not
    checked or fits                                           (`Wav.normal_reads_back_iff`)
-/
import Rs1722.Audio.WavLayout

namespace Rs1722

open Lib

/-! ## Tags -/

theorem WavAudioFormat.from_tag_from (tag : UInt16) :
    WavAudioFormat.from (WavAudioFormat.from tag).tag = WavAudioFormat.from tag := by
  by_cases hpcm : tag = 0x0001
  · rw [hpcm]
    rfl
  · by_cases hfloat : tag = 0x0003
    · rw [hfloat]
      rfl
    · have hother : WavAudioFormat.from tag = .other tag := by
        unfold WavAudioFormat.from
        rw [if_neg hpcm, if_neg hfloat]
      rw [hother]
      exact hother

namespace WavHeader

variable {b : Build} {header : WavHeader} {ext : List UInt8} {chunk : WavChunk}

/-! ## Reading a `fmt ` chunk -/

def extensibleFormat (ext : List UInt8) : WavAudioFormat :=
  let subformat := (ext.drop 8).take 16
  if subformat.drop 2 = ksSubformatGuidSuffix then WavAudioFormat.from (u16At subformat 0)
  else .other (u16At subformat 0)

/-- The number of valid bits an extension gives to containers of `bitsPerSample`. -/
def extensibleValidBits (bitsPerSample : UInt16) (ext : List UInt8) : UInt16 :=
  if u16At ext 2 = 0 then bitsPerSample else u16At ext 2

def AgreesWith (header : WavHeader) (ext : List UInt8) : Prop :=
  extensibleFormat ext = header.audioFormat ∧
    extensibleValidBits header.bitsPerSample ext = header.validBitsPerSample

instance : Decidable (header.AgreesWith ext) := inferInstanceAs (Decidable (_ ∧ _))

/-- The encoding is one a tag other than `WAVE_FORMAT_EXTENSIBLE` stands for. -/
def Tagged (header : WavHeader) : Prop :=
  WavAudioFormat.from header.audioFormat.tag = header.audioFormat ∧
    header.audioFormat ≠ .other waveFormatExtensible

theorem decode_classic (hid : chunk.chunkId = ChunkId.fmt) (hlen : 16 ≤ chunk.data.length)
    (htag : WavAudioFormat.from (u16At chunk.data 0) ≠ .other waveFormatExtensible) :
    fromFmtChunkUnchecked b chunk = .ok ⟨u16At chunk.data 2, u32At chunk.data 4,
      u16At chunk.data 14, u16At chunk.data 14, WavAudioFormat.from (u16At chunk.data 0)⟩ := by
  unfold fromFmtChunkUnchecked
  rw [Build.debugAssert_of (decide_eq_true hid), Outcome.ok_bind]
  dsimp only
  rw [if_neg (Nat.not_lt.mpr hlen), if_neg htag]
  rfl

theorem decode_extensible (hid : chunk.chunkId = ChunkId.fmt) (hlen : 40 ≤ chunk.data.length)
    (htag : u16At chunk.data 0 = waveFormatExtensible) :
    fromFmtChunkUnchecked b chunk = .ok ⟨u16At chunk.data 2, u32At chunk.data 4,
      u16At chunk.data 14, extensibleValidBits (u16At chunk.data 14) (chunk.data.drop 16),
      extensibleFormat (chunk.data.drop 16)⟩ := by
  have hvalid : u16At chunk.data 18 = u16At (chunk.data.drop 16) 2 := by
    unfold u16At
    rw [List.drop_drop]
  have hformat : WavAudioFormat.from (u16At chunk.data 0) = .other waveFormatExtensible := by
    rw [htag]
    rfl
  unfold fromFmtChunkUnchecked extensibleFormat extensibleValidBits
  rw [Build.debugAssert_of (decide_eq_true hid), Outcome.ok_bind]
  dsimp only
  rw [if_neg (Nat.not_lt.mpr (Nat.le_trans (by decide) hlen)), if_pos hformat,
    if_neg (Nat.not_lt.mpr hlen), Outcome.ok_bind, hvalid, List.drop_drop]

/-- What a header that was decoded says about the extension bytes beside it. -/
theorem decode_cases (h : fromFmtChunkUnchecked b chunk = .ok header) :
    16 ≤ chunk.data.length ∧
      (header.Tagged ∧ header.validBitsPerSample = header.bitsPerSample ∨
        24 ≤ (chunk.data.drop 16).length ∧ header.AgreesWith (chunk.data.drop 16)) := by
  have hvalid : u16At chunk.data 18 = u16At (chunk.data.drop 16) 2 := by
    unfold u16At
    rw [List.drop_drop]
  unfold fromFmtChunkUnchecked at h
  obtain ⟨-, -, hrest⟩ := Outcome.bind_eq_ok.mp h
  dsimp only at hrest
  split at hrest
  · cases hrest
  · rename_i hlen
    refine ⟨Nat.not_lt.mp hlen, ?_⟩
    split at hrest
    · split at hrest
      · cases hrest
      · rename_i hlong
        right
        obtain rfl := Outcome.ok.inj hrest
        refine ⟨by rw [List.length_drop]; omega, ?_, ?_⟩
        · unfold extensibleFormat
          rw [List.drop_drop]
        · unfold extensibleValidBits
          rw [hvalid]
    · rename_i htag
      left
      obtain rfl := Outcome.ok.inj hrest
      exact ⟨⟨WavAudioFormat.from_tag_from _, htag⟩, rfl⟩

/-! ## Writing one -/

/-- None of the products in `into_wav_chunk` overflows. -/
def ArithmeticFits (header : WavHeader) : Prop :=
  header.sampleRate.toNat * header.channels.toNat < 2 ^ 32 ∧
    header.sampleRate.toNat * header.channels.toNat * (header.bitsPerSample / 8).toNat < 2 ^ 32 ∧
    header.channels.toNat * (header.bitsPerSample / 8).toNat < 2 ^ 16

instance : Decidable header.ArithmeticFits := inferInstanceAs (Decidable (_ ∧ _))

def writesExtensible (header : WavHeader) (ext : List UInt8) : Bool :=
  ext.length ≥ 24 || header.needsExtensibleFormat

def writtenExtension (header : WavHeader) (ext : List UInt8) : List UInt8 :=
  if ext.isEmpty && header.writesExtensible ext then header.extensibleFmtExtension else ext

/-- The `fmt ` chunk that is written. -/
def fmtChunk (header : WavHeader) (ext : List UInt8) : WavChunk :=
  ⟨ChunkId.fmt,
    u16ToLe (if header.writesExtensible ext then waveFormatExtensible
        else header.audioFormat.tag) ++
      u16ToLe header.channels ++ u32ToLe header.sampleRate ++
      u32ToLe (.ofNat (header.sampleRate.toNat * header.channels.toNat *
        (header.bitsPerSample / 8).toNat)) ++
      u16ToLe (.ofNat (header.channels.toNat * (header.bitsPerSample / 8).toNat)) ++
      u16ToLe header.bitsPerSample ++ header.writtenExtension ext⟩

/-- Where the last two products fit, the first one only matters to a build that checks it: it
exceeds them only if there are no bytes in a sample, and then it is multiplied by nothing. -/
theorem intoWavChunk_of_fits {ε : Type}
    (hrate : b.overflowChecks = false ∨
      header.sampleRate.toNat * header.channels.toNat < 2 ^ 32)
    (hbytes : header.sampleRate.toNat * header.channels.toNat *
      (header.bitsPerSample / 8).toNat < 2 ^ 32)
    (halign : header.channels.toNat * (header.bitsPerSample / 8).toNat < 2 ^ 16) :
    (header.intoWavChunk b ext : Outcome ε WavChunk) = .ok (header.fmtChunk ext) := by
  have hfirst : ∃ channelRate,
      (b.unsigned 32 (header.sampleRate.toNat * header.channels.toNat) : Outcome ε Nat) =
        .ok channelRate ∧ channelRate * (header.bitsPerSample / 8).toNat =
          header.sampleRate.toNat * header.channels.toNat * (header.bitsPerSample / 8).toNat := by
    by_cases hlt : header.sampleRate.toNat * header.channels.toNat < 2 ^ 32
    · exact ⟨_, Build.unsigned_of_lt hlt, rfl⟩
    · refine ⟨_, Build.unsigned_wraps (hrate.resolve_right hlt) 32 _, ?_⟩
      have hzero : (header.bitsPerSample / 8).toNat = 0 := by
        by_contra hne
        exact hlt (Nat.lt_of_le_of_lt (Nat.le_mul_of_pos_right _ (Nat.pos_of_ne_zero hne)) hbytes)
      rw [hzero]
      rfl
  obtain ⟨channelRate, hunsigned, hsame⟩ := hfirst
  unfold intoWavChunk
  dsimp only
  rw [hunsigned, Outcome.ok_bind, hsame, Build.unsigned_of_lt hbytes, Outcome.ok_bind,
    Build.unsigned_of_lt halign, Outcome.ok_bind]
  rfl

theorem intoWavChunk_eq {ε : Type} (h : header.ArithmeticFits) :
    (header.intoWavChunk b ext : Outcome ε WavChunk) = .ok (header.fmtChunk ext) :=
  intoWavChunk_of_fits (.inr h.1) h.2.1 h.2.2

theorem intoWavChunk_panics {ε : Type} (hchecks : b.overflowChecks = true)
    (hrate : 2 ^ 32 ≤ header.sampleRate.toNat * header.channels.toNat) :
    ∃ msg, (header.intoWavChunk b ext : Outcome ε WavChunk) = .panic msg := by
  unfold intoWavChunk
  dsimp only
  rw [Build.unsigned_panics hchecks hrate]
  exact ⟨_, rfl⟩

theorem fmtChunk_tag : u16At (header.fmtChunk ext).data 0 =
    if header.writesExtensible ext then waveFormatExtensible else header.audioFormat.tag :=
  u16FromLe_toLe _

theorem fmtChunk_channels : u16At (header.fmtChunk ext).data 2 = header.channels :=
  u16FromLe_toLe _

theorem fmtChunk_sampleRate : u32At (header.fmtChunk ext).data 4 = header.sampleRate :=
  u32FromLe_toLe _

theorem fmtChunk_bitsPerSample : u16At (header.fmtChunk ext).data 14 = header.bitsPerSample :=
  u16FromLe_toLe _

theorem fmtChunk_extension : (header.fmtChunk ext).data.drop 16 = header.writtenExtension ext := rfl

theorem fmtChunk_length :
    (header.fmtChunk ext).data.length = 16 + (header.writtenExtension ext).length := by
  unfold fmtChunk
  simp only [List.length_append, u16ToLe_length, u32ToLe_length]

theorem decode_encode_classic (hextensible : header.writesExtensible ext = false)
    (htagged : header.Tagged) :
    fromFmtChunkUnchecked b (header.fmtChunk ext) = .ok header := by
  have htag : u16At (header.fmtChunk ext).data 0 = header.audioFormat.tag := by
    rw [fmtChunk_tag, hextensible]
    rfl
  have hvalid : header.validBitsPerSample = header.bitsPerSample := by
    have hneeds : header.needsExtensibleFormat = false := (Bool.or_eq_false_iff.mp hextensible).2
    have hdiffer := (Bool.or_eq_false_iff.mp (Bool.or_eq_false_iff.mp hneeds).1).1
    exact bne_eq_false_iff_eq.mp hdiffer
  have hlen : 16 ≤ (header.fmtChunk ext).data.length := by
    rw [fmtChunk_length]
    exact Nat.le_add_right _ _
  rw [decode_classic rfl hlen (by rw [htag, htagged.1]; exact htagged.2), htag, htagged.1,
    fmtChunk_channels, fmtChunk_sampleRate, fmtChunk_bitsPerSample]
  exact congrArg (fun valid => Outcome.ok { header with validBitsPerSample := valid }) hvalid.symm

theorem decode_encode_extensible (hextensible : header.writesExtensible ext = true)
    (hlen : 24 ≤ (header.writtenExtension ext).length)
    (hagrees : header.AgreesWith (header.writtenExtension ext)) :
    fromFmtChunkUnchecked b (header.fmtChunk ext) = .ok header := by
  have htag : u16At (header.fmtChunk ext).data 0 = waveFormatExtensible := by
    rw [fmtChunk_tag, hextensible]
    rfl
  have hdata : 40 ≤ (header.fmtChunk ext).data.length := by
    rw [fmtChunk_length]
    omega
  rw [decode_extensible rfl hdata htag, fmtChunk_extension, fmtChunk_channels,
    fmtChunk_sampleRate, fmtChunk_bitsPerSample, hagrees.1, hagrees.2]

theorem agreesWith_canonical (htagged : header.Tagged)
    (hvalid : header.validBitsPerSample ≠ 0 ∨
      header.validBitsPerSample = header.bitsPerSample) :
    header.AgreesWith header.extensibleFmtExtension := by
  have htag : u16At ((header.extensibleFmtExtension.drop 8).take 16) 0 =
      header.audioFormat.tag := u16FromLe_toLe _
  have hbits : u16At header.extensibleFmtExtension 2 = header.validBitsPerSample :=
    u16FromLe_toLe _
  constructor
  · have hsuffix : ((header.extensibleFmtExtension.drop 8).take 16).drop 2 =
        ksSubformatGuidSuffix := rfl
    unfold extensibleFormat
    dsimp only
    rw [if_pos hsuffix, htag]
    exact htagged.1
  · unfold extensibleValidBits
    rw [hbits]
    split
    · rename_i hzero
      exact (hvalid.resolve_left (not_not.mpr hzero)).symm
    · rfl

theorem writtenExtension_of_nonempty (h : ext ≠ []) : header.writtenExtension ext = ext := by
  unfold writtenExtension
  rw [List.isEmpty_eq_false_iff.mpr h]
  rfl

theorem writtenExtension_nil (header : WavHeader) :
    header.writtenExtension [] = [] ∨
      header.writtenExtension [] = header.extensibleFmtExtension := by
  unfold writtenExtension
  split
  · exact .inr rfl
  · exact .inl rfl

theorem fmtChunk_again (header : WavHeader) :
    header.fmtChunk (header.writtenExtension []) = header.fmtChunk [] := by
  rcases writtenExtension_nil header with hext | hext
  · rw [hext]
  · have hneeds : header.writesExtensible [] = true := by
      by_contra hno
      have hnil : header.writtenExtension [] = [] := by
        unfold writtenExtension
        rw [Bool.eq_false_iff.mpr hno]
        rfl
      rw [hnil] at hext
      cases hext
    have hlong : header.writesExtensible header.extensibleFmtExtension = true :=
      Bool.or_eq_true_iff.mpr (.inl rfl)
    have hkept : header.writtenExtension header.extensibleFmtExtension =
        header.extensibleFmtExtension := writtenExtension_of_nonempty nofun
    unfold fmtChunk
    rw [hext, hkept, hlong, hneeds]

/-- The writer and the reader read the extension alike: it is absent, or short and not needed,
or it decodes to the header. -/
def Settled (header : WavHeader) (ext : List UInt8) : Prop :=
  (ext ≠ [] → header.needsExtensibleFormat → 24 ≤ ext.length) ∧
    (24 ≤ ext.length → header.AgreesWith ext)

theorem decode_encode_long (hlen : 24 ≤ ext.length) (hagrees : header.AgreesWith ext) :
    fromFmtChunkUnchecked b (header.fmtChunk ext) = .ok header := by
  have hext : header.writtenExtension ext = ext :=
    writtenExtension_of_nonempty (List.ne_nil_of_length_pos (by omega))
  have hextensible : header.writesExtensible ext = true :=
    Bool.or_eq_true_iff.mpr (.inl (decide_eq_true hlen))
  exact decode_encode_extensible hextensible (by rw [hext]; exact hlen)
    (by rw [hext]; exact hagrees)

theorem decode_encode_bare (htagged : header.Tagged) (hvalid : header.validBitsPerSample ≠ 0 ∨
      header.validBitsPerSample = header.bitsPerSample) :
    fromFmtChunkUnchecked b (header.fmtChunk []) = .ok header := by
  cases hextensible : header.writesExtensible [] with
  | false => exact decode_encode_classic hextensible htagged
  | true =>
      have hext : header.writtenExtension [] = header.extensibleFmtExtension := by
        unfold writtenExtension
        rw [hextensible]
        rfl
      refine decode_encode_extensible hextensible ?_ ?_
      · rw [hext]
        exact Nat.le_refl 24
      · rw [hext]
        exact agreesWith_canonical htagged hvalid

/-- A header that was read is read again from the chunk that is written for it. -/
theorem decode_encode (hread : fromFmtChunkUnchecked b chunk = .ok header)
    (hsettled : header.Settled (chunk.data.drop 16)) :
    fromFmtChunkUnchecked b (header.fmtChunk (chunk.data.drop 16)) = .ok header := by
  obtain ⟨-, ⟨htagged, hvalid⟩ | ⟨hlen, hagrees⟩⟩ := decode_cases hread
  · generalize chunk.data.drop 16 = ext at hsettled
    by_cases hlen : 24 ≤ ext.length
    · exact decode_encode_long hlen (hsettled.2 hlen)
    · cases hextensible : header.writesExtensible ext with
      | false => exact decode_encode_classic hextensible htagged
      | true =>
          -- the header needs the extensible tag, so a short extension is none at all
          have hneeds : header.needsExtensibleFormat = true :=
            (Bool.or_eq_true_iff.mp hextensible).resolve_left
              (by rw [decide_eq_true_eq]; exact hlen)
          have hempty : ext = [] := by
            by_contra hne
            exact hlen (hsettled.1 hne hneeds)
          rw [hempty]
          exact decode_encode_bare htagged (.inr hvalid)
  · exact decode_encode_long hlen hagrees

end WavHeader

/-! ## What was read -/

namespace WavPreamble

variable {b : Build} {p p' : Progress} {preamble : WavPreamble} {chunk : WavChunk}
  {s s' : List UInt8}

/-- What every turn of the loop keeps: no `fmt ` or `data` chunk is among the others, and the
header beside its extension was decoded from a chunk. -/
structure Progress.Sorted (b : Build) (p : Progress) : Prop where
  placed : ∀ c ∈ p.chunksBeforeFmt ++ p.chunksBeforeData,
    c.chunkId ≠ ChunkId.fmt ∧ c.chunkId ≠ ChunkId.data
  decoded : ∀ header, p.header = some header → ∃ chunk,
    WavHeader.fromFmtChunkUnchecked b chunk = .ok header ∧ p.fmtExtension = chunk.data.drop 16

theorem Progress.Sorted.place (h : p.Sorted b) (hid : chunk.chunkId ≠ ChunkId.data)
    (hplace : p.place b chunk = .ok p') : p'.Sorted b := by
  unfold Progress.place at hplace
  split at hplace
  · obtain ⟨decoded, hdecoded, hp⟩ := Outcome.bind_eq_ok.mp hplace
    obtain rfl := Outcome.ok.inj hp
    refine ⟨h.placed, ?_⟩
    rintro header hheader
    obtain rfl := Option.some.inj hheader
    exact ⟨chunk, hdecoded, rfl⟩
  · rename_i hfmt
    have hchunk : ∀ c ∈ [chunk], c.chunkId ≠ ChunkId.fmt ∧ c.chunkId ≠ ChunkId.data := by
      intro c hc
      obtain rfl := List.mem_singleton.mp hc
      exact ⟨hfmt, hid⟩
    split at hplace
    · obtain rfl := Outcome.ok.inj hplace
      refine ⟨?_, h.decoded⟩
      rw [← List.append_assoc]
      exact List.forall_mem_append.mpr ⟨h.placed, hchunk⟩
    · obtain rfl := Outcome.ok.inj hplace
      obtain ⟨hbefore, hbetween⟩ := List.forall_mem_append.mp h.placed
      exact ⟨List.forall_mem_append.mpr ⟨List.forall_mem_append.mpr ⟨hbefore, hchunk⟩, hbetween⟩,
        h.decoded⟩

/-- What a preamble that was read consists of. -/
theorem read_ok (h : read b s = (.ok preamble, s')) :
    (∀ c ∈ preamble.chunksBeforeFmt ++ preamble.chunksBeforeData,
      c.chunkId ≠ ChunkId.fmt ∧ c.chunkId ≠ ChunkId.data) ∧
    ∃ chunk, WavHeader.fromFmtChunkUnchecked b chunk = .ok preamble.header ∧
      preamble.fmtExtension = chunk.data.drop 16 := by
  obtain ⟨-, s₁, -, hloop⟩ := Act.bind_ok_iff.mp h
  have hinit : Progress.Sorted b {} := by
    constructor
    · intro c hc
      cases hc
    · intro header hheader
      cases hheader
  have hstep : ∀ {p p' : Progress} {s s' : List UInt8}, p.Sorted b →
      turn b p s = (.ok (.again p'), s') → p'.Sorted b := by
    intro p p' s s' hp hturn
    obtain ⟨header, chunk, s₁, -, hid, hread, hplace⟩ := turn_again hturn
    obtain ⟨-, -, hsame, -⟩ := WavChunk.read_ok hread
    rw [← hsame] at hid
    exact hp.place hid hplace
  obtain ⟨p, s₂, hp, hdone⟩ := loop_invariant hstep hinit hloop
  obtain ⟨header, hheader, -, hpreamble⟩ := turn_done hdone
  rw [hpreamble]
  exact ⟨hp.placed, hp.decoded header hheader⟩

end WavPreamble

namespace Wav

variable {b : Build} {wav : Wav} {s s' : List UInt8}

/-- What a file that was read consists of. -/
theorem read_ok (h : read b s = (.ok wav, s')) :
    wav.Placed ∧ ∃ chunk, WavHeader.fromFmtChunkUnchecked b chunk = .ok wav.header ∧
      wav.fmtExtension = chunk.data.drop 16 := by
  obtain ⟨preamble, s₁, hpreamble, hrest⟩ := Act.bind_ok_iff.mp h
  obtain ⟨data, s₂, -, hrest⟩ := Act.bind_ok_iff.mp hrest
  obtain ⟨-, s₃, -, hrest⟩ := Act.bind_ok_iff.mp hrest
  obtain ⟨chunks, s₄, -, hwav⟩ := Act.bind_ok_iff.mp hrest
  obtain rfl := Outcome.ok.inj (Prod.mk.inj hwav).1
  exact WavPreamble.read_ok hpreamble

/-! ## Read, written and read again -/

/-- A file that was read, written under the size the writer computes, reads back as it was
written: with the canonical extension where the header needs the extensible tag and the file
had no extension.  Left out are headers whose products overflow on the way, and extensions
that the tag that is written gives another meaning than the tag that was read. -/
theorem rewrite_reads_back (b : Build) (wav : Wav) (bytes : List UInt8)
    (hread : (Wav.read b bytes).1 = .ok wav)
    (hsize : wav.riffSize (wav.header.fmtChunk wav.fmtExtension) < 2 ^ 32)
    (harith : wav.header.ArithmeticFits) (hsettled : wav.header.Settled wav.fmtExtension) :
    ∃ written, (∀ buf, wav.write b buf = (.ok (), buf ++ written)) ∧
      Wav.read b written = (.ok { wav with
        fmtExtension := wav.header.writtenExtension wav.fmtExtension }, []) := by
  obtain ⟨hplaced, chunk, hdecoded, hext⟩ := read_ok (Prod.ext hread rfl)
  have hencode : wav.header.intoWavChunk b wav.fmtExtension =
      (.ok (wav.header.fmtChunk wav.fmtExtension) : Outcome IoError WavChunk) :=
    WavHeader.intoWavChunk_eq harith
  have hagain : WavHeader.fromFmtChunkUnchecked b (wav.header.fmtChunk wav.fmtExtension) =
      .ok wav.header := by
    rw [hext] at hsettled ⊢
    exact WavHeader.decode_encode hdecoded hsettled
  exact ⟨wav.image (wav.header.fmtChunk wav.fmtExtension), emits_write hencode hsize,
    read_image hplaced rfl hagain hsize⟩

theorem rewrite_reads_back_stereo :
    let junk : WavChunk := ⟨#v[0x4A, 0x55, 0x4E, 0x4B], [7]⟩
    let fact : WavChunk := ⟨#v[0x66, 0x61, 0x63, 0x74], [1, 0, 0, 0]⟩
    let list : WavChunk := ⟨#v[0x4C, 0x49, 0x53, 0x54], [0, 1, 2]⟩
    let wav : Wav := ⟨[junk], ⟨2, 48000, 16, 16, .pcm⟩, [], [fact], [1, 2, 3, 4, 5], [list]⟩
    let bytes : List UInt8 := [0x52, 0x49, 0x46, 0x46, 76, 0, 0, 0, 0x57, 0x41, 0x56, 0x45,
      0x4A, 0x55, 0x4E, 0x4B, 1, 0, 0, 0, 7, 0,
      0x66, 0x6D, 0x74, 0x20, 16, 0, 0, 0, 1, 0, 2, 0, 0x80, 0xBB, 0, 0, 0, 0xEE, 2, 0, 4, 0, 16, 0,
      0x66, 0x61, 0x63, 0x74, 4, 0, 0, 0, 1, 0, 0, 0,
      0x64, 0x61, 0x74, 0x61, 5, 0, 0, 0, 1, 2, 3, 4, 5, 0,
      0x4C, 0x49, 0x53, 0x54, 3, 0, 0, 0, 0, 1, 2, 0]
    (Wav.read .debug bytes).1 = .ok wav ∧
      ∃ written, (∀ buf, wav.write .debug buf = (.ok (), buf ++ written)) ∧
        Wav.read .debug written = (.ok { wav with
          fmtExtension := wav.header.writtenExtension wav.fmtExtension }, []) := by
  intro junk fact list wav bytes
  have hsize : wav.riffSize (wav.header.fmtChunk []) < 2 ^ 32 := by decide
  have hplaced : wav.Placed := by decide
  have hbytes : bytes = wav.image (wav.header.fmtChunk []) := by decide
  have hread : Wav.read .debug bytes = (.ok wav, []) := by
    rw [hbytes]
    exact read_image hplaced rfl (by decide) hsize
  have hok : (Wav.read .debug bytes).1 = .ok wav := congrArg Prod.fst hread
  exact ⟨hok, rewrite_reads_back .debug wav bytes hok hsize (by decide)
    ⟨fun h => absurd rfl h, fun h => absurd h (by decide)⟩⟩

/-- A mono file of 24 bits whose `fmt ` chunk has no extension comes back with one. -/
theorem rewrite_adds_extension :
    ¬ ∀ (wav : Wav) (bytes : List UInt8), (Wav.read .debug bytes).1 = .ok wav →
      wav.riffSize (wav.header.fmtChunk wav.fmtExtension) < 2 ^ 32 →
      ∃ written, wav.write .debug [] = (.ok (), written) ∧
        (Wav.read .debug written).1 = .ok wav := by
  intro h
  let wav : Wav := ⟨[], ⟨1, 48000, 24, 24, .pcm⟩, [], [], [], []⟩
  let bytes : List UInt8 := [0x52, 0x49, 0x46, 0x46, 36, 0, 0, 0, 0x57, 0x41, 0x56, 0x45,
    0x66, 0x6D, 0x74, 0x20, 16, 0, 0, 0, 1, 0, 1, 0, 0x80, 0xBB, 0, 0, 0x80, 0x32, 2, 0, 3, 0, 24, 0,
    0x64, 0x61, 0x74, 0x61, 0, 0, 0, 0]
  have hplaced : wav.Placed := by decide
  have hsize : wav.riffSize (wav.header.fmtChunk []) < 2 ^ 32 := by decide
  have hread : Wav.read .debug bytes = (.ok wav, []) := by
    let chunk : WavChunk := ⟨ChunkId.fmt,
      [1, 0, 1, 0, 0x80, 0xBB, 0, 0, 0x80, 0x32, 2, 0, 3, 0, 24, 0]⟩
    have hbytes : bytes = wav.image chunk := by decide
    rw [hbytes]
    exact read_image hplaced rfl (by decide) (by decide)
  obtain ⟨written, hwritten, hback⟩ := h wav bytes (congrArg Prod.fst hread) hsize
  have hwrite := emits_write (b := .debug) (WavHeader.intoWavChunk_eq (by decide)) hsize []
  obtain rfl : written = wav.image (wav.header.fmtChunk []) :=
    (Prod.mk.inj (hwritten.symm.trans hwrite)).2
  rw [read_image hplaced rfl (by decide) hsize] at hback
  have hext : (wav.header.fmtChunk []).data.drop 16 = [] :=
    congrArg Wav.fmtExtension (Outcome.ok.inj hback)
  exact absurd hext (by decide)

/-! ## Written and read -/

/-- A normalized value: no extension, chunks the reader would leave in place, a header whose
encoding has a tag of its own and whose declared rates fit, and a size that fits. -/
structure Normal (wav : Wav) : Prop where
  extension : wav.fmtExtension = []
  placed : wav.Placed
  format : ∀ tag, wav.header.audioFormat = .other tag →
    tag ≠ 0x0001 ∧ tag ≠ 0x0003 ∧ tag ≠ waveFormatExtensible
  valid : wav.header.validBitsPerSample ≠ 0 ∨
    wav.header.validBitsPerSample = wav.header.bitsPerSample
  blockAlign : wav.header.channels.toNat * (wav.header.bitsPerSample / 8).toNat < 2 ^ 16
  byteRate : wav.header.sampleRate.toNat * wav.header.channels.toNat *
    (wav.header.bitsPerSample / 8).toNat < 2 ^ 32
  size : wav.riffSize (wav.header.fmtChunk []) < 2 ^ 32

theorem Normal.tagged (h : wav.Normal) : wav.header.Tagged := by
  cases hformat : wav.header.audioFormat with
  | pcm =>
      rw [WavHeader.Tagged, hformat]
      exact ⟨rfl, nofun⟩
  | ieeeFloat =>
      rw [WavHeader.Tagged, hformat]
      exact ⟨rfl, nofun⟩
  | other tag =>
      obtain ⟨hpcm, hfloat, hextensible⟩ := h.format tag hformat
      rw [WavHeader.Tagged, hformat]
      constructor
      · show WavAudioFormat.from tag = .other tag
        unfold WavAudioFormat.from
        rw [if_neg hpcm, if_neg hfloat]
      · intro hother
        exact hextensible (WavAudioFormat.other.inj hother)

theorem write_panics (hchecks : b.overflowChecks = true)
    (hrate : 2 ^ 32 ≤ wav.header.sampleRate.toNat * wav.header.channels.toNat) :
    ∃ msg, wav.write b [] = (.panic msg, []) := by
  obtain ⟨msg, hpanic⟩ : ∃ msg, (wav.header.intoWavChunk b wav.fmtExtension :
    Outcome IoError WavChunk) = .panic msg := WavHeader.intoWavChunk_panics hchecks hrate
  refine ⟨msg, ?_⟩
  unfold write
  rw [hpanic]
  rfl

/-- A normalized value is written, reads back as it was but for the canonical extension where the
header needs one, and is written to the same bytes again, exactly when the build does not check
its arithmetic or `sample_rate * channels` fits as well.  The two products that are known to
fit leave that one open where a sample has less than eight bits. -/
theorem normal_reads_back_iff (b : Build) (wav : Wav) (h : wav.Normal) :
    (∃ written ext, (ext = [] ∨ ext = wav.header.extensibleFmtExtension) ∧
      (∀ buf, wav.write b buf = (.ok (), buf ++ written)) ∧
      Wav.read b written = (.ok { wav with fmtExtension := ext }, []) ∧
      ∀ buf, ({ wav with fmtExtension := ext } : Wav).write b buf = (.ok (), buf ++ written)) ↔
    b.overflowChecks = false ∨
      wav.header.sampleRate.toNat * wav.header.channels.toNat < 2 ^ 32 := by
  constructor
  · rintro ⟨written, ext, -, hwrite, -⟩
    by_contra hno
    obtain ⟨hchecks, hrate⟩ := not_or.mp hno
    obtain ⟨msg, hfails⟩ := write_panics (Bool.eq_true_of_not_eq_false hchecks)
      (Nat.not_lt.mp hrate)
    rw [hwrite []] at hfails
    cases (Prod.mk.inj hfails).1
  · intro hrate
    have hencode : ∀ ext, (wav.header.intoWavChunk b ext : Outcome IoError WavChunk) =
        .ok (wav.header.fmtChunk ext) :=
      fun ext => WavHeader.intoWavChunk_of_fits hrate h.byteRate h.blockAlign
    have hext : wav.fmtExtension = [] := h.extension
    refine ⟨wav.image (wav.header.fmtChunk []), wav.header.writtenExtension [],
      WavHeader.writtenExtension_nil wav.header, ?_, ?_, ?_⟩
    · exact emits_write (by rw [hext]; exact hencode []) h.size
    · exact read_image h.placed rfl (WavHeader.decode_encode_bare h.tagged h.valid) h.size
    · have hagain := hencode (wav.header.writtenExtension [])
      rw [WavHeader.fmtChunk_again] at hagain
      let again : Wav := { wav with fmtExtension := wav.header.writtenExtension [] }
      have hemits : Emits (again.write b) (again.image (wav.header.fmtChunk [])) :=
        emits_write hagain h.size
      exact hemits

theorem normal_reads_back_padded :
    let wav := fromHeaderAndData ⟨2, 48000, 24, 20, .pcm⟩ [1, 2, 3, 4, 5]
    ∃ written ext, (ext = [] ∨ ext = wav.header.extensibleFmtExtension) ∧
      (∀ buf, wav.write .debug buf = (.ok (), buf ++ written)) ∧
      Wav.read .debug written = (.ok { wav with fmtExtension := ext }, []) ∧
      ∀ buf, ({ wav with fmtExtension := ext } : Wav).write .debug buf =
        (.ok (), buf ++ written) := by
  intro wav
  have hnormal : wav.Normal := {
    extension := rfl
    placed := by decide
    format := nofun
    valid := .inl (by decide)
    blockAlign := by decide
    byteRate := by decide
    size := by decide }
  exact (normal_reads_back_iff .debug wav hnormal).mpr (.inr (by decide))

/-- Four bits, two channels and 2³¹ samples in a second: no byte in a second, but the debug build
does not get that far. -/
theorem sub_byte_rate_panics :
    ¬ ∀ wav : Wav, wav.Normal → ∃ written, wav.write .debug [] = (.ok (), written) := by
  intro h
  let wav := fromHeaderAndData ⟨2, 0x80000000, 4, 4, .pcm⟩ []
  have hnormal : wav.Normal := {
    extension := rfl
    placed := by decide
    format := nofun
    valid := .inl (by decide)
    blockAlign := by decide
    byteRate := by decide
    size := by decide }
  obtain ⟨written, hwrite⟩ := h wav hnormal
  obtain ⟨msg, hpanic⟩ : ∃ msg, wav.write .debug [] = (.panic msg, []) :=
    write_panics rfl (by decide)
  rw [hwrite] at hpanic
  cases (Prod.mk.inj hpanic).1

end Wav

end Rs1722
