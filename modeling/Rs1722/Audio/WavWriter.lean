/-
# `Rs1722.Audio.WavWriter` — the two writers of a WAV file

`Wav::write` writes a file whose size it has computed beforehand, `WavPreamble::write_stream`
the part before the samples with sizes that are not known.

    a file that is too large leaves the writer as it was, and the size in any other is the
    size of the file                                         (`Wav.write_sized`)
    the preamble of a stream is that of the file but for its sizes, and is read like it
                                                             (`Wav.stream_agrees`)
    the rates in the `fmt ` chunk are written, and agree, exactly when no product overflows
                                                             (`rates_written_iff`)
-/
import Rs1722.Audio.WavReader

namespace Rs1722

open Lib

/-! ## The bytes of a preamble -/

namespace WavPreamble

variable {b : Build} {preamble : WavPreamble} {fmtChunk : WavChunk}

def bytes (preamble : WavPreamble) (riffSize : UInt32) (fmtChunk : WavChunk) : List UInt8 :=
  riffHeader riffSize ++ (preamble.chunksBeforeFmt.flatMap WavChunk.bytes ++ (fmtChunk.bytes ++
    (preamble.chunksBeforeData.flatMap WavChunk.bytes ++
      ChunkHeader.bytes ⟨ChunkId.data, preamble.dataSize⟩)))

theorem emits_writeStream (hfmt : preamble.header.intoWavChunk b preamble.fmtExtension =
      (.ok fmtChunk : Outcome IoError WavChunk))
    (hbefore : ∀ c ∈ preamble.chunksBeforeFmt, c.Fits) (hfits : fmtChunk.Fits)
    (hbetween : ∀ c ∈ preamble.chunksBeforeData, c.Fits) :
    Emits (preamble.writeStream b)
      (bytes { preamble with dataSize := 0xFFFFFFFF } 0xFFFFFFFF fmtChunk) := by
  have hdata : Emits (writeAll ChunkId.data.toList >>= fun _ => writeAll (u32ToLe 0xFFFFFFFF))
      (ChunkHeader.bytes ⟨ChunkId.data, 0xFFFFFFFF⟩) :=
    (emits_writeAll _).bind (emits_writeAll _)
  have hafter := (WavChunk.emits_write hfits).bind
    ((emits_forM fun c hc => WavChunk.emits_write (hbetween c hc)).bind hdata)
  exact (emits_writeRiffHeader 0xFFFFFFFF).bind
    ((emits_forM fun c hc => WavChunk.emits_write (hbefore c hc)).bind
      (emits_lift_bind hfmt hafter))

end WavPreamble

/-! ## The size of a file -/

theorem WavChunk.bytes_length (chunk : WavChunk) : chunk.bytes.length = chunk.serializedSize := by
  unfold bytes serializedSize
  rw [List.length_append, List.length_append, ChunkHeader.bytes_length, chunk.padding_length,
    Nat.add_assoc]

theorem WavChunk.bytes_even (chunk : WavChunk) : chunk.bytes.length % 2 = 0 := by
  rw [chunk.bytes_length]
  unfold serializedSize
  omega

theorem WavChunk.flatMap_bytes_length (chunks : List WavChunk) :
    (chunks.flatMap WavChunk.bytes).length = WavChunk.serializedSizes chunks := by
  unfold serializedSizes
  rw [List.length_flatMap, funext WavChunk.bytes_length]

namespace Wav

variable {b : Build} {wav : Wav} {fmtChunk : WavChunk} {buf : List UInt8}

theorem image_length (wav : Wav) (fmtChunk : WavChunk) :
    (wav.image fmtChunk).length = wav.riffSize fmtChunk + 8 := by
  rw [image_eq, List.length_append, WavPreamble.riffHeader_length, WavChunk.flatMap_bytes_length]
  unfold chunks riffSize
  rw [serializedSizes_append, ← List.singleton_append, serializedSizes_append,
    serializedSizes_append, ← List.singleton_append (l := wav.chunksAfterData),
    serializedSizes_append]
  simp only [WavChunk.serializedSizes, List.map_singleton, List.sum_singleton]
  omega

theorem write_of_large (hfmt : wav.header.intoWavChunk b wav.fmtExtension =
      (.ok fmtChunk : Outcome IoError WavChunk)) (hsize : 2 ^ 32 ≤ wav.riffSize fmtChunk) :
    wav.write b buf =
      (.err (.invalidInput "WAV file is too large to fit into a RIFF size field"), buf) := by
  have hnone : u32TryFrom (wav.riffSize fmtChunk) = none := if_neg (Nat.not_lt.mpr hsize)
  unfold riffSize dataChunk at hnone
  unfold write
  rw [hfmt, Act.lift_ok_bind, hnone]
  rfl

/-- A file whose arithmetic does not overflow is refused, with nothing written, when what stands
behind its size has more bytes than a size can say, and written with their number otherwise. -/
theorem write_sized (b : Build) (wav : Wav) (h : wav.header.ArithmeticFits) :
    ∃ fmtChunk riffSize, wav.header.intoWavChunk b wav.fmtExtension =
        (.ok fmtChunk : Outcome IoError WavChunk) ∧
      let file := ChunkId.riff.toList ++ (u32ToLe riffSize ++ ChunkId.wave.toList) ++
        (wav.chunks fmtChunk).flatMap WavChunk.bytes
      (2 ^ 32 ≤ file.length - 8 → ∀ buf, wav.write b buf =
        (.err (.invalidInput "WAV file is too large to fit into a RIFF size field"), buf)) ∧
      (file.length - 8 < 2 ^ 32 → riffSize.toNat = file.length - 8 ∧
        ∀ buf, wav.write b buf = (.ok (), buf ++ file)) ∧
      ∀ chunk ∈ wav.chunks fmtChunk, chunk.bytes.length % 2 = 0 := by
  have hfmt : wav.header.intoWavChunk b wav.fmtExtension =
      (.ok (wav.header.fmtChunk wav.fmtExtension) : Outcome IoError WavChunk) :=
    WavHeader.intoWavChunk_eq h
  generalize wav.header.fmtChunk wav.fmtExtension = fmtChunk at hfmt
  refine ⟨fmtChunk, .ofNat (wav.riffSize fmtChunk), hfmt, ?_⟩
  intro file
  have hfile : file = wav.image fmtChunk := (image_eq wav fmtChunk).symm
  have hlen : file.length - 8 = wav.riffSize fmtChunk := by
    rw [hfile, image_length, Nat.add_sub_cancel]
  rw [hlen]
  refine ⟨fun hsize buf => write_of_large hfmt hsize, ?_, fun chunk _ => chunk.bytes_even⟩
  intro hsize
  rw [hfile]
  exact ⟨u32_toNat_ofNat hsize, emits_write hfmt hsize⟩

theorem write_sized_padded :
    let wav := fromHeaderAndData ⟨2, 48000, 24, 20, .pcm⟩ [1, 2, 3, 4, 5]
    wav.header.ArithmeticFits ∧
      ∃ fmtChunk riffSize, wav.header.intoWavChunk .debug wav.fmtExtension =
          (.ok fmtChunk : Outcome IoError WavChunk) ∧
        let file := ChunkId.riff.toList ++ (u32ToLe riffSize ++ ChunkId.wave.toList) ++
          (wav.chunks fmtChunk).flatMap WavChunk.bytes
        (2 ^ 32 ≤ file.length - 8 → ∀ buf, wav.write .debug buf =
          (.err (.invalidInput "WAV file is too large to fit into a RIFF size field"), buf)) ∧
        (file.length - 8 < 2 ^ 32 → riffSize.toNat = file.length - 8 ∧
          ∀ buf, wav.write .debug buf = (.ok (), buf ++ file)) ∧
        ∀ chunk ∈ wav.chunks fmtChunk, chunk.bytes.length % 2 = 0 := by
  intro wav
  have hfits : wav.header.ArithmeticFits := by decide
  exact ⟨hfits, write_sized .debug wav hfits⟩

end Wav

/-! ## The preamble of a stream -/

namespace WavPreamble

variable {b : Build} {p : Progress}

theorem turn_over {chunk : WavChunk} (hfits : chunk.Fits) : ∃ result used left,
    chunk.bytes = used ++ left ∧ (∀ s, turn b p (chunk.bytes ++ s) = (result, left ++ s)) ∧
      ∀ p', result = .ok (.again p') → left = [] := by
  have hheader : ∀ s, ChunkHeader.read (chunk.bytes ++ s) =
      (.ok (some chunk.header), chunk.data ++ chunk.padding ++ s) := by
    intro s
    unfold WavChunk.bytes
    rw [List.append_assoc]
    exact chunk.header.consumes_read _
  by_cases hid : chunk.chunkId = ChunkId.data
  · -- the loop ends in front of the payload
    have hturn : ∀ s, turn b p (chunk.bytes ++ s) = _ := fun s => Act.bind_of_ok (hheader s)
    dsimp only at hturn
    rw [if_pos (show chunk.header.chunkId = ChunkId.data from hid)] at hturn
    cases hsome : p.header with
    | none =>
        rw [hsome] at hturn
        exact ⟨.err .dataBeforeFmt, _, _, rfl, hturn, nofun⟩
    | some header =>
        rw [hsome] at hturn
        exact ⟨_, _, _, rfl, hturn, nofun⟩
  · have hbody : ∀ s, turn b p (chunk.bytes ++ s) =
        (Act.lift (p.place b chunk) >>= fun p => pure (.again p)) s := by
      intro s
      refine (Act.bind_of_ok (hheader s)).trans ?_
      dsimp only
      rw [if_neg (show chunk.header.chunkId ≠ ChunkId.data from hid)]
      exact Act.bind_of_ok (WavChunk.consumes_body hfits s)
    refine ⟨(p.place b chunk >>= fun p => pure (.again p)), chunk.bytes, [],
      (List.append_nil _).symm, ?_, fun _ _ => rfl⟩
    intro s
    rw [hbody s]
    cases p.place b chunk <;> rfl

theorem turns_over {chunks : List WavChunk} (h : ∀ c ∈ chunks, c.Fits) :
    (∃ p', ∀ s, loop (turn b) turn_consuming p (chunks.flatMap WavChunk.bytes ++ s) =
      loop (turn b) turn_consuming p' s) ∨
    ∃ result used left, chunks.flatMap WavChunk.bytes = used ++ left ∧
      ∀ s, loop (turn b) turn_consuming p (chunks.flatMap WavChunk.bytes ++ s) =
        (result, left ++ s) := by
  induction chunks generalizing p with
  | nil => exact .inl ⟨p, fun _ => rfl⟩
  | cons chunk chunks ih =>
      obtain ⟨result, used, left, hbytes, hturn, hagain⟩ :=
        turn_over (b := b) (p := p) (h chunk List.mem_cons_self)
      have hstops : (chunk :: chunks).flatMap WavChunk.bytes =
          used ++ (left ++ chunks.flatMap WavChunk.bytes) := by
        rw [List.flatMap_cons, hbytes, List.append_assoc]
      rcases result with (⟨p'⟩ | ⟨preamble⟩) | e | msg
      · obtain rfl := hagain p' rfl
        rcases ih (p := p') fun c hc => h c (List.mem_cons_of_mem chunk hc) with
          ⟨p'', hon⟩ | ⟨result, used', left', hbytes', hends⟩
        · refine .inl ⟨p'', fun s => ?_⟩
          rw [List.flatMap_cons, List.append_assoc, loop_of_again (hturn _)]
          exact hon s
        · refine .inr ⟨result, used ++ used', left', ?_, fun s => ?_⟩
          · rw [hstops, hbytes', List.append_assoc]
            rfl
          · rw [List.flatMap_cons, List.append_assoc, loop_of_again (hturn _)]
            exact hends s
      · refine .inr ⟨.ok preamble, used, _, hstops, fun s => ?_⟩
        rw [List.flatMap_cons, List.append_assoc, List.append_assoc, loop_eq, hturn]
      · refine .inr ⟨.err e, used, _, hstops, fun s => ?_⟩
        rw [List.flatMap_cons, List.append_assoc, List.append_assoc, loop_eq, hturn]
      · refine .inr ⟨.panic msg, used, _, hstops, fun s => ?_⟩
        rw [List.flatMap_cons, List.append_assoc, List.append_assoc, loop_eq, hturn]

theorem loop_at_data (p : Progress) :
    (∀ size s, loop (turn b) turn_consuming p (ChunkHeader.bytes ⟨ChunkId.data, size⟩ ++ s) =
      (.err .dataBeforeFmt, s)) ∨
    ∃ preamble : WavPreamble, ∀ size s, loop (turn b) turn_consuming p
      (ChunkHeader.bytes ⟨ChunkId.data, size⟩ ++ s) =
        (.ok { preamble with dataSize := size }, s) := by
  cases hheader : p.header with
  | none =>
      left
      intro size s
      have hturn : turn b p (ChunkHeader.bytes ⟨ChunkId.data, size⟩ ++ s) =
          (.err .dataBeforeFmt, s) := by
        refine (Act.bind_of_ok (ChunkHeader.consumes_read ⟨ChunkId.data, size⟩ s)).trans ?_
        dsimp only
        rw [if_pos rfl, hheader]
        rfl
      rw [loop_eq, hturn]
  | some header =>
      right
      exact ⟨⟨p.chunksBeforeFmt, header, p.fmtExtension, p.chunksBeforeData, 0⟩,
        fun size s => consumes_data hheader size s⟩

/-- The reader accepts both inputs or neither.  Where it does, the two preambles are one but for
the size of the data, and it has taken equally many bytes. -/
def ReadsAlike (b : Build) (s s' : List UInt8) : Prop :=
  ((read b s).1.IsOk ↔ (read b s').1.IsOk) ∧
    ∀ preamble preamble' rest rest', read b s = (.ok preamble, rest) →
      read b s' = (.ok preamble', rest') →
      { preamble with dataSize := preamble'.dataSize } = preamble' ∧
        ∃ used used', s = used ++ rest ∧ s' = used' ++ rest' ∧ used.length = used'.length

theorem readsAlike_of_ok {s s' rest rest' used used' : List UInt8} (preamble : WavPreamble)
    {size size' : UInt32} (h : read b s = (.ok { preamble with dataSize := size }, rest))
    (h' : read b s' = (.ok { preamble with dataSize := size' }, rest')) (hs : s = used ++ rest)
    (hs' : s' = used' ++ rest') (hlen : used.length = used'.length) : ReadsAlike b s s' := by
  unfold ReadsAlike
  rw [h, h']
  refine ⟨Iff.rfl, ?_⟩
  intro p p' r r' hp hp'
  obtain ⟨hok, rfl⟩ := Prod.mk.inj hp
  obtain ⟨hok', rfl⟩ := Prod.mk.inj hp'
  obtain rfl := Outcome.ok.inj hok
  obtain rfl := Outcome.ok.inj hok'
  exact ⟨rfl, used, used', hs, hs', hlen⟩

theorem readsAlike_of_not_ok {s s' : List UInt8} (h : ¬ (read b s).1.IsOk)
    (h' : ¬ (read b s').1.IsOk) : ReadsAlike b s s' := by
  refine ⟨iff_of_false h h', ?_⟩
  intro p p' r r' hp hp'
  rw [hp] at h
  exact absurd trivial h

/-- Behind a RIFF header, chunks and the header of a `data` chunk are refused whatever the sizes are
and whatever follows, or read as one preamble from as many bytes. -/
theorem read_heads (b : Build) {chunks : List WavChunk} (h : ∀ c ∈ chunks, c.Fits) :
    (∀ riffSize dataSize rest, ¬ (read b (riffHeader riffSize ++ (chunks.flatMap WavChunk.bytes ++
      (ChunkHeader.bytes ⟨ChunkId.data, dataSize⟩ ++ rest)))).1.IsOk) ∨
    ∃ (preamble : WavPreamble) (sizeOf : UInt32 → UInt32) (n : Nat),
      ∀ riffSize dataSize rest, ∃ used left,
        riffHeader riffSize ++ (chunks.flatMap WavChunk.bytes ++
          (ChunkHeader.bytes ⟨ChunkId.data, dataSize⟩ ++ rest)) = used ++ left ∧
        used.length = n ∧
        read b (used ++ left) = (.ok { preamble with dataSize := sizeOf dataSize }, left) := by
  have hread : ∀ riffSize s, read b (riffHeader riffSize ++ s) =
      loop (turn b) turn_consuming {} s :=
    fun riffSize s => Act.bind_of_ok (consumes_readRiffHeader riffSize s)
  rcases turns_over (b := b) (p := {}) h with ⟨p', hon⟩ | ⟨result, used, left, hbytes, hends⟩
  · -- the loop gets to the `data` chunk
    rcases loop_at_data (b := b) p' with hfails | ⟨preamble, hdata⟩
    · left
      intro riffSize dataSize rest
      rw [hread, hon, hfails]
      exact id
    · right
      refine ⟨preamble, fun dataSize => dataSize, 12 + (chunks.flatMap WavChunk.bytes).length + 8,
        fun riffSize dataSize rest => ⟨riffHeader riffSize ++ (chunks.flatMap WavChunk.bytes ++
          ChunkHeader.bytes ⟨ChunkId.data, dataSize⟩), rest, ?_, ?_, ?_⟩⟩
      · rw [List.append_assoc, List.append_assoc]
      · simp only [List.length_append, riffHeader_length, ChunkHeader.bytes_length, Nat.add_assoc]
      · rw [List.append_assoc, List.append_assoc, hread, hon, hdata]
  · -- it ends among the chunks
    have hstops : ∀ riffSize s, read b (riffHeader riffSize ++
        (chunks.flatMap WavChunk.bytes ++ s)) = (result, left ++ s) := by
      intro riffSize s
      rw [hread, hends]
    by_cases hok : result.IsOk
    · right
      obtain ⟨preamble, rfl⟩ := Outcome.isOk_iff.mp hok
      refine ⟨preamble, fun _ => preamble.dataSize, 12 + used.length,
        fun riffSize dataSize rest => ⟨riffHeader riffSize ++ used, left ++
          (ChunkHeader.bytes ⟨ChunkId.data, dataSize⟩ ++ rest), ?_, ?_, ?_⟩⟩
      · rw [hbytes, List.append_assoc, List.append_assoc]
      · rw [List.length_append, riffHeader_length]
      · rw [List.append_assoc, ← List.append_assoc used, ← hbytes, hstops]
    · left
      intro riffSize dataSize rest
      rw [hstops]
      exact hok

theorem readsAlike_heads (b : Build) {chunks : List WavChunk} (h : ∀ c ∈ chunks, c.Fits)
    (riffSize riffSize' dataSize dataSize' : UInt32) (rest rest' : List UInt8) :
    ReadsAlike b
      (riffHeader riffSize ++ (chunks.flatMap WavChunk.bytes ++
        (ChunkHeader.bytes ⟨ChunkId.data, dataSize⟩ ++ rest)))
      (riffHeader riffSize' ++ (chunks.flatMap WavChunk.bytes ++
        (ChunkHeader.bytes ⟨ChunkId.data, dataSize'⟩ ++ rest'))) := by
  rcases read_heads b h with hrefused | ⟨preamble, sizeOf, n, hread⟩
  · exact readsAlike_of_not_ok (hrefused _ _ _) (hrefused _ _ _)
  · obtain ⟨used, left, hinput, hlen, hok⟩ := hread riffSize dataSize rest
    obtain ⟨used', left', hinput', hlen', hok'⟩ := hread riffSize' dataSize' rest'
    rw [hinput, hinput']
    exact readsAlike_of_ok preamble hok hok' rfl rfl (hlen.trans hlen'.symm)

end WavPreamble

namespace Wav

variable {b : Build} {wav : Wav}

/-- The preamble of a file, whatever it says of the data. -/
def preamble (wav : Wav) (dataSize : UInt32) : WavPreamble :=
  ⟨wav.chunksBeforeFmt, wav.header, wav.fmtExtension, wav.chunksBeforeData, dataSize⟩

theorem write_ok {buf : List UInt8} (h : (wav.write b buf).1 = .ok ()) : ∃ fmtChunk,
    wav.header.intoWavChunk b wav.fmtExtension = (.ok fmtChunk : Outcome IoError WavChunk) ∧
      wav.riffSize fmtChunk < 2 ^ 32 := by
  cases hfmt : (wav.header.intoWavChunk b wav.fmtExtension : Outcome IoError WavChunk) with
  | ok fmtChunk =>
      refine ⟨fmtChunk, rfl, ?_⟩
      by_contra hlarge
      rw [write_of_large hfmt (Nat.not_lt.mp hlarge)] at h
      cases h
  | err e =>
      unfold write at h
      rw [hfmt] at h
      cases h
  | panic msg =>
      unfold write at h
      rw [hfmt] at h
      cases h

/-- Where a file can be written, the streaming writer writes its bytes up to the data, with every
bit of the two sizes set, and the reader of preambles reads the one like the other, whatever the
samples behind them are. -/
theorem stream_agrees (b : Build) (wav : Wav) (dataSize : UInt32)
    (hwrite : (wav.write b []).1 = .ok ()) : ∃ riffSize chunks after,
      let head (riffSize dataSize : UInt32) : List UInt8 :=
        ChunkId.riff.toList ++ (u32ToLe riffSize ++ ChunkId.wave.toList) ++
          (chunks ++ (ChunkId.data.toList ++ u32ToLe dataSize))
      (∀ buf, wav.write b buf =
        (.ok (), buf ++ (head riffSize (.ofNat wav.data.length) ++ (wav.data ++ after)))) ∧
      (∀ buf, (wav.preamble dataSize).writeStream b buf =
        (.ok (), buf ++ head 0xFFFFFFFF 0xFFFFFFFF)) ∧
      ∀ b' rest rest', WavPreamble.ReadsAlike b'
        (head riffSize (.ofNat wav.data.length) ++ rest) (head 0xFFFFFFFF 0xFFFFFFFF ++ rest') := by
  obtain ⟨fmtChunk, hfmt, hsize⟩ := write_ok hwrite
  obtain ⟨hbefore, hfits, hbetween, -, -⟩ := fits_of_riffSize hsize
  let chunks := wav.chunksBeforeFmt ++ fmtChunk :: wav.chunksBeforeData
  have hchunks : ∀ c ∈ chunks, c.Fits :=
    List.forall_mem_append.mpr ⟨hbefore, List.forall_mem_cons.mpr ⟨hfits, hbetween⟩⟩
  have hbytes : ∀ tail : List UInt8, chunks.flatMap WavChunk.bytes ++ tail =
      wav.chunksBeforeFmt.flatMap WavChunk.bytes ++ (fmtChunk.bytes ++
        (wav.chunksBeforeData.flatMap WavChunk.bytes ++ tail)) := by
    intro tail
    simp only [chunks, List.flatMap_append, List.flatMap_cons, List.append_assoc]
  refine ⟨.ofNat (wav.riffSize fmtChunk), chunks.flatMap WavChunk.bytes,
    wav.dataChunk.padding ++ wav.chunksAfterData.flatMap WavChunk.bytes, ?_⟩
  intro head
  have hhead : ∀ riffSize dataSize, head riffSize dataSize = WavPreamble.riffHeader riffSize ++
      (chunks.flatMap WavChunk.bytes ++ ChunkHeader.bytes ⟨ChunkId.data, dataSize⟩) :=
    fun _ _ => rfl
  refine ⟨?_, ?_, ?_⟩
  · intro buf
    rw [hhead, hbytes]
    exact emits_write hfmt hsize buf
  · intro buf
    rw [hhead, hbytes]
    have hstream : Emits ((wav.preamble dataSize).writeStream b) _ :=
      WavPreamble.emits_writeStream hfmt hbefore hfits hbetween
    exact hstream buf
  · intro b' rest rest'
    have halike := WavPreamble.readsAlike_heads b' hchunks (.ofNat (wav.riffSize fmtChunk))
      0xFFFFFFFF (.ofNat wav.data.length) 0xFFFFFFFF rest rest'
    rw [hhead, hhead, List.append_assoc, List.append_assoc, List.append_assoc, List.append_assoc]
    exact halike

theorem stream_agrees_around :
    let junk : WavChunk := ⟨#v[0x4A, 0x55, 0x4E, 0x4B], [7]⟩
    let wav : Wav := ⟨[junk], ⟨2, 48000, 24, 20, .pcm⟩, [], [junk], [1, 2, 3, 4, 5], [junk]⟩
    (wav.write .debug []).1 = .ok () ∧ ∃ riffSize chunks after,
      let head (riffSize dataSize : UInt32) : List UInt8 :=
        ChunkId.riff.toList ++ (u32ToLe riffSize ++ ChunkId.wave.toList) ++
          (chunks ++ (ChunkId.data.toList ++ u32ToLe dataSize))
      (∀ buf, wav.write .debug buf =
        (.ok (), buf ++ (head riffSize (.ofNat wav.data.length) ++ (wav.data ++ after)))) ∧
      (∀ buf, (wav.preamble 5).writeStream .debug buf =
        (.ok (), buf ++ head 0xFFFFFFFF 0xFFFFFFFF)) ∧
      ∀ b' rest rest', WavPreamble.ReadsAlike b'
        (head riffSize (.ofNat wav.data.length) ++ rest)
        (head 0xFFFFFFFF 0xFFFFFFFF ++ rest') := by
  intro junk wav
  have hemits : Emits (wav.write .debug) (wav.image (wav.header.fmtChunk [])) :=
    emits_write (WavHeader.intoWavChunk_eq (by decide)) (by decide)
  have hwrite : (wav.write .debug []).1 = .ok () := congrArg Prod.fst (hemits [])
  exact ⟨hwrite, stream_agrees .debug wav 5 hwrite⟩

end Wav

/-! ## Rates -/

namespace WavHeader

variable {b : Build} {header : WavHeader} {ext : List UInt8}

theorem intoWavChunk_returns_iff {ε : Type} (hchecks : b.overflowChecks = true) :
    (header.intoWavChunk b ext : Outcome ε WavChunk).Returns ↔ header.ArithmeticFits := by
  constructor
  · intro h
    unfold intoWavChunk at h
    dsimp only at h
    by_cases hrate : header.sampleRate.toNat * header.channels.toNat < 2 ^ 32
    · rw [Build.unsigned_of_lt hrate, Outcome.ok_bind] at h
      by_cases hbytes : header.sampleRate.toNat * header.channels.toNat *
          (header.bitsPerSample / 8).toNat < 2 ^ 32
      · rw [Build.unsigned_of_lt hbytes, Outcome.ok_bind, Outcome.returns_bind_pure] at h
        exact ⟨hrate, hbytes, Build.unsigned_returns_iff.mp h hchecks⟩
      · rw [Build.unsigned_panics hchecks (Nat.not_lt.mp hbytes)] at h
        exact absurd h id
    · rw [Build.unsigned_panics hchecks (Nat.not_lt.mp hrate)] at h
      exact absurd h id
  · intro h
    rw [intoWavChunk_eq h]
    trivial

/-- Where the two rates stand in a `fmt ` chunk, the writer has put the number of bytes in a
second and in a frame. -/
theorem fmtChunk_rates (h : header.ArithmeticFits) (rest : List UInt8) :
    (u32At ((header.fmtChunk ext).data ++ rest) 8).toNat =
        header.sampleRate.toNat * header.channels.toNat * (header.bitsPerSample / 8).toNat ∧
      (u16At ((header.fmtChunk ext).data ++ rest) 12).toNat =
        header.channels.toNat * (header.bitsPerSample / 8).toNat := by
  constructor
  · have hrate : u32At ((header.fmtChunk ext).data ++ rest) 8 = .ofNat _ := u32FromLe_toLe _
    rw [hrate]
    exact u32_toNat_ofNat h.2.1
  · have halign : u16At ((header.fmtChunk ext).data ++ rest) 12 = .ofNat _ := u16FromLe_toLe _
    rw [halign]
    exact UInt16.toNat_ofNat_of_lt' h.2.2

end WavHeader

/-- In every build the writer ends, and in the `fmt ` chunk of what it has written the bytes in a
second are the samples in a second times the bytes in a frame. -/
def RatesAgree (write : Build → Act (List UInt8) IoError Unit) (chunksBeforeFmt : List WavChunk)
    (header : WavHeader) : Prop :=
  ∀ b buf, (write b buf).1.Returns ∧ ∀ written, write b buf = (.ok (), buf ++ written) →
    let payload := written.drop (12 + WavChunk.serializedSizes chunksBeforeFmt + 8)
    (u32At payload 8).toNat = header.sampleRate.toNat * (u16At payload 12).toNat

/-- So it is where no product overflows, if the writer begins like a file. -/
theorem rates_of_written {header : WavHeader} {ext written rest : List UInt8} {riffSize : UInt32}
    {chunks : List WavChunk} (h : header.ArithmeticFits)
    (hwritten : written = WavPreamble.riffHeader riffSize ++
      (chunks.flatMap WavChunk.bytes ++ ((header.fmtChunk ext).bytes ++ rest))) :
    let payload := written.drop (12 + WavChunk.serializedSizes chunks + 8)
    (u32At payload 8).toNat = header.sampleRate.toNat * (u16At payload 12).toNat := by
  intro payload
  have hpayload : payload =
      (header.fmtChunk ext).data ++ ((header.fmtChunk ext).padding ++ rest) := by
    have hsplit : written = (WavPreamble.riffHeader riffSize ++ chunks.flatMap WavChunk.bytes ++
        (header.fmtChunk ext).header.bytes) ++
          ((header.fmtChunk ext).data ++ ((header.fmtChunk ext).padding ++ rest)) := by
      rw [hwritten]
      unfold WavChunk.bytes
      simp only [List.append_assoc]
    show written.drop _ = _
    rw [hsplit]
    apply List.drop_left'
    rw [List.length_append, List.length_append, WavPreamble.riffHeader_length,
      WavChunk.flatMap_bytes_length, ChunkHeader.bytes_length]
  obtain ⟨hrate, halign⟩ := header.fmtChunk_rates h ((header.fmtChunk ext).padding ++ rest)
  rw [hpayload, hrate, halign, Nat.mul_assoc]

theorem Wav.ratesAgree_iff (wav : Wav) :
    RatesAgree wav.write wav.chunksBeforeFmt wav.header ↔ wav.header.ArithmeticFits := by
  constructor
  · intro h
    have hreturns : (wav.write .debug []).1.Returns := (h .debug []).1
    exact (WavHeader.intoWavChunk_returns_iff rfl).mp (Act.returns_left hreturns)
  · intro h b buf
    have hfmt : wav.header.intoWavChunk b wav.fmtExtension =
        (.ok (wav.header.fmtChunk wav.fmtExtension) : Outcome IoError WavChunk) :=
      WavHeader.intoWavChunk_eq h
    show (wav.write b buf).1.Returns ∧ ∀ written, wav.write b buf = (.ok (), buf ++ written) → _
    by_cases hsize : wav.riffSize (wav.header.fmtChunk wav.fmtExtension) < 2 ^ 32
    · rw [emits_write hfmt hsize buf]
      refine ⟨trivial, ?_⟩
      intro written hwritten
      obtain rfl := List.append_cancel_left (Prod.mk.inj hwritten).2
      have himage := wav.image_eq (wav.header.fmtChunk wav.fmtExtension)
      unfold chunks at himage
      rw [List.flatMap_append, List.flatMap_cons] at himage
      exact rates_of_written h himage
    · rw [write_of_large hfmt (Nat.not_lt.mp hsize)]
      exact ⟨trivial, nofun⟩

namespace WavPreamble

variable {b : Build} {p p' : Progress} {preamble : WavPreamble} {chunk : WavChunk}
  {s s' : List UInt8}

/-- What every turn of the reader's loop keeps: sizes that were declared can be declared again. -/
structure Progress.Sized (p : Progress) : Prop where
  before : ∀ c ∈ p.chunksBeforeFmt, c.Fits
  between : ∀ c ∈ p.chunksBeforeData, c.Fits
  extension : 16 + p.fmtExtension.length < 2 ^ 32

theorem Progress.Sized.place (h : p.Sized) (hfits : chunk.Fits)
    (hplace : p.place b chunk = .ok p') : p'.Sized := by
  have hchunk : ∀ c ∈ [chunk], c.Fits := by
    intro c hc
    obtain rfl := List.mem_singleton.mp hc
    exact hfits
  unfold Progress.place at hplace
  split at hplace
  · obtain ⟨decoded, hdecoded, hp⟩ := Outcome.bind_eq_ok.mp hplace
    obtain rfl := Outcome.ok.inj hp
    refine ⟨h.before, h.between, ?_⟩
    have hlen := (WavHeader.decode_cases hdecoded).1
    unfold WavChunk.Fits at hfits
    rw [List.length_drop]
    omega
  · split at hplace
    · obtain rfl := Outcome.ok.inj hplace
      exact ⟨h.before, List.forall_mem_append.mpr ⟨h.between, hchunk⟩, h.extension⟩
    · obtain rfl := Outcome.ok.inj hplace
      exact ⟨List.forall_mem_append.mpr ⟨h.before, hchunk⟩, h.between, h.extension⟩

theorem sized_of_read (h : read b s = (.ok preamble, s')) :
    (∀ c ∈ preamble.chunksBeforeFmt, c.Fits) ∧ (∀ c ∈ preamble.chunksBeforeData, c.Fits) ∧
      (preamble.header.fmtChunk preamble.fmtExtension).Fits := by
  obtain ⟨-, s₁, -, hloop⟩ := Act.bind_ok_iff.mp h
  have hinit : Progress.Sized {} := ⟨nofun, nofun, by decide⟩
  have hstep : ∀ {p p' : Progress} {s s' : List UInt8}, p.Sized →
      turn b p s = (.ok (.again p'), s') → p'.Sized := by
    intro p p' s s' hp hturn
    obtain ⟨header, chunk, s₁, -, -, hread, hplace⟩ := turn_again hturn
    obtain ⟨-, -, -, hlen, -⟩ := WavChunk.read_ok hread
    have hfits : chunk.Fits := by
      unfold WavChunk.Fits
      rw [hlen]
      exact header.chunkSize.toNat_lt
    exact hp.place hfits hplace
  obtain ⟨p, s₂, hp, hdone⟩ := loop_invariant hstep hinit hloop
  obtain ⟨header, -, -, hpreamble⟩ := turn_done hdone
  rw [hpreamble]
  refine ⟨hp.before, hp.between, ?_⟩
  unfold WavChunk.Fits
  rw [WavHeader.fmtChunk_length]
  unfold WavHeader.writtenExtension
  split
  · exact show 16 + 24 < 2 ^ 32 by decide
  · exact hp.extension

theorem ratesAgree_iff (hbefore : ∀ c ∈ preamble.chunksBeforeFmt, c.Fits)
    (hbetween : ∀ c ∈ preamble.chunksBeforeData, c.Fits)
    (hfits : (preamble.header.fmtChunk preamble.fmtExtension).Fits) :
    RatesAgree preamble.writeStream preamble.chunksBeforeFmt preamble.header ↔
      preamble.header.ArithmeticFits := by
  constructor
  · intro h
    have hreturns : (preamble.writeStream .debug []).1.Returns := (h .debug []).1
    have hchunks : Emits (preamble.chunksBeforeFmt.forM WavChunk.write) _ :=
      emits_forM fun c hc => WavChunk.emits_write (hbefore c hc)
    unfold writeStream at hreturns
    rw [Act.bind_of_ok (emits_writeRiffHeader 0xFFFFFFFF []), Act.bind_of_ok (hchunks _)]
      at hreturns
    exact (WavHeader.intoWavChunk_returns_iff rfl).mp (Act.returns_left hreturns)
  · intro h b buf
    show (preamble.writeStream b buf).1.Returns ∧
      ∀ written, preamble.writeStream b buf = (.ok (), buf ++ written) → _
    rw [emits_writeStream (WavHeader.intoWavChunk_eq h) hbefore hfits hbetween buf]
    refine ⟨trivial, ?_⟩
    intro written hwritten
    exact rates_of_written h (List.append_cancel_left (Prod.mk.inj hwritten).2).symm

end WavPreamble

/-- The rates of a file or a preamble that was read are written again, in every build, and agree,
exactly when no product of the encoder overflows. -/
theorem rates_written_iff (b : Build) (bytes : List UInt8) :
    (∀ wav, (Wav.read b bytes).1 = .ok wav →
      (RatesAgree wav.write wav.chunksBeforeFmt wav.header ↔ wav.header.ArithmeticFits)) ∧
    ∀ preamble, (WavPreamble.read b bytes).1 = .ok preamble →
      (RatesAgree preamble.writeStream preamble.chunksBeforeFmt preamble.header ↔
        preamble.header.ArithmeticFits) := by
  constructor
  · intro wav _
    exact wav.ratesAgree_iff
  · intro preamble hread
    obtain ⟨hbefore, hbetween, hfits⟩ := WavPreamble.sized_of_read (Prod.ext hread rfl)
    exact WavPreamble.ratesAgree_iff hbefore hbetween hfits

theorem rates_written_stereo :
    let wav : Wav := ⟨[], ⟨2, 48000, 16, 16, .pcm⟩, [], [], [1, 2, 3, 4], []⟩
    let bytes : List UInt8 := [0x52, 0x49, 0x46, 0x46, 40, 0, 0, 0, 0x57, 0x41, 0x56, 0x45,
      0x66, 0x6D, 0x74, 0x20, 16, 0, 0, 0, 1, 0, 2, 0, 0x80, 0xBB, 0, 0, 0, 0xEE, 2, 0, 4, 0, 16, 0,
      0x64, 0x61, 0x74, 0x61, 4, 0, 0, 0, 1, 2, 3, 4]
    (Wav.read .debug bytes).1 = .ok wav ∧
      RatesAgree wav.write wav.chunksBeforeFmt wav.header ∧
      (WavPreamble.read .debug bytes).1 = .ok (wav.preamble 4) ∧
      RatesAgree (wav.preamble 4).writeStream wav.chunksBeforeFmt wav.header := by
  intro wav bytes
  have hsize : wav.riffSize (wav.header.fmtChunk []) < 2 ^ 32 := by decide
  have hplaced : wav.Placed := by decide
  have hbytes : bytes = wav.image (wav.header.fmtChunk []) := by decide
  have hread : (Wav.read .debug bytes).1 = .ok wav := by
    rw [hbytes, Wav.read_image hplaced rfl (by decide) hsize]
    rfl
  have hpreamble : (WavPreamble.read .debug bytes).1 = .ok (wav.preamble 4) := by
    rw [hbytes]
    exact congrArg Prod.fst (Wav.consumes_preamble hplaced rfl (by decide) hsize _)
  obtain ⟨hwrite, hstream⟩ := rates_written_iff .debug bytes
  exact ⟨hread, (hwrite wav hread).mpr (by decide), hpreamble,
    (hstream (wav.preamble 4) hpreamble).mpr (by decide)⟩

/-- 65535 channels of 16 bits: the bytes in a frame have no room in 16 bits. -/
theorem frame_size_overflows :
    ¬ ∀ (bytes : List UInt8) (wav : Wav), (Wav.read .release bytes).1 = .ok wav →
      RatesAgree wav.write wav.chunksBeforeFmt wav.header := by
  intro h
  let wav : Wav := ⟨[], ⟨0xFFFF, 1, 16, 16, .pcm⟩, [], [], [], []⟩
  let bytes : List UInt8 := [0x52, 0x49, 0x46, 0x46, 36, 0, 0, 0, 0x57, 0x41, 0x56, 0x45,
    0x66, 0x6D, 0x74, 0x20, 16, 0, 0, 0, 1, 0, 0xFF, 0xFF, 1, 0, 0, 0, 0xFE, 0xFF, 1, 0, 0xFE, 0xFF,
    16, 0,
    0x64, 0x61, 0x74, 0x61, 0, 0, 0, 0]
  have hread : Wav.read .release bytes = (.ok wav, []) := by
    let chunk : WavChunk := ⟨ChunkId.fmt,
      [1, 0, 0xFF, 0xFF, 1, 0, 0, 0, 0xFE, 0xFF, 1, 0, 0xFE, 0xFF, 16, 0]⟩
    have hbytes : bytes = wav.image chunk := by decide
    rw [hbytes]
    exact Wav.read_image (by decide) rfl (by decide) (by decide)
  have hfits := wav.ratesAgree_iff.mp (h bytes wav (congrArg Prod.fst hread))
  exact absurd hfits (by decide)

end Rs1722
