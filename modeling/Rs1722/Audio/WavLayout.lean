/-
# `Rs1722.Audio.WavLayout` — the bytes of a WAV file

Where the writer and the reader of `src/audio/wav.rs` meet: the bytes of a chunk, of a list
of chunks and of a file.

    a writer adds the bytes of what it writes                 (`Wav.emits_write`)
    the reader, on the chunks before `data`, puts one after the other away
                                                              (`WavPreamble.consumes_chunks`)
    the reader takes the bytes of a file for the file         (`Wav.read_image`)
-/
import Rs1722.Audio.Wav
import Mathlib.Algebra.Order.BigOperators.Group.List

namespace Rs1722

open Lib

/-! ## Chunks -/

namespace WavChunk

def Fits (chunk : WavChunk) : Prop := chunk.data.length < 2 ^ 32

instance (chunk : WavChunk) : Decidable chunk.Fits := Nat.decLt _ _

def header (chunk : WavChunk) : ChunkHeader := ⟨chunk.chunkId, .ofNat chunk.data.length⟩

def padding (chunk : WavChunk) : List UInt8 := if chunk.data.length % 2 = 1 then [0] else []

def bytes (chunk : WavChunk) : List UInt8 :=
  chunk.header.bytes ++ (chunk.data ++ chunk.padding)

variable {chunk : WavChunk} {chunks : List WavChunk}

theorem padding_length (chunk : WavChunk) : chunk.padding.length = chunk.data.length % 2 := by
  unfold padding
  split
  · rename_i h
    exact h.symm
  · rename_i h
    exact (Nat.mod_two_ne_one.mp h).symm

theorem fits_of_size (h : chunk.serializedSize < 2 ^ 32) : chunk.Fits := by
  unfold serializedSize at h
  unfold Fits
  omega

theorem fits_of_sizes (h : serializedSizes chunks < 2 ^ 32) : ∀ c ∈ chunks, c.Fits := by
  intro c hc
  have hle : c.serializedSize ≤ serializedSizes chunks :=
    List.single_le_sum (fun _ _ => Nat.zero_le _) _ (List.mem_map_of_mem hc)
  exact fits_of_size (Nat.lt_of_le_of_lt hle h)

theorem header_size (h : chunk.Fits) : chunk.header.chunkSize.toNat = chunk.data.length :=
  u32_toNat_ofNat h

theorem emits_write (h : chunk.Fits) : Emits chunk.write chunk.bytes := by
  have hpadding : Emits (if chunk.data.length % 2 = 1 then writeAll [0] else pure ())
      chunk.padding := by
    unfold padding
    split
    · exact emits_writeAll [0]
    · exact emits_pure
  have hwrite := (emits_writeAll chunk.chunkId.toList).bind
    ((emits_writeAll (u32ToLe (.ofNat chunk.data.length))).bind
      ((emits_writeAll chunk.data).bind hpadding))
  unfold bytes ChunkHeader.bytes
  rw [List.append_assoc]
  refine emits_lift_bind ?_ hwrite
  rw [u32TryFrom_of_lt h]
  rfl

theorem consumes_body (h : chunk.Fits) :
    Consumes (read chunk.header) (chunk.data ++ chunk.padding) chunk := by
  have hsize := header_size h
  exact consumes_read hsize.symm (by rw [hsize]; exact chunk.padding_length)

end WavChunk

/-! ## The preamble -/

namespace WavPreamble

variable {b : Build} {p p' : Progress} {cs : List UInt8} {preamble : WavPreamble}

def riffHeader (riffSize : UInt32) : List UInt8 :=
  ChunkId.riff.toList ++ (u32ToLe riffSize ++ ChunkId.wave.toList)

theorem emits_writeRiffHeader (riffSize : UInt32) :
    Emits (writeRiffHeader riffSize) (riffHeader riffSize) :=
  (emits_writeAll _).bind ((emits_writeAll _).bind (emits_writeAll _))

theorem consumes_readRiffHeader (riffSize : UInt32) :
    Consumes readRiffHeader (riffHeader riffSize) () := by
  let size : Vector UInt8 4 := ⟨(u32ToLe riffSize).toArray, u32ToLe_length _⟩
  refine Consumes.bind ((consumes_readArray ChunkId.riff).mapErr .io) ?_
  rw [if_neg (not_not.mpr rfl)]
  refine Consumes.bind ((consumes_readArray size).mapErr .io) ?_
  have hwave := Consumes.bind_pure
    ((consumes_readArray ChunkId.wave).mapErr WavError.io) fun _ => ()
  exact hwave

theorem consumes_turn {chunk : WavChunk} (hid : chunk.chunkId ≠ ChunkId.data) (hfits : chunk.Fits)
    (hplace : p.place b chunk = .ok p') : Consumes (turn b p) chunk.bytes (.again p') := by
  refine Consumes.bind chunk.header.consumes_read ?_
  dsimp only
  rw [if_neg (show chunk.header.chunkId ≠ ChunkId.data from hid)]
  rw [← List.append_nil (chunk.data ++ chunk.padding)]
  refine Consumes.bind (WavChunk.consumes_body hfits) ?_
  exact Consumes.bind_pure (consumes_lift hplace) fun p => (Turn.again p : Turn _ WavPreamble)

/-- A list of them, one after the other. -/
theorem consumes_chunks {chunks : List WavChunk}
    (h : ∀ c ∈ chunks, c.chunkId ≠ ChunkId.data ∧ c.Fits)
    (hplace : chunks.foldlM (fun p chunk => p.place b chunk) p = .ok p')
    (hrest : Consumes (loop (turn b) turn_consuming p') cs preamble) :
    Consumes (loop (turn b) turn_consuming p) (chunks.flatMap WavChunk.bytes ++ cs) preamble := by
  induction chunks generalizing p with
  | nil =>
      obtain rfl := Outcome.ok.inj hplace
      exact hrest
  | cons chunk chunks ih =>
      rw [List.foldlM_cons] at hplace
      obtain ⟨p₁, hfirst, hplace⟩ := Outcome.bind_eq_ok.mp hplace
      obtain ⟨hid, hfits⟩ := h chunk List.mem_cons_self
      rw [List.flatMap_cons, List.append_assoc]
      exact consumes_loop_again (consumes_turn hid hfits hfirst)
        (ih (fun c hc => h c (List.mem_cons_of_mem chunk hc)) hplace)

theorem consumes_data {header : WavHeader} (hheader : p.header = some header) (size : UInt32) :
    Consumes (loop (turn b) turn_consuming p) (ChunkHeader.bytes ⟨ChunkId.data, size⟩)
      ⟨p.chunksBeforeFmt, header, p.fmtExtension, p.chunksBeforeData, size⟩ := by
  apply consumes_loop_done
  intro rest
  refine (Act.bind_of_ok (ChunkHeader.consumes_read ⟨ChunkId.data, size⟩ rest)).trans ?_
  dsimp only
  rw [if_pos rfl, hheader]
  rfl

/-- Before `fmt `, chunks are collected. -/
theorem placeAll_beforeFmt {chunks : List WavChunk} (h : ∀ c ∈ chunks, c.chunkId ≠ ChunkId.fmt)
    (hheader : p.header = none) : chunks.foldlM (fun p chunk => p.place b chunk) p =
      .ok { p with chunksBeforeFmt := p.chunksBeforeFmt ++ chunks } := by
  induction chunks generalizing p with
  | nil =>
      rw [List.append_nil]
      rfl
  | cons chunk chunks ih =>
      have hplace : p.place b chunk =
          .ok { p with chunksBeforeFmt := p.chunksBeforeFmt ++ [chunk] } := by
        unfold Progress.place
        rw [if_neg (h chunk List.mem_cons_self), hheader]
        rfl
      have hchunks := ih (p := { p with chunksBeforeFmt := p.chunksBeforeFmt ++ [chunk] })
        (fun c hc => h c (List.mem_cons_of_mem chunk hc)) hheader
      rw [List.foldlM_cons, hplace, Outcome.ok_bind, hchunks, List.append_assoc]
      rfl

theorem placeAll_beforeData {chunks : List WavChunk} (h : ∀ c ∈ chunks, c.chunkId ≠ ChunkId.fmt)
    (hheader : p.header.isSome) : chunks.foldlM (fun p chunk => p.place b chunk) p =
      .ok { p with chunksBeforeData := p.chunksBeforeData ++ chunks } := by
  induction chunks generalizing p with
  | nil =>
      rw [List.append_nil]
      rfl
  | cons chunk chunks ih =>
      have hplace : p.place b chunk =
          .ok { p with chunksBeforeData := p.chunksBeforeData ++ [chunk] } := by
        unfold Progress.place
        rw [if_neg (h chunk List.mem_cons_self), if_pos hheader]
        rfl
      have hchunks := ih (p := { p with chunksBeforeData := p.chunksBeforeData ++ [chunk] })
        (fun c hc => h c (List.mem_cons_of_mem chunk hc)) hheader
      rw [List.foldlM_cons, hplace, Outcome.ok_bind, hchunks, List.append_assoc]
      rfl

end WavPreamble

/-! ## Whole files -/

namespace Wav

variable {b : Build} {wav : Wav} {fmtChunk : WavChunk}

/-- The `data` chunk that is written. -/
def dataChunk (wav : Wav) : WavChunk := ⟨ChunkId.data, wav.data⟩

def riffSize (wav : Wav) (fmtChunk : WavChunk) : Nat :=
  4 + WavChunk.serializedSizes wav.chunksBeforeFmt + fmtChunk.serializedSize +
    WavChunk.serializedSizes wav.chunksBeforeData + wav.dataChunk.serializedSize +
    WavChunk.serializedSizes wav.chunksAfterData

/-- The bytes before the payload of `data`. -/
def preambleBytes (wav : Wav) (fmtChunk : WavChunk) : List UInt8 :=
  WavPreamble.riffHeader (.ofNat (wav.riffSize fmtChunk)) ++
    (wav.chunksBeforeFmt.flatMap WavChunk.bytes ++ (fmtChunk.bytes ++
      (wav.chunksBeforeData.flatMap WavChunk.bytes ++ wav.dataChunk.header.bytes)))

def image (wav : Wav) (fmtChunk : WavChunk) : List UInt8 :=
  wav.preambleBytes fmtChunk ++ (wav.data ++ (wav.dataChunk.padding ++
    wav.chunksAfterData.flatMap WavChunk.bytes))

/-- The chunks of a file, in the order they are written. -/
def chunks (wav : Wav) (fmtChunk : WavChunk) : List WavChunk :=
  wav.chunksBeforeFmt ++
    fmtChunk :: (wav.chunksBeforeData ++ wav.dataChunk :: wav.chunksAfterData)

theorem image_eq (wav : Wav) (fmtChunk : WavChunk) : wav.image fmtChunk =
    WavPreamble.riffHeader (.ofNat (wav.riffSize fmtChunk)) ++
      (wav.chunks fmtChunk).flatMap WavChunk.bytes := by
  simp only [image, preambleBytes, chunks, WavChunk.bytes, List.append_assoc, List.flatMap_append,
    List.flatMap_cons]
  rfl

def Placed (wav : Wav) : Prop :=
  ∀ c ∈ wav.chunksBeforeFmt ++ wav.chunksBeforeData,
    c.chunkId ≠ ChunkId.fmt ∧ c.chunkId ≠ ChunkId.data

instance : Decidable wav.Placed := List.decidableBAll _ _

theorem fits_of_riffSize (h : wav.riffSize fmtChunk < 2 ^ 32) :
    (∀ c ∈ wav.chunksBeforeFmt, c.Fits) ∧ fmtChunk.Fits ∧ (∀ c ∈ wav.chunksBeforeData, c.Fits) ∧
      wav.dataChunk.Fits ∧ ∀ c ∈ wav.chunksAfterData, c.Fits := by
  unfold riffSize at h
  refine ⟨WavChunk.fits_of_sizes ?_, WavChunk.fits_of_size ?_, WavChunk.fits_of_sizes ?_,
    WavChunk.fits_of_size ?_, WavChunk.fits_of_sizes ?_⟩ <;> omega

theorem emits_write (hfmt : wav.header.intoWavChunk b wav.fmtExtension =
      (.ok fmtChunk : Outcome IoError WavChunk)) (hsize : wav.riffSize fmtChunk < 2 ^ 32) :
    Emits (wav.write b) (wav.image fmtChunk) := by
  obtain ⟨hbefore, hfmtFits, hbetween, hdata, hafter⟩ := fits_of_riffSize hsize
  rw [image_eq]
  unfold chunks
  rw [List.flatMap_append, List.flatMap_cons, List.flatMap_append, List.flatMap_cons]
  refine emits_lift_bind hfmt (emits_lift_bind (a := .ofNat (wav.riffSize fmtChunk)) ?_ ?_)
  · exact Outcome.okOr_eq_ok.mpr (u32TryFrom_of_lt hsize)
  · exact (WavPreamble.emits_writeRiffHeader _).bind
      ((emits_forM fun c hc => WavChunk.emits_write (hbefore c hc)).bind
        ((WavChunk.emits_write hfmtFits).bind
          ((emits_forM fun c hc => WavChunk.emits_write (hbetween c hc)).bind
            ((WavChunk.emits_write hdata).bind
              (emits_forM fun c hc => WavChunk.emits_write (hafter c hc))))))

/-- The reader of the preamble takes its bytes for it, if the `fmt ` chunk decodes to the
header. -/
theorem consumes_preamble (hplaced : wav.Placed) (hid : fmtChunk.chunkId = ChunkId.fmt)
    (hdecode : WavHeader.fromFmtChunkUnchecked b fmtChunk = .ok wav.header)
    (hsize : wav.riffSize fmtChunk < 2 ^ 32) :
    Consumes (WavPreamble.read b) (wav.preambleBytes fmtChunk)
      ⟨wav.chunksBeforeFmt, wav.header, fmtChunk.data.drop 16, wav.chunksBeforeData,
        .ofNat wav.data.length⟩ := by
  obtain ⟨hbefore, hfmtFits, hbetween, -, -⟩ := fits_of_riffSize hsize
  have hplacedBefore := fun c hc => hplaced c (List.mem_append_left _ hc)
  have hplacedBetween := fun c hc => hplaced c (List.mem_append_right _ hc)
  have hfmtData : fmtChunk.chunkId ≠ ChunkId.data := by
    rw [hid]
    decide
  refine Consumes.bind (WavPreamble.consumes_readRiffHeader _) ?_
  refine WavPreamble.consumes_chunks (fun c hc => ⟨(hplacedBefore c hc).2, hbefore c hc⟩)
    (WavPreamble.placeAll_beforeFmt (fun c hc => (hplacedBefore c hc).1) rfl) ?_
  have hplace : WavPreamble.Progress.place b
      ⟨[] ++ wav.chunksBeforeFmt, [], none, []⟩ fmtChunk =
        .ok ⟨wav.chunksBeforeFmt, [], some wav.header, fmtChunk.data.drop 16⟩ := by
    unfold WavPreamble.Progress.place
    rw [if_pos hid, hdecode]
    rfl
  refine consumes_loop_again (WavPreamble.consumes_turn hfmtData hfmtFits hplace) ?_
  refine WavPreamble.consumes_chunks (fun c hc => ⟨(hplacedBetween c hc).2, hbetween c hc⟩)
    (WavPreamble.placeAll_beforeData (fun c hc => (hplacedBetween c hc).1) rfl) ?_
  exact WavPreamble.consumes_data rfl _

theorem afterData_image {chunks chunks' : List WavChunk} (h : ∀ c ∈ chunks', c.Fits) :
    loop afterDataTurn afterDataTurn_consuming chunks (chunks'.flatMap WavChunk.bytes) =
      (.ok (chunks ++ chunks'), []) := by
  induction chunks' generalizing chunks with
  | nil =>
      rw [List.append_nil]
      exact loop_of_done rfl
  | cons chunk chunks' ih =>
      have hturn : Consumes (afterDataTurn chunks) chunk.bytes (.again (chunks ++ [chunk])) := by
        refine Consumes.bind chunk.header.consumes_read ?_
        exact (WavChunk.consumes_body (h chunk List.mem_cons_self)).bind_pure
          fun chunk => (Turn.again (chunks ++ [chunk]) : Turn _ (List WavChunk))
      rw [List.flatMap_cons, loop_of_again (hturn _)]
      rw [ih fun c hc => h c (List.mem_cons_of_mem chunk hc), List.append_assoc]
      rfl

/-- The reader takes the bytes of a file for the file. -/
theorem read_image (hplaced : wav.Placed) (hid : fmtChunk.chunkId = ChunkId.fmt)
    (hdecode : WavHeader.fromFmtChunkUnchecked b fmtChunk = .ok wav.header)
    (hsize : wav.riffSize fmtChunk < 2 ^ 32) : Wav.read b (wav.image fmtChunk) =
      (.ok { wav with fmtExtension := fmtChunk.data.drop 16 }, []) := by
  obtain ⟨-, -, -, hdata, hafter⟩ := fits_of_riffSize hsize
  have hlen : wav.data.length = (UInt32.ofNat wav.data.length).toNat :=
    (WavChunk.header_size hdata).symm
  have hpadding : wav.dataChunk.padding.length = (UInt32.ofNat wav.data.length).toNat % 2 := by
    rw [← hlen]
    exact wav.dataChunk.padding_length
  refine (Act.bind_of_ok (consumes_preamble hplaced hid hdecode hsize _)).trans ?_
  refine (Act.bind_of_ok (((consumes_readExact hlen).mapErr WavError.io) _)).trans ?_
  refine (Act.bind_of_ok (((consumes_skipChunkPadding hpadding).mapErr WavError.io) _)).trans ?_
  refine (Act.bind_of_ok (afterData_image hafter)).trans ?_
  rfl

end Wav

end Rs1722
