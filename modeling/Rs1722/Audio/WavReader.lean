/-
# `Rs1722.Audio.WavReader` — the reader against the chunks that are there

What `Wav::read` makes of a byte string, compared with the chunks laid out in it.  The layout
(`Spans`, `LaidOut`) says nothing of the reader: an identifier, a size, so many bytes, a pad
byte after an odd number, and again.

    what was accepted is laid out, and the reader put it
    away chunk by chunk                                      (`Wav.read_spans`)
    the reader lists the chunks exactly when there is one
    `fmt ` chunk before `data`                               (`Wav.lists_iff`)
    what is left of a file that was cut is refused, or ends
    earlier after `data`                                     (`Wav.read_truncated`)
-/
import Rs1722.Audio.WavRoundTrip

namespace Rs1722

open Lib

/-! ## Chunks one after the other -/

/-- `s` starts with the chunks, one after the other, and `rest` follows. -/
inductive Spans : List UInt8 → List WavChunk → List UInt8 → Prop
  | nil (s : List UInt8) : Spans s [] s
  | cons {header : ChunkHeader} {data padding s rest : List UInt8} {chunks : List WavChunk} :
      data.length = header.chunkSize.toNat → padding.length = header.chunkSize.toNat % 2 →
      Spans s chunks rest →
      Spans (header.bytes ++ (data ++ padding ++ s)) (⟨header.chunkId, data⟩ :: chunks) rest

/-- The chunks are all there is: what follows is too short for an identifier. -/
def LaidOut (s : List UInt8) (chunks : List WavChunk) : Prop :=
  ∃ rest, rest.length < 4 ∧ Spans s chunks rest

theorem Spans.append {s mid rest : List UInt8} {chunks chunks' : List WavChunk}
    (h : Spans s chunks mid) (h' : Spans mid chunks' rest) : Spans s (chunks ++ chunks') rest := by
  induction h with
  | nil s => exact h'
  | cons hdata hpadding _ ih => exact .cons hdata hpadding (ih h')

theorem Spans.laidOut {s mid : List UInt8} {chunks chunks' : List WavChunk}
    (h : Spans s chunks mid) (h' : LaidOut mid chunks') : LaidOut s (chunks ++ chunks') := by
  obtain ⟨rest, hshort, hrest⟩ := h'
  exact ⟨rest, hshort, h.append hrest⟩

theorem Spans.length_eq {s rest : List UInt8} {chunks : List WavChunk} (h : Spans s chunks rest) :
    s.length = WavChunk.serializedSizes chunks + rest.length := by
  induction h with
  | nil s => exact (Nat.zero_add _).symm
  | cons hdata hpadding _ ih =>
      rw [List.length_append, List.length_append, List.length_append, ChunkHeader.bytes_length,
        hdata, hpadding, ih]
      unfold WavChunk.serializedSizes
      rw [List.map_cons, List.sum_cons]
      unfold WavChunk.serializedSize
      rw [hdata]
      omega

theorem laidOut_bytes {chunks : List WavChunk} (h : ∀ c ∈ chunks, c.Fits) :
    LaidOut (chunks.flatMap WavChunk.bytes) chunks := by
  refine ⟨[], Nat.zero_lt_succ 3, ?_⟩
  induction chunks with
  | nil => exact .nil []
  | cons chunk chunks ih =>
      have hsize := WavChunk.header_size (h chunk List.mem_cons_self)
      rw [List.flatMap_cons]
      unfold WavChunk.bytes
      rw [List.append_assoc]
      have hpadding : chunk.padding.length = chunk.header.chunkSize.toNat % 2 := by
        rw [hsize]
        exact chunk.padding_length
      exact .cons hsize.symm hpadding (ih fun c hc => h c (List.mem_cons_of_mem chunk hc))

theorem spans_of_read {header : ChunkHeader} {chunk : WavChunk} {s s' rest : List UInt8}
    {chunks : List WavChunk} (hread : WavChunk.read header s = (.ok chunk, s'))
    (h : Spans s' chunks rest) : Spans (header.bytes ++ s) (chunk :: chunks) rest := by
  obtain ⟨padding, rfl, hid, hdata, hpadding⟩ := WavChunk.read_ok hread
  have hchunk : chunk = ⟨header.chunkId, chunk.data⟩ := by rw [← hid]
  rw [hchunk]
  exact .cons hdata hpadding h

/-! ## After `data` -/

namespace Wav

variable {b : Build} {acc chunks : List WavChunk} {s s' : List UInt8}

theorem consumes_afterDataTurn {header : ChunkHeader} {data padding : List UInt8}
    (hdata : data.length = header.chunkSize.toNat)
    (hpadding : padding.length = header.chunkSize.toNat % 2) :
    Consumes (afterDataTurn acc) (header.bytes ++ (data ++ padding))
      (.again (acc ++ [⟨header.chunkId, data⟩])) :=
  Consumes.bind header.consumes_read ((WavChunk.consumes_read hdata hpadding).bind_pure
    fun chunk => (Turn.again (acc ++ [chunk]) : Turn _ (List WavChunk)))

theorem afterData_laidOut (h : LaidOut s chunks) :
    loop afterDataTurn afterDataTurn_consuming acc s = (.ok (acc ++ chunks), []) := by
  obtain ⟨rest, hshort, hspans⟩ := h
  induction hspans generalizing acc with
  | nil s =>
      rw [List.append_nil]
      apply loop_of_done
      rcases ChunkHeader.read_cases s with ⟨-, hheader⟩ | ⟨⟨hlong, -⟩, -⟩ | ⟨header, s₁, rfl, -⟩
      · exact Act.bind_of_ok hheader
      · omega
      · rw [List.length_append, ChunkHeader.bytes_length] at hshort
        omega
  | @cons header data padding s rest chunks hdata hpadding _ ih =>
      rw [← List.append_assoc, loop_of_again (consumes_afterDataTurn hdata hpadding s), ih hshort,
        List.append_assoc]
      rfl

theorem afterDataTurn_done (h : afterDataTurn acc s = (.ok (.done chunks), s')) :
    acc = chunks ∧ s.length < 4 := by
  unfold afterDataTurn at h
  rcases ChunkHeader.read_cases s with ⟨hshort, hheader⟩ | ⟨-, hheader⟩ | ⟨header, s₁, rfl, hheader⟩
  · rw [Act.bind_of_ok hheader] at h
    exact ⟨Turn.done.inj (Outcome.ok.inj (Prod.mk.inj h).1), hshort⟩
  · rw [Act.bind_of_err hheader] at h
    cases (Prod.mk.inj h).1
  · rw [Act.bind_of_ok hheader] at h
    obtain ⟨chunk, s₂, -, hagain⟩ := Act.bind_ok_iff.mp h
    cases (Prod.mk.inj hagain).1

theorem laidOut_of_afterData
    (h : loop afterDataTurn afterDataTurn_consuming acc s = (.ok chunks, s')) :
    ∃ tail, chunks = acc ++ tail ∧ LaidOut s tail := by
  induction hlen : s.length using Nat.strongRecOn generalizing acc s with
  | ind n ih =>
      subst hlen
      rw [loop_eq] at h
      rcases hturn : afterDataTurn acc s with ⟨(⟨acc'⟩ | ⟨found⟩) | e | msg, s₁⟩ <;> rw [hturn] at h
      · obtain ⟨tail, htail, rest, hshort, hspans⟩ :=
          ih s₁.length (afterDataTurn_consuming _ _ _ _ hturn) h rfl
        obtain ⟨header, chunk, s₂, rfl, hread, rfl⟩ := afterDataTurn_again hturn
        exact ⟨chunk :: tail, by rw [htail, List.append_assoc]; rfl, rest, hshort,
          spans_of_read hread hspans⟩
      · obtain ⟨hfound, -⟩ := Prod.mk.inj h
        obtain rfl := Outcome.ok.inj hfound
        obtain ⟨rfl, hshort⟩ := afterDataTurn_done hturn
        exact ⟨[], (List.append_nil _).symm, s, hshort, .nil s⟩
      · cases (Prod.mk.inj h).1
      · cases (Prod.mk.inj h).1

/-- A byte string lays out one list of chunks at most. -/
theorem laidOut_unique (h : LaidOut s chunks) (h' : LaidOut s acc) : chunks = acc := by
  have hread : loop afterDataTurn afterDataTurn_consuming [] s = (.ok ([] ++ chunks), []) :=
    afterData_laidOut h
  rw [afterData_laidOut h'] at hread
  exact (Outcome.ok.inj (Prod.mk.inj hread).1).symm

end Wav

/-! ## Before `data` -/

theorem ChunkId.fmt_ne_data : ChunkId.fmt ≠ ChunkId.data := by decide

namespace WavPreamble

variable {b : Build} {p : Progress} {preamble : WavPreamble} {s s' : List UInt8}

/-- The loop of the preamble has gone over the chunks that are there, up to `data`, and put one
after the other away. -/
theorem spans_of_turns (h : loop (turn b) turn_consuming p s = (.ok preamble, s')) :
    ∃ chunks p', Spans s chunks (ChunkHeader.bytes ⟨ChunkId.data, preamble.dataSize⟩ ++ s') ∧
      (∀ c ∈ chunks, c.chunkId ≠ ChunkId.data) ∧
      chunks.foldlM (fun p chunk => p.place b chunk) p = .ok p' ∧
      p' = ⟨preamble.chunksBeforeFmt, preamble.chunksBeforeData, some preamble.header,
        preamble.fmtExtension⟩ := by
  induction hlen : s.length using Nat.strongRecOn generalizing p s with
  | ind n ih =>
      subst hlen
      rw [loop_eq] at h
      rcases hturn : turn b p s with ⟨(⟨p₁⟩ | ⟨found⟩) | e | msg, s₁⟩ <;> rw [hturn] at h
      · obtain ⟨chunks, p', hspans, hids, hplaced, hp'⟩ :=
          ih s₁.length (turn_consuming _ _ _ _ hturn) h rfl
        obtain ⟨header, chunk, s₂, rfl, hid, hread, hplace⟩ := turn_again hturn
        obtain ⟨-, -, hsame, -⟩ := WavChunk.read_ok hread
        rw [← hsame] at hid
        refine ⟨chunk :: chunks, p', spans_of_read hread hspans, ?_, ?_, hp'⟩
        · exact List.forall_mem_cons.mpr ⟨hid, hids⟩
        · rw [List.foldlM_cons, hplace]
          exact hplaced
      · obtain ⟨hfound, rfl⟩ := Prod.mk.inj h
        obtain rfl := Outcome.ok.inj hfound
        obtain ⟨header, hheader, hs, hfields⟩ := turn_done hturn
        refine ⟨[], p, ?_, nofun, rfl, ?_⟩
        · rw [← hs]
          exact .nil s
        · rw [hfields, ← hheader]
      · cases (Prod.mk.inj h).1
      · cases (Prod.mk.inj h).1

theorem readRiffHeader_ok (h : readRiffHeader s = (.ok (), s')) :
    ∃ riffSize, s = riffHeader riffSize ++ s' := by
  unfold readRiffHeader at h
  obtain ⟨riff, s₁, hriff, h₁⟩ := Act.bind_ok_iff.mp h
  obtain rfl := readArray_ok_iff.mp (Act.mapErr_ok_iff.mp hriff)
  split at h₁
  · cases (Prod.mk.inj h₁).1
  rename_i hriffId
  obtain ⟨size, s₂, hsize, h₂⟩ := Act.bind_ok_iff.mp h₁
  obtain rfl := readArray_ok_iff.mp (Act.mapErr_ok_iff.mp hsize)
  obtain ⟨wave, s₃, hwave, h₃⟩ := Act.bind_ok_iff.mp h₂
  obtain rfl := readArray_ok_iff.mp (Act.mapErr_ok_iff.mp hwave)
  split at h₃
  · cases (Prod.mk.inj h₃).1
  rename_i hwaveId
  obtain ⟨-, rfl⟩ := Prod.mk.inj h₃
  refine ⟨u32FromLe size.toList, ?_⟩
  unfold riffHeader
  rw [not_not.mp hriffId, not_not.mp hwaveId, u32ToLe_fromLe size.length_toList, List.append_assoc,
    List.append_assoc]

@[simp] theorem riffHeader_length (riffSize : UInt32) : (riffHeader riffSize).length = 12 := by
  unfold riffHeader
  rw [List.length_append, List.length_append, u32ToLe_length, Vector.length_toList,
    Vector.length_toList]

end WavPreamble

namespace Wav

variable {b : Build} {wav : Wav} {bytes s' : List UInt8} {chunks : List WavChunk}

/-! ## What the reader lists -/

/-- `Wav::read` up to the end of the `data` chunk. -/
def readHead (b : Build) : Act (List UInt8) WavError (WavPreamble × List UInt8) := do
  let preamble ← WavPreamble.read b
  let data ← Act.mapErr .io (readExact preamble.dataSize.toNat)
  Act.mapErr .io (skipChunkPadding preamble.dataSize)
  return (preamble, data)

/-- What `Wav::read` makes of the two parts. -/
def assemble (head : WavPreamble × List UInt8) (chunksAfterData : List WavChunk) : Wav where
  chunksBeforeFmt := head.1.chunksBeforeFmt
  header := head.1.header
  fmtExtension := head.1.fmtExtension
  chunksBeforeData := head.1.chunksBeforeData
  data := head.2
  chunksAfterData

theorem read_eq (b : Build) : read b = readHead b >>= fun head =>
    loop afterDataTurn afterDataTurn_consuming [] >>= fun chunks =>
      (pure (assemble head chunks) : Act (List UInt8) WavError Wav) := by
  unfold readHead
  rw [bind_assoc]
  refine congrArg (WavPreamble.read b >>= ·) (funext fun preamble => ?_)
  rw [bind_assoc]
  refine congrArg (Act.mapErr WavError.io (readExact preamble.dataSize.toNat) >>= ·)
    (funext fun data => ?_)
  rw [bind_assoc]
  rfl

/-- Up to the end of `data`: behind the RIFF header are chunks that the loop of the preamble has
put away, and `data`. -/
theorem readHead_spans {head : WavPreamble × List UInt8} (h : readHead b bytes = (.ok head, s')) :
    12 ≤ bytes.length ∧ ∃ chunks p, Spans (bytes.drop 12) (chunks ++ [⟨ChunkId.data, head.2⟩]) s' ∧
    (∀ c ∈ chunks, c.chunkId ≠ ChunkId.data) ∧
    chunks.foldlM (fun p chunk => p.place b chunk) ({} : WavPreamble.Progress) = .ok p ∧
    p = ⟨head.1.chunksBeforeFmt, head.1.chunksBeforeData, some head.1.header,
      head.1.fmtExtension⟩ := by
  obtain ⟨preamble, s₁, hpreamble, h₁⟩ := Act.bind_ok_iff.mp h
  obtain ⟨data, s₂, hdata, h₂⟩ := Act.bind_ok_iff.mp h₁
  obtain ⟨⟨⟩, s₃, hpadding, hhead⟩ := Act.bind_ok_iff.mp h₂
  obtain ⟨hfound, rfl⟩ := Prod.mk.inj hhead
  obtain rfl := Outcome.ok.inj hfound
  obtain ⟨⟨⟩, s₀, hriff, hturns⟩ := Act.bind_ok_iff.mp hpreamble
  obtain ⟨riffSize, rfl⟩ := WavPreamble.readRiffHeader_ok hriff
  obtain ⟨chunks, p, hspans, hids, hplaced, hp⟩ := WavPreamble.spans_of_turns hturns
  constructor
  · rw [List.length_append, WavPreamble.riffHeader_length]
    exact Nat.le_add_right 12 _
  refine ⟨chunks, p, ?_, hids, hplaced, hp⟩
  -- the payload of `data` and its padding are read like any chunk
  have hchunk : WavChunk.read ⟨ChunkId.data, preamble.dataSize⟩ s₁ =
      (.ok ⟨ChunkId.data, data⟩, s₃) :=
    (Act.bind_of_ok hdata).trans (Act.bind_of_ok hpadding)
  rw [List.drop_left' (WavPreamble.riffHeader_length riffSize)]
  exact hspans.append (spans_of_read hchunk (.nil s₃))

/-- What was accepted is laid out behind the RIFF header: chunks that the loop of the preamble
has put away, `data`, and the chunks after it. -/
theorem read_spans (h : read b bytes = (.ok wav, s')) : ∃ chunks p,
    LaidOut (bytes.drop 12) (chunks ++ ⟨ChunkId.data, wav.data⟩ :: wav.chunksAfterData) ∧
    (∀ c ∈ chunks, c.chunkId ≠ ChunkId.data) ∧
    chunks.foldlM (fun p chunk => p.place b chunk) ({} : WavPreamble.Progress) = .ok p ∧
    p = ⟨wav.chunksBeforeFmt, wav.chunksBeforeData, some wav.header, wav.fmtExtension⟩ := by
  rw [read_eq] at h
  obtain ⟨head, s₁, hhead, h₁⟩ := Act.bind_ok_iff.mp h
  obtain ⟨after, s₂, hafter, hwav⟩ := Act.bind_ok_iff.mp h₁
  obtain rfl := Outcome.ok.inj (Prod.mk.inj hwav).1
  obtain ⟨-, chunks, p, hspans, hids, hplaced, hp⟩ := readHead_spans hhead
  obtain ⟨tail, rfl, htail⟩ := laidOut_of_afterData hafter
  have hlaid := hspans.laidOut htail
  rw [List.append_assoc] at hlaid
  exact ⟨chunks, p, hlaid, hids, hplaced, hp⟩

/-- The value lists the chunks in their order: those before `fmt `, a chunk that its header and
its extension stand for, those before `data`, `data` and those after it. -/
def Lists (b : Build) (wav : Wav) (chunks : List WavChunk) : Prop :=
  ∃ payload, WavHeader.fromFmtChunkUnchecked b ⟨ChunkId.fmt, payload⟩ = .ok wav.header ∧
    wav.fmtExtension = payload.drop 16 ∧
    chunks = wav.chunksBeforeFmt ++ ⟨ChunkId.fmt, payload⟩ ::
      (wav.chunksBeforeData ++ ⟨ChunkId.data, wav.data⟩ :: wav.chunksAfterData)

/-- The chunks before the first `data`. -/
def beforeData (chunks : List WavChunk) : List WavChunk :=
  chunks.takeWhile fun c => c.chunkId ≠ ChunkId.data

theorem beforeData_append {after : List WavChunk} {data : List UInt8}
    (h : ∀ c ∈ chunks, c.chunkId ≠ ChunkId.data) :
    beforeData (chunks ++ ⟨ChunkId.data, data⟩ :: after) = chunks := by
  unfold beforeData
  rw [List.takeWhile_append_of_pos fun c hc => decide_eq_true (h c hc),
    List.takeWhile_cons_of_neg (by rw [decide_eq_true_eq, not_not]), List.append_nil]

/-- With one `fmt ` chunk among them, the loop has sorted the chunks around it. -/
theorem listed_of_one_fmt {p : WavPreamble.Progress}
    (hplaced : chunks.foldlM (fun p chunk => p.place b chunk) ({} : WavPreamble.Progress) = .ok p)
    (hone : chunks.countP (fun c => c.chunkId = ChunkId.fmt) = 1) :
    ∃ payload header, WavHeader.fromFmtChunkUnchecked b ⟨ChunkId.fmt, payload⟩ = .ok header ∧
      p.header = some header ∧ p.fmtExtension = payload.drop 16 ∧
      chunks = p.chunksBeforeFmt ++ ⟨ChunkId.fmt, payload⟩ :: p.chunksBeforeData := by
  rw [List.countP_eq_length_filter] at hone
  obtain ⟨chunk, hchunk⟩ := List.length_eq_one_iff.mp hone
  obtain ⟨before, after, rfl, hbefore, hfmt, hafter⟩ := List.filter_eq_cons_iff.mp hchunk
  have hid : chunk.chunkId = ChunkId.fmt := of_decide_eq_true hfmt
  have hbefore' : ∀ c ∈ before, c.chunkId ≠ ChunkId.fmt :=
    fun c hc heq => hbefore c hc (decide_eq_true heq)
  have hafter' : ∀ c ∈ after, c.chunkId ≠ ChunkId.fmt :=
    fun c hc heq => List.filter_eq_nil_iff.mp hafter c hc (decide_eq_true heq)
  rw [List.foldlM_append, WavPreamble.placeAll_beforeFmt hbefore' rfl, Outcome.ok_bind,
    List.foldlM_cons] at hplaced
  obtain ⟨p₁, hplace, hplacedAfter⟩ := Outcome.bind_eq_ok.mp hplaced
  unfold WavPreamble.Progress.place at hplace
  rw [if_pos hid] at hplace
  obtain ⟨header, hdecoded, hp₁⟩ := Outcome.bind_eq_ok.mp hplace
  obtain rfl := Outcome.ok.inj hp₁
  rw [WavPreamble.placeAll_beforeData hafter' rfl] at hplacedAfter
  obtain rfl := Outcome.ok.inj hplacedAfter
  have hchunkEq : chunk = ⟨ChunkId.fmt, chunk.data⟩ := by rw [← hid]
  rw [hchunkEq] at hdecoded ⊢
  exact ⟨chunk.data, header, hdecoded, rfl, rfl, rfl⟩

/-- The value of an accepted file lists the chunks laid out in the file exactly when one `fmt `
chunk stands before `data`: of several, the reader keeps the last. -/
theorem lists_iff (b : Build) (bytes : List UInt8) (wav : Wav)
    (hread : (Wav.read b bytes).1 = .ok wav) :
    (∃ chunks, LaidOut (bytes.drop 12) chunks) ∧
      ∀ chunks, LaidOut (bytes.drop 12) chunks → (wav.Lists b chunks ↔
        (beforeData chunks).countP (fun c => c.chunkId = ChunkId.fmt) = 1) := by
  have hok : Wav.read b bytes = (.ok wav, (Wav.read b bytes).2) := Prod.ext hread rfl
  obtain ⟨before, p, hlaid, hids, hplaced, rfl⟩ := read_spans hok
  refine ⟨⟨_, hlaid⟩, ?_⟩
  intro chunks hchunks
  obtain rfl := laidOut_unique hlaid hchunks
  rw [beforeData_append hids]
  constructor
  · rintro ⟨payload, -, -, heq⟩
    obtain ⟨hbefore, hbetween⟩ := List.forall_mem_append.mp (read_ok hok).1
    have hsorted : ∀ c ∈ wav.chunksBeforeFmt ++ ⟨ChunkId.fmt, payload⟩ :: wav.chunksBeforeData,
        c.chunkId ≠ ChunkId.data :=
      List.forall_mem_append.mpr ⟨fun c hc => (hbefore c hc).2,
        List.forall_mem_cons.mpr ⟨ChunkId.fmt_ne_data, fun c hc => (hbetween c hc).2⟩⟩
    have hcut := congrArg beforeData heq
    rw [beforeData_append hids, ← List.cons_append, ← List.append_assoc,
      beforeData_append hsorted] at hcut
    rw [hcut, List.countP_append, List.countP_cons_of_pos (by rw [decide_eq_true_eq]),
      List.countP_eq_zero.mpr fun c hc heq => (hbefore c hc).1 (of_decide_eq_true heq),
      List.countP_eq_zero.mpr fun c hc heq => (hbetween c hc).1 (of_decide_eq_true heq)]
  · intro hone
    obtain ⟨payload, header, hdecoded, hheader, hext, hbefore⟩ := listed_of_one_fmt hplaced hone
    obtain rfl := Option.some.inj hheader
    refine ⟨payload, hdecoded, hext, ?_⟩
    rw [hbefore, List.append_assoc, List.cons_append]

theorem lists_every_place :
    let junk : WavChunk := ⟨#v[0x4A, 0x55, 0x4E, 0x4B], [7]⟩
    let fmt : WavChunk := ⟨ChunkId.fmt, [1, 0, 1, 0, 0x80, 0xBB, 0, 0, 0, 0x77, 1, 0, 2, 0, 16, 0]⟩
    let fact : WavChunk := ⟨#v[0x66, 0x61, 0x63, 0x74], [1, 0, 0, 0]⟩
    let wav : Wav := ⟨[junk], ⟨1, 48000, 16, 16, .pcm⟩, [], [fact], [1, 2], [junk]⟩
    let bytes : List UInt8 := [0x52, 0x49, 0x46, 0x46, 70, 0, 0, 0, 0x57, 0x41, 0x56, 0x45,
      0x4A, 0x55, 0x4E, 0x4B, 1, 0, 0, 0, 7, 0,
      0x66, 0x6D, 0x74, 0x20, 16, 0, 0, 0, 1, 0, 1, 0, 0x80, 0xBB, 0, 0, 0, 0x77, 1, 0, 2, 0, 16, 0,
      0x66, 0x61, 0x63, 0x74, 4, 0, 0, 0, 1, 0, 0, 0,
      0x64, 0x61, 0x74, 0x61, 2, 0, 0, 0, 1, 2,
      0x4A, 0x55, 0x4E, 0x4B, 1, 0, 0, 0, 7, 0]
    (Wav.read .debug bytes).1 = .ok wav ∧
      wav.Lists .debug [junk, fmt, fact, ⟨ChunkId.data, [1, 2]⟩, junk] := by
  intro junk fmt fact wav bytes
  have hbytes : bytes = wav.image fmt := by decide
  have hread : (Wav.read .debug bytes).1 = .ok wav := by
    rw [hbytes, read_image (by decide) rfl (by decide) (by decide)]
    rfl
  have hlaid : LaidOut (bytes.drop 12) [junk, fmt, fact, ⟨ChunkId.data, [1, 2]⟩, junk] := by
    have hchunks : bytes.drop 12 =
        [junk, fmt, fact, ⟨ChunkId.data, [1, 2]⟩, junk].flatMap WavChunk.bytes := by decide
    rw [hchunks]
    exact laidOut_bytes (by decide)
  exact ⟨hread, ((lists_iff .debug bytes wav hread).2 _ hlaid).mpr (by decide)⟩

/-- Two `fmt ` chunks, the first for one channel, the second for two. -/
theorem second_fmt_replaces_first :
    ¬ ∀ (bytes : List UInt8) (wav : Wav), (Wav.read .debug bytes).1 = .ok wav →
      ∃ chunks, LaidOut (bytes.drop 12) chunks ∧ wav.Lists .debug chunks := by
  intro h
  let mono : WavChunk := ⟨ChunkId.fmt, [1, 0, 1, 0, 0x80, 0xBB, 0, 0, 0, 0x77, 1, 0, 2, 0, 16, 0]⟩
  let stereo : WavChunk := ⟨ChunkId.fmt, [1, 0, 2, 0, 0x80, 0xBB, 0, 0, 0, 0xEE, 2, 0, 4, 0, 16, 0]⟩
  let preamble : WavPreamble := ⟨[], ⟨2, 48000, 16, 16, .pcm⟩, [], [], 0⟩
  let wav : Wav := ⟨[], ⟨2, 48000, 16, 16, .pcm⟩, [], [], [], []⟩
  let bytes : List UInt8 := [0x52, 0x49, 0x46, 0x46, 60, 0, 0, 0, 0x57, 0x41, 0x56, 0x45,
    0x66, 0x6D, 0x74, 0x20, 16, 0, 0, 0, 1, 0, 1, 0, 0x80, 0xBB, 0, 0, 0, 0x77, 1, 0, 2, 0, 16, 0,
    0x66, 0x6D, 0x74, 0x20, 16, 0, 0, 0, 1, 0, 2, 0, 0x80, 0xBB, 0, 0, 0, 0xEE, 2, 0, 4, 0, 16, 0,
    0x64, 0x61, 0x74, 0x61, 0, 0, 0, 0]
  have hpreamble : Consumes (WavPreamble.read .debug) bytes preamble := by
    have hbytes : bytes = WavPreamble.riffHeader 60 ++ ([mono, stereo].flatMap WavChunk.bytes ++
        ChunkHeader.bytes ⟨ChunkId.data, 0⟩) := by decide
    rw [hbytes]
    exact Consumes.bind (WavPreamble.consumes_readRiffHeader 60)
      (WavPreamble.consumes_chunks (by decide) rfl (WavPreamble.consumes_data rfl 0))
  have hafter : loop afterDataTurn afterDataTurn_consuming [] [] = (.ok [], []) :=
    loop_of_done rfl
  have hread : Wav.read .debug (bytes ++ []) = (.ok wav, []) :=
    (Act.bind_of_ok (hpreamble [])).trans (Act.bind_of_ok hafter)
  have hlaid : LaidOut (bytes.drop 12) [mono, stereo, ⟨ChunkId.data, []⟩] := by
    have hchunks : bytes.drop 12 =
        [mono, stereo, ⟨ChunkId.data, []⟩].flatMap WavChunk.bytes := by decide
    rw [hchunks]
    exact laidOut_bytes (by decide)
  obtain ⟨chunks, hchunks, payload, -, -, heq⟩ := h bytes wav (congrArg Prod.fst hread)
  rw [laidOut_unique hchunks hlaid] at heq
  exact absurd (show 3 = 2 from congrArg List.length heq) (by decide)

end Wav

/-! ## Files that were cut -/

/-- A reader that begins with a chunk header sees the cut when it fails at the end of the input
and sees it behind every header. -/
theorem steady_headed {α : Type} {f : Option ChunkHeader → Act (List UInt8) WavError α}
    (hnone : ∀ s, ∃ e, (f none s).1 = .err e) (hsome : ∀ header, Steady (f (some header))) :
    Steady (ChunkHeader.read >>= f) := by
  intro s a s' h
  rcases ChunkHeader.read_cases s with ⟨-, hread⟩ | ⟨-, hread⟩ | ⟨header, s₁, rfl, hread⟩
  · rw [Act.bind_of_ok hread] at h
    obtain ⟨e, he⟩ := hnone []
    rw [h] at he
    cases he
  · rw [Act.bind_of_err hread] at h
    cases (Prod.mk.inj h).1
  rw [Act.bind_of_ok hread] at h
  obtain ⟨used, rfl, hconsumes, hcut⟩ := hsome header s₁ h
  refine ⟨header.bytes ++ used, (List.append_assoc _ _ _).symm,
    header.consumes_read.bind hconsumes, ?_⟩
  intro q hq hne
  by_cases hlen : header.bytes.length ≤ q.length
  · obtain ⟨q', rfl⟩ := List.prefix_of_prefix_length_le (List.prefix_append _ used) hq hlen
    rw [Act.bind_of_ok (header.consumes_read q')]
    exact hcut q' ((List.prefix_append_right_inj _).mp hq) fun heq => hne (heq ▸ rfl)
  · rcases ChunkHeader.read_cases q with ⟨-, hq⟩ | ⟨-, hq⟩ | ⟨header', q', rfl, -⟩
    · rw [Act.bind_of_ok hq]
      exact hnone []
    · exact ⟨_, congrArg Prod.fst (Act.bind_of_err hq)⟩
    · rw [List.length_append, ChunkHeader.bytes_length, ChunkHeader.bytes_length] at hlen
      omega

theorem steady_skipChunkPadding (chunkSize : UInt32) : Steady (skipChunkPadding chunkSize) := by
  unfold skipChunkPadding
  split
  · exact (steady_readExact 1).bind fun _ => steady_pure ()
  · exact steady_pure ()

theorem WavChunk.steady_read (header : ChunkHeader) : Steady (WavChunk.read header) :=
  ((steady_readExact _).mapErr _).bind fun _ =>
    ((steady_skipChunkPadding _).mapErr _).bind fun _ => steady_pure _

namespace WavPreamble

theorem steady_readRiffHeader : Steady readRiffHeader := by
  have hread : Steady (Act.mapErr WavError.io (readArray 4)) := (steady_readArray 4).mapErr _
  refine hread.bind fun riff => ?_
  split
  · exact steady_fail _
  refine hread.bind fun _ => hread.bind fun wave => ?_
  split
  · exact steady_fail _
  · exact steady_pure ()

theorem steady_turn (b : Build) (p : Progress) : Steady (turn b p) := by
  refine steady_headed (fun s => ⟨_, rfl⟩) fun header => ?_
  dsimp only
  split
  · cases p.header with
    | none => exact steady_fail _
    | some header => exact steady_pure _
  · exact (WavChunk.steady_read header).bind fun chunk =>
      (steady_lift _).bind fun p => steady_pure _

theorem steady_read (b : Build) : Steady (read b) :=
  steady_readRiffHeader.bind fun _ => steady_loop (steady_turn b) {}

end WavPreamble

namespace Wav

theorem steady_readHead (b : Build) : Steady (readHead b) :=
  (WavPreamble.steady_read b).bind fun _ =>
    ((steady_readExact _).mapErr _).bind fun _ =>
      ((steady_skipChunkPadding _).mapErr _).bind fun _ => steady_pure _

variable {b : Build} {acc chunks : List WavChunk} {s q : List UInt8}

/-- What is left of the chunks after `data` is refused, or lists the first of them. -/
theorem afterData_cut (h : LaidOut s chunks) (hq : q <+: s) :
    (∃ e, (loop afterDataTurn afterDataTurn_consuming acc q).1 = .err e) ∨
      ∃ after, after <+: chunks ∧
        (loop afterDataTurn afterDataTurn_consuming acc q).1 = .ok (acc ++ after) := by
  obtain ⟨rest, hshort, hspans⟩ := h
  induction hspans generalizing acc q with
  | nil s =>
      right
      have hlaid : LaidOut q [] := ⟨q, Nat.lt_of_le_of_lt hq.length_le hshort, .nil q⟩
      exact ⟨[], List.nil_prefix, congrArg Prod.fst (afterData_laidOut hlaid)⟩
  | @cons header data padding s rest chunks hdata hpadding _ ih =>
      rcases ChunkHeader.read_cases q with ⟨hend, -⟩ | ⟨-, hheader⟩ | ⟨header', q₁, rfl, hheader⟩
      · right
        exact ⟨[], List.nil_prefix, congrArg Prod.fst (afterData_laidOut ⟨q, hend, .nil q⟩)⟩
      · left
        refine ⟨.io .unexpectedEof, ?_⟩
        have hturn : afterDataTurn acc q = (.err (.io .unexpectedEof), []) :=
          Act.bind_of_err hheader
        rw [loop_eq, hturn]
      · -- the header is whole, so it is the one that was there
        obtain ⟨t, ht⟩ := hq
        rw [List.append_assoc] at ht
        obtain ⟨hsame, hbody⟩ := List.append_inj ht
          (by rw [ChunkHeader.bytes_length, ChunkHeader.bytes_length])
        rw [hsame] at hheader ⊢
        rcases WavChunk.read_cases header q₁ with hread | ⟨data', padding', q₂, rfl, hd, hp, -⟩
        · left
          refine ⟨.io .unexpectedEof, ?_⟩
          have hturn : afterDataTurn acc (header.bytes ++ q₁) = (.err (.io .unexpectedEof), []) :=
            (Act.bind_of_ok (header.consumes_read q₁)).trans (Act.bind_of_err hread)
          rw [loop_eq, hturn]
        · -- so is the body, and the loop goes on behind it
          rw [List.append_assoc] at hbody
          obtain ⟨hchunk, hrest⟩ := List.append_inj hbody
            (by rw [List.length_append, List.length_append, hd, hp, hdata, hpadding])
          rw [hchunk, ← List.append_assoc, loop_of_again (consumes_afterDataTurn hdata hpadding q₂)]
          rcases ih ⟨t, hrest⟩ hshort with herr | ⟨after, hafter, hok⟩
          · exact .inl herr
          · refine .inr ⟨⟨header.chunkId, data⟩ :: after, List.cons_prefix_cons.mpr ⟨rfl, hafter⟩, ?_⟩
            rw [hok, List.append_assoc]
            rfl

theorem serializedSizes_append (chunks chunks' : List WavChunk) :
    WavChunk.serializedSizes (chunks ++ chunks') =
      WavChunk.serializedSizes chunks + WavChunk.serializedSizes chunks' := by
  unfold WavChunk.serializedSizes
  rw [List.map_append, List.sum_append]

/-- Where the `data` chunk of a file ends, its pad byte included. -/
def dataEnd (wav : Wav) (chunks : List WavChunk) : Nat :=
  12 + WavChunk.serializedSizes (beforeData chunks) +
    WavChunk.serializedSize ⟨ChunkId.data, wav.data⟩

theorem dataEnd_of_spans {bytes rest : List UInt8} (wav : Wav) {before : List WavChunk}
    (after : List WavChunk) (hlong : 12 ≤ bytes.length)
    (hspans : Spans (bytes.drop 12) (before ++ [⟨ChunkId.data, wav.data⟩]) rest)
    (hids : ∀ c ∈ before, c.chunkId ≠ ChunkId.data) :
    wav.dataEnd (before ++ [⟨ChunkId.data, wav.data⟩] ++ after) + rest.length = bytes.length := by
  have hsum := hspans.length_eq
  have hdata : WavChunk.serializedSizes [⟨ChunkId.data, wav.data⟩] =
      WavChunk.serializedSize ⟨ChunkId.data, wav.data⟩ := List.sum_singleton
  rw [serializedSizes_append, hdata, List.length_drop] at hsum
  unfold dataEnd
  rw [List.append_assoc, List.singleton_append, beforeData_append hids]
  omega

/-- A file that was cut before the end of its `data` chunk is refused.  One that was cut behind it
is refused or read as the same file with the first of the chunks after `data`. -/
theorem read_truncated (b : Build) (bytes : List UInt8) (wav : Wav)
    (hread : (Wav.read b bytes).1 = .ok wav) :
    (∃ chunks, LaidOut (bytes.drop 12) chunks) ∧
      ∀ chunks, LaidOut (bytes.drop 12) chunks → ∀ p, p <+: bytes →
        (p.length < wav.dataEnd chunks → ∃ e, (Wav.read b p).1 = .err e) ∧
        (wav.dataEnd chunks ≤ p.length → (∃ e, (Wav.read b p).1 = .err e) ∨
          ∃ after, after <+: wav.chunksAfterData ∧
            (Wav.read b p).1 = .ok { wav with chunksAfterData := after }) := by
  have hok : Wav.read b bytes = (.ok wav, (Wav.read b bytes).2) := Prod.ext hread rfl
  rw [read_eq] at hok
  obtain ⟨head, s₁, hhead, h₁⟩ := Act.bind_ok_iff.mp hok
  obtain ⟨tail, s₂, hafter, hwav⟩ := Act.bind_ok_iff.mp h₁
  obtain rfl := Outcome.ok.inj (Prod.mk.inj hwav).1
  obtain ⟨hlong, before, -, hspans, hids, -⟩ := readHead_spans hhead
  obtain ⟨_, rfl, htail⟩ := laidOut_of_afterData hafter
  have hlaid := hspans.laidOut htail
  refine ⟨⟨_, hlaid⟩, ?_⟩
  intro chunks hchunks p hp
  obtain rfl := laidOut_unique hlaid hchunks
  obtain ⟨used, hbytes, hconsumes, hcut⟩ := steady_readHead b bytes hhead
  have hend : (assemble head tail).dataEnd (before ++ [⟨ChunkId.data, head.2⟩] ++ tail) =
      used.length := by
    have hdata := dataEnd_of_spans (assemble head tail) tail hlong hspans hids
    rw [hbytes, List.length_append] at hdata
    exact Nat.add_right_cancel hdata
  rw [read_eq, hend]
  constructor
  · intro hshort
    have hprefix : p <+: used := List.prefix_of_prefix_length_le hp
      (hbytes ▸ List.prefix_append used s₁) (Nat.le_of_lt hshort)
    obtain ⟨e, he⟩ := hcut p hprefix fun heq => absurd hshort (heq ▸ Nat.lt_irrefl _)
    rcases hpart : readHead b p with ⟨x, s'⟩
    rw [hpart] at he
    obtain rfl : x = .err e := he
    exact ⟨e, congrArg Prod.fst (Act.bind_of_err hpart)⟩
  · intro hlen
    obtain ⟨q, rfl⟩ := List.prefix_of_prefix_length_le (hbytes ▸ List.prefix_append used s₁) hp hlen
    rw [hbytes] at hp
    rw [Act.bind_of_ok (hconsumes q)]
    have hq : q <+: s₁ := (List.prefix_append_right_inj used).mp hp
    have hrest : (∃ e, (loop afterDataTurn afterDataTurn_consuming [] q).1 = .err e) ∨ _ :=
      afterData_cut htail hq
    rcases hloop : loop afterDataTurn afterDataTurn_consuming [] q with ⟨x, s'⟩
    rcases hrest with ⟨e, he⟩ | ⟨after, hafter, he⟩
    · left
      rw [hloop] at he
      obtain rfl : x = .err e := he
      exact ⟨e, congrArg Prod.fst (Act.bind_of_err hloop)⟩
    · right
      rw [hloop] at he
      obtain rfl : x = .ok ([] ++ after) := he
      exact ⟨after, hafter, congrArg Prod.fst (Act.bind_of_ok hloop)⟩

/-- Twelve bytes of RIFF header, 24 of `fmt `, ten of `data` with its pad byte and ten more: cut in
front of the pad byte, behind it, and in the last chunk. -/
theorem read_truncated_padded :
    let junk : WavChunk := ⟨#v[0x4A, 0x55, 0x4E, 0x4B], [7]⟩
    let wav : Wav := ⟨[], ⟨1, 48000, 8, 8, .pcm⟩, [], [], [1], [junk]⟩
    let bytes : List UInt8 := [0x52, 0x49, 0x46, 0x46, 48, 0, 0, 0, 0x57, 0x41, 0x56, 0x45,
      0x66, 0x6D, 0x74, 0x20, 16, 0, 0, 0, 1, 0, 1, 0, 0x80, 0xBB, 0, 0, 0x80, 0xBB, 0, 0, 1, 0, 8, 0,
      0x64, 0x61, 0x74, 0x61, 1, 0, 0, 0, 1, 0,
      0x4A, 0x55, 0x4E, 0x4B, 1, 0, 0, 0, 7, 0]
    (Wav.read .debug bytes).1 = .ok wav ∧
      (∃ e, (Wav.read .debug (bytes.take 45)).1 = .err e) ∧
      ∀ n ∈ [46, 50], (∃ e, (Wav.read .debug (bytes.take n)).1 = .err e) ∨
        ∃ after, after <+: wav.chunksAfterData ∧
          (Wav.read .debug (bytes.take n)).1 = .ok { wav with chunksAfterData := after } := by
  intro junk wav bytes
  let fmt : WavChunk := ⟨ChunkId.fmt, [1, 0, 1, 0, 0x80, 0xBB, 0, 0, 0x80, 0xBB, 0, 0, 1, 0, 8, 0]⟩
  have hbytes : bytes = wav.image fmt := by decide
  have hread : (Wav.read .debug bytes).1 = .ok wav := by
    rw [hbytes, read_image (by decide) rfl (by decide) (by decide)]
    rfl
  have hlaid : LaidOut (bytes.drop 12) [fmt, ⟨ChunkId.data, [1]⟩, junk] := by
    have hchunks : bytes.drop 12 = [fmt, ⟨ChunkId.data, [1]⟩, junk].flatMap WavChunk.bytes := by
      decide
    rw [hchunks]
    exact laidOut_bytes (by decide)
  have hcut := (read_truncated .debug bytes wav hread).2 _ hlaid
  have hend : wav.dataEnd [fmt, ⟨ChunkId.data, [1]⟩, junk] = 46 := by decide
  rw [hend] at hcut
  refine ⟨hread, (hcut _ (List.take_prefix 45 bytes)).1 (by decide), ?_⟩
  intro n hn
  refine (hcut _ (List.take_prefix n bytes)).2 ?_
  rw [List.length_take]
  rcases List.mem_pair.mp hn with rfl | rfl <;> decide

end Wav

end Rs1722
