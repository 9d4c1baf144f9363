/-
# `Rs1722.IntegrationTest.Outputs` — the files of a test

`write_csv` in `src/bin_utils/csv.rs`, the two kinds of records that are written with it, and
`save_outputs` in `src/bin/avtp-integration-test.rs`, with the end of `main`.

    the lines are the records                                    (`csvText_inj`)
    the audio is loaded again as it was                          (`loadWav_received`)

A test saves its files and then compares, so what it compares can be read off them
(`concluded_outputs`).
-/
import Rs1722.Audio.WavWriter
import Rs1722.IntegrationTest.TalkerRun
import Rs1722.IntegrationTest.Report
import Rs1722.IntegrationTest.Setup
import Rs1722.Lib.File
import Rs1722.Ptp.Display

namespace Rs1722

open Lib

/-! ## Records in lines -/

/-- `CsvRecord`. -/
class CsvRecord (α : Type) where
  csvHeader : Text
  toCsvLine : α → Text

instance : CsvRecord TalkerRecord where
  csvHeader := "frame_idx,seq_num,phc_time_at_send,avtp_timestamp_embedded".toList
  toCsvLine r := separated ',' [natText r.frameIdx, natText r.seqNum.toNat, r.phcTimeAtSend.text,
    natText r.avtpTimestampEmbedded.toNat]

instance : CsvRecord ListenerRecord where
  csvHeader :=
    "frame_idx,seq_num,phc_time_at_receive,avtp_timestamp_embedded,phc_time_at_present".toList
  toCsvLine r := separated ',' [natText r.frameIdx, natText r.seqNum.toNat,
    r.phcTimeAtReceive.text, natText r.avtpTimestampEmbedded.toNat, r.phcTimeAtPresent.text]

section Csv
variable {α : Type} [CsvRecord α]

def csvLines (records : List α) : List Text :=
  CsvRecord.csvHeader α :: records.map CsvRecord.toCsvLine

def csvText (records : List α) : Text := terminated '\n' (csvLines records)

def csvPieces (records : List α) : List Text := (csvLines records).map fun line => line ++ ['\n']

/-- `write_csv`. -/
def writeCsv (r : FileReplies String) (records : List α) : Act (Option Text) String Unit :=
  writeFile r (csvPieces records)

theorem csvPieces_flatten (records : List α) : (csvPieces records).flatten = csvText records :=
  (List.flatMap_def ..).symm

end Csv

/-! ## The lines are the records -/

def Plain (s : Text) : Prop := ',' ∉ s ∧ '\n' ∉ s

theorem plain_natText (n : Nat) : Plain (natText n) :=
  ⟨fun h => absurd (digits_natText n _ h) (by decide),
    fun h => absurd (digits_natText n _ h) (by decide)⟩

theorem PtpTime.plain_text (p : PtpTime) : Plain p.text := by
  have hno {c : Char} (hminus : c ≠ '-') (hpoint : c ≠ '.') (hdigit : ¬ c.isDigit = true) :
      c ∉ p.text := by
    intro h
    rcases PtpTime.mem_text h with h | h | h
    · exact hminus h
    · exact hpoint h
    · exact hdigit h
  exact ⟨hno (by decide) (by decide) (by decide), hno (by decide) (by decide) (by decide)⟩

theorem plain_fields_inj {fields fields' : List Text} (h : ∀ field ∈ fields, Plain field)
    (h' : ∀ field ∈ fields', Plain field) (hne : fields ≠ []) (hne' : fields' ≠ []) :
    separated ',' fields = separated ',' fields' → fields = fields' :=
  (separated_inj (fun field hf => (h field hf).1) (fun field hf => (h' field hf).1) hne hne').mp

theorem newline_not_mem_fields {fields : List Text} (h : ∀ field ∈ fields, Plain field) :
    '\n' ∉ separated ',' fields := by
  intro hmem
  rcases mem_separated hmem with hcomma | ⟨field, hfield, hin⟩
  · exact absurd hcomma (by decide)
  · exact (h field hfield).2 hin

class LineByLine (α : Type) [CsvRecord α] : Prop where
  headerLine : '\n' ∉ CsvRecord.csvHeader α
  line : ∀ r : α, '\n' ∉ CsvRecord.toCsvLine r
  inj : ∀ r r' : α, CsvRecord.toCsvLine r = CsvRecord.toCsvLine r' → r = r'

instance : LineByLine TalkerRecord := by
  have hplain (r : TalkerRecord) : ∀ field ∈ [natText r.frameIdx, natText r.seqNum.toNat,
      r.phcTimeAtSend.text, natText r.avtpTimestampEmbedded.toNat], Plain field := by
    simp only [List.forall_mem_cons]
    exact ⟨plain_natText _, plain_natText _, PtpTime.plain_text _, plain_natText _,
      fun _ h => absurd h List.not_mem_nil⟩
  refine ⟨by decide, fun r => newline_not_mem_fields (hplain r), fun r r' h => ?_⟩
  have hfields := plain_fields_inj (hplain r) (hplain r') (List.cons_ne_nil _ _)
    (List.cons_ne_nil _ _) h
  simp only [List.cons.injEq, natText_inj, PtpTime.text_inj, UInt8.toNat_inj, UInt32.toNat_inj,
    and_true] at hfields
  obtain ⟨frameIdx, seqNum, phcTimeAtSend, avtpTimestampEmbedded⟩ := r
  obtain ⟨rfl, rfl, rfl, rfl⟩ := hfields
  rfl

instance : LineByLine ListenerRecord := by
  have hplain (r : ListenerRecord) : ∀ field ∈ [natText r.frameIdx, natText r.seqNum.toNat,
      r.phcTimeAtReceive.text, natText r.avtpTimestampEmbedded.toNat, r.phcTimeAtPresent.text],
      Plain field := by
    simp only [List.forall_mem_cons]
    exact ⟨plain_natText _, plain_natText _, PtpTime.plain_text _, plain_natText _,
      PtpTime.plain_text _, fun _ h => absurd h List.not_mem_nil⟩
  refine ⟨by decide, fun r => newline_not_mem_fields (hplain r), fun r r' h => ?_⟩
  have hfields := plain_fields_inj (hplain r) (hplain r') (List.cons_ne_nil _ _)
    (List.cons_ne_nil _ _) h
  simp only [List.cons.injEq, natText_inj, PtpTime.text_inj, UInt8.toNat_inj, UInt32.toNat_inj,
    and_true] at hfields
  obtain ⟨frameIdx, seqNum, phcTimeAtReceive, avtpTimestampEmbedded, phcTimeAtPresent⟩ := r
  obtain ⟨rfl, rfl, rfl, rfl, rfl⟩ := hfields
  rfl

theorem csvText_inj {α : Type} [CsvRecord α] [LineByLine α] {records records' : List α} :
    csvText records = csvText records' ↔ records = records' := by
  refine ⟨fun h => ?_, congrArg _⟩
  have hlines (records : List α) : ∀ line ∈ csvLines records, '\n' ∉ line := by
    refine List.forall_mem_cons.mpr ⟨LineByLine.headerLine, fun line hline => ?_⟩
    obtain ⟨r, -, rfl⟩ := List.mem_map.mp hline
    exact LineByLine.line r
  have hsame := (terminated_inj (hlines records) (hlines records')).mp h
  exact List.map_injective_iff.mpr LineByLine.inj (List.cons.inj hsame).2

/-! ## The audio -/

structure WavHeader.Playable (header : WavHeader) : Prop where
  tagged : header.Tagged
  valid : header.validBitsPerSample ≠ 0
  fits : header.ArithmeticFits

section Audio
variable {fl : FloatOps} {b : Build} {header : WavHeader}

theorem SampleRate.fromHz_le {rateHz : UInt32} {rate : SampleRate}
    (h : SampleRate.fromHz rateHz = some rate) : rateHz.toNat ≤ 192000 := by
  unfold SampleRate.fromHz at h
  repeat' split at h
  all_goals first
    | (rename_i heq; rw [heq]; decide)
    | cases h

theorem PcmFormat.fromWavHeader_tagged {format : PcmFormat}
    (h : PcmFormat.fromWavHeader header = .ok format) : header.Tagged := by
  unfold PcmFormat.fromWavHeader at h
  cases hformat : header.audioFormat with
  | pcm =>
      rw [WavHeader.Tagged, hformat]
      refine ⟨rfl, fun htag => ?_⟩
      cases htag
  | ieeeFloat =>
      rw [WavHeader.Tagged, hformat]
      refine ⟨rfl, fun htag => ?_⟩
      cases htag
  | other tag =>
      rw [hformat] at h
      cases h

/-- At most 1023 channels, at most 192 000 frames in a second, at most four bytes in a sample. -/
theorem playable_of_talkerSetup {streamId : StreamID} {ptpSync : PtpSynchronizedClock fl}
    {playbackDelayMs samplesPerPacket : UInt32} {setup : TalkerSetup fl}
    (h : talkerSetup b streamId ptpSync playbackDelayMs samplesPerPacket header = .ok setup) :
    header.Playable := by
  obtain ⟨bitDepth, hdepth, h₁⟩ := Outcome.bind_eq_ok.mp h
  obtain ⟨format, hformat, h₂⟩ := Outcome.bind_eq_ok.mp h₁
  obtain ⟨sampleRate, hrate, h₃⟩ := Outcome.bind_eq_ok.mp h₂
  obtain ⟨channels, hchannels, h₄⟩ := Outcome.bind_eq_ok.mp h₃
  obtain ⟨talker, htalker, -⟩ := Outcome.bind_eq_ok.mp h₄
  replace hformat := Outcome.mapErr_eq_ok.mp hformat
  have hhz := SampleRate.fromHz_le (Outcome.okOr_eq_ok.mp hrate)
  have hcount : header.channels.toNat < 1024 := by
    unfold u10New at hchannels
    split at hchannels
    · assumption
    · cases hchannels
  have hbytes : (header.bitsPerSample / 8).toNat ≤ 4 := by
    rcases PcmFormat.fromWavHeader_ok hformat with hbits | hbits | hbits <;>
      rw [hbits] <;> decide
  refine ⟨PcmFormat.fromWavHeader_tagged hformat, fun hzero => ?_, ?_, ?_, ?_⟩
  · -- no valid bits are no depth of a talker
    obtain ⟨-, depth, hget, -⟩ := AafPcmTalker.new_config (Outcome.mapErr_eq_ok.mp htalker)
    have hnone : u8TryFrom header.validBitsPerSample.toNat = some bitDepth :=
      Outcome.okOr_eq_ok.mp hdepth
    rw [hzero] at hnone
    exact depth.ne_zero (hget.trans (Option.some.inj hnone).symm)
  · calc header.sampleRate.toNat * header.channels.toNat
        ≤ 192000 * 1024 := Nat.mul_le_mul hhz (Nat.le_of_lt hcount)
      _ < 2 ^ 32 := by decide
  · calc header.sampleRate.toNat * header.channels.toNat * (header.bitsPerSample / 8).toNat
        ≤ 192000 * 1024 * 4 := Nat.mul_le_mul (Nat.mul_le_mul hhz (Nat.le_of_lt hcount)) hbytes
      _ < 2 ^ 32 := by decide
  · calc header.channels.toNat * (header.bitsPerSample / 8).toNat
        ≤ 1024 * 4 := Nat.mul_le_mul (Nat.le_of_lt hcount) hbytes
      _ < 2 ^ 16 := by decide

/-- The audio that was written is loaded as it was, in every build. -/
theorem loadWav_received (h : header.Playable) {pcm bytes : List UInt8}
    (hwrite : (Wav.fromHeaderAndData header pcm).write b [] = (.ok (), bytes)) (b' : Build) :
    loadWav b' bytes = .ok ⟨header, pcm⟩ := by
  obtain ⟨fmtChunk, hfmt, hsize⟩ := Wav.write_ok (congrArg Prod.fst hwrite)
  obtain rfl := Outcome.ok.inj (hfmt.symm.trans (WavHeader.intoWavChunk_eq h.fits))
  have hbytes := (Wav.emits_write hfmt hsize []).symm.trans hwrite
  rw [List.nil_append] at hbytes
  rw [← (Prod.mk.inj hbytes).2]
  refine loadWav_image b' (fun c hc => absurd hc List.not_mem_nil) rfl ?_ hsize
  exact WavHeader.decode_encode_bare h.tagged (Or.inl h.valid)

end Audio

/-! ## The end of a test -/

structure OutputDir where
  talkerCsv : Option Text
  listenerCsv : Option Text
  receivedWav : Option (List UInt8)
  deriving DecidableEq, Repr

/-- What the operating system answers while the files are written; `wavFails` is an error of the
last one, and the number of bytes it has taken before. -/
structure SaveReplies where
  talker : FileReplies String
  listener : FileReplies String
  createWav : Except String Unit
  wavFails : Option (String × Nat)

/-- The errors of `save_outputs`, before they are put into words. -/
inductive SaveError where
  | talkerCsv (e : String)
  | listenerCsv (e : String)
  | wavFile (e : String)
  | wav (e : IoError)
  deriving DecidableEq, Repr

/-- `wav.write(&mut wav_file)`. -/
def writeWavFile (b : Build) (fails : Option (String × Nat)) (wav : Wav) :
    Act (List UInt8) SaveError Unit := fun file =>
  let (answer, bytes) := wav.write b file
  match fails with
  | some (e, n) =>
      if n < bytes.length then (.err (.wavFile e), bytes.take n) else (answer.mapErr .wav, bytes)
  | none => (answer.mapErr .wav, bytes)

/-- `save_outputs`. -/
def saveOutputs (b : Build) (r : SaveReplies) (talkerRecords : List TalkerRecord)
    (listenerRecords : List ListenerRecord) (receivedPcmLe : List UInt8) (wavHeader : WavHeader) :
    Act OutputDir SaveError Unit := do
  Act.zoom OutputDir.talkerCsv (fun talkerCsv dir => { dir with talkerCsv })
    (Act.mapErr .talkerCsv (writeCsv r.talker talkerRecords))
  Act.zoom OutputDir.listenerCsv (fun listenerCsv dir => { dir with listenerCsv })
    (Act.mapErr .listenerCsv (writeCsv r.listener listenerRecords))
  Act.zoom OutputDir.receivedWav (fun receivedWav dir => { dir with receivedWav })
    (createFile (r.createWav.mapError .wavFile)
      (writeWavFile b r.wavFails (Wav.fromHeaderAndData wavHeader receivedPcmLe)))

/-- The errors of the end of `main`. -/
inductive ConclusionError where
  | save (e : SaveError)
  | report (e : ReportError)
  deriving DecidableEq, Repr

/-- Where a test ends: its files, and the lines of the verdict. -/
structure Conclusion where
  dir : OutputDir
  lines : List Text
  deriving DecidableEq, Repr

/-- `main`, after `run_test`. -/
def conclude (b : Build) (r : SaveReplies) (talkerRecords : List TalkerRecord)
    (listenerRecords : List ListenerRecord) (receivedPcmLe : List UInt8) (wav : LoadedWav) :
    Act Conclusion ConclusionError Unit := do
  Act.zoom Conclusion.dir (fun dir c => { c with dir })
    (Act.mapErr .save
      (saveOutputs b r talkerRecords listenerRecords receivedPcmLe wav.header))
  Act.zoom Conclusion.lines (fun lines c => { c with lines })
    (Act.mapErr .report
      (analyzeAndReport talkerRecords listenerRecords wav.pcmLe receivedPcmLe))

section Conclusion
variable {b : Build} {r : SaveReplies} {talkerRecords : List TalkerRecord}
  {listenerRecords : List ListenerRecord} {receivedPcmLe : List UInt8} {wavHeader : WavHeader}
  {dir dir' : OutputDir}

structure Saved (b : Build) (talkerRecords : List TalkerRecord)
    (listenerRecords : List ListenerRecord) (receivedPcmLe : List UInt8) (wavHeader : WavHeader)
    (dir : OutputDir) : Prop where
  talkerCsv : dir.talkerCsv = some (csvText talkerRecords)
  listenerCsv : dir.listenerCsv = some (csvText listenerRecords)
  receivedWav : ∃ bytes, dir.receivedWav = some bytes ∧
    (Wav.fromHeaderAndData wavHeader receivedPcmLe).write b [] = (.ok (), bytes)

theorem writeCsv_ok {α : Type} [CsvRecord α] {r : FileReplies String} {records : List α}
    {file file' : Option Text} (h : writeCsv r records file = (.ok (), file')) :
    file' = some (csvText records) := by
  rw [← csvPieces_flatten]
  exact writeFile_ok h

theorem writeWavFile_ok {fails : Option (String × Nat)} {wav : Wav} {file bytes : List UInt8}
    (h : writeWavFile b fails wav file = (.ok (), bytes)) : wav.write b file = (.ok (), bytes) := by
  rcases hwrite : wav.write b file with ⟨answer, written⟩
  unfold writeWavFile at h
  rw [hwrite] at h
  have hanswer (h : (answer.mapErr SaveError.wav, written) = (.ok (), bytes)) :
      (answer, written) = (.ok (), bytes) := by
    obtain ⟨hok, rfl⟩ := Prod.mk.inj h
    rw [Outcome.mapErr_eq_ok.mp hok]
  cases fails with
  | none => exact hanswer h
  | some failure =>
      dsimp only at h
      split at h
      · cases (Prod.mk.inj h).1
      · exact hanswer h

theorem zoom_ok {σ τ ε ε' α : Type} {get : σ → τ} {set : τ → σ → σ} {f : ε → ε'} {m : Act τ ε α}
    {s s' : σ} {a : α} (h : Act.zoom get set (Act.mapErr f m) s = (.ok a, s')) :
    ∃ t, m (get s) = (.ok a, t) ∧ s' = set t s := by
  obtain ⟨hok, rfl⟩ := Prod.mk.inj h
  exact ⟨_, Act.mapErr_ok_iff.mp (Prod.ext hok rfl), rfl⟩

theorem saveOutputs_ok (h : saveOutputs b r talkerRecords listenerRecords receivedPcmLe wavHeader
    dir = (.ok (), dir')) :
    Saved b talkerRecords listenerRecords receivedPcmLe wavHeader dir' := by
  obtain ⟨⟨⟩, s₁, h₁, hrest⟩ := Act.bind_ok_iff.mp h
  obtain ⟨talkerCsv, htalker, rfl⟩ := zoom_ok h₁
  obtain ⟨⟨⟩, s₂, h₂, h₃⟩ := Act.bind_ok_iff.mp hrest
  obtain ⟨listenerCsv, hlistener, rfl⟩ := zoom_ok h₂
  obtain ⟨hwav, rfl⟩ := Prod.mk.inj h₃
  refine ⟨writeCsv_ok htalker, writeCsv_ok hlistener, ?_⟩
  unfold createFile at hwav ⊢
  cases hcreate : r.createWav with
  | error e =>
      rw [hcreate] at hwav
      cases hwav
  | ok u =>
      rw [hcreate] at hwav
      exact ⟨_, rfl, writeWavFile_ok (Prod.ext hwav rfl)⟩

def receivedImage (wavHeader : WavHeader) (receivedPcmLe : List UInt8) : List UInt8 :=
  (Wav.fromHeaderAndData wavHeader receivedPcmLe).image (wavHeader.fmtChunk [])

/-- The three files, after an attempt to save them: each was left alone, or has the beginning of
what was to be written to it. -/
structure SaveBegan (talkerRecords : List TalkerRecord) (listenerRecords : List ListenerRecord)
    (receivedPcmLe : List UInt8) (wavHeader : WavHeader) (dir dir' : OutputDir) : Prop where
  talkerCsv : Began (csvText talkerRecords) dir.talkerCsv dir'.talkerCsv
  listenerCsv : Began (csvText listenerRecords) dir.listenerCsv dir'.listenerCsv
  receivedWav : Began (receivedImage wavHeader receivedPcmLe) dir.receivedWav dir'.receivedWav

theorem writeCsv_began {α : Type} [CsvRecord α] (r : FileReplies String) (records : List α)
    (file : Option Text) : Began (csvText records) file (writeCsv r records file).2 := by
  rw [← csvPieces_flatten]
  exact writeFile_began r _ file

theorem write_received (b : Build) (hplayable : wavHeader.Playable) (receivedPcmLe : List UInt8)
    (file : List UInt8) :
    (Wav.fromHeaderAndData wavHeader receivedPcmLe).write b file =
        (.ok (), file ++ receivedImage wavHeader receivedPcmLe) ∨
      ∃ e, (Wav.fromHeaderAndData wavHeader receivedPcmLe).write b file = (.err e, file) := by
  have hfmt : (wavHeader.intoWavChunk b [] : Outcome IoError WavChunk) =
      .ok (wavHeader.fmtChunk []) := WavHeader.intoWavChunk_eq hplayable.fits
  by_cases hsize : (Wav.fromHeaderAndData wavHeader receivedPcmLe).riffSize
      (wavHeader.fmtChunk []) < 2 ^ 32
  · exact Or.inl (Wav.emits_write hfmt hsize file)
  · exact Or.inr ⟨_, Wav.write_of_large hfmt (Nat.not_lt.mp hsize)⟩

theorem writeWavFile_began (b : Build) (hplayable : wavHeader.Playable) (receivedPcmLe : List UInt8)
    (fails : Option (String × Nat)) :
    (writeWavFile b fails (Wav.fromHeaderAndData wavHeader receivedPcmLe) []).2 <+:
      receivedImage wavHeader receivedPcmLe := by
  have hbytes : ((Wav.fromHeaderAndData wavHeader receivedPcmLe).write b []).2 <+:
      receivedImage wavHeader receivedPcmLe := by
    rcases write_received b hplayable receivedPcmLe [] with hall | ⟨e, hnone⟩
    · rw [hall]
      exact List.prefix_refl _
    · rw [hnone]
      exact List.nil_prefix
  unfold writeWavFile
  dsimp only
  cases fails with
  | none => exact hbytes
  | some failure =>
      dsimp only
      split
      · exact (List.take_prefix _ _).trans hbytes
      · exact hbytes

/-- Whatever fails, no file has anything but its beginning. -/
theorem saveOutputs_began (b : Build) (r : SaveReplies) (talkerRecords : List TalkerRecord)
    (listenerRecords : List ListenerRecord) (receivedPcmLe : List UInt8)
    (hplayable : wavHeader.Playable) (dir : OutputDir) :
    SaveBegan talkerRecords listenerRecords receivedPcmLe wavHeader dir
      (saveOutputs b r talkerRecords listenerRecords receivedPcmLe wavHeader dir).2 := by
  have htalker := writeCsv_began r.talker talkerRecords dir.talkerCsv
  unfold saveOutputs
  refine Act.holds_bind ⟨htalker, Or.inl rfl, Or.inl rfl⟩ fun _ s₁ h₁ => ?_
  obtain ⟨-, rfl⟩ := Prod.mk.inj h₁
  have hlistener := writeCsv_began r.listener listenerRecords dir.listenerCsv
  refine Act.holds_bind ⟨htalker, hlistener, Or.inl rfl⟩ fun _ s₂ h₂ => ?_
  obtain ⟨-, rfl⟩ := Prod.mk.inj h₂
  refine ⟨htalker, hlistener, ?_⟩
  show Began _ dir.receivedWav (createFile _ _ dir.receivedWav).2
  unfold createFile
  cases r.createWav with
  | error e => exact Or.inl rfl
  | ok u => exact Or.inr ⟨_, writeWavFile_began b hplayable receivedPcmLe r.wavFails, rfl⟩

/-- The files tell what was saved: the tables are those of no other records, and the audio is loaded
as it was received, by every build. -/
structure Tells (talkerRecords : List TalkerRecord) (listenerRecords : List ListenerRecord)
    (receivedPcmLe : List UInt8) (wavHeader : WavHeader) (dir : OutputDir) : Prop where
  talkerCsv : ∀ records, dir.talkerCsv = some (csvText records) ↔ records = talkerRecords
  listenerCsv : ∀ records, dir.listenerCsv = some (csvText records) ↔ records = listenerRecords
  receivedWav : ∃ bytes, dir.receivedWav = some bytes ∧
    ∀ b : Build, loadWav b bytes = .ok ⟨wavHeader, receivedPcmLe⟩

theorem Saved.tells (h : Saved b talkerRecords listenerRecords receivedPcmLe wavHeader dir)
    (hplayable : wavHeader.Playable) :
    Tells talkerRecords listenerRecords receivedPcmLe wavHeader dir := by
  obtain ⟨bytes, hbytes, hwrite⟩ := h.receivedWav
  refine ⟨fun records => ?_, fun records => ?_, bytes, hbytes, loadWav_received hplayable hwrite⟩
  · rw [h.talkerCsv, Option.some_inj, csvText_inj, eq_comm]
  · rw [h.listenerCsv, Option.some_inj, csvText_inj, eq_comm]

theorem saveOutputs_returns (hplayable : wavHeader.Playable) :
    (saveOutputs b r talkerRecords listenerRecords receivedPcmLe wavHeader dir).1.Returns := by
  have hcsv {α : Type} [CsvRecord α] (r : FileReplies String) (records : List α)
      (file : Option Text) : (writeCsv r records file).1.Returns := writeFile_returns r _ file
  have hwrite (file : List UInt8) :
      ((Wav.fromHeaderAndData wavHeader receivedPcmLe).write b file).1.Returns := by
    rcases write_received b hplayable receivedPcmLe file with hall | ⟨e, hnone⟩
    · rw [hall]
      trivial
    · rw [hnone]
      trivial
  unfold saveOutputs
  refine Act.returns_bind (Outcome.mapErr_returns _ (hcsv _ _ _)) fun _ _ _ => ?_
  refine Act.returns_bind (Outcome.mapErr_returns _ (hcsv _ _ _)) fun _ _ _ => ?_
  show (createFile _ _ _).1.Returns
  unfold createFile
  cases r.createWav with
  | error e => trivial
  | ok u =>
      have hreturns := Outcome.mapErr_returns SaveError.wav (hwrite [])
      show (writeWavFile b r.wavFails _ []).1.Returns
      unfold writeWavFile
      dsimp only
      cases r.wavFails with
      | none => exact hreturns
      | some failure =>
          dsimp only
          split
          · trivial
          · exact hreturns

end Conclusion

/-- The end of a test whose talker was set up.  It returns.  Where a file could not be written there
is no verdict, and no file has more than a beginning of what was to be written to it; where there is
one, pass or fail, the files tell what was compared, and it is a pass exactly when the stamps and the
audio are those that were sent. -/
theorem concluded_outputs {fl : FloatOps} (b : Build) (streamId : StreamID)
    (ptpSync : PtpSynchronizedClock fl) (playbackDelayMs samplesPerPacket : UInt32)
    (setup : TalkerSetup fl) (wav : LoadedWav)
    (hsetup : talkerSetup b streamId ptpSync playbackDelayMs samplesPerPacket wav.header = .ok setup)
    (r : SaveReplies) (talkerRecords : List TalkerRecord) (listenerRecords : List ListenerRecord)
    (receivedPcmLe : List UInt8) (s s' : Conclusion) (answer : Outcome ConclusionError Unit)
    (h : conclude b r talkerRecords listenerRecords receivedPcmLe wav s = (answer, s')) :
    (∃ e, answer = .err (.save e) ∧ s'.lines = s.lines ∧
      SaveBegan talkerRecords listenerRecords receivedPcmLe wav.header s.dir s'.dir) ∨
    (Tells talkerRecords listenerRecords receivedPcmLe wav.header s'.dir ∧
      (answer = .ok () ∨ answer = .err (.report .validationFailed)) ∧
      (answer = .ok () ↔ talkerRecords.map TalkerRecord.stamp =
        listenerRecords.map ListenerRecord.stamp ∧ wav.pcmLe = receivedPcmLe)) := by
  have hplayable := playable_of_talkerSetup hsetup
  have hreturns : (saveOutputs b r talkerRecords listenerRecords receivedPcmLe wav.header
    s.dir).1.Returns := saveOutputs_returns hplayable
  unfold conclude at h
  rcases hsave : saveOutputs b r talkerRecords listenerRecords receivedPcmLe wav.header s.dir
    with ⟨saved, dir⟩
  rw [hsave] at hreturns
  cases saved with
  | panic msg => exact hreturns.elim
  | err e =>
      have hfirst : Act.zoom Conclusion.dir (fun dir c => { c with dir })
          (Act.mapErr ConclusionError.save (saveOutputs b r talkerRecords listenerRecords
            receivedPcmLe wav.header)) s = (.err (.save e), { s with dir }) := by simp [hsave]
      rw [Act.bind_of_err hfirst] at h
      obtain ⟨rfl, rfl⟩ := Prod.mk.inj h
      have hbegan := saveOutputs_began b r talkerRecords listenerRecords receivedPcmLe hplayable s.dir
      rw [hsave] at hbegan
      exact Or.inl ⟨e, rfl, rfl, hbegan⟩
  | ok u =>
      have hfirst : Act.zoom Conclusion.dir (fun dir c => { c with dir })
          (Act.mapErr ConclusionError.save (saveOutputs b r talkerRecords listenerRecords
            receivedPcmLe wav.header)) s = (.ok (), { s with dir }) := by simp [hsave]
      rw [Act.bind_of_ok hfirst] at h
      right
      have htells := (saveOutputs_ok hsave).tells hplayable
      have hpasses : (analyzeAndReport talkerRecords listenerRecords wav.pcmLe receivedPcmLe
          s.lines).1 = .ok () ↔ _ := passes_iff
      obtain ⟨hanswer, rfl⟩ := Prod.mk.inj h
      refine ⟨htells, ?_, ?_⟩
      · obtain ⟨listed, -, ⟨-, hpass⟩ | ⟨-, hfail⟩⟩ :=
          analyzeAndReport_cases talkerRecords listenerRecords wav.pcmLe receivedPcmLe s.lines
        · left
          exact hanswer.symm.trans (congrArg (fun r => r.1.mapErr ConclusionError.report) hpass)
        · right
          exact hanswer.symm.trans (congrArg (fun r => r.1.mapErr ConclusionError.report) hfail)
      · rw [← hanswer, ← hpasses]
        exact Outcome.mapErr_eq_ok

def allSaved : SaveReplies where
  talker := .success
  listener := .success
  createWav := .ok ()
  wavFails := none

theorem concluded_outputs_mono :
    ∃ s', conclude .debug allSaved [⟨0, 0, firstTime, 7⟩] [] [1, 2] ⟨monoHeader 16 16, [1, 2]⟩
        ⟨⟨none, none, none⟩, []⟩ = (.err (.report .validationFailed), s') ∧
      Tells [⟨0, 0, firstTime, 7⟩] [] [1, 2] (monoHeader 16 16) s'.dir := by
  obtain ⟨setup, hsetup, -⟩ := exists_monoSetup (monoHeader 16 16) (by decide +kernel)
  have hanswer : (conclude .debug allSaved [⟨0, 0, firstTime, 7⟩] [] [1, 2]
      ⟨monoHeader 16 16, [1, 2]⟩ ⟨⟨none, none, none⟩, []⟩).1 = .err (.report .validationFailed) := by
    decide +kernel
  refine ⟨_, Prod.ext hanswer rfl, ?_⟩
  rcases concluded_outputs .debug _ _ _ _ setup ⟨monoHeader 16 16, [1, 2]⟩ hsetup allSaved
    [⟨0, 0, firstTime, 7⟩] [] [1, 2] ⟨⟨none, none, none⟩, []⟩ _ _ (Prod.ext hanswer rfl)
    with ⟨e, he, -⟩ | ⟨htells, -⟩
  · cases he
  · exact htells

end Rs1722
