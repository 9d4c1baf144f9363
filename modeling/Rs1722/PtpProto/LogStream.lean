/-
# `Rs1722.PtpProto.LogStream` — what `ptp4l` writes, in the log

`stream_ptp4l_output` in `src/ptp_proto/instance.rs`, which a thread of its own runs for each stream
of the child: the stream is read line by line, and every line that is not empty is logged.  The pipe
may cut the output anywhere, and interrupt a read.

    what is logged are the lines in their order, up to the first that is no
    text, or to an error                                                 (`ptp4l_output_logged`)
-/
import Rs1722.Lib.BufRead
import Rs1722.PtpProto.Instance

namespace Rs1722

open Lib

/-- `Ptp4lOutputStream`. -/
inductive Ptp4lOutputStream where
  | stdout
  | stderr

/-- What is logged: a line, that the stream cannot be read, or that it is closed. -/
inductive StreamRecord where
  /-- A trace, with the line. -/
  | trace (line : Text)
  /-- A warning, with the line. -/
  | warn (line : Text)
  /-- The warning `failed to read ptp4l output stream`. -/
  | failed (pid : UInt32) (error : LineError OsError)
  /-- The trace `ptp4l output stream closed`. -/
  | closed (pid : UInt32)

def Ptp4lOutputStream.record : Ptp4lOutputStream → Text → StreamRecord
  | .stdout, line => .trace line
  | .stderr, line => .warn line

/-- `str::trim_end_matches(['\r', '\n'])`. -/
def trimLineEnd (line : Text) : Text := line.rdropWhile fun c => c == '\r' || c == '\n'

def lineRecords (streamKind : Ptp4lOutputStream) (line : Text) : List StreamRecord :=
  let message := trimLineEnd line
  if message.isEmpty then [] else [streamKind.record message]

/-- `stream_ptp4l_output`. -/
def streamPtp4lOutput (streamKind : Ptp4lOutputStream) (pid : UInt32) (reader : BufReader OsError) :
    List StreamRecord :=
  match _h : reader.readLine with
  | (.ok (0, _), _) => [.closed pid]
  | (.ok (_ + 1, line), reader') =>
      lineRecords streamKind line ++ streamPtp4lOutput streamKind pid reader'
  | (.error error, _) => [.failed pid error, .closed pid]
termination_by reader.content.length
decreasing_by exact BufReader.content_lt_of_readLine _h

/-! ## What is logged -/

section Logged
variable {streamKind : Ptp4lOutputStream} {pid : UInt32}

theorem lineRecords_lineFeed (line : Text) :
    lineRecords streamKind (line ++ ['\n']) = lineRecords streamKind line := by
  unfold lineRecords trimLineEnd
  rw [List.rdropWhile_concat_pos _ _ _ rfl]

theorem stream_turn (reader : BufReader OsError) :
    streamPtp4lOutput streamKind pid reader =
      match reader.readLine with
      | (.ok (0, _), _) => [.closed pid]
      | (.ok (_ + 1, line), reader') =>
          lineRecords streamKind line ++ streamPtp4lOutput streamKind pid reader'
      | (.error error, _) => [.failed pid error, .closed pid] := by
  rw [streamPtp4lOutput.eq_def]
  split
  · rename_i heq
    rw [heq]
  · rename_i heq
    rw [heq]
  · rename_i heq
    rw [heq]

/-- The lines that are read to their end: those with a line break, and the last one where the reader
gets to its end. -/
def readLines (bodies : List (List UInt8)) (tail : List UInt8) (failure : Option OsError) :
    List (List UInt8) :=
  (bodies.map fun body => body ++ [lineFeed]) ++
    if failure = none ∧ tail ≠ [] then [tail] else []

def logged (streamKind : Ptp4lOutputStream) (pid : UInt32) (failure : Option OsError) :
    List (List UInt8) → List StreamRecord
  | [] => (failure.map fun e => .failed pid (.read e)).toList ++ [.closed pid]
  | line :: lines =>
    match decodeUtf8 line with
    | some text => lineRecords streamKind text ++ logged streamKind pid failure lines
    | none => [.failed pid .invalidUtf8, .closed pid]

theorem readLine_empty : (⟨[], []⟩ : BufReader OsError).readLine = (.ok (0, []), ⟨[], []⟩) := by
  rw [BufReader.readLine_last (by simp [BufReader.content, contentOf]) rfl]
  rfl

theorem stream_eq_logged : ∀ {bodies : List (List UInt8)} {tail : List UInt8}
    {reader : BufReader OsError}, LinesOf lineFeed reader.content bodies tail →
    streamPtp4lOutput streamKind pid reader =
      logged streamKind pid reader.failure (readLines bodies tail reader.failure) := by
  intro bodies
  induction bodies with
  | nil =>
      intro tail reader h
      have hcontent := h.of_nil
      have hnone : lineFeed ∉ reader.content := hcontent ▸ h.tail
      cases hfailure : reader.failure with
      | some e =>
          obtain ⟨reader', hread⟩ := BufReader.readLine_failed hnone hfailure
          rw [stream_turn, hread]
          rfl
      | none =>
          have hread := BufReader.readLine_last hnone hfailure
          rw [hcontent] at hread
          cases tail with
          | nil =>
              rw [stream_turn, hread]
              rfl
          | cons b tail =>
              show _ = logged streamKind pid none [b :: tail]
              unfold logged
              cases hdecode : decodeUtf8 (b :: tail) with
              | none =>
                  rw [stream_turn, hread, hdecode]
              | some text =>
                  rw [stream_turn, hread, hdecode]
                  dsimp only [List.length_cons]
                  rw [stream_turn, readLine_empty]
                  rfl
  | cons body bodies ih =>
      intro tail reader h
      obtain ⟨hbody, rest, hcontent, hrest⟩ := h.of_cons
      obtain ⟨reader', hafter, hfailure, hread⟩ := BufReader.readLine_line hbody hcontent
      show _ = logged streamKind pid reader.failure
        ((body ++ [lineFeed]) :: readLines bodies tail reader.failure)
      unfold logged
      cases hdecode : decodeUtf8 (body ++ [lineFeed]) with
      | none =>
          rw [stream_turn, hread, hdecode]
      | some text =>
          rw [stream_turn, hread, hdecode]
          dsimp only
          rw [ih (hafter ▸ hrest), hfailure]

theorem logged_spec (failure : Option OsError) (lines : List (List UInt8)) :
    ∃ (shown left : List (List UInt8)) (texts : List Text) (ending : List StreamRecord),
      lines = shown ++ left ∧ shown.map decodeUtf8 = texts.map some ∧
      logged streamKind pid failure lines =
        texts.flatMap (lineRecords streamKind) ++ ending ++ [.closed pid] ∧
      (left = [] ∧ ending = (failure.map fun e => .failed pid (.read e)).toList ∨
        ∃ line more, left = line :: more ∧ decodeUtf8 line = none ∧
          ending = [.failed pid .invalidUtf8]) := by
  induction lines with
  | nil => exact ⟨[], [], [], _, rfl, rfl, rfl, Or.inl ⟨rfl, rfl⟩⟩
  | cons line lines ih =>
      cases hdecode : decodeUtf8 line with
      | none =>
          refine ⟨[], line :: lines, [], _, rfl, rfl, ?_, Or.inr ⟨line, lines, rfl, hdecode, rfl⟩⟩
          rw [logged, hdecode]
          rfl
      | some text =>
          obtain ⟨shown, left, texts, ending, rfl, hshown, hlogged, hending⟩ := ih
          refine ⟨line :: shown, left, text :: texts, ending, rfl, ?_, ?_, hending⟩
          · rw [List.map_cons, List.map_cons, hdecode, hshown]
          · rw [logged, hdecode]
            dsimp only
            rw [hlogged, List.flatMap_cons, List.append_assoc, List.append_assoc, List.append_assoc]

theorem logged_text (texts : List Text) (last : Text) :
    logged streamKind pid none (readLines (texts.map encodeUtf8) (encodeUtf8 last) none) =
      (texts ++ [last]).flatMap (lineRecords streamKind) ++ [.closed pid] := by
  induction texts with
  | nil =>
      by_cases hlast : last = []
      · rw [hlast]
        rfl
      · have hlines : readLines ([].map encodeUtf8) (encodeUtf8 last) none = [encodeUtf8 last] :=
          if_pos ⟨rfl, fun hnil => hlast (encodeUtf8_eq_nil.mp hnil)⟩
        rw [hlines, logged, decodeUtf8_encodeUtf8]
        simp [logged]
  | cons text texts ih =>
      have hdecode : decodeUtf8 (encodeUtf8 text ++ [lineFeed]) = some (text ++ ['\n']) :=
        decodeUtf8_encodeUtf8 (text ++ ['\n']) ▸
          congrArg decodeUtf8 (encodeUtf8_append text ['\n']).symm
      show logged streamKind pid none ((encodeUtf8 text ++ [lineFeed]) ::
        readLines (texts.map encodeUtf8) (encodeUtf8 last) none) = _
      rw [logged, hdecode]
      dsimp only
      rw [ih, lineRecords_lineFeed, List.cons_append, List.flatMap_cons, List.append_assoc]

end Logged

/-- Whatever the pipe answers: the lines that are read to their end are logged, each one once and in
their order, but for the empty ones, up to the first that is not UTF-8.  That one or an error of the
pipe is said to be a failure, what comes after it is not read, and the stream is said to be closed.
Where the output is a text and the pipe gets to its end, all its lines are logged. -/
theorem ptp4l_output_logged (streamKind : Ptp4lOutputStream) (pid : UInt32)
    (replies : List (ReadReply OsError)) :
    (∃ bodies tail, LinesOf lineFeed (contentOf replies) bodies tail ∧
      ∃ (shown left : List (List UInt8)) (texts : List Text) (ending : List StreamRecord),
        readLines bodies tail (failureOf replies) = shown ++ left ∧
        shown.map decodeUtf8 = texts.map some ∧
        streamPtp4lOutput streamKind pid ⟨[], replies⟩ =
          texts.flatMap (lineRecords streamKind) ++ ending ++ [.closed pid] ∧
        (left = [] ∧ ending = ((failureOf replies).map fun e => .failed pid (.read e)).toList ∨
          ∃ line more, left = line :: more ∧ decodeUtf8 line = none ∧
            ending = [.failed pid .invalidUtf8])) ∧
    ∀ s : Text, contentOf replies = encodeUtf8 s → failureOf replies = none →
      ∃ texts last, LinesOf '\n' s texts last ∧
        streamPtp4lOutput streamKind pid ⟨[], replies⟩ =
          (texts ++ [last]).flatMap (lineRecords streamKind) ++ [.closed pid] := by
  constructor
  · obtain ⟨bodies, tail, h⟩ := exists_linesOf lineFeed (contentOf replies)
    refine ⟨bodies, tail, h, ?_⟩
    have hlines : LinesOf lineFeed (⟨[], replies⟩ : BufReader OsError).content bodies tail := h
    rw [stream_eq_logged hlines]
    exact logged_spec _ _
  · intro s hcontent hfailure
    obtain ⟨texts, last, h⟩ := exists_linesOf '\n' s
    refine ⟨texts, last, h, ?_⟩
    have hlines : LinesOf lineFeed (⟨[], replies⟩ : BufReader OsError).content
        (texts.map encodeUtf8) (encodeUtf8 last) := by
      show LinesOf lineFeed (contentOf replies) _ _
      rw [hcontent]
      exact h.encodeUtf8
    rw [stream_eq_logged hlines]
    show logged streamKind pid (failureOf replies) (readLines _ _ (failureOf replies)) = _
    rw [hfailure]
    exact logged_text texts last

end Rs1722
