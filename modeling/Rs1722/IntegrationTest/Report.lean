/-
# `Rs1722.IntegrationTest.Report` — the verdict

`analyze_and_report` in `src/bin/avtp-integration-test.rs`: the records of both sides and the audio
of both sides, side by side.  The standard error is the place of the call; of the lines before the
verdict, which count packets and bytes, nothing is kept.

    what is listed are the failures that hold                  (`exists_failures`)
    the test passes exactly when the records have the same
    stamps and the audio is the same                           (`passes_iff`)
-/
import Rs1722.IntegrationTest.DrainLoop
import Rs1722.Lib.Compare
import Rs1722.Lib.Decimal

namespace Rs1722

open Lib

def TalkerRecord.stamp (r : TalkerRecord) : Stamp := (r.seqNum, r.avtpTimestampEmbedded)

/-- A line of the verdict, before it is put into words. -/
inductive Failure where
  | packetCount (sent received : Nat)
  | packetMetadata (frameIdx : Nat) (sent received : Stamp)
  | pcmLength (sent received : Nat)
  | pcmPayload (byte : Nat) (sent received : UInt8)
  deriving DecidableEq, Repr

def Failure.text : Failure → Text
  | .packetCount sent received =>
      "packet count mismatch: sent ".toList ++ natText sent ++ ", received ".toList ++
        natText received
  | .packetMetadata frameIdx sent received =>
      "packet metadata mismatch at frame ".toList ++ natText frameIdx ++ ": sent seq ".toList ++
        natText sent.1.toNat ++ " ts ".toList ++ natText sent.2.toNat ++
        ", received seq ".toList ++ natText received.1.toNat ++ " ts ".toList ++
        natText received.2.toNat
  | .pcmLength sent received =>
      "PCM length mismatch: sent ".toList ++ natText sent ++ " bytes, received ".toList ++
        natText received ++ " bytes".toList
  | .pcmPayload byte sent received =>
      "PCM payload mismatch at byte ".toList ++ natText byte ++ ": sent 0x".toList ++
        hexText sent.toNat ++ ", received 0x".toList ++ hexText received.toNat

inductive ReportError where
  | validationFailed
  deriving DecidableEq, Repr

/-- `slice[index]`. -/
def index {ε α : Type} (xs : List α) (i : Nat) : Outcome ε α :=
  match xs[i]? with
  | some x => .ok x
  | none => .panic "index out of bounds"

def lengthFailure (failure : Nat → Nat → Failure) (sent received : Nat) : List Failure :=
  if sent ≠ received then [failure sent received] else []

variable (talkerRecords : List TalkerRecord) (listenerRecords : List ListenerRecord)
  (sentPcmLe receivedPcmLe : List UInt8)

def packetCount : List Failure :=
  lengthFailure .packetCount talkerRecords.length listenerRecords.length

def packetMetadata : List Failure :=
  match findPair (fun (t : TalkerRecord) (l : ListenerRecord) =>
      decide (t.seqNum ≠ l.seqNum ∨ t.avtpTimestampEmbedded ≠ l.avtpTimestampEmbedded))
      talkerRecords listenerRecords with
  | some (frameIdx, talkerRecord, listenerRecord) => [.packetMetadata frameIdx
      (talkerRecord.seqNum, talkerRecord.avtpTimestampEmbedded)
      (listenerRecord.seqNum, listenerRecord.avtpTimestampEmbedded)]
  | none => []

def pcmLength : List Failure := lengthFailure .pcmLength sentPcmLe.length receivedPcmLe.length

def pcmPayload {ε : Type} : Outcome ε (List Failure) :=
  match findPair (fun sent received => decide (sent ≠ received)) sentPcmLe receivedPcmLe with
  | some (firstMismatch, _) => do
      let sent ← index sentPcmLe firstMismatch
      let received ← index receivedPcmLe firstMismatch
      return [.pcmPayload firstMismatch sent received]
  | none => .ok []

def failures {ε : Type} : Outcome ε (List Failure) := do
  let pcmPayload ← pcmPayload sentPcmLe receivedPcmLe
  return packetCount talkerRecords listenerRecords ++
    packetMetadata talkerRecords listenerRecords ++ pcmLength sentPcmLe receivedPcmLe ++ pcmPayload

/-- `analyze_and_report`. -/
def analyzeAndReport : Act (List Text) ReportError Unit := do
  let failures ← Act.lift (failures talkerRecords listenerRecords sentPcmLe receivedPcmLe)
  if failures.isEmpty then
    Act.modify fun lines => lines ++ ["Validation: PASS".toList]
  else do
    Act.modify fun lines => lines ++ "Validation: FAIL".toList ::
      failures.map fun failure => "  - ".toList ++ failure.text
    Act.fail .validationFailed

/-! ## What the failures say -/

def Failure.Holds : Failure → Prop
  | .packetCount sent received =>
      talkerRecords.length = sent ∧ listenerRecords.length = received ∧ sent ≠ received
  | .packetMetadata frameIdx sent received =>
      DifferAt (talkerRecords.map TalkerRecord.stamp) (listenerRecords.map ListenerRecord.stamp)
        frameIdx sent received
  | .pcmLength sent received =>
      sentPcmLe.length = sent ∧ receivedPcmLe.length = received ∧ sent ≠ received
  | .pcmPayload byte sent received => DifferAt sentPcmLe receivedPcmLe byte sent received

variable {talkerRecords listenerRecords sentPcmLe receivedPcmLe} {failure : Failure}

theorem mem_lengthFailure {make : Nat → Nat → Failure} {sent received : Nat} :
    failure ∈ lengthFailure make sent received ↔ sent ≠ received ∧ failure = make sent received := by
  unfold lengthFailure
  split
  · rename_i hne
    rw [List.mem_singleton, and_iff_right hne]
  · rename_i heq
    exact iff_of_false List.not_mem_nil fun h => heq h.1

theorem differ_eq : (fun (t : TalkerRecord) (l : ListenerRecord) =>
    decide (t.seqNum ≠ l.seqNum ∨ t.avtpTimestampEmbedded ≠ l.avtpTimestampEmbedded)) =
      fun t l => decide (t.stamp ≠ l.stamp) := by
  funext t l
  refine decide_eq_decide.mpr ?_
  unfold TalkerRecord.stamp ListenerRecord.stamp
  rw [ne_eq, ne_eq, ne_eq, Prod.mk.injEq, not_and_or]

theorem packetMetadata_eq : packetMetadata talkerRecords listenerRecords =
    (((findPair (fun t l => decide (t.stamp ≠ l.stamp)) talkerRecords listenerRecords).map
      fun r => (r.1, r.2.1.stamp, r.2.2.stamp)).map
        fun r => Failure.packetMetadata r.1 r.2.1 r.2.2).toList := by
  unfold packetMetadata
  rw [differ_eq]
  cases findPair (fun (t : TalkerRecord) (l : ListenerRecord) => decide (t.stamp ≠ l.stamp))
      talkerRecords listenerRecords <;> rfl

theorem pcmPayload_eq {ε : Type} : pcmPayload (ε := ε) sentPcmLe receivedPcmLe =
    .ok (((findPair (fun sent received => decide (id sent ≠ id received)) sentPcmLe
      receivedPcmLe).map fun r => (r.1, id r.2.1, id r.2.2)).map
        fun r => Failure.pcmPayload r.1 r.2.1 r.2.2).toList := by
  unfold pcmPayload
  show (match findPair (fun sent received => decide (id sent ≠ id received)) sentPcmLe
    receivedPcmLe with
    | some (firstMismatch, _) => _
    | none => _) = _
  cases hfound : findPair (fun sent received => decide (id sent ≠ id received)) sentPcmLe
      receivedPcmLe with
  | none => rfl
  | some r =>
      obtain ⟨i, x, y⟩ := r
      have hdiffer : DifferAt (sentPcmLe.map id) (receivedPcmLe.map id) i x y :=
        findPair_differ_iff.mp (congrArg (Option.map _) hfound)
      rw [List.map_id, List.map_id] at hdiffer
      have hsent : index (ε := ε) sentPcmLe i = .ok x := by
        unfold index
        rw [hdiffer.left]
      have hreceived : index (ε := ε) receivedPcmLe i = .ok y := by
        unfold index
        rw [hdiffer.right]
      dsimp only
      rw [hsent, hreceived]
      rfl

theorem mem_difference {α β γ : Type} [DecidableEq α] {f : β → α} {g : γ → α} {us : List β}
    {vs : List γ} {make : Nat × α × α → Failure} :
    failure ∈ (((findPair (fun u v => decide (f u ≠ g v)) us vs).map
      fun r => (r.1, f r.2.1, g r.2.2)).map make).toList ↔
      ∃ i x y, DifferAt (us.map f) (vs.map g) i x y ∧ failure = make (i, x, y) := by
  rw [Option.mem_toList, Option.map_eq_some_iff]
  constructor
  · rintro ⟨⟨i, x, y⟩, hfound, rfl⟩
    exact ⟨i, x, y, findPair_differ_iff.mp hfound, rfl⟩
  · rintro ⟨i, x, y, hdiffer, rfl⟩
    exact ⟨_, findPair_differ_iff.mpr hdiffer, rfl⟩

variable (talkerRecords listenerRecords sentPcmLe receivedPcmLe) in
/-- The failures are there to be listed, and are those that hold. -/
theorem exists_failures {ε : Type} : ∃ listed,
    failures (ε := ε) talkerRecords listenerRecords sentPcmLe receivedPcmLe = .ok listed ∧
      ∀ failure, failure ∈ listed ↔
        failure.Holds talkerRecords listenerRecords sentPcmLe receivedPcmLe := by
  unfold failures
  rw [pcmPayload_eq, Outcome.ok_bind]
  refine ⟨_, rfl, fun failure => ?_⟩
  rw [packetMetadata_eq, packetCount, pcmLength]
  simp only [List.mem_append, mem_lengthFailure, mem_difference, List.map_id]
  constructor
  · rintro (((⟨hne, rfl⟩ | ⟨i, x, y, h, rfl⟩) | ⟨hne, rfl⟩) | ⟨i, x, y, h, rfl⟩)
    · exact ⟨rfl, rfl, hne⟩
    · exact h
    · exact ⟨rfl, rfl, hne⟩
    · exact h
  · intro h
    cases failure with
    | packetCount sent received =>
        obtain ⟨rfl, rfl, hne⟩ := h
        exact Or.inl (Or.inl (Or.inl ⟨hne, rfl⟩))
    | packetMetadata frameIdx sent received => exact Or.inl (Or.inl (Or.inr ⟨_, _, _, h, rfl⟩))
    | pcmLength sent received =>
        obtain ⟨rfl, rfl, hne⟩ := h
        exact Or.inl (Or.inr ⟨hne, rfl⟩)
    | pcmPayload byte sent received => exact Or.inr ⟨_, _, _, h, rfl⟩

theorem no_failure_iff : (∀ failure : Failure,
      ¬ failure.Holds talkerRecords listenerRecords sentPcmLe receivedPcmLe) ↔
    talkerRecords.map TalkerRecord.stamp = listenerRecords.map ListenerRecord.stamp ∧
      sentPcmLe = receivedPcmLe := by
  rw [eq_iff_length_of_not_differ, ← List.map_id sentPcmLe, ← List.map_id receivedPcmLe,
    eq_iff_length_of_not_differ, List.map_id, List.map_id]
  constructor
  · intro h
    refine ⟨⟨?_, ?_⟩, ?_, ?_⟩
    · by_contra hne
      exact h (.packetCount _ _) ⟨rfl, rfl, hne⟩
    · by_contra hne
      obtain ⟨⟨i, t, l⟩, hfound⟩ := Option.ne_none_iff_exists'.mp hne
      exact h (.packetMetadata i t.stamp l.stamp)
        (findPair_differ_iff.mp (congrArg (Option.map _) hfound))
    · by_contra hne
      exact h (.pcmLength _ _) ⟨rfl, rfl, hne⟩
    · by_contra hne
      obtain ⟨⟨i, x, y⟩, hfound⟩ := Option.ne_none_iff_exists'.mp hne
      have hdiffer : DifferAt (sentPcmLe.map id) (receivedPcmLe.map id) i x y :=
        findPair_differ_iff.mp (congrArg (Option.map _) hfound)
      rw [List.map_id, List.map_id] at hdiffer
      exact h (.pcmPayload i x y) hdiffer
  · rintro ⟨⟨hcount, hstamps⟩, hlength, hpcm⟩ failure hfails
    cases failure with
    | packetCount sent received =>
        obtain ⟨rfl, rfl, hne⟩ := hfails
        exact hne hcount
    | packetMetadata frameIdx sent received =>
        have hfound := findPair_differ_iff.mpr hfails
        rw [hstamps] at hfound
        cases hfound
    | pcmLength sent received =>
        obtain ⟨rfl, rfl, hne⟩ := hfails
        exact hne hlength
    | pcmPayload byte sent received =>
        have hdiffer : DifferAt (sentPcmLe.map id) (receivedPcmLe.map id) byte sent received := by
          rw [List.map_id, List.map_id]
          exact hfails
        have hfound := findPair_differ_iff.mpr hdiffer
        rw [hpcm] at hfound
        cases hfound

variable (talkerRecords listenerRecords sentPcmLe receivedPcmLe) in
/-- A call with the failures that hold: none, and it passes, or some, and it lists them. -/
theorem analyzeAndReport_cases (lines : List Text) : ∃ listed : List Failure,
    (∀ failure, failure ∈ listed ↔
      failure.Holds talkerRecords listenerRecords sentPcmLe receivedPcmLe) ∧
    ((listed = [] ∧ analyzeAndReport talkerRecords listenerRecords sentPcmLe receivedPcmLe lines =
        (.ok (), lines ++ ["Validation: PASS".toList])) ∨
      (listed ≠ [] ∧ analyzeAndReport talkerRecords listenerRecords sentPcmLe receivedPcmLe lines =
        (.err .validationFailed, lines ++ "Validation: FAIL".toList ::
          listed.map fun failure => "  - ".toList ++ failure.text))) := by
  obtain ⟨listed, hlisted, hall⟩ := exists_failures (ε := ReportError) talkerRecords
    listenerRecords sentPcmLe receivedPcmLe
  refine ⟨listed, hall, ?_⟩
  unfold analyzeAndReport
  rw [hlisted, Act.lift_ok_bind]
  by_cases hnone : listed = []
  · rw [hnone]
    exact Or.inl ⟨rfl, rfl⟩
  · rw [if_neg (by simpa using hnone)]
    exact Or.inr ⟨hnone, rfl⟩

theorem passes_iff {lines : List Text} :
    (analyzeAndReport talkerRecords listenerRecords sentPcmLe receivedPcmLe lines).1 = .ok () ↔
      talkerRecords.map TalkerRecord.stamp = listenerRecords.map ListenerRecord.stamp ∧
        sentPcmLe = receivedPcmLe := by
  obtain ⟨listed, hall, ⟨rfl, hpass⟩ | ⟨hsome, hfail⟩⟩ :=
    analyzeAndReport_cases talkerRecords listenerRecords sentPcmLe receivedPcmLe lines
  · rw [hpass]
    refine iff_of_true rfl (no_failure_iff.mp fun failure hfails => ?_)
    cases (hall failure).mpr hfails
  · rw [hfail]
    refine iff_of_false nofun fun hsame => hsome ?_
    refine List.eq_nil_iff_forall_not_mem.mpr fun failure hmem => ?_
    exact no_failure_iff.mpr hsame failure ((hall failure).mp hmem)

/-- The call returns.  It passes exactly when the records have the same stamps in the same order
and the audio is the same; and a test that fails lists every failure that holds, and no other. -/
theorem verdict_exact (talkerRecords : List TalkerRecord) (listenerRecords : List ListenerRecord)
    (sentPcmLe receivedPcmLe : List UInt8) (lines : List Text) :
    ((analyzeAndReport talkerRecords listenerRecords sentPcmLe receivedPcmLe lines).1 = .ok () ↔
      talkerRecords.map TalkerRecord.stamp = listenerRecords.map ListenerRecord.stamp ∧
        sentPcmLe = receivedPcmLe) ∧
    ∃ listed : List Failure,
      (∀ failure, failure ∈ listed ↔
        failure.Holds talkerRecords listenerRecords sentPcmLe receivedPcmLe) ∧
      analyzeAndReport talkerRecords listenerRecords sentPcmLe receivedPcmLe lines =
        if listed = [] then (.ok (), lines ++ ["Validation: PASS".toList])
        else (.err .validationFailed, lines ++ "Validation: FAIL".toList ::
          listed.map fun failure => "  - ".toList ++ failure.text) := by
  refine ⟨passes_iff, ?_⟩
  obtain ⟨listed, hall, ⟨hnone, hpass⟩ | ⟨hsome, hfail⟩⟩ :=
    analyzeAndReport_cases talkerRecords listenerRecords sentPcmLe receivedPcmLe lines
  · exact ⟨listed, hall, hpass.trans (if_pos hnone).symm⟩
  · exact ⟨listed, hall, hfail.trans (if_neg hsome).symm⟩

end Rs1722
