/-
# `Rs1722.PtpProto.PmcFormat` — the format `parse_pmc_output` accepts

The format, read off the lines of a text and without a parser: the trimmed lines that are no
noise (`view`), the blocks their headers open (`blocksOf`), and the last line of a block that
has a key (`Decides`).  A snapshot is what the text says when each dataset is answered once and
every field has a value (`parsePmcOutput_eq_ok`); what does not change these does not change the
result.
-/
import Rs1722.PtpProto.State

namespace Rs1722

open Lib

/-! ## The format -/

def view (text : Text) : List Text := ((lines text).map trim).filter fun line => !isNoise line

def headerName (header : Text) : Text := ((splitWhitespace header).getLast?).getD []

def bodyOf (ls : List Text) : List Text := ls.takeWhile fun line => !isHeader line

/-- Every header opens a block, of the lines up to the next. -/
def blocksOf : List Text → List Block
  | [] => []
  | line :: rest =>
      if isHeader line then (headerName line, bodyOf rest) :: blocksOf rest else blocksOf rest

def bodies (dataset : String) (blocks : List Block) : List (List Text) :=
  (blocks.filter fun block => block.1 = dataset.toList).map Prod.snd

def Decides (body : List Text) (key value : Text) : Prop :=
  ∃ before line after, body = before ++ line :: after ∧ IsPair line key value ∧
    ∀ l ∈ after, ∀ v, ¬ IsPair l key v

/-- The block gives the field the value `x`. -/
def Gives {α : Type} (body : List Text) (field : String) (parse : Text → Option α) (x : α) : Prop :=
  ∃ value, Decides body field.toList value ∧ parse value = some x

section Described
variable {F : Type} (round : FloatLiteral → F) (body : List Text)

structure TimeStatusNp.DescribedBy (d : TimeStatusNp F) : Prop where
  masterOffsetNs : Gives body "master_offset" (parseSigned 63) d.masterOffsetNs
  ingressTime : Gives body "ingress_time" (parseSigned 127) d.ingressTime
  cumulativeScaledRateOffset :
    Gives body "cumulativeScaledRateOffset" (parseF64 round) d.cumulativeScaledRateOffset
  gmPresent : Gives body "gmPresent" parseGmPresent d.gmPresent
  gmIdentity : Gives body "gmIdentity" some d.gmIdentity

structure PortDataSet.DescribedBy (d : PortDataSet) : Prop where
  portIdentity : Gives body "portIdentity" some d.portIdentity
  portState : Gives body "portState" (fun s => some (PortState.parse s)) d.portState
  logMinDelayReqInterval : Gives body "logMinDelayReqInterval" (parseSigned 7) d.logMinDelayReqInterval
  peerMeanPathDelay : Gives body "peerMeanPathDelay" (parseSigned 63) d.peerMeanPathDelay
  logAnnounceInterval : Gives body "logAnnounceInterval" (parseSigned 7) d.logAnnounceInterval
  announceReceiptTimeout :
    Gives body "announceReceiptTimeout" (parseUnsigned 8) d.announceReceiptTimeout
  logSyncInterval : Gives body "logSyncInterval" (parseSigned 7) d.logSyncInterval
  delayMechanism : Gives body "delayMechanism" (parseUnsigned 8) d.delayMechanism
  logMinPdelayReqInterval :
    Gives body "logMinPdelayReqInterval" (parseSigned 7) d.logMinPdelayReqInterval
  versionNumber : Gives body "versionNumber" (parseUnsigned 8) d.versionNumber

structure CurrentDataSet.DescribedBy (d : CurrentDataSet F) : Prop where
  stepsRemoved : Gives body "stepsRemoved" (parseUnsigned 32) d.stepsRemoved
  offsetFromMasterNs : Gives body "offsetFromMaster" (parseF64 round) d.offsetFromMasterNs
  meanPathDelayNs : Gives body "meanPathDelay" (parseF64 round) d.meanPathDelayNs

end Described

/-! ## The splitter -/

theorem isHeader_not_blank {line : Text} (h : isHeader line = true) : ¬ Blank line := by
  intro hblank
  have hinfix : "RESPONSE MANAGEMENT".toList <:+: line := contains_iff.mp h
  have hmem : 'R' ∈ line := hinfix.subset (by decide)
  have hspace := hblank 'R' hmem
  revert hspace
  decide

theorem getLast?_splitWhitespace {line : Text} (h : isHeader line = true) :
    (splitWhitespace line).getLast? = some (headerName line) := by
  have hne := splitWhitespace_ne_nil (isHeader_not_blank h)
  unfold headerName
  rw [List.getLast?_eq_some_getLast hne]
  rfl

/-- The blocks a splitter will have, when `ls` are the lines that count to come. -/
def BlockSplitter.ahead (st : BlockSplitter) (ls : List Text) : List Block :=
  match st.currentKind with
  | none => blocksOf ls
  | some kind => (kind, st.currentLines ++ bodyOf ls) :: blocksOf ls

theorem foldl_step (ls : List Text) (st : BlockSplitter)
    (hst : st.currentKind = none → st.currentLines = []) :
    (ls.foldl BlockSplitter.step st).flush.blocks =
      st.blocks ++ st.ahead ((ls.map trim).filter fun line => !isNoise line) := by
  induction ls generalizing st with
  | nil =>
      unfold BlockSplitter.ahead BlockSplitter.flush
      cases hkind : st.currentKind with
      | none => simp [blocksOf, hkind]
      | some kind => simp [blocksOf, bodyOf, hkind]
  | cons line ls ih =>
      rw [List.foldl_cons, List.map_cons]
      by_cases hnoise : isNoise (trim line) = true
      · have hstep : st.step line = st := if_pos hnoise
        rw [hstep, List.filter_cons_of_neg (by simp [hnoise])]
        exact ih st hst
      · rw [List.filter_cons_of_pos (by simp [hnoise])]
        by_cases hheader : isHeader (trim line) = true
        · have hstep : st.step line =
              { st.flush with currentKind := some (headerName (trim line)) } := by
            rw [BlockSplitter.step, if_neg hnoise, if_pos hheader,
              getLast?_splitWhitespace hheader]
          rw [hstep, ih _ (fun hnone => by cases hnone)]
          unfold BlockSplitter.ahead BlockSplitter.flush
          cases hkind : st.currentKind with
          | none => simp [blocksOf, hheader, hst hkind]
          | some kind => simp [blocksOf, bodyOf, hheader]
        · cases hkind : st.currentKind with
          | none =>
              have hstep : st.step line = st := by
                rw [BlockSplitter.step, if_neg hnoise, if_neg hheader, if_neg (by simp [hkind])]
              rw [hstep, ih st hst]
              unfold BlockSplitter.ahead
              simp [blocksOf, hheader, hkind]
          | some kind =>
              have hstep : st.step line =
                  { st with currentLines := st.currentLines ++ [trim line] } := by
                rw [BlockSplitter.step, if_neg hnoise, if_neg hheader, if_pos (by simp [hkind])]
              rw [hstep, ih _ (fun hnone => by simp [hkind] at hnone)]
              unfold BlockSplitter.ahead
              simp [blocksOf, bodyOf, hheader, hkind]

theorem parseBlocks_eq (text : Text) : parseBlocks text = blocksOf (view text) := by
  rw [parseBlocks, foldl_step _ _ fun _ => rfl]
  rfl

/-! ## The fields -/

theorem view_trimmed {text line : Text} (h : line ∈ view text) : Trimmed line := by
  obtain ⟨hmem, -⟩ := List.mem_filter.mp h
  obtain ⟨raw, -, rfl⟩ := List.mem_map.mp hmem
  exact trimmed_trim raw

theorem mem_of_mem_blocksOf {ls : List Text} {block : Block} (h : block ∈ blocksOf ls) :
    ∀ line ∈ block.2, line ∈ ls := by
  induction ls with
  | nil => cases h
  | cons l ls ih =>
      intro line hline
      rw [blocksOf] at h
      split at h
      · rcases List.mem_cons.mp h with rfl | h
        · exact List.mem_cons_of_mem l ((List.takeWhile_sublist _).mem hline)
        · exact List.mem_cons_of_mem l (ih h line hline)
      · exact List.mem_cons_of_mem l (ih h line hline)

theorem pairOf_eq_some {line key value : Text} (h : Trimmed line) :
    pairOf line = some (key, value) ↔ IsPair line key value := by
  rw [isPair_iff h, pairOf, Option.map_eq_some_iff]
  constructor
  · rintro ⟨⟨k, rest⟩, hsplit, heq⟩
    obtain ⟨rfl, rfl⟩ := Prod.mk.inj heq
    exact ⟨rest, hsplit, rfl⟩
  · rintro ⟨rest, hsplit, rfl⟩
    exact ⟨(key, rest), hsplit, rfl⟩

theorem toMap_eq_some {body : List Text} (h : ∀ line ∈ body, Trimmed line) {key value : Text} :
    toMap body key = some value ↔ Decides body key value := by
  rw [toMap_eq, Dict.ofPairs_eq_some_iff]
  constructor
  · rintro ⟨before, after, hpairs, hafter⟩
    obtain ⟨a, b, rfl, -, hb⟩ := List.filterMap_eq_append_iff.mp hpairs
    obtain ⟨a', line, b', rfl, hnone, hline, hb'⟩ := List.filterMap_eq_cons_iff.mp hb
    refine ⟨a ++ a', line, b', by simp, (pairOf_eq_some (h line (by simp))).mp hline, ?_⟩
    intro l hl v hv
    have hpair := (pairOf_eq_some (h l (by simp [hl]))).mpr hv
    exact hafter (key, v) (hb' ▸ List.mem_filterMap.mpr ⟨l, hl, hpair⟩) rfl
  · rintro ⟨before, line, after, rfl, hline, hafter⟩
    refine ⟨before.filterMap pairOf, after.filterMap pairOf, ?_, ?_⟩
    · rw [List.filterMap_append,
        List.filterMap_cons_some ((pairOf_eq_some (h line (by simp))).mpr hline)]
    · rintro ⟨k, v⟩ hp rfl
      obtain ⟨l, hl, hpair⟩ := List.mem_filterMap.mp hp
      exact hafter l hl v ((pairOf_eq_some (h l (by simp [hl]))).mp hpair)

section Fields
variable {α : Type} {body : List Text} {field : String}

theorem required_eq_ok (h : ∀ line ∈ body, Trimmed line) {value : Text} :
    required (toMap body) field = .ok value ↔ Gives body field some value := by
  unfold required Gives
  rw [Outcome.okOr_eq_ok, toMap_eq_some h]
  simp

theorem parsed_eq_ok (h : ∀ line ∈ body, Trimmed line) {parse : Text → Option α} {x : α} :
    parsed (toMap body) field parse = .ok x ↔ Gives body field parse x := by
  unfold parsed Gives
  simp only [Outcome.bind_eq_ok, required, Outcome.okOr_eq_ok, toMap_eq_some h]

end Fields

section Blocks
variable {F : Type} {round : FloatLiteral → F} {body : List Text}

theorem TimeStatusNp.parseBlock_eq_ok (h : ∀ line ∈ body, Trimmed line) {d : TimeStatusNp F} :
    TimeStatusNp.parseBlock round body = .ok d ↔ d.DescribedBy round body := by
  unfold parseBlock
  simp only [Outcome.bind_eq_ok, parsed_eq_ok h, required_eq_ok h, Outcome.pure_eq,
    Outcome.ok.injEq]
  constructor
  · rintro ⟨offset, hoffset, ingress, hingress, rate, hrate, present, hpresent, identity, hidentity,
      rfl⟩
    exact ⟨hoffset, hingress, hrate, hpresent, hidentity⟩
  · rintro ⟨hoffset, hingress, hrate, hpresent, hidentity⟩
    exact ⟨_, hoffset, _, hingress, _, hrate, _, hpresent, _, hidentity, rfl⟩

theorem PortDataSet.parseBlock_eq_ok (h : ∀ line ∈ body, Trimmed line) {d : PortDataSet} :
    PortDataSet.parseBlock body = .ok d ↔ d.DescribedBy body := by
  have hstate (s : PortState) : Gives body "portState" (fun s => some (PortState.parse s)) s ↔
      ∃ value, Gives body "portState" some value ∧ PortState.parse value = s := by
    simp [Gives]
  unfold parseBlock
  simp only [Outcome.bind_eq_ok, parsed_eq_ok h, required_eq_ok h, Outcome.pure_eq,
    Outcome.ok.injEq]
  constructor
  · rintro ⟨identity, hidentity, state, hport, delayReq, hdelayReq, path, hpath, announce, hannounce,
      timeout, htimeout, sync, hsync, mechanism, hmechanism, pdelay, hpdelay, version, hversion, rfl⟩
    exact ⟨hidentity, (hstate _).mpr ⟨state, hport, rfl⟩, hdelayReq, hpath, hannounce, htimeout, hsync,
      hmechanism, hpdelay, hversion⟩
  · rintro ⟨hidentity, hport, hdelayReq, hpath, hannounce, htimeout, hsync, hmechanism, hpdelay,
      hversion⟩
    obtain ⟨state, hport, hvalue⟩ := (hstate _).mp hport
    refine ⟨_, hidentity, state, hport, _, hdelayReq, _, hpath, _, hannounce, _, htimeout, _, hsync,
      _, hmechanism, _, hpdelay, _, hversion, ?_⟩
    rw [hvalue]

theorem CurrentDataSet.parseBlock_eq_ok (h : ∀ line ∈ body, Trimmed line) {d : CurrentDataSet F} :
    CurrentDataSet.parseBlock round body = .ok d ↔ d.DescribedBy round body := by
  unfold parseBlock
  simp only [Outcome.bind_eq_ok, parsed_eq_ok h, Outcome.pure_eq, Outcome.ok.injEq]
  constructor
  · rintro ⟨steps, hsteps, offset, hoffset, path, hpath, rfl⟩
    exact ⟨hsteps, hoffset, hpath⟩
  · rintro ⟨hsteps, hoffset, hpath⟩
    exact ⟨_, hsteps, _, hoffset, _, hpath, rfl⟩

end Blocks

/-! ## The snapshot -/

def Fills {α : Type} (dataset : String) (parse : List Text → Outcome FieldParseError α) :
    List Block → Option α → Option α → Prop
  | [], slot, result => result = slot
  | block :: blocks, slot, result =>
      if block.1 = dataset.toList then
        slot = none ∧ ∃ data, parse block.2 = .ok data ∧ Fills dataset parse blocks (some data) result
      else Fills dataset parse blocks slot result

section Fills
variable {α : Type} {dataset : String} {parse : List Text → Outcome FieldParseError α}
  {blocks : List Block} {slot : Option α} {data : α}

/-- A variable is filled from the one block there is, or was so before. -/
theorem fills_some_iff : Fills dataset parse blocks slot (some data) ↔
    (slot = none ∧ ∃ body, bodies dataset blocks = [body] ∧ parse body = .ok data) ∨
      (slot = some data ∧ bodies dataset blocks = []) := by
  induction blocks generalizing slot with
  | nil =>
      rw [Fills]
      simp [bodies, eq_comm]
  | cons block blocks ih =>
      rw [Fills]
      by_cases h : block.1 = dataset.toList
      · have hbodies : bodies dataset (block :: blocks) = block.2 :: bodies dataset blocks := by
          rw [bodies, List.filter_cons_of_pos (by simp [h])]
          rfl
        rw [if_pos h, hbodies]
        simp only [ih]
        constructor
        · rintro ⟨hslot, d, hparse, ⟨hnone, -⟩ | ⟨hsome, hrest⟩⟩
          · cases hnone
          · obtain rfl := Option.some.inj hsome
            exact Or.inl ⟨hslot, block.2, by rw [hrest], hparse⟩
        · rintro (⟨hslot, body, hone, hparse⟩ | ⟨-, hnil⟩)
          · obtain ⟨rfl, hrest⟩ := List.cons.inj hone
            exact ⟨hslot, data, hparse, Or.inr ⟨rfl, hrest⟩⟩
          · cases hnil
      · have hbodies : bodies dataset (block :: blocks) = bodies dataset blocks := by
          rw [bodies, List.filter_cons_of_neg (by simp [h])]
          rfl
        rw [if_neg h, hbodies]
        exact ih

theorem fillDataset_eq_ok {block : Outcome FieldParseError α} {result : Option α} :
    fillDataset dataset slot block = .ok result ↔
      slot = none ∧ ∃ data, block = .ok data ∧ result = some data := by
  unfold fillDataset
  cases slot with
  | some d => simp
  | none =>
      rw [if_neg (by simp), Outcome.bind_eq_ok]
      constructor
      · rintro ⟨data, hdata, hresult⟩
        exact ⟨rfl, data, Outcome.mapErr_eq_ok.mp hdata, (Outcome.ok.inj hresult).symm⟩
      · rintro ⟨-, data, hdata, rfl⟩
        exact ⟨data, Outcome.mapErr_eq_ok.mpr hdata, rfl⟩

end Fills

section Snapshot
variable {F : Type} {round : FloatLiteral → F} {blocks : List Block}

/-- The loop over the blocks fills its three variables independently. -/
theorem foldlM_addBlock_eq_ok {ds ds' : Datasets F} :
    blocks.foldlM (Datasets.addBlock round) ds = .ok ds' ↔
      Fills "TIME_STATUS_NP" (TimeStatusNp.parseBlock round) blocks ds.timeStatus ds'.timeStatus ∧
      Fills "PORT_DATA_SET" PortDataSet.parseBlock blocks ds.portData ds'.portData ∧
      Fills "CURRENT_DATA_SET" (CurrentDataSet.parseBlock round) blocks ds.currentData
        ds'.currentData := by
  induction blocks generalizing ds with
  | nil =>
      rw [List.foldlM_nil, Outcome.pure_eq, Outcome.ok.injEq, Datasets.ext_iff]
      simp only [Fills, eq_comm]
  | cons block blocks ih =>
      rw [List.foldlM_cons, Outcome.bind_eq_ok]
      simp only [ih, Fills]
      unfold Datasets.addBlock
      by_cases hT : block.1 = "TIME_STATUS_NP".toList
      · have hP : block.1 ≠ "PORT_DATA_SET".toList := by rw [hT]; decide
        have hC : block.1 ≠ "CURRENT_DATA_SET".toList := by rw [hT]; decide
        simp only [if_pos hT, if_neg hP, if_neg hC, Outcome.bind_eq_ok, fillDataset_eq_ok,
          Outcome.pure_eq, Outcome.ok.injEq]
        constructor
        · rintro ⟨_, ⟨_, ⟨hslot, d, hd, rfl⟩, rfl⟩, hfill⟩
          exact ⟨⟨hslot, d, hd, hfill.1⟩, hfill.2⟩
        · rintro ⟨⟨hslot, d, hd, hfill⟩, hrest⟩
          exact ⟨_, ⟨_, ⟨hslot, d, hd, rfl⟩, rfl⟩, hfill, hrest⟩
      rw [if_neg hT, if_neg hT]
      by_cases hP : block.1 = "PORT_DATA_SET".toList
      · have hC : block.1 ≠ "CURRENT_DATA_SET".toList := by rw [hP]; decide
        simp only [if_pos hP, if_neg hC, Outcome.bind_eq_ok, fillDataset_eq_ok,
          Outcome.pure_eq, Outcome.ok.injEq]
        constructor
        · rintro ⟨_, ⟨_, ⟨hslot, d, hd, rfl⟩, rfl⟩, hfillT, hfill, hfillC⟩
          exact ⟨hfillT, ⟨hslot, d, hd, hfill⟩, hfillC⟩
        · rintro ⟨hfillT, ⟨hslot, d, hd, hfill⟩, hfillC⟩
          exact ⟨_, ⟨_, ⟨hslot, d, hd, rfl⟩, rfl⟩, hfillT, hfill, hfillC⟩
      rw [if_neg hP, if_neg hP]
      by_cases hC : block.1 = "CURRENT_DATA_SET".toList
      · simp only [if_pos hC, Outcome.bind_eq_ok, fillDataset_eq_ok, Outcome.pure_eq,
          Outcome.ok.injEq]
        constructor
        · rintro ⟨_, ⟨_, ⟨hslot, d, hd, rfl⟩, rfl⟩, hfillT, hfillP, hfill⟩
          exact ⟨hfillT, hfillP, hslot, d, hd, hfill⟩
        · rintro ⟨hfillT, hfillP, hslot, d, hd, hfill⟩
          exact ⟨_, ⟨_, ⟨hslot, d, hd, rfl⟩, rfl⟩, hfillT, hfillP, hfill⟩
      · simp only [if_neg hC, Outcome.pure_eq, Outcome.ok.injEq, exists_eq_left']

/-- A text is parsed as a snapshot when each dataset has one block and its block gives every field
its value. -/
def Says (round : FloatLiteral → F) (blocks : List Block) (s : PtpSnapshot F) : Prop :=
  ∃ t p c, bodies "TIME_STATUS_NP" blocks = [t] ∧ bodies "PORT_DATA_SET" blocks = [p] ∧
    bodies "CURRENT_DATA_SET" blocks = [c] ∧ s.timeStatus.DescribedBy round t ∧
    s.portData.DescribedBy p ∧ s.currentData.DescribedBy round c

theorem bodies_trimmed {text : Text} {dataset : String} {body : List Text}
    (h : bodies dataset (blocksOf (view text)) = [body]) : ∀ line ∈ body, Trimmed line := by
  intro line hline
  have hmem : body ∈ bodies dataset (blocksOf (view text)) := by
    rw [h]
    exact List.mem_cons_self
  obtain ⟨block, hblock, rfl⟩ := List.mem_map.mp hmem
  exact view_trimmed (mem_of_mem_blocksOf (List.mem_filter.mp hblock).1 line hline)

/-- The parser accepts a text exactly when it says a snapshot, and gives that snapshot. -/
theorem parsePmcOutput_eq_ok {text : Text} {s : PtpSnapshot F} :
    PtpSnapshot.parsePmcOutput round text = .ok s ↔ Says round (blocksOf (view text)) s := by
  unfold PtpSnapshot.parsePmcOutput Says
  rw [parseBlocks_eq]
  simp only [Outcome.bind_eq_ok, Outcome.okOr_eq_ok, foldlM_addBlock_eq_ok, Outcome.pure_eq,
    Outcome.ok.injEq]
  constructor
  · rintro ⟨ds, ⟨hT, hP, hC⟩, t, ht, p, hp, c, hc, rfl⟩
    rw [ht, fills_some_iff] at hT
    rw [hp, fills_some_iff] at hP
    rw [hc, fills_some_iff] at hC
    obtain ⟨-, bt, hbt, hdt⟩ := hT.resolve_right fun h => by cases h.1
    obtain ⟨-, bp, hbp, hdp⟩ := hP.resolve_right fun h => by cases h.1
    obtain ⟨-, bc, hbc, hdc⟩ := hC.resolve_right fun h => by cases h.1
    exact ⟨bt, bp, bc, hbt, hbp, hbc, (TimeStatusNp.parseBlock_eq_ok (bodies_trimmed hbt)).mp hdt,
      (PortDataSet.parseBlock_eq_ok (bodies_trimmed hbp)).mp hdp,
      (CurrentDataSet.parseBlock_eq_ok (bodies_trimmed hbc)).mp hdc⟩
  · rintro ⟨bt, bp, bc, hbt, hbp, hbc, hdt, hdp, hdc⟩
    refine ⟨⟨some s.timeStatus, some s.portData, some s.currentData⟩, ⟨?_, ?_, ?_⟩, _, rfl, _, rfl, _,
      rfl, rfl⟩
    · exact fills_some_iff.mpr (Or.inl ⟨rfl, bt, hbt,
        (TimeStatusNp.parseBlock_eq_ok (bodies_trimmed hbt)).mpr hdt⟩)
    · exact fills_some_iff.mpr (Or.inl ⟨rfl, bp, hbp,
        (PortDataSet.parseBlock_eq_ok (bodies_trimmed hbp)).mpr hdp⟩)
    · exact fills_some_iff.mpr (Or.inl ⟨rfl, bc, hbc,
        (CurrentDataSet.parseBlock_eq_ok (bodies_trimmed hbc)).mpr hdc⟩)

end Snapshot

end Rs1722
