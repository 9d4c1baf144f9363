/-
# `Rs1722.PtpProto.PmcOrder` — what does not change the snapshot

The parser asks a text for the fields of its datasets only, and asks each block by itself.  So two
texts whose blocks give these fields the same values are parsed alike, errors included
(`parsePmcOutput_congr`); that covers the order of the lines of a block, lines with unknown keys and
noise.  The order of the blocks does not matter when the result is a snapshot: among several errors
it decides which is reported.
-/
import Rs1722.PtpProto.PmcFormat

namespace Rs1722

open Lib

/-! ## What does not matter -/

def requiredFields (dataset : Text) : List String :=
  if dataset = "TIME_STATUS_NP".toList then
    ["master_offset", "ingress_time", "cumulativeScaledRateOffset", "gmPresent", "gmIdentity"]
  else if dataset = "PORT_DATA_SET".toList then
    ["portIdentity", "portState", "logMinDelayReqInterval", "peerMeanPathDelay",
      "logAnnounceInterval", "announceReceiptTimeout", "logSyncInterval", "delayMechanism",
      "logMinPdelayReqInterval", "versionNumber"]
  else if dataset = "CURRENT_DATA_SET".toList then
    ["stepsRemoved", "offsetFromMaster", "meanPathDelay"]
  else []

def SameFields (dataset : Text) (body body' : List Text) : Prop :=
  ∀ field ∈ requiredFields dataset, toMap body field.toList = toMap body' field.toList

def SameBlock (block block' : Block) : Prop :=
  block.1 = block'.1 ∧ SameFields block.1 block.2 block'.2

section SameBlock
variable {F : Type} {round : FloatLiteral → F} {body body' : List Text}

theorem TimeStatusNp.parseBlock_congr (h : SameFields "TIME_STATUS_NP".toList body body') :
    TimeStatusNp.parseBlock round body = TimeStatusNp.parseBlock round body' := by
  have h' : ∀ field ∈ requiredFields "TIME_STATUS_NP".toList,
      required (toMap body) field = required (toMap body') field := by
    intro field hfield
    rw [required, h field hfield, required]
  unfold parseBlock
  simp only [parsed, h' "master_offset" (by decide), h' "ingress_time" (by decide),
    h' "cumulativeScaledRateOffset" (by decide), h' "gmPresent" (by decide),
    h' "gmIdentity" (by decide)]

theorem PortDataSet.parseBlock_congr (h : SameFields "PORT_DATA_SET".toList body body') :
    PortDataSet.parseBlock body = PortDataSet.parseBlock body' := by
  have h' : ∀ field ∈ requiredFields "PORT_DATA_SET".toList,
      required (toMap body) field = required (toMap body') field := by
    intro field hfield
    rw [required, h field hfield, required]
  unfold parseBlock
  simp only [parsed, h' "portIdentity" (by decide), h' "portState" (by decide),
    h' "logMinDelayReqInterval" (by decide), h' "peerMeanPathDelay" (by decide),
    h' "logAnnounceInterval" (by decide), h' "announceReceiptTimeout" (by decide),
    h' "logSyncInterval" (by decide), h' "delayMechanism" (by decide),
    h' "logMinPdelayReqInterval" (by decide), h' "versionNumber" (by decide)]

theorem CurrentDataSet.parseBlock_congr (h : SameFields "CURRENT_DATA_SET".toList body body') :
    CurrentDataSet.parseBlock round body = CurrentDataSet.parseBlock round body' := by
  have h' : ∀ field ∈ requiredFields "CURRENT_DATA_SET".toList,
      required (toMap body) field = required (toMap body') field := by
    intro field hfield
    rw [required, h field hfield, required]
  unfold parseBlock
  simp only [parsed, h' "stepsRemoved" (by decide), h' "offsetFromMaster" (by decide),
    h' "meanPathDelay" (by decide)]

theorem addBlock_congr {block block' : Block} (h : SameBlock block block') (ds : Datasets F) :
    ds.addBlock round block = ds.addBlock round block' := by
  obtain ⟨kind, lines⟩ := block
  obtain ⟨kind', lines'⟩ := block'
  obtain ⟨rfl, hsame⟩ : kind = kind' ∧ SameFields kind lines lines' := h
  unfold Datasets.addBlock
  dsimp only
  split
  · subst kind
    rw [TimeStatusNp.parseBlock_congr hsame]
  split
  · subst kind
    rw [PortDataSet.parseBlock_congr hsame]
  split
  · subst kind
    rw [CurrentDataSet.parseBlock_congr hsame]
  · rfl

theorem foldlM_addBlock_congr {blocks blocks' : List Block} (h : List.Forall₂ SameBlock blocks blocks')
    (ds : Datasets F) :
    blocks.foldlM (Datasets.addBlock round) ds = blocks'.foldlM (Datasets.addBlock round) ds := by
  induction h generalizing ds with
  | nil => rfl
  | cons hblock _ ih =>
      rw [List.foldlM_cons, List.foldlM_cons, addBlock_congr hblock]
      exact congrArg _ (funext fun ds' => ih ds')

theorem parsePmcOutput_congr {text text' : Text}
    (h : List.Forall₂ SameBlock (blocksOf (view text)) (blocksOf (view text'))) :
    PtpSnapshot.parsePmcOutput round text = PtpSnapshot.parsePmcOutput round text' := by
  unfold PtpSnapshot.parsePmcOutput
  rw [parseBlocks_eq, parseBlocks_eq, foldlM_addBlock_congr h]

end SameBlock

/-! ### Lines -/

section Lines
variable {a m m' b : List Text}

theorem bodyOf_append_of_body (hm : ∀ line ∈ m, isHeader line = false) (b : List Text) :
    bodyOf (m ++ b) = m ++ bodyOf b := by
  unfold bodyOf
  rw [List.takeWhile_append_of_pos (by simpa using hm)]

theorem blocksOf_append_of_body (hm : ∀ line ∈ m, isHeader line = false) (b : List Text) :
    blocksOf (m ++ b) = blocksOf b := by
  induction m with
  | nil => rfl
  | cons line m ih =>
      rw [List.cons_append, blocksOf, if_neg (by simp [hm line List.mem_cons_self])]
      exact ih fun l hl => hm l (List.mem_cons_of_mem line hl)

theorem bodyOf_append_of_header (ha : ∃ line ∈ a, isHeader line = true) (b : List Text) :
    bodyOf (a ++ b) = bodyOf a := by
  induction a with
  | nil =>
      obtain ⟨line, hmem, -⟩ := ha
      cases hmem
  | cons line a ih =>
      unfold bodyOf at ih ⊢
      by_cases hline : isHeader line = true
      · rw [List.cons_append, List.takeWhile_cons_of_neg (by simp [hline]),
          List.takeWhile_cons_of_neg (by simp [hline])]
      · rw [List.cons_append, List.takeWhile_cons_of_pos (by simp [hline]),
          List.takeWhile_cons_of_pos (by simp [hline]), ih]
        obtain ⟨l, hmem, hl⟩ := ha
        rcases List.mem_cons.mp hmem with rfl | hmem
        · exact absurd hl hline
        · exact ⟨l, hmem, hl⟩

theorem header_cases (a : List Text) :
    (∀ line ∈ a, isHeader line = false) ∨ ∃ line ∈ a, isHeader line = true := by
  by_cases ha : ∃ line ∈ a, isHeader line = true
  · exact Or.inr ha
  · refine Or.inl fun line hline => ?_
    by_contra hne
    exact ha ⟨line, hline, by simpa using hne⟩

theorem toMap_append (body body' : List Text) (key : Text) :
    toMap (body ++ body') key = (toMap body' key).or (toMap body key) := by
  rw [toMap_eq, toMap_eq, toMap_eq, List.filterMap_append, Dict.ofPairs_append]

theorem SameFields.refl (dataset : Text) (body : List Text) : SameFields dataset body body :=
  fun _ _ => rfl

/-- A part of a body may be replaced by one that gives the fields the same values. -/
theorem SameFields.segment {dataset : Text} (h : SameFields dataset m m') (a b : List Text) :
    SameFields dataset (a ++ m ++ b) (a ++ m' ++ b) := by
  intro field hfield
  rw [toMap_append, toMap_append, toMap_append, toMap_append, h field hfield]

theorem blocksOf_segment (hm : ∀ line ∈ m, isHeader line = false)
    (hm' : ∀ line ∈ m', isHeader line = false)
    (hsame : ∀ block, (blocksOf a).getLast? = some block → SameFields block.1 m m')
    (b : List Text) :
    List.Forall₂ SameBlock (blocksOf (a ++ m ++ b)) (blocksOf (a ++ m' ++ b)) := by
  have hrefl (blocks : List Block) : List.Forall₂ SameBlock blocks blocks :=
    List.forall₂_same.mpr fun block _ => ⟨rfl, SameFields.refl _ _⟩
  induction a with
  | nil =>
      rw [List.nil_append, List.nil_append, blocksOf_append_of_body hm, blocksOf_append_of_body hm']
      exact hrefl _
  | cons line a ih =>
      rw [List.cons_append, List.cons_append, List.cons_append, List.cons_append]
      by_cases hline : isHeader line = true
      · rw [blocksOf, if_pos hline] at hsame ⊢
        rw [blocksOf, if_pos hline]
        refine List.Forall₂.cons ⟨rfl, ?_⟩ (ih fun block hblock => hsame block ?_)
        · rcases header_cases a with ha | ha
          · have hlast : blocksOf a = [] := by
              have := blocksOf_append_of_body ha []
              rwa [List.append_nil] at this
            rw [List.append_assoc, List.append_assoc, bodyOf_append_of_body ha,
              bodyOf_append_of_body ha, bodyOf_append_of_body hm, bodyOf_append_of_body hm',
              ← List.append_assoc, ← List.append_assoc]
            refine SameFields.segment (hsame (headerName line, bodyOf a) ?_) a (bodyOf b)
            rw [hlast]
            rfl
          · rw [List.append_assoc, List.append_assoc, bodyOf_append_of_header ha,
              bodyOf_append_of_header ha]
            exact SameFields.refl _ _
        · rw [List.getLast?_cons, hblock]
          rfl
      · rw [blocksOf, if_neg hline] at hsame ⊢
        rw [blocksOf, if_neg hline]
        exact ih hsame

theorem blocksOf_append (hb : ∀ line ∈ b.head?, isHeader line = true) (a : List Text) :
    blocksOf (a ++ b) = blocksOf a ++ blocksOf b := by
  have hbody : bodyOf b = [] := by
    cases b with
    | nil => rfl
    | cons line b => exact List.takeWhile_cons_of_neg (by simp [hb line rfl])
  induction a with
  | nil => rfl
  | cons line a ih =>
      have hcut : bodyOf (a ++ b) = bodyOf a := by
        rcases header_cases a with ha | ha
        · have hself := bodyOf_append_of_body ha []
          rw [List.append_nil] at hself
          rw [bodyOf_append_of_body ha, hbody, hself]
          rfl
        · exact bodyOf_append_of_header ha b
      rw [List.cons_append, blocksOf, ih, blocksOf, hcut]
      split <;> rfl

end Lines

def datasets : List String := ["TIME_STATUS_NP", "PORT_DATA_SET", "CURRENT_DATA_SET"]

section Format
variable {F : Type} {round : FloatLiteral → F}

theorem bodies_perm {blocks blocks' : List Block} (h : blocks.Perm blocks') {dataset : String}
    {body : List Text} (hone : bodies dataset blocks = [body]) : bodies dataset blocks' = [body] := by
  have hperm : (bodies dataset blocks).Perm (bodies dataset blocks') := (h.filter _).map _
  rw [hone] at hperm
  exact List.perm_singleton.mp hperm.symm

theorem Says.perm {blocks blocks' : List Block} (h : blocks.Perm blocks') {s : PtpSnapshot F}
    (hs : Says round blocks s) : Says round blocks' s := by
  obtain ⟨t, p, c, ht, hp, hc, hdescribed⟩ := hs
  exact ⟨t, p, c, bodies_perm h ht, bodies_perm h hp, bodies_perm h hc, hdescribed⟩

/-- Lines with different keys give the fields the same values in any order. -/
theorem SameFields.of_perm {m m' : List Text} (htrimmed : ∀ line ∈ m, Trimmed line)
    (h : m.Perm m')
    (hkeys : m.Pairwise fun l l' => ∀ key v v', IsPair l key v → ¬ IsPair l' key v')
    (dataset : Text) : SameFields dataset m m' := by
  have hnodup : ((m.filterMap pairOf).map Prod.fst).Nodup := by
    rw [List.Nodup, List.pairwise_map, List.pairwise_filterMap]
    refine hkeys.imp_of_mem ?_
    rintro l l' hl hl' hdiff ⟨key, v⟩ hv ⟨key', v'⟩ hv' rfl
    exact hdiff key v v' ((pairOf_eq_some (htrimmed l hl)).mp hv)
      ((pairOf_eq_some (htrimmed l' hl')).mp hv')
  intro field _
  rw [toMap_eq, toMap_eq, Dict.ofPairs_perm (h.filterMap pairOf) hnodup]

theorem SameFields.of_unknown {line : Text} (htrimmed : Trimmed line) {dataset : Text}
    (h : ∀ field ∈ requiredFields dataset, ∀ v, ¬ IsPair line field.toList v) :
    SameFields dataset [] [line] := by
  intro field hfield
  rw [toMap_eq, toMap_eq, List.filterMap_nil, Dict.ofPairs_nil, eq_comm, Dict.ofPairs_eq_none_iff]
  rintro ⟨key, v⟩ hmem rfl
  obtain ⟨l, hl, hpair⟩ := List.mem_filterMap.mp hmem
  obtain rfl := List.mem_singleton.mp hl
  exact h field hfield v ((pairOf_eq_some htrimmed).mp hpair)

theorem foldlM_addBlock_of_other {blocks : List Block}
    (h : ∀ block ∈ blocks, ∀ dataset ∈ datasets, block.1 ≠ dataset.toList) (ds : Datasets F) :
    blocks.foldlM (Datasets.addBlock round) ds = .ok ds := by
  induction blocks with
  | nil => rfl
  | cons block blocks ih =>
      have hblock := h block List.mem_cons_self
      have hstep : ds.addBlock round block = .ok ds := by
        unfold Datasets.addBlock
        rw [if_neg (hblock _ (by decide)), if_neg (hblock _ (by decide)),
          if_neg (hblock _ (by decide))]
        rfl
      rw [List.foldlM_cons, hstep]
      exact ih fun block hmem => h block (List.mem_cons_of_mem _ hmem)

theorem view_insert_noise {text text' : Text} {pre post : List Text} {line : Text}
    (htext : lines text = pre ++ post) (htext' : lines text' = pre ++ line :: post)
    (hnoise : isNoise (trim line) = true) : view text' = view text := by
  unfold view
  rw [htext, htext', List.map_append, List.map_append, List.map_cons, List.filter_append,
    List.filter_append, List.filter_cons_of_neg (by simp [hnoise])]

/-! ### One change at a time -/

theorem PtpSnapshot.parsePmcOutput_perm {text text' : Text}
    (hperm : (blocksOf (view text)).Perm (blocksOf (view text'))) {s : PtpSnapshot F}
    (h : parsePmcOutput round text = .ok s) : parsePmcOutput round text' = .ok s :=
  parsePmcOutput_eq_ok.mpr ((parsePmcOutput_eq_ok.mp h).perm hperm)

theorem PtpSnapshot.parsePmcOutput_perm_lines {text text' : Text} {a m m' b : List Text}
    (htext : view text = a ++ m ++ b) (htext' : view text' = a ++ m' ++ b)
    (hm : ∀ line ∈ m, isHeader line = false) (hperm : m.Perm m')
    (hkeys : m.Pairwise (fun l l' => ∀ key v v', IsPair l key v → ¬ IsPair l' key v')) :
    parsePmcOutput round text' = parsePmcOutput round text := by
  have hmem : ∀ line ∈ m, line ∈ view text := by
    intro line hline
    rw [htext]
    simp [hline]
  have htrimmed : ∀ line ∈ m, Trimmed line := fun line hline => view_trimmed (hmem line hline)
  have hm' : ∀ line ∈ m', isHeader line = false := fun line hline =>
    hm line (hperm.mem_iff.mpr hline)
  refine (parsePmcOutput_congr ?_).symm
  rw [htext, htext']
  exact blocksOf_segment hm hm' (fun block _ => SameFields.of_perm htrimmed hperm hkeys _) b

theorem PtpSnapshot.parsePmcOutput_unknown_line {text text' : Text} {a b : List Text} {line : Text}
    (htext : view text = a ++ b) (htext' : view text' = a ++ [line] ++ b)
    (hline : isHeader line = false)
    (hunknown : ∀ block, (blocksOf a).getLast? = some block →
      ∀ field ∈ requiredFields block.1, ∀ v, ¬ IsPair line field.toList v) :
    parsePmcOutput round text' = parsePmcOutput round text := by
  have hmem : line ∈ view text' := by
    rw [htext']
    simp
  have htrimmed : Trimmed line := view_trimmed hmem
  have hone : ∀ l ∈ [line], isHeader l = false := by
    intro l hl
    rw [List.mem_singleton.mp hl]
    exact hline
  have hsegment := blocksOf_segment (m := []) (by simp) hone
    (fun block hblock => SameFields.of_unknown htrimmed (hunknown block hblock)) b
  rw [List.append_nil] at hsegment
  refine (parsePmcOutput_congr ?_).symm
  rw [htext, htext']
  exact hsegment

theorem PtpSnapshot.parsePmcOutput_noise {text text' : Text} {pre post : List Text} {line : Text}
    (htext : lines text = pre ++ post) (htext' : lines text' = pre ++ line :: post)
    (hnoise : isNoise (trim line) = true) :
    parsePmcOutput round text' = parsePmcOutput round text := by
  unfold parsePmcOutput
  rw [parseBlocks_eq, parseBlocks_eq, view_insert_noise htext htext' hnoise]

theorem PtpSnapshot.parsePmcOutput_other_blocks {text text' : Text} {a m b : List Text}
    (htext : view text = a ++ b) (htext' : view text' = a ++ m ++ b)
    (hm : ∀ line ∈ m.head?, isHeader line = true) (hb : ∀ line ∈ b.head?, isHeader line = true)
    (hother : ∀ block ∈ blocksOf m, ∀ dataset ∈ datasets, block.1 ≠ dataset.toList) :
    parsePmcOutput round text' = parsePmcOutput round text := by
  have hmb : ∀ line ∈ (m ++ b).head?, isHeader line = true := by
    cases m with
    | nil => exact hb
    | cons line m => exact hm
  have hread (ds : Datasets F) : (blocksOf (view text')).foldlM (Datasets.addBlock round) ds =
      (blocksOf (view text)).foldlM (Datasets.addBlock round) ds := by
    rw [htext, htext', List.append_assoc, blocksOf_append hmb, blocksOf_append hb,
      blocksOf_append hb, List.foldlM_append, List.foldlM_append]
    refine congrArg _ (funext fun ds' => ?_)
    rw [List.foldlM_append, foldlM_addBlock_of_other hother]
    rfl
  unfold parsePmcOutput
  rw [parseBlocks_eq, parseBlocks_eq, hread]

theorem PtpSnapshot.not_isOk_of_twice {text : Text} {dataset : String} (hdataset : dataset ∈ datasets)
    (htwice : 2 ≤ (bodies dataset (blocksOf (view text))).length) :
    ¬ (parsePmcOutput round text).IsOk := by
  intro hok
  obtain ⟨s, hs⟩ := Outcome.isOk_iff.mp hok
  obtain ⟨t, p, c, ht, hp, hc, -⟩ := parsePmcOutput_eq_ok.mp hs
  have hone : ∃ body, bodies dataset (blocksOf (view text)) = [body] := by
    rcases List.mem_cons.mp hdataset with rfl | hdataset
    · exact ⟨t, ht⟩
    rcases List.mem_pair.mp hdataset with rfl | rfl
    · exact ⟨p, hp⟩
    · exact ⟨c, hc⟩
  obtain ⟨body, hbody⟩ := hone
  rw [hbody] at htwice
  exact absurd htwice (by simp)

variable (round) in
/-- The parser accepts exactly its format, and neither the order of the blocks and of the lines in
them nor noise and unknown content between them changes what it gives. -/
theorem PtpSnapshot.parsePmcOutput_format :
    (∀ text s, parsePmcOutput round text = .ok s ↔ Says round (blocksOf (view text)) s) ∧
    (∀ text text', (blocksOf (view text)).Perm (blocksOf (view text')) →
      ∀ s, parsePmcOutput round text = .ok s → parsePmcOutput round text' = .ok s) ∧
    (∀ text text' a m m' b, view text = a ++ m ++ b → view text' = a ++ m' ++ b →
      (∀ line ∈ m, isHeader line = false) → m.Perm m' →
      m.Pairwise (fun l l' => ∀ key v v', IsPair l key v → ¬ IsPair l' key v') →
      parsePmcOutput round text' = parsePmcOutput round text) ∧
    (∀ text text' a line b, view text = a ++ b → view text' = a ++ [line] ++ b →
      isHeader line = false →
      (∀ block, (blocksOf a).getLast? = some block →
        ∀ field ∈ requiredFields block.1, ∀ v, ¬ IsPair line field.toList v) →
      parsePmcOutput round text' = parsePmcOutput round text) ∧
    (∀ text text' pre line post, lines text = pre ++ post → lines text' = pre ++ line :: post →
      isNoise (trim line) = true →
      parsePmcOutput round text' = parsePmcOutput round text) ∧
    (∀ text text' a m b, view text = a ++ b → view text' = a ++ m ++ b →
      (∀ line ∈ m.head?, isHeader line = true) → (∀ line ∈ b.head?, isHeader line = true) →
      (∀ block ∈ blocksOf m, ∀ dataset ∈ datasets, block.1 ≠ dataset.toList) →
      parsePmcOutput round text' = parsePmcOutput round text) ∧
    (∀ text, ∀ dataset ∈ datasets, 2 ≤ (bodies dataset (blocksOf (view text))).length →
      ¬ (parsePmcOutput round text).IsOk) := by
  refine ⟨fun _ _ => parsePmcOutput_eq_ok, ?_, ?_, ?_, ?_, ?_, ?_⟩
  · intro text text' hperm s hs
    exact parsePmcOutput_perm hperm hs
  · intro text text' a m m' b htext htext' hm hperm hkeys
    exact parsePmcOutput_perm_lines htext htext' hm hperm hkeys
  · intro text text' a line b htext htext' hline hunknown
    exact parsePmcOutput_unknown_line htext htext' hline hunknown
  · intro text text' pre line post htext htext' hnoise
    exact parsePmcOutput_noise htext htext' hnoise
  · intro text text' a m b htext htext' hm hb hother
    exact parsePmcOutput_other_blocks htext htext' hm hb hother
  · intro text dataset hdataset htwice
    exact not_isOk_of_twice hdataset htwice

end Format

def twoAnswers : Text :=
  ["RESPONSE MANAGEMENT CURRENT_DATA_SET", "", "\tRESPONSE MANAGEMENT CURRENT_DATA_SET"].flatMap
    fun line => line.toList ++ ['\n']

theorem PtpSnapshot.parsePmcOutput_twice :
    ¬ (parsePmcOutput id twoAnswers).IsOk ∧
      ∀ text, lines text = (lines twoAnswers).eraseIdx 1 →
        parsePmcOutput id twoAnswers = parsePmcOutput id text := by
  obtain ⟨-, -, -, -, hnoise, -, htwice⟩ := parsePmcOutput_format (F := FloatLiteral) id
  refine ⟨htwice _ "CURRENT_DATA_SET" (by decide) (by decide +kernel), ?_⟩
  intro text htext
  exact hnoise text twoAnswers ((lines twoAnswers).take 1) [] ((lines twoAnswers).drop 2)
    (htext.trans (by decide +kernel)) (by decide +kernel) (by decide)

end Rs1722
