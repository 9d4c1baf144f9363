/-
# `Rs1722.Lib.Text` — `str`: characters, lines and words

A `&str` is the list of its characters.  The functions are those of the standard library, with
white space as Unicode has it; what a caller needs to know of them is at the end of each section:

    what `trim` leaves is between white space, and has none at its ends    (`trim_eq_iff`)
    every text that is not all white space has words                      (`splitWhitespace_ne_nil`)
    a trimmed line is split into a key and a value exactly when it is a
    word, white space and more                                            (`isPair_iff`)
-/
import Mathlib.Data.List.DropRight
import Mathlib.Data.List.Infix

namespace Lib

/-- `str`, as its characters. -/
abbrev Text := List Char

/-- `char::is_whitespace`: the property `White_Space`. -/
def isWhitespace (c : Char) : Bool :=
  let n := c.toNat
  (9 ≤ n && n ≤ 13) || n == 0x20 || n == 0x85 || n == 0xA0 || n == 0x1680 ||
    (0x2000 ≤ n && n ≤ 0x200A) || n == 0x2028 || n == 0x2029 || n == 0x202F || n == 0x205F ||
    n == 0x3000

/-- `str::starts_with`. -/
def startsWith (s pattern : Text) : Bool := pattern.isPrefixOf s

/-- `str::contains`. -/
def contains (s pattern : Text) : Bool := s.tails.any fun rest => startsWith rest pattern

theorem contains_iff {s pattern : Text} : contains s pattern = true ↔ pattern <:+: s := by
  unfold contains
  simp only [List.any_eq_true, List.mem_tails]
  constructor
  · rintro ⟨rest, hsuffix, hprefix⟩
    exact (List.isPrefixOf_iff_prefix.mp hprefix).isInfix.trans hsuffix.isInfix
  · rintro ⟨before, after, rfl⟩
    refine ⟨pattern ++ after, ⟨before, ?_⟩, ?_⟩
    · rw [List.append_assoc]
    · exact List.isPrefixOf_iff_prefix.mpr (List.prefix_append pattern after)

/-! ## Trimming -/

/-- `str::trim`. -/
def trim (s : Text) : Text := (s.dropWhile isWhitespace).rdropWhile isWhitespace

def Blank (s : Text) : Prop := ∀ c ∈ s, isWhitespace c = true

structure Trimmed (s : Text) : Prop where
  head : ∀ c ∈ s.head?, isWhitespace c = false
  last : ∀ c ∈ s.getLast?, isWhitespace c = false

section Trim
variable {s t u v : Text}

theorem dropWhile_blank_append (hs : Blank s) (ht : ∀ c ∈ t.head?, isWhitespace c = false) :
    (s ++ t).dropWhile isWhitespace = t := by
  induction s with
  | nil =>
      cases t with
      | nil => rfl
      | cons c t =>
          rw [List.nil_append, List.dropWhile_cons_of_neg (by simp [ht c rfl])]
  | cons c s ih =>
      rw [List.cons_append, List.dropWhile_cons_of_pos (hs c List.mem_cons_self)]
      exact ih fun d hd => hs d (List.mem_cons_of_mem c hd)

theorem rdropWhile_append_blank (ht : ∀ c ∈ t.getLast?, isWhitespace c = false) (hs : Blank s) :
    (t ++ s).rdropWhile isWhitespace = t := by
  rw [List.rdropWhile, List.reverse_append, dropWhile_blank_append, List.reverse_reverse]
  · intro c hc
    exact hs c (List.mem_reverse.mp hc)
  · rw [List.head?_reverse]
    exact ht

theorem trimmed_trim (s : Text) : Trimmed (trim s) := by
  constructor
  · intro c hc
    obtain ⟨t, ht⟩ : trim s <+: s.dropWhile isWhitespace := List.rdropWhile_prefix _ _
    have hhead := List.head?_dropWhile_not isWhitespace s
    rw [← ht, List.head?_append, Option.mem_def.mp hc] at hhead
    exact hhead
  · intro c hc
    have hne : trim s ≠ [] := by
      rintro h
      rw [h] at hc
      cases hc
    have hlast := List.rdropWhile_last_not isWhitespace (s.dropWhile isWhitespace) hne
    rw [Option.mem_def, List.getLast?_eq_some_getLast hne, Option.some_inj] at hc
    rw [← hc]
    exact Bool.not_eq_true _ ▸ hlast

theorem trim_eq_iff : trim s = v ↔ ∃ a b, s = a ++ v ++ b ∧ Blank a ∧ Blank b ∧ Trimmed v := by
  constructor
  · rintro rfl
    refine ⟨s.takeWhile isWhitespace, (s.dropWhile isWhitespace).rtakeWhile isWhitespace, ?_, ?_, ?_,
      trimmed_trim s⟩
    · rw [List.append_assoc, trim, List.rdropWhile_append_rtakeWhile, List.takeWhile_append_dropWhile]
    · exact fun c hc => List.mem_takeWhile_imp hc
    · exact fun c hc => List.mem_rtakeWhile_imp hc
  · rintro ⟨a, b, rfl, ha, hb, hv⟩
    cases v with
    | nil =>
        have hblank : Blank (a ++ [] ++ b) := by
          intro c hc
          rw [List.append_nil, List.mem_append] at hc
          exact hc.elim (ha c) (hb c)
        rw [trim, List.dropWhile_eq_nil_iff.mpr hblank]
        rfl
    | cons c v =>
        have hhead : ∀ d ∈ (c :: v ++ b).head?, isWhitespace d = false := hv.head
        rw [trim, List.append_assoc, dropWhile_blank_append ha hhead,
          rdropWhile_append_blank hv.last hb]

end Trim

/-! ## Lines and words -/

def stripCarriageReturn (line : Text) : Text :=
  if line.getLast? = some '\r' then line.dropLast else line

/-- The lines of a text whose first line starts with `line`. -/
def linesFrom (line : Text) : Text → List Text
  | [] => if line = [] then [] else [line]
  | c :: s =>
      if c = '\n' then stripCarriageReturn line :: linesFrom [] s else linesFrom (line ++ [c]) s

/-- `str::lines`. -/
def lines (s : Text) : List Text := linesFrom [] s

/-- The words of a text whose first word starts with `word`. -/
def wordsFrom (word : Text) : Text → List Text
  | [] => if word = [] then [] else [word]
  | c :: s =>
      if isWhitespace c then
        if word = [] then wordsFrom [] s else word :: wordsFrom [] s
      else wordsFrom (word ++ [c]) s

/-- `str::split_whitespace`. -/
def splitWhitespace (s : Text) : List Text := wordsFrom [] s

section Words
variable {s t : Text}

theorem wordsFrom_ne_nil {word : Text} (h : word ≠ [] ∨ ¬ Blank s) : wordsFrom word s ≠ [] := by
  induction s generalizing word with
  | nil =>
      have hword : word ≠ [] := h.resolve_right (not_not.mpr (by simp [Blank]))
      rw [wordsFrom, if_neg hword]
      exact List.cons_ne_nil _ _
  | cons c s ih =>
      rw [wordsFrom]
      by_cases hc : isWhitespace c = true
      · rw [if_pos hc]
        by_cases hword : word = []
        · rw [if_pos hword]
          refine ih (Or.inr fun hs => ?_)
          refine (h.resolve_left (not_not.mpr hword)) fun d hd => ?_
          rcases List.mem_cons.mp hd with rfl | hd
          · exact hc
          · exact hs d hd
        · rw [if_neg hword]
          exact List.cons_ne_nil _ _
      · rw [if_neg hc]
        exact ih (Or.inl (List.append_ne_nil_of_right_ne_nil word (List.cons_ne_nil c [])))

theorem splitWhitespace_ne_nil (h : ¬ Blank s) : splitWhitespace s ≠ [] :=
  wordsFrom_ne_nil (Or.inr h)

end Words

/-! ## A key, white space and a value -/

/-- `str::split_once(char::is_whitespace)`. -/
def splitOnce (s : Text) : Option (Text × Text) :=
  match s.dropWhile fun c => !isWhitespace c with
  | [] => none
  | _ :: rest => some (s.takeWhile fun c => !isWhitespace c, rest)

theorem splitOnce_eq_some {s key rest : Text} : splitOnce s = some (key, rest) ↔
    ∃ w, isWhitespace w = true ∧ (∀ c ∈ key, isWhitespace c = false) ∧ s = key ++ w :: rest := by
  constructor
  · intro h
    unfold splitOnce at h
    cases hdrop : s.dropWhile fun c => !isWhitespace c with
    | nil =>
        rw [hdrop] at h
        cases h
    | cons w rest' =>
        rw [hdrop] at h
        obtain ⟨rfl, rfl⟩ := Prod.mk.inj (Option.some.inj h)
        refine ⟨w, ?_, ?_, ?_⟩
        · have hhead := List.head?_dropWhile_not (fun c => !isWhitespace c) s
          rw [hdrop] at hhead
          simpa using hhead
        · intro c hc
          simpa using List.mem_takeWhile_imp hc
        · rw [← hdrop, List.takeWhile_append_dropWhile]
  · rintro ⟨w, hw, hkey, rfl⟩
    have htake : (key ++ w :: rest).takeWhile (fun c => !isWhitespace c) = key := by
      rw [List.takeWhile_append_of_pos (by simpa using hkey)]
      simp [hw]
    have hdrop : (key ++ w :: rest).dropWhile (fun c => !isWhitespace c) = w :: rest := by
      rw [List.dropWhile_append_of_pos (by simpa using hkey)]
      simp [hw]
    rw [splitOnce, hdrop, htake]

/-- Behind a first white space, a text that does not end in white space is more white space and
what trimming leaves, which is not empty. -/
theorem trim_of_last {w : Char} {rest : Text} (hw : isWhitespace w = true)
    (hlast : ∀ c ∈ (w :: rest).getLast?, isWhitespace c = false) :
    trim rest ≠ [] ∧ ∃ ws, Blank ws ∧ rest = ws ++ trim rest := by
  obtain ⟨a, b, hrest, ha, hb, -⟩ := trim_eq_iff.mp (rfl : trim rest = trim rest)
  generalize trim rest = value at hrest
  subst hrest
  have hb' : b = [] := by
    rcases List.eq_nil_or_concat b with rfl | ⟨b', c, rfl⟩
    · rfl
    · have hc := hlast c (by rw [List.concat_eq_append, ← List.append_assoc, ← List.cons_append,
        List.getLast?_concat, Option.mem_def])
      rw [hb c (by simp)] at hc
      cases hc
  subst hb'
  rw [List.append_nil] at hlast ⊢
  refine ⟨?_, a, ha, rfl⟩
  rintro rfl
  rw [List.append_nil] at hlast
  have hblank : isWhitespace ((w :: a).getLast (List.cons_ne_nil w a)) = true := by
    rcases List.mem_cons.mp (List.getLast_mem (List.cons_ne_nil w a)) with heq | hmem
    · rw [heq]
      exact hw
    · exact ha _ hmem
  rw [hlast _ (List.getLast?_eq_some_getLast (List.cons_ne_nil w a))] at hblank
  cases hblank

structure IsPair (line key value : Text) : Prop where
  gap : ∃ ws, ws ≠ [] ∧ Blank ws ∧ line = key ++ ws ++ value
  key_word : ∀ c ∈ key, isWhitespace c = false
  value_ne_nil : value ≠ []
  value_trimmed : Trimmed value

/-- The first white space splits a trimmed line into its key and, once trimmed, its value. -/
theorem isPair_iff {line key value : Text} (hline : Trimmed line) :
    IsPair line key value ↔ ∃ rest, splitOnce line = some (key, rest) ∧ trim rest = value := by
  constructor
  · rintro ⟨⟨ws, hne, hws, rfl⟩, hkey, -, hvalue⟩
    obtain ⟨w, ws, rfl⟩ := List.exists_cons_of_ne_nil hne
    obtain ⟨hw, hws⟩ := List.forall_mem_cons.mp hws
    refine ⟨ws ++ value, splitOnce_eq_some.mpr ⟨w, hw, hkey, ?_⟩, ?_⟩
    · rw [List.append_assoc, List.cons_append]
    · exact trim_eq_iff.mpr ⟨ws, [], by simp, hws, by simp [Blank], hvalue⟩
  · rintro ⟨rest, hsplit, rfl⟩
    obtain ⟨w, hw, hkey, rfl⟩ := splitOnce_eq_some.mp hsplit
    have hlast : ∀ c ∈ (w :: rest).getLast?, isWhitespace c = false := by
      intro c hc
      refine hline.last c ?_
      rw [List.getLast?_append_of_ne_nil _ (List.cons_ne_nil w rest)]
      exact hc
    -- the line ends where the value does, for it is trimmed
    obtain ⟨hvalue, ws, hws, hrest⟩ := trim_of_last hw hlast
    refine ⟨⟨w :: ws, List.cons_ne_nil w ws, List.forall_mem_cons.mpr ⟨hw, hws⟩, ?_⟩, hkey, hvalue,
      trimmed_trim rest⟩
    rw [List.append_assoc, List.cons_append, ← hrest]

end Lib
