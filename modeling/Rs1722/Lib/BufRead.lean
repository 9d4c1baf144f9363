/-
# `Rs1722.Lib.BufRead` — `std::io::BufReader`, and the lines it reads

A reader answers a `read` with some bytes, with an error, or with its end, after which there is
nothing more.  What it has answered is lines (`LinesOf`), and they do not depend on where one answer
ends and the next one begins:

    a line that ends with the delimiter is read whole, and the rest is left   (`readUntil_line`)
    what has no delimiter is read at the end, and lost where there is an error
                                              (`readUntil_last`, `readUntil_failed`)
-/
import Rs1722.Lib.Utf8

namespace Lib

/-! ## Lines -/

/-- What the lines are: those that end with the delimiter, without it, and what comes after the last
of them. -/
structure LinesOf {α : Type} (delim : α) (whole : List α) (bodies : List (List α)) (tail : List α) :
    Prop where
  whole_eq : whole = (bodies.map fun body => body ++ [delim]).flatten ++ tail
  bodies : ∀ body ∈ bodies, delim ∉ body
  tail : delim ∉ tail

section Lines
variable {α : Type} {delim : α} {whole tail : List α} {body : List α} {bodies : List (List α)}

theorem LinesOf.of_nil (h : LinesOf delim whole [] tail) : whole = tail := h.whole_eq

theorem LinesOf.of_cons (h : LinesOf delim whole (body :: bodies) tail) :
    delim ∉ body ∧ ∃ rest, whole = body ++ delim :: rest ∧ LinesOf delim rest bodies tail := by
  refine ⟨h.bodies body List.mem_cons_self, _, ?_, rfl,
    fun other hother => h.bodies other (List.mem_cons_of_mem _ hother), h.tail⟩
  rw [h.whole_eq]
  simp

variable (delim) in
theorem exists_linesOf [DecidableEq α] (whole : List α) : ∃ bodies tail,
    LinesOf delim whole bodies tail := by
  induction whole with
  | nil => exact ⟨[], [], rfl, by simp, by simp⟩
  | cons a whole ih =>
      obtain ⟨bodies, tail, h⟩ := ih
      by_cases ha : a = delim
      · refine ⟨[] :: bodies, tail, ?_, List.forall_mem_cons.mpr ⟨by simp, h.bodies⟩, h.tail⟩
        rw [ha, h.whole_eq]
        rfl
      · have hne : delim ≠ a := fun heq => ha heq.symm
        cases bodies with
        | nil =>
            refine ⟨[], a :: tail, ?_, by simp, List.not_mem_cons_of_ne_of_not_mem hne h.tail⟩
            rw [h.of_nil]
            rfl
        | cons body bodies =>
            obtain ⟨hbody, hbodies⟩ := List.forall_mem_cons.mp h.bodies
            refine ⟨(a :: body) :: bodies, tail, ?_, List.forall_mem_cons.mpr
              ⟨List.not_mem_cons_of_ne_of_not_mem hne hbody, hbodies⟩, h.tail⟩
            rw [h.whole_eq]
            rfl

theorem LinesOf.encodeUtf8 {s last : Text} {texts : List Text} (h : LinesOf '\n' s texts last) :
    LinesOf lineFeed (encodeUtf8 s) (texts.map Lib.encodeUtf8) (Lib.encodeUtf8 last) := by
  refine ⟨?_, ?_, fun hmem => h.tail (lineFeed_mem_encodeUtf8.mp hmem)⟩
  · rw [h.whole_eq, encodeUtf8_append, encodeUtf8_lines, List.map_map]
    rfl
  · intro body hbody hmem
    obtain ⟨text, htext, rfl⟩ := List.mem_map.mp hbody
    exact h.bodies text htext (lineFeed_mem_encodeUtf8.mp hmem)

end Lines

/-! ## The reader -/

/-- What a reader answers to `read` before its end. -/
inductive ReadReply (ε : Type) where
  | bytes (first : UInt8) (more : List UInt8)
  | interrupted
  | error (e : ε)

variable {ε : Type}

/-- What is read, up to the end or to an error other than an interruption. -/
def contentOf : List (ReadReply ε) → List UInt8
  | [] => []
  | .bytes first more :: replies => (first :: more) ++ contentOf replies
  | .interrupted :: replies => contentOf replies
  | .error _ :: _ => []

def failureOf : List (ReadReply ε) → Option ε
  | [] => none
  | .bytes _ _ :: replies => failureOf replies
  | .interrupted :: replies => failureOf replies
  | .error e :: _ => some e

/-- `BufReader`: what is in the buffer, and what its reader is going to answer. -/
structure BufReader (ε : Type) where
  buffer : List UInt8
  replies : List (ReadReply ε)

inductive LineError (ε : Type) where
  | read (e : ε)
  | invalidUtf8

namespace BufReader

def content (r : BufReader ε) : List UInt8 := r.buffer ++ contentOf r.replies

def failure (r : BufReader ε) : Option ε := failureOf r.replies

/-- The loop of `read_until`: the bytes available are taken up to the delimiter, or all of them if
it is not there, and then there are those of the next answer. -/
def readUntilFrom (delim : UInt8) :
    List (ReadReply ε) → List UInt8 → List UInt8 → Except ε (List UInt8) × BufReader ε
  | replies, available, line =>
    match available.idxOf? delim with
    | some i => (.ok (line ++ available.take (i + 1)), ⟨available.drop (i + 1), replies⟩)
    | none =>
      match replies with
      | [] => (.ok (line ++ available), ⟨[], []⟩)
      | .bytes first more :: replies =>
          readUntilFrom delim replies (first :: more) (line ++ available)
      | .interrupted :: replies => readUntilFrom delim replies [] (line ++ available)
      | .error e :: replies => (.error e, ⟨[], replies⟩)

/-- `BufRead::read_until`.  What was read before an error is left out. -/
def readUntil (delim : UInt8) (r : BufReader ε) : Except ε (List UInt8) × BufReader ε :=
  readUntilFrom delim r.replies r.buffer []

/-! ## Where the answers end does not matter -/

section ReadUntil
variable {delim : UInt8}

theorem readUntilFrom_found {body after : List UInt8} (hbody : delim ∉ body)
    (replies : List (ReadReply ε)) (line : List UInt8) :
    readUntilFrom delim replies (body ++ delim :: after) line =
      (.ok (line ++ (body ++ [delim])), ⟨after, replies⟩) := by
  have hfound : (body ++ delim :: after).idxOf? delim = some body.length := by
    refine List.idxOf?_eq_some_iff.mpr ⟨by simp, by simp, fun j hj heq => hbody ?_⟩
    rw [List.getElem_append_left hj] at heq
    exact heq ▸ List.getElem_mem hj
  have htake : (body ++ delim :: after).take (body.length + 1) = body ++ [delim] := by
    rw [List.take_length_add_append]
    rfl
  have hdrop : (body ++ delim :: after).drop (body.length + 1) = after := by
    rw [List.drop_length_add_append]
    rfl
  unfold readUntilFrom
  rw [hfound]
  dsimp only
  rw [htake, hdrop]

theorem readUntilFrom_next {available : List UInt8} (h : delim ∉ available) (line : List UInt8)
    (replies : List (ReadReply ε)) :
    readUntilFrom delim replies available line =
      match replies with
      | [] => (.ok (line ++ available), ⟨[], []⟩)
      | .bytes first more :: replies =>
          readUntilFrom delim replies (first :: more) (line ++ available)
      | .interrupted :: replies => readUntilFrom delim replies [] (line ++ available)
      | .error e :: replies => (.error e, ⟨[], replies⟩) := by
  rw [readUntilFrom.eq_def]
  dsimp only
  rw [List.idxOf?_eq_none_iff.mpr h]

theorem first_delim {available later body rest : List UInt8} (hbody : delim ∉ body)
    (heq : available ++ later = body ++ delim :: rest) :
    (∃ after, available = body ++ delim :: after ∧ after ++ later = rest) ∨
      (delim ∉ available ∧ ∃ body', body = available ++ body' ∧ later = body' ++ delim :: rest) := by
  rcases List.append_eq_append_iff.mp heq with ⟨body', rfl, hlater⟩ | ⟨after, rfl, hafter⟩
  · exact Or.inr ⟨fun hmem => hbody (List.mem_append_left _ hmem), body', rfl, hlater⟩
  · cases after with
    | nil => exact Or.inr ⟨by simpa using hbody, [], by simp, hafter.symm⟩
    | cons b after =>
        obtain ⟨rfl, hrest⟩ := List.cons.inj hafter
        exact Or.inl ⟨after, rfl, hrest.symm⟩

theorem readUntilFrom_line (replies : List (ReadReply ε)) :
    ∀ {available line body rest : List UInt8}, delim ∉ body →
      available ++ contentOf replies = body ++ delim :: rest →
      ∃ r', readUntilFrom delim replies available line = (.ok (line ++ (body ++ [delim])), r') ∧
        r'.content = rest ∧ r'.failure = failureOf replies := by
  induction replies with
  | nil =>
      intro available line body rest hbody heq
      rcases first_delim hbody heq with ⟨after, rfl, hafter⟩ | ⟨-, body', -, hlater⟩
      · exact ⟨_, readUntilFrom_found hbody [] line, hafter, rfl⟩
      · simp [contentOf] at hlater
  | cons reply replies ih =>
      intro available line body rest hbody heq
      rcases first_delim hbody heq with ⟨after, rfl, hafter⟩ | ⟨hnone, body', rfl, hlater⟩
      · exact ⟨_, readUntilFrom_found hbody _ line, hafter, rfl⟩
      · have hbody' : delim ∉ body' := fun hmem => hbody (List.mem_append_right _ hmem)
        rw [readUntilFrom_next hnone, ← List.append_assoc line, List.append_assoc, List.append_assoc]
        cases reply with
        | bytes first more =>
            obtain ⟨r', hread, hrest⟩ := @ih _ (line ++ available) _ _ hbody' hlater
            exact ⟨r', by simpa using hread, hrest⟩
        | interrupted =>
            obtain ⟨r', hread, hrest⟩ := @ih [] (line ++ available) _ _ hbody' hlater
            exact ⟨r', by simpa using hread, hrest⟩
        | error e => simp [contentOf] at hlater

theorem readUntilFrom_last (replies : List (ReadReply ε)) :
    ∀ {available line : List UInt8}, delim ∉ available ++ contentOf replies →
      failureOf replies = none →
      readUntilFrom delim replies available line =
        (.ok (line ++ (available ++ contentOf replies)), ⟨[], []⟩) := by
  induction replies with
  | nil =>
      intro available line hnone _
      rw [readUntilFrom_next fun hmem => hnone (List.mem_append_left _ hmem)]
      simp [contentOf]
  | cons reply replies ih =>
      intro available line hnone hfailure
      obtain ⟨havailable, hlater⟩ := not_or.mp fun h => hnone (List.mem_append.mpr h)
      rw [readUntilFrom_next havailable, ← List.append_assoc]
      cases reply with
      | bytes first more => exact ih hlater hfailure
      | interrupted => exact @ih [] _ hlater hfailure
      | error e => cases hfailure

theorem readUntilFrom_failed {e : ε} (replies : List (ReadReply ε)) :
    ∀ {available line : List UInt8}, delim ∉ available ++ contentOf replies →
      failureOf replies = some e →
      ∃ r', readUntilFrom delim replies available line = (.error e, r') := by
  induction replies with
  | nil =>
      intro available line _ hfailure
      cases hfailure
  | cons reply replies ih =>
      intro available line hnone hfailure
      obtain ⟨havailable, hlater⟩ := not_or.mp fun h => hnone (List.mem_append.mpr h)
      rw [readUntilFrom_next havailable]
      cases reply with
      | bytes first more => exact ih hlater hfailure
      | interrupted => exact @ih [] _ hlater hfailure
      | error e' =>
          obtain rfl := Option.some.inj hfailure
          exact ⟨_, rfl⟩

variable {r : BufReader ε} {body rest : List UInt8}

theorem readUntil_line (hbody : delim ∉ body) (h : r.content = body ++ delim :: rest) :
    ∃ r', r.readUntil delim = (.ok (body ++ [delim]), r') ∧ r'.content = rest ∧
      r'.failure = r.failure :=
  readUntilFrom_line r.replies hbody h

theorem readUntil_last (hnone : delim ∉ r.content) (hfailure : r.failure = none) :
    r.readUntil delim = (.ok r.content, ⟨[], []⟩) :=
  readUntilFrom_last r.replies hnone hfailure

theorem readUntil_failed {e : ε} (hnone : delim ∉ r.content) (hfailure : r.failure = some e) :
    ∃ r', r.readUntil delim = (.error e, r') :=
  readUntilFrom_failed r.replies hnone hfailure

end ReadUntil

/-! ## Lines of text -/

/-- `BufRead::read_line`, into an empty string: the number of bytes read, and their text. -/
def readLine (r : BufReader ε) : Except (LineError ε) (Nat × Text) × BufReader ε :=
  match r.readUntil lineFeed with
  | (.ok bytes, r') =>
      match decodeUtf8 bytes with
      | some text => (.ok (bytes.length, text), r')
      | none => (.error .invalidUtf8, r')
  | (.error e, r') => (.error (.read e), r')

theorem content_lt_of_readLine {r r' : BufReader ε} {n : Nat} {text : Text}
    (h : r.readLine = (.ok (n + 1, text), r')) : r'.content.length < r.content.length := by
  obtain ⟨bytes, hread, hcount⟩ : ∃ bytes, r.readUntil lineFeed = (.ok bytes, r') ∧
      bytes.length = n + 1 := by
    unfold readLine at h
    rcases hread : r.readUntil lineFeed with ⟨answer, r₁⟩
    rw [hread] at h
    cases answer with
    | error e => cases h
    | ok bytes =>
        dsimp only at h
        cases hdecode : decodeUtf8 bytes with
        | none =>
            rw [hdecode] at h
            cases h
        | some text' =>
            rw [hdecode] at h
            obtain ⟨hanswer, rfl⟩ := Prod.mk.inj h
            exact ⟨bytes, rfl, congrArg Prod.fst (Except.ok.inj hanswer)⟩
  by_cases hmem : lineFeed ∈ r.content
  · obtain ⟨body, rest, hcontent, hbody⟩ := List.eq_append_cons_of_mem hmem
    obtain ⟨r₁, hline, hrest, -⟩ := readUntil_line hbody hcontent
    obtain ⟨-, rfl⟩ := Prod.mk.inj (hline.symm.trans hread)
    rw [hrest, hcontent]
    simp
    omega
  · cases hfailure : r.failure with
    | none =>
        obtain ⟨hbytes, rfl⟩ := Prod.mk.inj ((readUntil_last hmem hfailure).symm.trans hread)
        rw [Except.ok.inj hbytes, hcount]
        exact Nat.succ_pos n
    | some e =>
        obtain ⟨r₁, hfailed⟩ := readUntil_failed hmem hfailure
        cases (Prod.mk.inj (hfailed.symm.trans hread)).1

section ReadLine
variable {r : BufReader ε} {body rest : List UInt8}

theorem readLine_line (hbody : lineFeed ∉ body) (h : r.content = body ++ lineFeed :: rest) :
    ∃ r', r'.content = rest ∧ r'.failure = r.failure ∧
      r.readLine = match decodeUtf8 (body ++ [lineFeed]) with
        | some text => (.ok (body.length + 1, text), r')
        | none => (.error .invalidUtf8, r') := by
  obtain ⟨r', hread, hrest, hfailure⟩ := readUntil_line hbody h
  refine ⟨r', hrest, hfailure, ?_⟩
  rw [readLine, hread]
  dsimp only
  rw [List.length_append, List.length_singleton]

theorem readLine_last (hnone : lineFeed ∉ r.content) (hfailure : r.failure = none) :
    r.readLine = match decodeUtf8 r.content with
      | some text => (.ok (r.content.length, text), ⟨[], []⟩)
      | none => (.error .invalidUtf8, ⟨[], []⟩) := by
  rw [readLine, readUntil_last hnone hfailure]

theorem readLine_failed {e : ε} (hnone : lineFeed ∉ r.content) (hfailure : r.failure = some e) :
    ∃ r', r.readLine = (.error (.read e), r') := by
  obtain ⟨r', hread⟩ := readUntil_failed hnone hfailure
  exact ⟨r', by rw [readLine, hread]⟩

end ReadLine

end BufReader

end Lib
