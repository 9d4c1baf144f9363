/-
# `Rs1722.Lib.File` — a file that is written piece by piece

A file is what is in it, or it does not exist.  Its creation may fail, and so may each piece that
is written to it then, after a part of it was written.  Either all of it is in the file in the end,
or an error is returned and the file was left alone or has the beginning (`writeFile_cases`).
-/
import Rs1722.Lib.Outcome

namespace Lib

variable {α ε : Type}

/-- What the operating system answers while a file is written: to its creation, and to the piece
at each place; a piece that fails may have been written in part. -/
structure FileReplies (ε : Type) where
  create : Except ε Unit
  piece : Nat → Except (ε × Nat) Unit

def FileReplies.success : FileReplies ε where
  create := .ok ()
  piece _ := .ok ()

def writePiece (reply : Except (ε × Nat) Unit) (piece : List α) : Act (List α) ε Unit :=
  match reply with
  | .ok () => Act.modify fun file => file ++ piece
  | .error (e, n) => do
      Act.modify fun file => file ++ piece.take n
      Act.fail e

def writePieces (reply : Nat → Except (ε × Nat) Unit) :
    Nat → List (List α) → Act (List α) ε Unit
  | _, [] => return ()
  | place, piece :: pieces => do
      writePiece (reply place) piece
      writePieces reply (place + 1) pieces

/-- `File::create`, and what is written to the file then. -/
def createFile (create : Except ε Unit) (write : Act (List α) ε Unit) :
    Act (Option (List α)) ε Unit := fun file =>
  match create with
  | .error e => (.err e, file)
  | .ok () => ((write []).1, some (write []).2)

def writeFile (r : FileReplies ε) (pieces : List (List α)) : Act (Option (List α)) ε Unit :=
  createFile r.create (writePieces r.piece 0 pieces)

def Began (whole : List α) (file file' : Option (List α)) : Prop :=
  file' = file ∨ ∃ written, written <+: whole ∧ file' = some written

variable {file file' : Option (List α)}

theorem writePieces_cases (reply : Nat → Except (ε × Nat) Unit) (place : Nat)
    (pieces : List (List α)) (file : List α) :
    writePieces reply place pieces file = (.ok (), file ++ pieces.flatten) ∨
      ∃ e written, written <+: pieces.flatten ∧
        writePieces reply place pieces file = (.err e, file ++ written) := by
  induction pieces generalizing place file with
  | nil => exact Or.inl (congrArg (Prod.mk _) (List.append_nil file).symm)
  | cons piece pieces ih =>
      unfold writePieces
      cases hreply : reply place with
      | error failure =>
          obtain ⟨e, n⟩ := failure
          exact Or.inr ⟨e, piece.take n, (List.take_prefix n piece).trans (List.prefix_append _ _),
            rfl⟩
      | ok u =>
          have hpiece : writePiece (.ok u : Except (ε × Nat) Unit) piece file =
              (.ok (), file ++ piece) := rfl
          rw [Act.bind_of_ok hpiece, List.flatten_cons]
          rcases ih (place + 1) (file ++ piece) with hall | ⟨e, written, hprefix, hfail⟩
          · left
            rw [hall, List.append_assoc]
          · refine Or.inr ⟨e, piece ++ written, (List.prefix_append_right_inj piece).mpr hprefix, ?_⟩
            rw [hfail, List.append_assoc]

/-- The whole file, or an error and at most the beginning of it. -/
theorem writeFile_cases (r : FileReplies ε) (pieces : List (List α)) (file : Option (List α)) :
    writeFile r pieces file = (.ok (), some pieces.flatten) ∨
      ∃ e, (writeFile r pieces file).1 = .err e ∧
        Began pieces.flatten file (writeFile r pieces file).2 := by
  unfold writeFile createFile
  cases r.create with
  | error e => exact Or.inr ⟨e, rfl, Or.inl rfl⟩
  | ok u =>
      rcases writePieces_cases r.piece 0 pieces [] with hall | ⟨e, written, hprefix, hfail⟩
      · left
        dsimp only
        rw [hall, List.nil_append]
      · right
        refine ⟨e, ?_, Or.inr ⟨written, hprefix, ?_⟩⟩
        · dsimp only
          rw [hfail]
        · dsimp only
          rw [hfail, List.nil_append]

theorem writeFile_ok {r : FileReplies ε} {pieces : List (List α)}
    (h : writeFile r pieces file = (.ok (), file')) : file' = some pieces.flatten := by
  rcases writeFile_cases r pieces file with hall | ⟨e, hfail, -⟩
  · exact (Prod.mk.inj (h.symm.trans hall)).2
  · rw [h] at hfail
    cases hfail

theorem writeFile_began (r : FileReplies ε) (pieces : List (List α)) (file : Option (List α)) :
    Began pieces.flatten file (writeFile r pieces file).2 := by
  rcases writeFile_cases r pieces file with hall | ⟨e, -, hbegan⟩
  · rw [hall]
    exact Or.inr ⟨_, List.prefix_rfl, rfl⟩
  · exact hbegan

theorem writeFile_returns (r : FileReplies ε) (pieces : List (List α)) (file : Option (List α)) :
    (writeFile r pieces file).1.Returns := by
  rcases writeFile_cases r pieces file with hall | ⟨e, hfail, -⟩
  · rw [hall]
    trivial
  · rw [hfail]
    trivial

end Lib
