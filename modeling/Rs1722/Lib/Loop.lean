/-
# `Rs1722.Lib.Loop` — a reader's `loop`

`loop { … }` whose body reads from a byte string: each turn either goes on, with new values
of the loop's variables, or ends the loop with a value.  A turn that goes on must have taken
something (`Consuming`), so the loop ends; it needs no bound on the number of turns.

    one turn, and then the loop or its value       (`loop_eq`)
    what every turn keeps holds at the last one    (`loop_invariant`)
-/
import Rs1722.Lib.StdIo

namespace Lib

inductive Turn (τ α : Type) where
  | again (t : τ)
  | done (a : α)

section Loop
variable {τ ε α : Type} {body : τ → Act (List UInt8) ε (Turn τ α)}

def Consuming (body : τ → Act (List UInt8) ε (Turn τ α)) : Prop :=
  ∀ t t' s s', body t s = (.ok (.again t'), s') → s'.length < s.length

/-- `loop`, with the loop's variables as the argument of its body. -/
def loop (body : τ → Act (List UInt8) ε (Turn τ α)) (h : Consuming body) (t : τ)
    (s : List UInt8) : Outcome ε α × List UInt8 :=
  match _hturn : body t s with
  | (.ok (.done a), s') => (.ok a, s')
  | (.ok (.again t'), s') => loop body h t' s'
  | (.err e, s') => (.err e, s')
  | (.panic msg, s') => (.panic msg, s')
termination_by s.length
decreasing_by exact h _ _ _ _ ‹_›

variable {h : Consuming body} {t t' : τ} {a : α} {s s' bs cs : List UInt8}

theorem loop_eq (h : Consuming body) (t : τ) (s : List UInt8) :
    loop body h t s = match body t s with
      | (.ok (.done a), s') => (.ok a, s')
      | (.ok (.again t'), s') => loop body h t' s'
      | (.err e, s') => (.err e, s')
      | (.panic msg, s') => (.panic msg, s') := by
  conv_lhs => rw [loop]
  split <;> rename_i hturn <;> rw [hturn]

theorem loop_of_done (hturn : body t s = (.ok (.done a), s')) : loop body h t s = (.ok a, s') := by
  rw [loop_eq, hturn]

theorem loop_of_again (hturn : body t s = (.ok (.again t'), s')) :
    loop body h t s = loop body h t' s' := by
  rw [loop_eq, hturn]

theorem consumes_loop_done (hturn : Consumes (body t) bs (.done a)) :
    Consumes (loop body h t) bs a :=
  fun rest => loop_of_done (hturn rest)

theorem consumes_loop_again (hturn : Consumes (body t) bs (.again t'))
    (hrest : Consumes (loop body h t') cs a) : Consumes (loop body h t) (bs ++ cs) a := by
  intro rest
  rw [List.append_assoc, loop_of_again (hturn (cs ++ rest))]
  exact hrest rest

theorem loop_invariant {I : τ → Prop} (hstep : ∀ {t t' s s'}, I t →
    body t s = (.ok (.again t'), s') → I t') (h0 : I t) (hloop : loop body h t s = (.ok a, s')) :
    ∃ t₁ s₁, I t₁ ∧ body t₁ s₁ = (.ok (.done a), s') := by
  induction hlen : s.length using Nat.strongRecOn generalizing t s with
  | _ n ih =>
      subst hlen
      rw [loop_eq] at hloop
      rcases hturn : body t s with ⟨(⟨t₁⟩ | ⟨a₁⟩) | e | msg, s₁⟩ <;> rw [hturn] at hloop
      · exact ih s₁.length (h _ _ _ _ hturn) (hstep h0 hturn) hloop rfl
      · obtain ⟨ha, rfl⟩ := Prod.mk.inj hloop
        obtain rfl := Outcome.ok.inj ha
        exact ⟨t, s, h0, hturn⟩
      · cases (Prod.mk.inj hloop).1
      · cases (Prod.mk.inj hloop).1

/-- One turn, and then the loop or its value. -/
theorem loop_eq_bind (h : Consuming body) (t : τ) :
    (loop body h t : Act (List UInt8) ε α) = body t >>= fun
      | .done a => pure a
      | .again t' => loop body h t' := by
  funext s
  rw [loop_eq]
  rcases hturn : body t s with ⟨(⟨t'⟩ | ⟨a⟩) | e | msg, s'⟩
  · rw [Act.bind_of_ok hturn]
  · rw [Act.bind_of_ok hturn]
    rfl
  · rw [Act.bind_of_err hturn]
  · rw [Act.bind_of_panic hturn]

/-- A loop whose turns see where their input was cut sees it, too. -/
theorem steady_loop (hbody : ∀ t, Steady (body t)) (t : τ) : Steady (loop body h t) := by
  intro s
  induction hlen : s.length using Nat.strongRecOn generalizing t s with
  | ind n ih =>
      subst hlen
      rw [loop_eq_bind]
      refine SteadyAt.bind (hbody t s) fun turn s' hturn => ?_
      cases turn with
      | done a => exact steady_pure a s'
      | again t' => exact ih s'.length (h _ _ _ _ hturn) t' s' rfl

end Loop

end Lib
