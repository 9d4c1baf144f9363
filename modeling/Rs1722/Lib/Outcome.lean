/-
# `Rs1722.Lib.Outcome` — calls that return, fail or abort, and what they leave behind

A call of a Rust function that returns `Result<T, E>` has three ends, not two: `Ok`,
`Err`, and a panic that unwinds the thread.  `Outcome` keeps the three apart, so "this
never panics" is a statement about a value and not a convention about which branches a
model writes down.

`Act σ ε α` is a call on a place of type `σ`: a reader, a writer, the receiver of a
`&mut self` method.  It returns its outcome *and* the place as the call left it, on
failure as on success; that is what lets a failed call be said to change nothing, or to
change only this much.  The two are one monad, so a translated body reads in the order
of its source.

The rules proofs use are at the end of each section: an `Act` that has returned `Ok` has
gone through both halves of every bind (`Act.bind_ok_iff`), and one that panics has
panicked in one of them (`Act.bind_panic_iff`).
-/
import Mathlib.Data.List.Forall2
import Mathlib.Tactic.Common

namespace Lib

/-- The three ends of a call that returns a `Result`. -/
inductive Outcome (ε α : Type) where
  | ok (a : α)
  | err (e : ε)
  | panic (msg : String)
  deriving Repr, DecidableEq

namespace Outcome

variable {ε ε' α β : Type}

/-- The call returned, with a value or with an error. -/
def Returns : Outcome ε α → Prop
  | .panic _ => False
  | _ => True

instance : DecidablePred (Returns (ε := ε) (α := α))
  | .ok _ => isTrue trivial
  | .err _ => isTrue trivial
  | .panic _ => isFalse id

/-- The call returned `Ok`. -/
def IsOk : Outcome ε α → Prop
  | .ok _ => True
  | _ => False

instance : DecidablePred (IsOk (ε := ε) (α := α))
  | .ok _ => isTrue trivial
  | .err _ => isFalse id
  | .panic _ => isFalse id

/-- The value of a call that returned `Ok`. -/
def toOption : Outcome ε α → Option α
  | .ok a => some a
  | _ => none

/-- A `Result` that is already there. -/
def ofExcept : Except ε α → Outcome ε α
  | .ok a => .ok a
  | .error e => .err e

/-- `Result::map_err`. -/
def mapErr (f : ε → ε') : Outcome ε α → Outcome ε' α
  | .ok a => .ok a
  | .err e => .err (f e)
  | .panic m => .panic m

/-- `Result::unwrap`: an error becomes a panic. -/
def unwrap : Outcome ε α → Outcome ε' α
  | .ok a => .ok a
  | .err _ => .panic "called `Result::unwrap()` on an `Err` value"
  | .panic m => .panic m

/-- `Result::expect`: an error becomes a panic with the given text. -/
def expect (msg : String) : Outcome ε α → Outcome ε' α
  | .ok a => .ok a
  | .err _ => .panic msg
  | .panic m => .panic m

/-- `Option::ok_or`. -/
def okOr (e : ε) : Option α → Outcome ε α
  | some a => .ok a
  | none => .err e

protected def bind : Outcome ε α → (α → Outcome ε β) → Outcome ε β
  | .ok a, f => f a
  | .err e, _ => .err e
  | .panic m, _ => .panic m

instance : Monad (Outcome ε) where
  pure := .ok
  bind := Outcome.bind

instance : LawfulMonad (Outcome ε) :=
  LawfulMonad.mk' (Outcome ε) (fun x => by cases x <;> rfl) (fun _ _ => rfl)
    (fun x _ _ => by cases x <;> rfl)

@[simp] theorem pure_eq (a : α) : (pure a : Outcome ε α) = .ok a := rfl
@[simp] theorem ok_bind (a : α) (f : α → Outcome ε β) : (Outcome.ok a >>= f) = f a := rfl
@[simp] theorem err_bind (e : ε) (f : α → Outcome ε β) :
    ((.err e : Outcome ε α) >>= f) = .err e := rfl
@[simp] theorem panic_bind (m : String) (f : α → Outcome ε β) :
    ((.panic m : Outcome ε α) >>= f) = .panic m := rfl

@[simp] theorem returns_ok (a : α) : (Outcome.ok a : Outcome ε α).Returns := trivial
@[simp] theorem returns_err (e : ε) : (Outcome.err e : Outcome ε α).Returns := trivial
@[simp] theorem not_returns_panic (m : String) : ¬ (Outcome.panic m : Outcome ε α).Returns := id
@[simp] theorem isOk_ok (a : α) : (Outcome.ok a : Outcome ε α).IsOk := trivial
@[simp] theorem not_isOk_err (e : ε) : ¬ (Outcome.err e : Outcome ε α).IsOk := id
@[simp] theorem not_isOk_panic (m : String) : ¬ (Outcome.panic m : Outcome ε α).IsOk := id

theorem isOk_iff {x : Outcome ε α} : x.IsOk ↔ ∃ a, x = .ok a := by
  cases x <;> simp

@[simp] theorem mapErr_ok (f : ε → ε') (a : α) :
    (Outcome.ok a : Outcome ε α).mapErr f = .ok a := rfl
@[simp] theorem mapErr_err (f : ε → ε') (e : ε) :
    (Outcome.err e : Outcome ε α).mapErr f = .err (f e) := rfl
@[simp] theorem mapErr_panic (f : ε → ε') (m : String) :
    (Outcome.panic m : Outcome ε α).mapErr f = .panic m := rfl

@[simp] theorem mapErr_eq_ok {f : ε → ε'} {x : Outcome ε α} {a : α} :
    x.mapErr f = .ok a ↔ x = .ok a := by
  cases x <;> simp

@[simp] theorem isOk_mapErr {f : ε → ε'} {x : Outcome ε α} : (x.mapErr f).IsOk ↔ x.IsOk := by
  cases x <;> rfl

@[simp] theorem okOr_some (e : ε) (a : α) : okOr e (some a) = .ok a := rfl
@[simp] theorem okOr_none (e : ε) : (okOr e none : Outcome ε α) = .err e := rfl

theorem okOr_returns (e : ε) (x : Option α) : (okOr e x).Returns := by
  cases x <;> trivial

@[simp] theorem okOr_eq_ok {e : ε} {x : Option α} {a : α} : okOr e x = .ok a ↔ x = some a := by
  cases x <;> simp [okOr]

theorem ofExcept_returns (x : Except ε α) : (ofExcept x).Returns := by
  cases x <;> trivial

theorem ofExcept_eq_ok {x : Except ε α} {a : α} : ofExcept x = .ok a ↔ x = .ok a := by
  cases x <;> simp [ofExcept]

theorem bind_eq_ok {x : Outcome ε α} {f : α → Outcome ε β} {b : β} :
    (x >>= f) = .ok b ↔ ∃ a, x = .ok a ∧ f a = .ok b := by
  cases x <;> simp

theorem mapErr_returns (f : ε → ε') {x : Outcome ε α} (h : x.Returns) : (x.mapErr f).Returns := by
  cases x with
  | ok a => trivial
  | err e => trivial
  | panic msg => exact h

theorem returns_bind {x : Outcome ε α} {f : α → Outcome ε β}
    (hx : x.Returns) (hf : ∀ a, x = .ok a → (f a).Returns) : (x >>= f).Returns := by
  cases x with
  | ok a => exact hf a rfl
  | err e => trivial
  | panic m => exact hx

theorem isOk_bind_pure (x : Outcome ε α) (f : α → β) :
    (x >>= fun a => pure (f a)).IsOk ↔ x.IsOk := by
  cases x <;> exact Iff.rfl

theorem returns_foldlM {f : β → α → Outcome ε β} (h : ∀ b a, (f b a).Returns) (as : List α) (b : β) :
    (as.foldlM f b).Returns := by
  induction as generalizing b with
  | nil => trivial
  | cons a as ih =>
      rw [List.foldlM_cons]
      exact returns_bind (h b a) fun b' _ => ih b'

theorem returns_bind_pure (x : Outcome ε α) (f : α → β) :
    (x >>= fun a => pure (f a)).Returns ↔ x.Returns := by
  cases x <;> exact Iff.rfl

theorem forall₂_filterMap_toOption {R : α → β → Prop} {answers : List (Outcome ε α)} {ys : List β}
    (h : List.Forall₂ (fun answer y => ∃ x, answer = .ok x ∧ R x y) answers ys) :
    List.Forall₂ R (answers.filterMap toOption) ys := by
  induction h with
  | nil => exact .nil
  | cons hy _ ih =>
      obtain ⟨x, rfl, hx⟩ := hy
      rw [List.filterMap_cons_some (show (ok x : Outcome ε α).toOption = some x from rfl)]
      exact .cons hx ih

end Outcome

/-! ## Calls on a place -/

def Act (σ ε α : Type) := σ → Outcome ε α × σ

namespace Act

variable {σ τ ε ε' α β : Type}

protected def pure (a : α) : Act σ ε α := fun s => (.ok a, s)

protected def bind (m : Act σ ε α) (f : α → Act σ ε β) : Act σ ε β := fun s =>
  match m s with
  | (.ok a, s') => f a s'
  | (.err e, s') => (.err e, s')
  | (.panic msg, s') => (.panic msg, s')

instance : Monad (Act σ ε) where
  pure := Act.pure
  bind := Act.bind

protected theorem id_map (m : Act σ ε α) : (id <$> m) = m := by
  funext s
  show Act.bind m (fun a => Act.pure (id a)) s = m s
  rcases h : m s with ⟨a | e | msg, s'⟩ <;> simp [Act.bind, Act.pure, h]

protected theorem bind_assoc {γ : Type} (m : Act σ ε α) (f : α → Act σ ε β)
    (g : β → Act σ ε γ) : (m >>= f) >>= g = m >>= fun a => f a >>= g := by
  funext s
  show Act.bind (Act.bind m f) g s = Act.bind m (fun a => Act.bind (f a) g) s
  rcases h : m s with ⟨a | e | msg, s'⟩ <;> simp [Act.bind, h]

instance : LawfulMonad (Act σ ε) :=
  LawfulMonad.mk' (Act σ ε) Act.id_map (fun _ _ => rfl) Act.bind_assoc

def self : Act σ ε σ := fun s => (.ok s, s)

def modify (f : σ → σ) : Act σ ε Unit := fun s => (.ok (), f s)

/-- `return Err(e)`. -/
def fail (e : ε) : Act σ ε α := fun s => (.err e, s)

def lift (x : Outcome ε α) : Act σ ε α := fun s => (x, s)

/-- `.map_err(f)` on the result of a call. -/
def mapErr (f : ε → ε') (m : Act σ ε α) : Act σ ε' α := fun s =>
  ((m s).1.mapErr f, (m s).2)

/-- `.unwrap()` on the result of a call. -/
def unwrap (m : Act σ ε α) : Act σ ε' α := fun s => ((m s).1.unwrap, (m s).2)

/-- The `Result` of a call, for a `match` on it. -/
def result (m : Act σ ε α) : Act σ ε' (Except ε α) := fun s =>
  match m s with
  | (.ok a, s') => (.ok (.ok a), s')
  | (.err e, s') => (.ok (.error e), s')
  | (.panic msg, s') => (.panic msg, s')

def zoom (get : σ → τ) (set : τ → σ → σ) (m : Act τ ε α) : Act σ ε α := fun s =>
  ((m (get s)).1, set (m (get s)).2 s)

section Apply
variable (s : σ)

@[simp] theorem pure_apply (a : α) : (pure a : Act σ ε α) s = (.ok a, s) := rfl
@[simp] theorem self_apply : (self : Act σ ε σ) s = (.ok s, s) := rfl
@[simp] theorem modify_apply (f : σ → σ) : (modify f : Act σ ε Unit) s = (.ok (), f s) := rfl
@[simp] theorem fail_apply (e : ε) : (fail e : Act σ ε α) s = (.err e, s) := rfl
@[simp] theorem lift_apply (x : Outcome ε α) : (lift x : Act σ ε α) s = (x, s) := rfl
@[simp] theorem mapErr_apply (f : ε → ε') (m : Act σ ε α) :
    mapErr f m s = ((m s).1.mapErr f, (m s).2) := rfl
@[simp] theorem unwrap_apply (m : Act σ ε α) :
    (unwrap m : Act σ ε' α) s = ((m s).1.unwrap, (m s).2) := rfl
@[simp] theorem zoom_apply (get : σ → τ) (set : τ → σ → σ) (m : Act τ ε α) :
    zoom get set m s = ((m (get s)).1, set (m (get s)).2 s) := rfl

theorem zoom_eq {get : σ → τ} {set : τ → σ → σ} {m : Act τ ε α} {a : Outcome ε α} {t : τ}
    (h : m (get s) = (a, t)) : zoom get set m s = (a, set t s) := by
  rw [zoom_apply, h]

@[simp] theorem lift_ok_bind (a : α) (f : α → Act σ ε β) :
    (lift (.ok a) >>= f) = f a := rfl
@[simp] theorem lift_err_bind (e : ε) (f : α → Act σ ε β) :
    ((lift (.err e) : Act σ ε α) >>= f) = lift (.err e) := rfl
@[simp] theorem lift_panic_bind (msg : String) (f : α → Act σ ε β) :
    ((lift (.panic msg) : Act σ ε α) >>= f) = lift (.panic msg) := rfl
@[simp] theorem self_bind_apply (f : σ → Act σ ε β) : (self >>= f) s = f s s := rfl
@[simp] theorem modify_bind_apply (g : σ → σ) (f : Unit → Act σ ε β) :
    (modify g >>= f) s = f () (g s) := rfl

variable {s}

theorem bind_of_ok {m : Act σ ε α} {f : α → Act σ ε β} {a : α} {s' : σ}
    (h : m s = (.ok a, s')) : (m >>= f) s = f a s' := by
  show Act.bind m f s = _
  simp only [Act.bind, h]

theorem bind_of_err {m : Act σ ε α} {f : α → Act σ ε β} {e : ε} {s' : σ}
    (h : m s = (.err e, s')) : (m >>= f) s = (.err e, s') := by
  show Act.bind m f s = _
  simp only [Act.bind, h]

theorem bind_of_panic {m : Act σ ε α} {f : α → Act σ ε β} {msg : String} {s' : σ}
    (h : m s = (.panic msg, s')) : (m >>= f) s = (.panic msg, s') := by
  show Act.bind m f s = _
  simp only [Act.bind, h]

/-- The second half goes on from where the first one went through, or there is none. -/
theorem bind_cases (m : Act σ ε α) (f : α → Act σ ε β) (s : σ) :
    (∃ a s', m s = (.ok a, s') ∧ (m >>= f) s = f a s') ∨
    ¬ (m s).1.IsOk ∧ ((m >>= f) s).2 = (m s).2 ∧ ¬ ((m >>= f) s).1.IsOk := by
  rcases h : m s with ⟨a | e | msg, s'⟩
  · exact Or.inl ⟨a, s', rfl, bind_of_ok h⟩
  · rw [bind_of_err h]
    exact Or.inr ⟨Outcome.not_isOk_err e, rfl, Outcome.not_isOk_err e⟩
  · rw [bind_of_panic h]
    exact Or.inr ⟨Outcome.not_isOk_panic msg, rfl, Outcome.not_isOk_panic msg⟩

theorem bind_ok_iff {m : Act σ ε α} {f : α → Act σ ε β} {b : β} {s'' : σ} :
    (m >>= f) s = (.ok b, s'') ↔ ∃ a s', m s = (.ok a, s') ∧ f a s' = (.ok b, s'') := by
  rcases h : m s with ⟨a | e | msg, s'⟩
  · rw [bind_of_ok h]
    simp
  · rw [bind_of_err h]
    simp
  · rw [bind_of_panic h]
    simp

/-- A bind returns when its first half does and its second half does wherever the first
half can leave it. -/
theorem returns_bind {m : Act σ ε α} {f : α → Act σ ε β} (hm : (m s).1.Returns)
    (hf : ∀ a s', m s = (.ok a, s') → (f a s').1.Returns) : ((m >>= f) s).1.Returns := by
  rcases h : m s with ⟨a | e | msg, s'⟩
  · rw [bind_of_ok h]
    exact hf a s' h
  · rw [bind_of_err h]
    trivial
  · rw [h] at hm
    exact absurd hm (Outcome.not_returns_panic msg)

theorem returns_left {m : Act σ ε α} {f : α → Act σ ε β} (h : ((m >>= f) s).1.Returns) :
    (m s).1.Returns := by
  rcases hm : m s with ⟨a | e | msg, s'⟩
  · trivial
  · trivial
  · rw [bind_of_panic hm] at h
    exact h

/-- What holds of the place after the first half, and after the second half wherever the first one
went through, holds of it after both. -/
theorem holds_bind {P : σ → Prop} {m : Act σ ε α} {f : α → Act σ ε β} (hm : P (m s).2)
    (hf : ∀ a s', m s = (.ok a, s') → P (f a s').2) : P ((m >>= f) s).2 := by
  rcases bind_cases m f s with ⟨a, s', hs, hrest⟩ | ⟨-, hafter, -⟩
  · rw [hrest]
    exact hf a s' hs
  · rw [hafter]
    exact hm

theorem mapErr_ok_iff {f : ε → ε'} {m : Act σ ε α} {a : α} {s' : σ} :
    mapErr f m s = (.ok a, s') ↔ m s = (.ok a, s') := by
  rcases h : m s with ⟨a | e | msg, s'⟩ <;> simp [h]

theorem result_of_ok {m : Act σ ε α} {a : α} {s' : σ} (h : m s = (.ok a, s')) :
    (result m : Act σ ε' (Except ε α)) s = (.ok (.ok a), s') := by
  unfold result
  rw [h]

theorem result_of_returns (ε' : Type) {m : Act σ ε α} (h : (m s).1.Returns) :
    ∃ outcome, (result m : Act σ ε' (Except ε α)) s = (.ok outcome, (m s).2) := by
  unfold result
  rcases hm : m s with ⟨a | e | msg, s'⟩
  · exact ⟨.ok a, rfl⟩
  · exact ⟨.error e, rfl⟩
  · rw [hm] at h
    exact absurd h (Outcome.not_returns_panic msg)

theorem result_of_err {m : Act σ ε α} {e : ε} {s' : σ} (h : m s = (.err e, s')) :
    (result m : Act σ ε' (Except ε α)) s = (.ok (.error e), s') := by
  unfold result
  rw [h]

theorem mapErr_of_err {f : ε → ε'} {m : Act σ ε α} {e : ε} {s' : σ} (h : m s = (.err e, s')) :
    mapErr f m s = (.err (f e), s') := by
  rw [mapErr_apply, h]
  rfl

theorem mapErr_pure {f : ε → ε'} (a : α) : mapErr f (pure a : Act σ ε α) = pure a := rfl

/-- `map_err` on a whole body is `map_err` on each of its calls. -/
theorem mapErr_bind {f : ε → ε'} {m : Act σ ε α} {k : α → Act σ ε β} :
    mapErr f (m >>= k) = (mapErr f m >>= fun a => mapErr f (k a)) := by
  funext s
  rcases h : m s with ⟨a | e | msg, s'⟩
  · rw [mapErr_apply, bind_of_ok h, bind_of_ok (mapErr_ok_iff.mpr h)]
    rfl
  · have hm : mapErr f m s = (.err (f e), s') := by simp [h]
    rw [mapErr_apply, bind_of_err h, bind_of_err hm]
    rfl
  · have hm : mapErr f m s = (.panic msg, s') := by simp [h]
    rw [mapErr_apply, bind_of_panic h, bind_of_panic hm]
    rfl

/-- `unwrap` on a whole body is `unwrap` on each of its calls. -/
theorem unwrap_bind {m : Act σ ε α} {k : α → Act σ ε β} :
    (unwrap (m >>= k) : Act σ ε' β) = (unwrap m >>= fun a => unwrap (k a)) := by
  funext s
  rcases h : m s with ⟨a | e | msg, s'⟩
  · have hm : (unwrap m : Act σ ε' α) s = (.ok a, s') := by
      rw [unwrap_apply, h]
      rfl
    rw [unwrap_apply, bind_of_ok h, bind_of_ok hm]
    rfl
  · have hm : (unwrap m : Act σ ε' α) s =
        (.panic "called `Result::unwrap()` on an `Err` value", s') := by
      rw [unwrap_apply, h]
      rfl
    rw [unwrap_apply, bind_of_err h, bind_of_panic hm]
    rfl
  · have hm : (unwrap m : Act σ ε' α) s = (.panic msg, s') := by
      rw [unwrap_apply, h]
      rfl
    rw [unwrap_apply, bind_of_panic h, bind_of_panic hm]
    rfl

theorem unwrap_pure (a : α) : (unwrap (pure a : Act σ ε α) : Act σ ε' α) = pure a := rfl

end Apply

@[simp] theorem ite_apply {c : Prop} [Decidable c] {m m' : Act σ ε α} {s : σ} :
    (if c then m else m') s = if c then m s else m' s := by
  split <;> rfl

/-! ### What a call keeps -/

/-- From a place where `I` holds, the call leaves one where it does, however it ends. -/
def Keeps (I : σ → Prop) (m : Act σ ε α) : Prop := ∀ s, I s → I (m s).2

section Keeps
variable {I : σ → Prop} {m : Act σ ε α}

theorem keeps_pure (a : α) : Keeps I (pure a : Act σ ε α) := fun _ h => h

theorem keeps_fail (e : ε) : Keeps I (fail e : Act σ ε α) := fun _ h => h

theorem keeps_lift (x : Outcome ε α) : Keeps I (lift x : Act σ ε α) := fun _ h => h

theorem keeps_modify {f : σ → σ} (h : ∀ s, I s → I (f s)) : Keeps I (modify f : Act σ ε Unit) := h

theorem Keeps.bind {f : α → Act σ ε β} (hm : Keeps I m) (hf : ∀ a, Keeps I (f a)) :
    Keeps I (m >>= f) := by
  intro s hs
  have hs' := hm s hs
  rcases h : m s with ⟨a | e | msg, s'⟩
  · rw [bind_of_ok h]
    rw [h] at hs'
    exact hf a s' hs'
  · rw [bind_of_err h]
    rw [h] at hs'
    exact hs'
  · rw [bind_of_panic h]
    rw [h] at hs'
    exact hs'

theorem keeps_ite {c : Prop} [Decidable c] {m' : Act σ ε α} (hm : Keeps I m) (hm' : Keeps I m') :
    Keeps I (if c then m else m') := by
  split
  · exact hm
  · exact hm'

end Keeps

/-! ### What a call goes by -/

/-- What the call answers, and what is seen of the place after it, only depends on what is seen of
the place before. -/
def Sees (view : σ → τ) (m : Act σ ε α) : Prop :=
  ∀ s t, view s = view t → (m s).1 = (m t).1 ∧ view (m s).2 = view (m t).2

section Sees
variable {view : σ → τ} {m : Act σ ε α}

theorem sees_pure (a : α) : Sees view (pure a : Act σ ε α) := fun _ _ h => ⟨rfl, h⟩

theorem sees_fail (e : ε) : Sees view (fail e : Act σ ε α) := fun _ _ h => ⟨rfl, h⟩

theorem sees_lift (x : Outcome ε α) : Sees view (lift x : Act σ ε α) := fun _ _ h => ⟨rfl, h⟩

theorem sees_modify {f : σ → σ} (h : ∀ s t, view s = view t → view (f s) = view (f t)) :
    Sees view (modify f : Act σ ε Unit) := fun s t hst => ⟨rfl, h s t hst⟩

theorem Sees.bind {f : α → Act σ ε β} (hm : Sees view m) (hf : ∀ a, Sees view (f a)) :
    Sees view (m >>= f) := by
  intro s t hst
  obtain ⟨hanswer, hview⟩ := hm s t hst
  rcases hs : m s with ⟨a | e | msg, s'⟩ <;> rcases ht : m t with ⟨a' | e' | msg', t'⟩ <;>
    rw [hs, ht] at hanswer hview <;> cases hanswer
  · rw [bind_of_ok hs, bind_of_ok ht]
    exact hf a s' t' hview
  · rw [bind_of_err hs, bind_of_err ht]
    exact ⟨rfl, hview⟩
  · rw [bind_of_panic hs, bind_of_panic ht]
    exact ⟨rfl, hview⟩

theorem Sees.result {ε' : Type} (hm : Sees view m) :
    Sees view (Act.result m : Act σ ε' (Except ε α)) := by
  intro s t hst
  obtain ⟨hanswer, hview⟩ := hm s t hst
  unfold Act.result
  rcases hs : m s with ⟨a | e | msg, s'⟩ <;> rcases ht : m t with ⟨a' | e' | msg', t'⟩ <;>
    rw [hs, ht] at hanswer hview <;> cases hanswer <;> exact ⟨rfl, hview⟩

theorem sees_ite {c : Prop} [Decidable c] {m' : Act σ ε α} (hm : Sees view m)
    (hm' : Sees view m') : Sees view (if c then m else m') := by
  split
  · exact hm
  · exact hm'

end Sees

/-! ### All or nothing -/

/-- What can be seen of the place becomes `f` of it if the call returns `Ok`, and stays as it was if
it does not. -/
structure AllOrNothing (view : σ → τ) (f : τ → τ) (m : Act σ ε α) : Prop where
  all : ∀ s a s', m s = (.ok a, s') → view s' = f (view s)
  nothing : ∀ s, ¬ (m s).1.IsOk → view (m s).2 = view s

section AllOrNothing
variable {view : σ → τ} {f : τ → τ} {m : Act σ ε α} {k : α → Act σ ε β}

theorem allOrNothing_id (h : ∀ s, view (m s).2 = view s) : AllOrNothing view id m :=
  ⟨fun s a s' hs => by rw [← show (m s).2 = s' by rw [hs], h]; rfl, fun s _ => h s⟩

theorem AllOrNothing.same (h : AllOrNothing view id m) (s : σ) : view (m s).2 = view s := by
  by_cases hok : (m s).1.IsOk
  · obtain ⟨a, ha⟩ := Outcome.isOk_iff.mp hok
    exact h.all s a _ (Prod.ext ha rfl)
  · exact h.nothing s hok

theorem AllOrNothing.after (hm : ∀ s, view (m s).2 = view s)
    (hk : ∀ a, AllOrNothing view f (k a)) : AllOrNothing view f (m >>= k) := by
  constructor
  · intro s b s'' h
    obtain ⟨a, s', hs, hs'⟩ := bind_ok_iff.mp h
    have hsame := hm s
    rw [hs] at hsame
    rw [(hk a).all s' b s'' hs', hsame]
  · intro s hfail
    rcases bind_cases m k s with ⟨a, s', hs, hrest⟩ | ⟨-, hafter, -⟩
    · rw [hrest] at hfail ⊢
      rw [(hk a).nothing s' hfail, ← hm s, hs]
    · rw [hafter, hm]

theorem AllOrNothing.before (hm : AllOrNothing view f m)
    (hk : ∀ a s, (k a s).1.IsOk ∧ view (k a s).2 = view s) : AllOrNothing view f (m >>= k) := by
  constructor
  · intro s b s'' h
    obtain ⟨a, s', hs, hs'⟩ := bind_ok_iff.mp h
    have hsame := (hk a s').2
    rw [hs'] at hsame
    rw [hsame, hm.all s a s' hs]
  · intro s hfail
    rcases bind_cases m k s with ⟨a, s', -, hrest⟩ | ⟨hno, hafter, -⟩
    · rw [hrest] at hfail
      exact absurd (hk a s').1 hfail
    · rw [hafter, hm.nothing s hno]

theorem AllOrNothing.mapErr {g : ε → ε'} (h : AllOrNothing view f m) :
    AllOrNothing view f (Act.mapErr g m) := by
  exact ⟨fun s a s' hs => h.all s a s' (mapErr_ok_iff.mp hs),
    fun s hfail => h.nothing s fun hok => hfail (Outcome.isOk_mapErr.mpr hok)⟩

theorem AllOrNothing.zoom {υ : Type} {get : υ → σ} {set : σ → υ → υ}
    (hget : ∀ s t, get (set s t) = s) (h : AllOrNothing view f m) :
    AllOrNothing (fun t => view (get t)) f (Act.zoom get set m) := by
  constructor
  · intro t a t' ht
    obtain ⟨hanswer, rfl⟩ := Prod.ext_iff.mp ht
    show view (get (set (m (get t)).2 t)) = _
    rw [hget]
    exact h.all (get t) a _ (Prod.ext hanswer rfl)
  · intro t hfail
    show view (get (set _ t)) = _
    rw [hget]
    exact h.nothing (get t) hfail

/-- A second try, if the first one failed. -/
theorem AllOrNothing.retry {m : Act σ ε Unit} {m' : Act σ ε' Unit}
    {k : Except ε Unit → Act σ ε' Unit} (h : AllOrNothing view f m)
    (hok : ∀ u, k (.ok u) = pure ()) (herr : ∀ e, k (.error e) = m')
    (h' : AllOrNothing view f m') : AllOrNothing view f (Act.result m >>= k) := by
  constructor
  · intro s u s'' hs
    rcases hm : m s with ⟨a | e | msg, s'⟩
    · rw [bind_of_ok (result_of_ok hm), hok] at hs
      obtain rfl : s' = s'' := congrArg Prod.snd hs
      exact h.all s a s' hm
    · have hnothing := h.nothing s (by rw [hm]; exact Outcome.not_isOk_err e)
      rw [hm] at hnothing
      rw [bind_of_ok (result_of_err hm), herr] at hs
      rw [← hnothing]
      exact h'.all s' u s'' hs
    · have hpanic : (Act.result m : Act σ ε' (Except ε Unit)) s = (.panic msg, s') := by
        unfold Act.result
        rw [hm]
      rw [bind_of_panic hpanic] at hs
      cases hs
  · intro s hfail
    rcases hm : m s with ⟨a | e | msg, s'⟩
    · rw [bind_of_ok (result_of_ok hm), hok] at hfail
      exact absurd (Outcome.isOk_ok ()) hfail
    · have hnothing := h.nothing s (by rw [hm]; exact Outcome.not_isOk_err e)
      rw [hm] at hnothing
      rw [bind_of_ok (result_of_err hm), herr] at hfail ⊢
      rw [← hnothing]
      exact h'.nothing s' hfail
    · have hnothing := h.nothing s (by rw [hm]; exact Outcome.not_isOk_panic msg)
      have hpanic : (Act.result m : Act σ ε' (Except ε Unit)) s = (.panic msg, s') := by
        unfold Act.result
        rw [hm]
      rw [bind_of_panic hpanic, ← hnothing, hm]

end AllOrNothing

end Act

end Lib
