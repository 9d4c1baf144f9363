/-
# `Rs1722.Lib.StdIo` — `std::io` over byte strings

`Read` for a byte slice: the place of the call is what is left of the slice.  The one error
it has is running out, and the parsers built on it are described by what they consume.
`Write` for a growable buffer: the place is what has been written, and no call fails.

    Consumes p bs a      p, on bs followed by anything, returns a and leaves the rest
    Steady p             whenever p returns, it does so on what it consumed alone, and fails
                         on every part of that
    Emits p bs           p, after anything, succeeds and adds bs
-/
import Rs1722.Lib.Outcome

namespace Lib

/-- The errors of `std::io` the code can meet on in-memory streams. -/
inductive IoError where
  /-- `ErrorKind::UnexpectedEof`: "failed to fill whole buffer". -/
  | unexpectedEof
  /-- `ErrorKind::WriteZero`: "failed to write whole buffer". -/
  | writeZero
  /-- `ErrorKind::InvalidInput` with a text. -/
  | invalidInput (text : String)
  deriving DecidableEq, Repr

/-- `read_exact` into a buffer of `n` bytes.  On a slice that is too short it takes what is
there and fails. -/
def readExact (n : Nat) : Act (List UInt8) IoError (List UInt8) := fun s =>
  if n ≤ s.length then (.ok (s.take n), s.drop n) else (.err .unexpectedEof, [])

theorem readExact_ok_iff {n : Nat} {s bs s' : List UInt8} :
    readExact n s = (.ok bs, s') ↔ s = bs ++ s' ∧ bs.length = n := by
  unfold readExact
  split
  · rename_i h
    simp only [Prod.mk.injEq, Outcome.ok.injEq]
    constructor
    · rintro ⟨rfl, rfl⟩
      exact ⟨(List.take_append_drop n s).symm, List.length_take_of_le h⟩
    · rintro ⟨rfl, rfl⟩
      simp
  · rename_i h
    constructor
    · intro hx
      cases (Prod.mk.inj hx).1
    · rintro ⟨rfl, rfl⟩
      simp at h

theorem readExact_cases (n : Nat) (s : List UInt8) :
    (s.length < n ∧ readExact n s = (.err .unexpectedEof, [])) ∨
      ∃ bs s', s = bs ++ s' ∧ bs.length = n ∧ readExact n s = (.ok bs, s') := by
  by_cases h : n ≤ s.length
  · right
    have hs : s = s.take n ++ s.drop n := (List.take_append_drop n s).symm
    have hlen : (s.take n).length = n := List.length_take_of_le h
    exact ⟨s.take n, s.drop n, hs, hlen, readExact_ok_iff.mpr ⟨hs, hlen⟩⟩
  · left
    exact ⟨Nat.lt_of_not_le h, if_neg h⟩

/-- `read_exact` into an array of `n` bytes. -/
def readArray (n : Nat) : Act (List UInt8) IoError (Vector UInt8 n) := fun s =>
  if h : n ≤ s.length then (.ok ⟨(s.take n).toArray, List.length_take_of_le h⟩, s.drop n)
  else (.err .unexpectedEof, [])

theorem readArray_ok_iff {n : Nat} {s s' : List UInt8} {v : Vector UInt8 n} :
    readArray n s = (.ok v, s') ↔ s = v.toList ++ s' := by
  unfold readArray
  split
  · rename_i h
    constructor
    · intro hx
      obtain ⟨hv, rfl⟩ := Prod.mk.inj hx
      rw [← Outcome.ok.inj hv]
      exact (List.take_append_drop n s).symm
    · rintro rfl
      have hlen : v.toList.length = n := v.length_toList
      refine Prod.ext (congrArg Outcome.ok ?_) (List.drop_left' hlen)
      apply Vector.toList_inj.mp
      exact List.take_left' hlen
  · rename_i h
    constructor
    · intro hx
      cases (Prod.mk.inj hx).1
    · rintro rfl
      simp at h

/-- `read_exact` into an array: it runs out, or takes the array's bytes. -/
theorem readArray_cases (n : Nat) (s : List UInt8) :
    (s.length < n ∧ readArray n s = (.err .unexpectedEof, [])) ∨
      ∃ (v : Vector UInt8 n) (s' : List UInt8), s = v.toList ++ s' ∧
        readArray n s = (.ok v, s') := by
  by_cases h : n ≤ s.length
  · right
    let v : Vector UInt8 n := ⟨(s.take n).toArray, List.length_take_of_le h⟩
    have hs : s = v.toList ++ s.drop n := (List.take_append_drop n s).symm
    exact ⟨v, s.drop n, hs, readArray_ok_iff.mpr hs⟩
  · left
    exact ⟨Nat.lt_of_not_le h, dif_neg h⟩

/-- `write_all` on a growable buffer. -/
def writeAll (buf : List UInt8) : Act (List UInt8) IoError Unit := Act.modify (· ++ buf)

/-! ## Parsers that consume a given string -/

/-- On `bs` followed by anything, `p` returns `a` and leaves what followed. -/
def Consumes {ε α : Type} (p : Act (List UInt8) ε α) (bs : List UInt8) (a : α) : Prop :=
  ∀ rest, p (bs ++ rest) = (.ok a, rest)

section Consumes
variable {ε ε' α β : Type} {p : Act (List UInt8) ε α} {a : α} {b : β} {bs cs : List UInt8}

theorem consumes_readExact {n : Nat} (h : bs.length = n) : Consumes (readExact n) bs bs :=
  fun _ => readExact_ok_iff.mpr ⟨rfl, h⟩

theorem consumes_readArray {n : Nat} (v : Vector UInt8 n) :
    Consumes (readArray n) v.toList v := fun _ => readArray_ok_iff.mpr rfl

theorem consumes_pure (a : α) : Consumes (pure a : Act (List UInt8) ε α) [] a := fun _ => rfl

theorem Consumes.bind {f : α → Act (List UInt8) ε β} (hp : Consumes p bs a)
    (hf : Consumes (f a) cs b) : Consumes (p >>= f) (bs ++ cs) b := by
  intro rest
  rw [List.append_assoc, Act.bind_of_ok (hp (cs ++ rest))]
  exact hf rest

theorem Consumes.bind_pure (hp : Consumes p bs a) (f : α → β) :
    Consumes (p >>= fun a => pure (f a)) bs (f a) := by
  have h := Consumes.bind (f := fun a => pure (f a)) hp (consumes_pure (f a))
  rwa [List.append_nil] at h

theorem Consumes.mapErr (hp : Consumes p bs a) (f : ε → ε') :
    Consumes (Act.mapErr f p) bs a := by
  intro rest
  rw [Act.mapErr_ok_iff]
  exact hp rest

theorem consumes_lift {x : Outcome ε α} (h : x = .ok a) :
    Consumes (Act.lift x : Act (List UInt8) ε α) [] a := by
  intro rest
  rw [h]
  rfl

theorem Consumes.result (hp : Consumes p bs a) :
    Consumes (Act.result p : Act (List UInt8) ε' (Except ε α)) bs (.ok a) :=
  fun rest => Act.result_of_ok (hp rest)

end Consumes

/-! ## Parsers that see where their input was cut -/

/-- If `p` returns on `s`, what it consumed decides the result: whatever follows, the result is
the same, and on less than that `p` fails. -/
def SteadyAt {ε α : Type} (p : Act (List UInt8) ε α) (s : List UInt8) : Prop :=
  ∀ {a s'}, p s = (.ok a, s') → ∃ used, s = used ++ s' ∧ Consumes p used a ∧
    ∀ q, q <+: used → q ≠ used → ∃ e, (p q).1 = .err e

def Steady {ε α : Type} (p : Act (List UInt8) ε α) : Prop := ∀ s, SteadyAt p s

section Steady
variable {ε ε' α β : Type} {p : Act (List UInt8) ε α}

theorem steady_readExact (n : Nat) : Steady (readExact n) := by
  intro s bs s' h
  obtain ⟨hs, hlen⟩ := readExact_ok_iff.mp h
  refine ⟨bs, hs, consumes_readExact hlen, ?_⟩
  intro q hq hne
  have hlt : q.length < bs.length :=
    Nat.lt_of_le_of_ne hq.length_le fun heq => hne (hq.eq_of_length heq)
  rcases readExact_cases n q with ⟨-, hread⟩ | ⟨bs', q', rfl, hlen', -⟩
  · exact ⟨_, congrArg Prod.fst hread⟩
  · rw [List.length_append] at hlt
    omega

theorem steady_readArray (n : Nat) : Steady (readArray n) := by
  intro s v s' h
  refine ⟨v.toList, readArray_ok_iff.mp h, consumes_readArray v, ?_⟩
  intro q hq hne
  have hlt : q.length < v.toList.length :=
    Nat.lt_of_le_of_ne hq.length_le fun heq => hne (hq.eq_of_length heq)
  rcases readArray_cases n q with ⟨-, hread⟩ | ⟨v', q', rfl, -⟩
  · exact ⟨_, congrArg Prod.fst hread⟩
  · rw [List.length_append, Vector.length_toList, Vector.length_toList] at hlt
    omega

theorem steady_pure (a : α) : Steady (pure a : Act (List UInt8) ε α) := by
  intro s a' s' h
  obtain ⟨ha, rfl⟩ := Prod.mk.inj h
  obtain rfl := Outcome.ok.inj ha
  refine ⟨[], rfl, consumes_pure a, ?_⟩
  intro q hq hne
  exact absurd (List.prefix_nil.mp hq) hne

theorem steady_fail (e : ε) : Steady (Act.fail e : Act (List UInt8) ε α) := by
  intro s a s' h
  cases (Prod.mk.inj h).1

theorem steady_lift (x : Outcome ε α) : Steady (Act.lift x : Act (List UInt8) ε α) := by
  cases x with
  | ok a => exact steady_pure a
  | err e => exact steady_fail e
  | panic msg =>
      intro s a s' h
      cases (Prod.mk.inj h).1

theorem SteadyAt.bind {f : α → Act (List UInt8) ε β} {s : List UInt8} (hp : SteadyAt p s)
    (hf : ∀ a s', p s = (.ok a, s') → SteadyAt (f a) s') : SteadyAt (p >>= f) s := by
  intro b s'' h
  obtain ⟨a, s', hfirst, hsecond⟩ := Act.bind_ok_iff.mp h
  obtain ⟨used, hs, hconsumes, hcut⟩ := hp hfirst
  obtain ⟨used', hs', hconsumes', hcut'⟩ := hf a s' hfirst hsecond
  refine ⟨used ++ used', by rw [hs, hs', List.append_assoc], hconsumes.bind hconsumes', ?_⟩
  intro q hq hne
  by_cases hlen : used.length ≤ q.length
  · -- the cut is behind what the first half consumed
    obtain ⟨q', rfl⟩ := List.prefix_of_prefix_length_le (List.prefix_append used used') hq hlen
    have hq' : q' <+: used' := (List.prefix_append_right_inj used).mp hq
    obtain ⟨e, he⟩ := hcut' q' hq' fun heq => hne (heq ▸ rfl)
    refine ⟨e, ?_⟩
    rw [Act.bind_of_ok (hconsumes q')]
    exact he
  · have hprefix : q <+: used := List.prefix_of_prefix_length_le hq
      (List.prefix_append used used') (Nat.le_of_not_le hlen)
    obtain ⟨e, he⟩ := hcut q hprefix fun heq => hlen (heq ▸ Nat.le_refl _)
    rcases hpq : p q with ⟨x, q'⟩
    rw [hpq] at he
    obtain rfl : x = .err e := he
    exact ⟨e, congrArg Prod.fst (Act.bind_of_err hpq)⟩

theorem Steady.bind {f : α → Act (List UInt8) ε β} (hp : Steady p) (hf : ∀ a, Steady (f a)) :
    Steady (p >>= f) :=
  fun s => SteadyAt.bind (hp s) fun a s' _ => hf a s'

theorem Steady.mapErr (hp : Steady p) (f : ε → ε') : Steady (Act.mapErr f p) := by
  intro s a s' h
  obtain ⟨used, hs, hconsumes, hcut⟩ := hp s (Act.mapErr_ok_iff.mp h)
  refine ⟨used, hs, hconsumes.mapErr f, ?_⟩
  intro q hq hne
  obtain ⟨e, he⟩ := hcut q hq hne
  refine ⟨f e, ?_⟩
  rw [Act.mapErr_apply, he]
  rfl

end Steady

/-! ## Writers that add a given string -/

/-- After anything, `p` succeeds and adds `bs`. -/
def Emits {ε : Type} (p : Act (List UInt8) ε Unit) (bs : List UInt8) : Prop :=
  ∀ buf, p buf = (.ok (), buf ++ bs)

section Emits
variable {ε α : Type} {p q : Act (List UInt8) ε Unit} {bs cs : List UInt8}

theorem emits_writeAll (bs : List UInt8) : Emits (writeAll bs) bs := fun _ => rfl

theorem emits_pure : Emits (pure () : Act (List UInt8) ε Unit) [] := by
  intro buf
  rw [List.append_nil]
  rfl

theorem Emits.bind (hp : Emits p bs) (hq : Emits q cs) :
    Emits (p >>= fun _ => q) (bs ++ cs) := by
  intro buf
  rw [Act.bind_of_ok (hp buf), hq (buf ++ bs), List.append_assoc]

theorem emits_lift_bind {x : Outcome ε α} {a : α} {f : α → Act (List UInt8) ε Unit}
    (h : x = .ok a) (hf : Emits (f a) bs) : Emits (Act.lift x >>= f) bs := by
  rw [h]
  exact hf

theorem emits_forM {write : α → Act (List UInt8) ε Unit} {image : α → List UInt8} {xs : List α}
    (h : ∀ x ∈ xs, Emits (write x) (image x)) : Emits (xs.forM write) (xs.flatMap image) := by
  induction xs with
  | nil => exact emits_pure
  | cons x xs ih =>
      rw [List.flatMap_cons]
      exact Emits.bind (h x List.mem_cons_self) (ih fun y hy => h y (List.mem_cons_of_mem x hy))

end Emits

end Lib
