/-
# `Rs1722.Avtp.ClockLock` — the loop under a constant drift

The source runs at a constant ratio `rho` of local time, and never steps.  The learned
frequency then closes in on `rho` by a factor of 9/10 with every gap of more than a
millisecond, starting from 1:

    frequency - rho = (9/10)^n * (1 - rho)           (`Learned`, `learned_afterResync`)

so it stays between 1 and `rho` and the clamp has nothing to do (`nextFrequency_learned`).

What is left over is a phase error of the gap times that difference, and the jump test
compares it to an absolute millisecond.  With gaps of at most a second it can never be
reached (`pll_locks`).  With gaps of any length it can be, and `idle_no_jump_iff` says
exactly when it is not.
-/
import Rs1722.Avtp.ClockTracking
import Mathlib.Tactic.LinearCombination

namespace Rs1722

open Lib

namespace PtpSynchronizedClock

/-! ## One resync -/

/-- The frequency is `rho` up to the share `a` of the initial error. -/
def Learned (rho a : ℚ) (c : PtpSynchronizedClock .exact) : Prop :=
  c.frequency - rho = a * (1 - rho)

/-- What is left of the share `a` after a gap of `g` nanoseconds. -/
def shareAfter (a g : ℚ) : ℚ := if 1000000 < g then 9 / 10 * a else a

theorem shareAfter_mem {a g : ℚ} (ha : a ∈ Set.Icc (0 : ℚ) 1) : shareAfter a g ∈ Set.Icc (0 : ℚ) 1 := by
  unfold shareAfter
  obtain ⟨h0, h1⟩ := ha
  split
  · constructor <;> linarith
  · exact ⟨h0, h1⟩

/-- Under a drift of `rho` the measurement is `rho`, the filtered value lies between it and 1,
and the clamp leaves it alone. -/
theorem nextFrequency_learned {rho a f g : ℚ} (hrho : rho ∈ Set.Icc (999 / 1000 : ℚ) (1001 / 1000))
    (ha : a ∈ Set.Icc (0 : ℚ) 1) (hf : f - rho = a * (1 - rho)) (hg : 1000000 < g) :
    (nextFrequency .exact f g (rho * g) : ℚ) = filteredFrequency .exact f g (rho * g) ∧
      (filteredFrequency .exact f g (rho * g) : ℚ) - rho = 9 / 10 * a * (1 - rho) := by
  have hg0 : g ≠ 0 := by linarith
  have hmeasured : rho * g / g = rho := mul_div_cancel_right₀ rho hg0
  have hclose : ema (1 / 10) f rho - rho = 9 / 10 * a * (1 - rho) := by
    rw [ema_sub, hf]
    ring
  have hbetween : ema (1 / 10) f rho = ema (9 / 10 * a) rho 1 := by
    have h : ema (9 / 10 * a) rho 1 - rho = 9 / 10 * a * (1 - rho) := by
      unfold ema
      ring
    linarith
  have hmem : ema (1 / 10) f rho ∈ Set.Icc (999 / 1000 : ℚ) (1001 / 1000) := by
    rw [hbetween]
    obtain ⟨h0, h1⟩ := ha
    exact ema_mem (by linarith) (by linarith) hrho (by constructor <;> norm_num)
  rw [nextFrequency_exact, filteredFrequency_exact, hmeasured, if_pos hg]
  exact ⟨clamp_of_mem hmem, hclose⟩

section Step
variable {rho a : ℚ} {c : PtpSynchronizedClock .exact} {now : Instant} {p : PtpTime}

def gap (c : PtpSynchronizedClock .exact) (now : Instant) : ℚ :=
  (now.durationSince c.lastPtpInstant).nanos

/-- The reading is `rho` times the gap past the reference reading. -/
def Advances (rho : ℚ) (c : PtpSynchronizedClock .exact) (now : Instant) (p : PtpTime) : Prop :=
  (p.asNanos - c.lastPtpTime.asNanos : ℚ) = rho * c.gap now

def resyncFrequency (c : PtpSynchronizedClock .exact) (now : Instant) (p : PtpTime) : ℚ :=
  nextFrequency .exact c.frequency (c.gap now) (p.asNanos - c.lastPtpTime.asNanos)

theorem largeJump_eq : c.largeJump now p = decide (1000000 <
    |(p.asNanos - c.lastPtpTime.asNanos : ℚ) - c.gap now * c.resyncFrequency now p|) := by
  have hdiff : ((p.asNanos - c.lastPtpTime.asNanos : Int) : ℚ) =
      (p.asNanos : ℚ) - c.lastPtpTime.asNanos := Int.cast_sub _ _
  have hgap : (((now.durationSince c.lastPtpInstant).nanos : Int) : ℚ) = c.gap now :=
    Int.cast_natCast _
  unfold resyncFrequency
  rw [← hdiff, ← hgap]
  rfl

theorem afterResync_frequency (hjump : c.largeJump now p = false) :
    (c.afterResync now p).frequency = c.resyncFrequency now p := by
  have hdiff : ((p.asNanos - c.lastPtpTime.asNanos : Int) : ℚ) =
      (p.asNanos : ℚ) - c.lastPtpTime.asNanos := Int.cast_sub _ _
  have hgap : (((now.durationSince c.lastPtpInstant).nanos : Int) : ℚ) = c.gap now :=
    Int.cast_natCast _
  unfold resyncFrequency afterResync
  dsimp only
  rw [hjump, ← hdiff, ← hgap]
  rfl

theorem resyncFrequency_learned (hrho : rho ∈ Set.Icc (999 / 1000 : ℚ) (1001 / 1000))
    (ha : a ∈ Set.Icc (0 : ℚ) 1) (hc : c.Learned rho a) (hp : c.Advances rho now p) :
    c.resyncFrequency now p - rho = shareAfter a (c.gap now) * (1 - rho) := by
  unfold resyncFrequency shareAfter
  rw [hp]
  split
  · rename_i hg
    obtain ⟨hnext, hfiltered⟩ := nextFrequency_learned hrho ha hc hg
    rw [hnext, hfiltered]
  · rename_i hg
    rw [nextFrequency_exact, if_neg hg]
    exact hc

theorem largeJump_iff (hrho : rho ∈ Set.Icc (999 / 1000 : ℚ) (1001 / 1000))
    (ha : a ∈ Set.Icc (0 : ℚ) 1) (hc : c.Learned rho a) (hp : c.Advances rho now p) :
    c.largeJump now p = true ↔ 1000000 < shareAfter a (c.gap now) * c.gap now * |1 - rho| := by
  have hfreq := resyncFrequency_learned hrho ha hc hp
  have hgap : 0 ≤ c.gap now := Nat.cast_nonneg _
  have hshare := (shareAfter_mem ha (g := c.gap now)).1
  have herr : (p.asNanos - c.lastPtpTime.asNanos : ℚ) - c.gap now * c.resyncFrequency now p =
      -(shareAfter a (c.gap now) * c.gap now * (1 - rho)) := by
    rw [hp]
    linear_combination (-c.gap now) * hfreq
  rw [largeJump_eq, herr, abs_neg, abs_mul, abs_of_nonneg (mul_nonneg hshare hgap), decide_eq_true_iff]

/-- Without a jump, a resync leaves the share that is left. -/
theorem learned_afterResync (hrho : rho ∈ Set.Icc (999 / 1000 : ℚ) (1001 / 1000))
    (ha : a ∈ Set.Icc (0 : ℚ) 1) (hc : c.Learned rho a) (hp : c.Advances rho now p)
    (hjump : c.largeJump now p = false) :
    (c.afterResync now p).Learned rho (shareAfter a (c.gap now)) := by
  unfold Learned
  rw [afterResync_frequency hjump]
  exact resyncFrequency_learned hrho ha hc hp

end Step

theorem not_largeJump_of_short {rho a : ℚ} {c : PtpSynchronizedClock .exact} {now : Instant}
    {p : PtpTime} (hrho : rho ∈ Set.Icc (999 / 1000 : ℚ) (1001 / 1000))
    (ha : a ∈ Set.Icc (0 : ℚ) 1) (hc : c.Learned rho a) (hp : c.Advances rho now p)
    (hgap : c.gap now ≤ 1000000000) : c.largeJump now p = false := by
  rw [← Bool.not_eq_true, largeJump_iff hrho ha hc hp, not_lt]
  have hshare := shareAfter_mem ha (g := c.gap now)
  have hgap0 : 0 ≤ c.gap now := Nat.cast_nonneg _
  have hrest : |1 - rho| ≤ 1 / 1000 := by
    rw [abs_le]
    obtain ⟨h1, h2⟩ := hrho
    constructor <;> linarith
  calc shareAfter a (c.gap now) * c.gap now * |1 - rho|
      ≤ 1 * 1000000000 * (1 / 1000) := by
        have h1 : shareAfter a (c.gap now) * c.gap now ≤ 1 * 1000000000 :=
          mul_le_mul hshare.2 hgap hgap0 zero_le_one
        exact mul_le_mul h1 hrest (abs_nonneg _) (by norm_num)
    _ = 1000000 := by norm_num

/-! ## Resyncs alone -/

def resyncAt (r : Instant × PtpTime) (c : PtpSynchronizedClock .exact) :
    Outcome ClockError Unit × PtpSynchronizedClock .exact := resyncPtp r.1 (.ok r.2) c

/-- Each resync follows the one before by more than a millisecond and at most a second, with the
reading advanced by `rho` times that. -/
def Drifts (rho : ℚ) : Instant → PtpTime → List (Instant × PtpTime) → Prop
  | _, _, [] => True
  | t, p, (t', p') :: rest =>
      t.nanos + 1000000 < t'.nanos ∧ t'.nanos ≤ t.nanos + 1000000000 ∧
      (p'.asNanos - p.asNanos : ℚ) = rho * (t'.nanos - t.nanos) ∧ Drifts rho t' p' rest

def ClampIdle (c : PtpSynchronizedClock .exact) (r : Instant × PtpTime) : Prop :=
  c.resyncFrequency r.1 r.2 =
    filteredFrequency .exact c.frequency (c.gap r.1) (r.2.asNanos - c.lastPtpTime.asNanos)

theorem run_resyncAt_drifts {rho : ℚ} (hrho : rho ∈ Set.Icc (999 / 1000 : ℚ) (1001 / 1000))
    (resyncs : List (Instant × PtpTime)) : ∀ (a : ℚ) (c : PtpSynchronizedClock .exact),
    a ∈ Set.Icc (0 : ℚ) 1 → c.Learned rho a → Drifts rho c.lastPtpInstant c.lastPtpTime resyncs →
    (∀ before r after, resyncs = before ++ r :: after →
      (run resyncAt before c).2.largeJump r.1 r.2 = false ∧ (run resyncAt before c).2.ClampIdle r) ∧
    (run resyncAt resyncs c).2.Learned rho ((9 / 10) ^ resyncs.length * a) := by
  induction resyncs with
  | nil =>
      intro a c _ hc _
      refine ⟨fun before r after h => ?_, ?_⟩
      · cases before <;> cases h
      · rw [List.length_nil, pow_zero, one_mul]
        exact hc
  | cons r rest ih =>
      intro a c ha hc hdrifts
      obtain ⟨hmore, hless, hadv, hrest⟩ := hdrifts
      have hgap : c.gap r.1 = (r.1.nanos : ℚ) - c.lastPtpInstant.nanos := by
        unfold gap
        rw [Instant.durationSince_nanos, Nat.cast_sub (by omega)]
      have hmore' : (c.lastPtpInstant.nanos : ℚ) + 1000000 < r.1.nanos := by exact_mod_cast hmore
      have hless' : (r.1.nanos : ℚ) ≤ c.lastPtpInstant.nanos + 1000000000 := by exact_mod_cast hless
      have hp : c.Advances rho r.1 r.2 := by
        unfold Advances
        rw [hgap]
        exact hadv
      have hlong : 1000000 < c.gap r.1 := by
        rw [hgap]
        linarith
      have hjump : c.largeJump r.1 r.2 = false :=
        not_largeJump_of_short hrho ha hc hp (by rw [hgap]; linarith)
      have hstep : resyncAt r c = (.ok (), c.afterResync r.1 r.2) := resyncPtp_ok c r.1 r.2
      have hlearned : (c.afterResync r.1 r.2).Learned rho (9 / 10 * a) := by
        have h := learned_afterResync hrho ha hc hp hjump
        rwa [shareAfter, if_pos hlong] at h
      obtain ⟨hpast, hnext⟩ := afterResync_reference c r.1 r.2
      have ih := ih (9 / 10 * a) (c.afterResync r.1 r.2)
        (by obtain ⟨h0, h1⟩ := ha; constructor <;> linarith) hlearned
        (by rw [hpast, hnext]; exact hrest)
      constructor
      · intro before r' after h
        cases before with
        | nil =>
            obtain ⟨rfl, -⟩ := List.cons.inj h
            refine ⟨hjump, ?_⟩
            have h := (nextFrequency_learned hrho ha hc hlong).1
            rw [← hp] at h
            exact h
        | cons b before =>
            obtain ⟨rfl, hafter⟩ := List.cons.inj h
            rw [run_cons, hstep]
            exact ih.1 before r' after hafter
      · rw [run_cons, hstep, List.length_cons]
        have hpow : (9 / 10 : ℚ) ^ (rest.length + 1) * a = (9 / 10) ^ rest.length * (9 / 10 * a) := by
          ring
        rw [hpow]
        exact ih.2

theorem learned_fresh {reading : Outcome PtpError PtpTime} {start : Instant} {interval : Duration}
    {c : PtpSynchronizedClock .exact}
    (hc : withResyncInterval .exact reading start interval = .ok c) (rho : ℚ) : c.Learned rho 1 := by
  rw [(withResyncInterval_eq_ok hc).2]
  show (1 : ℚ) - rho = 1 * (1 - rho)
  ring

/-- The loop locks onto a constant drift: over any number of resyncs with gaps in (1 ms, 1 s],
no jump is detected, the clamp changes nothing, and after `n` of them the error of the
frequency is `0.9^n` of the initial one. -/
theorem pll_locks (rho : ℚ) (hrho : rho ∈ Set.Icc (999 / 1000 : ℚ) (1001 / 1000))
    (reading : Outcome PtpError PtpTime) (start : Instant) (interval : Duration)
    (c : PtpSynchronizedClock .exact)
    (hc : withResyncInterval .exact reading start interval = .ok c)
    (resyncs : List (Instant × PtpTime)) (hdrifts : Drifts rho start c.initialPtpTime resyncs) :
    (∀ before r after, resyncs = before ++ r :: after →
      (run resyncAt before c).2.largeJump r.1 r.2 = false ∧ (run resyncAt before c).2.ClampIdle r) ∧
    |(run resyncAt resyncs c).2.frequency - rho| = (9 / 10) ^ resyncs.length * |1 - rho| := by
  have hstart : c.lastPtpInstant = start ∧ c.lastPtpTime = c.initialPtpTime := by
    rw [(withResyncInterval_eq_ok hc).2]
    exact ⟨rfl, rfl⟩
  obtain ⟨hnone, hlearned⟩ := run_resyncAt_drifts hrho resyncs 1 c (by constructor <;> norm_num)
    (learned_fresh hc rho) (by rw [hstart.1, hstart.2]; exact hdrifts)
  refine ⟨hnone, ?_⟩
  rw [Learned, mul_one] at hlearned
  rw [hlearned, abs_mul, abs_of_nonneg (by positivity)]

theorem pll_locks_fast :
    let start : Instant := ⟨0, by decide⟩
    let initial : PtpTime := ⟨1000, 0, by decide, by decide⟩
    let resyncs : List (Instant × PtpTime) :=
      [(⟨100000000, by decide⟩, ⟨1000, 100100000, by decide, by decide⟩),
        (⟨600000000, by decide⟩, ⟨1000, 600600000, by decide, by decide⟩)]
    ∃ c, withResyncInterval .exact (.ok initial) start (.fromMillis 100) = .ok c ∧
      |(run resyncAt resyncs c).2.frequency - 1001 / 1000| =
        (9 / 10) ^ resyncs.length * |1 - 1001 / 1000| := by
  intro start initial resyncs
  have hdrifts : Drifts (1001 / 1000) start initial resyncs := by
    refine ⟨by decide, by decide, ?_, by decide, by decide, ?_, trivial⟩ <;>
      norm_num [PtpTime.asNanos_eq, nsPerSec, initial, start]
  exact ⟨_, rfl, (pll_locks (1001 / 1000) (by constructor <;> norm_num) (.ok initial) start
    (.fromMillis 100) _ rfl resyncs hdrifts).2⟩

/-! ## An idle caller -/

/-- Local time does not go back, and every reading that succeeds is `rho` times the local time
since the start past the initial one. -/
def AdvancesAt (rho : ℚ) (start : Instant) (initial : PtpTime) (calls : List ClockCall) : Prop :=
  (start.nanos :: calls.map fun k => k.now.nanos).Pairwise (· ≤ ·) ∧
    ∀ k ∈ calls, ∀ p, k.reading = .ok p →
      (p.asNanos - initial.asNanos : ℚ) = rho * (k.now.nanos - start.nanos)

/-- No resync of the run takes the large-jump branch. -/
def NoLargeJump (calls : List ClockCall) (c : PtpSynchronizedClock .exact) : Prop :=
  ∀ before k after, calls = before ++ k :: after →
    ∀ p, taken k (run observe before c).2 = some p → (run observe before c).2.largeJump k.now p = false

/-- The gaps between the resyncs of a run, read off the instants of its calls and off which of
its readings succeed. -/
def resyncGaps (interval : Duration) : Instant → List ClockCall → List Nat
  | _, [] => []
  | t, k :: ks =>
      if k.entry ≠ .elapsedNoResync ∧ interval ≤ k.now.durationSince t ∧
          k.reading.toOption.isSome then
        (k.now.durationSince t).nanos :: resyncGaps interval k.now ks
      else resyncGaps interval t ks

def longGaps (gaps : List Nat) : List Nat := gaps.filter fun g => 1000000 < g

/-- The `i`-th long gap is short enough for what the loop has learned by then, `m` long gaps
having come before. -/
def GapsBearable (rho : ℚ) (m : Nat) (gaps : List Nat) : Prop :=
  ∀ i g : Nat, (longGaps gaps)[i]? = some g → (9 / 10 : ℚ) ^ (m + i + 1) * g * |1 - rho| ≤ 1000000

theorem gapsBearable_short {rho : ℚ} {m g : Nat} {gaps : List Nat} (hg : ¬ 1000000 < g) :
    GapsBearable rho m (g :: gaps) ↔ GapsBearable rho m gaps := by
  unfold GapsBearable longGaps
  rw [List.filter_cons_of_neg (by simpa using hg)]

theorem gapsBearable_long {rho : ℚ} {m g : Nat} {gaps : List Nat} (hg : 1000000 < g) :
    GapsBearable rho m (g :: gaps) ↔
      (9 / 10 : ℚ) ^ (m + 1) * g * |1 - rho| ≤ 1000000 ∧ GapsBearable rho (m + 1) gaps := by
  unfold GapsBearable longGaps
  rw [List.filter_cons_of_pos (by simpa using hg)]
  constructor
  · intro h
    refine ⟨h 0 g rfl, fun i g' hi => ?_⟩
    have h' := h (i + 1) g' hi
    rwa [show m + (i + 1) + 1 = m + 1 + i + 1 by omega] at h'
  · rintro ⟨hhead, htail⟩ i g' hi
    cases i with
    | zero =>
        obtain rfl := Option.some.inj hi
        exact hhead
    | succ i =>
        have h' := htail i g' hi
        rwa [show m + 1 + i + 1 = m + (i + 1) + 1 by omega] at h'

theorem noLargeJump_cons {k : ClockCall} {ks : List ClockCall} {c : PtpSynchronizedClock .exact} :
    NoLargeJump (k :: ks) c ↔
      (∀ p, taken k c = some p → c.largeJump k.now p = false) ∧
        NoLargeJump ks (observe k c).2 := by
  constructor
  · intro h
    exact ⟨h [] k ks rfl, fun before k' after hks => h (k :: before) k' after (by rw [hks]; rfl)⟩
  · rintro ⟨hhead, htail⟩ before k' after hks
    cases before with
    | nil =>
        obtain ⟨rfl, -⟩ := List.cons.inj hks
        exact hhead
    | cons b before =>
        obtain ⟨rfl, hafter⟩ := List.cons.inj hks
        exact htail before k' after hafter

theorem resyncGaps_of_taken {interval : Duration} {k : ClockCall} {ks : List ClockCall} {p : PtpTime}
    {c : PtpSynchronizedClock .exact} (hinterval : c.resyncInterval = interval)
    (h : taken k c = some p) :
    resyncGaps interval c.lastPtpInstant (k :: ks) =
      (k.now.durationSince c.lastPtpInstant).nanos :: resyncGaps interval k.now ks := by
  subst hinterval
  unfold taken at h
  split at h
  · rename_i hreads
    rw [resyncGaps, if_pos ⟨hreads.1, hreads.2, by rw [h]; rfl⟩]
  · cases h

theorem reading_of_taken {k : ClockCall} {p : PtpTime} {c : PtpSynchronizedClock .exact}
    (h : taken k c = some p) : k.reading = .ok p := by
  unfold taken at h
  split at h
  · cases hread : k.reading with
    | ok q =>
        rw [hread] at h
        rw [Option.some.inj h]
    | error e =>
        rw [hread] at h
        cases h
  · cases h

theorem resyncGaps_of_not_taken {interval : Duration} {k : ClockCall} {ks : List ClockCall}
    {c : PtpSynchronizedClock .exact} (hinterval : c.resyncInterval = interval)
    (h : taken k c = none) :
    resyncGaps interval c.lastPtpInstant (k :: ks) = resyncGaps interval c.lastPtpInstant ks := by
  subst hinterval
  rw [resyncGaps, if_neg]
  rintro ⟨hentry, hdue, hsome⟩
  rw [taken, if_pos ⟨hentry, hdue⟩] at h
  rw [h] at hsome
  cases hsome

/-- A state on a timeline that runs at `rho` from `initial` at `start`, after `m` long gaps. -/
structure Follows (rho : ℚ) (start : Instant) (initial : PtpTime) (m : Nat)
    (c : PtpSynchronizedClock .exact) : Prop where
  learned : c.Learned rho ((9 / 10) ^ m)
  reference : (c.lastPtpTime.asNanos - initial.asNanos : ℚ) =
    rho * (c.lastPtpInstant.nanos - start.nanos)

theorem share_mem (m : Nat) : ((9 / 10) ^ m : ℚ) ∈ Set.Icc (0 : ℚ) 1 :=
  ⟨by positivity, pow_le_one₀ (by norm_num) (by norm_num)⟩

section Follows
variable {rho : ℚ} {start : Instant} {initial : PtpTime} {m : Nat} {c : PtpSynchronizedClock .exact}
  {now : Instant} {p : PtpTime}

/-- A reading on the timeline is `rho` times the gap past the reference. -/
theorem Follows.advances (h : c.Follows rho start initial m)
    (hnow : c.lastPtpInstant.nanos ≤ now.nanos)
    (hp : (p.asNanos - initial.asNanos : ℚ) = rho * (now.nanos - start.nanos)) :
    c.Advances rho now p := by
  have hgap : c.gap now = (now.nanos : ℚ) - c.lastPtpInstant.nanos := by
    unfold gap
    rw [Instant.durationSince_nanos, Nat.cast_sub hnow]
  unfold Advances
  rw [hgap]
  linear_combination hp - h.reference

theorem shareAfter_pow (m : Nat) (c : PtpSynchronizedClock .exact) (now : Instant) :
    shareAfter ((9 / 10) ^ m) (c.gap now) =
      (9 / 10) ^ (if 1000000 < (now.durationSince c.lastPtpInstant).nanos then m + 1 else m) := by
  unfold shareAfter gap
  by_cases hlong : 1000000 < (now.durationSince c.lastPtpInstant).nanos
  · rw [if_pos hlong, if_pos (by exact_mod_cast hlong), pow_succ']
  · rw [if_neg hlong, if_neg (by exact_mod_cast hlong)]

/-- A resync after a long gap takes it for a step exactly when the gap is not bearable. -/
theorem Follows.largeJump_of_long (hrho : rho ∈ Set.Icc (999 / 1000 : ℚ) (1001 / 1000))
    (h : c.Follows rho start initial m) (hadv : c.Advances rho now p)
    (hlong : 1000000 < (now.durationSince c.lastPtpInstant).nanos) :
    c.largeJump now p = false ↔
      (9 / 10 : ℚ) ^ (m + 1) * (now.durationSince c.lastPtpInstant).nanos * |1 - rho| ≤
        1000000 := by
  rw [← Bool.not_eq_true, largeJump_iff hrho (share_mem m) h.learned hadv, shareAfter_pow,
    if_pos hlong, not_lt]
  rfl

theorem Follows.not_largeJump (hrho : rho ∈ Set.Icc (999 / 1000 : ℚ) (1001 / 1000))
    (h : c.Follows rho start initial m) (hadv : c.Advances rho now p)
    (hshort : ¬ 1000000 < (now.durationSince c.lastPtpInstant).nanos) :
    c.largeJump now p = false := by
  refine not_largeJump_of_short hrho (share_mem m) h.learned hadv ?_
  have hle : c.gap now ≤ 1000000 := by
    unfold gap
    exact_mod_cast Nat.not_lt.mp hshort
  linarith

/-- Without a jump the state goes on along the timeline. -/
theorem Follows.afterResync (hrho : rho ∈ Set.Icc (999 / 1000 : ℚ) (1001 / 1000))
    (h : c.Follows rho start initial m) (hadv : c.Advances rho now p)
    (hp : (p.asNanos - initial.asNanos : ℚ) = rho * (now.nanos - start.nanos))
    (hno : c.largeJump now p = false) : (c.afterResync now p).Follows rho start initial
      (if 1000000 < (now.durationSince c.lastPtpInstant).nanos then m + 1 else m) := by
  have hlearned := learned_afterResync hrho (share_mem m) h.learned hadv hno
  rw [shareAfter_pow] at hlearned
  obtain ⟨hlast, hinstant⟩ := afterResync_reference c now p
  refine ⟨hlearned, ?_⟩
  rw [hlast, hinstant]
  exact hp

end Follows

/-- From a state that has learned `m` long gaps, a run avoids the jump branch exactly when its
gaps are bearable. -/
theorem noLargeJump_iff {rho : ℚ} (hrho : rho ∈ Set.Icc (999 / 1000 : ℚ) (1001 / 1000))
    {start : Instant} {initial : PtpTime} {interval : Duration} (calls : List ClockCall) :
    ∀ (m : Nat) (c : PtpSynchronizedClock .exact), c.Follows rho start initial m →
      c.resyncInterval = interval →
      (c.lastPtpInstant.nanos :: calls.map fun k => k.now.nanos).Pairwise (· ≤ ·) →
      (∀ k ∈ calls, ∀ p, k.reading = .ok p →
        (p.asNanos - initial.asNanos : ℚ) = rho * (k.now.nanos - start.nanos)) →
      (NoLargeJump calls c ↔ GapsBearable rho m (resyncGaps interval c.lastPtpInstant calls)) := by
  induction calls with
  | nil =>
      intro m c _ _ _ _
      constructor
      · intro _ i g hi
        cases hi
      · intro _ before k after h
        cases before <;> cases h
  | cons k ks ih =>
      intro m c hfollows hinterval hmono hreadings
      have hrest : ∀ k' ∈ ks, ∀ p, k'.reading = .ok p →
          (p.asNanos - initial.asNanos : ℚ) = rho * (k'.now.nanos - start.nanos) :=
        fun k' hk' => hreadings k' (List.mem_cons_of_mem k hk')
      have hinterval' : (observe k c).2.resyncInterval = interval :=
        (observe_frame k c).2.trans hinterval
      rw [noLargeJump_cons]
      cases htaken : taken k c with
      | none =>
          -- a call that takes no reading moves nothing the loop depends on
          obtain ⟨d, hstate⟩ := observe_of_not_taken htaken
          have hks := ih m (observe k c).2
          rw [hstate] at hks hinterval'
          have hks := hks ⟨hfollows.learned, hfollows.reference⟩ hinterval'
            (hmono.sublist (.cons_cons _ (.cons _ (List.Sublist.refl _)))) hrest
          rw [resyncGaps_of_not_taken hinterval htaken, hstate]
          refine Iff.trans (and_iff_right ?_) hks
          intro p hp
          cases hp
      | some p =>
          obtain ⟨d, hstate⟩ := observe_of_taken htaken
          have hp := hreadings k List.mem_cons_self p (reading_of_taken htaken)
          have hadv : c.Advances rho k.now p :=
            hfollows.advances ((List.pairwise_cons.mp hmono).1 _ List.mem_cons_self) hp
          have hinstant := (afterResync_reference c k.now p).2
          have hhead : (∀ q, some p = some q → c.largeJump k.now q = false) ↔
              c.largeJump k.now p = false :=
            ⟨fun h => h p rfl, fun h q hq => Option.some.inj hq ▸ h⟩
          have hks : c.largeJump k.now p = false → (NoLargeJump ks (observe k c).2 ↔
              GapsBearable rho
                (if 1000000 < (k.now.durationSince c.lastPtpInstant).nanos then m + 1 else m)
                (resyncGaps interval k.now ks)) := by
            intro hno
            obtain ⟨hlearned, hreference⟩ := hfollows.afterResync hrho hadv hp hno
            rw [hstate] at hinterval' ⊢
            have h := ih _ { c.afterResync k.now p with lastReturned := d }
              ⟨hlearned, hreference⟩ hinterval'
              (by rw [hinstant]; exact (List.pairwise_cons.mp hmono).2) hrest
            rw [hinstant] at h
            exact h
          rw [resyncGaps_of_taken hinterval htaken, hhead]
          by_cases hlong : 1000000 < (k.now.durationSince c.lastPtpInstant).nanos
          · rw [if_pos hlong] at hks
            rw [gapsBearable_long hlong, ← hfollows.largeJump_of_long hrho hadv hlong]
            exact and_congr_right hks
          · rw [if_neg hlong] at hks
            have hno := hfollows.not_largeJump hrho hadv hlong
            rw [gapsBearable_short hlong]
            exact (and_iff_right hno).trans (hks hno)

/-- An idle caller does not look like a step exactly as long as its gaps are bearable: with `i`
gaps of more than a millisecond before it, a gap of more than a millisecond must keep
`0.9^(i+1) * gap * |1 - rho|` within a millisecond. -/
theorem idle_no_jump_iff (rho : ℚ) (hrho : rho ∈ Set.Icc (999 / 1000 : ℚ) (1001 / 1000))
    (reading : Outcome PtpError PtpTime) (start : Instant) (interval : Duration)
    (c : PtpSynchronizedClock .exact)
    (hc : withResyncInterval .exact reading start interval = .ok c) (calls : List ClockCall)
    (hcalls : AdvancesAt rho start c.initialPtpTime calls) :
    NoLargeJump calls c ↔ ∀ i g : Nat, (longGaps (resyncGaps interval start calls))[i]? = some g →
      (9 / 10 : ℚ) ^ (i + 1) * g * |1 - rho| ≤ 1000000 := by
  obtain ⟨-, hfresh⟩ := withResyncInterval_eq_ok hc
  have hinstant : c.lastPtpInstant = start := by rw [hfresh]
  have hinterval : c.resyncInterval = interval := by rw [hfresh]
  have hlast : c.lastPtpTime = c.initialPtpTime := by rw [hfresh]
  have hfollows : c.Follows rho start c.initialPtpTime 0 := by
    refine ⟨?_, ?_⟩
    · rw [pow_zero]
      exact learned_fresh hc rho
    · rw [hlast, hinstant]
      ring
  have h := noLargeJump_iff hrho calls 0 c hfollows hinterval (by rw [hinstant]; exact hcalls.1)
    hcalls.2
  rw [hinstant] at h
  rw [h]
  unfold GapsBearable
  simp only [Nat.zero_add]

/-- A caller that is idle for two seconds, on a source that runs one in a thousand fast: the
resync takes it for a step. -/
theorem idle_two_seconds_jumps :
    ¬ ∀ (rho : ℚ) (reading : Outcome PtpError PtpTime) (start : Instant) (interval : Duration)
      (c : PtpSynchronizedClock .exact) (calls : List ClockCall),
      rho ∈ Set.Icc (999 / 1000 : ℚ) (1001 / 1000) →
      withResyncInterval .exact reading start interval = .ok c →
      AdvancesAt rho start c.initialPtpTime calls → NoLargeJump calls c := by
  intro h
  let start : Instant := ⟨0, by decide⟩
  let initial : PtpTime := ⟨1000, 0, by decide, by decide⟩
  let later : PtpTime := ⟨1002, 2000000, by decide, by decide⟩
  let k : ClockCall := ⟨.elapsed, ⟨2000000000, by decide⟩, .ok later⟩
  obtain ⟨c, hc⟩ : ∃ c, withResyncInterval .exact (.ok initial) start (.fromMillis 100) = .ok c :=
    ⟨_, rfl⟩
  have hrho : (1001 / 1000 : ℚ) ∈ Set.Icc (999 / 1000 : ℚ) (1001 / 1000) := by
    constructor <;> norm_num
  obtain ⟨hinitial, hfresh⟩ := withResyncInterval_eq_ok hc
  have hinit : c.initialPtpTime = initial := (Outcome.ok.inj hinitial).symm
  rw [hinit] at hfresh
  have hcalls : AdvancesAt (1001 / 1000) start c.initialPtpTime [k] := by
    rw [hinit]
    refine ⟨by decide, ?_⟩
    intro k' hk' p hp
    obtain rfl := List.mem_singleton.mp hk'
    obtain rfl := Except.ok.inj hp
    norm_num [PtpTime.asNanos_eq, nsPerSec, initial, later, start, k]
  have hno := h (1001 / 1000) (.ok initial) start (.fromMillis 100) c [k] hrho hc hcalls [] k [] rfl
    later (by rw [hfresh]; rfl)
  have hgap : c.gap k.now = 2000000000 := by
    rw [hfresh]
    norm_num [gap, k, start]
  have hadv : c.Advances (1001 / 1000) k.now later := by
    unfold Advances
    rw [hgap, hfresh]
    norm_num [PtpTime.asNanos_eq, nsPerSec, initial, later]
  have hjump := largeJump_iff hrho (by constructor <;> norm_num) (learned_fresh hc _) hadv
  rw [run_nil, ← Bool.not_eq_true, hjump, hgap, shareAfter] at hno
  norm_num at hno

theorem idle_no_jump_steady :
    let start : Instant := ⟨0, by decide⟩
    let initial : PtpTime := ⟨1000, 0, by decide, by decide⟩
    let calls : List ClockCall :=
      [⟨.elapsed, ⟨100000000, by decide⟩, .ok ⟨1000, 100100000, by decide, by decide⟩⟩]
    ∃ c, withResyncInterval .exact (.ok initial) start (.fromMillis 100) = .ok c ∧
      (NoLargeJump calls c ↔ ∀ i g : Nat,
        (longGaps (resyncGaps (.fromMillis 100) start calls))[i]? = some g →
        (9 / 10 : ℚ) ^ (i + 1) * g * |1 - 1001 / 1000| ≤ 1000000) := by
  intro start initial calls
  have hcalls : AdvancesAt (1001 / 1000) start initial calls := by
    refine ⟨by decide, ?_⟩
    intro k hk p hp
    obtain rfl := List.mem_singleton.mp hk
    obtain rfl := Except.ok.inj hp
    norm_num [PtpTime.asNanos_eq, nsPerSec, initial, start]
  exact ⟨_, rfl, idle_no_jump_iff (1001 / 1000) (by constructor <;> norm_num) (.ok initial) start
    (.fromMillis 100) _ rfl calls hcalls⟩

end PtpSynchronizedClock

end Rs1722
