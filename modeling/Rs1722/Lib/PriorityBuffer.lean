/-
# `Rs1722.Lib.PriorityBuffer` — a buffer that serves the least first

Items are put into a buffer in any order and are served while others are still coming in; what is
served is one than which nothing in the buffer is less.  An item has the number of items put before
it as its name, so two that are equal are still two.

    everything put is inside or served, once               (`Sound.perm`)
    of two items put before the greater was served, the
    less was served before it                              (`Sound.ordered`)
    so what is put in increasing order is served in it     (`Sound.servedItems_in_order`)

Both are kept by `insert` and by `serve` of a least item (`Sound.insert`, `Sound.serve`).
-/
import Mathlib.Data.List.Forall2
import Mathlib.Data.List.Perm.Basic
import Mathlib.Data.List.Range

namespace Lib

/-- An item that was served: its name, the number of items put by then, and a note. -/
structure Served (β : Type) where
  item : Nat
  putBefore : Nat
  note : β

/-- What was put, in its order; the names of what is inside, place by place; and what was served,
in its order. -/
structure PriorityBuffer (α β : Type) where
  put : List α
  inside : List Nat
  served : List (Served β)

namespace PriorityBuffer

variable {α β : Type}

def empty : PriorityBuffer α β := ⟨[], [], []⟩

def insert (x : α) (t : PriorityBuffer α β) : PriorityBuffer α β :=
  { t with put := t.put ++ [x], inside := t.inside ++ [t.put.length] }

def serve (place : Nat) (note : β) (t : PriorityBuffer α β) : PriorityBuffer α β :=
  { t with
    inside := t.inside.eraseIdx place
    served := t.served ++ (t.inside[place]?).toList.map fun n => ⟨n, t.put.length, note⟩ }

def servedItems (t : PriorityBuffer α β) : List α := t.served.filterMap fun p => t.put[p.item]?

variable {t : PriorityBuffer α β}

theorem getElem?_insert (x : α) {n : Nat} (hn : n < t.put.length) :
    (t.insert x).put[n]? = t.put[n]? :=
  List.getElem?_append_left hn

/-! ## What is inside -/

def Holds (t : PriorityBuffer α β) (heap : List α) : Prop :=
  t.inside.map (fun n => t.put[n]?) = heap.map some

variable {heap : List α} {x : α} {place : Nat}

theorem Holds.getElem? (h : t.Holds heap) (hx : heap[place]? = some x) :
    ∃ n, t.inside[place]? = some n ∧ t.put[n]? = some x := by
  have hplace := congrArg (fun l => l[place]?) h
  rw [List.getElem?_map, List.getElem?_map, hx] at hplace
  exact Option.map_eq_some_iff.mp hplace

theorem Holds.mem (h : t.Holds heap) {n : Nat} (hn : n ∈ t.inside) (hx : t.put[n]? = some x) :
    x ∈ heap := by
  have hmem : t.put[n]? ∈ heap.map some := h ▸ List.mem_map_of_mem hn
  rw [hx] at hmem
  obtain ⟨y, hy, hyx⟩ := List.mem_map.mp hmem
  rwa [← Option.some.inj hyx]

theorem Holds.insert (h : t.Holds heap) (hlt : ∀ n ∈ t.inside, n < t.put.length) (x : α) :
    (t.insert x).Holds (heap ++ [x]) := by
  have hnew : (t.put ++ [x])[t.put.length]? = some x := List.getElem?_concat_length
  show (t.inside ++ [t.put.length]).map _ = _
  rw [List.map_append, List.map_append, List.map_singleton, List.map_singleton, ← h]
  refine congrArg₂ (· ++ ·) ?_ (congrArg ([·]) hnew)
  exact List.map_congr_left fun n hn => getElem?_insert x (hlt n hn)

theorem served_serve {n : Nat} (hplace : t.inside[place]? = some n) (note : β) :
    (t.serve place note).served = t.served ++ [⟨n, t.put.length, note⟩] := by
  unfold PriorityBuffer.serve
  rw [hplace]
  rfl

theorem Holds.servedItems_serve (h : t.Holds heap) (hx : heap[place]? = some x) (note : β) :
    (t.serve place note).servedItems = t.servedItems ++ [x] := by
  obtain ⟨n, hplace, hput⟩ := h.getElem? hx
  unfold servedItems
  rw [served_serve hplace, List.filterMap_append]
  refine congrArg (_ ++ ·) ?_
  exact List.filterMap_cons_some (f := fun p : Served β => t.put[p.item]?) hput

theorem Holds.serve (h : t.Holds heap) (place : Nat) (note : β) :
    (t.serve place note).Holds (heap.eraseIdx place) := by
  show (t.inside.eraseIdx place).map _ = _
  rw [← List.eraseIdx_map, ← List.eraseIdx_map]
  exact congrArg (·.eraseIdx place) h

variable [LT α]

/-- Everything put is inside or served, once, and what was served was served in order. -/
structure Sound (t : PriorityBuffer α β) : Prop where
  perm : (t.inside ++ t.served.map Served.item).Perm (List.range t.put.length)
  before : ∀ p ∈ t.served, p.item < p.putBefore ∧ p.putBefore ≤ t.put.length
  ordered : ∀ (j : Nat) (p : Served β), t.served[j]? = some p → ∀ n < p.putBefore, ∀ x y,
    t.put[n]? = some x → t.put[p.item]? = some y → x < y →
      ∃ i < j, ∃ q : Served β, t.served[i]? = some q ∧ q.item = n

theorem sound_empty : Sound (empty : PriorityBuffer α β) :=
  ⟨List.Perm.refl _, nofun, fun _ _ h => nomatch h⟩

theorem Sound.nodup (h : Sound t) : (t.served.map Served.item).Nodup :=
  (List.nodup_append.mp (h.perm.nodup_iff.mpr List.nodup_range)).2.1

theorem Sound.all_served (h : Sound t) (hempty : t.inside = []) :
    ∀ n < t.put.length, n ∈ t.served.map Served.item := by
  intro n hn
  have hmem := h.perm.mem_iff.mpr (List.mem_range.mpr hn)
  rw [hempty] at hmem
  exact hmem

theorem Sound.insert (h : Sound t) (x : α) : Sound (t.insert x) := by
  have hlength : (t.insert x).put.length = t.put.length + 1 := List.length_append
  refine ⟨?_, ?_, ?_⟩
  · rw [hlength, List.range_succ]
    show (t.inside ++ [t.put.length] ++ t.served.map Served.item).Perm _
    rw [List.append_assoc]
    refine (List.Perm.append_left t.inside List.perm_append_comm).trans ?_
    rw [← List.append_assoc]
    exact h.perm.append_right _
  · intro p hp
    obtain ⟨hitem, hput⟩ := h.before p hp
    exact ⟨hitem, hlength ▸ Nat.le_succ_of_le hput⟩
  · intro j p hp n hn y z hy hz
    obtain ⟨hitem, hput⟩ := h.before p (List.mem_of_getElem? hp)
    rw [getElem?_insert x (Nat.lt_of_lt_of_le hn hput)] at hy
    rw [getElem?_insert x (Nat.lt_of_lt_of_le hitem hput)] at hz
    exact h.ordered j p hp n hn y z hy hz

theorem Sound.servedItems_insert (h : Sound t) (x : α) :
    (t.insert x).servedItems = t.servedItems := by
  refine List.filterMap_congr fun p hp => getElem?_insert x ?_
  obtain ⟨hitem, hput⟩ := h.before p hp
  exact Nat.lt_of_lt_of_le hitem hput

theorem Sound.map_servedItems (h : Sound t) :
    t.servedItems.map some = t.served.map fun p => t.put[p.item]? := by
  unfold servedItems
  rw [List.map_filterMap_some_eq_filter_map_isSome, List.filter_eq_self]
  intro item hitem
  obtain ⟨p, hp, rfl⟩ := List.mem_map.mp hitem
  obtain ⟨hlt, hle⟩ := h.before p hp
  rw [List.getElem?_eq_getElem (Nat.lt_of_lt_of_le hlt hle)]
  rfl

/-- What is put in increasing order is served as it was put. -/
theorem Sound.served_in_order (h : Sound t) (hput : t.put.Pairwise (· < ·)) :
    t.served.map Served.item = List.range t.served.length := by
  have hplace : ∀ (j : Nat) (p : Served β), t.served[j]? = some p → p.item = j := by
    intro j
    induction j using Nat.strong_induction_on with
    | _ j ih =>
        intro p hp
        obtain ⟨hitem, hbefore⟩ := h.before p (List.mem_of_getElem? hp)
        obtain ⟨hj, hget⟩ := List.getElem?_eq_some_iff.mp hp
        rcases Nat.lt_trichotomy p.item j with hlt | heq | hgt
        · -- the item of that number was served at that place
          have hearlier := ih p.item hlt _ (List.getElem?_eq_getElem (Nat.lt_trans hlt hj))
          have hne := List.pairwise_iff_getElem.mp h.nodup p.item j
            (by rw [List.length_map]; omega) (by rwa [List.length_map]) hlt
          rw [List.getElem_map, List.getElem_map, hearlier, hget] at hne
          exact absurd rfl hne
        · exact heq
        · -- item `j` was put before it, and is less
          obtain ⟨i, hi, q, hq, hqj⟩ := h.ordered j p hp j (by omega) _ _
            (List.getElem?_eq_getElem (by omega)) (List.getElem?_eq_getElem (by omega))
            (List.pairwise_iff_getElem.mp hput j p.item (by omega) (by omega) hgt)
          have hqi := ih i hi q hq
          omega
  refine List.ext_getElem? fun j => ?_
  rw [List.getElem?_map]
  cases hj : t.served[j]? with
  | none =>
      have hend := List.getElem?_eq_none_iff.mp hj
      rw [List.getElem?_eq_none (by rwa [List.length_range])]
      rfl
  | some p =>
      obtain ⟨hlt, -⟩ := List.getElem?_eq_some_iff.mp hj
      rw [List.getElem?_range hlt]
      exact congrArg some (hplace j p hj)

/-- So the items served are the first that were put. -/
theorem Sound.servedItems_in_order (h : Sound t) (hput : t.put.Pairwise (· < ·)) :
    t.servedItems = t.put.take t.served.length := by
  refine List.map_injective_iff.mpr (fun _ _ => Option.some.inj) ?_
  have hitems : (t.served.map fun p => t.put[p.item]?) =
      (t.served.map Served.item).map fun n => t.put[n]? := List.map_map.symm
  have hle : t.served.length ≤ t.put.length := by
    have hlength := h.perm.length_eq
    rw [List.length_append, List.length_map, List.length_range] at hlength
    omega
  rw [h.map_servedItems, hitems, h.served_in_order hput]
  refine List.ext_getElem? fun j => ?_
  rw [List.getElem?_map, List.getElem?_map]
  by_cases hj : j < t.served.length
  · have hlt := Nat.lt_of_lt_of_le hj hle
    have hput : t.put[j]? = some t.put[j] := List.getElem?_eq_getElem hlt
    rw [List.getElem?_range hj, List.getElem?_take_of_lt hj, hput]
    exact congrArg some hput
  · rw [List.getElem?_eq_none (by rw [List.length_range]; omega),
      List.getElem?_eq_none (by rw [List.length_take]; omega)]
    rfl

theorem Sound.inside_lt (h : Sound t) : ∀ n ∈ t.inside, n < t.put.length :=
  fun _ hn => List.mem_range.mp (h.perm.mem_iff.mp (List.mem_append_left _ hn))

theorem Sound.serve (h : Sound t) (hheap : t.Holds heap) (hx : heap[place]? = some x)
    (hleast : ∀ y ∈ heap, ¬ y < x) (note : β) : Sound (t.serve place note) := by
  obtain ⟨m, hplace, hput⟩ := hheap.getElem? hx
  have hserved := served_serve hplace note
  obtain ⟨hlt, hget⟩ := List.getElem?_eq_some_iff.mp hplace
  have hm : m < t.put.length := h.inside_lt m (List.mem_of_getElem? hplace)
  refine ⟨?_, ?_, ?_⟩
  · -- what was served is at the end now, and was inside
    rw [hserved, List.map_append, ← List.append_assoc]
    refine (List.perm_append_singleton m _).trans (List.Perm.trans ?_ h.perm)
    rw [← List.cons_append]
    refine List.Perm.append_right _ ?_
    rw [← hget]
    exact List.getElem_cons_eraseIdx_perm hlt
  · intro p hp
    rw [hserved] at hp
    rcases List.mem_append.mp hp with hp | hp
    · exact h.before p hp
    · obtain rfl := List.mem_singleton.mp hp
      exact ⟨hm, Nat.le_refl _⟩
  · intro j p hp n hn y z hy hz hless
    rw [hserved] at hp ⊢
    by_cases hj : j < t.served.length
    · rw [List.getElem?_append_left hj] at hp
      obtain ⟨i, hi, q, hq, hqn⟩ := h.ordered j p hp n hn y z hy hz hless
      exact ⟨i, hi, q, (List.getElem?_append_left (Nat.lt_trans hi hj)).trans hq, hqn⟩
    · -- what is less than the item that is served now is not inside
      have hlast : j = t.served.length ∧ p = ⟨m, t.put.length, note⟩ := by
        rw [List.getElem?_append_right (Nat.not_lt.mp hj)] at hp
        obtain ⟨hzero, hp⟩ := List.getElem?_eq_some_iff.mp hp
        rw [List.length_singleton] at hzero
        refine ⟨by omega, ?_⟩
        rw [← hp, List.getElem_singleton]
      obtain ⟨rfl, rfl⟩ := hlast
      have hall := h.perm.mem_iff.mpr (List.mem_range.mpr hn)
      rcases List.mem_append.mp hall with hinside | hout
      · obtain rfl := Option.some.inj (hput.symm.trans hz)
        exact absurd hless (hleast y (hheap.mem hinside hy))
      · obtain ⟨q, hq, hqn⟩ := List.mem_map.mp hout
        obtain ⟨i, hi, hget⟩ := List.mem_iff_getElem.mp hq
        refine ⟨i, hi, q, ?_, hqn⟩
        rw [List.getElem?_append_left hi, List.getElem?_eq_getElem hi, hget]

end PriorityBuffer

end Lib
