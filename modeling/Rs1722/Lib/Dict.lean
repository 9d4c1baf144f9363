/-
# `Rs1722.Lib.Dict` — a map filled by insertions

A `HashMap` that is only filled and asked is the function its `get` is.  Filled with one list of
pairs after another, it answers from the later list where that has the key (`ofPairs_append`);
the rest follows from this:

    a key has the value of its last pair                      (`ofPairs_eq_some_iff`)
    pairs with different keys may come in any order           (`ofPairs_perm`)
-/
import Mathlib.Data.List.Nodup
import Mathlib.Data.List.Perm.Basic

namespace Lib

/-- `HashMap<K, V>`, as its `get`. -/
abbrev Dict (κ α : Type) := κ → Option α

namespace Dict

variable {κ α : Type} [DecidableEq κ] {k : κ} {v : α} {ps qs : List (κ × α)}

/-- `HashMap::new`. -/
def new : Dict κ α := fun _ => none

/-- `HashMap::insert`. -/
def insert (d : Dict κ α) (k : κ) (v : α) : Dict κ α := fun k' => if k' = k then some v else d k'

def ofPairs (ps : List (κ × α)) : Dict κ α := ps.foldl (fun d p => d.insert p.1 p.2) new

@[simp] theorem ofPairs_nil (k : κ) : ofPairs ([] : List (κ × α)) k = none := rfl

theorem foldl_insert (ps : List (κ × α)) (d : Dict κ α) (k : κ) :
    ps.foldl (fun d p => d.insert p.1 p.2) d k = (ofPairs ps k).or (d k) := by
  induction ps generalizing d with
  | nil => rfl
  | cons p ps ih =>
      have hcons : ofPairs (p :: ps) k =
          ps.foldl (fun d p => d.insert p.1 p.2) (new.insert p.1 p.2) k := rfl
      rw [List.foldl_cons, ih, hcons, ih]
      cases ofPairs ps k with
      | some v => rfl
      | none =>
          unfold insert new
          split <;> rfl

theorem ofPairs_append (ps qs : List (κ × α)) (k : κ) :
    ofPairs (ps ++ qs) k = (ofPairs qs k).or (ofPairs ps k) := by
  rw [ofPairs, List.foldl_append, foldl_insert]
  rfl

theorem ofPairs_cons (p : κ × α) (ps : List (κ × α)) (k : κ) :
    ofPairs (p :: ps) k = (ofPairs ps k).or (if k = p.1 then some p.2 else none) := by
  rw [ofPairs, List.foldl_cons, foldl_insert]
  rfl

theorem ofPairs_eq_none_iff : ofPairs ps k = none ↔ ∀ p ∈ ps, p.1 ≠ k := by
  induction ps with
  | nil => simp
  | cons p ps ih =>
      rw [ofPairs_cons, Option.or_eq_none_iff, ih]
      constructor
      · rintro ⟨hps, hp⟩ q hq
        rcases List.mem_cons.mp hq with rfl | hq
        · rintro rfl
          simp at hp
        · exact hps q hq
      · intro h
        exact ⟨fun q hq => h q (List.mem_cons_of_mem p hq),
          if_neg fun hk => h p List.mem_cons_self hk.symm⟩

theorem ofPairs_eq_some_iff : ofPairs ps k = some v ↔
    ∃ before after, ps = before ++ (k, v) :: after ∧ ∀ p ∈ after, p.1 ≠ k := by
  constructor
  · intro h
    induction ps with
    | nil => cases h
    | cons p ps ih =>
        rw [ofPairs_cons] at h
        cases hps : ofPairs ps k with
        | some v' =>
            rw [hps] at h
            obtain rfl : v' = v := Option.some.inj h
            obtain ⟨before, after, rfl, hafter⟩ := ih hps
            exact ⟨p :: before, after, rfl, hafter⟩
        | none =>
            rw [hps, Option.none_or] at h
            by_cases hk : k = p.1
            · rw [if_pos hk] at h
              obtain rfl := Option.some.inj h
              subst hk
              exact ⟨[], ps, rfl, ofPairs_eq_none_iff.mp hps⟩
            · rw [if_neg hk] at h
              cases h
  · rintro ⟨before, after, rfl, hafter⟩
    rw [ofPairs_append, ofPairs_cons, ofPairs_eq_none_iff.mpr hafter, if_pos rfl]
    rfl

theorem ofPairs_eq_some_of_nodup (h : (ps.map Prod.fst).Nodup) :
    ofPairs ps k = some v ↔ (k, v) ∈ ps := by
  constructor
  · intro hv
    obtain ⟨before, after, rfl, -⟩ := ofPairs_eq_some_iff.mp hv
    exact List.mem_append_right _ List.mem_cons_self
  · intro hmem
    obtain ⟨before, after, rfl⟩ := List.append_of_mem hmem
    refine ofPairs_eq_some_iff.mpr ⟨before, after, rfl, ?_⟩
    rintro p hp rfl
    rw [List.map_append, List.map_cons, List.nodup_append] at h
    exact (List.nodup_cons.mp h.2.1).1 (List.mem_map.mpr ⟨p, hp, rfl⟩)

theorem ofPairs_perm (h : ps.Perm qs) (hkeys : (ps.map Prod.fst).Nodup) (k : κ) :
    ofPairs ps k = ofPairs qs k := by
  have hkeys' : (qs.map Prod.fst).Nodup := (h.map Prod.fst).nodup_iff.mp hkeys
  apply Option.ext
  intro v
  rw [ofPairs_eq_some_of_nodup hkeys, ofPairs_eq_some_of_nodup hkeys', h.mem_iff]

end Dict

end Lib
