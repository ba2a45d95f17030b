import Timekeeper.Proofs.Readout.Measurements
import Mathlib.Data.List.Nodup
import Mathlib.Data.String.Basic

/-!
# The order of measurements

Whatever pairs a list of measurements is made from, it comes out **in order**: each identifier
stands once, in front of all greater ones (`Measurements.inOrder_ofList`). Such a list is known by
what is looked up in it. A pair stands in it exactly if its duration is found under its identifier
(`InOrder.mem_iff`), and two lists in which the same is found are the same (`InOrder.ext`).

So the order in which durations are set leaves no trace (`ofList_eq_of_perm`). This is what makes
a sum of measurements independent of the order of declaration, although rounded additions may not
be exchanged.
-/

namespace Timekeeper

namespace Measurements

variable {β : Type} {key : β → String} {found? : β → Option Binary64} {es es' : List β}
  {id : String} {m m' : Measurements}

/-- Measurements are **in order** when every identifier stands in front of greater ones only. -/
def InOrder (m : Measurements) : Prop := m.Pairwise fun a b => a.1 < b.1

theorem inOrder_cons {pair : String × Binary64} :
    InOrder (pair :: m) ↔ (∀ other ∈ m, pair.1 < other.1) ∧ m.InOrder := List.pairwise_cons

theorem inOrder_insert (h : m.InOrder) (id : String) (value : Binary64) :
    (insert id value m).InOrder := by
  induction m with
  | nil => exact List.pairwise_singleton _ _
  | cons first m ih =>
    obtain ⟨hfirst, hm⟩ := inOrder_cons.mp h
    rw [insert]
    by_cases hlt : id < first.1
    · rw [if_pos hlt, inOrder_cons]
      refine ⟨List.forall_mem_cons.mpr ⟨hlt, ?_⟩, h⟩
      intro other hother
      exact hlt.trans (hfirst other hother)
    · rw [if_neg hlt]
      by_cases heq : id = first.1
      · rw [if_pos heq, inOrder_cons]
        exact ⟨heq ▸ hfirst, hm⟩
      · have hgt : first.1 < id := lt_of_le_of_ne (not_lt.mp hlt) (Ne.symm heq)
        rw [if_neg heq, inOrder_cons]
        exact ⟨forall_mem_insert hgt hfirst, ih hm⟩

theorem inOrder_ofList (pairs : List (String × Binary64)) : (ofList pairs).InOrder := by
  refine List.foldlRecOn pairs (motive := InOrder) (fun m pair => insert pair.1 pair.2 m) ?_ ?_
  · exact List.Pairwise.nil
  · intro m hm pair _
    exact inOrder_insert hm pair.1 pair.2

namespace InOrder

/-- No identifier stands twice. -/
theorem nodup_keys (h : m.InOrder) : (m.map Prod.fst).Nodup := by
  refine List.pairwise_map.mpr (h.imp ?_)
  intro a b hlt
  exact ne_of_lt hlt

/-- A pair stands among the measurements exactly if its duration is found under its identifier. -/
theorem mem_iff (h : m.InOrder) {value : Binary64} :
    (id, value) ∈ m ↔ m.get? id = some value := by
  induction m with
  | nil => simp [get?]
  | cons first m ih =>
    obtain ⟨other, old⟩ := first
    obtain ⟨hfirst, hm⟩ := inOrder_cons.mp h
    rw [get?_cons, List.mem_cons]
    by_cases hid : id = other
    · -- the identifier does not come again behind its first place
      have hnone : (id, value) ∉ m := by
        intro hmem
        have hlt : other < id := hfirst _ hmem
        exact absurd hid.symm (ne_of_lt hlt)
      rw [if_pos hid]
      simp [hid, hid ▸ hnone, eq_comm]
    · rw [if_neg hid, ← ih hm]
      simp [hid]

theorem mem_keys_iff (h : m.InOrder) : id ∈ m.map Prod.fst ↔ (m.get? id).isSome = true := by
  rw [Option.isSome_iff_exists, List.mem_map]
  constructor
  · rintro ⟨⟨other, value⟩, hmem, rfl⟩
    exact ⟨value, h.mem_iff.mp hmem⟩
  · rintro ⟨value, hvalue⟩
    exact ⟨(id, value), h.mem_iff.mpr hvalue, rfl⟩

/-- Measurements in order are known by what is found in them. -/
theorem ext (h : m.InOrder) (h' : m'.InOrder) (hget : ∀ id, m.get? id = m'.get? id) : m = m' := by
  have hmem : ∀ pair, pair ∈ m ↔ pair ∈ m' := by
    rintro ⟨id, value⟩
    rw [h.mem_iff, h'.mem_iff, hget]
  have hperm : m.Perm m' :=
    (List.perm_ext_iff_of_nodup h.nodup_keys.of_map h'.nodup_keys.of_map).mpr hmem
  refine List.Perm.eq_of_pairwise ?_ h h' hperm
  intro a b _ _ hab hba
  exact absurd hab hba.asymm

end InOrder

/-- In another order of the members the same is found under every identifier. -/
private theorem get?_ofList_congr (hperm : es.Perm es') (hes : (es.map key).Nodup) (id : String) :
    get? (ofList (pairsOf key found? es)) id = get? (ofList (pairsOf key found? es')) id := by
  have hes' : (es'.map key).Nodup := (hperm.map key).nodup_iff.mp hes
  by_cases hid : ∃ e ∈ es, key e = id
  · obtain ⟨e, he, rfl⟩ := hid
    rw [get?_ofList hes he, get?_ofList hes' (hperm.mem_iff.mp he)]
  · have hnone : ∀ e ∈ es, key e ≠ id := fun e he hkey => hid ⟨e, he, hkey⟩
    have hnone' : ∀ e ∈ es', key e ≠ id := fun e he => hnone e (hperm.mem_iff.mpr he)
    rw [get?_ofList_eq_none hnone, get?_ofList_eq_none hnone']

/-- Members of different identifiers have the same measurements in any order. -/
theorem ofList_eq_of_perm (hperm : es.Perm es') (hes : (es.map key).Nodup) :
    ofList (pairsOf key found? es) = ofList (pairsOf key found? es') :=
  (inOrder_ofList _).ext (inOrder_ofList _) (get?_ofList_congr hperm hes)

end Measurements

end Timekeeper
