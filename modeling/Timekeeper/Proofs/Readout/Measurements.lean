import Timekeeper.Readout

/-!
# Looking up measurements

A list of measurements is kept in the order of the identifiers, but what is looked up in it
does not depend on the order: setting a duration changes what is found under its identifier
and nothing else (`get?_insert`). So a list made from pairs of different identifiers has each
pair's duration under its identifier, and nothing under any other (`get?_ofList`).
-/

namespace Timekeeper

namespace Measurements

variable {β : Type} {key : β → String} {found? : β → Option Binary64} {es : List β}
  {id : String} {m : Measurements}

theorem get?_cons (id other : String) (value : Binary64) (m : Measurements) :
    get? ((other, value) :: m) id = if id = other then some value else get? m id := by
  rw [get?, List.lookup_cons]
  by_cases h : id = other
  · simp [h]
  · simp [h, beq_false_of_ne h, get?]

theorem get?_insert (id other : String) (value : Binary64) (m : Measurements) :
    get? (insert other value m) id = if id = other then some value else get? m id := by
  induction m with
  | nil => exact get?_cons id other value []
  | cons pair m ih =>
    obtain ⟨first, old⟩ := pair
    rw [insert]
    by_cases hlt : other < first
    · rw [if_pos hlt, get?_cons]
    · rw [if_neg hlt]
      by_cases heq : other = first
      · rw [if_pos heq, get?_cons, get?_cons, ← heq]
        by_cases hid : id = other <;> simp [hid]
      · rw [if_neg heq, get?_cons, get?_cons, ih]
        by_cases hfirst : id = first
        · simp [hfirst, Ne.symm heq]
        · simp [hfirst]

/-- The pairs of the members for which something is found. -/
def pairsOf (key : β → String) (found? : β → Option Binary64) (es : List β) :
    List (String × Binary64) :=
  es.filterMap fun e => (found? e).map fun value => (key e, value)

private theorem get?_foldl_of_ne {pairs : List (String × Binary64)}
    (h : ∀ pair ∈ pairs, pair.1 ≠ id) (m : Measurements) :
    get? (pairs.foldl (fun m pair => insert pair.1 pair.2 m) m) id = get? m id := by
  induction pairs generalizing m with
  | nil => rfl
  | cons pair pairs ih =>
    rw [List.foldl_cons, ih fun p hp => h p (List.mem_cons_of_mem _ hp), get?_insert,
      if_neg (Ne.symm (h pair List.mem_cons_self))]

private theorem key_of_mem_pairsOf {pair : String × Binary64} (h : pair ∈ pairsOf key found? es) :
    ∃ e ∈ es, key e = pair.1 := by
  obtain ⟨e, he, hpair⟩ := List.mem_filterMap.mp h
  obtain ⟨value, -, rfl⟩ := Option.map_eq_some_iff.mp hpair
  exact ⟨e, he, rfl⟩

/-- Under an identifier that no member has nothing is found. -/
theorem get?_ofList_eq_none (h : ∀ e ∈ es, key e ≠ id) :
    get? (ofList (pairsOf key found? es)) id = none := by
  refine get?_foldl_of_ne (fun pair hpair => ?_) []
  obtain ⟨e, he, hkey⟩ := key_of_mem_pairsOf hpair
  exact hkey ▸ h e he

/-- Members of different identifiers do not disturb one another. -/
theorem get?_ofList (hes : (es.map key).Nodup) {e : β} (he : e ∈ es) :
    get? (ofList (pairsOf key found? es)) (key e) = found? e := by
  obtain ⟨before, behind, rfl⟩ := List.append_of_mem he
  rw [List.map_append, List.map_cons, List.nodup_append, List.nodup_cons] at hes
  obtain ⟨-, ⟨hbehind, -⟩, hbefore⟩ := hes
  have hnone : get? (ofList (pairsOf key found? before)) (key e) = none :=
    get?_ofList_eq_none fun x hx =>
      hbefore (key x) (List.mem_map_of_mem hx) (key e) List.mem_cons_self
  have hrest : ∀ pair ∈ pairsOf key found? behind, pair.1 ≠ key e := by
    intro pair hpair heq
    obtain ⟨x, hx, hkey⟩ := key_of_mem_pairsOf hpair
    exact hbehind (List.mem_map.mpr ⟨x, hx, hkey.trans heq⟩)
  rw [pairsOf, List.filterMap_append, ofList, List.foldl_append, List.filterMap_cons]
  cases hfound : found? e with
  | none => exact (get?_foldl_of_ne hrest _).trans hnone
  | some value => exact (get?_foldl_of_ne hrest _).trans (by rw [get?_insert, if_pos rfl])

/-! ### Members -/

/-- Setting a duration keeps what holds of all pairs if it holds of the new one. -/
theorem forall_mem_insert {P : String × Binary64 → Prop} {value : Binary64}
    (hnew : P (id, value)) (hm : ∀ pair ∈ m, P pair) : ∀ pair ∈ insert id value m, P pair := by
  induction m with
  | nil => exact List.forall_mem_singleton.mpr hnew
  | cons first m ih =>
    obtain ⟨hfirst, hm⟩ := List.forall_mem_cons.mp hm
    rw [insert]
    split
    · exact List.forall_mem_cons.mpr ⟨hnew, List.forall_mem_cons.mpr ⟨hfirst, hm⟩⟩
    split
    · exact List.forall_mem_cons.mpr ⟨hnew, hm⟩
    · exact List.forall_mem_cons.mpr ⟨hfirst, ih hm⟩

theorem forall_mem_ofList {P : String × Binary64 → Prop} {pairs : List (String × Binary64)}
    (h : ∀ pair ∈ pairs, P pair) : ∀ pair ∈ ofList pairs, P pair := by
  refine List.foldlRecOn pairs (motive := fun m : Measurements => ∀ pair ∈ m, P pair)
    (fun m pair => insert pair.1 pair.2 m) ?_ fun m hm pair hpair => ?_
  · exact fun pair hpair => absurd hpair List.not_mem_nil
  · exact forall_mem_insert (h pair hpair) hm

end Measurements

end Timekeeper
