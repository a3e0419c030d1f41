/-
RentalRouting/Proofs/Service.lean

The station service as two finite maps: the station of each id and the region of each
network.  A table keeps its keys strictly increasing (`Table.Sorted`), and the service's
own operations keep both of its tables so (`Service.WellFormed`).  On a sorted table each
operation changes what one key holds and answers what that key held before:

    find? k (put key a t).1 = if key a = k then some a else find? k t
    find? k (take key k' t).1 = if k' = k then none else find? k t

These are the only facts the proofs about updaters read the service through.
-/
import RentalRouting.Feed.Updater
import Mathlib.Data.String.Basic

namespace RentalRouting

namespace Table

variable {α : Type} {key : α → String}

/-- The keys of a table increase strictly. -/
def Sorted (key : α → String) (t : List α) : Prop := t.Pairwise fun a b => key a < key b

/-- The last value of a list under a key: the one a table keeps when the values are put in
order. -/
def last? (key : α → String) (k : String) (xs : List α) : Option α :=
  xs.reverse.find? (key · = k)

@[simp] theorem last?_nil (k : String) : last? key k ([] : List α) = none := rfl

theorem last?_cons (k : String) (a : α) (xs : List α) :
    last? key k (a :: xs) = (last? key k xs).or (if key a = k then some a else none) := by
  simp [last?, List.find?_singleton]

theorem last?_eq_none_iff {k : String} {xs : List α} :
    last? key k xs = none ↔ k ∉ xs.map key := by
  simp [last?, List.find?_eq_none]

/-- Putting a batch `ys` where a batch `xs` was, and emptying the keys of `xs` that `ys`
lacks, leaves the last values of `ys`. -/
theorem last?_replace (xs ys : List α) (k : String) :
    (if k ∈ ys.map key then last? key k ys else if k ∈ xs.map key then none else last? key k xs) =
      last? key k ys := by
  by_cases hy : k ∈ ys.map key
  · rw [if_pos hy]
  · rw [if_neg hy, last?_eq_none_iff.2 hy]
    by_cases hx : k ∈ xs.map key
    · rw [if_pos hx]
    · rw [if_neg hx, last?_eq_none_iff.2 hx]

@[simp] theorem find?_nil (k : String) : find? key k ([] : List α) = none := rfl

theorem find?_cons (k : String) (a : α) (t : List α) :
    find? key k (a :: t) = if key a = k then some a else find? key k t := by
  unfold find?
  rw [List.find?_cons]
  by_cases h : key a = k <;> simp [h]

theorem find?_eq_none_of_lt {k : String} {b : α} {t : List α} (hs : Sorted key (b :: t))
    (hk : k < key b) : find? key k (b :: t) = none := by
  simp only [find?, List.find?_eq_none, decide_eq_true_eq]
  intro x hx heq
  rcases List.mem_cons.1 hx with rfl | hx
  · exact absurd hk (heq ▸ lt_irrefl _)
  · exact absurd (lt_trans hk (List.rel_of_pairwise_cons hs hx)) (heq ▸ lt_irrefl _)

/-! ### Putting a value -/

theorem put_of_lt {a b : α} {t : List α} (h : key a < key b) :
    put key a (b :: t) = (a :: b :: t, none) := by
  simp [put, h]

theorem put_of_eq {a b : α} {t : List α} (h : key a = key b) :
    put key a (b :: t) = (a :: t, some b) := by
  simp [put, h]

theorem put_of_gt {a b : α} {t : List α} (h : key b < key a) :
    put key a (b :: t) = (b :: (put key a t).1, (put key a t).2) := by
  have hlt : ¬ key a < key b := not_lt.2 h.le
  have hne : key a ≠ key b := h.ne'
  simp [put, hlt, hne]

/-- Putting a value changes what its key holds and nothing else. -/
theorem find?_put (a : α) (t : List α) (k : String) :
    find? key k (put key a t).1 = if key a = k then some a else find? key k t := by
  induction t with
  | nil => simp [put, find?_cons]
  | cons b t ih =>
    rcases lt_trichotomy (key a) (key b) with h | h | h
    · rw [put_of_lt h, find?_cons]
    · rw [put_of_eq h, find?_cons, find?_cons, h]
      by_cases hk : key b = k <;> simp [hk]
    · rw [put_of_gt h, find?_cons, find?_cons, ih]
      by_cases hb : key b = k
      · have : key a ≠ k := hb ▸ h.ne'
        simp [hb, this]
      · simp [hb]

theorem mem_put {a x : α} {t : List α} (h : x ∈ (put key a t).1) : x = a ∨ x ∈ t := by
  induction t with
  | nil => simpa [put] using h
  | cons b t ih =>
    rcases lt_trichotomy (key a) (key b) with hab | hab | hab
    · rw [put_of_lt hab] at h
      simpa using h
    · rw [put_of_eq hab] at h
      rcases List.mem_cons.1 h with rfl | h
      · exact .inl rfl
      · exact .inr (List.mem_cons_of_mem b h)
    · rw [put_of_gt hab] at h
      rcases List.mem_cons.1 h with rfl | h
      · exact .inr List.mem_cons_self
      · exact (ih h).imp_right (List.mem_cons_of_mem b)

theorem sorted_put (a : α) {t : List α} (ht : Sorted key t) : Sorted key (put key a t).1 := by
  induction t with
  | nil => simp [put, Sorted]
  | cons b t ih =>
    obtain ⟨hb, ht'⟩ := List.pairwise_cons.1 ht
    rcases lt_trichotomy (key a) (key b) with hab | hab | hab
    · -- the new key goes first, below every key of the table
      rw [put_of_lt hab]
      refine List.Pairwise.cons (fun x hx => ?_) ht
      rcases List.mem_cons.1 hx with rfl | hx
      · exact hab
      · exact lt_trans hab (hb x hx)
    · rw [put_of_eq hab]
      exact List.Pairwise.cons (fun x hx => hab ▸ hb x hx) ht'
    · rw [put_of_gt hab]
      refine List.Pairwise.cons (fun x hx => ?_) (ih ht')
      rcases mem_put hx with rfl | hx
      · exact hab
      · exact hb x hx

/-- On a sorted table, putting a value answers the value its key held. -/
theorem put_snd (a : α) {t : List α} (ht : Sorted key t) :
    (put key a t).2 = find? key (key a) t := by
  induction t with
  | nil => rfl
  | cons b t ih =>
    rcases lt_trichotomy (key a) (key b) with hab | hab | hab
    · rw [put_of_lt hab, find?_eq_none_of_lt ht hab]
    · rw [put_of_eq hab, find?_cons, if_pos hab.symm]
    · rw [put_of_gt hab, find?_cons, if_neg hab.ne, ih (List.Pairwise.of_cons ht)]

/-! ### Taking a key out -/

theorem take_snd (k : String) (t : List α) : (take key k t).2 = find? key k t := by
  induction t with
  | nil => rfl
  | cons b t ih =>
    by_cases h : key b = k
    · simp [take, h, find?_cons]
    · simp [take, h, find?_cons, ih]

theorem take_fst_sublist (k : String) (t : List α) : List.Sublist (take key k t).1 t := by
  induction t with
  | nil => exact List.Sublist.slnil
  | cons b t ih =>
    by_cases h : key b = k
    · simp [take, h]
    · simpa [take, h] using ih.cons_cons b

theorem sorted_take (k : String) {t : List α} (ht : Sorted key t) :
    Sorted key (take key k t).1 :=
  ht.sublist (take_fst_sublist k t)

/-- On a sorted table, taking a key out empties it and changes nothing else. -/
theorem find?_take (k : String) {t : List α} (ht : Sorted key t) (k' : String) :
    find? key k' (take key k t).1 = if k = k' then none else find? key k' t := by
  induction t with
  | nil => simp [take]
  | cons b t ih =>
    obtain ⟨hb, ht'⟩ := List.pairwise_cons.1 ht
    by_cases h : key b = k
    · simp only [take, h, if_true]
      split
      · -- the key held once: every later key is larger
        next hk =>
        simp only [find?, List.find?_eq_none, decide_eq_true_eq]
        intro x hx heq
        exact absurd (hb x hx) (by rw [heq, h, hk]; exact lt_irrefl _)
      · next hk => rw [find?_cons, if_neg (h ▸ hk)]
    · simp only [take, h, if_false]
      rw [find?_cons, ih ht', find?_cons]
      by_cases hk : k = k'
      · simp [hk, show key b ≠ k' from hk ▸ h]
      · simp [hk]

end Table

namespace Service

/-- Both tables of a service are sorted by their keys. -/
structure WellFormed (sv : Service) : Prop where
  stations : Table.Sorted Station.id sv.stations
  regions : Table.Sorted Region.network sv.regions

theorem wellFormed_empty : WellFormed {} := ⟨List.Pairwise.nil, List.Pairwise.nil⟩

variable {sv : Service}

/-! ### Stations -/

@[simp] theorem station?_addStation (st : Station) (k : String) :
    (sv.addStation st).1.station? k = if st.id = k then some st else sv.station? k :=
  Table.find?_put st sv.stations k

@[simp] theorem region?_addStation (st : Station) (n : String) :
    (sv.addStation st).1.region? n = sv.region? n := rfl

theorem addStation_snd (hwf : sv.WellFormed) (st : Station) :
    (sv.addStation st).2 = sv.station? st.id :=
  Table.put_snd st hwf.stations

theorem WellFormed.addStation (hwf : sv.WellFormed) (st : Station) :
    (sv.addStation st).1.WellFormed :=
  ⟨Table.sorted_put st hwf.stations, hwf.regions⟩

@[simp] theorem station?_removeStation (hwf : sv.WellFormed) (id k : String) :
    (sv.removeStation id).1.station? k = if id = k then none else sv.station? k :=
  Table.find?_take id hwf.stations k

@[simp] theorem region?_removeStation (id n : String) :
    (sv.removeStation id).1.region? n = sv.region? n := rfl

theorem removeStation_snd (id : String) : (sv.removeStation id).2 = sv.station? id :=
  Table.take_snd id sv.stations

theorem WellFormed.removeStation (hwf : sv.WellFormed) (id : String) :
    (sv.removeStation id).1.WellFormed :=
  ⟨Table.sorted_take id hwf.stations, hwf.regions⟩

/-! ### Regions -/

@[simp] theorem region?_addRegion (r : Region) (n : String) :
    (sv.addRegion r).region? n = if r.network = n then some r else sv.region? n :=
  Table.find?_put r sv.regions n

@[simp] theorem station?_addRegion (r : Region) (k : String) :
    (sv.addRegion r).station? k = sv.station? k := rfl

theorem WellFormed.addRegion (hwf : sv.WellFormed) (r : Region) : (sv.addRegion r).WellFormed :=
  ⟨hwf.stations, Table.sorted_put r hwf.regions⟩

@[simp] theorem region?_removeRegion (hwf : sv.WellFormed) (network n : String) :
    (sv.removeRegion network).1.region? n = if network = n then none else sv.region? n :=
  Table.find?_take network hwf.regions n

@[simp] theorem station?_removeRegion (network k : String) :
    (sv.removeRegion network).1.station? k = sv.station? k := rfl

theorem removeRegion_snd (network : String) : (sv.removeRegion network).2 = sv.region? network :=
  Table.take_snd network sv.regions

theorem WellFormed.removeRegion (hwf : sv.WellFormed) (network : String) :
    (sv.removeRegion network).1.WellFormed :=
  ⟨hwf.stations, Table.sorted_take network hwf.regions⟩

end Service

end RentalRouting
