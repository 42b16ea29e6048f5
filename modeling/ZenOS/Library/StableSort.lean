import Mathlib.Data.List.Sort

/-!
Which of two elements a stable sort puts first, and when that is the order of another
relation.
-/

namespace ZenOS.Library.StableSort

variable {α κ : Type*}

theorem pair_sublist_of_mem {l : List α} {a b : α} (ha : a ∈ l) (hb : b ∈ l) (hne : a ≠ b) :
    [a, b].Sublist l ∨ [b, a].Sublist l := by
  induction l with
  | nil => cases ha
  | cons c l ih =>
      rcases List.mem_cons.mp ha with rfl | ha'
      · have hb' : b ∈ l := (List.mem_cons.mp hb).resolve_left hne.symm
        exact .inl ((List.singleton_sublist.mpr hb').cons_cons a)
      · rcases List.mem_cons.mp hb with rfl | hb'
        · exact .inr ((List.singleton_sublist.mpr ha').cons_cons b)
        · exact (ih ha' hb').imp (·.cons c) (·.cons c)

theorem mem_of_pair_sublist {l : List α} {a b : α} (h : [a, b].Sublist l) : a ∈ l ∧ b ∈ l :=
  ⟨h.subset (by simp), h.subset (by simp)⟩

variable [LinearOrder κ] (key : α → κ)

def sortByKey (l : List α) : List α :=
  l.mergeSort fun a b => decide (key a ≤ key b)

theorem sortByKey_perm (l : List α) : (sortByKey key l).Perm l :=
  List.mergeSort_perm l _

theorem decide_key_le_trans (a b c : α) (hab : decide (key a ≤ key b) = true)
    (hbc : decide (key b ≤ key c) = true) : decide (key a ≤ key c) = true :=
  decide_eq_true ((of_decide_eq_true hab).trans (of_decide_eq_true hbc))

theorem decide_key_le_total (a b : α) :
    (decide (key a ≤ key b) || decide (key b ≤ key a)) = true := by
  simpa using le_total (key a) (key b)

theorem sortByKey_pairwise (l : List α) :
    (sortByKey key l).Pairwise fun a b => key a ≤ key b := by
  have h := List.pairwise_mergeSort (decide_key_le_trans key) (decide_key_le_total key) l
  exact h.imp of_decide_eq_true

theorem sublist_sortByKey {c l : List α} (hc : c.Pairwise fun a b => key a ≤ key b)
    (h : c.Sublist l) : c.Sublist (sortByKey key l) :=
  List.sublist_mergeSort (decide_key_le_trans key) (decide_key_le_total key)
    (hc.imp fun hab => decide_eq_true hab) h

theorem filter_sortByKey (l : List α) (k : κ) :
    (sortByKey key l).filter (key · = k) = l.filter (key · = k) := by
  have hequal : (l.filter (key · = k)).Pairwise fun a b => key a ≤ key b := by
    refine List.pairwise_of_forall_mem_list fun a ha b hb => ?_
    rw [of_decide_eq_true (List.mem_filter.mp ha).2, of_decide_eq_true (List.mem_filter.mp hb).2]
  have hsublist : (l.filter (key · = k)).Sublist ((sortByKey key l).filter (key · = k)) := by
    have h := (sublist_sortByKey key hequal List.filter_sublist).filter (key · = k)
    simpa only [List.filter_filter, Bool.and_self] using h
  exact (hsublist.eq_of_length ((sortByKey_perm key l).filter _).length_eq.symm).symm

theorem pair_sublist_sortByKey_iff {l : List α} {a b : α} :
    [a, b].Sublist (sortByKey key l) ↔
      (key a < key b ∧ a ∈ l ∧ b ∈ l) ∨ (key a = key b ∧ [a, b].Sublist l) := by
  have hmem : ∀ {c}, c ∈ sortByKey key l ↔ c ∈ l := (sortByKey_perm key l).mem_iff
  constructor
  · intro h
    obtain ⟨ha, hb⟩ := mem_of_pair_sublist h
    have hle := List.pairwise_iff_forall_sublist.mp (sortByKey_pairwise key l) h
    refine hle.lt_or_eq.imp (fun hlt => ⟨hlt, hmem.mp ha, hmem.mp hb⟩) fun heq => ⟨heq, ?_⟩
    have hfilter := h.filter (key · = key b)
    rw [filter_sortByKey] at hfilter
    simp only [heq, List.filter_cons_of_pos, decide_true, List.filter_nil] at hfilter
    exact hfilter.trans List.filter_sublist
  · rintro (⟨hlt, ha, hb⟩ | ⟨heq, h⟩)
    · have hne : a ≠ b := fun hab => hlt.ne (congrArg key hab)
      refine (pair_sublist_of_mem (hmem.mpr ha) (hmem.mpr hb) hne).resolve_right fun h => ?_
      exact hlt.not_ge (List.pairwise_iff_forall_sublist.mp (sortByKey_pairwise key l) h)
    · exact sublist_sortByKey key (List.pairwise_pair.mpr heq.le) h

/-- The sorted list follows a relation when every two elements of the list do, taken in the
order of their keys. -/
theorem pairwise_sortByKey_iff {R : α → α → Prop} {l : List α} :
    (sortByKey key l).Pairwise R ↔
      l.Pairwise fun a b => if key a ≤ key b then R a b else R b a := by
  simp only [List.pairwise_iff_forall_sublist, pair_sublist_sortByKey_iff]
  constructor
  · intro h a b hab
    obtain ⟨ha, hb⟩ := mem_of_pair_sublist hab
    split
    · next hle => exact h (hle.lt_or_eq.imp (fun hlt => ⟨hlt, ha, hb⟩) fun heq => ⟨heq, hab⟩)
    · next hlt => exact h (.inl ⟨not_le.mp hlt, hb, ha⟩)
  · rintro h a b (⟨hlt, ha, hb⟩ | ⟨heq, hab⟩)
    · have hne : a ≠ b := fun hab => hlt.ne (congrArg key hab)
      rcases pair_sublist_of_mem ha hb hne with hab | hba
      · exact (if_pos hlt.le).mp (h hab)
      · exact (if_neg hlt.not_ge).mp (h hba)
    · exact (if_pos heq.le).mp (h hab)

end ZenOS.Library.StableSort
