import Mathlib.Data.List.Basic
import Mathlib.Data.List.Nodup

/-!
Stacks of layers, bottom first.  A marked layer is on top of a kind of layers when
none of that kind lies above its lowest occurrence, and ranked layers are in order when
none lies above one of a higher rank.  Some layers may have names; a list of names from
top to bottom follows what is taken from the stack and brought to its top.
-/

namespace ZenOS.Library.Stacking

variable {α : Type*}

section Marked

variable [DecidableEq α]

/-- The layers from the lowest occurrence of `mark` upwards. -/
def upFrom (mark : α) (layers : List α) : List α :=
  layers.dropWhile (· ≠ mark)

/-- `mark` is one of the layers, and above it none is of the kind `C`. -/
def OnTop (C : α → Prop) (mark : α) (layers : List α) : Prop :=
  mark ∈ layers ∧ ∀ layer ∈ upFrom mark layers, ¬ C layer

instance (C : α → Prop) [DecidablePred C] (mark : α) (layers : List α) :
    Decidable (OnTop C mark layers) :=
  inferInstanceAs (Decidable (_ ∧ _))

section UpFrom

variable {mark : α} {lower upper layers : List α}

theorem upFrom_append_of_notMem (h : mark ∉ lower) :
    upFrom mark (lower ++ upper) = upFrom mark upper := by
  refine List.dropWhile_append_of_pos fun layer hlayer => ?_
  have hne : layer ≠ mark := by
    rintro rfl
    exact h hlayer
  simpa using hne

theorem upFrom_append_of_mem (h : mark ∈ lower) :
    upFrom mark (lower ++ upper) = upFrom mark lower ++ upper := by
  induction lower with
  | nil => cases h
  | cons layer lower ih =>
      rcases eq_or_ne layer mark with rfl | hne
      · simp [upFrom]
      · have hmem : mark ∈ lower := (List.mem_cons.mp h).resolve_left hne.symm
        simpa [upFrom, hne] using ih hmem

theorem mem_upFrom_erase {other layer : α} (hne : other ≠ mark)
    (h : layer ∈ upFrom mark (layers.erase other)) : layer ∈ upFrom mark layers := by
  induction layers with
  | nil => exact h
  | cons bottom layers ih =>
      rcases eq_or_ne bottom other with rfl | hother
      · rw [List.erase_cons_head] at h
        simpa [upFrom, hne] using h
      · rw [List.erase_cons_tail (by simpa using hother)] at h
        rcases eq_or_ne bottom mark with rfl | hmark
        · have hmem : layer ∈ bottom :: layers.erase other := by simpa [upFrom] using h
          have hmem' : layer ∈ bottom :: layers :=
            List.cons_subset_cons bottom (List.erase_subset) hmem
          simpa [upFrom] using hmem'
        · have hrest : layer ∈ upFrom mark (layers.erase other) := by
            simpa [upFrom, hmark] using h
          simpa [upFrom, hmark] using ih hrest

end UpFrom

namespace OnTop

variable {C : α → Prop} {mark : α} {lower upper layers : List α}

theorem append_iff (h : mark ∈ lower) :
    OnTop C mark (lower ++ upper) ↔ OnTop C mark lower ∧ ∀ layer ∈ upper, ¬ C layer := by
  rw [OnTop, OnTop, upFrom_append_of_mem h, List.forall_mem_append]
  simp [h]

theorem append_iff_of_notMem (h : mark ∉ lower) :
    OnTop C mark (lower ++ upper) ↔ OnTop C mark upper := by
  rw [OnTop, OnTop, upFrom_append_of_notMem h, List.mem_append, or_iff_right h]

theorem singleton (hmark : ¬ C mark) : OnTop C mark [mark] := by
  simpa [OnTop, upFrom] using hmark

theorem erase (h : OnTop C mark layers) {other : α} (hne : other ≠ mark) :
    OnTop C mark (layers.erase other) :=
  ⟨(List.mem_erase_of_ne hne.symm).mpr h.1,
    fun layer hlayer => h.2 layer (mem_upFrom_erase hne hlayer)⟩

end OnTop

end Marked

/-- No layer lies above one of a higher rank; layers without a rank lie anywhere. -/
def InOrder {ρ : Type*} [LE ρ] (rank : α → Option ρ) (layers : List α) : Prop :=
  (layers.filterMap rank).Pairwise (· ≤ ·)

instance {ρ : Type*} [LE ρ] [DecidableLE ρ] (rank : α → Option ρ) (layers : List α) :
    Decidable (InOrder rank layers) :=
  inferInstanceAs (Decidable (List.Pairwise _ _))

theorem forall_rank_congr {ρ : Type*} {rank rank' : α → Option ρ} {layers : List α}
    {P : ρ → Prop} (h : ∀ layer ∈ layers, rank' layer = rank layer) :
    (∀ layer ∈ layers, ∀ x ∈ rank' layer, P x) ↔ ∀ layer ∈ layers, ∀ x ∈ rank layer, P x :=
  forall₂_congr fun layer hlayer => by rw [h layer hlayer]

theorem forall_split_cons {β : Type*} {b c : β} {groups : List β} {P : List β → Prop} :
    (∀ lower upper, c :: groups = lower ++ b :: upper → P lower) ↔
      (c = b → P []) ∧ ∀ lower upper, groups = lower ++ b :: upper → P (c :: lower) := by
  constructor
  · intro h
    refine ⟨?_, fun lower upper hgroups => h (c :: lower) upper (congrArg (c :: ·) hgroups)⟩
    rintro rfl
    exact h [] groups rfl
  · rintro ⟨hhead, htail⟩ lower upper hgroups
    rcases List.cons_eq_append_iff.mp hgroups with ⟨rfl, hcons⟩ | ⟨rest, rfl, hrest⟩
    · exact hhead (List.cons.inj hcons).1.symm
    · exact htail rest upper hrest

namespace InOrder

variable {ρ : Type*} [LE ρ] {rank rank' : α → Option ρ} {a : α} {r : ρ}
  {lower upper layers layers' : List α}

theorem sublist (h : InOrder rank layers) (hsub : layers'.Sublist layers) : InOrder rank layers' :=
  List.Pairwise.sublist (hsub.filterMap rank) h

theorem congr (h : ∀ layer ∈ layers, rank' layer = rank layer) :
    InOrder rank' layers ↔ InOrder rank layers := by
  rw [InOrder, InOrder, List.filterMap_congr h]

theorem insert_iff_of_unranked (ha : rank a = none) :
    InOrder rank (lower ++ a :: upper) ↔ InOrder rank (lower ++ upper) := by
  rw [InOrder, InOrder, List.filterMap_append, List.filterMap_cons_none ha,
    List.filterMap_append]

theorem insert_iff (ha : rank a = some r) :
    InOrder rank (lower ++ a :: upper) ↔
      InOrder rank (lower ++ upper) ∧
        (∀ layer ∈ lower, ∀ x ∈ rank layer, x ≤ r) ∧ ∀ layer ∈ upper, ∀ x ∈ rank layer, r ≤ x := by
  have hlower : (∀ x ∈ lower.filterMap rank, x ≤ r) ↔
      ∀ layer ∈ lower, ∀ x ∈ rank layer, x ≤ r := by
    simp only [List.mem_filterMap, forall_exists_index, and_imp]
    exact ⟨fun h layer hlayer x hx => h x layer hlayer hx,
      fun h x layer hlayer hx => h layer hlayer x hx⟩
  have hupper : (∀ x ∈ upper.filterMap rank, r ≤ x) ↔
      ∀ layer ∈ upper, ∀ x ∈ rank layer, r ≤ x := by
    simp only [List.mem_filterMap, forall_exists_index, and_imp]
    exact ⟨fun h layer hlayer x hx => h x layer hlayer hx,
      fun h x layer hlayer hx => h layer hlayer x hx⟩
  rw [← hlower, ← hupper, InOrder, InOrder, List.filterMap_append,
    List.filterMap_cons_some ha, List.filterMap_append, List.pairwise_append,
    List.pairwise_append, List.pairwise_cons]
  simp only [List.forall_mem_cons]
  constructor
  · rintro ⟨hl, ⟨hr, hu⟩, hall⟩
    exact ⟨⟨hl, hu, fun x hx => (hall x hx).2⟩, fun x hx => (hall x hx).1, hr⟩
  · rintro ⟨⟨hl, hu, hall⟩, hx, hr⟩
    exact ⟨hl, ⟨hr, hu⟩, fun x hx' => ⟨hx x hx', hall x hx'⟩⟩

theorem append_singleton_iff (ha : rank a = some r) :
    InOrder rank (layers ++ [a]) ↔
      InOrder rank layers ∧ ∀ layer ∈ layers, ∀ x ∈ rank layer, x ≤ r := by
  have h : InOrder rank (layers ++ a :: []) ↔ _ := insert_iff ha
  simpa using h

theorem le_of_append (h : InOrder rank (lower ++ upper)) (ha : a ∈ upper) (hr : rank a = some r)
    {layer : α} (hlayer : layer ∈ lower) {x : ρ} (hx : rank layer = some x) : x ≤ r := by
  rw [InOrder, List.filterMap_append, List.pairwise_append] at h
  exact h.2.2 x (List.mem_filterMap.mpr ⟨layer, hlayer, hx⟩) r
    (List.mem_filterMap.mpr ⟨a, ha, hr⟩)

theorem flatMap_insert_iff {β : Type*} {f g : β → List α} {b : β}
    (hb : g b = f b ++ [a]) (hne : ∀ c, c ≠ b → g c = f c) (ha : rank a = some r)
    (hbottom : ∀ x, r ≤ x) (hown : ∀ layer ∈ f b, ∀ x ∈ rank layer, x ≤ r) (groups : List β)
    (below : List α) :
    InOrder rank (below ++ groups.flatMap g) ↔
      InOrder rank (below ++ groups.flatMap f) ∧
        ∀ lower upper, groups = lower ++ b :: upper →
          ∀ layer ∈ below ++ lower.flatMap f, ∀ x ∈ rank layer, x ≤ r := by
  induction groups generalizing below with
  | nil => simp
  | cons c groups ih =>
      rw [List.flatMap_cons, List.flatMap_cons, forall_split_cons]
      by_cases hc : c = b
      · subst hc
        have hnew : ∀ x ∈ rank a, x ≤ r := by
          rintro x hx
          rw [← Option.some.inj (ha.symm.trans hx)]
          exact hbottom r
        have hbelow : ∀ lower : List β,
            (∀ layer ∈ below ++ f c ++ [a] ++ lower.flatMap f, ∀ x ∈ rank layer, x ≤ r) ↔
              ∀ layer ∈ below ++ (c :: lower).flatMap f, ∀ x ∈ rank layer, x ≤ r := by
          intro lower
          simp only [List.flatMap_cons, List.forall_mem_append, List.forall_mem_singleton,
            iff_true_intro hnew, and_true, and_assoc]
        have hinsert : InOrder rank (below ++ f c ++ [a] ++ groups.flatMap f) ↔
            InOrder rank (below ++ (f c ++ groups.flatMap f)) ∧
              ∀ layer ∈ below ++ [].flatMap f, ∀ x ∈ rank layer, x ≤ r := by
          rw [List.append_assoc _ [a], List.singleton_append, insert_iff ha, List.append_assoc]
          simp only [List.flatMap_nil, List.append_nil, List.forall_mem_append, hbottom,
            iff_true_intro hown, and_true, implies_true]
        rw [hb, ← List.append_assoc, ← List.append_assoc, ih, hinsert, and_assoc]
        simp only [hbelow, forall_const]
      · rw [hne c hc, ← List.append_assoc, ih, List.append_assoc]
        simp only [hc, false_imp_iff, true_and, List.flatMap_cons, List.append_assoc]

end InOrder

section Names

variable [DecidableEq α] {β : Type*} [DecidableEq β]

/-- Where `name` gives the name `b` to `a` alone, to take `a` from a stack is to take `b` from
the names. -/
theorem filterMap_erase {name : α → Option β} {a : α} {b : β}
    (hname : ∀ layer, name layer = some b ↔ layer = a) (layers : List α) :
    (layers.erase a).filterMap name = (layers.filterMap name).erase b := by
  induction layers with
  | nil => rfl
  | cons layer layers ih =>
      rcases eq_or_ne layer a with rfl | hne
      · have hb : name layer = some b := (hname layer).mpr rfl
        rw [List.erase_cons_head, List.filterMap_cons_some hb, List.erase_cons_head]
      · rw [List.erase_cons_tail (by simpa using hne)]
        cases hc : name layer with
        | none => rw [List.filterMap_cons_none hc, List.filterMap_cons_none hc, ih]
        | some c =>
            have hcb : c ≠ b := fun hcb => hne ((hname layer).mp (hcb ▸ hc))
            rw [List.filterMap_cons_some hc, List.filterMap_cons_some hc, ih,
              List.erase_cons_tail (by simpa using hcb)]

theorem reverse_cons_erase {layers : List α} (h : layers.Nodup) (a : α) :
    (a :: layers.erase a).reverse = layers.reverse.erase a ++ [a] := by
  have hrev : layers.reverse.Nodup := List.nodup_reverse.mpr h
  rw [List.reverse_cons, h.erase_eq_filter, hrev.erase_eq_filter, List.filter_reverse]

end Names

end ZenOS.Library.Stacking
