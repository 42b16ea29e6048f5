import Mathlib.Data.List.Nodup
import ZenOS.Compositor.WindowMachine
import ZenOS.Library.Runs

/-!
The structural invariant of the window list: membership, focus, grab and
activation agree with each other after every run.
-/

namespace ZenOS.Compositor

open ZenOS.Library.Runs

/-- The MRU list holds exactly the live toplevels, focus and grab stay inside it,
and exactly the focused toplevel was last told that it is activated. -/
structure Windows.WellFormed (w : Windows) : Prop where
  nodup : w.toplevels.Nodup
  live_iff : ∀ t, w.Live t ↔ t ∈ w.toplevels
  focused_mem : ∀ t ∈ w.focusedToplevel, t ∈ w.toplevels
  grabbed_mem : ∀ t ∈ w.grabbedToplevel, t ∈ w.toplevels
  activated_iff : ∀ t r, w.heap t = some r →
    (r.activated = true ↔ w.focusedToplevel = some t)

/-- What an action asks of the window list it is performed on. -/
def WindowAction.Admissible (w : Windows) : WindowAction → Prop
  | .create t _ => ¬ w.Live t
  | .map t | .unmap t | .destroy t | .grab t _ _ _ _ => w.Live t
  | .focus target => ∀ t ∈ target, w.Live t
  | _ => True

namespace Windows.WellFormed

variable {w : Windows}

theorem modify (h : w.WellFormed) (t : ToplevelId) (f : ZenToplevel → ZenToplevel)
    (hf : ∀ r, (f r).activated = r.activated) : (w.modify t f).WellFormed where
  nodup := h.nodup
  live_iff u := by simpa using h.live_iff u
  focused_mem := h.focused_mem
  grabbed_mem := h.grabbed_mem
  activated_iff u r hr := by
    rw [Windows.modify_heap] at hr
    split at hr
    · next hut =>
        obtain ⟨r₀, hr₀, rfl⟩ := Option.map_eq_some_iff.mp hr
        rw [hf, hut]
        exact h.activated_iff t r₀ hr₀
    · exact h.activated_iff u r hr

theorem reveal (h : w.WellFormed) (t : ToplevelId) : (w.reveal t).WellFormed :=
  modify (h.modify t _ fun _ => by rfl) t _ fun _ => by rfl

theorem hide (h : w.WellFormed) (t : ToplevelId) : (w.hide t).WellFormed :=
  modify (h.modify t _ fun _ => by rfl) t _ fun _ => by rfl

theorem mem_focus_toplevels {target : Option ToplevelId}
    (htarget : ∀ t ∈ target, t ∈ w.toplevels) (u : ToplevelId) :
    u ∈ (w.focus target).toplevels ↔ u ∈ w.toplevels := by
  rw [Windows.focus_toplevels]
  split
  · rfl
  · cases target with
    | none => rfl
    | some t =>
        have ht : t ∈ w.toplevels := htarget t rfl
        rcases eq_or_ne u t with hu | hu
        · simp [hu, ht]
        · simp [hu, List.mem_erase_of_ne hu]

theorem focus (h : w.WellFormed) {target : Option ToplevelId}
    (htarget : ∀ t ∈ target, t ∈ w.toplevels) : (w.focus target).WellFormed where
  nodup := by
    rw [Windows.focus_toplevels]
    split
    · exact h.nodup
    · cases target with
      | none => exact h.nodup
      | some t => exact List.nodup_cons.mpr ⟨h.nodup.not_mem_erase, h.nodup.erase t⟩
  live_iff u := by simpa [mem_focus_toplevels htarget] using h.live_iff u
  focused_mem t ht := by
    rw [Windows.focus_focusedToplevel] at ht
    exact (mem_focus_toplevels htarget t).mpr (htarget t ht)
  grabbed_mem t ht := by
    rw [Windows.focus_grabbedToplevel] at ht
    exact (mem_focus_toplevels htarget t).mpr (h.grabbed_mem t ht)
  activated_iff u r hr := by
    rw [Windows.focus_heap] at hr
    obtain ⟨r₀, hr₀, rfl⟩ := Option.map_eq_some_iff.mp hr
    have hact := h.activated_iff u r₀ hr₀
    rw [Windows.focus_focusedToplevel]
    dsimp only
    rcases eq_or_ne w.focusedToplevel target with hsame | hsame
    · rwa [if_pos hsame, ← hsame]
    · rw [if_neg hsame]
      rcases eq_or_ne target (some u) with hnew | hnew
      · simp [hnew]
      · rw [if_neg hnew]
        rcases eq_or_ne w.focusedToplevel (some u) with hold | hold
        · simp [hold, hnew]
        · rw [if_neg hold]
          simpa [hold, hnew] using hact

theorem create (h : w.WellFormed) {t : ToplevelId} (ht : ¬ w.Live t)
    (surface : SurfaceId) : (w.apply (.create t surface)).WellFormed where
  nodup := List.nodup_cons.mpr ⟨fun hmem => ht ((h.live_iff t).mpr hmem), h.nodup⟩
  live_iff u := by
    rcases eq_or_ne u t with hu | hu
    · simp [Windows.apply, Windows.Live, hu]
    · simpa [Windows.apply, Windows.Live, Function.update_of_ne hu, hu] using h.live_iff u
  focused_mem u hu := List.mem_cons_of_mem t (h.focused_mem u hu)
  grabbed_mem u hu := List.mem_cons_of_mem t (h.grabbed_mem u hu)
  activated_iff u r hr := by
    rcases eq_or_ne u t with hu | hu
    · subst hu
      have hfocus : w.focusedToplevel ≠ some u := fun hf =>
        ht ((h.live_iff u).mpr (h.focused_mem u hf))
      have : r.activated = false := by
        rw [← Option.some.inj ((Function.update_self u _ w.heap).symm.trans hr)]
      rw [this]
      exact ⟨fun hr => absurd hr Bool.false_ne_true, fun hf => absurd hf hfocus⟩
    · exact h.activated_iff u r ((Function.update_of_ne hu _ w.heap).symm.trans hr)

theorem release (h : w.WellFormed) : w.release.WellFormed where
  nodup := h.nodup
  live_iff := h.live_iff
  focused_mem := h.focused_mem
  grabbed_mem t ht := by cases ht
  activated_iff := h.activated_iff

theorem free (h : w.WellFormed) {t : ToplevelId} (hfocus : w.focusedToplevel ≠ some t) :
    (w.free t).WellFormed where
  nodup := by
    rw [Windows.free_toplevels]
    exact h.nodup.erase t
  live_iff u := by
    rw [Windows.free_toplevels, Windows.free_live, h.nodup.mem_erase_iff, h.live_iff]
  focused_mem u hu := by
    rw [Windows.free_focusedToplevel] at hu
    have hut : u ≠ t := fun hut => hfocus (hut ▸ hu)
    rw [Windows.free_toplevels]
    exact (List.mem_erase_of_ne hut).mpr (h.focused_mem u hu)
  grabbed_mem u hu := by
    rw [Windows.free_grabbedToplevel] at hu
    split at hu
    · cases hu
    · next hgrab =>
        have hut : u ≠ t := fun hut => hgrab (hut ▸ hu)
        rw [Windows.free_toplevels]
        exact (List.mem_erase_of_ne hut).mpr (h.grabbed_mem u hu)
  activated_iff u r hr := by
    rw [Windows.free_heap] at hr
    rw [Windows.free_focusedToplevel]
    split at hr
    · cases hr
    · exact h.activated_iff u r hr

theorem apply (h : w.WellFormed) {a : WindowAction} (ha : a.Admissible w) :
    (w.apply a).WellFormed := by
  cases a with
  | idle => exact h
  | create t surface => exact h.create ha surface
  | commit t maximized fullscreen => exact h.modify t _ fun _ => rfl
  | map t =>
      refine (h.reveal t).focus ?_
      rintro u ⟨⟩
      exact (h.live_iff t).mp ha
  | unmap t =>
      refine modify ?_ t _ fun _ => rfl
      split
      · exact (h.hide t).focus fun u hu => List.mem_of_find?_eq_some hu
      · exact h.hide t
  | destroy t =>
      refine free ?_ ?_
      · split
        · exact h.focus fun u hu => List.mem_of_find?_eq_some hu
        · exact h
      · split
        · rw [Windows.focus_focusedToplevel]
          intro hnext
          simpa using List.find?_some hnext
        · assumption
  | focus target => exact h.focus fun t ht => (h.live_iff t).mp (ha t ht)
  | grab t x y nodeX nodeY =>
      exact ⟨h.nodup, h.live_iff, h.focused_mem, by
        rintro u ⟨⟩
        exact (h.live_iff t).mp ha, h.activated_iff⟩
  | release => exact h.release
  | position t x y => exact h.modify t _ fun _ => rfl

end Windows.WellFormed

theorem windowAction_admissible {s : ZenCompositor} {e : Event} (h : Admissible s e) :
    (windowAction s e).Admissible s.windows := by
  have hperforms := windowAction_performs s e
  generalize windowAction s e = a at hperforms ⊢
  cases hperforms with
  | create | map | unmap | destroy | focus | grab => exact h
  | click ht =>
      intro u hu
      cases hu
      exact h _ ht
  | idle | position | release | commit => trivial

theorem step_windows_wellFormed {s : ZenCompositor} {e : Event}
    (hs : s.windows.WellFormed) (he : Admissible s e) :
    (step s e).windows.WellFormed := by
  rw [step_windows]
  exact hs.apply (windowAction_admissible he)

section Runs

variable (outputs : List Output) (bindings : List ZenKeybinding) (idleTimer : Bool)

theorem created_windows_wellFormed :
    (created outputs bindings idleTimer).windows.WellFormed where
  nodup := List.nodup_nil
  live_iff t := by simp [created, Windows.Live]
  focused_mem t ht := by cases ht
  grabbed_mem t ht := by cases ht
  activated_iff t r hr := by cases hr

/-- After every admissible run the MRU list holds each live toplevel exactly once
and nothing else, the focus and the grab are in it, and a live toplevel was last
told to be activated iff it holds the focus. -/
theorem toplevels_structure (events : List Event)
    (h : Along step Admissible (created outputs bindings idleTimer) events) :
    let w := (exec step (created outputs bindings idleTimer) events).windows
    (∀ t, w.toplevels.count t = if w.Live t then 1 else 0) ∧
      (∀ t ∈ w.focusedToplevel, t ∈ w.toplevels) ∧
      (∀ t ∈ w.grabbedToplevel, t ∈ w.toplevels) ∧
      ∀ t r, w.heap t = some r → (r.activated = true ↔ w.focusedToplevel = some t) := by
  intro w
  have hw : w.WellFormed := by
    refine Along.invariant (I := fun s => s.windows.WellFormed) ?_ h
      (created_windows_wellFormed outputs bindings idleTimer)
    exact fun s e hs he => step_windows_wellFormed hs he
  refine ⟨fun t => ?_, hw.focused_mem, hw.grabbed_mem, hw.activated_iff⟩
  split
  · next ht => exact List.count_eq_one_of_mem hw.nodup ((hw.live_iff t).mp ht)
  · next ht => exact List.count_eq_zero.mpr fun hmem => ht ((hw.live_iff t).mpr hmem)

/-- Two windows; the one on top is moved and then destroyed while it is mapped. -/
theorem toplevels_structure_destroy_mapped :
    let w := (exec step (created [] [] true)
      (showWindow 1 11 ++ showWindow 2 12 ++ [.requestMove 2, .destroy 2])).windows
    (∀ t, w.toplevels.count t = if w.Live t then 1 else 0) ∧
      (∀ t ∈ w.focusedToplevel, t ∈ w.toplevels) ∧
      (∀ t ∈ w.grabbedToplevel, t ∈ w.toplevels) ∧
      ∀ t r, w.heap t = some r → (r.activated = true ↔ w.focusedToplevel = some t) :=
  toplevels_structure [] [] true _ (by decide)

end Runs

end ZenOS.Compositor
