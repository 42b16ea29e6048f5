import ZenOS.Compositor.WindowInvariant
import ZenOS.Library.Recency

/-!
The history of the focus.  A run is observed together with the log of the
toplevels that became focused, latest first; the MRU list follows that log.
-/

namespace ZenOS.Compositor

open ZenOS.Library.Runs ZenOS.Library.Recency

/-- Extend the focus log over one step: freed toplevels are forgotten, and a
toplevel to which the focus moved is put in front. -/
def recordFocus (before after : Windows) (log : List ToplevelId) : List ToplevelId :=
  let log := log.filter fun t => after.Live t
  if before.focusedToplevel = after.focusedToplevel then log
  else after.focusedToplevel.toList ++ log

/-- A step of the compositor observed together with the focus log. -/
def stepLogged (p : ZenCompositor × List ToplevelId) (e : Event) :
    ZenCompositor × List ToplevelId :=
  (step p.1 e, recordFocus p.1.windows (step p.1 e).windows p.2)

theorem exec_stepLogged_fst (p : ZenCompositor × List ToplevelId) (events : List Event) :
    (exec stepLogged p events).1 = exec step p.1 events :=
  exec_fst (fun _ _ => rfl) p events

/-- The MRU list follows the focus log, which starts with the focused toplevel. -/
structure Windows.Recorded (w : Windows) (log : List ToplevelId) : Prop where
  wellFormed : w.WellFormed
  follows : Follows w.toplevels log
  focused_head : ∀ t ∈ w.focusedToplevel, log.head? = some t

/-- Moreover every mapped toplevel has been focused, and none is mapped when the
focus is nowhere. -/
structure Windows.MruOrder (w : Windows) (log : List ToplevelId) : Prop
    extends w.Recorded log where
  mapped_mem : ∀ t, w.mapped t = true → t ∈ log
  unfocused : w.focusedToplevel = none → ∀ t, w.mapped t = false

/-- What an action asks of the window list when events come in order. -/
def WindowAction.Ordered (w : Windows) : WindowAction → Prop
  | .focus target => ∃ t, target = some t ∧ w.mapped t = true
  | _ => True

theorem recordFocus_of_live {before after : Windows} {log : List ToplevelId}
    (hlive : ∀ t ∈ log, after.Live t) :
    recordFocus before after log =
      if before.focusedToplevel = after.focusedToplevel then log
      else after.focusedToplevel.toList ++ log := by
  rw [recordFocus]
  rw [List.filter_eq_self.mpr fun t ht => decide_eq_true (hlive t ht)]

theorem recordFocus_of_freed {before after : Windows} {log : List ToplevelId}
    {t : ToplevelId} (hlive : ∀ u ∈ log, after.Live u ↔ u ≠ t)
    (hafter : after.focusedToplevel ≠ some t) :
    recordFocus before after log =
      (if before.focusedToplevel = after.focusedToplevel then log
        else after.focusedToplevel.toList ++ log).filter (· ≠ t) := by
  have hlog : (log.filter fun u => after.Live u) = log.filter (· ≠ t) :=
    List.filter_congr fun u hu => by simp [hlive u hu]
  rw [recordFocus]
  split
  · exact hlog
  · rw [List.filter_append, hlog]
    cases hf : after.focusedToplevel with
    | none => rfl
    | some u =>
        have : u ≠ t := fun hut => hafter (hut ▸ hf)
        simp [this]

theorem Windows.WellFormed.mem_of_mapped {w : Windows} (h : w.WellFormed)
    {t : ToplevelId} (ht : w.mapped t = true) : t ∈ w.toplevels :=
  (h.live_iff t).mp (w.live_of_mapped t ht)

namespace Windows.Recorded

variable {w : Windows} {log : List ToplevelId}

theorem live (h : w.Recorded log) {t : ToplevelId} (ht : t ∈ log) : w.Live t :=
  (h.wellFormed.live_iff t).mpr (h.follows.mem ht)

theorem modify (h : w.Recorded log) (t : ToplevelId) (f : ZenToplevel → ZenToplevel)
    (hf : ∀ r, (f r).activated = r.activated) : (w.modify t f).Recorded log where
  wellFormed := h.wellFormed.modify t f hf
  follows := h.follows
  focused_head := h.focused_head

theorem focus (h : w.Recorded log) {target : Option ToplevelId}
    (htarget : ∀ t ∈ target, t ∈ w.toplevels) :
    (w.focus target).Recorded
      (if w.focusedToplevel = target then log else target.toList ++ log) where
  wellFormed := h.wellFormed.focus htarget
  follows := by
    rw [Windows.focus_toplevels]
    split
    · exact h.follows
    · cases target with
      | none => exact h.follows
      | some t => exact h.follows.use h.wellFormed.nodup t
  focused_head t ht := by
    rw [Windows.focus_focusedToplevel] at ht
    split
    · next hsame => exact h.focused_head t (hsame ▸ ht)
    · cases ht
      rfl

theorem create (h : w.Recorded log) {t : ToplevelId} (ht : ¬ w.Live t)
    (surface : SurfaceId) : (w.apply (.create t surface)).Recorded log where
  wellFormed := h.wellFormed.create ht surface
  follows := h.follows.insert fun hmem => ht (h.live hmem)
  focused_head := h.focused_head

theorem free (h : w.Recorded log) {t : ToplevelId} (hfocus : w.focusedToplevel ≠ some t) :
    (w.free t).Recorded (log.filter (· ≠ t)) where
  wellFormed := h.wellFormed.free hfocus
  follows := by
    rw [Windows.free_toplevels, h.wellFormed.nodup.erase_eq_filter]
    simpa [bne, beq_eq_decide] using h.follows.filter (· ≠ t)
  focused_head u hu := by
    rw [Windows.free_focusedToplevel] at hu
    have hut : u ≠ t := fun hut => hfocus (hut ▸ hu)
    obtain ⟨rest, rfl⟩ := List.head?_eq_some_iff.mp (h.focused_head u hu)
    rw [List.filter_cons_of_pos (by simpa using hut)]
    rfl

end Windows.Recorded

namespace Windows.MruOrder

variable {w : Windows} {log : List ToplevelId}

theorem modify (h : w.MruOrder log) (t : ToplevelId) {f : ZenToplevel → ZenToplevel}
    (hact : ∀ r, (f r).activated = r.activated) (hmap : ∀ r, (f r).mapped = r.mapped) :
    (w.modify t f).MruOrder log where
  toRecorded := h.toRecorded.modify t f hact
  mapped_mem u hu := h.mapped_mem u (by rwa [w.modify_mapped t hmap] at hu)
  unfocused hf u := by
    rw [w.modify_mapped t hmap]
    exact h.unfocused hf u

theorem of_focus (h : w.Recorded log) {target : Option ToplevelId}
    (htarget : ∀ t ∈ target, t ∈ w.toplevels)
    (hmem : ∀ u, w.mapped u = true → u ∈ log ∨ target = some u)
    (hnone : target = none → ∀ u, w.mapped u = false) :
    (w.focus target).MruOrder
      (if w.focusedToplevel = target then log else target.toList ++ log) where
  toRecorded := h.focus htarget
  mapped_mem u hu := by
    rw [Windows.focus_mapped] at hu
    rcases hmem u hu with hlog | rfl
    · split
      · exact hlog
      · exact List.mem_append_right _ hlog
    · split
      · next hf => exact List.mem_of_mem_head? (h.focused_head u hf)
      · simp
  unfocused hf u := by
    rw [Windows.focus_focusedToplevel] at hf
    rw [Windows.focus_mapped]
    exact hnone hf u

theorem release (h : w.MruOrder log) : w.release.MruOrder log where
  wellFormed := h.wellFormed.release
  follows := h.follows
  focused_head := h.focused_head
  mapped_mem := h.mapped_mem
  unfocused := h.unfocused

theorem reveal_recorded (h : w.MruOrder log) (t : ToplevelId) :
    (w.reveal t).Recorded log :=
  Recorded.modify (h.toRecorded.modify t _ fun _ => by rfl) t _ fun _ => by rfl

theorem hide_recorded (h : w.MruOrder log) (t : ToplevelId) : (w.hide t).Recorded log :=
  Recorded.modify (h.toRecorded.modify t _ fun _ => by rfl) t _ fun _ => by rfl

theorem map (h : w.MruOrder log) {t : ToplevelId} (ht : w.Live t) :
    ((w.reveal t).focus (some t)).MruOrder
      (if w.focusedToplevel = some t then log else t :: log) := by
  refine of_focus (h.reveal_recorded t) ?_ (fun u hu => ?_) (fun hf => by cases hf)
  · rintro u ⟨⟩
    exact (h.wellFormed.live_iff t).mp ht
  · rcases w.reveal_mapped t u hu with rfl | hu
    · exact .inr rfl
    · exact .inl (h.mapped_mem u hu)

theorem hide_focus_next (h : w.MruOrder log) (t : ToplevelId) :
    let next := (w.hide t).toplevels.find? fun u => u ≠ t && (w.hide t).mapped u
    ((w.hide t).focus next).MruOrder
      (if w.focusedToplevel = next then log else next.toList ++ log) := by
  intro next
  refine of_focus (h.hide_recorded t) (fun u hu => List.mem_of_find?_eq_some hu)
    (fun u hu => ?_) (fun hnext u => ?_)
  · rw [Windows.hide_mapped, Bool.and_eq_true] at hu
    exact .inl (h.mapped_mem u hu.2)
  · by_contra hu
    rw [Bool.not_eq_false] at hu
    have hmem := (h.hide_recorded t).wellFormed.mem_of_mapped hu
    have hut : u ≠ t := by
      rw [Windows.hide_mapped, Bool.and_eq_true] at hu
      simpa using hu.1
    simpa [hut, hu] using List.find?_eq_none.mp hnext u hmem

theorem hide (h : w.MruOrder log) (t : ToplevelId) : (w.hide t).MruOrder log where
  toRecorded := h.hide_recorded t
  mapped_mem u hu := by
    rw [Windows.hide_mapped, Bool.and_eq_true] at hu
    exact h.mapped_mem u hu.2
  unfocused hf u := by simp [Windows.hide_mapped, h.unfocused hf u]

theorem free_next (h : w.MruOrder log) (t : ToplevelId) :
    let next := w.toplevels.find? fun u => u ≠ t
    ((w.focus next).free t).MruOrder
      ((if w.focusedToplevel = next then log else next.toList ++ log).filter (· ≠ t)) := by
  intro next
  have hnext : next ≠ some t := fun hnext => by simpa using List.find?_some hnext
  have hrec : (w.focus next).Recorded _ :=
    h.toRecorded.focus fun u hu => List.mem_of_find?_eq_some hu
  refine ⟨hrec.free (by rwa [Windows.focus_focusedToplevel]), fun u hu => ?_, fun hf u => ?_⟩
  · rw [Windows.free_mapped, Windows.focus_mapped, Bool.and_eq_true] at hu
    refine List.mem_filter.mpr ⟨?_, hu.1⟩
    split
    · exact h.mapped_mem u hu.2
    · exact List.mem_append_right _ (h.mapped_mem u hu.2)
  · rw [Windows.free_focusedToplevel, Windows.focus_focusedToplevel] at hf
    rw [Windows.free_mapped, Windows.focus_mapped]
    by_contra hu
    rw [Bool.not_eq_false, Bool.and_eq_true] at hu
    exact List.find?_eq_none.mp hf u (h.wellFormed.mem_of_mapped hu.2) hu.1

theorem free (h : w.MruOrder log) {t : ToplevelId} (ht : w.focusedToplevel ≠ some t) :
    (w.free t).MruOrder (log.filter (· ≠ t)) where
  toRecorded := h.toRecorded.free ht
  mapped_mem u hu := by
    rw [Windows.free_mapped, Bool.and_eq_true] at hu
    exact List.mem_filter.mpr ⟨h.mapped_mem u hu.2, hu.1⟩
  unfocused hf u := by
    rw [Windows.free_focusedToplevel] at hf
    rw [Windows.free_mapped, h.unfocused hf u, Bool.and_false]

theorem destroy (h : w.MruOrder log) (t : ToplevelId) :
    (w.apply (.destroy t)).MruOrder (recordFocus w (w.apply (.destroy t)) log) := by
  have hlive : ∀ u ∈ log, (w.apply (.destroy t)).Live u ↔ u ≠ t := by
    intro u hu
    unfold Windows.apply
    dsimp only
    rw [Windows.free_live]
    split
    · rw [Windows.focus_live]
      exact and_iff_left (h.live hu)
    · exact and_iff_left (h.live hu)
  rcases eq_or_ne w.focusedToplevel (some t) with ht | ht
  · have hw : w.apply (.destroy t) =
        (w.focus (w.toplevels.find? fun u => u ≠ t)).free t := by
      simp [Windows.apply, ht]
    have hnext : (w.toplevels.find? fun u => u ≠ t) ≠ some t :=
      fun hnext => by simpa using List.find?_some hnext
    rw [hw] at hlive ⊢
    rw [recordFocus_of_freed hlive (by simpa using hnext)]
    simpa using h.free_next t
  · have hw : w.apply (.destroy t) = w.free t := by simp [Windows.apply, ht]
    rw [hw] at hlive ⊢
    rw [recordFocus_of_freed hlive (by simpa using ht)]
    simpa using h.free ht

theorem unmap (h : w.MruOrder log) (t : ToplevelId) :
    (w.apply (.unmap t)).MruOrder (recordFocus w (w.apply (.unmap t)) log) := by
  have hlive : ∀ u ∈ log, (w.apply (.unmap t)).Live u := by
    intro u hu
    have hhide : (w.hide t).Live u := (h.hide_recorded t).live hu
    unfold Windows.apply
    dsimp only
    rw [Windows.modify_live]
    split
    · rwa [Windows.focus_live]
    · exact hhide
  rw [recordFocus_of_live hlive]
  rcases eq_or_ne w.focusedToplevel (some t) with ht | ht
  · have hf : (w.hide t).focusedToplevel = some t := ht
    simp only [Windows.apply, hf, if_true, Windows.modify_focusedToplevel,
      Windows.focus_focusedToplevel]
    exact (h.hide_focus_next t).modify t (fun _ => rfl) fun _ => rfl
  · have hf : (w.hide t).focusedToplevel ≠ some t := ht
    simp only [Windows.apply, hf, if_false, Windows.modify_focusedToplevel]
    rw [if_pos (show w.focusedToplevel = (w.hide t).focusedToplevel from rfl)]
    exact (h.hide t).modify t (fun _ => rfl) fun _ => rfl

theorem create (h : w.MruOrder log) {t : ToplevelId} (ht : ¬ w.Live t) (surface : SurfaceId) :
    (w.apply (.create t surface)).MruOrder log := by
  have hmapped : ∀ u, (w.apply (.create t surface)).mapped u = true → w.mapped u = true := by
    intro u hu
    rcases eq_or_ne u t with hut | hut
    · simp [hut, Windows.apply, Windows.mapped] at hu
    · have hnew : (w.apply (.create t surface)).heap u = w.heap u :=
        Function.update_of_ne hut _ w.heap
      simpa only [Windows.mapped, hnew] using hu
  refine ⟨h.toRecorded.create ht surface, fun u hu => h.mapped_mem u (hmapped u hu), ?_⟩
  intro hf u
  by_contra hu
  rw [Bool.not_eq_false] at hu
  simpa [h.unfocused hf u] using hmapped u hu

theorem apply (h : w.MruOrder log) {a : WindowAction} (ha : a.Admissible w)
    (ho : a.Ordered w) : (w.apply a).MruOrder (recordFocus w (w.apply a) log) := by
  have same (hf : w.focusedToplevel = (w.apply a).focusedToplevel)
      (hl : ∀ t ∈ log, (w.apply a).Live t) : recordFocus w (w.apply a) log = log := by
    rw [recordFocus_of_live hl, if_pos hf]
  cases a with
  | idle =>
      rw [same rfl fun t => h.live]
      exact h
  | create t surface =>
      rw [same rfl fun u hu => ?_]
      · exact h.create ha surface
      · have hut : u ≠ t := fun hut => ha (hut ▸ h.live hu)
        have hnew : (w.apply (.create t surface)).heap u = w.heap u :=
          Function.update_of_ne hut _ w.heap
        simpa only [Windows.Live, hnew] using h.live hu
  | commit t maximized fullscreen =>
      rw [same rfl fun u hu => (w.modify_live ..).mpr (h.live hu)]
      exact h.modify t (fun _ => rfl) fun _ => rfl
  | map t =>
      rw [recordFocus_of_live fun u hu => ?_]
      · simpa [Windows.apply] using h.map ha
      · exact (Windows.focus_live ..).mpr ((h.reveal_recorded t).live hu)
  | unmap t => exact h.unmap t
  | destroy t => exact h.destroy t
  | focus target =>
      obtain ⟨t, rfl, ht⟩ := ho
      have hlive : ∀ u ∈ log, (w.focus (some t)).Live u :=
        fun u hu => (w.focus_live ..).mpr (h.live hu)
      change (w.focus (some t)).MruOrder (recordFocus w (w.focus (some t)) log)
      rw [recordFocus_of_live hlive, w.focus_focusedToplevel]
      have hmem : ∀ u ∈ some t, u ∈ w.toplevels := fun u hu =>
        (h.wellFormed.live_iff u).mp (ha u hu)
      exact of_focus h.toRecorded hmem (fun u hu => .inl (h.mapped_mem u hu)) fun hf => by
        cases hf
  | grab t x y nodeX nodeY =>
      rw [same rfl fun t => h.live]
      exact { h with wellFormed := h.wellFormed.apply (a := .grab t x y nodeX nodeY) ha }
  | release =>
      rw [same rfl fun t => h.live]
      exact h.release
  | position t x y =>
      rw [same rfl fun u hu => (w.modify_live ..).mpr (h.live hu)]
      exact h.modify t (fun _ => rfl) fun _ => rfl

end Windows.MruOrder

theorem windowAction_ordered {s : ZenCompositor} {e : Event} (h : Ordered s e) :
    (windowAction s e).Ordered s.windows := by
  have hperforms := windowAction_performs s e
  generalize windowAction s e = a at hperforms ⊢
  cases hperforms with
  | focus => exact absurd h id
  | click ht => exact ⟨_, rfl, h _ ht⟩
  | _ => trivial

/-- The events of an observed run arrive where they can, and in order. -/
def Proper (p : ZenCompositor × List ToplevelId) (e : Event) : Prop :=
  Admissible p.1 e ∧ Ordered p.1 e

instance (p : ZenCompositor × List ToplevelId) (e : Event) : Decidable (Proper p e) :=
  inferInstanceAs (Decidable (_ ∧ _))

theorem stepLogged_mruOrder {p : ZenCompositor × List ToplevelId} {e : Event}
    (hp : p.1.windows.MruOrder p.2) (he : Proper p e) :
    (stepLogged p e).1.windows.MruOrder (stepLogged p e).2 := by
  have := hp.apply (windowAction_admissible he.1) (windowAction_ordered he.2)
  rwa [← step_windows] at this

section Runs

variable (outputs : List Output) (bindings : List ZenKeybinding) (idleTimer : Bool)

theorem created_mruOrder : (created outputs bindings idleTimer).windows.MruOrder [] where
  wellFormed := created_windows_wellFormed outputs bindings idleTimer
  follows := Follows.empty _
  focused_head t ht := by cases ht
  mapped_mem t ht := by cases ht
  unfocused _ t := rfl

theorem run_mruOrder {events : List Event}
    (h : Along stepLogged Proper (created outputs bindings idleTimer, []) events) :
    let p := exec stepLogged (created outputs bindings idleTimer, []) events
    p.1.windows.MruOrder p.2 :=
  Along.invariant (I := fun p => p.1.windows.MruOrder p.2)
    (fun _ _ hp he => stepLogged_mruOrder hp he) h
    (created_mruOrder outputs bindings idleTimer)

/-- The MRU law.  The focused toplevel precedes every other mapped one, nothing is
mapped while nothing is focused, and the toplevels that have been focused stand in
the order of the latest moment each became focused. -/
theorem toplevels_mru (events : List Event)
    (h : Along stepLogged Proper (created outputs bindings idleTimer, []) events) :
    let p := exec stepLogged (created outputs bindings idleTimer, []) events
    let w := p.1.windows
    (∀ t, w.focusedToplevel = some t → ∀ u, u ≠ t → w.mapped u = true →
        [t, u].Sublist w.toplevels) ∧
      (w.focusedToplevel = none → ∀ u, w.mapped u = false) ∧
      w.toplevels.filter (· ∈ p.2) = p.2.eraseDups := by
  intro p w
  have hw : w.MruOrder p.2 := run_mruOrder outputs bindings idleTimer h
  refine ⟨fun t ht u hut hu => ?_, hw.unfocused, hw.follows⟩
  exact hw.follows.sublist (hw.focused_head t ht) (hw.mapped_mem u hu) hut

/-- Three windows; the first is clicked, the second destroyed. -/
theorem toplevels_mru_click :
    let p := exec stepLogged (created [] [] true, [])
      (showWindow 1 11 ++ showWindow 2 12 ++ showWindow 3 13 ++
        [.cursorButton true (some ⟨[.toplevel 1, .root], some 11, 0, 0⟩), .unmap 3,
          .destroy 2])
    let w := p.1.windows
    (∀ t, w.focusedToplevel = some t → ∀ u, u ≠ t → w.mapped u = true →
        [t, u].Sublist w.toplevels) ∧
      (w.focusedToplevel = none → ∀ u, w.mapped u = false) ∧
      w.toplevels.filter (· ∈ p.2) = p.2.eraseDups :=
  toplevels_mru [] [] true _ (by decide)

end Runs

/-- The most recently focused mapped toplevel other than `t`. -/
def successor (w : Windows) (log : List ToplevelId) (t : ToplevelId) : Option ToplevelId :=
  log.find? fun u => u ≠ t && w.mapped u

/-- When the focused toplevel leaves, the focus moves to its successor. -/
def TransfersFocus (p : ZenCompositor × List ToplevelId) (e : Event) : Prop :=
  ∀ t, e = .unmap t ∨ e = .destroy t → p.1.windows.focusedToplevel = some t →
    (step p.1 e).windows.focusedToplevel = successor p.1.windows p.2 t

/-- No toplevel that was never mapped, or is unmapped, heads the rest of the list when
the focused toplevel is destroyed. -/
def MappedHeadOnDestroy (p : ZenCompositor × List ToplevelId) (e : Event) : Prop :=
  ∀ t, e = .destroy t → p.1.windows.focusedToplevel = some t →
    ∀ u ∈ (p.1.windows.toplevels.erase t).head?, p.1.windows.mapped u = true

namespace Windows.MruOrder

variable {w : Windows} {log : List ToplevelId}

theorem unmap_focused (h : w.MruOrder log) {t : ToplevelId}
    (ht : w.focusedToplevel = some t) :
    (w.apply (.unmap t)).focusedToplevel = successor w log t := by
  have hf : (w.hide t).focusedToplevel = some t := ht
  simp only [Windows.apply, hf, if_true, Windows.modify_focusedToplevel,
    Windows.focus_focusedToplevel]
  rw [Windows.hide_mapped_other]
  refine h.follows.find? fun u _ hu => ?_
  rw [Bool.and_eq_true] at hu
  exact h.mapped_mem u hu.2

theorem find?_ne_eq_head? (h : w.MruOrder log) (t : ToplevelId) :
    (w.toplevels.find? fun u => u ≠ t) = (w.toplevels.erase t).head? := by
  rw [h.wellFormed.nodup.erase_eq_filter, List.head?_filter]
  exact List.find?_congr fun u _ => by rcases eq_or_ne u t with hu | hu <;> simp [hu]

theorem destroy_focused (h : w.MruOrder log) {t : ToplevelId}
    (ht : w.focusedToplevel = some t) :
    (w.apply (.destroy t)).focusedToplevel = successor w log t ↔
      ∀ u ∈ (w.toplevels.erase t).head?, w.mapped u = true := by
  have hsucc : successor w log t = w.toplevels.find? fun u => u ≠ t && w.mapped u := by
    refine (h.follows.find? fun u _ hu => ?_).symm
    rw [Bool.and_eq_true] at hu
    exact h.mapped_mem u hu.2
  have hnext : (w.apply (.destroy t)).focusedToplevel = (w.toplevels.erase t).head? := by
    simp only [Windows.apply, ht, if_true, Windows.free_focusedToplevel,
      Windows.focus_focusedToplevel]
    exact h.find?_ne_eq_head? t
  have hfind : (w.toplevels.find? fun u => u ≠ t && w.mapped u) =
      (w.toplevels.erase t).find? w.mapped := by
    rw [h.wellFormed.nodup.erase_eq_filter, List.find?_filter]
    exact List.find?_congr fun u _ => by rcases eq_or_ne u t with hu | hu <;> simp [hu]
  rw [hnext, hsucc, hfind]
  exact head?_eq_find?_iff w.mapped _

end Windows.MruOrder

theorem transfersFocus_iff {p : ZenCompositor × List ToplevelId}
    (hp : p.1.windows.MruOrder p.2) (e : Event) :
    TransfersFocus p e ↔ MappedHeadOnDestroy p e := by
  refine ⟨fun h t he ht => ?_, fun h t he ht => ?_⟩
  · have := h t (.inr he) ht
    rw [step_windows, he] at this
    exact (hp.destroy_focused ht).mp this
  · rw [step_windows]
    rcases he with rfl | rfl
    · exact hp.unmap_focused ht
    · exact (hp.destroy_focused ht).mpr (h t rfl ht)

/-- In every run the focus goes to the most recently focused mapped toplevel whenever
the focused one leaves, exactly when no focused toplevel is destroyed while an
unmapped one heads the others. -/
theorem focus_transfer_iff (outputs : List Output) (bindings : List ZenKeybinding)
    (idleTimer : Bool) (events : List Event)
    (h : Along stepLogged Proper (created outputs bindings idleTimer, []) events) :
    Along stepLogged TransfersFocus (created outputs bindings idleTimer, []) events ↔
      Along stepLogged MappedHeadOnDestroy (created outputs bindings idleTimer, []) events :=
  along_iff_along (I := fun p => p.1.windows.MruOrder p.2)
    (fun _ _ hp he _ => stepLogged_mruOrder hp he)
    (fun _ e hp _ => transfersFocus_iff hp e) h
    (created_mruOrder outputs bindings idleTimer)

/-- A run in which the focused one of two windows is destroyed. -/
theorem focus_transfer_iff_two_windows :
    Along stepLogged TransfersFocus (created [] [] true, [])
        (showWindow 1 11 ++ showWindow 2 12 ++ [.destroy 2]) ↔
      Along stepLogged MappedHeadOnDestroy (created [] [] true, [])
        (showWindow 1 11 ++ showWindow 2 12 ++ [.destroy 2]) :=
  focus_transfer_iff [] [] true _ (by decide)

/-- Toplevel 3 has just been created and is not mapped; destroying the focused
toplevel 2 gives it the focus, and not the mapped toplevel 1. -/
theorem destroy_focuses_unmapped :
    let events := showWindow 1 11 ++ showWindow 2 12 ++ [.newToplevel 3 13 true]
    let p := exec stepLogged (created [] [] true, []) events
    Along stepLogged Proper (created [] [] true, []) (events ++ [.destroy 2]) ∧
      p.1.windows.focusedToplevel = some 2 ∧
      (step p.1 (.destroy 2)).windows.focusedToplevel = some 3 ∧
      (step p.1 (.destroy 2)).windows.mapped 3 = false ∧
      successor p.1.windows p.2 2 = some 1 ∧
      (step p.1 (.unmap 2)).windows.focusedToplevel = some 1 ∧
      ¬ Along stepLogged TransfersFocus (created [] [] true, []) (events ++ [.destroy 2]) := by
  refine ⟨by decide, by decide, by decide, by decide, by decide, by decide, fun h => ?_⟩
  have := ((along_append _ _ _ _).mp h).2.1 2 (.inr rfl) (by decide)
  exact absurd this (by decide)

end ZenOS.Compositor
