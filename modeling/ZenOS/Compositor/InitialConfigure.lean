import ZenOS.Compositor.WindowMachine
import ZenOS.Library.Runs

/-!
The initial configure.  A client may attach a buffer only after a configure that
answers its initial commit; this file follows which surfaces have got theirs.
-/

namespace ZenOS.Compositor

open ZenOS.Library.Runs

inductive ShellSurface where
  | toplevel (t : ToplevelId)
  | layer (l : LayerId)
  deriving DecidableEq

/-- The surface for which the call schedules a configure. -/
def Call.configures : Call → Option ShellSurface
  | .setActivated t .. | .setSize t .. | .setMaximized t .. | .setFullscreen t .. =>
      some (.toplevel t)
  | .layerConfigure l .. => some (.layer l)
  | _ => none

/-- The surface has made its initial commit, and has not been unmapped since. -/
def committed (s : ZenCompositor) : ShellSurface → Bool
  | .toplevel t => s.windows.initialized t
  | .layer l => (s.layerSurfaces l).any (·.initialized)

/-- The surface that makes its initial commit with the event: the first commit of its
life or the first one after an unmap. -/
def initialCommit (s : ZenCompositor) : Event → Option ShellSurface
  | .commit t _ _ =>
      if (s.windows.heap t).any (!·.initialized) then some (.toplevel t) else none
  | .layerCommit l =>
      if (s.layerSurfaces l).any (!·.initialized) then some (.layer l) else none
  | _ => none

/-- The compositor with the surfaces that have been configured since their initial
commit. -/
def stepConfigured (p : ZenCompositor × List ShellSurface) (e : Event) :
    ZenCompositor × List ShellSurface :=
  let s := step p.1 e
  let configured := match initialCommit p.1 e with
    | some x => p.2.filter (· ≠ x)
    | none => p.2
  (s, s.calls.filterMap Call.configures ++ configured)

/-- Every surface whose initial commit has been handled has been configured since. -/
def AllConfigured (p : ZenCompositor × List ShellSurface) : Prop :=
  ∀ x, committed p.1 x = true → x ∈ p.2

theorem exec_stepConfigured_fst (p : ZenCompositor × List ShellSurface)
    (events : List Event) : (exec stepConfigured p events).1 = exec step p.1 events :=
  exec_fst (fun _ _ => rfl) p events

theorem committed_of_initialCommit {s : ZenCompositor} {e : Event} {x : ShellSurface}
    (h : initialCommit s e = some x) : committed (step s e) x = true := by
  cases e with
  | commit t maximized fullscreen =>
      rw [initialCommit, Option.ite_none_right_eq_some] at h
      obtain ⟨hheap, hx⟩ := h
      cases hx
      rcases hr : s.windows.heap t with _ | r
      · simp [hr] at hheap
      · simp [committed, step, handle, handleToplevelCommit, Windows.initialized,
          Windows.modify_heap, hr]
  | layerCommit l =>
      rw [initialCommit, Option.ite_none_right_eq_some] at h
      obtain ⟨hlayer, hx⟩ := h
      cases hx
      rcases hr : s.layerSurfaces l with _ | r
      · simp [hr] at hlayer
      · simp [committed, step, handle, modifyLayer, hr]
  | _ => cases h

theorem calls_of_initialCommit {s : ZenCompositor} {e : Event} {x : ShellSurface}
    (h : initialCommit s e = some x) : (step s e).calls = [] := by
  cases e <;> first | rfl | cases h

theorem not_mem_of_initialCommit {p : ZenCompositor × List ShellSurface} {e : Event}
    {x : ShellSurface} (h : initialCommit p.1 e = some x) : x ∉ (stepConfigured p e).2 := by
  rw [stepConfigured, calls_of_initialCommit h, h]
  simp

theorem any_update {α β : Type*} [DecidableEq α] {f : α → Option β} {p : β → Bool}
    (hf : ∀ a, (f a).any p = false) {b : α} {v : Option β} (hv : v.any p = false) (a : α) :
    (Function.update f b v a).any p = false := by
  rw [Function.update_apply]
  split
  · exact hv
  · exact hf a

theorem modifyLayer_uninitialized {s : ZenCompositor}
    (hs : ∀ l, (s.layerSurfaces l).any (·.initialized) = false)
    {f : ZenLayerSurface → ZenLayerSurface}
    (hf : ∀ r, r.initialized = false → (f r).initialized = false) (k l : LayerId) :
    ((modifyLayer s k f).layerSurfaces l).any (·.initialized) = false := by
  refine any_update hs ?_ l
  have hk := hs k
  cases hr : s.layerSurfaces k with
  | none => rfl
  | some r =>
      rw [hr] at hk
      exact hf r hk

section Uncommitted

variable {s : ZenCompositor} {e : Event}

theorem Windows.unmap_uninitialized {w : Windows} (hw : ∀ u, w.initialized u = false)
    (t u : ToplevelId) : (w.apply (.unmap t)).initialized u = false := by
  have hhide : ∀ v, (w.hide t).initialized v = false := fun v =>
    (w.hide_initialized t v).trans (hw v)
  have hmoved : ∀ v, Windows.initialized (if (w.hide t).focusedToplevel = some t then
      (w.hide t).focus ((w.hide t).toplevels.find? fun u => u ≠ t && (w.hide t).mapped u)
      else w.hide t) v = false := by
    intro v
    split
    · exact (Windows.focus_initialized ..).trans (hhide v)
    · exact hhide v
  rw [Windows.apply]
  refine any_update hmoved ?_ u
  cases Windows.heap _ t <;> rfl

theorem step_initialized_of_none (hs : ∀ t, s.windows.initialized t = false)
    (h : initialCommit s e = none) (u : ToplevelId) :
    (step s e).windows.initialized u = false := by
  rw [step_windows]
  have hperforms := windowAction_performs s e
  generalize windowAction s e = a at hperforms ⊢
  cases hperforms with
  | idle | release | grab => exact hs u
  | position => exact (Windows.modify_initialized _ _ (fun _ => by rfl) u).trans (hs u)
  | create => exact any_update hs (by rfl) u
  | @commit t maximized fullscreen =>
      refine any_update hs ?_ u
      rcases hr : s.windows.heap t with _ | r
      · rfl
      · have hr' := (s.windows.initialized_of_heap t hr).symm.trans (hs t)
        simp [initialCommit, hr, hr'] at h
  | map =>
      change ((s.windows.reveal _).focus _).initialized u = false
      rw [Windows.focus_initialized, Windows.reveal_initialized]
      exact hs u
  | @unmap t => exact Windows.unmap_uninitialized hs t u
  | @destroy t =>
      rw [Windows.apply, Windows.free_initialized]
      split
      · rw [Windows.focus_initialized, hs u, Bool.and_false]
      · rw [hs u, Bool.and_false]
  | focus | click => exact (Windows.focus_initialized ..).trans (hs u)

theorem step_layers_of_none (hs : ∀ l, (s.layerSurfaces l).any (·.initialized) = false)
    (h : initialCommit s e = none) (l : LayerId) :
    ((step s e).layerSurfaces l).any (·.initialized) = false := by
  rcases eq_or_ne e.owner .layers with ho | ho
  · cases e with
    | newLayerSurface k output ok =>
        cases ok with
        | false => exact hs l
        | true =>
            change Option.any _ ((handleNewLayerSurface _ k output true).layerSurfaces l) = _
            rw [handleNewLayerSurface_layerSurfaces]
            exact any_update hs (by rfl) l
    | layerCommit k =>
        refine any_update hs ?_ l
        have hk := hs k
        rcases hr : s.layerSurfaces k with _ | r
        · rfl
        · rw [hr] at hk
          simp [initialCommit, hr, show r.initialized = false from hk] at h
    | layerMap k =>
        exact modifyLayer_uninitialized (s := { s with calls := [] })
          (f := fun r => { r with nodeEnabled := true }) hs (fun _ hr => hr) k l
    | layerUnmap k =>
        have hunmap : ∀ l, ((handleLayerSurfaceUnmap { s with calls := [] } k).layerSurfaces l).any
            (·.initialized) = false :=
          modifyLayer_uninitialized (s := { s with calls := [] })
            (f := fun r => { r with nodeEnabled := false }) hs (fun _ hr => hr) k
        exact modifyLayer_uninitialized hunmap (fun _ _ => rfl) k l
    | layerDestroy k => exact any_update hs (by rfl) l
    | _ => cases ho
  · change Option.any _ ((handle _ e).layerSurfaces l) = false
    rw [(handle_writes { s with calls := [] } e).layerSurfaces ho]
    exact hs l

theorem step_uncommitted (hs : ∀ x, committed s x = false) (h : initialCommit s e = none)
    (x : ShellSurface) : committed (step s e) x = false := by
  cases x with
  | toplevel t => exact step_initialized_of_none (fun t => hs (.toplevel t)) h t
  | layer l => exact step_layers_of_none (fun l => hs (.layer l)) h l

end Uncommitted

section Runs

variable (outputs : List Output) (bindings : List ZenKeybinding) (idleTimer : Bool)

/-- Every committed surface is configured all along a run exactly when no surface ever
commits: neither commit handler schedules a configure. -/
theorem run_allConfigured_iff (events : List Event) :
    Along stepConfigured (fun p e => AllConfigured (stepConfigured p e))
        (created outputs bindings idleTimer, []) events ↔
      Along stepConfigured (fun p e => initialCommit p.1 e = none)
        (created outputs bindings idleTimer, []) events := by
  have hiff : ∀ (p : ZenCompositor × List ShellSurface) e, (∀ x, committed p.1 x = false) →
      True → (AllConfigured (stepConfigured p e) ↔ initialCommit p.1 e = none) := by
    intro p e hp _
    constructor
    · intro hall
      by_contra hcommit
      obtain ⟨x, hx⟩ := Option.ne_none_iff_exists'.mp hcommit
      exact not_mem_of_initialCommit hx (hall x (committed_of_initialCommit hx))
    · intro hnone x hx
      have hx' := step_uncommitted hp hnone x
      exact absurd (hx.symm.trans hx') Bool.noConfusion
  refine along_iff_along (I := fun p => ∀ x, committed p.1 x = false)
    (fun p e hp he hall x => ?_) hiff (along_true _ _) fun x => ?_
  · exact step_uncommitted hp ((hiff p e hp he).mp hall) x
  · cases x <;> rfl

end Runs

/-- A toplevel and a layer surface, which was announced before there was any output,
commit and wait. -/
theorem initial_commit_is_not_configured :
    let events : List Event := [.newToplevel 1 11 true, .newLayerSurface 1 none true,
      .commit 1 false false, .layerCommit 1]
    let p := exec stepConfigured (created [] [] true, []) events
    Along step Admissible (created [] [] true) events ∧
      committed p.1 (.toplevel 1) = true ∧ committed p.1 (.layer 1) = true ∧ p.2 = [] ∧
      ¬ AllConfigured p := by
  refine ⟨by decide, rfl, rfl, rfl, fun hall => ?_⟩
  exact List.not_mem_nil (hall (.toplevel 1) rfl)

end ZenOS.Compositor
