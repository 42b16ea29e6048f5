import ZenOS.Compositor.LockScreen
import ZenOS.Library.Runs
import Mathlib.Data.Set.Lattice
import Mathlib.Data.Set.Prod
import Mathlib.Order.Interval.Set.LinearOrder
import Mathlib.Data.Rat.Cast.Order

/-!
Which part of the output layout the lock buffer covers.  A box stands for a set of
points; the lock has to cover the points of every enabled output.
-/

namespace ZenOS.Compositor

open ZenOS.Library.Runs

/-- The points of the layout that lie in a box. -/
def Box.region (b : Box) : Set (ℚ × ℚ) :=
  Set.Ico (b.x : ℚ) (b.x + b.width) ×ˢ Set.Ico (b.y : ℚ) (b.y + b.height)

/-- The box is empty, or it lies inside `b'`. -/
def Box.Within (b b' : Box) : Prop :=
  b.width ≤ 0 ∨ b.height ≤ 0 ∨
    (b'.x ≤ b.x ∧ b.x + b.width ≤ b'.x + b'.width) ∧
      b'.y ≤ b.y ∧ b.y + b.height ≤ b'.y + b'.height

instance (b b' : Box) : Decidable (b.Within b') :=
  inferInstanceAs (Decidable (_ ∨ _ ∨ _))

theorem Box.mem_region {b : Box} {x y : ℚ} :
    (x, y) ∈ b.region ↔ b.containsPoint x y = true := by
  have hpos : ∀ {a w : Int} {q : ℚ}, (a : ℚ) ≤ q → q < a + w → 0 < w := by
    intro a w q hlo hhi
    have : (a : ℚ) < a + w := hlo.trans_lt hhi
    exact_mod_cast (lt_add_iff_pos_right (a : ℚ)).mp this
  simp only [Box.region, Set.mem_prod, Set.mem_Ico, Box.containsPoint, Bool.and_eq_true,
    decide_eq_true_eq]
  constructor
  · rintro ⟨⟨hx, hx'⟩, hy, hy'⟩
    exact ⟨⟨⟨⟨⟨hpos hx hx', hpos hy hy'⟩, hx⟩, hx'⟩, hy⟩, hy'⟩
  · rintro ⟨⟨⟨⟨-, hx⟩, hx'⟩, hy⟩, hy'⟩
    exact ⟨⟨hx, hx'⟩, hy, hy'⟩

theorem Box.region_subset_iff (b b' : Box) : b.region ⊆ b'.region ↔ b.Within b' := by
  have hempty : ∀ a w : Int, Set.Ico (a : ℚ) (a + w) = ∅ ↔ w ≤ 0 := by
    intro a w
    rw [Set.Ico_eq_empty_iff, not_lt, add_le_iff_nonpos_right]
    exact_mod_cast Iff.rfl
  have hsubset : ∀ {a w : Int} (a' w' : Int), 0 < w →
      (Set.Ico (a : ℚ) (a + w) ⊆ Set.Ico (a' : ℚ) (a' + w') ↔
        a' ≤ a ∧ a + w ≤ a' + w') := by
    intro a w a' w' hw
    rw [Set.Ico_subset_Ico_iff (lt_add_of_pos_right _ (by exact_mod_cast hw))]
    exact_mod_cast Iff.rfl
  rw [Box.region, Box.region, Set.prod_subset_prod_iff, hempty, hempty, Box.Within]
  rcases le_or_gt b.width 0 with hw | hw
  · simp [hw]
  rcases le_or_gt b.height 0 with hh | hh
  · simp [hh]
  rw [hsubset _ _ hw, hsubset _ _ hh]
  simp [hw.not_ge, hh.not_ge]

/-- The scene nodes of the lock screen hide every point of every enabled output. -/
def LockCovers (s : ZenCompositor) : Prop :=
  ∀ o ∈ s.outputLayout, o.enabled = true →
    o.box.region ⊆ ⋃ b ∈ s.lock.screen.lockBuffer, b.region

def OutputsWithin (box : Box) (layout : List Output) : Prop :=
  ∀ o ∈ layout, o.enabled = true → o.box.Within box

instance (box : Box) (layout : List Output) : Decidable (OutputsWithin box layout) :=
  inferInstanceAs (Decidable (∀ o ∈ layout, _))

/-- The output layout as an event leaves it: an output is added, changed or dropped,
and the layout positions its outputs anew. -/
def layoutAfter (s : ZenCompositor) : Event → List Output
  | .newOutput o place allocs =>
      if allocs.output then arrange place (s.outputLayout ++ [o]) else s.outputLayout
  | .outputRequestState id state place =>
      arrange place (s.outputLayout.map fun o => if o.id = id then state.apply o else o)
  | .outputDestroy id place => arrange place (s.outputLayout.filter fun o => o.id ≠ id)
  | _ => s.outputLayout

/-- When the screen gets locked the enabled outputs lie inside the box at the origin
that has the size of the first output, and they stay inside the box of the lock
buffer while the screen is locked. -/
def Coverable (s : ZenCompositor) (e : Event) : Prop :=
  (Locks s e → OutputsWithin (lockBox s.outputLayout) s.outputLayout) ∧
    ∀ box ∈ s.lock.screen.lockBuffer, OutputsWithin box (layoutAfter s e)

theorem lockCovers_iff {s : ZenCompositor} {box : Box}
    (h : s.lock.screen.lockBuffer = some box) :
    LockCovers s ↔ OutputsWithin box s.outputLayout := by
  have hunion : ⋃ b ∈ s.lock.screen.lockBuffer, b.region = box.region := by
    rw [h]
    ext p
    simp
  rw [LockCovers, hunion]
  exact forall₂_congr fun o _ => imp_congr_right fun _ => Box.region_subset_iff o.box box

section Step

variable {s : ZenCompositor} {e : Event}

theorem step_layoutAfter : (step s e).outputLayout = layoutAfter s e := by
  rcases eq_or_ne e.owner .outputs with ho | ho
  · cases e with
    | newOutput o place allocs => exact handleNewOutput_outputLayout _ o place allocs
    | wallpaperInit stateOk treeOk =>
        cases stateOk <;> cases treeOk <;> rfl
    | wallpaperDestroy =>
        change (zenWallpaperDestroy { s with calls := [] }).outputLayout = s.outputLayout
        rw [zenWallpaperDestroy]
        split <;> rfl
    | outputRequestState | outputDestroy => rfl
    | _ => cases ho
  · rw [step_outputLayout s ho]
    cases e <;> first | rfl | exact absurd rfl ho

theorem lockBuffer_of_locked (hc : s.lock.Consistent) (hl : s.lock.locked = true) :
    ∃ box, s.lock.screen.lockBuffer = some box :=
  Option.isSome_iff_exists.mp (hc.symm.trans hl)

theorem lockBuffer_of_unlocked (hc : s.lock.Consistent) (hl : s.lock.locked = false) :
    s.lock.screen.lockBuffer = none := by
  simpa [LockState.Consistent, hl] using hc

theorem step_lockBuffer (hc : s.lock.Consistent) (hlocks : ¬ Locks s e) :
    (step s e).lock.locked = false ∨
      (step s e).lock.screen.lockBuffer = s.lock.screen.lockBuffer := by
  rcases eq_or_ne e.owner .lock with ho | ho
  · rcases step_of_not_locks hc ho hlocks with hsame | hunlocked
    · exact .inr hsame.lockBuffer
    · exact .inl hunlocked.locked
  · exact .inr (congrArg (·.screen.lockBuffer) (step_lock s ho))

theorem step_lockCovers_iff (hc : s.lock.Consistent)
    (hcovers : s.lock.locked = true → LockCovers s) :
    ((step s e).lock.locked = true → LockCovers (step s e)) ↔ Coverable s e := by
  have hc' : (step s e).lock.Consistent := step_consistent hc
  have hlayout : (step s e).outputLayout = layoutAfter s e := step_layoutAfter
  by_cases hlocks : Locks s e
  · -- the new lock buffer has the size of the layout's first output
    obtain ⟨hl, hbuffer, -⟩ := step_locks hlocks
    have hsame : (step s e).outputLayout = s.outputLayout :=
      step_outputLayout s (by rw [hlocks.owner]; simp)
    have hnone := lockBuffer_of_unlocked hc hlocks.1
    rw [lockCovers_iff hbuffer, hsame, Coverable, hnone]
    simp [hl, hlocks]
  · rw [Coverable]
    rcases hl : s.lock.locked with _ | _
    · have hnone := lockBuffer_of_unlocked hc hl
      have hl' : (step s e).lock.locked = false := by
        rcases step_lockBuffer hc hlocks with hunlocked | hsame
        · exact hunlocked
        · rw [hc', hsame, hnone]
          rfl
      simp [hl', hnone, hlocks]
    · obtain ⟨box, hbox⟩ := lockBuffer_of_locked hc hl
      rcases step_lockBuffer hc hlocks with hunlocked | hsame
      · -- the event unlocks the screen; it is none of those that change the layout
        have ho : e.owner = .lock := by
          by_contra ho
          rw [step_lock s ho, hl] at hunlocked
          cases hunlocked
        have hwithin : OutputsWithin box (layoutAfter s e) := by
          rw [← hlayout, step_outputLayout s (by rw [ho]; simp)]
          exact (lockCovers_iff hbox).mp (hcovers hl)
        simp [hunlocked, hlocks, hbox, hwithin]
      · have hl' : (step s e).lock.locked = true := by
          rw [hc', hsame, hbox]
          rfl
        rw [lockCovers_iff (hsame.trans hbox), hlayout, hbox]
        simp [hl', hlocks]

end Step

section Runs

variable (outputs : List Output) (bindings : List ZenKeybinding) (idleTimer : Bool)

/-- In every locked state of a run the lock screen covers every enabled output, exactly
when the enabled outputs lie inside the box of the lock buffer whenever the screen gets
locked and after every change of the layout while it is locked. -/
theorem run_lockCovers_iff (events : List Event) :
    Along step (fun s e => (step s e).lock.locked = true → LockCovers (step s e))
        (created outputs bindings idleTimer) events ↔
      Along step Coverable (created outputs bindings idleTimer) events := by
  refine along_iff_along (P := fun _ _ => True)
    (I := fun s => s.lock.Consistent ∧ (s.lock.locked = true → LockCovers s))
    (fun s e hs _ hcovers => ⟨step_consistent hs.1, hcovers⟩)
    (fun s e hs _ => step_lockCovers_iff hs.1 hs.2) (along_true _ _) ?_
  exact ⟨created_consistent outputs bindings idleTimer, fun hl => by cases hl⟩

end Runs

/-- An output of the given id, size and position, without transform and scale. -/
def plainOutput (id : OutputId) (width height x y : Int) : Output :=
  { id, enabled := true, width, height, transposed := false, scale := 1, x, y }

/-- Two outputs side by side: the second one stays uncovered. -/
theorem second_output_uncovered :
    let s := created [plainOutput 1 1920 1080 0 0, plainOutput 2 1920 1080 1920 0] [] true
    Along step Admissible s [.idleTimeout true] ∧
      ¬ Along step (fun s e => (step s e).lock.locked = true → LockCovers (step s e)) s
        [.idleTimeout true] := by
  refine ⟨by decide, fun h => ?_⟩
  have hcovers := h.1 (by decide)
  have hbuffer : (step (created [plainOutput 1 1920 1080 0 0, plainOutput 2 1920 1080 1920 0]
      [] true) (.idleTimeout true)).lock.screen.lockBuffer =
        some { x := 0, y := 0, width := 1920, height := 1080 } := by decide
  rw [lockCovers_iff hbuffer] at hcovers
  exact absurd hcovers (by decide +kernel)

end ZenOS.Compositor
