import ZenOS.Compositor.Geometry
import ZenOS.Compositor.LockCoverage
import Mathlib.Data.List.Nodup

/-!
The output that a window is maximized or made fullscreen on: the one under its top left
corner, else the first of the layout.
-/

namespace ZenOS.Compositor

open ZenOS.Library.Runs

/-- Two boxes have a point in common. -/
def Box.Overlaps (b b' : Box) : Prop :=
  (b.region ∩ b'.region).Nonempty

theorem Box.overlaps_iff (b b' : Box) : b.Overlaps b' ↔
    max b.x b'.x < min (b.x + b.width) (b'.x + b'.width) ∧
      max b.y b'.y < min (b.y + b.height) (b'.y + b'.height) := by
  rw [Box.Overlaps, Box.region, Box.region, Set.prod_inter_prod, Set.prod_nonempty_iff,
    Set.Ico_inter_Ico, Set.Ico_inter_Ico, Set.nonempty_Ico, Set.nonempty_Ico]
  exact_mod_cast Iff.rfl

instance (b b' : Box) : Decidable (b.Overlaps b') :=
  decidable_of_iff _ (Box.overlaps_iff b b').symm

/-- The box of a window of the given size. -/
def ZenToplevel.box (r : ZenToplevel) (width height : Int) : Box :=
  { x := r.nodeX, y := r.nodeY, width, height }

/-- The toggle schedules the size of the box, and moves the window to the box. -/
structure AssignsBox (s : ZenCompositor) (t : ToplevelId) (toggle : Toggle) (box : Box) :
    Prop where
  size : .setSize t box.width box.height (s.windows.initialized t) ∈
    (step s (toggle.event t)).calls
  position : ∃ r, (step s (toggle.event t)).windows.heap t = some r ∧
    r.nodeX = box.x ∧ r.nodeY = box.y

section Choice

variable {s : ZenCompositor} {t : ToplevelId} {r : ZenToplevel} {toggle : Toggle}
  {layout : List Output} {o : Output}

theorem wlrOutputLayoutGetBox_of_mem (hids : (layout.map (·.id)).Nodup) (ho : o ∈ layout) :
    wlrOutputLayoutGetBox layout o.id = o.box := by
  rw [wlrOutputLayoutGetBox]
  split
  · next o' hfind =>
      have hid : o'.id = o.id := by simpa using List.find?_some hfind
      rw [List.inj_on_of_nodup_map hids (List.mem_of_find?_eq_some hfind) ho hid]
  · next hnone => simpa using List.find?_eq_none.mp hnone o ho

theorem outputOfToplevel_cases (hout : s.outputLayout ≠ []) :
    ∃ o ∈ s.outputLayout, outputOfToplevel s r = some o.id ∧
      (o.box.containsPoint r.nodeX r.nodeY = true ∨
        (∀ o ∈ s.outputLayout, ¬ o.box.containsPoint r.nodeX r.nodeY = true) ∧
          s.outputLayout.head? = some o) := by
  rw [outputOfToplevel, wlrOutputLayoutOutputAt]
  rcases hfind : s.outputLayout.find? fun o => o.box.containsPoint r.nodeX r.nodeY with _ | o
  · obtain ⟨o, rest, hcons⟩ := List.exists_cons_of_ne_nil hout
    have hhead : s.outputLayout.head? = some o := by rw [hcons, List.head?_cons]
    have ho : o ∈ s.outputLayout := List.mem_of_mem_head? hhead
    refine ⟨o, ho, ?_, .inr ⟨List.find?_eq_none.mp hfind, hhead⟩⟩
    rw [hfind, hhead]
    rfl
  · refine ⟨o, List.mem_of_find?_eq_some hfind, ?_, .inl (by simpa using List.find?_some hfind)⟩
    rw [hfind]
    rfl

theorem assignsBox_iff {id : OutputId} {box box' : Box} (hr : s.windows.heap t = some r)
    (hflag : toggle.flag r = false)
    (hid : toggle.requested.or (outputOfToplevel s r) = some id)
    (hbox : wlrOutputLayoutGetBox s.outputLayout id = box') :
    AssignsBox s t toggle box ↔ box = box' := by
  have hstep := step_toggle_box hr hflag hid hbox
  have hheap : (step s (toggle.event t)).windows.heap t =
      some { r with nodeX := box'.x, nodeY := box'.y } := by
    rw [hstep, Windows.modify_heap, if_pos rfl, hr, Option.map_some]
  have hcall : ∀ on initialized, .setSize t box.width box.height (s.windows.initialized t) ≠
      toggle.call t on initialized := by
    intro on initialized
    cases toggle <;> rintro ⟨⟩
  constructor
  · rintro ⟨hsize, r', hr', hx, hy⟩
    rw [hheap] at hr'
    rw [hstep] at hsize
    cases hr'
    rcases List.mem_cons.mp hsize with hsize | hsize
    · rcases box with ⟨x, y, width, height⟩
      cases hsize
      cases hx
      cases hy
      rfl
    · exact absurd (List.mem_singleton.mp hsize) (hcall _ _)
  · rintro rfl
    refine ⟨?_, _, hheap, rfl, rfl⟩
    rw [hstep]
    exact List.mem_cons_self

theorem overlaps_of_corner {b b' : Box} {width height : Int}
    (hon : b'.Overlaps (r.box width height))
    (hcorner : b.containsPoint r.nodeX r.nodeY = true) : b.Overlaps (r.box width height) := by
  obtain ⟨hx, hy⟩ := (Box.overlaps_iff _ _).mp hon
  refine ⟨(r.nodeX, r.nodeY), Box.mem_region.mpr hcorner, ?_⟩
  have hwidth : 0 < width := by
    change _ < min _ (r.nodeX + width) at hx
    change max _ r.nodeX < _ at hx
    omega
  have hheight : 0 < height := by
    change _ < min _ (r.nodeY + height) at hy
    change max _ r.nodeY < _ at hy
    omega
  simpa [Box.region, ZenToplevel.box] using ⟨hwidth, hheight⟩

/-- Exactly if the corner of the window is on an output, or the window is on the first output,
it goes to an output that it is on. -/
theorem toggle_stays_iff (hids : (s.outputLayout.map (·.id)).Nodup)
    (hr : s.windows.heap t = some r) (hflag : toggle.flag r = false)
    (hrequested : toggle.requested = none) {width height : Int}
    (hon : ∃ o ∈ s.outputLayout, o.box.Overlaps (r.box width height)) :
    (∃ o ∈ s.outputLayout, AssignsBox s t toggle o.box ∧ o.box.Overlaps (r.box width height)) ↔
      (∃ o ∈ s.outputLayout, o.box.containsPoint r.nodeX r.nodeY = true) ∨
        ∃ o ∈ s.outputLayout.head?, o.box.Overlaps (r.box width height) := by
  obtain ⟨o₁, ho₁, hon⟩ := hon
  obtain ⟨o, ho, hid, hchoice⟩ := outputOfToplevel_cases (r := r) (List.ne_nil_of_mem ho₁)
  have hassigns : ∀ {box : Box}, AssignsBox s t toggle box ↔ box = o.box :=
    assignsBox_iff hr hflag (by rw [hrequested, Option.none_or, hid])
      (wlrOutputLayoutGetBox_of_mem hids ho)
  have hstays : (∃ o ∈ s.outputLayout, AssignsBox s t toggle o.box ∧
      o.box.Overlaps (r.box width height)) ↔ o.box.Overlaps (r.box width height) := by
    constructor
    · rintro ⟨o', -, hbox, hoverlaps⟩
      rwa [hassigns.mp hbox] at hoverlaps
    · exact fun hoverlaps => ⟨o, ho, hassigns.mpr rfl, hoverlaps⟩
  rw [hstays]
  rcases hchoice with hcorner | ⟨hnone, hhead⟩
  · exact iff_of_true (overlaps_of_corner hon hcorner) (.inl ⟨o, ho, hcorner⟩)
  · rw [hhead]
    constructor
    · exact fun hoverlaps => .inr ⟨o, rfl, hoverlaps⟩
    · rintro (⟨o', ho', hcorner⟩ | ⟨o', ho', hoverlaps⟩)
      · exact absurd hcorner (hnone o' ho')
      · cases ho'
        exact hoverlaps

end Choice

section Examples

def hdOutput (id : OutputId) (x : Int) : Output where
  id := id
  enabled := true
  width := 1920
  height := 1080
  transposed := false
  scale := 1
  x := x
  y := 0

/-- Two outputs side by side, and a window that has been dragged from the first one by the
given way. -/
def draggedBy (dx dy : ℚ) : ZenCompositor :=
  exec step (created [hdOutput 0 0, hdOutput 1 1920] [] true)
    (showWindow 1 11 ++
      [.cursorMotion 10 30 none, .cursorButton true none, .requestMove 1,
        .cursorMotion (10 + dx) (30 + dy) none, .cursorButton false none])

def draggedRecord (x y : Int) : ZenToplevel where
  surface := 11
  initialized := true
  mapped := true
  activated := true
  maximized := false
  fullscreen := false
  nodeX := x
  nodeY := y
  nodeEnabled := true

/-- A window that hangs across the upper edge of the second output is maximized on the first
one. -/
theorem maximized_elsewhere :
    let s := draggedBy 2000 (-10)
    let r := draggedRecord 2000 (-10)
    s.windows.heap 1 = some r ∧ (∃ o ∈ s.outputLayout, o.box.Overlaps (r.box 400 300)) ∧
      ¬ ∃ o ∈ s.outputLayout,
        AssignsBox s 1 .maximize o.box ∧ o.box.Overlaps (r.box 400 300) := by
  intro s r
  have hr : s.windows.heap 1 = some r := by decide +kernel
  have hmoved : (step s (Toggle.event 1 .maximize)).windows.heap 1 =
      some (draggedRecord 0 0) := by
    decide +kernel
  have hon : ∃ o ∈ s.outputLayout, o.box.Overlaps (r.box 400 300) :=
    ⟨hdOutput 1 1920, by decide, by decide +kernel⟩
  have hoff : ∀ o ∈ s.outputLayout, o.box.x = 0 → ¬ o.box.Overlaps (r.box 400 300) := by
    decide +kernel
  refine ⟨hr, hon, ?_⟩
  rintro ⟨o, ho, ⟨-, r', hr', hx, -⟩, hoverlaps⟩
  rw [hmoved] at hr'
  cases hr'
  exact hoff o ho hx.symm hoverlaps

/-- A window whose corner is on the second output. -/
theorem toggle_stays_iff_corner :
    let s := draggedBy 2000 50
    let r := draggedRecord 2000 50
    (∃ o ∈ s.outputLayout,
        AssignsBox s 1 .maximize o.box ∧ o.box.Overlaps (r.box 400 300)) ↔
      (∃ o ∈ s.outputLayout, o.box.containsPoint r.nodeX r.nodeY = true) ∨
        ∃ o ∈ s.outputLayout.head?, o.box.Overlaps (r.box 400 300) :=
  toggle_stays_iff (s := draggedBy 2000 50) (by decide) (by decide +kernel) rfl rfl
    ⟨hdOutput 1 1920, by decide, by decide +kernel⟩

end Examples

end ZenOS.Compositor
