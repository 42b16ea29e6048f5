import ZenOS.Compositor.Xwayland
import ZenOS.Library.Ownership

/-!
`xwayland.c`: the record of an X11 window with the links of its listeners.  A link is not
NULL while its listener is registered, and the handlers look at it before they remove a
listener.
-/

namespace ZenOS.Compositor.Xwayland

open ZenOS.Library.Runs ZenOS.Library.Ownership

inductive Listener where
  | associate
  | dissociate
  | destroy
  | setTitle
  | map
  | unmap
  deriving DecidableEq

/-- What has to be given back: each time a listener is registered, and each scene node. -/
inductive Handle where
  | registration (n : Nat)
  | node (n : Nat)
  deriving DecidableEq

structure XwsNode where
  number : Nat
  enabled : Bool

/-- `struct ZenXWaylandSurface` -/
structure XwsRecord where
  sceneSurface : Option XwsNode
  title : Option String
  -- where `link.next` of a listener leads
  link : Listener → Option Nat

/-- An X11 surface of wlroots with the record that the compositor keeps for it. -/
structure XwsState where
  alive : Bool
  title : Option String
  surface : Option SurfaceId
  mapped : Bool
  -- the listeners in the signals of the X11 surface and of its surface
  registered : Listener → Option Nat
  record : Option XwsRecord
  trace : List (Op Handle)
  next : Nat
  -- a NULL link or a freed record has been followed
  crashed : Bool

namespace XwsState

def setRecord (w : XwsState) (f : XwsRecord → XwsRecord) : XwsState :=
  { w with record := w.record.map f }

/-- `link.next` of a listener of the record -/
def linkNext (w : XwsState) (l : Listener) : Option Nat :=
  w.record.bind (·.link l)

/-- `wl_signal_add` -/
def wlSignalAdd (w : XwsState) (l : Listener) : XwsState :=
  { w.setRecord fun r => { r with link := Function.update r.link l (some w.next) } with
    registered := Function.update w.registered l (some w.next)
    trace := .acquire (.registration w.next) :: w.trace
    next := w.next + 1 }

/-- `wl_list_remove` on the link of a listener -/
def wlListRemove (w : XwsState) (l : Listener) : XwsState :=
  match w.linkNext l with
  | some n =>
      { w with
        registered := Function.update w.registered l none
        trace := .release (.registration n) :: w.trace }
  | none => { w with crashed := true }

/-- `if (l.link.next) wl_list_remove(&l.link);` -/
def removeIfLinked (w : XwsState) (l : Listener) : XwsState :=
  if (w.linkNext l).isSome then w.wlListRemove l else w

/-- `if (l.link.next) { wl_list_remove(&l.link); l.link.next = NULL; }` -/
def unlink (w : XwsState) (l : Listener) : XwsState :=
  if (w.linkNext l).isSome then
    (w.wlListRemove l).setRecord fun r => { r with link := Function.update r.link l none }
  else w

/-- `wlr_scene_surface_create` -/
def wlrSceneSurfaceCreate (w : XwsState) : XwsState :=
  { w.setRecord fun r => { r with
      sceneSurface := some { number := w.next, enabled := true } } with
    trace := .acquire (.node w.next) :: w.trace
    next := w.next + 1 }

/-- `if (xws->scene_surface) { wlr_scene_node_destroy(..); xws->scene_surface = NULL; }` -/
def destroySceneSurface (w : XwsState) : XwsState :=
  match w.record.bind (·.sceneSurface) with
  | some node =>
      { w.setRecord fun r => { r with sceneSurface := none } with
        trace := .release (.node node.number) :: w.trace }
  | none => w

def setEnabled (w : XwsState) (enabled : Bool) : XwsState :=
  w.setRecord fun r => { r with
    sceneSurface := r.sceneSurface.map fun node => { node with enabled } }

end XwsState

/-- The listeners on the X11 surface itself. -/
def ownListeners : List Listener :=
  [.associate, .dissociate, .destroy, .setTitle]

/-- `strdup`, which may fail; `NULL` is not copied. -/
def strdup (s : Option String) (ok : Bool) : Option String :=
  s.filter fun _ => ok

namespace XwsState

/-- `handle_new_xwayland_surface`; the flags say whether its allocations succeed. -/
def handleNewXwaylandSurface (w : XwsState) (ok dup : Bool) : XwsState :=
  if ok then
    let record : XwsRecord :=
      { sceneSurface := none, title := strdup w.title dup, link := fun _ => none }
    ownListeners.foldl wlSignalAdd { w with record := some record }
  else w

def handleXwsAssociate (w : XwsState) (ok : Bool) : XwsState :=
  if ok then (w.wlrSceneSurfaceCreate.wlSignalAdd .map).wlSignalAdd .unmap
  else w.setRecord fun r => { r with sceneSurface := none }

def handleXwsDissociate (w : XwsState) : XwsState :=
  ((w.unlink .map).unlink .unmap).destroySceneSurface

def handleXwsSetTitle (w : XwsState) (dup : Bool) : XwsState :=
  w.setRecord fun r => { r with title := strdup w.title dup }

def handleXwsDestroy (w : XwsState) : XwsState :=
  let w := ownListeners.foldl wlListRemove w
  let w := (w.removeIfLinked .map).removeIfLinked .unmap
  { w.destroySceneSurface with record := none }

def handleXwsMap (w : XwsState) : XwsState :=
  w.setEnabled true

def handleXwsUnmap (w : XwsState) : XwsState :=
  w.setEnabled false

end XwsState

inductive XwsEvent where
  | new (title : Option String) (ok dup : Bool)
  | associate (surface : SurfaceId) (ok : Bool)
  | dissociate
  | map
  | unmap
  | setTitle (title : Option String) (dup : Bool)
  | destroy

/-- A signal runs the handler of its listener, if that is registered. -/
def XwsState.emit (w : XwsState) (l : Listener) (handler : XwsState → XwsState) : XwsState :=
  if (w.registered l).isSome then
    if w.record.isSome then handler w else { w with crashed := true }
  else w

def handleXws (w : XwsState) : XwsEvent → XwsState
  | .new title ok dup =>
      XwsState.handleNewXwaylandSurface
        { w with alive := true, title, surface := none, mapped := false } ok dup
  | .associate surface ok =>
      XwsState.emit { w with surface := some surface } .associate
        (XwsState.handleXwsAssociate · ok)
  | .dissociate =>
      { w.emit .dissociate XwsState.handleXwsDissociate with surface := none, mapped := false }
  | .map => XwsState.emit { w with mapped := true } .map XwsState.handleXwsMap
  | .unmap => XwsState.emit { w with mapped := false } .unmap XwsState.handleXwsUnmap
  | .setTitle title dup =>
      XwsState.emit { w with title } .setTitle (XwsState.handleXwsSetTitle · dup)
  | .destroy =>
      { w.emit .destroy XwsState.handleXwsDestroy with
        alive := false, surface := none, mapped := false }

/-- The order of events that wlroots keeps to: a surface is associated while there is none,
and is mapped and unmapped in between; an X11 surface may go at any point. -/
def XwsPermitted (w : XwsState) : XwsEvent → Prop
  | .new .. => w.alive = false
  | .associate .. => w.alive = true ∧ w.surface = none
  | .dissociate => w.alive = true ∧ w.surface.isSome
  | .map => w.alive = true ∧ w.surface.isSome ∧ w.mapped = false
  | .unmap => w.alive = true ∧ w.mapped = true
  | .setTitle .. | .destroy => w.alive = true

instance (w : XwsState) : ∀ e, Decidable (XwsPermitted w e)
  | .new .. => inferInstanceAs (Decidable (_ = _))
  | .associate .. | .dissociate | .unmap => inferInstanceAs (Decidable (_ ∧ _))
  | .map => inferInstanceAs (Decidable (_ ∧ _ ∧ _))
  | .setTitle .. | .destroy => inferInstanceAs (Decidable (_ = _))

def xwsUnborn : XwsState :=
  { alive := false, title := none, surface := none, mapped := false
    registered := fun _ => none, record := none, trace := [], next := 0, crashed := false }

/-- The scene node of the record. -/
def XwsState.nodeNumber (w : XwsState) : Option Nat :=
  (w.record.bind (·.sceneSurface)).map (·.number)

def XwsState.InUse (w : XwsState) : Handle → Prop
  | .registration n => ∃ l, w.registered l = some n
  | .node n => w.nodeNumber = some n

/-- The life cycle is kept to. -/
structure LifeCycle (w : XwsState) : Prop where
  listening : ∀ r ∈ w.record, ∀ l, l = .map ∨ l = .unmap →
    ((w.registered l).isSome ↔ r.sceneSurface.isSome)
  accounts : Accounts w.trace w.InUse
  freed : w.record = none → ∀ l, w.registered l = none
  sound : w.crashed = false

namespace XwsState

/-- What the calls themselves keep, in the middle of a handler too. -/
structure Kept (w : XwsState) : Prop where
  accounts : Accounts w.trace w.InUse
  fresh : ∀ n, w.next ≤ n →
    history w.trace (.registration n) = [] ∧ history w.trace (.node n) = []
  distinct : ∀ l l' n, w.registered l = some n → w.registered l' = some n → l = l'
  sound : w.crashed = false

section Calls

variable {w : XwsState} {l : Listener}

theorem wlSignalAdd_registered (w : XwsState) (l : Listener) :
    (w.wlSignalAdd l).registered = Function.update w.registered l (some w.next) :=
  rfl

theorem setRecord_nodeNumber {f : XwsRecord → XwsRecord}
    (hf : ∀ r, (f r).sceneSurface.map (·.number) = r.sceneSurface.map (·.number)) :
    (w.setRecord f).nodeNumber = w.nodeNumber := by
  rcases hr : w.record with _ | r
  · simp [nodeNumber, setRecord, hr]
  · simpa [nodeNumber, setRecord, hr] using hf r

theorem setRecord_inUse {f : XwsRecord → XwsRecord}
    (hf : ∀ r, (f r).sceneSurface.map (·.number) = r.sceneSurface.map (·.number))
    (h : Handle) : (w.setRecord f).InUse h ↔ w.InUse h := by
  cases h with
  | registration n => exact Iff.rfl
  | node n => rw [InUse, InUse, setRecord_nodeNumber hf]

theorem Kept.setRecord (h : Kept w) {f : XwsRecord → XwsRecord}
    (hf : ∀ r, (f r).sceneSurface.map (·.number) = r.sceneSurface.map (·.number)) :
    Kept (w.setRecord f) :=
  ⟨h.accounts.congr (setRecord_inUse hf), h.fresh, h.distinct, h.sound⟩

theorem Kept.wlSignalAdd (h : Kept w) (hl : w.registered l = none) :
    Kept (w.wlSignalAdd l) := by
  obtain ⟨hfresh, -⟩ := h.fresh w.next le_rfl
  have hunused : ∀ l', w.registered l' ≠ some w.next := by
    intro l' hl'
    have hacquired := h.accounts.acquired (.registration w.next) ⟨l', hl'⟩
    rw [hfresh] at hacquired
    cases hacquired
  refine ⟨h.accounts.acquire hfresh fun handle => ?_, fun n hn => ?_, ?_, h.sound⟩
  · cases handle with
    | registration n =>
        constructor
        · rintro ⟨l', hl'⟩
          by_cases heq : l' = l
          · subst heq
            rw [wlSignalAdd_registered, Function.update_self, Option.some.injEq] at hl'
            exact .inl (congrArg _ hl'.symm)
          · rw [wlSignalAdd_registered, Function.update_of_ne heq] at hl'
            exact .inr ⟨l', hl'⟩
        · rintro (heq | ⟨l', hl'⟩)
          · obtain rfl := Handle.registration.inj heq
            exact ⟨l, Function.update_self ..⟩
          · refine ⟨l', ?_⟩
            rw [wlSignalAdd_registered, Function.update_of_ne]
            · exact hl'
            · rintro rfl
              rw [hl] at hl'
              cases hl'
    | node n =>
        have hsame := setRecord_inUse (w := w)
          (f := fun r => { r with link := Function.update r.link l (some w.next) })
          (fun _ => rfl) (.node n)
        constructor
        · exact fun huse => .inr (hsame.mp huse)
        · rintro (heq | huse)
          · cases heq
          · exact hsame.mpr huse
  · obtain ⟨hregistration, hnode⟩ := h.fresh n (Nat.le_of_succ_le hn)
    have hne : Handle.registration w.next ≠ .registration n := by
      intro heq
      have := Handle.registration.inj heq
      change w.next + 1 ≤ n at hn
      omega
    exact ⟨(history_cons_of_ne _ (.acquire _) hne).trans hregistration,
      (history_cons_of_ne _ _ (by simp [Op.resource])).trans hnode⟩
  · intro l₁ l₂ n h₁ h₂
    simp only [wlSignalAdd_registered, Function.update_apply] at h₁ h₂
    split at h₁ <;> split at h₂
    · next heq₁ heq₂ => rw [heq₁, heq₂]
    · exact absurd (h₂.trans h₁.symm) (hunused l₂)
    · exact absurd (h₁.trans h₂.symm) (hunused l₁)
    · exact h.distinct l₁ l₂ n h₁ h₂

theorem wlListRemove_eq {n : Nat} (hn : w.linkNext l = some n) :
    w.wlListRemove l = { w with
      registered := Function.update w.registered l none
      trace := .release (.registration n) :: w.trace } := by
  rw [wlListRemove, hn]

theorem Kept.wlListRemove (h : Kept w) (hlink : w.linkNext l = w.registered l)
    (hl : (w.registered l).isSome) : Kept (w.wlListRemove l) := by
  obtain ⟨n, hn⟩ := Option.isSome_iff_exists.mp hl
  rw [wlListRemove_eq (hlink.trans hn)]
  refine ⟨h.accounts.release (r := .registration n) ⟨l, hn⟩ fun handle => ?_,
    fun m hm => ?_, ?_, h.sound⟩
  · cases handle with
    | registration m =>
        constructor
        · rintro ⟨l', hl'⟩
          simp only [Function.update_apply] at hl'
          split at hl'
          · cases hl'
          · next hne =>
              refine ⟨?_, l', hl'⟩
              rintro heq
              obtain rfl := Handle.registration.inj heq
              exact hne (h.distinct l' l m hl' hn)
        · rintro ⟨hne, l', hl'⟩
          refine ⟨l', (Function.update_of_ne ?_ _ _).trans hl'⟩
          rintro rfl
          rw [hn, Option.some.injEq] at hl'
          exact hne (congrArg _ hl'.symm)
    | node m => exact ⟨fun huse => ⟨by simp, huse⟩, fun huse => huse.2⟩
  · obtain ⟨hregistration, hnode⟩ := h.fresh m hm
    have hne : Handle.registration n ≠ .registration m := by
      rintro heq
      obtain rfl := Handle.registration.inj heq
      have hacquired := h.accounts.acquired (.registration n) ⟨l, hn⟩
      rw [hregistration] at hacquired
      cases hacquired
    exact ⟨(history_cons_of_ne _ (.release _) hne).trans hregistration,
      (history_cons_of_ne _ _ (by simp [Op.resource])).trans hnode⟩
  · intro l₁ l₂ m h₁ h₂
    simp only [Function.update_apply] at h₁ h₂
    split at h₁
    · cases h₁
    · split at h₂
      · cases h₂
      · exact h.distinct l₁ l₂ m h₁ h₂

theorem Kept.wlrSceneSurfaceCreate (h : Kept w) {r : XwsRecord} (hr : w.record = some r)
    (hnode : r.sceneSurface = none) : Kept w.wlrSceneSurfaceCreate := by
  obtain ⟨-, hfresh⟩ := h.fresh w.next le_rfl
  have hbefore : w.nodeNumber = none := by simp [nodeNumber, hr, hnode]
  have hafter : w.wlrSceneSurfaceCreate.nodeNumber = some w.next := by
    simp [nodeNumber, XwsState.wlrSceneSurfaceCreate, XwsState.setRecord, hr]
  refine ⟨h.accounts.acquire hfresh fun handle => ?_, fun n hn => ?_, h.distinct, h.sound⟩
  · cases handle with
    | registration n => exact ⟨fun huse => .inr huse, fun huse => huse.resolve_left (by simp)⟩
    | node n =>
        rw [InUse, InUse, hafter, hbefore]
        simp [eq_comm]
  · obtain ⟨hregistration, hnode⟩ := h.fresh n (Nat.le_of_succ_le hn)
    have hne : Handle.node w.next ≠ .node n := by
      intro heq
      have := Handle.node.inj heq
      change w.next + 1 ≤ n at hn
      omega
    exact ⟨(history_cons_of_ne _ _ (by simp [Op.resource])).trans hregistration,
      (history_cons_of_ne _ (.acquire _) hne).trans hnode⟩

theorem destroySceneSurface_registered :
    w.destroySceneSurface.registered = w.registered := by
  rw [destroySceneSurface]
  split <;> rfl

theorem destroySceneSurface_record :
    w.destroySceneSurface.record = w.record.map fun r => { r with sceneSurface := none } := by
  rcases hr : w.record with _ | r
  · simp [destroySceneSurface, hr]
  · obtain ⟨sceneSurface, title, link⟩ := r
    cases sceneSurface with
    | none => simp [destroySceneSurface, hr]
    | some node => simp [destroySceneSurface, XwsState.setRecord, hr]

theorem destroySceneSurface_nodeNumber : w.destroySceneSurface.nodeNumber = none := by
  rw [nodeNumber, destroySceneSurface_record]
  rcases w.record with _ | r <;> rfl

theorem Kept.destroySceneSurface (h : Kept w) : Kept w.destroySceneSurface := by
  have hafter := destroySceneSurface_nodeNumber (w := w)
  rcases hnode : w.record.bind (·.sceneSurface) with _ | node
  · rw [XwsState.destroySceneSurface, hnode]
    exact h
  have hbefore : w.nodeNumber = some node.number := by simp [nodeNumber, hnode]
  rw [XwsState.destroySceneSurface, hnode] at hafter ⊢
  refine ⟨h.accounts.release (r := .node node.number) hbefore fun handle => ?_,
    fun m hm => ?_, h.distinct, h.sound⟩
  · cases handle with
    | registration n => exact ⟨fun huse => ⟨by simp, huse⟩, fun huse => huse.2⟩
    | node n =>
        rw [InUse, InUse, hafter, hbefore]
        simp only [reduceCtorEq, Option.some.injEq, false_iff, not_and, ne_eq,
          Handle.node.injEq]
        exact fun hne heq => hne heq.symm
  · obtain ⟨hregistration, hnodes⟩ := h.fresh m hm
    have hne : Handle.node node.number ≠ .node m := by
      intro heq
      obtain rfl := Handle.node.inj heq
      have hacquired := h.accounts.acquired (.node node.number) hbefore
      rw [hnodes] at hacquired
      cases hacquired
    exact ⟨(history_cons_of_ne _ _ (by simp [Op.resource])).trans hregistration,
      (history_cons_of_ne _ (.release _) hne).trans hnodes⟩

end Calls

/-- What wlroots knows of the X11 surface; no handler changes it. -/
def surfaceState (w : XwsState) : Bool × Option String × Option SurfaceId × Bool :=
  (w.alive, w.title, w.surface, w.mapped)

section SurfaceState

variable (w : XwsState) (l : Listener)

@[simp] theorem setRecord_surfaceState (f : XwsRecord → XwsRecord) :
    (w.setRecord f).surfaceState = w.surfaceState :=
  rfl

@[simp] theorem wlSignalAdd_surfaceState : (w.wlSignalAdd l).surfaceState = w.surfaceState :=
  rfl

@[simp] theorem wlListRemove_surfaceState :
    (w.wlListRemove l).surfaceState = w.surfaceState := by
  rw [wlListRemove]
  split <;> rfl

@[simp] theorem removeIfLinked_surfaceState :
    (w.removeIfLinked l).surfaceState = w.surfaceState := by
  rw [removeIfLinked]
  split <;> simp

@[simp] theorem unlink_surfaceState : (w.unlink l).surfaceState = w.surfaceState := by
  rw [unlink]
  split <;> simp

@[simp] theorem wlrSceneSurfaceCreate_surfaceState :
    w.wlrSceneSurfaceCreate.surfaceState = w.surfaceState :=
  rfl

@[simp] theorem destroySceneSurface_surfaceState :
    w.destroySceneSurface.surfaceState = w.surfaceState := by
  rw [destroySceneSurface]
  split <;> rfl

end SurfaceState

section Lists

variable {w : XwsState} {r : XwsRecord}

theorem wlSignalAdd_record (hr : w.record = some r) (l : Listener) :
    (w.wlSignalAdd l).record =
      some { r with link := Function.update r.link l (some w.next) } := by
  simp [XwsState.wlSignalAdd, XwsState.setRecord, hr]

theorem addAll_kept (h : Kept w) (hr : w.record = some r) (hlink : r.link = w.registered)
    (ls : List Listener) (hnodup : ls.Nodup) (hnew : ∀ l ∈ ls, w.registered l = none) :
    Kept (ls.foldl XwsState.wlSignalAdd w) ∧
      (∃ r', (ls.foldl XwsState.wlSignalAdd w).record = some r' ∧
        r'.link = (ls.foldl XwsState.wlSignalAdd w).registered ∧
        r'.sceneSurface = r.sceneSurface) ∧
      ∀ l, ((ls.foldl XwsState.wlSignalAdd w).registered l).isSome ↔
        l ∈ ls ∨ (w.registered l).isSome := by
  induction ls generalizing w r with
  | nil => exact ⟨h, ⟨r, hr, hlink, rfl⟩, by simp⟩
  | cons l ls ih =>
      obtain ⟨hl, hnodup⟩ := List.nodup_cons.mp hnodup
      have hlnew := hnew l List.mem_cons_self
      have hothers : ∀ l' ∈ ls, (w.wlSignalAdd l).registered l' = none := by
        intro l' hl'
        have hne : l' ≠ l := by
          rintro rfl
          exact hl hl'
        rw [wlSignalAdd_registered, Function.update_of_ne hne]
        exact hnew l' (List.mem_cons_of_mem _ hl')
      obtain ⟨hkept, ⟨r', hr', hlink', hnode⟩, hregistered⟩ :=
        ih (h.wlSignalAdd hlnew) (wlSignalAdd_record hr l)
          (by rw [wlSignalAdd_registered, hlink]) hnodup hothers
      refine ⟨hkept, ⟨r', hr', hlink', hnode⟩, fun l' => (hregistered l').trans ?_⟩
      rw [wlSignalAdd_registered, Function.update_apply, List.mem_cons]
      split
      · next heq => simp [heq]
      · next hne => simp [hne]

theorem removeAll_kept (h : Kept w) (hr : w.record = some r) (ls : List Listener)
    (hnodup : ls.Nodup) (hlinked : ∀ l ∈ ls, r.link l = w.registered l)
    (hregistered : ∀ l ∈ ls, (w.registered l).isSome) :
    Kept (ls.foldl XwsState.wlListRemove w) ∧
      (ls.foldl XwsState.wlListRemove w).record = some r ∧
      ∀ l, (ls.foldl XwsState.wlListRemove w).registered l =
        if l ∈ ls then none else w.registered l := by
  induction ls generalizing w with
  | nil => exact ⟨h, hr, by simp⟩
  | cons l ls ih =>
      obtain ⟨hl, hnodup⟩ := List.nodup_cons.mp hnodup
      have hlink : w.linkNext l = w.registered l := by
        rw [linkNext, hr]
        exact hlinked l List.mem_cons_self
      obtain ⟨n, hn⟩ :=
        Option.isSome_iff_exists.mp (hregistered l List.mem_cons_self)
      have hremove := wlListRemove_eq (hlink.trans hn)
      have hsame : ∀ l' ∈ ls, (w.wlListRemove l).registered l' = w.registered l' := by
        intro l' hl'
        rw [hremove]
        refine Function.update_of_ne ?_ _ _
        rintro rfl
        exact hl hl'
      have hkept := h.wlListRemove hlink (hregistered l List.mem_cons_self)
      obtain ⟨hkept', hr', hall⟩ := ih hkept (by rw [hremove]; exact hr) hnodup
        (fun l' hl' => (hlinked l' (List.mem_cons_of_mem _ hl')).trans (hsame l' hl').symm)
        (fun l' hl' => by
          rw [hsame l' hl']
          exact hregistered l' (List.mem_cons_of_mem _ hl'))
      refine ⟨hkept', hr', fun l' => (hall l').trans ?_⟩
      rw [hremove]
      simp only [List.mem_cons, Function.update_apply]
      by_cases hmem : l' ∈ ls <;> by_cases heq : l' = l <;> simp [hmem, heq]

theorem removeIfLinked_kept (h : Kept w) (hr : w.record = some r) {l : Listener}
    (hlink : r.link l = w.registered l) :
    Kept (w.removeIfLinked l) ∧ (w.removeIfLinked l).record = some r ∧
      (w.removeIfLinked l).registered = Function.update w.registered l none := by
  have hnext : w.linkNext l = w.registered l := by
    rw [linkNext, hr]
    exact hlink
  rcases hl : w.registered l with _ | n
  · rw [removeIfLinked, if_neg (by rw [hnext, hl]; simp)]
    exact ⟨h, hr, (Function.update_eq_self_iff.mpr hl.symm).symm⟩
  · have hkept := h.wlListRemove hnext (by rw [hl]; rfl)
    rw [removeIfLinked, if_pos (by rw [hnext, hl]; rfl)]
    refine ⟨hkept, ?_⟩
    rw [wlListRemove_eq (hnext.trans hl)]
    exact ⟨hr, rfl⟩

theorem unlink_kept (h : Kept w) (hr : w.record = some r) (hlink : r.link = w.registered)
    (l : Listener) :
    Kept (w.unlink l) ∧ (w.unlink l).registered = Function.update w.registered l none ∧
      (w.unlink l).record = some { r with link := Function.update r.link l none } := by
  have hnext : w.linkNext l = w.registered l := by
    rw [linkNext, hr]
    exact congrFun hlink l
  rcases hl : w.registered l with _ | n
  · have hsame : Function.update w.registered l none = w.registered :=
      Function.update_eq_self_iff.mpr hl.symm
    rw [unlink, if_neg (by rw [hnext, hl]; simp), hlink, hsame]
    refine ⟨h, rfl, hr.trans ?_⟩
    rw [← hlink]
  · have hkept := h.wlListRemove hnext (by rw [hl]; rfl)
    rw [unlink, if_pos (by rw [hnext, hl]; rfl)]
    refine ⟨hkept.setRecord fun _ => rfl, ?_⟩
    rw [wlListRemove_eq (hnext.trans hl)]
    exact ⟨rfl, by simp [XwsState.setRecord, hr]⟩

end Lists

end XwsState

end ZenOS.Compositor.Xwayland
