import ZenOS.Lifecycle.Phases

/-!
The books of the compositor.  Whatever is held has been acquired once and not yet been
released, and whatever is not held has been released as often as acquired.
-/

namespace ZenOS.Lifecycle

open ZenOS.Compositor (ZenKeybinding)
open ZenOS.Library.Programs ZenOS.Library.Ownership

namespace Ownership

/-- The entries of the registry; there are none before it is initialised. -/
def bindings (o : Ownership) : List (Nat × ZenKeybinding) :=
  o.keybindings.getD []

/-- What has to be released yet. -/
def Holds (o : Ownership) : Resource → Prop
  | .pointee p n => o.pointers p = some n
  | .keybinding n => ∃ b, (n, b) ∈ o.bindings
  | .customCmd n => ∃ b, (n, b) ∈ o.bindings ∧ b.customCmd.isSome

/-- The books are in order, and what hangs on something else hangs on what is there. -/
structure Balanced (o : Ownership) : Prop where
  accounts : Accounts o.trace o.Holds
  fresh : ∀ r, o.next ≤ r.number → history o.trace r = []
  distinct : (o.bindings.map Prod.fst).Nodup
  buffers : ∀ b f, o.has (.field b f) = true → o.has (.buffer b) = true
  nodes : ∀ p, p.onScene = true → o.has p = true → o.has .scene = true
  wallpaper : o.wallpaperState.isSome = true → o.has .scene = true
  proper : o.misuses = []

section Pointers

variable {o : Ownership} {p q : Pointer}

theorem acquire_pointers_self : (o.acquire p).pointers p = some o.next :=
  Function.update_self _ _ _

theorem acquire_pointers_of_ne (h : p ≠ q) : (o.acquire q).pointers p = o.pointers p :=
  Function.update_of_ne h _ _

theorem acquire_has : (o.acquire q).has p = (decide (p = q) || o.has p) := by
  rw [has, has]
  rcases eq_or_ne p q with rfl | hne
  · rw [acquire_pointers_self]
    simp
  · rw [acquire_pointers_of_ne hne]
    simp [hne]

theorem release_pointers_self : (o.release p).pointers p = none := by
  rw [release]
  split
  · next h => exact h
  · exact Function.update_self _ _ _

theorem release_has : (o.release q).has p = (!decide (p = q) && o.has p) := by
  rw [has, has]
  rcases eq_or_ne p q with rfl | hne
  · rw [release_pointers_self]
    simp
  · rw [o.release_pointers_of_ne hne]
    simp [hne]

theorem acquire_has_iff : (o.acquire q).has p = true ↔ p = q ∨ o.has p = true := by
  simp [acquire_has]

theorem release_has_iff : (o.release q).has p = true ↔ p ≠ q ∧ o.has p = true := by
  simp [release_has]

theorem release_eq {n : Nat} (hp : o.pointers p = some n) :
    o.release p =
      { o with
        pointers := Function.update o.pointers p none
        trace := .release (.pointee p n) :: o.trace
        misuses := o.checkScene p.onScene } := by
  rw [release, hp]

theorem release_keybindings : (o.release p).keybindings = o.keybindings := by
  rw [release]
  split <;> rfl

theorem release_wallpaperState : (o.release p).wallpaperState = o.wallpaperState := by
  rw [release]
  split <;> rfl

theorem holds_acquire (hnone : o.pointers p = none) (r : Resource) :
    (o.acquire p).Holds r ↔ r = .pointee p o.next ∨ o.Holds r := by
  cases r with
  | pointee q n =>
      simp only [Holds, Resource.pointee.injEq]
      rcases eq_or_ne q p with rfl | hne
      · rw [acquire_pointers_self, hnone]
        simp [eq_comm]
      · rw [acquire_pointers_of_ne hne]
        simp [hne]
  | keybinding n => simp [Holds, bindings, acquire]
  | customCmd n => simp [Holds, bindings, acquire]

theorem holds_release {n : Nat} (hp : o.pointers p = some n) (r : Resource) :
    (o.release p).Holds r ↔ r ≠ .pointee p n ∧ o.Holds r := by
  cases r with
  | pointee q m =>
      simp only [Holds]
      rcases eq_or_ne q p with rfl | hne
      · rw [release_pointers_self, hp]
        simp [eq_comm]
      · rw [o.release_pointers_of_ne hne]
        simp [hne]
  | keybinding m => simp [Holds, bindings, release_keybindings]
  | customCmd m => simp [Holds, bindings, release_keybindings]

end Pointers

theorem history_cons_fresh {trace : List (Op Resource)} {op : Op Resource} {next next' : Nat}
    (h : ∀ r : Resource, next ≤ r.number → history trace r = [])
    (hop : op.resource.number < next') (hnext : next ≤ next') :
    ∀ r : Resource, next' ≤ r.number → history (op :: trace) r = [] := by
  intro r hr
  have hne : op.resource ≠ r := by
    rintro rfl
    exact Nat.lt_irrefl _ (Nat.lt_of_lt_of_le hop hr)
  exact (history_cons_of_ne _ _ hne).trans (h r (hnext.trans hr))

namespace Balanced

variable {o o' : Ownership} {p : Pointer}

theorem lt_next (h : o.Balanced) {r : Resource} (hr : o.Holds r) : r.number < o.next := by
  by_contra hge
  have hnil := h.fresh r (Nat.le_of_not_lt hge)
  rw [h.accounts.acquired r hr] at hnil
  cases hnil

theorem of_eq (h : o.Balanced) (hpointers : o'.pointers = o.pointers)
    (hbindings : o'.bindings = o.bindings)
    (hwallpaper : o'.wallpaperState.isSome = true → o.has .scene = true)
    (hnext : o'.next = o.next) (htrace : o'.trace = o.trace)
    (hmisuses : o'.misuses = o.misuses) : o'.Balanced := by
  have hhas : ∀ p, o'.has p = o.has p := fun p => by rw [has, has, hpointers]
  have hholds : ∀ r, o'.Holds r ↔ o.Holds r := by
    intro r
    cases r <;> simp only [Holds, hpointers, hbindings]
  constructor
  · rw [htrace]
    exact h.accounts.congr hholds
  · rw [htrace, hnext]
    exact h.fresh
  · rw [hbindings]
    exact h.distinct
  · intro b f
    rw [hhas, hhas]
    exact h.buffers b f
  · intro p hp
    rw [hhas, hhas]
    exact h.nodes p hp
  · rw [hhas]
    exact hwallpaper
  · rw [hmisuses]
    exact h.proper

theorem acquire (h : o.Balanced) (hnone : o.pointers p = none)
    (hbuffer : ∀ b f, p = .field b f → o.has (.buffer b) = true)
    (hscene : p.onScene = true → o.has .scene = true) : (o.acquire p).Balanced := by
  constructor
  · exact h.accounts.acquire (h.fresh _ le_rfl) (holds_acquire hnone)
  · exact history_cons_fresh h.fresh (Nat.lt_succ_self _) (Nat.le_succ _)
  · exact h.distinct
  · intro b f hf
    refine acquire_has_iff.mpr (.inr ?_)
    rcases acquire_has_iff.mp hf with hp | hfield
    · exact hbuffer b f hp.symm
    · exact h.buffers b f hfield
  · intro q hq hhas
    refine acquire_has_iff.mpr (.inr ?_)
    rcases acquire_has_iff.mp hhas with rfl | hnode
    · exact hscene hq
    · exact h.nodes q hq hnode
  · exact fun hw => acquire_has_iff.mpr (.inr (h.wallpaper hw))
  · exact h.proper

theorem release (h : o.Balanced)
    (hbuffer : ∀ b, p = .buffer b → ∀ f, o.has (.field b f) = false)
    (hscene : p = .scene → (∀ q, q.onScene = true → o.has q = false) ∧
      o.wallpaperState = none) : (o.release p).Balanced := by
  cases hp : o.pointers p with
  | none =>
      have heq : o.release p = o := by rw [Ownership.release, hp]
      rwa [heq]
  | some n =>
      have hheld : o.Holds (.pointee p n) := hp
      constructor
      · have haccounts := h.accounts.release hheld (holds_release hp)
        rw [release_eq hp] at haccounts ⊢
        exact haccounts
      · rw [release_eq hp]
        exact history_cons_fresh h.fresh (h.lt_next hheld) le_rfl
      · rw [bindings, release_keybindings]
        exact h.distinct
      · intro b f hf
        obtain ⟨-, hfield⟩ := release_has_iff.mp hf
        refine release_has_iff.mpr ⟨fun hb => ?_, h.buffers b f hfield⟩
        exact Bool.false_ne_true ((hbuffer b hb.symm f).symm.trans hfield)
      · intro q hq hhas
        obtain ⟨-, hnode⟩ := release_has_iff.mp hhas
        refine release_has_iff.mpr ⟨fun hs => ?_, h.nodes q hq hnode⟩
        exact Bool.false_ne_true (((hscene hs.symm).1 q hq).symm.trans hnode)
      · intro hw
        rw [release_wallpaperState] at hw
        refine release_has_iff.mpr ⟨fun hs => ?_, h.wallpaper hw⟩
        rw [(hscene hs.symm).2] at hw
        exact Bool.false_ne_true hw
      · rw [release_eq hp]
        change o.checkScene p.onScene = []
        rw [checkScene, if_neg, h.proper]
        intro hgone
        simp only [Bool.and_eq_true, Bool.not_eq_true'] at hgone
        have hhas : o.has p = true := by rw [has, hp]; rfl
        exact Bool.false_ne_true (hgone.2.symm.trans (h.nodes p hgone.1 hhas))

theorem pointers_eq_none (h : o.Balanced) {b : CairoBuffer} (hb : o.has (.buffer b) = false) :
    ∀ p ∈ b.pointers, o.pointers p = none := by
  have hfield : ∀ f, o.pointers (.field b f) = none := by
    intro f
    by_contra hsome
    have hf := h.buffers b f (Option.isSome_iff_ne_none.mpr hsome)
    exact Bool.false_ne_true (hb.symm.trans hf)
  intro p hp
  simp only [CairoBuffer.pointers, CairoBuffer.fields, List.cons_append, List.nil_append,
    List.mem_cons, List.not_mem_nil, or_false] at hp
  rcases hp with rfl | rfl | rfl | rfl | rfl | rfl
  iterate 5 exact hfield _
  exact Option.not_isSome_iff_eq_none.mp (Bool.eq_false_iff.mp hb)

end Balanced

section Bindings

variable {o o' : Ownership} {n : Nat} {b : ZenKeybinding}

theorem holds_append (hpointers : o'.pointers = o.pointers)
    (hbindings : o'.bindings = o.bindings ++ [(n, b)]) (r : Resource) :
    o'.Holds r ↔ r = .keybinding n ∨ (r = .customCmd n ∧ b.customCmd.isSome) ∨ o.Holds r := by
  cases r with
  | pointee p m => simp [Holds, hpointers]
  | keybinding m =>
      simp only [Holds, hbindings, List.mem_append, List.mem_singleton, Prod.mk.injEq]
      simp [exists_or, or_comm]
  | customCmd m =>
      simp only [Holds, hbindings, List.mem_append, List.mem_singleton, Prod.mk.injEq]
      simp [or_and_right, exists_or, or_comm, and_assoc]

theorem holds_erase (hpointers : o'.pointers = o.pointers)
    (hbindings : o.bindings = (n, b) :: o'.bindings)
    (hdistinct : (o.bindings.map Prod.fst).Nodup) (r : Resource) :
    o'.Holds r ↔ r ≠ .keybinding n ∧ r ≠ .customCmd n ∧ o.Holds r := by
  rw [hbindings, List.map_cons, List.nodup_cons] at hdistinct
  have hnew : ∀ b', (n, b') ∉ o'.bindings :=
    fun b' hmem => hdistinct.1 (List.mem_map.mpr ⟨_, hmem, rfl⟩)
  cases r with
  | pointee p m => simp [Holds, hpointers]
  | keybinding m =>
      simp only [Holds, hbindings, List.mem_cons, Prod.mk.injEq]
      rcases eq_or_ne m n with rfl | hne
      · simp [hnew]
      · simp [hne]
  | customCmd m =>
      simp only [Holds, hbindings, List.mem_cons, Prod.mk.injEq]
      rcases eq_or_ne m n with rfl | hne
      · simp [hnew]
      · simp [hne]

namespace Balanced

theorem append (h : o.Balanced) (hpointers : o'.pointers = o.pointers)
    (hbindings : o'.bindings = o.bindings ++ [(o.next, b)])
    (hwallpaper : o'.wallpaperState = o.wallpaperState) (hnext : o'.next = o.next + 1)
    (htrace : o'.trace =
      (if b.customCmd.isSome then [.acquire (.customCmd o.next)] else []) ++
        .acquire (.keybinding o.next) :: o.trace)
    (hmisuses : o'.misuses = o.misuses) : o'.Balanced := by
  have hhas : ∀ p, o'.has p = o.has p := fun p => by rw [has, has, hpointers]
  have hbinding : Accounts (.acquire (.keybinding o.next) :: o.trace)
      fun r => r = .keybinding o.next ∨ o.Holds r :=
    h.accounts.acquire (h.fresh _ le_rfl) fun _ => Iff.rfl
  have hold : ∀ r : Resource, o.next + 1 ≤ r.number →
      history (.acquire (.keybinding o.next) :: o.trace) r = [] :=
    history_cons_fresh h.fresh (Nat.lt_succ_self _) (Nat.le_succ _)
  constructor
  · rw [htrace]
    split
    · next hcmd =>
        have hfresh : history (.acquire (.keybinding o.next) :: o.trace) (.customCmd o.next) = [] :=
          (history_cons_of_ne _ _ (by simp [Op.resource])).trans (h.fresh _ le_rfl)
        refine hbinding.acquire hfresh fun r => ?_
        rw [holds_append hpointers hbindings]
        simp only [hcmd, and_true]
        exact or_left_comm
    · next hcmd =>
        refine hbinding.congr fun r => ?_
        rw [holds_append hpointers hbindings]
        simp [hcmd]
  · rw [htrace, hnext]
    split
    · exact history_cons_fresh hold (Nat.lt_succ_self _) le_rfl
    · exact hold
  · have hnew : o.next ∉ o.bindings.map Prod.fst := by
      intro hmem
      obtain ⟨⟨m, b'⟩, hmem, hm⟩ := List.mem_map.mp hmem
      have hlt : m < o.next := h.lt_next (r := .keybinding m) ⟨b', hmem⟩
      exact Nat.lt_irrefl _ (hm ▸ hlt)
    rw [hbindings, List.map_append]
    refine List.nodup_append.mpr ⟨h.distinct, by simp, ?_⟩
    rintro m hm m' hm' rfl
    have heq : m = o.next := List.mem_singleton.mp hm'
    exact hnew (heq ▸ hm)
  · intro b f
    rw [hhas, hhas]
    exact h.buffers b f
  · intro p hp
    rw [hhas, hhas]
    exact h.nodes p hp
  · rw [hhas, hwallpaper]
    exact h.wallpaper
  · rw [hmisuses]
    exact h.proper

theorem giveBack (h : o.Balanced) :
    { o with
      next := o.next + 1
      trace := .release (.keybinding o.next) :: .acquire (.keybinding o.next) :: o.trace
      : Ownership }.Balanced := by
  have hacquire : Accounts (.acquire (.keybinding o.next) :: o.trace)
      fun r => r = .keybinding o.next ∨ o.Holds r :=
    h.accounts.acquire (h.fresh _ le_rfl) fun _ => Iff.rfl
  have hnot : ∀ r, o.Holds r → r ≠ .keybinding o.next := by
    rintro r hr rfl
    exact Nat.lt_irrefl _ (h.lt_next hr)
  refine { h with accounts := ?_, fresh := ?_ }
  · refine hacquire.release (.inl rfl) fun r => ?_
    exact ⟨fun hr => ⟨hnot r hr, .inr hr⟩, fun hr => hr.2.resolve_left hr.1⟩
  · have hold : ∀ r : Resource, o.next + 1 ≤ r.number →
        history (.acquire (.keybinding o.next) :: o.trace) r = [] :=
      history_cons_fresh h.fresh (Nat.lt_succ_self _) (Nat.le_succ _)
    exact history_cons_fresh hold (Nat.lt_succ_self _) le_rfl

theorem freeBinding (h : o.Balanced) {bs : List (Nat × ZenKeybinding)}
    (hbs : o.keybindings = some ((n, b) :: bs)) :
    (o.freeBinding (n, b)).Balanced ∧ (o.freeBinding (n, b)).keybindings = some bs := by
  have hkeybindings : (o.freeBinding (n, b)).keybindings = some bs := by
    simp [Ownership.freeBinding, hbs]
  have hbindings : o.bindings = (n, b) :: (o.freeBinding (n, b)).bindings := by
    rw [bindings, bindings, hkeybindings, hbs]
    rfl
  have hholds : ∀ r, (o.freeBinding (n, b)).Holds r ↔
      r ≠ .keybinding n ∧ r ≠ .customCmd n ∧ o.Holds r := holds_erase rfl hbindings h.distinct
  have hheld : o.Holds (.keybinding n) := ⟨b, hbindings ▸ List.mem_cons_self⟩
  have htrace : (o.freeBinding (n, b)).trace = .release (.keybinding n) ::
      ((if b.customCmd.isSome then [.release (.customCmd n)] else []) ++ o.trace) := rfl
  have hdistinct := h.distinct
  rw [hbindings, List.map_cons, List.nodup_cons] at hdistinct
  refine ⟨{ h with accounts := ?_, fresh := ?_, distinct := hdistinct.2 }, hkeybindings⟩
  · rw [htrace]
    split
    · next hcmd =>
        have hcommand : o.Holds (.customCmd n) := ⟨b, hbindings ▸ List.mem_cons_self, hcmd⟩
        have hreleased := h.accounts.release hcommand fun _ => Iff.rfl
        exact hreleased.release ⟨by simp, hheld⟩ hholds
    · next hcmd =>
        have hcommand : ¬ o.Holds (.customCmd n) := by
          rintro ⟨b', hmem, hb'⟩
          rw [hbindings] at hmem
          rcases List.mem_cons.mp hmem with heq | hmem
          · obtain ⟨-, rfl⟩ := Prod.mk.inj heq
            exact hcmd hb'
          · exact hdistinct.1 (List.mem_map.mpr ⟨_, hmem, rfl⟩)
        refine h.accounts.release hheld fun r => ?_
        rw [hholds]
        refine and_congr_right fun _ => ⟨And.right, fun hr => ⟨?_, hr⟩⟩
        rintro rfl
        exact hcommand hr
  · have hlt : n < o.next := h.lt_next hheld
    rw [htrace]
    refine history_cons_fresh ?_ hlt le_rfl
    split
    · exact history_cons_fresh h.fresh hlt le_rfl
    · exact h.fresh

/-- The loop of `zen_keybinds_destroy` empties the registry. -/
theorem freeBindings (h : o.Balanced) :
    o.freeBindings.Balanced ∧ o.freeBindings.bindings = [] := by
  have hloop : ∀ (bs : List (Nat × ZenKeybinding)) (o : Ownership), o.Balanced →
      o.keybindings = some bs → (bs.foldl Ownership.freeBinding o).Balanced ∧
        (bs.foldl Ownership.freeBinding o).keybindings = some [] := by
    intro bs
    induction bs with
    | nil => exact fun o h hbs => ⟨h, hbs⟩
    | cons b bs ih =>
        intro o h hbs
        obtain ⟨hfree, hrest⟩ := h.freeBinding hbs
        exact ih _ hfree hrest
  rw [Ownership.freeBindings]
  split
  · next hnone => exact ⟨h, by rw [bindings, hnone]; rfl⟩
  · next bs hbs =>
      obtain ⟨hfree, hempty⟩ := hloop bs o h hbs
      exact ⟨hfree, by rw [bindings, hempty]; rfl⟩

end Balanced

end Bindings

end Ownership

end ZenOS.Lifecycle
