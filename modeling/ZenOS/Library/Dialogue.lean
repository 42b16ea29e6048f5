import Mathlib.Data.List.Basic
import Mathlib.Tactic.TypeStar
import ZenOS.Library.Runs

/-!
Programs that put requests to a partner about which nothing is known, and that can be cut off
while they wait for a reply.
-/

namespace ZenOS.Library.Dialogue

/-- A program has come to an end or failed, or it makes a request and goes on with the reply. -/
inductive Program (κ : Type) (ρ : κ → Type) (ε α : Type) where
  | done (a : α)
  | fail (e : ε)
  | ask (q : κ) (next : ρ q → Program κ ρ ε α)

/-- A request that has been made, and its reply unless the program has been cut off. -/
structure Entry (κ : Type) (ρ : κ → Type) where
  request : κ
  reply : Option (ρ request)

inductive Outcome (ε α : Type) where
  | finished (a : α)
  | failed (e : ε)
  | cut

variable {κ : Type} {ρ : κ → Type} {ε α β γ : Type}

namespace Program

def bind : Program κ ρ ε α → (α → Program κ ρ ε β) → Program κ ρ ε β
  | .done a, f => f a
  | .fail e, _ => .fail e
  | .ask q next, f => .ask q fun r => (next r).bind f

instance : Monad (Program κ ρ ε) where
  pure := .done
  bind := .bind

def request (q : κ) : Program κ ρ ε (ρ q) :=
  .ask q .done

def ofExcept : Except ε α → Program κ ρ ε α
  | .ok a => .done a
  | .error e => .fail e

/-- One program after the other, with the list of their results. -/
def each (f : α → Program κ ρ ε β) : List α → Program κ ρ ε (List β)
  | [] => .done []
  | a :: as => do
      let b ← f a
      let bs ← each f as
      pure (b :: bs)

def repeated (p : Program κ ρ ε Unit) : Nat → Program κ ρ ε Unit
  | 0 => .done ()
  | n + 1 => do
      p
      repeated p n

end Program

/-- A partner replies to every request, and cuts the program off when it likes; both can depend
on all that has happened. -/
structure Partner (κ : Type) (ρ : κ → Type) where
  reply : List (Entry κ ρ) → (q : κ) → ρ q
  cuts : List (Entry κ ρ) → κ → Bool

section Runs

variable (awaits : κ → Bool)

/-- The run of a program: the requests behind those made before, and how it ends.  It can be
cut off only where it waits. -/
def run (partner : Partner κ ρ) :
    Program κ ρ ε α → List (Entry κ ρ) → List (Entry κ ρ) × Outcome ε α
  | .done a, before => (before, .finished a)
  | .fail e, before => (before, .failed e)
  | .ask q next, before =>
      if awaits q && partner.cuts before q then (before ++ [⟨q, none⟩], .cut)
      else
        let r := partner.reply before q
        run partner (next r) (before ++ [⟨q, some r⟩])

/-- What a program can say to some partner, and how it can end. -/
inductive Yields : Program κ ρ ε α → List (Entry κ ρ) → Outcome ε α → Prop where
  | done (a : α) : Yields (.done a) [] (.finished a)
  | fail (e : ε) : Yields (.fail e) [] (.failed e)
  | cut {q : κ} {next : ρ q → Program κ ρ ε α} : awaits q = true →
      Yields (.ask q next) [⟨q, none⟩] .cut
  | reply {q : κ} {next : ρ q → Program κ ρ ε α} (r : ρ q) {t : List (Entry κ ρ)}
      {o : Outcome ε α} : Yields (next r) t o → Yields (.ask q next) (⟨q, some r⟩ :: t) o

variable {awaits}

variable (awaits) in
theorem run_yields (partner : Partner κ ρ) (p : Program κ ρ ε α) (before : List (Entry κ ρ)) :
    ∃ t, (run awaits partner p before).1 = before ++ t ∧
      Yields awaits p t (run awaits partner p before).2 := by
  induction p generalizing before with
  | done a => exact ⟨[], (List.append_nil before).symm, .done a⟩
  | fail e => exact ⟨[], (List.append_nil before).symm, .fail e⟩
  | ask q next ih =>
      rw [run]
      split
      next hcut => exact ⟨_, rfl, .cut ((Bool.and_eq_true _ _).mp hcut).1⟩
      next =>
        obtain ⟨t, ht, hyields⟩ :=
          ih (partner.reply before q) (before ++ [⟨q, some (partner.reply before q)⟩])
        exact ⟨_, by rw [ht, List.append_assoc]; rfl, .reply _ hyields⟩

variable {t : List (Entry κ ρ)}

theorem yields_done {a : α} {o : Outcome ε α} :
    Yields awaits (.done a : Program κ ρ ε α) t o ↔ t = [] ∧ o = .finished a := by
  constructor
  · rintro ⟨⟩
    exact ⟨rfl, rfl⟩
  · rintro ⟨rfl, rfl⟩
    exact .done a

theorem yields_ofExcept {x : Except ε α} {o : Outcome ε α} :
    Yields awaits (.ofExcept x : Program κ ρ ε α) t o ↔
      t = [] ∧ ((∃ a, x = .ok a ∧ o = .finished a) ∨ ∃ e, x = .error e ∧ o = .failed e) := by
  cases x with
  | ok a => simpa [Program.ofExcept] using yields_done
  | error e =>
      constructor
      · rintro ⟨⟩
        exact ⟨rfl, .inr ⟨e, rfl, rfl⟩⟩
      · rintro ⟨rfl, h⟩
        rcases h with ⟨a, h, -⟩ | ⟨e', h, rfl⟩
        · cases h
        · cases h
          exact .fail e

theorem yields_request {q : κ} {o : Outcome ε (ρ q)} :
    Yields awaits (.request q : Program κ ρ ε (ρ q)) t o ↔
      (awaits q = true ∧ t = [⟨q, none⟩] ∧ o = .cut) ∨
        ∃ r, t = [⟨q, some r⟩] ∧ o = .finished r := by
  constructor
  · rintro (_ | _ | h | ⟨r, ⟨⟩⟩)
    · exact .inl ⟨h, rfl, rfl⟩
    · exact .inr ⟨r, rfl, rfl⟩
  · rintro (⟨h, rfl, rfl⟩ | ⟨r, rfl, rfl⟩)
    · exact .cut h
    · exact .reply r (.done r)

theorem yields_ask {q : κ} {next : ρ q → Program κ ρ ε β} {o : Outcome ε β} :
    Yields awaits (.ask q next) t o ↔
      (awaits q = true ∧ t = [⟨q, none⟩] ∧ o = .cut) ∨
        ∃ r rest, t = ⟨q, some r⟩ :: rest ∧ Yields awaits (next r) rest o := by
  constructor
  · rintro (_ | _ | h | ⟨r, h⟩)
    · exact .inl ⟨h, rfl, rfl⟩
    · exact .inr ⟨r, _, rfl, h⟩
  · rintro (⟨h, rfl, rfl⟩ | ⟨r, rest, rfl, h⟩)
    · exact .cut h
    · exact .reply r h

theorem yields_request_bind {q : κ} {f : ρ q → Program κ ρ ε β} {o : Outcome ε β} :
    Yields awaits (.request q >>= f) t o ↔
      (awaits q = true ∧ t = [⟨q, none⟩] ∧ o = .cut) ∨
        ∃ r rest, t = ⟨q, some r⟩ :: rest ∧ Yields awaits (f r) rest o :=
  yields_ask

theorem yields_bind {p : Program κ ρ ε α} {f : α → Program κ ρ ε β} {o : Outcome ε β} :
    Yields awaits (p >>= f) t o ↔
      (∃ a first second, Yields awaits p first (.finished a) ∧ Yields awaits (f a) second o ∧
        t = first ++ second) ∨
      (∃ e, Yields awaits p t (.failed e) ∧ o = .failed e) ∨
      (Yields awaits p t .cut ∧ o = .cut) := by
  induction p generalizing t with
  | done a =>
      change Yields awaits (f a) t o ↔ _
      constructor
      · exact fun h => .inl ⟨a, [], t, .done a, h, rfl⟩
      · rintro (⟨b, first, second, ⟨⟩, h, rfl⟩ | ⟨e, ⟨⟩, -⟩ | ⟨⟨⟩, -⟩)
        exact h
  | fail e =>
      change Yields awaits (.fail e) t o ↔ _
      constructor
      · rintro ⟨⟩
        exact .inr (.inl ⟨e, .fail e, rfl⟩)
      · rintro (⟨b, first, second, ⟨⟩, -⟩ | ⟨e, ⟨⟩, rfl⟩ | ⟨⟨⟩, -⟩)
        exact .fail e
  | ask q next ih =>
      change Yields awaits (.ask q fun r => next r >>= f) t o ↔ _
      constructor
      · rintro (_ | _ | h | ⟨r, h⟩)
        · exact .inr (.inr ⟨.cut h, rfl⟩)
        · rcases (ih r).mp h with ⟨a, first, second, hp, hf, rfl⟩ | ⟨e, hp, rfl⟩ | ⟨hp, rfl⟩
          · exact .inl ⟨a, _, second, .reply r hp, hf, rfl⟩
          · exact .inr (.inl ⟨e, .reply r hp, rfl⟩)
          · exact .inr (.inr ⟨.reply r hp, rfl⟩)
      · rintro (⟨a, first, second, _ | _ | _ | ⟨r, hp⟩, hf, rfl⟩ |
          ⟨e, _ | _ | _ | ⟨r, hp⟩, rfl⟩ | ⟨_ | _ | h | ⟨r, hp⟩, rfl⟩)
        · exact .reply r ((ih r).mpr (.inl ⟨a, _, second, hp, hf, rfl⟩))
        · exact .reply r ((ih r).mpr (.inr (.inl ⟨e, hp, rfl⟩)))
        · exact .cut h
        · exact .reply r ((ih r).mpr (.inr (.inr ⟨hp, rfl⟩)))

theorem Yields.cut_iff {p : Program κ ρ ε α} {o : Outcome ε α} (h : Yields awaits p t o) :
    o = .cut ↔ ∃ entry ∈ t, entry.reply = none := by
  induction h with
  | done a => simp
  | fail e => simp
  | cut => simp
  | reply r _ ih => simp [ih]

theorem Yields.of_bind {p : Program κ ρ ε α} {f : α → Program κ ρ ε β} {b : β}
    (h : Yields awaits (p >>= f) t (.finished b)) :
    ∃ a first second, Yields awaits p first (.finished a) ∧
      Yields awaits (f a) second (.finished b) ∧ t = first ++ second := by
  rcases yields_bind.mp h with h | ⟨_, _, h⟩ | ⟨_, h⟩
  · exact h
  · cases h
  · cases h

theorem Yields.failed_of_bind {p : Program κ ρ ε α} {f : α → Program κ ρ ε β} {e : ε}
    (h : Yields awaits (p >>= f) t (.failed e)) :
    (∃ a first second, Yields awaits p first (.finished a) ∧
      Yields awaits (f a) second (.failed e) ∧ t = first ++ second) ∨
    Yields awaits p t (.failed e) := by
  rcases yields_bind.mp h with h | ⟨_, h, he⟩ | ⟨_, h⟩
  · exact .inl h
  · cases he
    exact .inr h
  · cases h

theorem Yields.of_request_bind {q : κ} {f : ρ q → Program κ ρ ε β} {b : β}
    (h : Yields awaits (.request q >>= f) t (.finished b)) :
    ∃ r rest, t = ⟨q, some r⟩ :: rest ∧ Yields awaits (f r) rest (.finished b) := by
  rcases yields_request_bind.mp h with ⟨_, _, h⟩ | h
  · cases h
  · exact h

/-- A request and what is computed from its reply. -/
theorem Yields.of_request_map {q : κ} {f : ρ q → β} {b : β}
    (h : Yields awaits (.request q >>= fun r => (.done (f r) : Program κ ρ ε β)) t
      (.finished b)) :
    ∃ r, t = [⟨q, some r⟩] ∧ b = f r := by
  obtain ⟨r, rest, rfl, hrest⟩ := h.of_request_bind
  obtain ⟨rfl, hdone⟩ := yields_done.mp hrest
  cases hdone
  exact ⟨r, rfl, rfl⟩

end Runs

section Sends

variable (awaits : κ → Bool) (π : Entry κ ρ → Option γ)

/-- Of what `π` sees in a run, a program sends a list, or the beginning of it when it does not
come to its end. -/
def Sends (p : Program κ ρ ε α) (l : List γ) : Prop :=
  ∀ t o, Yields awaits p t o →
    t.filterMap π <+: l ∧ ∀ a, o = .finished a → t.filterMap π = l

variable {awaits π}

theorem sends_done (a : α) : Sends awaits π (.done a : Program κ ρ ε α) [] := by
  rintro t o ⟨⟩
  exact ⟨List.nil_prefix, fun _ _ => rfl⟩

theorem sends_ofExcept (x : Except ε α) :
    Sends awaits π (.ofExcept x : Program κ ρ ε α) [] := by
  intro t o h
  obtain ⟨rfl, -⟩ := yields_ofExcept.mp h
  exact ⟨List.nil_prefix, fun _ _ => rfl⟩

theorem sends_request {q : κ} {c : γ} (h : ∀ r, π ⟨q, r⟩ = some c) :
    Sends awaits π (.request q : Program κ ρ ε (ρ q)) [c] := by
  intro t o hyields
  rcases yields_request.mp hyields with ⟨-, rfl, rfl⟩ | ⟨r, rfl, rfl⟩
  · simp [h]
  · simp [h]

theorem sends_hidden {q : κ} (h : ∀ r, π ⟨q, r⟩ = none) :
    Sends awaits π (.request q : Program κ ρ ε (ρ q)) [] := by
  intro t o hyields
  rcases yields_request.mp hyields with ⟨-, rfl, rfl⟩ | ⟨r, rfl, rfl⟩
  · simp [h]
  · simp [h]

theorem Sends.bind {p : Program κ ρ ε α} {f : α → Program κ ρ ε β} {l m : List γ}
    (hp : Sends awaits π p l) (hf : ∀ a, Sends awaits π (f a) m) :
    Sends awaits π (p >>= f) (l ++ m) := by
  intro t o hyields
  rcases yields_bind.mp hyields with
    ⟨a, first, second, hfirst, hsecond, rfl⟩ | ⟨e, h, rfl⟩ | ⟨h, rfl⟩
  · rw [List.filterMap_append, (hp first _ hfirst).2 a rfl]
    obtain ⟨hpre, hall⟩ := hf a second o hsecond
    exact ⟨List.prefix_append_right_inj l |>.mpr hpre, fun b hb => by rw [hall b hb]⟩
  · exact ⟨(hp t _ h).1.trans (List.prefix_append l m), fun _ hb => by cases hb⟩
  · exact ⟨(hp t _ h).1.trans (List.prefix_append l m), fun _ hb => by cases hb⟩

theorem Sends.map {p : Program κ ρ ε α} {l : List γ} (hp : Sends awaits π p l) (f : α → β) :
    Sends awaits π (do let a ← p; .done (f a)) l := by
  have hdone := hp.bind (m := []) fun a => sends_done (f a)
  rwa [List.append_nil] at hdone

theorem sends_each {f : α → Program κ ρ ε β} {g : α → List γ}
    (h : ∀ a, Sends awaits π (f a) (g a)) (as : List α) :
    Sends awaits π (.each f as) (as.flatMap g) := by
  induction as with
  | nil => exact sends_done []
  | cons a as ih =>
      exact (h a).bind fun b => ih.map fun bs => b :: bs

theorem sends_each_map {f : α → Program κ ρ ε β} {g : α → γ}
    (h : ∀ a, Sends awaits π (f a) [g a]) (as : List α) :
    Sends awaits π (.each f as) (as.map g) := by
  have hall := sends_each h as
  rwa [show (as.flatMap fun a => [g a]) = as.map g from List.flatMap_pure_eq_map g as] at hall

theorem sends_each_hidden {f : α → Program κ ρ ε β} (h : ∀ a, Sends awaits π (f a) [])
    (as : List α) : Sends awaits π (.each f as) [] := by
  have hall := sends_each h as
  rwa [List.flatMap_eq_nil_iff.mpr fun _ _ => rfl] at hall

theorem sends_repeated {p : Program κ ρ ε Unit} {l : List γ} (h : Sends awaits π p l) (n : Nat) :
    Sends awaits π (.repeated p n) (List.replicate n l).flatten := by
  induction n with
  | zero => exact sends_done ()
  | succ n ih =>
      rw [List.replicate_succ, List.flatten_cons]
      exact h.bind fun _ => ih

end Sends

section Respects

variable (P : κ → Prop) (Q : ε → Prop)

/-- A program makes no other requests than these, and fails for no other reasons. -/
def Program.Respects : Program κ ρ ε α → Prop
  | .done _ => True
  | .fail e => Q e
  | .ask q next => P q ∧ ∀ r, (next r).Respects

variable {P Q} {awaits : κ → Bool}

theorem Program.Respects.yields {p : Program κ ρ ε α} (h : p.Respects P Q)
    {t : List (Entry κ ρ)} {o : Outcome ε α} (hyields : Yields awaits p t o) :
    (∀ entry ∈ t, P entry.request) ∧ ∀ e, o = .failed e → Q e := by
  induction hyields with
  | done a => exact ⟨fun _ hmem => (by cases hmem), fun _ ho => (by cases ho)⟩
  | fail e => exact ⟨fun _ hmem => (by cases hmem), fun _ ho => (by cases ho; exact h)⟩
  | cut => exact ⟨List.forall_mem_singleton.mpr h.1, fun _ ho => (by cases ho)⟩
  | reply r _ ih =>
      obtain ⟨hrest, hfails⟩ := ih (h.2 r)
      exact ⟨List.forall_mem_cons.mpr ⟨h.1, hrest⟩, hfails⟩

theorem Program.Respects.mono {Q' : ε → Prop} {p : Program κ ρ ε α} (h : p.Respects P Q)
    (hQ : ∀ e, Q e → Q' e) : p.Respects P Q' := by
  induction p with
  | done a => trivial
  | fail e => exact hQ e h
  | ask q next ih => exact ⟨h.1, fun r => ih r (h.2 r)⟩

theorem respects_request {q : κ} (h : P q) :
    (Program.request q : Program κ ρ ε (ρ q)).Respects P Q :=
  ⟨h, fun _ => trivial⟩

theorem Program.Respects.bind {p : Program κ ρ ε α} {f : α → Program κ ρ ε β}
    (hp : p.Respects P Q) (hf : ∀ a, (f a).Respects P Q) : (p >>= f).Respects P Q := by
  induction p with
  | done a => exact hf a
  | fail e => exact hp
  | ask q next ih => exact ⟨hp.1, fun r => ih r (hp.2 r)⟩

theorem respects_each {f : α → Program κ ρ ε β} (h : ∀ a, (f a).Respects P Q) (as : List α) :
    (Program.each f as).Respects P Q := by
  induction as with
  | nil => trivial
  | cons a as ih => exact (h a).bind fun b => ih.bind fun bs => trivial

theorem respects_repeated {p : Program κ ρ ε Unit} (h : p.Respects P Q) (n : Nat) :
    (Program.repeated p n).Respects P Q := by
  induction n with
  | zero => trivial
  | succ n ih => exact h.bind fun _ => ih

end Respects

section Resources

open ZenOS.Library.Runs

variable {χ : Type} (awaits : κ → Bool) (next : χ → Entry κ ρ → χ)
  (fits sound : χ → Entry κ ρ → Prop) (R : χ → χ → Prop)

/-- Where the replies fit the resource, a program leaves it as `R` says, and as it has found it
unless it is cut off or a step is not sound. -/
def Restores (p : Program κ ρ ε α) : Prop :=
  ∀ x t o, Yields awaits p t o → Along next fits x t →
    R x (exec next x t) ∧ (o ≠ .cut → Along next sound x t → exec next x t = x)

variable {awaits next fits sound R}

theorem restores_done (hR : ∀ x, R x x) (a : α) :
    Restores awaits next fits sound R (.done a : Program κ ρ ε α) := by
  rintro x t o ⟨⟩ -
  exact ⟨hR x, fun _ _ => rfl⟩

theorem restores_fail (hR : ∀ x, R x x) (e : ε) :
    Restores awaits next fits sound R (.fail e : Program κ ρ ε α) := by
  rintro x t o ⟨⟩ -
  exact ⟨hR x, fun _ _ => rfl⟩

theorem restores_request (hR : ∀ x, R x x) {q : κ} (h : ∀ x r, next x ⟨q, r⟩ = x) :
    Restores awaits next fits sound R (.request q : Program κ ρ ε (ρ q)) := by
  intro x t o hyields _
  rcases yields_request.mp hyields with ⟨-, rfl, rfl⟩ | ⟨r, rfl, rfl⟩
  · rw [exec_cons, exec_nil, h]
    exact ⟨hR x, fun _ _ => rfl⟩
  · rw [exec_cons, exec_nil, h]
    exact ⟨hR x, fun _ _ => rfl⟩

theorem Restores.bind (htrans : ∀ {x y z}, R x y → R y z → R x z) {p : Program κ ρ ε α}
    {f : α → Program κ ρ ε β} (hp : Restores awaits next fits sound R p)
    (hf : ∀ a, Restores awaits next fits sound R (f a)) :
    Restores awaits next fits sound R (p >>= f) := by
  intro x t o hyields hfits
  rcases yields_bind.mp hyields with
    ⟨a, first, second, hfirst, hsecond, rfl⟩ | ⟨e, h, rfl⟩ | ⟨h, rfl⟩
  · obtain ⟨hfits, hfits'⟩ := (along_append ..).mp hfits
    obtain ⟨hleft, hkept⟩ := hp x first _ hfirst hfits
    obtain ⟨hleft', hkept'⟩ := hf a _ second o hsecond hfits'
    rw [exec_append]
    refine ⟨htrans hleft hleft', fun hne hsound => ?_⟩
    obtain ⟨hsound, hsound'⟩ := (along_append ..).mp hsound
    exact (hkept' hne hsound').trans (hkept nofun hsound)
  · obtain ⟨hleft, hkept⟩ := hp x t _ h hfits
    exact ⟨hleft, fun _ hsound => hkept nofun hsound⟩
  · obtain ⟨hleft, -⟩ := hp x t _ h hfits
    exact ⟨hleft, fun hne => absurd rfl hne⟩

/-- The replies of a partner that knows the state of the resource fit it. -/
theorem run_along {partner : Partner κ ρ} {x : χ}
    (hfits : ∀ before q, fits (exec next x before) ⟨q, none⟩ ∧
      fits (exec next x before) ⟨q, some (partner.reply before q)⟩)
    (p : Program κ ρ ε α) (before : List (Entry κ ρ)) (h : Along next fits x before) :
    Along next fits x (run awaits partner p before).1 := by
  induction p generalizing before with
  | done a => exact h
  | fail e => exact h
  | ask q next' ih =>
      rw [run]
      split
      · exact (along_append ..).mpr ⟨h, (hfits before q).1, trivial⟩
      · exact ih _ _ ((along_append ..).mpr ⟨h, (hfits before q).2, trivial⟩)

theorem exec_of_forall {t : List (Entry κ ρ)} (h : ∀ entry ∈ t, ∀ x, next x entry = x) (x : χ) :
    exec next x t = x := by
  induction t with
  | nil => rfl
  | cons entry t ih =>
      rw [exec_cons, h entry List.mem_cons_self]
      exact ih fun entry' hentry' => h entry' (List.mem_cons_of_mem _ hentry')

end Resources

theorem yields_each {awaits : κ → Bool} {R : Type} {f : α → Program κ ρ ε β}
    (entry : α → R → Entry κ ρ) (g : α → R → β)
    (h : ∀ a t b, Yields awaits (f a) t (.finished b) → ∃ r, t = [entry a r] ∧ b = g a r)
    {as : List α} {t : List (Entry κ ρ)} {bs : List β}
    (hyields : Yields awaits (.each f as) t (.finished bs)) :
    ∃ rs : List R, rs.length = as.length ∧ t = List.zipWith entry as rs ∧
      bs = List.zipWith g as rs := by
  induction as generalizing t bs with
  | nil =>
      obtain ⟨rfl, h⟩ := yields_done.mp hyields
      cases h
      exact ⟨[], rfl, rfl, rfl⟩
  | cons a as ih =>
      obtain ⟨b, first, rest, hfirst, hrest, rfl⟩ := hyields.of_bind
      obtain ⟨r, rfl, rfl⟩ := h a first b hfirst
      obtain ⟨bs', second, last, hsecond, hlast, rfl⟩ := hrest.of_bind
      obtain ⟨rs, hlength, rfl, rfl⟩ := ih hsecond
      obtain ⟨rfl, hdone⟩ := yields_done.mp hlast
      cases hdone
      exact ⟨r :: rs, by rw [List.length_cons, List.length_cons, hlength], by simp, rfl⟩

theorem zipWith_eq_map_zipIdx {R : Type} [Inhabited R] {f : α → R → β} {as : List α}
    {rs : List R} (hlength : rs.length = as.length) :
    List.zipWith f as rs = as.zipIdx.map fun (a, i) => f a (rs[i]?.getD default) := by
  refine List.ext_getElem (by simp [hlength]) fun i hi hi' => ?_
  have hrs : i < rs.length := by
    rw [List.length_zipWith] at hi
    exact Nat.lt_of_lt_of_le hi (Nat.min_le_right _ _)
  simp [hrs]

theorem yields_each_zipIdx {awaits : κ → Bool} {R : Type} [Inhabited R]
    {f : α → Program κ ρ ε β} (entry : α → R → Entry κ ρ) (g : α → R → β)
    (h : ∀ a t b, Yields awaits (f a) t (.finished b) → ∃ r, t = [entry a r] ∧ b = g a r)
    {as : List α} {t : List (Entry κ ρ)} {bs : List β}
    (hyields : Yields awaits (.each f as) t (.finished bs)) :
    ∃ reply : Nat → R, t = (as.zipIdx.map fun (a, i) => entry a (reply i)) ∧
      bs = as.zipIdx.map fun (a, i) => g a (reply i) := by
  obtain ⟨rs, hlength, rfl, rfl⟩ := yields_each entry g h hyields
  exact ⟨fun i => rs[i]?.getD default, zipWith_eq_map_zipIdx hlength,
    zipWith_eq_map_zipIdx hlength⟩

end ZenOS.Library.Dialogue
