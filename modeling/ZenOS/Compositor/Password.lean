import ZenOS.Compositor.Calls
import ZenOS.Compositor.LockScreen
import ZenOS.Library.Runs

/-!
The password of the lock screen.  A run is observed together with the keysyms typed
since the password was last cleared; the buffer holds exactly what they spell, and
PAM is asked about exactly that.
-/

namespace ZenOS.Compositor

open ZenOS.Library.Runs ZenOS.Library.CString

/-- What one more keysym makes of the characters typed so far. -/
def typeKeysym (chars : List UInt8) (keysym : UInt32) : List UInt8 :=
  if keysym = keyBackSpace then chars.dropLast
  else if 0x20 ≤ keysym ∧ keysym ≤ 0x7e ∧ chars.length < zenLockPassMax then
    chars ++ [keysym.toUInt8]
  else chars

/-- The password that a sequence of keysyms spells. -/
def passwordOf (typed : List UInt32) : List UInt8 :=
  typed.foldl typeKeysym []

/-- One keysym given to the lock screen, observed together with the log of the keysyms
pressed since the password was last cleared. -/
def typeIntoLock (pressed : Bool) (pam : Nat → List UInt8 → Bool)
    (p : ZenCompositor × List UInt32) (keysym : UInt32) : ZenCompositor × List UInt32 :=
  ((zenLockHandleKey p.1 keysym pressed pam).1,
    if !p.1.lock.locked || !pressed then p.2
    else if keysym = keyReturn ∨ keysym = keyKPEnter ∨ keysym = keyEscape then []
    else p.2 ++ [keysym])

/-- The lock screen in the middle of a key event, after some of its keysyms. -/
def afterKeysyms (p : ZenCompositor × List UInt32) (k : KeyboardId) (keycode : UInt32)
    (pressed : Bool) (pam : Nat → List UInt8 → Bool) (syms : List UInt32) :
    ZenCompositor × List UInt32 :=
  syms.foldl (typeIntoLock pressed pam)
    (wlrKeyboardUpdate { p.1 with calls := [] } k keycode pressed, p.2)

/-- The log after the keysyms of an event. -/
def typedBy (p : ZenCompositor × List UInt32) : Event → List UInt32
  | .key k keycode syms pressed _ _ pam => (afterKeysyms p k keycode pressed pam syms).2
  | _ => p.2

/-- A step of the compositor observed together with the log of typed keysyms, which
starts anew when the screen gets locked. -/
def stepTyped (p : ZenCompositor × List UInt32) (e : Event) :
    ZenCompositor × List UInt32 :=
  (step p.1 e,
    if p.1.lock.locked = false ∧ (step p.1 e).lock.locked = true then [] else typedBy p e)

theorem exec_stepTyped_fst (p : ZenCompositor × List UInt32) (events : List Event) :
    (exec stepTyped p events).1 = exec step p.1 events :=
  exec_fst (fun _ _ => rfl) p events

/-- The buffer holds what has been typed, and nothing is typed while unlocked. -/
structure PasswordHeld (p : ZenCompositor × List UInt32) : Prop where
  holds : Holds p.1.lock.password p.1.lock.passwordLen (passwordOf p.2)
  unlocked : p.1.lock.locked = false → p.2 = []

theorem toUInt8_and_ff (keysym : UInt32) : (keysym &&& 0xff).toUInt8 = keysym.toUInt8 := by
  apply UInt8.toNat_inj.mp
  rw [UInt32.toNat_toUInt8, UInt32.toNat_toUInt8, UInt32.toNat_and]
  change (keysym.toNat &&& 2 ^ 8 - 1) % 2 ^ 8 = keysym.toNat % 2 ^ 8
  rw [Nat.and_two_pow_sub_one_eq_mod, Nat.mod_mod]

theorem toUInt8_ne_zero {keysym : UInt32} (h : 0x20 ≤ keysym) (h' : keysym ≤ 0x7e) :
    keysym.toUInt8 ≠ 0 := by
  intro hzero
  have hnat : keysym.toNat % 2 ^ 8 = 0 := by
    rw [← UInt32.toNat_toUInt8, hzero]
    rfl
  have hlo : 32 ≤ keysym.toNat := UInt32.le_iff_toNat_le.mp h
  have hhi : keysym.toNat ≤ 126 := UInt32.le_iff_toNat_le.mp h'
  omega

theorem passwordOf_append (typed : List UInt32) (keysym : UInt32) :
    passwordOf (typed ++ [keysym]) = typeKeysym (passwordOf typed) keysym := by
  simp [passwordOf]

section Keysym

variable {s : ZenCompositor} {typed : List UInt32}

theorem PasswordHeld.of_locked {p : ZenCompositor × List UInt32}
    (h : Holds p.1.lock.password p.1.lock.passwordLen (passwordOf p.2))
    (hl : p.1.lock.locked = true) : PasswordHeld p :=
  ⟨h, fun hu => absurd (hl.symm.trans hu) (by simp)⟩

theorem holds_clearPassword (l : LockState) :
    Holds l.clearPassword.password l.clearPassword.passwordLen (passwordOf []) :=
  .clear (Nat.succ_pos _)

theorem backSpace_held (h : PasswordHeld (s, typed)) (hl : s.lock.locked = true)
    (pam : Nat → List UInt8 → Bool) :
    PasswordHeld ((zenLockHandleKey s keyBackSpace true pam).1, typed ++ [keyBackSpace]) := by
  have hholds : Holds s.lock.password s.lock.passwordLen (passwordOf typed) := h.holds
  have hspelled : passwordOf (typed ++ [keyBackSpace]) = (passwordOf typed).dropLast := by
    rw [passwordOf_append, typeKeysym, if_pos rfl]
  rw [zenLockHandleKey, if_neg (by simp [hl]), if_pos rfl]
  split
  · next hlen =>
      refine .of_locked ?_ hl
      rw [hspelled]
      exact hholds.pop hlen
  · next hlen =>
      refine .of_locked ?_ hl
      have hnil : passwordOf typed = [] := by
        have := hholds.length_eq
        exact List.eq_nil_of_length_eq_zero (by omega)
      rw [hnil] at hspelled hholds
      rw [hspelled]
      exact hholds

theorem return_held (hl : s.lock.locked = true) {keysym : UInt32}
    (hkey : keysym = keyReturn ∨ keysym = keyKPEnter) (pam : Nat → List UInt8 → Bool) :
    PasswordHeld ((zenLockHandleKey s keysym true pam).1, []) := by
  have hback : keysym ≠ keyBackSpace := by rcases hkey with rfl | rfl <;> decide
  have hask : (pamAuthenticatePassword s pam).1.lock.locked = true := hl
  rw [zenLockHandleKey, if_neg (by simp [hl]), if_neg hback, if_pos hkey]
  generalize pamAuthenticatePassword s pam = answer at hask ⊢
  obtain ⟨s', success⟩ := answer
  cases success with
  | false => exact .of_locked (holds_clearPassword s'.lock) hask
  | true =>
      refine ⟨?_, fun _ => rfl⟩
      change Holds (zenLockDeactivate s').lock.password
        (zenLockDeactivate s').lock.passwordLen (passwordOf [])
      rw [zenLockDeactivate_lock hask]
      exact holds_clearPassword s'.lock

theorem escape_held (hl : s.lock.locked = true) (pam : Nat → List UInt8 → Bool) :
    PasswordHeld ((zenLockHandleKey s keyEscape true pam).1, []) := by
  rw [zenLockHandleKey, if_neg (by simp [hl]), if_neg (by decide), if_neg (by decide),
    if_pos rfl]
  exact .of_locked (holds_clearPassword s.lock) hl

theorem character_held (h : PasswordHeld (s, typed)) (hl : s.lock.locked = true)
    {keysym : UInt32} (hback : keysym ≠ keyBackSpace)
    (hreturn : ¬ (keysym = keyReturn ∨ keysym = keyKPEnter)) (hescape : keysym ≠ keyEscape)
    (pam : Nat → List UInt8 → Bool) :
    PasswordHeld ((zenLockHandleKey s keysym true pam).1, typed ++ [keysym]) := by
  have hholds : Holds s.lock.password s.lock.passwordLen (passwordOf typed) := h.holds
  have hlen := hholds.length_eq
  have hspelled := passwordOf_append typed keysym
  rw [typeKeysym, if_neg hback] at hspelled
  rw [zenLockHandleKey, if_neg (by simp [hl]), if_neg hback, if_neg hreturn, if_neg hescape]
  split
  · next hprint =>
      split
      · next hroom =>
          rw [if_pos ⟨hprint.1, hprint.2, hlen ▸ hroom⟩] at hspelled
          refine .of_locked ?_ hl
          dsimp only
          rw [hspelled, toUInt8_and_ff]
          exact hholds.push (toUInt8_ne_zero hprint.1 hprint.2) (by omega)
      · next hroom =>
          rw [if_neg fun hc => hroom (hlen ▸ hc.2.2)] at hspelled
          refine .of_locked ?_ hl
          rw [hspelled]
          exact hholds
  · next hprint =>
      rw [if_neg fun hc => hprint ⟨hc.1, hc.2.1⟩] at hspelled
      refine .of_locked ?_ hl
      rw [hspelled]
      exact hholds

end Keysym

theorem typeIntoLock_held {p : ZenCompositor × List UInt32} (h : PasswordHeld p)
    (pressed : Bool) (pam : Nat → List UInt8 → Bool) (keysym : UInt32) :
    PasswordHeld (typeIntoLock pressed pam p keysym) := by
  obtain ⟨s, typed⟩ := p
  rcases hl : s.lock.locked with _ | _
  · simpa [typeIntoLock, zenLockHandleKey, hl] using h
  rcases pressed with _ | _
  · simpa [typeIntoLock, zenLockHandleKey] using h
  rw [typeIntoLock, if_neg (by simp [hl])]
  by_cases hreturn : keysym = keyReturn ∨ keysym = keyKPEnter
  · rw [if_pos (hreturn.imp_right .inl)]
    exact return_held hl hreturn pam
  rcases eq_or_ne keysym keyEscape with hescape | hescape
  · subst hescape
    rw [if_pos (.inr (.inr rfl))]
    exact escape_held hl pam
  rw [if_neg (by tauto)]
  rcases eq_or_ne keysym keyBackSpace with hback | hback
  · subst hback
    exact backSpace_held h hl pam
  · exact character_held h hl hback hreturn hescape pam

theorem foldl_typeIntoLock_held {p : ZenCompositor × List UInt32} (h : PasswordHeld p)
    (pressed : Bool) (pam : Nat → List UInt8 → Bool) (syms : List UInt32) :
    PasswordHeld (syms.foldl (typeIntoLock pressed pam) p) := by
  induction syms generalizing p with
  | nil => exact h
  | cons keysym syms ih => exact ih (typeIntoLock_held h pressed pam keysym)

theorem foldl_typeIntoLock_fst (p : ZenCompositor × List UInt32) (pressed : Bool)
    (pam : Nat → List UInt8 → Bool) (syms : List UInt32) :
    (syms.foldl (typeIntoLock pressed pam) p).1 = handleLockedSyms p.1 pressed pam syms := by
  induction syms generalizing p with
  | nil => rfl
  | cons keysym syms ih => exact ih (typeIntoLock pressed pam p keysym)

theorem foldl_typeIntoLock_of_unlocked {p : ZenCompositor × List UInt32}
    (hl : p.1.lock.locked = false) (pressed : Bool) (pam : Nat → List UInt8 → Bool)
    (syms : List UInt32) : syms.foldl (typeIntoLock pressed pam) p = p := by
  induction syms with
  | nil => rfl
  | cons keysym syms ih =>
      have hone : typeIntoLock pressed pam p keysym = p := by
        simp [typeIntoLock, zenLockHandleKey_of_unlocked hl, hl]
      rw [List.foldl_cons, hone]
      exact ih

theorem zenLockActivate_of_locked {s : ZenCompositor} (hl : s.lock.locked = true)
    (bufferOk : Bool) : zenLockActivate s bufferOk = s := by
  simp [zenLockActivate, hl]

theorem zenLockActivate_held {s : ZenCompositor} (hl : s.lock.locked = false)
    (bufferOk : Bool) :
    PasswordHeld (zenLockActivate s bufferOk, []) := by
  refine ⟨?_, fun _ => rfl⟩
  rw [zenLockActivate, if_neg (by simp [hl])]
  dsimp only
  split <;> exact holds_clearPassword s.lock

theorem step_lock_of_unlocked {s : ZenCompositor} (hl : s.lock.locked = false) (e : Event) :
    (step s e).lock = s.lock ∨
      ∃ s' bufferOk, s'.lock = s.lock ∧ (step s e).lock = (zenLockActivate s' bufferOk).lock := by
  rcases eq_or_ne e.owner .lock with ho | ho
  · cases e with
    | idleTimeout ok | lockSignal ok => exact .inr ⟨{ s with calls := [] }, ok, rfl, rfl⟩
    | newLock lock => exact .inl rfl
    | key k keycode syms pressed modifiers ok pam =>
        let arrived := wlrKeyboardUpdate { s with calls := [] } k keycode pressed
        have hkey := handleKeyboardKey_of_unlocked (s := arrived) hl k keycode syms pressed
          modifiers ok pam
        split at hkey
        · next ok' _ => exact .inr ⟨arrived, ok', rfl, congrArg ZenCompositor.lock hkey⟩
        · exact .inl hkey.1
    | _ => cases ho
  · exact .inl (step_lock s ho)

theorem step_of_locked {p : ZenCompositor × List UInt32} (hl : p.1.lock.locked = true)
    (e : Event) :
    ((step p.1 e).lock = p.1.lock ∧ typedBy p e = p.2) ∨
      ∃ k keycode syms pressed modifiers bufferOk pam,
        e = .key k keycode syms pressed modifiers bufferOk pam ∧
          step p.1 e = (afterKeysyms p k keycode pressed pam syms).1 := by
  rcases eq_or_ne e.owner .lock with ho | ho
  · cases e with
    | idleTimeout ok | lockSignal ok =>
        refine .inl ⟨?_, rfl⟩
        have h := congrArg ZenCompositor.lock
          (zenLockActivate_of_locked (s := { p.1 with calls := [] }) hl ok)
        exact h
    | newLock lock => exact .inl ⟨rfl, rfl⟩
    | key k keycode syms pressed modifiers ok pam =>
        refine .inr ⟨k, keycode, syms, pressed, modifiers, ok, pam, rfl, ?_⟩
        rw [afterKeysyms, foldl_typeIntoLock_fst]
        exact handle_key_of_locked (s := { p.1 with calls := [] }) hl
    | _ => cases ho
  · refine .inl ⟨step_lock p.1 ho, ?_⟩
    cases e <;> first | rfl | exact absurd rfl ho

theorem typedBy_of_unlocked {p : ZenCompositor × List UInt32} (hl : p.1.lock.locked = false)
    (e : Event) : typedBy p e = p.2 := by
  cases e with
  | key k keycode syms pressed modifiers ok pam =>
      have h := congrArg Prod.snd (foldl_typeIntoLock_of_unlocked
        (p := (wlrKeyboardUpdate { p.1 with calls := [] } k keycode pressed, p.2)) hl pressed pam
        syms)
      exact h
  | _ => rfl

theorem afterKeysyms_held {p : ZenCompositor × List UInt32} (h : PasswordHeld p)
    (k : KeyboardId) (keycode : UInt32) (pressed : Bool) (pam : Nat → List UInt8 → Bool)
    (syms : List UInt32) : PasswordHeld (afterKeysyms p k keycode pressed pam syms) :=
  foldl_typeIntoLock_held
    (p := (wlrKeyboardUpdate { p.1 with calls := [] } k keycode pressed, p.2))
    ⟨h.holds, h.unlocked⟩ pressed pam syms

theorem stepTyped_held {p : ZenCompositor × List UInt32} (h : PasswordHeld p) (e : Event) :
    PasswordHeld (stepTyped p e) := by
  rcases hl : p.1.lock.locked with _ | _
  · have hnil : p.2 = [] := h.unlocked hl
    have htyped : (stepTyped p e).2 = [] := by
      rw [stepTyped, typedBy_of_unlocked hl, hnil]
      exact ite_self _
    refine ⟨?_, fun _ => htyped⟩
    rw [htyped]
    change Holds (step p.1 e).lock.password (step p.1 e).lock.passwordLen _
    rcases step_lock_of_unlocked hl e with hlock | ⟨s', ok, hsame, hlock⟩
    · rw [hlock, ← hnil]
      exact h.holds
    · rw [hlock]
      exact (zenLockActivate_held (hsame ▸ hl) ok).holds
  · have htyped : (stepTyped p e).2 = typedBy p e := if_neg (by simp [hl])
    rcases step_of_locked hl e with
      ⟨hlock, hsame⟩ | ⟨k, keycode, syms, pressed, modifiers, ok, pam, rfl, hstep⟩
    · have hlock : (stepTyped p e).1.lock = p.1.lock := hlock
      rw [hsame] at htyped
      constructor
      · rw [hlock, htyped]
        exact h.holds
      · rw [hlock, htyped]
        exact h.unlocked
    · have hafter : stepTyped p (.key k keycode syms pressed modifiers ok pam) =
          afterKeysyms p k keycode pressed pam syms := Prod.ext hstep htyped
      rw [hafter]
      exact afterKeysyms_held h k keycode pressed pam syms

theorem zenLockHandleKey_unlocks {s : ZenCompositor} (hl : s.lock.locked = true)
    {keysym : UInt32} {pressed : Bool} {pam : Nat → List UInt8 → Bool}
    (h : (zenLockHandleKey s keysym pressed pam).1.lock.locked = false) :
    pressed = true ∧ (keysym = keyReturn ∨ keysym = keyKPEnter) ∧
      pam s.lock.pamAttempts (cString s.lock.password) = true := by
  have stays : s.lock.locked ≠ false := by simp [hl]
  rw [zenLockHandleKey] at h
  split at h
  · exact absurd h stays
  next hpressed =>
  have hpressed : pressed = true := by
    rcases pressed with _ | _
    · simp at hpressed
    · rfl
  split at h
  · split at h <;> exact absurd h stays
  split at h
  · next hreturn =>
      refine ⟨hpressed, hreturn, ?_⟩
      by_contra hpam
      rw [Bool.not_eq_true] at hpam
      have hask : (pamAuthenticatePassword s pam).2 = false := hpam
      have hstill : (pamAuthenticatePassword s pam).1.lock.locked = true := hl
      generalize pamAuthenticatePassword s pam = answer at h hask hstill
      obtain ⟨s', success⟩ := answer
      obtain rfl : success = false := hask
      exact absurd (hstill.symm.trans h) (by simp)
  split at h
  · exact absurd h stays
  split at h
  · split at h <;> exact absurd h stays
  · exact absurd h stays

theorem foldl_typeIntoLock_unlocks {p : ZenCompositor × List UInt32} {pressed : Bool}
    {pam : Nat → List UInt8 → Bool} {syms : List UInt32} (hl : p.1.lock.locked = true)
    (h : (syms.foldl (typeIntoLock pressed pam) p).1.lock.locked = false) :
    ∃ before keysym after, syms = before ++ keysym :: after ∧
      (before.foldl (typeIntoLock pressed pam) p).1.lock.locked = true ∧
      (typeIntoLock pressed pam (before.foldl (typeIntoLock pressed pam) p)
        keysym).1.lock.locked = false := by
  induction syms generalizing p with
  | nil => simp [hl] at h
  | cons keysym syms ih =>
      rcases hone : (typeIntoLock pressed pam p keysym).1.lock.locked with _ | _
      · exact ⟨[], keysym, syms, rfl, hl, hone⟩
      · obtain ⟨before, keysym', after, rfl, hbefore, hafter⟩ := ih hone h
        exact ⟨keysym :: before, keysym', after, rfl, hbefore, hafter⟩

theorem zenLockHandleKey_asks {s : ZenCompositor} (hl : s.lock.locked = true)
    {keysym : UInt32} (hreturn : keysym = keyReturn ∨ keysym = keyKPEnter)
    (pam : Nat → List UInt8 → Bool) :
    s.calls ++ [.pamAuthenticate (cString s.lock.password)
      (pam s.lock.pamAttempts (cString s.lock.password))] <+:
        (zenLockHandleKey s keysym true pam).1.calls := by
  have hback : keysym ≠ keyBackSpace := by rcases hreturn with rfl | rfl <;> decide
  have hask : (pamAuthenticatePassword s pam).1.calls =
      s.calls ++ [.pamAuthenticate (cString s.lock.password)
        (pam s.lock.pamAttempts (cString s.lock.password))] := rfl
  have hstill : (pamAuthenticatePassword s pam).1.lock.locked = true := hl
  rw [zenLockHandleKey, if_neg (by simp [hl]), if_neg hback, if_pos hreturn, ← hask]
  generalize pamAuthenticatePassword s pam = answer at hstill ⊢
  obtain ⟨s', success⟩ := answer
  cases success with
  | false => exact List.prefix_refl _
  | true =>
      change s'.calls <+: (zenLockDeactivate s').calls
      rw [zenLockDeactivate_calls hstill]
      exact List.prefix_append _ _

section Runs

variable (outputs : List Output) (bindings : List ZenKeybinding) (idleTimer : Bool)

theorem created_held : PasswordHeld (created outputs bindings idleTimer, []) where
  holds := .clear (Nat.succ_pos _)
  unlocked _ := rfl

theorem run_held (events : List Event) :
    PasswordHeld (exec stepTyped (created outputs bindings idleTimer, []) events) := by
  refine Along.invariant (I := PasswordHeld) (P := fun _ _ => True)
    (fun p e hp _ => stepTyped_held hp e) ?_ (created_held outputs bindings idleTimer)
  exact along_true _ _

/-- After every run: the screen is unlocked only at a pressed Return for which PAM
accepts the password buffer; between any two keysyms the buffer holds exactly what has
been typed since it was last cleared, and zeros behind it; and Return asks PAM about
precisely that string. -/
theorem run_password (events : List Event) :
    let p := exec stepTyped (created outputs bindings idleTimer, []) events
    (∀ e, p.1.lock.locked = true → (step p.1 e).lock.locked = false →
      ∃ k keycode before keysym after modifiers bufferOk pam,
        e = .key k keycode (before ++ keysym :: after) true modifiers bufferOk pam ∧
          (keysym = keyReturn ∨ keysym = keyKPEnter) ∧
          let q := afterKeysyms p k keycode true pam before
          q.1.lock.locked = true ∧
            pam q.1.lock.pamAttempts (cString q.1.lock.password) = true) ∧
    ∀ k keycode pressed pam syms,
      let q := afterKeysyms p k keycode pressed pam syms
      q.1.lock.passwordLen = (passwordOf q.2).length ∧
        q.1.lock.passwordLen ≤ zenLockPassMax ∧
        q.1.lock.password.toList = passwordOf q.2 ++
          List.replicate (zenLockPassMax + 1 - q.1.lock.passwordLen) 0 ∧
        cString q.1.lock.password = passwordOf q.2 ∧
        (q.1.lock.locked = true →
          ∀ keysym, keysym = keyReturn ∨ keysym = keyKPEnter →
            q.1.calls ++ [.pamAuthenticate (passwordOf q.2)
              (pam q.1.lock.pamAttempts (passwordOf q.2))] <+:
                (zenLockHandleKey q.1 keysym true pam).1.calls) := by
  intro p
  have hp : PasswordHeld p := run_held outputs bindings idleTimer events
  refine ⟨fun e hl hunlocked => ?_, fun k keycode pressed pam syms => ?_⟩
  · rcases step_of_locked hl e with
      ⟨hlock, -⟩ | ⟨k, keycode, syms, pressed, modifiers, ok, pam, rfl, hstep⟩
    · rw [hlock, hl] at hunlocked
      exact absurd hunlocked (by simp)
    · rw [hstep] at hunlocked
      obtain ⟨before, keysym, after, rfl, hbefore, hafter⟩ :=
        foldl_typeIntoLock_unlocks
          (p := (wlrKeyboardUpdate { p.1 with calls := [] } k keycode pressed, p.2)) hl hunlocked
      obtain ⟨rfl, hreturn, hpam⟩ := zenLockHandleKey_unlocks hbefore hafter
      exact ⟨k, keycode, before, keysym, after, modifiers, ok, pam, rfl, hreturn, hbefore, hpam⟩
  · intro q
    have hq : PasswordHeld q := afterKeysyms_held hp k keycode pressed pam syms
    have hlen := hq.holds.length_eq
    refine ⟨hlen, ?_, ?_, hq.holds.cString_eq, fun hl keysym hreturn => ?_⟩
    · have := hq.holds.length_lt
      omega
    · rw [hlen]
      exact hq.holds.toList_eq
    · have := zenLockHandleKey_asks hl hreturn pam
      rwa [hq.holds.cString_eq] at this

end Runs

/-- Lock, type `ab` and press Return, with a PAM that accepts `ab`. -/
theorem run_password_unlock :
    let pam : Nat → List UInt8 → Bool := fun _ password => password == [0x61, 0x62]
    let unlockKey : Event := .key 1 36 [0x61, 0x62, keyReturn] true 0 true pam
    let p := exec stepTyped (created [] [] false, []) [.newKeyboard 1 true, .idleTimeout true]
    p.1.lock.locked = true ∧ (step p.1 unlockKey).lock.locked = false ∧
      ∃ k keycode before keysym after modifiers bufferOk pam,
        unlockKey = .key k keycode (before ++ keysym :: after) true modifiers bufferOk pam ∧
          (keysym = keyReturn ∨ keysym = keyKPEnter) ∧
          let q := afterKeysyms p k keycode true pam before
          q.1.lock.locked = true ∧
            pam q.1.lock.pamAttempts (cString q.1.lock.password) = true :=
  ⟨by decide, by decide +kernel,
    (run_password [] [] false [.newKeyboard 1 true, .idleTimeout true]).1 _ (by decide)
      (by decide +kernel)⟩

end ZenOS.Compositor
