import ZenOS.Library.Dialogue
import ZenOS.Session.Authentication

/-!
The whole of `zen-session`, built with PAM, as the requests it makes of the terminal, of PAM, of
logind and of the system.  It can be killed at any of them.
-/

namespace ZenOS.Session.LifeCycle

open ZenOS.Library.Dialogue ZenOS.Library.Runs

/-- A string of C, without its terminator. -/
abbrev CText := List UInt8

inductive Style where
  | echoOff
  | echoOn
  | other
  deriving DecidableEq

/-- What PAM does while it authenticates: it returns, or it calls `pam_conv_fn`, which it does
not do more than `n` more times. -/
inductive PamReply : Nat → Type where
  | returns {n : Nat} (success : Bool) : PamReply n
  | asks {n : Nat} (styles : List Style) : PamReply (n + 1)

inductive PamStart where
  | started
  | failed (handle : Bool)

inductive ForkReply where
  | failed
  | child
  | parent

section Terminals

-- the settings of a terminal, and those settings without `ECHO`
variable (τ : Type)

inductive Request where
  | fgets (size : Nat)
  | tcgetattr
  | tcsetattr (term : τ)
  | calloc
  | strdup (s : CText)
  | pamStart (username : CText)
  | pamAuthenticate (n : Nat)
  /-- the return of `pam_conv_fn`: an error, or a response to each message -/
  | pamAnswer (n : Nat) (responses : Option (List (Option CText)))
  | pamEnd
  | openSystemBus
  | createSession
  | fork
  | setenv (name : String) (value : CText)
  | execvp (argv : List String)
  | waitpid
  | system (command : CText)
  | unrefBus

variable {τ}

def Reply : Request τ → Type
  | .fgets _ => Option CText
  | .tcgetattr => Option τ
  | .calloc | .strdup _ | .openSystemBus => Bool
  | .pamStart _ => PamStart
  | .pamAuthenticate n | .pamAnswer n _ => PamReply n
  -- an error, or a message that may have no string in it
  | .createSession => Option (Option CText)
  | .fork => ForkReply
  | .system _ => Int
  | .tcsetattr _ => Bool
  | .pamEnd | .setenv .. | .execvp _ | .waitpid | .unrefBus => Unit

/-- A process that ends by `_exit` fails with its status. -/
abbrev Process (τ : Type) := Program (Request τ) Reply Nat

def ask (q : Request τ) : Process τ (Reply q) :=
  .request q

section Init

variable (hide : τ → τ)

/-- What is read of the terminal while it does not echo. -/
def quietly {α : Type} (body : Process τ α) : Process τ α := do
  let oldTerm : Option τ ← ask .tcgetattr
  match oldTerm with
  | none => body
  | some term => do
      let _hidden : Bool ← ask (.tcsetattr (hide term))
      let a ← body
      let _restored : Bool ← ask (.tcsetattr term)
      .done a

/-- The response to a prompt; `none` when there is no memory for it. -/
def readResponse : Process τ (Option CText) := do
  let line : Option CText ← ask (.fgets 512)
  let resp := (line.map stripped).getD []
  let ok : Bool ← ask (.strdup resp)
  .done (if ok then some resp else none)

/-- What becomes of one message; one that is no prompt has no response. -/
def answer : Style → Process τ (Option (Option CText))
  | .echoOff => do
      let resp ← quietly hide readResponse
      .done (resp.map some)
  | .echoOn => do
      let resp ← readResponse
      .done (resp.map some)
  | .other => .done (some none)

/-- The loop of `pam_conv_fn` -/
def respond : List Style → Process τ (Option (List (Option CText)))
  | [] => .done (some [])
  | style :: styles => do
      let resp ← answer hide style
      match resp with
      | none => .done none
      | some resp => do
          let rest ← respond styles
          .done (rest.map (resp :: ·))

def pamConvFn (styles : List Style) : Process τ (Option (List (Option CText))) := do
  let ok : Bool ← ask .calloc
  if ok then respond hide styles else .done none

/-- The rest of `pam_authenticate`. -/
def converse : {n : Nat} → PamReply n → Process τ Bool
  | _, .returns success => .done success
  | n + 1, .asks styles => do
      let responses ← pamConvFn hide styles
      let reply : PamReply n ← ask (.pamAnswer n responses)
      converse reply

variable (n : Nat)

def authenticate : Process τ Bool := do
  let reply : PamReply n ← ask (.pamAuthenticate n)
  let success ← converse hide reply
  let _ ← ask .pamEnd
  .done success

/-- One round of the loop. -/
def attemptOnce : Process τ Bool := do
  let username : Option CText ← ask (.fgets 256)
  match username with
  | none => .done false
  | some username => do
      let _password : Option CText ← quietly hide (ask (.fgets 512))
      let reply : PamStart ← ask (.pamStart (stripped username))
      match reply with
      | .failed handle =>
          if handle then do
            let _ ← ask .pamEnd
            .done false
          else .done false
      | .started => authenticate hide n

def attempts : Nat → Process τ Bool
  | 0 => .done false
  | left + 1 => do
      let authenticated ← attemptOnce hide n
      if authenticated then .done true else attempts left

def zenSessionInit : Process τ Bool :=
  attempts hide n 3

end Init

def bytes (s : String) : CText :=
  s.toUTF8.data.toList

def stubId : CText :=
  bytes "zen-dev-session"

/-- What `s_session_id` holds. -/
def sessionId : Option (Option CText) → CText
  | some (some id) => id.take 255
  | _ => stubId

def terminateSession (id : CText) : CText :=
  bytes "loginctl terminate-session " ++ id

def createSession : Process τ (Bool × CText) := do
  let bus : Bool ← ask .openSystemBus
  if bus then do
    let reply : Option (Option CText) ← ask .createSession
    .done (true, sessionId reply)
  else .done (false, stubId)

/-- The child and the parent of the compositor's `fork`. -/
def launch (id : CText) : Process τ Unit := do
  let reply : ForkReply ← ask .fork
  match reply with
  | .failed => .done ()
  | .child => do
      let _ ← ask (.setenv "XDG_SESSION_TYPE" (bytes "wayland"))
      let _ ← ask (.setenv "XDG_SESSION_ID" id)
      let _ ← ask (.execvp ["zen-compositor"])
      .fail 127
  | .parent => do
      let _ ← ask .waitpid
      if id = [] then .done ()
      else do
        let _ ← ask (.system (terminateSession id))
        .done ()

def zenSessionDestroy (bus : Bool) : Process τ Unit :=
  if bus then do
    let _ ← ask .unrefBus
    .done ()
  else .done ()

def zenSessionRun : Process τ Bool := do
  let (bus, id) ← createSession
  launch id
  .done bus

/-- `main`, with the status it returns -/
def main (hide : τ → τ) (n : Nat) : Process τ Nat := do
  let authenticated ← zenSessionInit hide n
  if authenticated then do
    let bus ← zenSessionRun
    zenSessionDestroy bus
    .done 0
  else .done 1

/-- `struct termios`: `c_lflag` and what is left alone. -/
structure Termios (ρ : Type) where
  cLflag : UInt32
  rest : ρ

/-- `ECHO` -/
def echo : UInt32 := 8

/-- `c_lflag &= ~ECHO` -/
def Termios.hideEcho {ρ : Type} (term : Termios ρ) : Termios ρ :=
  { term with cLflag := term.cLflag &&& ~~~echo }

section Terminal

variable {ρ : Type}

theorem Termios.hideEcho_hideEcho (term : Termios ρ) : term.hideEcho.hideEcho = term.hideEcho := by
  rw [hideEcho, hideEcho, UInt32.and_assoc, UInt32.and_self]

/-- The terminal behind an entry. -/
def setTerminal (term : Termios ρ) : Entry (Request (Termios ρ)) Reply → Termios ρ
  | ⟨.tcsetattr term', some true⟩ => term'
  | _ => term

/-- `tcgetattr` reads the terminal as it is, or fails. -/
def Reads (term : Termios ρ) : Entry (Request (Termios ρ)) Reply → Prop
  | ⟨.tcgetattr, some (some term')⟩ => term' = term
  | _ => True

/-- A failing `tcsetattr` was to take the echo away, or to change nothing. -/
def Harmless (term : Termios ρ) : Entry (Request (Termios ρ)) Reply → Prop
  | ⟨.tcsetattr term', some false⟩ => term' = term.hideEcho ∨ term' = term
  | _ => True

/-- The terminal is left as it was found, or without its echo. -/
def Left (term term' : Termios ρ) : Prop :=
  term' = term ∨ term' = term.hideEcho

theorem left_refl (term : Termios ρ) : Left term term :=
  .inl rfl

theorem Left.trans {term term' term'' : Termios ρ} (h : Left term term')
    (h' : Left term' term'') : Left term term'' := by
  rcases h with rfl | rfl
  · exact h'
  · rcases h' with rfl | rfl
    · exact .inr rfl
    · exact .inr term.hideEcho_hideEcho

def Request.setsTerminal : Request (Termios ρ) → Bool
  | .tcsetattr _ => true
  | _ => false

abbrev RestoresTerminal {α : Type} (p : Process (Termios ρ) α) : Prop :=
  Restores (fun _ => true) setTerminal Reads Harmless Left p

theorem RestoresTerminal.bind {α β : Type} {p : Process (Termios ρ) α}
    {f : α → Process (Termios ρ) β} (hp : RestoresTerminal p)
    (hf : ∀ a, RestoresTerminal (f a)) : RestoresTerminal (p >>= f) :=
  Restores.bind (fun h h' => h.trans h') hp hf

theorem setTerminal_of_setsTerminal {q : Request (Termios ρ)} (h : q.setsTerminal = false)
    (term : Termios ρ) (r : Option (Reply q)) : setTerminal term ⟨q, r⟩ = term := by
  cases q with
  | tcsetattr => cases h
  | _ => rfl

theorem restoresTerminal_done {α : Type} (a : α) :
    RestoresTerminal (.done a : Process (Termios ρ) α) :=
  restores_done left_refl a

theorem restores_ask {q : Request (Termios ρ)} (h : q.setsTerminal = false) :
    RestoresTerminal (ask q) :=
  restores_request left_refl (setTerminal_of_setsTerminal h)

/-- The body of a `quietly` does not fail and leaves the terminal alone. -/
abbrev Plain {α : Type} (p : Process (Termios ρ) α) : Prop :=
  p.Respects (fun q => q.setsTerminal = false) fun _ => False

theorem Plain.exec_setTerminal {α : Type} {p : Process (Termios ρ) α} (h : Plain p)
    {t : List (Entry (Request (Termios ρ)) Reply)} {o : Outcome Nat α}
    (hyields : Yields (fun _ => true) p t o) (term : Termios ρ) : exec setTerminal term t = term :=
  exec_of_forall (fun entry hentry term =>
    setTerminal_of_setsTerminal ((h.yields hyields).1 entry hentry) term entry.reply) term

theorem restores_plain {α : Type} {p : Process (Termios ρ) α} (h : Plain p) :
    RestoresTerminal p :=
  fun term _ _ hyields _ => by
    rw [h.exec_setTerminal hyields]
    exact ⟨left_refl term, fun _ _ => rfl⟩

/-- The settings while a `quietly` reads, and behind it. -/
theorem left_hidden (term : Termios ρ) (hidden : Bool) :
    Left term (setTerminal term ⟨.tcsetattr term.hideEcho, some hidden⟩) := by
  cases hidden with
  | false => exact .inl rfl
  | true => exact .inr rfl

theorem left_restored {term term' : Termios ρ} (h : Left term term') (restored : Bool) :
    let behind := setTerminal term' ⟨.tcsetattr term, some restored⟩
    Left term behind ∧ (Harmless term' ⟨.tcsetattr term, some restored⟩ → behind = term) := by
  cases restored with
  | true => exact ⟨left_refl term, fun _ => rfl⟩
  | false =>
      refine ⟨h, fun hharmless => ?_⟩
      rcases h with rfl | rfl
      · rfl
      · change term.hideEcho = term
        rcases hharmless with hsame | hsame
        · rw [Termios.hideEcho_hideEcho] at hsame
          exact hsame.symm
        · exact hsame.symm

/-- Only where it fails to put the settings back does `quietly` leave the terminal without its
echo. -/
theorem restores_quietly {α : Type} {body : Process (Termios ρ) α} (h : Plain body) :
    RestoresTerminal (quietly Termios.hideEcho body) := by
  intro term t o hyields hfits
  rcases yields_request_bind.mp hyields with ⟨-, rfl, rfl⟩ | ⟨oldTerm, t, rfl, hrest⟩
  · exact ⟨left_refl term, fun _ _ => rfl⟩
  · obtain ⟨hread, hfits⟩ := hfits
    rcases oldTerm with _ | old
    · obtain ⟨hleft, hkept⟩ := restores_plain h term t o hrest hfits
      exact ⟨hleft, fun hne hsound => hkept hne hsound.2⟩
    · obtain rfl : old = term := hread
      rcases yields_request_bind.mp hrest with ⟨-, rfl, rfl⟩ | ⟨hidden, t, rfl, hhidden⟩
      · exact ⟨left_refl old, fun hne => absurd rfl hne⟩
      let quiet := setTerminal old ⟨.tcsetattr old.hideEcho, some hidden⟩
      have hquiet : Left old quiet := left_hidden old hidden
      rcases yields_bind.mp hhidden with
        ⟨a, first, second, hfirst, hsecond, rfl⟩ | ⟨e, hfail, rfl⟩ | ⟨hcut, rfl⟩
      · have hbody : exec setTerminal quiet first = quiet := h.exec_setTerminal hfirst quiet
        have hall : exec setTerminal old (⟨.tcgetattr, some (some old)⟩ ::
            ⟨.tcsetattr old.hideEcho, some hidden⟩ :: (first ++ second)) =
              exec setTerminal quiet second := by
          rw [exec_cons, exec_cons, exec_append]
          exact congrArg (exec setTerminal · second) hbody
        refine hall ▸ ?_
        rcases yields_request_bind.mp hsecond with ⟨-, rfl, rfl⟩ | ⟨restored, t, rfl, hdone⟩
        · exact ⟨hquiet, fun hne => absurd rfl hne⟩
        · obtain ⟨rfl, rfl⟩ := yields_done.mp hdone
          obtain ⟨hleft, hkept⟩ := left_restored hquiet restored
          refine ⟨hleft, fun _ hsound => hkept ?_⟩
          have hlast : Harmless (exec setTerminal quiet first) ⟨.tcsetattr old, some restored⟩ :=
            ((along_append ..).mp hsound.2.2).2.1
          rwa [hbody] at hlast
      · exact absurd ((h.yields hfail).2 e rfl) id
      · refine ⟨?_, fun hne => absurd rfl hne⟩
        have hbody : exec setTerminal quiet t = quiet := h.exec_setTerminal hcut quiet
        exact hbody ▸ hquiet

theorem plain_readResponse : Plain (readResponse : Process (Termios ρ) _) :=
  .bind (respects_request rfl) fun _ => .bind (respects_request rfl) fun _ => trivial

theorem restores_answer (style : Style) :
    RestoresTerminal (answer Termios.hideEcho style : Process (Termios ρ) _) := by
  cases style with
  | echoOff => exact (restores_quietly plain_readResponse).bind fun _ => restoresTerminal_done _
  | echoOn => exact (restores_plain plain_readResponse).bind fun _ => restoresTerminal_done _
  | other => exact restoresTerminal_done _

theorem restores_respond (styles : List Style) :
    RestoresTerminal (respond Termios.hideEcho styles : Process (Termios ρ) _) := by
  induction styles with
  | nil => exact restoresTerminal_done _
  | cons style styles ih =>
      refine (restores_answer style).bind fun resp => ?_
      rcases resp with _ | resp
      · exact restoresTerminal_done _
      · exact ih.bind fun _ => restoresTerminal_done _

theorem restores_pamConvFn (styles : List Style) :
    RestoresTerminal (pamConvFn Termios.hideEcho styles : Process (Termios ρ) _) := by
  refine (restores_ask rfl).bind fun ok : Bool => ?_
  cases ok with
  | false => exact restoresTerminal_done _
  | true => exact restores_respond styles

theorem restores_converse {n : Nat} (reply : PamReply n) :
    RestoresTerminal (converse Termios.hideEcho reply : Process (Termios ρ) _) := by
  induction n with
  | zero =>
      cases reply with
      | returns success => exact restoresTerminal_done _
  | succ n ih =>
      cases reply with
      | returns success => exact restoresTerminal_done _
      | asks styles =>
          exact (restores_pamConvFn styles).bind fun _ =>
            (restores_ask rfl).bind fun reply => ih reply

theorem restores_attemptOnce (n : Nat) :
    RestoresTerminal (attemptOnce Termios.hideEcho n : Process (Termios ρ) _) := by
  refine (restores_ask rfl).bind fun username : Option CText => ?_
  rcases username with _ | username
  · exact restoresTerminal_done _
  · refine (restores_quietly (respects_request rfl)).bind fun _ => ?_
    refine (restores_ask rfl).bind fun reply : PamStart => ?_
    cases reply with
    | started =>
        exact (restores_ask rfl).bind fun reply =>
          (restores_converse reply).bind fun _ =>
            (restores_ask rfl).bind fun _ => restoresTerminal_done _
    | failed handle =>
        cases handle with
        | false => exact restoresTerminal_done _
        | true => exact (restores_ask rfl).bind fun _ => restoresTerminal_done _

theorem restores_attempts (n left : Nat) :
    RestoresTerminal (attempts Termios.hideEcho n left : Process (Termios ρ) _) := by
  induction left with
  | zero => exact restoresTerminal_done _
  | succ left ih =>
      refine (restores_attemptOnce n).bind fun authenticated => ?_
      cases authenticated with
      | false => exact ih
      | true => exact restoresTerminal_done _

theorem restores_createSession : RestoresTerminal (createSession : Process (Termios ρ) _) := by
  refine (restores_ask rfl).bind fun bus : Bool => ?_
  cases bus with
  | false => exact restoresTerminal_done _
  | true => exact (restores_ask rfl).bind fun _ => restoresTerminal_done _

theorem restores_launch (id : CText) : RestoresTerminal (launch id : Process (Termios ρ) _) := by
  refine (restores_ask rfl).bind fun reply : ForkReply => ?_
  cases reply with
  | failed => exact restoresTerminal_done _
  | child =>
      exact (restores_ask rfl).bind fun _ => (restores_ask rfl).bind fun _ =>
        (restores_ask rfl).bind fun _ => restores_fail left_refl 127
  | parent =>
      refine (restores_ask rfl).bind fun _ => ?_
      split
      · exact restoresTerminal_done _
      · exact (restores_ask rfl).bind fun _ => restoresTerminal_done _

theorem restores_zenSessionDestroy (bus : Bool) :
    RestoresTerminal (zenSessionDestroy bus : Process (Termios ρ) _) := by
  cases bus with
  | false => exact restoresTerminal_done _
  | true => exact (restores_ask rfl).bind fun _ => restoresTerminal_done _

theorem restores_main (n : Nat) :
    RestoresTerminal (main Termios.hideEcho n : Process (Termios ρ) _) := by
  refine (restores_attempts n 3).bind fun authenticated => ?_
  cases authenticated with
  | false => exact restoresTerminal_done _
  | true =>
      refine ((restores_createSession).bind fun session => ?_).bind fun bus => ?_
      · exact (restores_launch session.2).bind fun _ => restoresTerminal_done _
      · exact (restores_zenSessionDestroy bus).bind fun _ => restoresTerminal_done _

/-- A partner with a terminal. -/
def onTerminal (partner : Partner (Request (Termios ρ)) Reply) (term : Termios ρ) :
    Partner (Request (Termios ρ)) Reply where
  reply before
    | .tcgetattr => (partner.reply before .tcgetattr).map fun _ => exec setTerminal term before
    | q => partner.reply before q
  cuts := partner.cuts

theorem onTerminal_reads (partner : Partner (Request (Termios ρ)) Reply) (term : Termios ρ)
    (before : List (Entry (Request (Termios ρ)) Reply)) (q : Request (Termios ρ)) :
    Reads (exec setTerminal term before) ⟨q, none⟩ ∧
      Reads (exec setTerminal term before)
        ⟨q, some ((onTerminal partner term).reply before q)⟩ := by
  cases q with
  | tcgetattr =>
      refine ⟨trivial, ?_⟩
      let old : Option (Termios ρ) := partner.reply before .tcgetattr
      change Reads _ ⟨.tcgetattr, some (old.map fun _ => exec setTerminal term before)⟩
      rcases old with _ | old
      · trivial
      · rfl
  | _ => exact ⟨trivial, trivial⟩

/-- However the terminal, PAM, logind and the compositor behave, `zen-session` leaves the
terminal as it has found it or without its echo, and without its echo only where it is killed
or the terminal refuses to take its settings back. -/
theorem main_restores (n : Nat) (partner : Partner (Request (Termios ρ)) Reply)
    (term : Termios ρ) :
    let r := run (fun _ => true) (onTerminal partner term) (main Termios.hideEcho n) []
    (exec setTerminal term r.1 = term ∨ exec setTerminal term r.1 = term.hideEcho) ∧
      (r.2 ≠ .cut → Along setTerminal Harmless term r.1 → exec setTerminal term r.1 = term) := by
  intro r
  obtain ⟨t, ht, hyields⟩ := run_yields (fun _ => true) (onTerminal partner term)
    (main Termios.hideEcho n) []
  have hreads : Along setTerminal Reads term r.1 :=
    run_along (onTerminal_reads partner term) (main Termios.hideEcho n) [] (along_nil _ _)
  rw [show r.1 = t from ht] at hreads ⊢
  exact restores_main n term t _ hyields hreads

end Terminal

inductive Stage where
  | login
  | session
  | compositor
  | over
  deriving DecidableEq

def Request.stage : Request τ → Stage
  | .fgets _ | .tcgetattr | .tcsetattr _ | .calloc | .strdup _ | .pamStart _
  | .pamAuthenticate _ | .pamAnswer .. | .pamEnd => .login
  | .openSystemBus | .createSession => .session
  | .fork | .setenv .. | .execvp _ | .waitpid | .system _ => .compositor
  | .unrefBus => .over

def PamReply.accepts {n : Nat} : PamReply n → Bool
  | .returns success => success
  | .asks _ => false

def Request.accepts : (q : Request τ) → Reply q → Bool
  | .pamAuthenticate _, reply => reply.accepts
  | .pamAnswer .., reply => reply.accepts
  | _, _ => false

/-- PAM lets somebody in. -/
def accepts (entry : Entry (Request τ) Reply) : Bool :=
  entry.reply.any entry.request.accepts

def Request.asksPam : Request τ → Bool
  | .pamAuthenticate _ | .pamAnswer .. => true
  | _ => false

theorem accepts_of_asksPam {entry : Entry (Request τ) Reply}
    (h : entry.request.asksPam = false) : accepts entry = false := by
  obtain ⟨q, reply⟩ := entry
  cases reply with
  | none => rfl
  | some reply =>
      cases q with
      | pamAuthenticate | pamAnswer => cases h
      | _ => rfl

theorem any_accepts_of_asksPam {t : List (Entry (Request τ) Reply)}
    (h : ∀ entry ∈ t, entry.request.asksPam = false) : t.any accepts = false := by
  rw [List.any_eq_false]
  intro entry hentry
  simp [accepts_of_asksPam (h entry hentry)]

section Login

variable (hide : τ → τ)

/-- The requests of a login are no others than these, and it does not end the process. -/
abbrev Asks (P : Request τ → Prop) {α : Type} (p : Process τ α) : Prop :=
  p.Respects P fun _ => False

variable {P : Request τ → Prop}

/-- What `pam_conv_fn` asks for. -/
structure Converses (P : Request τ → Prop) : Prop where
  fgets : ∀ size, P (.fgets size)
  tcgetattr : P .tcgetattr
  tcsetattr : ∀ term, P (.tcsetattr term)
  calloc : P .calloc
  strdup : ∀ s, P (.strdup s)

theorem asks_quietly (hP : Converses P) {α : Type} {body : Process τ α} (h : Asks P body) :
    Asks P (quietly hide body) := by
  refine .bind (respects_request hP.tcgetattr) fun oldTerm : Option τ => ?_
  rcases oldTerm with _ | term
  · exact h
  · exact .bind (respects_request (hP.tcsetattr _)) fun _ =>
      h.bind fun _ => .bind (respects_request (hP.tcsetattr _)) fun _ => trivial

theorem asks_readResponse (hP : Converses P) : Asks P readResponse :=
  .bind (respects_request (hP.fgets 512)) fun _ =>
    .bind (respects_request (hP.strdup _)) fun _ => trivial

theorem asks_pamConvFn (hP : Converses P) (styles : List Style) :
    Asks P (pamConvFn hide styles) := by
  have hanswer : ∀ style, Asks P (answer hide style) := by
    intro style
    cases style with
    | echoOff => exact .bind (asks_quietly hide hP (asks_readResponse hP)) fun _ => trivial
    | echoOn => exact .bind (asks_readResponse hP) fun _ => trivial
    | other => trivial
  have hrespond : ∀ styles, Asks P (respond hide styles) := by
    intro styles
    induction styles with
    | nil => trivial
    | cons style styles ih =>
        refine (hanswer style).bind fun resp => ?_
        rcases resp with _ | resp
        · trivial
        · exact ih.bind fun _ => trivial
  refine .bind (respects_request hP.calloc) fun ok : Bool => ?_
  cases ok with
  | false => trivial
  | true => exact hrespond styles

theorem converses_login : Converses fun q : Request τ => q.stage = .login :=
  ⟨fun _ => rfl, rfl, fun _ => rfl, rfl, fun _ => rfl⟩

theorem converses_quiet : Converses fun q : Request τ => q.asksPam = false :=
  ⟨fun _ => rfl, rfl, fun _ => rfl, rfl, fun _ => rfl⟩

theorem login_converse {n : Nat} (reply : PamReply n) :
    Asks (fun q : Request τ => q.stage = .login) (converse hide reply) := by
  induction n with
  | zero =>
      cases reply with
      | returns success => trivial
  | succ n ih =>
      cases reply with
      | returns success => trivial
      | asks styles =>
          exact (asks_pamConvFn hide converses_login styles).bind fun _ =>
            .bind (respects_request rfl) fun reply => ih reply

theorem login_attemptOnce (n : Nat) :
    Asks (fun q : Request τ => q.stage = .login) (attemptOnce hide n) := by
  refine .bind (respects_request rfl) fun username : Option CText => ?_
  rcases username with _ | username
  · trivial
  · refine .bind (asks_quietly hide converses_login (respects_request rfl)) fun _ => ?_
    refine .bind (respects_request rfl) fun reply : PamStart => ?_
    cases reply with
    | started =>
        exact .bind (respects_request rfl) fun reply =>
          (login_converse hide reply).bind fun _ =>
            .bind (respects_request rfl) fun _ => trivial
    | failed handle =>
        cases handle with
        | false => trivial
        | true => exact .bind (respects_request rfl) fun _ => trivial

theorem login_attempts (n left : Nat) :
    Asks (fun q : Request τ => q.stage = .login) (attempts hide n left) := by
  induction left with
  | zero => trivial
  | succ left ih =>
      refine (login_attemptOnce hide n).bind fun authenticated => ?_
      cases authenticated with
      | false => exact ih
      | true => trivial

/-- A finished login says whether PAM has let somebody in. -/
def Reports (p : Process τ Bool) : Prop :=
  ∀ t authenticated, Yields (fun _ => true) p t (.finished authenticated) →
    t.any accepts = authenticated

theorem reports_converse {n : Nat} (reply : PamReply n) {t : List (Entry (Request τ) Reply)}
    {success : Bool}
    (h : Yields (fun _ => true) (converse hide reply) t (.finished success)) :
    (reply.accepts || t.any accepts) = success := by
  induction n generalizing t with
  | zero =>
      cases reply with
      | returns success' =>
          obtain ⟨rfl, hdone⟩ := yields_done.mp h
          cases hdone
          simp [PamReply.accepts]
  | succ n ih =>
      cases reply with
      | returns success' =>
          obtain ⟨rfl, hdone⟩ := yields_done.mp h
          cases hdone
          simp [PamReply.accepts]
      | asks styles =>
          obtain ⟨responses, first, rest, hfirst, hrest, rfl⟩ := Yields.of_bind h
          have hquiet := any_accepts_of_asksPam
            ((asks_pamConvFn hide converses_quiet styles).yields hfirst).1
          obtain ⟨reply, t, rfl, hlast⟩ := hrest.of_request_bind
          rw [← ih reply hlast, List.any_append, hquiet, List.any_cons]
          rfl

theorem reports_authenticate (n : Nat) : Reports (authenticate hide n) := by
  intro t authenticated h
  obtain ⟨reply, t, rfl, hrest⟩ := Yields.of_request_bind h
  obtain ⟨success, first, second, hfirst, hsecond, rfl⟩ := hrest.of_bind
  obtain ⟨-, rfl, rfl⟩ := hsecond.of_request_map
  have hreport := reports_converse hide reply hfirst
  rw [← hreport, List.any_cons, List.any_append]
  simp [accepts, Request.accepts]

theorem reports_attemptOnce (n : Nat) : Reports (attemptOnce hide n) := by
  intro t authenticated h
  obtain ⟨username, t, rfl, hrest⟩ := Yields.of_request_bind h
  have hskip (q : Request τ) (r : Reply q) (t : List (Entry (Request τ) Reply))
      (hq : q.asksPam = false) : ((⟨q, some r⟩ : Entry (Request τ) Reply) :: t).any accepts =
        t.any accepts := by
    rw [List.any_cons, accepts_of_asksPam hq, Bool.false_or]
  rw [hskip _ _ _ rfl]
  rcases (username : Option CText) with _ | username
  · obtain ⟨rfl, hdone⟩ := yields_done.mp hrest
    cases hdone
    rfl
  · obtain ⟨password, first, second, hfirst, hsecond, rfl⟩ := hrest.of_bind
    have hquiet := any_accepts_of_asksPam
      ((asks_quietly hide converses_quiet (respects_request rfl)).yields hfirst).1
    obtain ⟨reply, t, rfl, hstarted⟩ := hsecond.of_request_bind
    rw [List.any_append, hquiet, Bool.false_or, hskip _ _ _ rfl]
    rcases (reply : PamStart) with _ | handle
    · exact reports_authenticate hide n t authenticated hstarted
    · cases handle with
      | false =>
          obtain ⟨rfl, hdone⟩ := yields_done.mp hstarted
          cases hdone
          rfl
      | true =>
          obtain ⟨-, rfl, rfl⟩ := hstarted.of_request_map
          rfl

theorem reports_attempts (n left : Nat) : Reports (attempts hide n left) := by
  induction left with
  | zero =>
      intro t authenticated h
      obtain ⟨rfl, hdone⟩ := yields_done.mp h
      cases hdone
      rfl
  | succ left ih =>
      intro t authenticated h
      obtain ⟨success, first, rest, hfirst, hrest, rfl⟩ := Yields.of_bind h
      have hreport := reports_attemptOnce hide n first success hfirst
      rw [List.any_append, hreport]
      cases success with
      | false => exact ih rest authenticated hrest
      | true =>
          obtain ⟨rfl, hdone⟩ := yields_done.mp hrest
          cases hdone
          rfl

end Login

/-- What is done about the compositor and the end of its session, with what `fork` returns; to a
process that is killed meanwhile it returns nothing. -/
inductive Action where
  | fork (reply : Option ForkReply)
  | setenv (name : String) (value : CText)
  | execvp (argv : List String)
  | waitpid
  | system (command : CText)

def actionOf : Entry (Request τ) Reply → Option Action
  | ⟨.fork, reply⟩ => some (.fork reply)
  | ⟨.setenv name value, _⟩ => some (.setenv name value)
  | ⟨.execvp argv, _⟩ => some (.execvp argv)
  | ⟨.waitpid, _⟩ => some .waitpid
  | ⟨.system command, _⟩ => some (.system command)
  | _ => none

def actions (t : List (Entry (Request τ) Reply)) : List Action :=
  t.filterMap actionOf

/-- The identifier that logind has given, or the stub. -/
def createdId (t : List (Entry (Request τ) Reply)) : CText :=
  (t.findSome? fun
    | ⟨.createSession, some reply⟩ => some (sessionId reply)
    | _ => none).getD stubId

/-- What a process does for a session once `fork` has told it which one it is. -/
def plan (id : CText) (role : ForkReply) : List Action :=
  .fork (some role) ::
    match role with
    | .failed => []
    | .child =>
        [.setenv "XDG_SESSION_TYPE" (bytes "wayland"), .setenv "XDG_SESSION_ID" id,
          .execvp ["zen-compositor"]]
    | .parent => .waitpid :: if id = [] then [] else [.system (terminateSession id)]

section Actions

variable {t : List (Entry (Request τ) Reply)}

theorem actions_append (t t' : List (Entry (Request τ) Reply)) :
    actions (t ++ t') = actions t ++ actions t' := by
  exact List.filterMap_append

theorem actions_of_stage {stage : Stage} (h : ∀ entry ∈ t, entry.request.stage = stage)
    (hne : stage ≠ .compositor) : actions t = [] := by
  refine List.filterMap_eq_nil_iff.mpr fun entry hentry => ?_
  have hstage := h entry hentry
  obtain ⟨q, reply⟩ := entry
  cases q with
  | fork | setenv | execvp | waitpid | system => exact absurd hstage.symm hne
  | _ => rfl

theorem accepts_of_stage {stage : Stage} (h : ∀ entry ∈ t, entry.request.stage = stage)
    (hne : stage ≠ .login) : t.any accepts = false := by
  refine any_accepts_of_asksPam fun entry hentry => ?_
  have hstage := h entry hentry
  cases hq : entry.request with
  | pamAuthenticate | pamAnswer =>
      rw [hq] at hstage
      exact absurd hstage.symm hne
  | _ => rfl

theorem createdId_append_of_stage {stage : Stage}
    (h : ∀ entry ∈ t, entry.request.stage = stage) (hne : stage ≠ .session)
    (t' : List (Entry (Request τ) Reply)) :
    createdId (t ++ t') = createdId t' ∧ createdId (t' ++ t) = createdId t' := by
  have hnone : (t.findSome? fun entry => match entry with
      | ⟨.createSession, some reply⟩ => some (sessionId reply)
      | _ => none) = none := by
    refine List.findSome?_eq_none_iff.mpr fun entry hentry => ?_
    have hstage := h entry hentry
    obtain ⟨q, reply⟩ := entry
    cases q with
    | createSession => exact absurd hstage.symm hne
    | _ => rfl
  simp only [createdId, List.findSome?_append, hnone, Option.none_or, Option.or_none, and_self]

end Actions

/-- A process does what is planned for its role, or the beginning of it when it is killed. -/
inductive Follows {α : Type} (id : CText) (actions : List Action) (o : Outcome Nat α) : Prop where
  | killed (hcut : o = .cut) (hpre : actions <+: [.fork none])
  | forked (role : ForkReply) (hrole : .fork (some role) ∈ actions)
      (hpre : actions <+: plan id role) (hall : o ≠ .cut → actions = plan id role)

theorem Follows.of_outcome {α β : Type} {id : CText} {actions : List Action} {o : Outcome Nat α}
    {o' : Outcome Nat β} (h : Follows id actions o) (hcut : o = .cut → o' = .cut) :
    Follows id actions o' := by
  cases h with
  | killed ho hpre => exact .killed (hcut ho) hpre
  | forked role hrole hpre hall => exact .forked role hrole hpre fun hne => hall (mt hcut hne)

theorem yields_launch {id : CText} {t : List (Entry (Request τ) Reply)} {o : Outcome Nat Unit}
    (h : Yields (fun _ => true) (launch id) t o) : Follows id (actions t) o := by
  rcases yields_request_bind.mp h with ⟨-, rfl, rfl⟩ | ⟨role, t, rfl, hrest⟩
  · exact .killed rfl List.prefix_rfl
  suffices hplan : actions t <+: (plan id role).tail ∧
      (o ≠ .cut → actions t = (plan id role).tail) by
    obtain ⟨hpre, hall⟩ := hplan
    refine .forked role List.mem_cons_self ?_ fun hne => ?_
    · exact List.cons_prefix_cons.mpr ⟨rfl, hpre⟩
    · exact congrArg (Action.fork (some role) :: ·) (hall hne)
  rcases (role : ForkReply) with _ | _ | _
  · obtain ⟨rfl, rfl⟩ := yields_done.mp hrest
    exact ⟨List.prefix_rfl, fun _ => rfl⟩
  · rcases yields_request_bind.mp hrest with ⟨-, rfl, rfl⟩ | ⟨_, t, rfl, htype⟩
    · exact ⟨⟨_, rfl⟩, fun hne => absurd rfl hne⟩
    rcases yields_request_bind.mp htype with ⟨-, rfl, rfl⟩ | ⟨_, t, rfl, hid⟩
    · exact ⟨⟨_, rfl⟩, fun hne => absurd rfl hne⟩
    rcases yields_request_bind.mp hid with ⟨-, rfl, rfl⟩ | ⟨_, t, rfl, hexec⟩
    · exact ⟨⟨_, rfl⟩, fun hne => absurd rfl hne⟩
    obtain ⟨⟩ := hexec
    exact ⟨⟨_, rfl⟩, fun _ => rfl⟩
  · rcases yields_request_bind.mp hrest with ⟨-, rfl, rfl⟩ | ⟨_, t, rfl, hexited⟩
    · exact ⟨⟨_, rfl⟩, fun hne => absurd rfl hne⟩
    rw [plan, List.tail_cons]
    split at hexited
    next hempty =>
      obtain ⟨rfl, rfl⟩ := yields_done.mp hexited
      rw [if_pos hempty]
      exact ⟨⟨_, rfl⟩, fun _ => rfl⟩
    next hid =>
      rw [if_neg hid]
      rcases yields_request_bind.mp hexited with ⟨-, rfl, rfl⟩ | ⟨_, t, rfl, hdone⟩
      · exact ⟨⟨_, rfl⟩, fun hne => absurd rfl hne⟩
      · obtain ⟨rfl, rfl⟩ := yields_done.mp hdone
        exact ⟨⟨_, rfl⟩, fun _ => rfl⟩

theorem stage_launch (id : CText) :
    (launch id : Process τ _).Respects (fun q => q.stage = .compositor) fun _ => True := by
  refine .bind (respects_request rfl) fun reply : ForkReply => ?_
  cases reply with
  | failed => trivial
  | child =>
      exact .bind (respects_request rfl) fun _ => .bind (respects_request rfl) fun _ =>
        .bind (respects_request rfl) fun _ => trivial
  | parent =>
      refine .bind (respects_request rfl) fun _ => ?_
      split
      · trivial
      · exact .bind (respects_request rfl) fun _ => trivial

theorem stage_zenSessionDestroy (bus : Bool) :
    Asks (fun q : Request τ => q.stage = .over) (zenSessionDestroy bus) := by
  cases bus with
  | false => trivial
  | true => exact .bind (respects_request rfl) fun _ => trivial

theorem stage_createSession :
    Asks (fun q : Request τ => q.stage = .session) createSession := by
  refine .bind (respects_request rfl) fun bus : Bool => ?_
  cases bus with
  | false => trivial
  | true => exact .bind (respects_request rfl) fun _ => trivial

theorem createSession_id {t : List (Entry (Request τ) Reply)} {session : Bool × CText}
    (h : Yields (fun _ => true) createSession t (.finished session)) :
    session.2 = createdId t := by
  obtain ⟨bus, t, rfl, hrest⟩ := Yields.of_request_bind h
  cases (bus : Bool) with
  | false =>
      obtain ⟨rfl, hdone⟩ := yields_done.mp hrest
      cases hdone
      rfl
  | true =>
      obtain ⟨reply, rfl, rfl⟩ := hrest.of_request_map
      rfl

/-- A process does what is planned for the session that logind has created. -/
def AsPlanned {α : Type} (t : List (Entry (Request τ) Reply)) (o : Outcome Nat α) : Prop :=
  Follows (createdId t) (actions t) o

theorem asPlanned_cut {α : Type} {t : List (Entry (Request τ) Reply)} (h : actions t = []) :
    AsPlanned t (.cut : Outcome Nat α) :=
  .killed rfl (h ▸ List.nil_prefix)

theorem AsPlanned.around {α β : Type} {first t last : List (Entry (Request τ) Reply)}
    {o : Outcome Nat α} {o' : Outcome Nat β} (h : AsPlanned t o)
    (hcut : o = .cut → o' = .cut) {stage stage' : Stage}
    (hfirst : ∀ entry ∈ first, entry.request.stage = stage)
    (hlast : ∀ entry ∈ last, entry.request.stage = stage')
    (hstage : stage ≠ .compositor ∧ stage ≠ .session)
    (hstage' : stage' ≠ .compositor ∧ stage' ≠ .session) :
    AsPlanned (first ++ (t ++ last)) o' := by
  have hactions : actions (first ++ (t ++ last)) = actions t := by
    rw [actions_append, actions_append, actions_of_stage hfirst hstage.1,
      actions_of_stage hlast hstage'.1, List.nil_append, List.append_nil]
  have hid : createdId (first ++ (t ++ last)) = createdId t := by
    rw [(createdId_append_of_stage hfirst hstage.2 _).1,
      (createdId_append_of_stage hlast hstage'.2 _).2]
  rw [AsPlanned, hactions, hid]
  exact h.of_outcome hcut

theorem asPlanned_zenSessionRun {t : List (Entry (Request τ) Reply)} {o : Outcome Nat Bool}
    (h : Yields (fun _ => true) zenSessionRun t o) :
    AsPlanned t o ∧ t.any accepts = false := by
  rcases yields_bind.mp h with
    ⟨session, first, second, hfirst, hsecond, rfl⟩ | ⟨e, hfail, rfl⟩ | ⟨hcut, rfl⟩
  · have hsession := (stage_createSession.yields hfirst).1
    have hlaunched {o' : Outcome Nat Unit} (hlaunch : Yields (fun _ => true)
        (launch session.2) second o') (hcut : o' = .cut → o = .cut) :
        AsPlanned (first ++ second) o ∧ (first ++ second).any accepts = false := by
      have hstage := ((stage_launch session.2).yields hlaunch).1
      have hactions : actions (first ++ second) = actions second := by
        rw [actions_append, actions_of_stage hsession (by decide), List.nil_append]
      have hid : createdId (first ++ second) = session.2 := by
        rw [(createdId_append_of_stage hstage (by decide) _).2, createSession_id hfirst]
      constructor
      · rw [AsPlanned, hactions, hid]
        exact (yields_launch hlaunch).of_outcome hcut
      · rw [List.any_append, accepts_of_stage hsession (by decide),
          accepts_of_stage hstage (by decide)]
        rfl
    rcases yields_bind.mp hsecond with
      ⟨_, third, fourth, hthird, hfourth, rfl⟩ | ⟨e, hfail, rfl⟩ | ⟨hcut, rfl⟩
    · obtain ⟨rfl, rfl⟩ := yields_done.mp hfourth
      rw [List.append_nil] at hlaunched ⊢
      exact hlaunched hthird nofun
    · exact hlaunched hfail nofun
    · exact hlaunched hcut fun _ => rfl
  · exact absurd ((stage_createSession.yields hfail).2 e rfl) id
  · have hsession := (stage_createSession.yields hcut).1
    exact ⟨asPlanned_cut (actions_of_stage hsession (by decide)),
      accepts_of_stage hsession (by decide)⟩

/-- What one process of `zen-session` does. -/
structure Orderly (t : List (Entry (Request τ) Reply)) (o : Outcome Nat Nat) : Prop where
  rejected : t.any accepts = false → actions t = []
  accepted : t.any accepts = true → AsPlanned t o
  status : ∀ n, o = .finished n → n = if t.any accepts then 0 else 1

theorem orderly_of_yields (hide : τ → τ) (n : Nat) {t : List (Entry (Request τ) Reply)}
    {o : Outcome Nat Nat} (h : Yields (fun _ => true) (main hide n) t o) : Orderly t o := by
  rcases yields_bind.mp h with
    ⟨authenticated, first, second, hfirst, hsecond, rfl⟩ | ⟨e, hfail, rfl⟩ | ⟨hcut, rfl⟩
  · have hlogin := ((login_attempts hide n 3).yields hfirst).1
    have hreport := reports_attempts hide n 3 first authenticated hfirst
    cases authenticated with
    | false =>
        obtain ⟨rfl, rfl⟩ := yields_done.mp hsecond
        rw [List.append_nil]
        refine ⟨fun _ => actions_of_stage hlogin (by decide), fun haccepts => ?_, ?_⟩
        · rw [hreport] at haccepts
          cases haccepts
        · rintro n ⟨⟩
          rw [hreport]
          rfl
    | true =>
        have haccepts : (first ++ second).any accepts = true := by
          rw [List.any_append, hreport, Bool.true_or]
        have hno : (first ++ second).any accepts ≠ false := by simp [haccepts]
        have halone {o' : Outcome Nat Bool} (hrun : Yields (fun _ => true) zenSessionRun second o')
            (hcut : o' = .cut → o = .cut) (hend : ∀ n, o ≠ .finished n) :
            Orderly (first ++ second) o := by
          have hend' : ∀ entry ∈ ([] : List (Entry (Request τ) Reply)),
              entry.request.stage = .over := nofun
          have hplanned := (asPlanned_zenSessionRun hrun).1.around hcut hlogin hend' (by decide)
            (by decide)
          rw [List.append_nil] at hplanned
          exact ⟨fun h => absurd h hno, fun _ => hplanned, fun n hn => absurd hn (hend n)⟩
        rcases yields_bind.mp hsecond with
          ⟨bus, third, fourth, hthird, hfourth, rfl⟩ | ⟨e, hfail, rfl⟩ | ⟨hcut, rfl⟩
        · have hasks : Asks (fun q : Request τ => q.stage = .over)
              (zenSessionDestroy bus >>= fun _ => (.done 0 : Process τ Nat)) :=
            (stage_zenSessionDestroy bus).bind fun _ => trivial
          have hover := hasks.yields hfourth
          refine ⟨fun h => absurd h hno, fun _ => ?_, ?_⟩
          · exact (asPlanned_zenSessionRun hthird).1.around nofun hlogin hover.1
              (by decide) (by decide)
          · rintro n rfl
            obtain ⟨_, _, _, -, hdone, -⟩ := hfourth.of_bind
            obtain ⟨-, hstatus⟩ := yields_done.mp hdone
            rw [haccepts]
            cases hstatus
            rfl
        · exact halone hfail nofun fun _ => nofun
        · exact halone hcut (fun _ => rfl) fun _ => nofun
  · exact absurd (((login_attempts hide n 3).yields hfail).2 e rfl) id
  · have hlogin := ((login_attempts hide n 3).yields hcut).1
    have hnone : actions t = [] := actions_of_stage hlogin (by decide)
    exact ⟨fun _ => hnone, fun _ => asPlanned_cut hnone, fun _ => nofun⟩

/-- However PAM, logind and the compositor behave and wherever `zen-session` is killed: unless
PAM has let somebody in, nothing is started.  If it has, the compositor is started once, in a
child that knows the identifier of the session, and the parent ends that session, and no other,
when the compositor has exited. -/
theorem main_orderly (hide : τ → τ) (n : Nat) (partner : Partner (Request τ) Reply) :
    let r := run (fun _ => true) partner (main hide n) []
    Orderly r.1 r.2 := by
  intro r
  obtain ⟨t, ht, hyields⟩ := run_yields (fun _ => true) partner (main hide n) []
  rw [show r.1 = t from ht]
  exact orderly_of_yields hide n hyields

end Terminals

end ZenOS.Session.LifeCycle
