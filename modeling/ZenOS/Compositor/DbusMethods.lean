import Mathlib.Data.List.Induction
import ZenOS.Compositor.ProgramStarts

/-!
The methods of `org.zenos.Compositor` (`dbus.c`), called in between the events of the
compositor.  Any call into sd-bus may fail.
-/

namespace ZenOS.Compositor

open ZenOS.Library.Runs

/-- A call, with the arguments that `sd_bus_message_read` reads by the signatures of
`compositor_vtable`. -/
inductive Method where
  | launchApp (appId : String)
  | getRunningApps
  | pinToShelf (appId : String)
  | unpinFromShelf (appId : String)
  | setShelfConfig (position : String) (autoHide : Bool) (iconSize : Int32)
  | toggleDarkMode (enabled : Bool)
  | showNotification (appId summary body icon : String) (urgency timeoutMs : Int32)
  deriving DecidableEq

/-- What a handler returns when it fails: an error that it has set, or a number. -/
inductive Failure where
  | set (name message : String)
  | errno (n : Nat)
  deriving DecidableEq

inductive Reply where
  | boolean (b : Bool)
  | strings (ids : List (List UInt8))
  | int32 (n : Int32)
  | error (e : Failure)
  deriving DecidableEq

/-- What the calls into sd-bus return while one message is handled, and whether the caller wants
a reply at all. -/
structure SdBus where
  expectsReply : Bool
  read : Except Nat Unit
  newMethodReturn : Except Nat Unit
  openContainer : Except Nat Unit
  /-- by the place of the string in the array, and the string -/
  appendBasic : Nat → List UInt8 → Except Nat Unit
  closeContainer : Except Nat Unit
  send : Except Nat Unit
  /-- sd-bus itself replies with the error that a handler returns -/
  sendError : Bool

/-- No call fails for want of memory or of a connection. -/
structure SdBus.Works (bus : SdBus) : Prop where
  expectsReply : bus.expectsReply = true
  read : bus.read = .ok ()
  newMethodReturn : bus.newMethodReturn = .ok ()
  openContainer : bus.openContainer = .ok ()
  closeContainer : bus.closeContainer = .ok ()
  send : bus.send = .ok ()
  sendError : bus.sendError = true

/-- The compositor with what the methods read and write besides: `toplevel->app_id` of the
allocated records, `dark_mode`, the programs that `LaunchApp` has started and the replies,
oldest first. -/
structure Desktop where
  compositor : ZenCompositor
  appId : ToplevelId → Option (List UInt8)
  darkMode : Bool
  launched : List (List String)
  replies : List Reply

inductive DesktopEvent where
  | compositor (e : Event)
  | setAppId (t : ToplevelId) (newAppId : Option (List UInt8))
  | call (m : Method) (bus : SdBus) (system : Launching)

/-- What a handler leaves, and how it returns. -/
abbrev Handled := Desktop × Except Failure Unit

def SdBus.attempt (result : Except Nat Unit) : Except Failure Unit :=
  result.mapError .errno

/-- The caller has got a reply, unless it wants none. -/
def SdBus.deliver (bus : SdBus) (d : Desktop) (reply : Reply) : Desktop :=
  if bus.expectsReply then { d with replies := d.replies ++ [reply] } else d

/-- `sd_bus_reply_method_return` and `sd_bus_send` -/
def SdBus.replyMethodReturn (bus : SdBus) (d : Desktop) (reply : Reply) : Handled :=
  match attempt bus.send with
  | .ok _ => (bus.deliver d reply, .ok ())
  | .error e => (d, .error e)

def SdBus.appendStrings (bus : SdBus) (i : Nat) : List (List UInt8) → Except Failure Unit
  | [] => .ok ()
  | id :: ids => do
      attempt (bus.appendBasic i id)
      bus.appendStrings (i + 1) ids

def invalidArgument (message : String) : Failure :=
  .set "org.zenos.Error.InvalidArgument" message

/-- Each handler first reads its arguments. -/
def reading (bus : SdBus) (d : Desktop) (handler : Handled) : Handled :=
  match SdBus.attempt bus.read with
  | .ok _ => handler
  | .error e => (d, .error e)

/-- The check of an `app_id` that three of the methods begin with. -/
def checkAppId (appId : String) (d : Desktop) (handler : Handled) : Handled :=
  if appId = "" then (d, .error (invalidArgument "app_id must not be empty")) else handler

def handleLaunchApp (d : Desktop) (appId : String) (bus : SdBus) (system : Launching) : Handled :=
  reading bus d <| checkAppId appId d <|
    if system.forks then
      bus.replyMethodReturn
        { d with launched := d.launched ++ (system.child [[appId]]).toList } (.boolean true)
    else (d, .error (.set "org.zenos.Error.Internal" "fork failed"))

def runningApps (d : Desktop) : List (List UInt8) :=
  d.compositor.windows.toplevels.map fun t => (d.appId t).getD []

/-- The reply to `GetRunningApps` before it is sent. -/
def SdBus.newStrings (bus : SdBus) (ids : List (List UInt8)) : Except Failure Unit := do
  attempt bus.newMethodReturn
  attempt bus.openContainer
  bus.appendStrings 0 ids
  attempt bus.closeContainer

def handleGetRunningApps (d : Desktop) (bus : SdBus) : Handled :=
  match bus.newStrings (runningApps d) with
  | .ok _ => bus.replyMethodReturn d (.strings (runningApps d))
  | .error e => (d, .error e)

def handlePinToShelf (d : Desktop) (appId : String) (bus : SdBus) : Handled :=
  reading bus d <| checkAppId appId d (bus.replyMethodReturn d (.boolean true))

def handleUnpinFromShelf (d : Desktop) (appId : String) (bus : SdBus) : Handled :=
  reading bus d <| checkAppId appId d (bus.replyMethodReturn d (.boolean true))

def handleSetShelfConfig (d : Desktop) (_position : String) (_autoHide : Bool)
    (iconSize : Int32) (bus : SdBus) : Handled :=
  reading bus d <|
    if iconSize ≤ 0 then (d, .error (invalidArgument "icon_size must be greater than 0"))
    else bus.replyMethodReturn d (.boolean true)

def handleToggleDarkMode (d : Desktop) (enabled : Bool) (bus : SdBus) : Handled :=
  reading bus d (bus.replyMethodReturn { d with darkMode := enabled } (.boolean enabled))

def handleShowNotification (d : Desktop) (_appId _summary _body _icon : String)
    (urgency _timeoutMs : Int32) (bus : SdBus) : Handled :=
  reading bus d <|
    if urgency < 0 ∨ 2 < urgency then
      (d, .error (invalidArgument "urgency must be in range [0, 2]"))
    else bus.replyMethodReturn d (.int32 1)

/-- `compositor_vtable` -/
def compositorVtable (d : Desktop) (bus : SdBus) (system : Launching) : Method → Handled
  | .launchApp appId => handleLaunchApp d appId bus system
  | .getRunningApps => handleGetRunningApps d bus
  | .pinToShelf appId => handlePinToShelf d appId bus
  | .unpinFromShelf appId => handleUnpinFromShelf d appId bus
  | .setShelfConfig position autoHide iconSize =>
      handleSetShelfConfig d position autoHide iconSize bus
  | .toggleDarkMode enabled => handleToggleDarkMode d enabled bus
  | .showNotification appId summary body icon urgency timeoutMs =>
      handleShowNotification d appId summary body icon urgency timeoutMs bus

/-- sd-bus replies for a handler that has failed. -/
def SdBus.replyMethodErrno (bus : SdBus) (handled : Handled) : Desktop :=
  match handled.2 with
  | .ok _ => handled.1
  | .error e => if bus.sendError then bus.deliver handled.1 (.error e) else handled.1

def call (d : Desktop) (bus : SdBus) (system : Launching) (m : Method) : Desktop :=
  bus.replyMethodErrno (compositorVtable d bus system m)

/-- What an event makes of the app ids: a record is allocated without one and freed with
it, and `handle_toplevel_set_app_id` replaces it. -/
def appIdWrite : DesktopEvent → Option (ToplevelId × Option (List UInt8))
  | .compositor (.newToplevel t _ true) | .compositor (.destroy t) => some (t, none)
  | .setAppId t newAppId => some (t, newAppId)
  | _ => none

def writeAppId (appId : ToplevelId → Option (List UInt8)) (e : DesktopEvent) :
    ToplevelId → Option (List UInt8) :=
  match appIdWrite e with
  | some (t, newAppId) => Function.update appId t newAppId
  | none => appId

def stepDesktop (d : Desktop) (e : DesktopEvent) : Desktop :=
  let d := { d with appId := writeAppId d.appId e }
  match e with
  | .compositor e => { d with compositor := step d.compositor e }
  | .setAppId .. => d
  | .call m bus system => call d bus system m

def desktopCreated (outputs : List Output) (bindings : List ZenKeybinding)
    (idleTimer : Bool) : Desktop :=
  { compositor := created outputs bindings idleTimer
    appId := fun _ => none, darkMode := false, launched := [], replies := [] }

def DesktopEvent.isCall : DesktopEvent → Bool
  | .call .. => true
  | _ => false

/-- The events of the compositor among those of the desktop. -/
def windowEvents (events : List DesktopEvent) : List Event :=
  events.filterMap fun
    | .compositor e => some e
    | _ => none

/-- The app id that the latest write to the record of a toplevel has left. -/
def lastAppId (events : List DesktopEvent) (t : ToplevelId) :
    Option (List UInt8) :=
  (((events.filterMap appIdWrite).filter (·.1 = t)).getLast?.map (·.2)).join

/-- How sd-bus refuses the first of the strings that it does not take. -/
def SdBus.refusal (bus : SdBus) (i : Nat) (ids : List (List UInt8)) : Option Nat :=
  (ids.zipIdx i).findSome? fun p =>
    match bus.appendBasic p.2 p.1 with
    | .ok _ => none
    | .error n => some n

/-- What a method replies while sd-bus works, to a desktop whose windows have these app ids. -/
def Method.answer (bus : SdBus) (ids : List (List UInt8)) (system : Launching) : Method → Reply
  | .launchApp appId =>
      if appId = "" then .error (invalidArgument "app_id must not be empty")
      else if system.forks then .boolean true
      else .error (.set "org.zenos.Error.Internal" "fork failed")
  | .getRunningApps =>
      match bus.refusal 0 ids with
      | none => .strings ids
      | some n => .error (.errno n)
  | .pinToShelf appId | .unpinFromShelf appId =>
      if appId = "" then .error (invalidArgument "app_id must not be empty") else .boolean true
  | .setShelfConfig _ _ iconSize =>
      if iconSize ≤ 0 then .error (invalidArgument "icon_size must be greater than 0")
      else .boolean true
  | .toggleDarkMode enabled => .boolean enabled
  | .showNotification _ _ _ _ urgency _ =>
      if urgency < 0 ∨ 2 < urgency then
        .error (invalidArgument "urgency must be in range [0, 2]")
      else .int32 1

/-- The dark mode that a call whose arguments can be read sets. -/
def Method.darkMode (bus : SdBus) : Method → Option Bool
  | .toggleDarkMode enabled => if bus.read = .ok () then some enabled else none
  | _ => none

/-- What `LaunchApp` starts: the app id as a program without arguments, searched in the path. -/
def launches (bus : SdBus) (system : Launching) : Method → List (List String)
  | .launchApp appId =>
      if bus.read = .ok () ∧ appId ≠ "" ∧ system.forks = true ∧
          system.executes [appId] = true then
        [[appId]]
      else []
  | _ => []

section Handlers

variable (d : Desktop) (bus : SdBus) (system : Launching) (m : Method)

/-- A desktop on which something has been called: only this is left behind. -/
def Desktop.after (d : Desktop) (darkMode : Option Bool) (launched : List (List String))
    (replies : List Reply) : Desktop :=
  { d with
    darkMode := darkMode.getD d.darkMode
    launched := d.launched ++ launched
    replies := d.replies ++ replies }

/-- A caller gets no second reply, and one if it wants any, unless nothing can be sent. -/
structure OneReply (bus : SdBus) (replies : List Reply) : Prop where
  le_one : replies.length ≤ 1
  wanted : bus.expectsReply = true → bus.sendError = true → replies.length = 1
  unwanted : bus.expectsReply = false → replies = []

/-- A handler acts on two desktops alike. -/
def Answers (bus : SdBus) (d d' : Desktop) (handled handled' : Handled)
    (darkMode : Option Bool) (launched : List (List String)) : Prop :=
  ∃ replies, bus.replyMethodErrno handled = d.after darkMode launched replies ∧
    bus.replyMethodErrno handled' = d'.after darkMode launched replies ∧ OneReply bus replies

variable {bus : SdBus} {d d' : Desktop}

theorem deliver_after (d : Desktop) (darkMode : Option Bool) (launched : List (List String))
    (reply : Reply) : bus.deliver (d.after darkMode launched []) reply =
      d.after darkMode launched (if bus.expectsReply then [reply] else []) := by
  rcases h : bus.expectsReply with _ | _ <;> simp [SdBus.deliver, Desktop.after, h]

theorem oneReply_delivered (reply : Reply) :
    OneReply bus (if bus.expectsReply then [reply] else []) := by
  rcases h : bus.expectsReply with _ | _
  · exact ⟨Nat.zero_le 1, fun h' => absurd h' (by simp [h]), fun _ => rfl⟩
  · exact ⟨Nat.le_refl 1, fun _ _ => rfl, fun h' => absurd h' (by simp [h])⟩

variable (bus d d') in
theorem answers_error (darkMode : Option Bool) (launched : List (List String)) (e : Failure) :
    Answers bus d d' (d.after darkMode launched [], .error e)
      (d'.after darkMode launched [], .error e) darkMode launched := by
  rcases h : bus.sendError with _ | _
  · refine ⟨[], ?_, ?_, Nat.zero_le 1, fun _ h' => absurd h' (by simp [h]), fun _ => rfl⟩ <;>
      simp [SdBus.replyMethodErrno, h]
  · refine ⟨_, ?_, ?_, oneReply_delivered (.error e)⟩ <;>
      simp [SdBus.replyMethodErrno, h, deliver_after]

theorem answers_fail (e : Failure) :
    Answers bus d d' (d, .error e) (d', .error e) none [] := by
  have h := answers_error bus d d' none [] e
  simpa [Desktop.after] using h

variable (bus d d') in
theorem answers_replyMethodReturn (darkMode : Option Bool) (launched : List (List String))
    (reply : Reply) :
    Answers bus d d' (bus.replyMethodReturn (d.after darkMode launched []) reply)
      (bus.replyMethodReturn (d'.after darkMode launched []) reply) darkMode launched := by
  rw [SdBus.replyMethodReturn, SdBus.replyMethodReturn]
  rcases SdBus.attempt bus.send with e | _
  · exact answers_error bus d d' darkMode launched e
  · exact ⟨_, deliver_after d darkMode launched reply, deliver_after d' darkMode launched reply,
      oneReply_delivered reply⟩

theorem answers_reply (reply : Reply) :
    Answers bus d d' (bus.replyMethodReturn d reply) (bus.replyMethodReturn d' reply) none [] := by
  have h := answers_replyMethodReturn bus d d' none [] reply
  simpa [Desktop.after] using h

theorem answers_checkAppId {appId : String} {handled handled' : Handled} {darkMode : Option Bool}
    {launched : List (List String)}
    (h : appId ≠ "" → Answers bus d d' handled handled' darkMode launched)
    (hempty : appId = "" → darkMode = none ∧ launched = []) :
    Answers bus d d' (checkAppId appId d handled) (checkAppId appId d' handled') darkMode
      launched := by
  rw [checkAppId, checkAppId]
  split
  · next happ =>
      obtain ⟨rfl, rfl⟩ := hempty happ
      exact answers_fail _
  · next happ => exact h happ

theorem answers_reading {handled handled' : Handled} {darkMode : Option Bool}
    {launched : List (List String)}
    (h : bus.read = .ok () → Answers bus d d' handled handled' darkMode launched)
    (hunread : bus.read ≠ .ok () → darkMode = none ∧ launched = []) :
    Answers bus d d' (reading bus d handled) (reading bus d' handled') darkMode launched := by
  rw [reading, reading]
  rcases hread : bus.read with n | _
  · obtain ⟨rfl, rfl⟩ := hunread (by simp [hread])
    exact answers_fail _
  · exact h hread

variable (bus) in
theorem compositorVtable_answers (system : Launching) (m : Method)
    (hids : runningApps d = runningApps d') :
    Answers bus d d' (compositorVtable d bus system m) (compositorVtable d' bus system m)
      (m.darkMode bus) (launches bus system m) := by
  cases m with
  | launchApp appId =>
      refine answers_reading (fun hread => answers_checkAppId (fun happ => ?_) fun happ => ?_)
        fun hread => ?_
      · rcases hforks : system.forks with _ | _
        · rw [show launches bus system (.launchApp appId) = [] by simp [launches, hforks]]
          exact answers_fail _
        · have hchild : launches bus system (.launchApp appId) =
              (system.child [[appId]]).toList := by
            rcases hexec : system.executes [appId] with _ | _ <;>
              simp [launches, Launching.child, hread, happ, hforks, hexec]
          rw [hchild]
          have h := answers_replyMethodReturn bus d d' none
            (system.child [[appId]]).toList (.boolean true)
          simpa [Desktop.after, Method.darkMode] using h
      · simp [Method.darkMode, launches, happ]
      · simp [Method.darkMode, launches, hread]
  | getRunningApps =>
      simp only [compositorVtable, handleGetRunningApps, ← hids]
      rcases bus.newStrings (runningApps d) with e | _
      · exact answers_fail e
      · exact answers_reply _
  | pinToShelf appId | unpinFromShelf appId =>
      exact answers_reading (fun _ => answers_checkAppId (fun _ => answers_reply _)
        fun _ => ⟨rfl, rfl⟩) fun _ => ⟨rfl, rfl⟩
  | setShelfConfig position autoHide iconSize =>
      refine answers_reading (fun _ => ?_) fun _ => ⟨rfl, rfl⟩
      split
      · exact answers_fail _
      · exact answers_reply _
  | toggleDarkMode enabled =>
      refine answers_reading (fun hread => ?_) fun hread => ?_
      · rw [show (Method.toggleDarkMode enabled).darkMode bus = some enabled from if_pos hread]
        have h := answers_replyMethodReturn bus d d' (some enabled) []
          (.boolean enabled)
        simpa [Desktop.after, launches] using h
      · exact ⟨if_neg hread, rfl⟩
  | showNotification appId summary body icon urgency timeoutMs =>
      refine answers_reading (fun _ => ?_) fun _ => ⟨rfl, rfl⟩
      split
      · exact answers_fail _
      · exact answers_reply _

theorem appendStrings_eq (bus : SdBus) (i : Nat) (ids : List (List UInt8)) :
    bus.appendStrings i ids = (bus.refusal i ids).elim (.ok ()) fun n => .error (.errno n) := by
  induction ids generalizing i with
  | nil => rfl
  | cons id ids ih =>
      rw [SdBus.appendStrings, ih, SdBus.refusal, SdBus.refusal, List.zipIdx_cons,
        List.findSome?_cons]
      rcases bus.appendBasic i id with n | _ <;> rfl

theorem newStrings_works (h : bus.Works) (ids : List (List UInt8)) :
    bus.newStrings ids = (bus.refusal 0 ids).elim (.ok ()) fun n => .error (.errno n) := by
  rw [SdBus.newStrings, h.newMethodReturn, h.openContainer, h.closeContainer, appendStrings_eq]
  cases bus.refusal 0 ids <;> rfl

theorem replyMethodErrno_error (h : bus.Works) (d : Desktop) (e : Failure) :
    (bus.replyMethodErrno (d, .error e)).replies = d.replies ++ [.error e] := by
  simp [SdBus.replyMethodErrno, SdBus.deliver, h.sendError, h.expectsReply]

theorem replyMethodErrno_reply (h : bus.Works) (d : Desktop) (reply : Reply) :
    (bus.replyMethodErrno (bus.replyMethodReturn d reply)).replies = d.replies ++ [reply] := by
  rw [SdBus.replyMethodReturn, h.send]
  simp [SdBus.attempt, Except.mapError, SdBus.replyMethodErrno, SdBus.deliver, h.expectsReply]

theorem reading_works (h : bus.Works) (d : Desktop) (handled : Handled) :
    reading bus d handled = handled := by
  rw [reading, h.read]
  rfl

theorem call_works (h : bus.Works) (d : Desktop) (system : Launching) (m : Method) :
    (call d bus system m).replies = d.replies ++ [m.answer bus (runningApps d) system] := by
  rw [call]
  cases m with
  | launchApp appId =>
      simp only [compositorVtable, handleLaunchApp, reading_works h, checkAppId, Method.answer]
      split
      · exact replyMethodErrno_error h d _
      · split
        · exact replyMethodErrno_reply h _ _
        · exact replyMethodErrno_error h d _
  | getRunningApps =>
      simp only [compositorVtable, handleGetRunningApps, newStrings_works h, Method.answer]
      rcases bus.refusal 0 (runningApps d) with _ | n
      · exact replyMethodErrno_reply h d _
      · exact replyMethodErrno_error h d _
  | pinToShelf appId | unpinFromShelf appId =>
      simp only [compositorVtable, handlePinToShelf, handleUnpinFromShelf, reading_works h,
        checkAppId, Method.answer]
      split
      · exact replyMethodErrno_error h d _
      · exact replyMethodErrno_reply h d _
  | setShelfConfig position autoHide iconSize =>
      simp only [compositorVtable, handleSetShelfConfig, reading_works h, Method.answer]
      split
      · exact replyMethodErrno_error h d _
      · exact replyMethodErrno_reply h d _
  | toggleDarkMode enabled =>
      simp only [compositorVtable, handleToggleDarkMode, reading_works h, Method.answer]
      exact replyMethodErrno_reply h _ _
  | showNotification appId summary body icon urgency timeoutMs =>
      simp only [compositorVtable, handleShowNotification, reading_works h, Method.answer]
      split
      · exact replyMethodErrno_error h d _
      · exact replyMethodErrno_reply h d _

end Handlers

section Runs

variable (d : Desktop) (events : List DesktopEvent) (e : DesktopEvent)

theorem stepDesktop_call {d d' : Desktop} (hids : runningApps d = runningApps d')
    (m : Method) (bus : SdBus) (system : Launching) :
    ∃ replies, OneReply bus replies ∧
      stepDesktop d (.call m bus system) =
        d.after (m.darkMode bus) (launches bus system m) replies ∧
      (stepDesktop d' (.call m bus system)).replies = d'.replies ++ replies := by
  obtain ⟨replies, hd, hd', hone⟩ := compositorVtable_answers bus system m hids
  exact ⟨replies, hone, hd, congrArg Desktop.replies hd'⟩

theorem stepDesktop_appId : (stepDesktop d e).appId = writeAppId d.appId e := by
  cases e with
  | call m bus system =>
      obtain ⟨replies, -, h, -⟩ := stepDesktop_call (d := d) rfl m bus system
      rw [h]
      rfl
  | _ => rfl

theorem stepDesktop_compositor :
    (stepDesktop d e).compositor = exec step d.compositor (windowEvents [e]) := by
  cases e with
  | call m bus system =>
      obtain ⟨replies, -, h, -⟩ := stepDesktop_call (d := d) rfl m bus system
      rw [h]
      rfl
  | _ => rfl

theorem windowEvents_append (events events' : List DesktopEvent) :
    windowEvents (events ++ events') = windowEvents events ++ windowEvents events' :=
  List.filterMap_append

theorem exec_stepDesktop_compositor :
    (exec stepDesktop d events).compositor = exec step d.compositor (windowEvents events) := by
  induction events generalizing d with
  | nil => rfl
  | cons e events ih =>
      rw [exec_cons, ih, stepDesktop_compositor, ← exec_append, ← windowEvents_append]
      rfl

theorem lastAppId_concat (t : ToplevelId) :
    lastAppId (events ++ [e]) t = writeAppId (lastAppId events) e t := by
  rw [lastAppId, writeAppId, List.filterMap_append, List.filter_append]
  rcases hwrite : appIdWrite e with _ | ⟨u, newAppId⟩
  · simp [hwrite, lastAppId]
  · by_cases hu : u = t
    · subst hu
      simp [hwrite]
    · simp [hwrite, hu, lastAppId, Function.update_of_ne (Ne.symm hu)]

theorem exec_stepDesktop_appId (hd : d.appId = fun _ => none) :
    (exec stepDesktop d events).appId = lastAppId events := by
  induction events using List.reverseRecOn with
  | nil => exact hd
  | append_singleton events e ih =>
      funext t
      rw [exec_append, exec_cons, exec_nil, stepDesktop_appId, ih, lastAppId_concat]

theorem windowEvents_filter :
    windowEvents (events.filter fun e => !e.isCall) = windowEvents events := by
  rw [windowEvents, windowEvents, List.filterMap_filter]
  refine List.filterMap_congr fun e _ => ?_
  cases e <;> rfl

theorem lastAppId_filter : lastAppId (events.filter fun e => !e.isCall) = lastAppId events := by
  have hwrites : (events.filter fun e => !e.isCall).filterMap appIdWrite =
      events.filterMap appIdWrite := by
    rw [List.filterMap_filter]
    refine List.filterMap_congr fun e _ => ?_
    cases e <;> rfl
  funext t
  rw [lastAppId, lastAppId, hwrites]

theorem exec_stepDesktop_runningApps (outputs : List Output) (bindings : List ZenKeybinding)
    (idleTimer : Bool) :
    runningApps (exec stepDesktop (desktopCreated outputs bindings idleTimer) events) =
      (exec step (created outputs bindings idleTimer) (windowEvents
        events)).windows.toplevels.map fun t => (lastAppId events t).getD [] := by
  rw [runningApps, exec_stepDesktop_compositor, exec_stepDesktop_appId _ _ rfl]
  rfl

end Runs

/-- In every run, a call does not change what the compositor does; all it leaves behind are the
dark mode and a program.  Its caller gets no second reply, and one if it wants any, unless no
error can be sent either; what it gets is what it would have got had no call come before.  While
sd-bus works, this is the answer of the method, for which the windows have called themselves
last what they are listed as, unless sd-bus takes no such string. -/
theorem run_calls (outputs : List Output) (bindings : List ZenKeybinding) (idleTimer : Bool)
    (events : List DesktopEvent) (m : Method) (bus : SdBus) (system : Launching) :
    let d := exec stepDesktop (desktopCreated outputs bindings idleTimer) events
    let alone := exec stepDesktop (desktopCreated outputs bindings idleTimer)
      (events.filter fun e => !e.isCall)
    let s := exec step (created outputs bindings idleTimer) (windowEvents events)
    d.compositor = s ∧
    ∃ replies,
      stepDesktop d (.call m bus system) =
        { d with
          darkMode := (m.darkMode bus).getD d.darkMode
          launched := d.launched ++ launches bus system m
          replies := d.replies ++ replies } ∧
      (stepDesktop alone (.call m bus system)).replies = alone.replies ++ replies ∧
      OneReply bus replies ∧
      (bus.Works → replies =
        [m.answer bus (s.windows.toplevels.map fun t => (lastAppId events t).getD []) system]) := by
  intro d alone s
  have hids : runningApps d =
      s.windows.toplevels.map fun t => (lastAppId events t).getD [] :=
    exec_stepDesktop_runningApps events outputs bindings idleTimer
  have hids' : runningApps d = runningApps alone := by
    rw [hids, exec_stepDesktop_runningApps, windowEvents_filter, lastAppId_filter]
  obtain ⟨replies, hone, hd, halone⟩ := stepDesktop_call hids' m bus system
  refine ⟨exec_stepDesktop_compositor _ events, replies, hd, halone, hone, fun hworks => ?_⟩
  have hreplies : (stepDesktop d (.call m bus system)).replies = d.replies ++ replies :=
    congrArg Desktop.replies hd
  have hanswer : (stepDesktop d (.call m bus system)).replies =
      d.replies ++ [m.answer bus (runningApps d) system] := call_works hworks d system m
  rw [← hids]
  exact List.append_cancel_left (hreplies.symm.trans hanswer)

def einval : Nat := 22

/-- A bus that takes every string that is UTF-8. -/
def workingBus : SdBus where
  expectsReply := true
  read := .ok ()
  newMethodReturn := .ok ()
  openContainer := .ok ()
  appendBasic _ id := if id.toByteArray.validateUTF8 then .ok () else .error einval
  closeContainer := .ok ()
  send := .ok ()
  sendError := true

/-- One window with a name that is not UTF-8 denies the list of all windows. -/
theorem run_calls_not_utf8 :
    let events : List DesktopEvent := [.compositor (.newToplevel 1 11 true),
      .setAppId 1 (some [0x61]), .compositor (.newToplevel 2 12 true), .setAppId 2 (some [0xff])]
    (stepDesktop (exec stepDesktop (desktopCreated [] [] false) events)
      (.call .getRunningApps workingBus ⟨true, fun _ => true⟩)).replies =
        [.error (.errno einval)] := by
  intro events
  obtain ⟨-, replies, hstep, -, -, hworks⟩ := run_calls [] [] false events .getRunningApps
    workingBus ⟨true, fun _ => true⟩
  rw [hstep, hworks ⟨rfl, rfl, rfl, rfl, rfl, rfl, rfl⟩]
  decide +kernel

end ZenOS.Compositor
