import Mathlib.Data.Option.Basic

/-!
Resources that are released once, and reference-counted buffers.  A buffer has one
producer, who gives up its reference by dropping the buffer, and any number of consumers,
who lock and unlock it; it is freed with its last reference.  An operation is undefined
where it misuses what it is applied to.
-/

namespace ZenOS.Library.References

inductive Cell where
  | unused
  | held
  | released
  deriving DecidableEq

namespace Cell

def acquire : Cell → Option Cell
  | unused => some held
  | _ => none

def release : Cell → Option Cell
  | held => some released
  | _ => none

end Cell

inductive Counted where
  | unused
  | live (producer : Bool) (consumers : Nat)
  | freed
  deriving DecidableEq

namespace Counted

/-- A buffer without references is freed. -/
def consider (producer : Bool) (consumers : Nat) : Counted :=
  if producer || 0 < consumers then live producer consumers else freed

def init : Counted → Option Counted
  | unused => some (live true 0)
  | _ => none

def lock : Counted → Option Counted
  | live producer consumers => some (live producer (consumers + 1))
  | _ => none

def unlock : Counted → Option Counted
  | live producer (consumers + 1) => some (consider producer consumers)
  | _ => none

def drop : Counted → Option Counted
  | live true consumers => some (consider false consumers)
  | _ => none

/-- The buffer has been initialised and is still allocated. -/
def isLive : Counted → Bool
  | live _ _ => true
  | _ => false

end Counted

end ZenOS.Library.References
