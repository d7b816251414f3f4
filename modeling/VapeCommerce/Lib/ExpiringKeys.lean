import Mathlib.Tactic.Common

set_option autoImplicit false

-- The keys of a store with expiry times, in milliseconds: a key answers up to its expiry.
namespace VapeCommerce.Lib.ExpiringKeys

variable {V : Type}

structure Entry (V : Type) where
  value : V
  expiresAt : Option Nat
deriving DecidableEq, Repr

def Entry.alive (entry : Entry V) (now : Nat) : Bool :=
  entry.expiresAt.all fun expiry => now <= expiry

abbrev Key (V : Type) := Option (Entry V)

def get (key : Key V) (now : Nat) : Option V :=
  (key.filter fun entry => entry.alive now).map (·.value)

-- SET with EX and NX: the key and whether it was set.
def setNx (key : Key V) (value : V) (now lifetime : Nat) : Key V × Bool :=
  if (get key now).isSome then (key, false)
  else (some { value, expiresAt := some (now + lifetime) }, true)

-- INCR keeps the expiry of a key that is alive.
def incr (key : Key Nat) (now : Nat) : Entry Nat :=
  match key.filter fun entry => entry.alive now with
  | some entry => { entry with value := entry.value + 1 }
  | none => { value := 1, expiresAt := none }

def expire (key : Key V) (now lifetime : Nat) : Key V :=
  (key.filter fun entry => entry.alive now).map fun entry =>
    { entry with expiresAt := some (now + lifetime) }

theorem incr_alive {entry : Entry Nat} {now : Nat} (alive : entry.alive now = true) :
    incr (some entry) now = { entry with value := entry.value + 1 } := by
  have kept : (some entry).filter (fun entry => entry.alive now) = some entry := by
    simp [Option.filter, alive]
  rw [incr, kept]

theorem expire_alive {entry : Entry V} {now : Nat} (alive : entry.alive now = true) (lifetime : Nat) :
    expire (some entry) now lifetime = some { entry with expiresAt := some (now + lifetime) } := by
  simp [expire, alive]

theorem alive_until {value : V} {expiry now : Nat} (early : now <= expiry) :
    Entry.alive { value, expiresAt := some expiry } now = true := by
  simpa [Entry.alive] using early

end VapeCommerce.Lib.ExpiringKeys
