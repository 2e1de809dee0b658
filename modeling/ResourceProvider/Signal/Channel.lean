/-!
# Channels

A channel hands each signal to everyone who is subscribed. It keeps the newest signals, as many as
its capacity; a receiver that falls behind learns how many it missed.
-/
namespace ResourceProvider.Signal

/-- A channel with the signals sent so far, the newest last. -/
structure Channel where
  capacity : Nat
  sent : List String
deriving DecidableEq, Repr

/-- How many signals a receiver has left behind. -/
structure Receiver where
  position : Nat
deriving DecidableEq, Repr

/-- What a receiver takes from a channel. -/
inductive Delivery where
  | signal (locator : String)
  | missed (count : Nat)
deriving DecidableEq, Repr

/-- The least power of two that is no less than `n`. -/
def powerOfTwoAbove (n : Nat) : Nat :=
  if n ≤ 1 then 1 else Nat.pow 2 (Nat.log2 (n - 1) + 1)

namespace Channel

/-- The capacity of a channel for which none is given. -/
def defaultCapacity : Nat := 256

/-- A channel that keeps at least the given number of signals. -/
def ofCapacity (n : Nat) : Channel :=
  ⟨powerOfTwoAbove n, []⟩

/-- Sends a signal. -/
def send (c : Channel) (locator : String) : Channel :=
  { c with sent := c.sent ++ [locator] }

/-- A receiver of what is sent from now on. -/
def subscribe (c : Channel) : Receiver :=
  ⟨c.sent.length⟩

/-- How many signals the channel does not keep any more. -/
def forgotten (c : Channel) : Nat :=
  c.sent.length - c.capacity

/-- Everything a receiver can take now, and the receiver afterwards. -/
def drain (c : Channel) (r : Receiver) : List Delivery × Receiver :=
  let missed := c.forgotten - r.position
  let marks := if missed = 0 then [] else [.missed missed]
  (marks ++ (c.sent.drop (max r.position c.forgotten)).map .signal, c.subscribe)

end Channel

end ResourceProvider.Signal
