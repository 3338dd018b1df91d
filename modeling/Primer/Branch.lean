/-!
# Branches

A branch is a condition with its body and further conditions with theirs; the first that holds is
taken. While control is inside a body there is a frame that says whether the body was taken, and
control is live if all of the frames are.
-/

namespace Primer

/-! ## Frames -/

/-- Whether each enclosing body was taken, from the inside out. -/
abbrev Frames := List Bool

def Frames.isLive (frames : Frames) : Bool := frames.all id

def Frames.depth (frames : Frames) : Nat := frames.length

def Frames.enter (frames : Frames) (taken : Bool) : Frames := taken :: frames

def Frames.leave (frames : Frames) : Frames := frames.tail

/-! ## Chains of conditions -/

/-- Whether a condition of the chain held so far. -/
structure Chain where
  matched : Bool
deriving DecidableEq

namespace Chain

/-- A chain none of whose conditions was asked yet. -/
def start : Chain := ⟨false⟩

/-- Whether the body of the next condition is taken. -/
def takes (c : Chain) (holds : Bool) : Bool := !c.matched && holds

/-- The chain after one more condition. -/
def arm (c : Chain) (holds : Bool) : Chain := ⟨c.matched || c.takes holds⟩

/-- Whether the body for no condition is taken. -/
def otherwise (c : Chain) : Bool := !c.matched

end Chain

end Primer
