import Tabletop.Random.Generator
import Tabletop.Text.Number

/-!
# Sources of random samples

A source hands out one sample after the other and counts them.  It runs along a
given sequence of samples or it runs a generator.
-/

namespace Tabletop
namespace Random

/-!
## Random samples

A source of random numbers hands out samples that should lie in `[0, 1)`.  A
sample is a floating point number or a whole one, and only zero is a whole
number in that range.
-/

inductive Sample where
  | whole (value : Int)
  | real (value : Binary64)
deriving DecidableEq

namespace Sample

/-- The samples that a source may hand out. -/
def inUnitInterval : Sample → Bool
  | whole n => n == 0
  | real x => x.inUnitInterval

/-- The sample `n / 2 ^ 53`. -/
def ofGrid (n : Nat) : Sample := .real (.finite false n (-53))

def text : Sample → String
  | whole n => Text.Decimal.text n
  | real x => x.text

end Sample

/-! ## Sources -/

inductive Source where
  | stream (samples : Nat → Sample) (drawn : Nat)
  | generator (state : Twister) (drawn : Nat)

namespace Source

/-- How many samples have been handed out. -/
def drawn : Source → Nat
  | stream _ n => n
  | generator _ n => n

def next : Source → Sample × Source
  | stream samples n => (samples n, stream samples (n + 1))
  | generator state n =>
    let (grid, state) := state.next53
    (Sample.ofGrid grid, generator state (n + 1))

def skip (source : Source) : Nat → Source
  | 0 => source
  | n + 1 => source.next.2.skip n

/-- The sample that comes after a number of others. -/
def peek (source : Source) (n : Nat) : Sample := (source.skip n).next.1

/-- The samples of a list in order, the last one for ever after. -/
def holdLast (first : Sample) (rest : List Sample) : Source :=
  let samples := (first :: rest).toArray
  .stream (fun n => samples.getD n (samples.back?.getD first)) 0

def ofSeed (seed : Seed) : Source := .generator seed.twister 0

@[simp] theorem skip_zero (source : Source) : source.skip 0 = source := rfl

theorem skip_succ (source : Source) (n : Nat) :
    source.skip (n + 1) = source.next.2.skip n := rfl

theorem skip_skip (source : Source) (m n : Nat) :
    (source.skip m).skip n = source.skip (m + n) := by
  induction m generalizing source with
  | zero => simp
  | succ m ih => rw [skip_succ, ih, Nat.succ_add, skip_succ]

end Source

end Random
end Tabletop
