import ContractLens.Json.Basic

/-!
# Repeated attempts

The delays between attempts grow by a factor from one to the next until they reach a limit. They are
worked out in binary64 arithmetic, and the result is cut down to whole milliseconds.
-/

namespace ContractLens.Rpc

/-- How often and how fast a failed request is sent again (`RetryConfig`). -/
structure RetryPolicy where
  /-- How many attempts may follow the first one. -/
  maxRetries : UInt32
  /-- The first delay in milliseconds. -/
  initialBackoff : UInt64
  /-- The limit of the delays in milliseconds. -/
  maxBackoff : UInt64
  multiplier : Float

namespace RetryPolicy

/-- Three retries after 200, 400 and 800 milliseconds (`RetryConfig.default`). -/
def standard : RetryPolicy := ⟨3, 200, 5000, 2.0⟩

/-- A single attempt (`RetryConfig.none`). -/
def once : RetryPolicy := { standard with maxRetries := 0 }

/-! ## Delays -/

/-- The product of `acc` and a power of the base. -/
def powerFrom (acc base : Float) (exponent : Nat) : Float :=
  let acc := if exponent % 2 = 1 then acc * base else acc
  if 1 < exponent then powerFrom acc (base * base) (exponent / 2) else acc
termination_by exponent

/-- A power by repeated squaring; a negative one is the reciprocal of the positive one. -/
def power (base : Float) (exponent : Int) : Float :=
  let p := powerFrom 1.0 base exponent.natAbs
  if exponent < 0 then 1.0 / p else p

/-- The smaller number; what is not a number counts as larger than any. -/
def lesser (x y : Float) : Float := if x < y then x else if y.isNaN then x else y

/-- The delay in milliseconds before a retry, counted from one; none when there are no retries left
    (`RetryPolicy.next_delay`). The exponent is taken from the retry's number as a signed word. -/
def delay? (p : RetryPolicy) (retry : UInt32) : Option UInt64 :=
  if retry = 0 ∨ p.maxRetries < retry then none
  else
    let factor := power p.multiplier (retry.toInt32 - 1).toInt
    some (lesser (p.initialBackoff.toFloat * factor) p.maxBackoff.toFloat).toUInt64

/-! ## JSON -/

/-- The number that a JSON number is in binary64. -/
def floatOfJson? : Json → Option Float
  | .int n =>
    if n < 0 then some (-UInt64.toFloat (UInt64.ofNat n.natAbs))
    else some (UInt64.toFloat (UInt64.ofNat n.natAbs))
  | .real bits => some (Float.ofBits bits)
  | _ => none

/-- The count below `2 ^ 32` that a JSON number is. -/
def countOfJson? (value : Json) : Option UInt32 :=
  value.word?.bind fun n => if n < 4294967296 then some n.toUInt32 else none

/-- The policy that a JSON value describes; what is absent is as in the standard one
    (`RetryConfig.deserialize`). -/
def ofJson? (value : Json) : Option RetryPolicy := do
  let r ← value.record? ["max_retries", "initial_backoff", "max_backoff", "multiplier"]
  let maxRetries ← r.withDefault "max_retries" standard.maxRetries countOfJson?
  let initialBackoff ← r.withDefault "initial_backoff" standard.initialBackoff Json.word?
  let maxBackoff ← r.withDefault "max_backoff" standard.maxBackoff Json.word?
  let multiplier ← r.withDefault "multiplier" standard.multiplier floatOfJson?
  return { maxRetries, initialBackoff, maxBackoff, multiplier }

end RetryPolicy

end ContractLens.Rpc
