import FlagKeeper.Number.Word

/-!
# Durations

A duration is a whole number of seconds that fits 64 bits and a number of nanoseconds below a second. `toNanos` is its exact
length; sums of fractions never round.
-/

namespace FlagKeeper

/-- How many nanoseconds a second has. -/
def nanosPerSec : Nat := 1000000000

/-- How many nanoseconds a millisecond has. -/
def nanosPerMilli : Nat := 1000000

/-- The time that the clock does not reach. Its seconds fit 64 bits with a sign, and it has run for some time at the start. -/
def clockEnd : Nat := (negativeCount - 1) * nanosPerSec

/-- A length of time. -/
structure Duration where
  secs : Nat
  nanos : Nat
  secs_lt : secs < wordCount
  nanos_lt : nanos < nanosPerSec

namespace Duration

instance : DecidableEq Duration := fun a b =>
  if h : a.secs = b.secs ∧ a.nanos = b.nanos then
    .isTrue (by
      cases a
      cases b
      obtain ⟨h1, h2⟩ := h
      subst h1
      subst h2
      rfl)
  else .isFalse fun e => h (e ▸ ⟨rfl, rfl⟩)

/-- The exact length in nanoseconds. -/
def toNanos (d : Duration) : Nat := d.secs * nanosPerSec + d.nanos

/-- The duration of so many nanoseconds, if its seconds fit 64 bits. -/
def ofNanos? (n : Nat) : Option Duration :=
  if h : n / nanosPerSec < wordCount then
    some ⟨n / nanosPerSec, n % nanosPerSec, h, Nat.mod_lt _ (by decide)⟩
  else none

/-- The empty duration. -/
def zero : Duration := ⟨0, 0, by decide, by decide⟩

/-- The duration of so many seconds; the count wraps at 64 bits. -/
def ofSecs (n : Nat) : Duration := ⟨n % wordCount, 0, Nat.mod_lt _ (by decide), by decide⟩

/-- Whether the duration is empty. -/
def isZero (d : Duration) : Bool := d.toNanos == 0

/-- The whole milliseconds. -/
def toMillis (d : Duration) : Nat := d.toNanos / nanosPerMilli

/-- The shorter of two durations. -/
def min (a b : Duration) : Duration := if b.toNanos < a.toNanos then b else a

/-- The product with a factor, unless the seconds outgrow 64 bits. -/
def mul? (d : Duration) (factor : Nat) : Option Duration := ofNanos? (d.toNanos * factor)

theorem toNanos_lt (d : Duration) : d.toNanos < wordCount * nanosPerSec := by
  have secs := d.secs_lt
  have nanos := d.nanos_lt
  unfold toNanos
  unfold nanosPerSec at *
  omega

/-- A duration that was made of nanoseconds has that length. -/
theorem toNanos_of_ofNanos? {n : Nat} {d : Duration} (made : ofNanos? n = some d) : d.toNanos = n := by
  unfold ofNanos? at made
  split at made
  · cases made
    exact Nat.div_add_mod' n nanosPerSec
  · cases made

/-- No duration has so many nanoseconds only if each one has fewer. -/
theorem toNanos_lt_of_ofNanos? {n : Nat} (none : ofNanos? n = none) (d : Duration) : d.toNanos < n := by
  unfold ofNanos? at none
  split at none
  · cases none
  · have shorter := d.toNanos_lt
    unfold nanosPerSec at *
    omega

theorem toNanos_min (a b : Duration) : (a.min b).toNanos = Min.min a.toNanos b.toNanos := by
  unfold Duration.min
  split <;> omega

/-- A decimal fraction: `count` units, then `rest` counted in steps of which `10 ^ width` make a unit. Zeros at the end are
left out. -/
def fractionText (count rest width : Nat) : String :=
  let digits := Nat.toDigits 10 rest
  let padded := List.replicate (width - digits.length) '0' ++ digits
  match (padded.reverse.dropWhile (· == '0')).reverse with
  | [] => toString count
  | kept => toString count ++ "." ++ String.ofList kept

/-- The text of a duration in the largest unit of which it has at least one, down to nanoseconds. -/
def text (d : Duration) : String :=
  if 0 < d.secs then fractionText d.secs d.nanos 9 ++ "s"
  else if 1000000 ≤ d.nanos then fractionText (d.nanos / 1000000) (d.nanos % 1000000) 6 ++ "ms"
  else if 1000 ≤ d.nanos then fractionText (d.nanos / 1000) (d.nanos % 1000) 3 ++ "µs"
  else toString d.nanos ++ "ns"

end Duration

end FlagKeeper
