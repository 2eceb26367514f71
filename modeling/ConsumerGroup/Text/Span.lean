/-!
# Spans of time

A span in milliseconds, written in the largest unit that leaves a whole
part: seconds, with the milliseconds as a fraction, from one second up,
and milliseconds below that. Nothing at all is zero nanoseconds.
-/

namespace ConsumerGroup.Text

/-- The digits of a number of thousandths after the point, without
trailing zeros. -/
def thousandths (n : Nat) : String :=
  let digits := [n / 100 % 10, n / 10 % 10, n % 10]
  let kept := (digits.reverse.dropWhile (· == 0)).reverse
  String.join (kept.map toString)

/-- A span in milliseconds with its unit. -/
def span (ms : Nat) : String :=
  if ms = 0 then "0ns"
  else if ms < 1000 then toString ms ++ "ms"
  else if ms % 1000 = 0 then toString (ms / 1000) ++ "s"
  else toString (ms / 1000) ++ "." ++ thousandths (ms % 1000) ++ "s"

end ConsumerGroup.Text
