/-!
# The text of a duration

A duration is a number of nanoseconds. It is written in the largest of the
units second, millisecond, microsecond and nanosecond that it fills at least
once, as a decimal without trailing zeros.
-/

namespace PacketServer.Text

/-- The nanoseconds of a second. -/
def second : Nat := 1000000000

/-- The nanoseconds of a millisecond. -/
def millisecond : Nat := 1000000

/-- The nanoseconds of a microsecond. -/
def microsecond : Nat := 1000

/-- The digits of `part / scale` behind the decimal point, trailing zeros left
out, where `scale` is a power of ten above `part`. -/
def fraction : Nat → Nat → Nat → List Char
  | 0, _, _ => []
  | fuel + 1, part, scale =>
    if part = 0 then []
    else
      Nat.digitChar (part * 10 / scale) :: fraction fuel (part * 10 % scale) scale

/-- `n / scale` as a decimal, `scale` being a power of ten that is at most
`second`. -/
def decimal (n scale : Nat) : String :=
  let digits := fraction 9 (n % scale) scale
  toString (n / scale) ++ if digits.isEmpty then "" else "." ++ String.ofList digits

/-- A number of nanoseconds in the largest unit that it fills. -/
def duration (ns : Nat) : String :=
  if second ≤ ns then decimal ns second ++ "s"
  else if millisecond ≤ ns then decimal ns millisecond ++ "ms"
  else if microsecond ≤ ns then decimal ns microsecond ++ "µs"
  else toString ns ++ "ns"

end PacketServer.Text
