import Mathlib.Data.List.DropRight
import Traceroute.Lib.Rounding
import Traceroute.Sockets

/-! `Probe.cpp`: the text of a result. A `double` is the number that it stands for. -/

namespace Traceroute

/-- The `double` nearest to a number in its range. -/
def double (x : ℚ) : ℚ := roundBinary 53 x

/-- The last `width` decimal digits of `n`. -/
def lastDigits : Nat → Nat → List Char
  | 0, _ => []
  | width + 1, n => lastDigits width (n / 10) ++ [Nat.digitChar (n % 10)]

/-- `std::to_string` of a `double`: six digits behind the point, and the nearest number that they can say. -/
def to_string (value : ℚ) : String :=
  let millionths := (roundEven (|value| * 1000000)).toNat
  (if value < 0 then "-" else "") ++ (millionths / 1000000).repr ++ "." ++ .ofList (lastDigits 6 millionths)

def removeTrailingZeros (str : String) : String := .ofList (str.toList.rdropWhile (· == '0'))

/-- `waitedForStr`: the microseconds as milliseconds. -/
def ProbeResult.waitedForStr (pr : ProbeResult) : String := removeTrailingZeros (to_string (double (double pr.waitedFor / 1000)))

/-- What the loop of `toString` adds for a probe. -/
def ProbeResult.line (inet_ntop : Int → Bytes → String) (pr : ProbeResult) : String :=
  (if pr.success then
    (pr.responseSender.map (·.toString inet_ntop)).getD "" ++ ("  " ++ pr.waitedForStr) ++ " " ++ "ms"
  else " *") ++ "\n"

def TracerouteResult.toString (inet_ntop : Int → Bytes → String) (tracerouteResult : TracerouteResult) : String :=
  tracerouteResult.probeResults.foldl (fun result pr => result ++ pr.line inet_ntop) (tracerouteResult.ttl.toNat.repr ++ "  ")

end Traceroute
