import Mathlib.Algebra.Order.Ring.Int
import Mathlib.Data.String.Basic

namespace OzPos

def i64Max : Int := 9223372036854775807

def minorUnitExponent (currency : String) : Nat :=
  if currency ∈ ["IDR", "JPY", "KRW", "VND", "CLP", "ISK", "HUF"] then 0
  else if currency ∈ ["KWD", "OMR", "BHD", "JOD", "TND"] then 3
  else 2

def padZeros (width : Nat) (digits : String) : String :=
  String.ofList (List.replicate (width - digits.toList.length) '0') ++ digits

def formatMinor (minor : Int) (currency : String) : String :=
  let exp := minorUnitExponent currency
  if exp = 0 then toString minor
  else
    let div : Int := 10 ^ exp
    let major := minor.tdiv div
    let frac := (minor.tmod div).natAbs
    -- truncation towards zero would lose the sign of less than one major unit
    let sign := if minor < 0 ∧ major = 0 then "-" else ""
    sign ++ toString major ++ "." ++ padZeros exp (toString frac)

example : formatMinor (-12) "USD" = "-0.12" := by decide +kernel

end OzPos
