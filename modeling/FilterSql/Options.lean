import FilterSql.Driver
import FilterSql.Json.Reader

/-!
# Compile options

The driver that statements are written for and what becomes of directive
problems. Options are read from configuration as a JSON object with two optional
members, or as an array with the two values in order; what is missing takes its
default.
-/

namespace FilterSql

inductive Mode where
  /-- Report them beside the result. -/
  | lenient
  /-- Refuse the record. -/
  | strict
  deriving DecidableEq, Repr, Inhabited

structure Options where
  driver : Driver := .other
  mode : Mode := .lenient
  deriving DecidableEq, Repr, Inhabited

def Mode.name : Mode → String
  | .lenient => "lenient"
  | .strict => "strict"

def Mode.ofName? (s : String) : Option Mode :=
  if s = "lenient" then some .lenient
  else if s = "strict" then some .strict
  else none

namespace Options

def isStrict (o : Options) : Bool :=
  o.mode == .strict

/-- The JSON form of options: both members, the driver first. -/
def toJson (o : Options) : Json :=
  .object [
    ("driver".toList.map some, Json.ofString o.driver.name),
    ("mode".toList.map some, Json.ofString o.mode.name)]

def json (o : Options) : String :=
  String.ofList o.toJson.render

/-- A driver is given by any name. -/
def driverOfJson? : Json → Option Driver
  | .text units => (Json.string? units).map Driver.ofName
  | _ => none

/-- A mode is given by its name, alone or as the only member of an object, with a null value. -/
def modeOfJson? : Json → Option Mode
  | .text units => (Json.string? units).bind Mode.ofName?
  | .object [(key, .null)] => (Json.string? key).bind Mode.ofName?
  | _ => none

/-- The values of the two known members; a repeated one is refused, other members are skipped. -/
def members? (driver : Option Driver) (mode : Option Mode) :
    List (List (Option Char) × Json) → Option Options
  | [] => some ⟨driver.getD .other, mode.getD .lenient⟩
  | (key, j) :: ms =>
    match Json.string? key with
    | none => none
    | some "driver" =>
      if driver.isSome then none
      else (driverOfJson? j).bind fun d => members? (some d) mode ms
    | some "mode" =>
      if mode.isSome then none
      else (modeOfJson? j).bind fun m => members? driver (some m) ms
    | some _ => members? driver mode ms

def ofJson? : Json → Option Options
  | .object ms => members? none none ms
  | .array [] => some default
  | .array [d] => do
    let driver ← driverOfJson? d
    some ⟨driver, .lenient⟩
  | .array [d, m] => do
    let driver ← driverOfJson? d
    let mode ← modeOfJson? m
    some ⟨driver, mode⟩
  | _ => none

def readJson? (s : String) : Option Options :=
  (Json.read? s).bind ofJson?

end Options

end FilterSql
