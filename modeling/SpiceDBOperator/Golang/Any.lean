import Mathlib.Algebra.Ring.Nat
import SpiceDBOperator.Golang.Quote
import SpiceDBOperator.Golang.Values

/-!
# `any`: decoded JSON, `fmt.Sprint` and the `strconv` parsers

`encoding/json` decodes an object into a `map[string]any`, whose values are nil, booleans, float64
numbers, strings, slices and maps.

| here | there |
| --- | --- |
| `Number`      | a finite float64, by the shortest decimal that reads back as it |
| `Number.text` | `strconv.FormatFloat(x, 'g', -1, 64)`, what `%v` prints |
| `Any`         | `any`; the fields of an object have distinct names and stand in the order a `range` visits them |
| `Any.text`    | `fmt.Sprint(v)` and the `%v` verb; maps are printed in the order of their keys |
| `parseBool`   | `strconv.ParseBool` |
| `parseInt32`  | `strconv.ParseInt(s, 10, 32)` |
-/

namespace Golang

/-- `± digits · 10 ^ exponent`, without trailing zeros. -/
structure Number where
  negative : Bool := false
  digits : Nat
  exponent : Int := 0
  shortest : digits % 10 ≠ 0 ∨ (digits = 0 ∧ exponent = 0)
deriving DecidableEq

def zeros (n : Nat) : String := String.ofList (List.replicate n '0')

def Number.text (x : Number) : String :=
  let ds := Nat.toDigits 10 x.digits
  -- the value is `0.ds · 10 ^ point`
  let point : Int := ds.length + x.exponent
  let exp := point - 1
  (if x.negative then "-" else "") ++
  if x.digits = 0 then "0"
  else if exp < -4 ∨ 6 ≤ exp then
    String.ofList (ds.take 1) ++ (if ds.length = 1 then "" else "." ++ String.ofList (ds.drop 1)) ++ "e" ++
      (if exp < 0 then "-" else "+") ++ (if exp.natAbs < 10 then "0" else "") ++ toString exp.natAbs
  else if point ≤ 0 then "0." ++ zeros (-point).toNat ++ String.ofList ds
  else if (ds.length : Int) ≤ point then String.ofList ds ++ zeros (point - ds.length).toNat
  else String.ofList (ds.take point.toNat) ++ "." ++ String.ofList (ds.drop point.toNat)

example : Number.text { digits := 1, exponent := 6, shortest := by decide } = "1e+06" := by decide

example : Number.text { digits := 125, exponent := -2, shortest := by decide } = "1.25" := by decide

inductive Any where
  | null
  | bool (b : Bool)
  | number (x : Number)
  | string (s : String)
  | array (xs : List Any)
  | object (fields : List (String × Any))

def formatBool (b : Bool) : String := if b then "true" else "false"

mutual

def Any.text : Any → String
  | .null => "<nil>"
  | .bool b => formatBool b
  | .number x => x.text
  | .string s => s
  | .array xs => "[" ++ " ".intercalate (elementTexts xs) ++ "]"
  | .object fields =>
    let entries := (fieldTexts fields).mergeSort fun a b => decide (a.1 ≤ b.1)
    "map[" ++ " ".intercalate (entries.map fun e => e.1 ++ ":" ++ e.2) ++ "]"

def elementTexts : List Any → List String
  | [] => []
  | x :: rest => x.text :: elementTexts rest

def fieldTexts : List (String × Any) → List (String × String)
  | [] => []
  | (k, v) :: rest => (k, v.text) :: fieldTexts rest

end

/-! ## Parsing -/

inductive ParseError where
  | badSyntax
  | outOfRange
deriving DecidableEq

/-- `strconv.NumError.Error`. -/
def ParseError.text (func num : String) (err : ParseError) : String :=
  "strconv." ++ func ++ ": parsing " ++ quote num ++ ": " ++
    match err with
    | .badSyntax => "invalid syntax"
    | .outOfRange => "value out of range"

def parseBool (s : String) : Except String Bool :=
  if s ∈ ["1", "t", "T", "TRUE", "true", "True"] then .ok true
  else if s ∈ ["0", "f", "F", "FALSE", "false", "False"] then .ok false
  else .error (ParseError.text "ParseBool" s .badSyntax)

/-- The digit loop of `strconv.ParseUint(s, 10, 32)`; the first bad rune or the first overflow ends it. -/
def parseDigits : List Char → Nat → Except ParseError Nat
  | [], n => .ok n
  | c :: rest, n =>
    if ¬ c.isDigit then .error .badSyntax
    else
      let n := 10 * n + (c.toNat - '0'.toNat)
      if n < 2 ^ 32 then parseDigits rest n else .error .outOfRange

def parseUint32 (ds : List Char) : Except ParseError Nat :=
  if ds = [] then .error .badSyntax else parseDigits ds 0

def parseInt32 (s : String) : Except String Int :=
  let (negative, ds) :=
    match s.toList with
    | '-' :: ds => (true, ds)
    | '+' :: ds => (false, ds)
    | ds => (false, ds)
  match parseUint32 ds with
  | .error err => .error (err.text "ParseInt" s)
  | .ok n =>
    if negative then if n ≤ 2 ^ 31 then .ok (-n) else .error (ParseError.outOfRange.text "ParseInt" s)
    else if n < 2 ^ 31 then .ok n else .error (ParseError.outOfRange.text "ParseInt" s)

end Golang
