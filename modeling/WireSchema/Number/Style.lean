import WireSchema.Number.Shortest

/-!
# Writing numbers

How a shortest decimal is laid out as text. A `Style` holds the decisions of one kind of output;
the three styles of the project are `Style.literal` for one-line views of data, `Style.plain` for
messages and `Style.json` for JSON.
-/

namespace WireSchema.Number

/-- The decisions of one way to write numbers. -/
structure Style where
  /-- The powers of ten of the first digit that are written without an exponent; all of them when
      there are no bounds. -/
  positional : Option (Int × Int)
  /-- Is a whole number written with `.0` at its end? -/
  fraction : Bool
  /-- Has a positive exponent a plus sign? -/
  plus : Bool
  /-- Which of two equally near decimals is written. -/
  tie : Tie
deriving DecidableEq

/-- One-line views of data: no exponent from `0.0001` to below ten to the sixteenth. -/
def Style.literal : Style := ⟨some (-4, 15), true, false, .up⟩

/-- Messages: never an exponent, and whole numbers look like integers. -/
def Style.plain : Style := ⟨none, false, false, .up⟩

/-- JSON: no exponent from `0.00001` to below ten to the sixteenth, a signed one elsewhere. -/
def Style.json : Style := ⟨some (-5, 15), true, true, .even⟩

/-- Is a number whose first digit stands at `10 ^ lead` written without an exponent? -/
def Style.isPositional (s : Style) (lead : Int) : Bool :=
  match s.positional with
  | none => true
  | some (least, greatest) => least ≤ lead && lead ≤ greatest

/-- Digits with the first one at `10 ^ lead`, written without an exponent. -/
def Style.writePositional (s : Style) (digits : List Char) (lead : Int) : List Char :=
  if lead < 0 then
    '0' :: '.' :: List.replicate (-lead - 1).toNat '0' ++ digits
  else
    let whole := lead.toNat + 1
    if digits.length ≤ whole then
      digits ++ List.replicate (whole - digits.length) '0' ++ if s.fraction then ['.', '0'] else []
    else digits.take whole ++ '.' :: digits.drop whole

/-- Digits with the first one at `10 ^ lead`, written with an exponent. -/
def Style.writeScientific (s : Style) (digits : List Char) (lead : Int) : List Char :=
  let point := if digits.length ≤ 1 then digits else digits.take 1 ++ '.' :: digits.drop 1
  let sign := if lead < 0 then ['-'] else if s.plus then ['+'] else []
  point ++ 'e' :: sign ++ Nat.toDigits 10 lead.natAbs

/-- A decimal other than zero. -/
def Style.writeDecimal (s : Style) (d : Decimal) : List Char :=
  let digits := Nat.toDigits 10 d.coefficient
  let lead := d.exponent + digits.length - 1
  if s.isPositional lead then s.writePositional digits lead else s.writeScientific digits lead

/-- The text of what the bits of a format stand for. -/
def Style.write (s : Style) (f : BinaryFormat) (x : Unpacked) : String :=
  match x with
  | .nan _ _ => "NaN"
  | .infinite negative => if negative then "-inf" else "inf"
  | .finite negative mantissa exponent =>
    let body :=
      if mantissa = 0 then if s.fraction then ['0', '.', '0'] else ['0']
      else s.writeDecimal (f.shortest s.tie mantissa exponent)
    String.ofList (if negative then '-' :: body else body)

/-- The text of a number with 32 bits. -/
def Single.toText (s : Style) (x : Single) : String :=
  s.write binary32 x.unpack

/-- The text of a number with 64 bits. -/
def Double.toText (s : Style) (x : Double) : String :=
  s.write binary64 x.unpack

end WireSchema.Number
