import EndpointCatalog.Decimal.Shortest

namespace EndpointCatalog.Decimal

structure Style where
  nan : String
  infinity : String
  negativeInfinity : String
  lowestPoint : Int
  highestPoint : Int

def messageStyle : Style := ⟨"nan", "inf", "-inf", -3, 16⟩

def documentStyle : Style := ⟨"NaN", "Infinity", "-Infinity", -3, 16⟩

def paddedDigits (width n : Nat) : List Char :=
  let digits := Nat.toDigits 10 n
  List.replicate (width - digits.length) '0' ++ digits

-- A whole number keeps one zero behind the point.
def positional (d : Digits) : List Char :=
  let digits := paddedDigits d.count d.digits
  if d.point ≤ 0 then '0' :: '.' :: List.replicate (-d.point).toNat '0' ++ digits
  else
    let whole := d.point.toNat
    if d.count ≤ whole then digits ++ List.replicate (whole - d.count) '0' ++ ['.', '0']
    else digits.take whole ++ '.' :: digits.drop whole

def exponential (d : Digits) : List Char :=
  let exponent := d.point - 1
  let mark := ['e', if exponent < 0 then '-' else '+'] ++ paddedDigits 2 exponent.natAbs
  match paddedDigits d.count d.digits with
  | [] => mark
  | [lead] => lead :: mark
  | lead :: rest => lead :: '.' :: rest ++ mark

def Style.text (style : Style) (x : Double) : String :=
  if x.isNaN then style.nan
  else if x.isInfinite then (if x.isNegative then style.negativeInfinity else style.infinity)
  else
    let body :=
      if x.isZero then ['0', '.', '0']
      else
        let d := shortest x
        if style.lowestPoint ≤ d.point ∧ d.point ≤ style.highestPoint then positional d
        else exponential d
    String.ofList (if x.isNegative then '-' :: body else body)

def messageText (x : Double) : String := messageStyle.text x

def documentText (x : Double) : String := documentStyle.text x

end EndpointCatalog.Decimal
