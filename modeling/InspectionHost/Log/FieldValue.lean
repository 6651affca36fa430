import InspectionHost.Log.Pattern.Reader

/-!
# Values of fields

The value that a directive asks of a field is a number or a pattern. The words for truth values
are patterns too.

## Main definitions

* `isNumberText` : the texts of numbers.
* `isFieldValue` : the texts that a directive can ask for.
-/

namespace InspectionHost.Log

/-- Whether a text is a decimal exponent: a sign, if any, and digits behind the letter. -/
def isExponent : List Char → Bool
  | [] => true
  | e :: cs =>
    let digits := match cs with
      | '+' :: rest => rest
      | '-' :: rest => rest
      | _ => cs
    (e == 'e' || e == 'E') && !digits.isEmpty && digits.all Char.isDigit

/-- Whether a text is a number without a sign: digits, perhaps with a point among them or at an
end, and an exponent; or infinity; or a word for no number. -/
def isUnsignedNumber (cs : List Char) : Bool :=
  let whole := cs.takeWhile Char.isDigit
  let (fraction, rest) := match cs.drop whole.length with
    | '.' :: rest => (rest.takeWhile Char.isDigit, rest.dropWhile Char.isDigit)
    | rest => ([], rest)
  (!(whole ++ fraction).isEmpty && isExponent rest) ||
    ["inf", "infinity", "nan"].contains (String.ofList (cs.map Char.toLower))

/-- Whether a text is a number with a sign or without one. -/
def isNumberText : List Char → Bool
  | '+' :: cs => isUnsignedNumber cs
  | '-' :: cs => isUnsignedNumber cs
  | cs => isUnsignedNumber cs

/-- Whether a directive can ask for a value with this text. -/
def isFieldValue (cs : List Char) : Bool :=
  isNumberText cs || isPattern cs

end InspectionHost.Log
