import Mathlib.Algebra.Ring.Int.Defs
import PsCore.TextCore

/-!
The checks of model columns and serializer fields, with their messages. Integers are bounded as
PostgreSQL bounds them.
-/

namespace PsCore

/-- `coefficient / 10 ^ places`, as it is written; zeros at the end count. -/
structure GivenDecimal where
  coefficient : Int
  places : Nat
  deriving DecidableEq, Repr

namespace GivenDecimal

def digits (value : GivenDecimal) : Nat :=
  max (Nat.toDigits 10 value.coefficient.natAbs).length value.places

def isNegative (value : GivenDecimal) : Bool :=
  value.coefficient < 0

def isAtMost (value : GivenDecimal) (bound : Nat) : Bool :=
  value.coefficient ≤ bound * 10 ^ value.places

/-- In hundredths, where there are no further places. -/
def money (value : GivenDecimal) : Money :=
  value.coefficient * 10 ^ (2 - value.places)

end GivenDecimal

def counted (count : Nat) (noun : String) : String :=
  toString count ++ " " ++ noun ++ (if count = 1 then "" else "s")

/-- Only the first of the three that fails is told. -/
def decimalFieldErrors (field : String) (maxDigits decimalPlaces : Nat) (value : GivenDecimal) :
    List (String × String) :=
  if maxDigits < value.digits then
    [(field, "Ensure that there are no more than " ++ counted maxDigits "digit" ++ " in total.")]
  else if decimalPlaces < value.places then
    [(field, "Ensure that there are no more than " ++ counted decimalPlaces "decimal place" ++ ".")]
  else if maxDigits - decimalPlaces < value.digits - value.places then
    [(field, "Ensure that there are no more than " ++ counted (maxDigits - decimalPlaces) "digit" ++
      " before the decimal point.")]
  else []

def positiveIntegerErrors (field : String) (value : Int) : List (String × String) :=
  if value < 0 then [(field, "Ensure this value is greater than or equal to 0.")]
  else if 2147483647 < value then [(field, "Ensure this value is less than or equal to 2147483647.")]
  else []

def emailFieldErrors (isEmail : String → Bool) (field : String) (value : String) : List (String × String) :=
  (if value = "" ∨ isEmail value = true then [] else [(field, "Enter a valid email address.")]) ++
  charFieldErrors field 254 true value

def nullCharacterErrors (field : String) (value : String) : List (String × String) :=
  if Char.ofNat 0 ∈ value.toList then [(field, "Null characters are not allowed.")] else []

def serializerCharErrors (field : String) (maxLength : Nat) (value : String) : List (String × String) :=
  if value = "" then [(field, "This field may not be blank.")]
  else
    (if maxLength < value.length then
      [(field, "Ensure this field has no more than " ++ toString maxLength ++ " characters.")] else []) ++
    nullCharacterErrors field value

def isSlugCharacter (character : Char) : Bool :=
  character.isAlphanum || character == '-' || character == '_'

def slugErrors (model : String) (maxLength : Nat) (taken : Bool) (slug : String) : List (String × String) :=
  (if slug ≠ "" ∧ taken = true then [("slug", model ++ " with this slug already exists.")] else []) ++
  serializerCharErrors "slug" maxLength slug ++
  (if slug.toList.all isSlugCharacter then []
    else [("slug", "Enter a valid \"slug\" consisting of letters, numbers, underscores or hyphens.")])

/-- A serializer's `validate_` method is asked where the field's own checks have passed. -/
def validated (errors : List (String × String)) (refused : Bool) (error : String × String) :
    List (String × String) :=
  if errors = [] ∧ refused = true then [error] else errors

end PsCore
