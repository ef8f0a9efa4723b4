/-!
# Reading fixed-width numbers

Dates and times are read left to right: each reader takes something from the front of a text and
gives back what follows it.
-/

namespace CqlClient.Calendar

def scanNumber? (least most : Nat) (cs : List Char) : Option (Nat × List Char) :=
  let ds := (cs.take most).takeWhile Char.isDigit
  if least ≤ ds.length then some (Nat.ofDigitChars 10 ds 0, cs.drop ds.length) else none

def scanChar? (c : Char) : List Char → Option (List Char)
  | [] => none
  | d :: rest => if d = c then some rest else none

/--
Takes a fraction of a second in nanoseconds, if the text starts with a point. Digits beyond the
ninth are passed over.
-/
def scanFraction? : List Char → Option (Nat × List Char)
  | '.' :: cs =>
    let ds := (cs.take 9).takeWhile Char.isDigit
    if ds = [] then none
    else some (Nat.ofDigitChars 10 ds 0 * Nat.pow 10 (9 - ds.length), cs.dropWhile Char.isDigit)
  | cs => some (0, cs)

def padded (width n : Nat) : List Char :=
  let ds := Nat.toDigits 10 n
  List.replicate (width - ds.length) '0' ++ ds

end CqlClient.Calendar
