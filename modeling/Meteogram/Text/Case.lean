import Meteogram.Text.CharClass

/-!
# Lower case and caseless comparison

`lower` is the lower case form of a text, in which a capital sigma at the end
of a word becomes a final sigma. Keywords, chart names and switches are
compared by it (`sameWord`).

Looking for a word inside an equation compares character by character
(`caselessKey`), which is coarser: it does not tell apart the long and the
round s, or the kelvin sign and the letter k.
-/

set_option autoImplicit false

namespace Meteogram.Text

/-! ## Single characters -/

/-- The lower case form of a character, when that is one character. A
character without one is its own lower case form. -/
def lowerChar (c : Char) : Char :=
  if c.toNat < 128 then c.toLower
  else
    match CharTable.lowerCase.find? fun run =>
        run.first ≤ c.toNat && c.toNat ≤ run.last && (c.toNat - run.first) % run.step == 0 with
    | some run => Char.ofNat (run.lower + (c.toNat - run.first))
    | none => c

/-- What caseless matching compares: two characters match when their keys are
equal. The dotted capital I matches the letter i. -/
def caselessKey (c : Char) : Char :=
  let low := if c.toNat = 0x130 then 'i' else lowerChar c
  if low.toNat < 128 then low
  else
    match CharTable.caselessTwins.find? fun twin => twin.1 == low.toNat with
    | some twin => Char.ofNat twin.2
    | none => low

/-! ## Texts -/

/-- A cased character, for the rule of the final sigma. -/
def isCased (c : Char) : Bool :=
  if c.toNat < 128 then c.isAlpha else inTable CharTable.cased c

/-- A character that the rule of the final sigma looks past. -/
def isCaseIgnorable (c : Char) : Bool :=
  if c.toNat < 128 then
    c.toNat == 39 || c == '.' || c == ':' || c == '^' || c.toNat == 96
  else inTable CharTable.caseIgnorable c

/-- The nearest character that is not looked past is cased. -/
def nextIsCased (cs : List Char) : Bool :=
  match cs.dropWhile isCaseIgnorable with
  | [] => false
  | c :: _ => isCased c

/-- Lower case of the characters that follow `before`, which is kept in
reverse. -/
def lowerFrom (before : List Char) : List Char → List Char
  | [] => []
  | c :: cs =>
    let low :=
      if c.toNat = 0x130 then ['i', Char.ofNat 0x307]
      else if c.toNat = 0x3A3 then
        if nextIsCased before && !nextIsCased cs then [Char.ofNat 0x3C2] else [Char.ofNat 0x3C3]
      else [lowerChar c]
    low ++ lowerFrom (c :: before) cs

/-- The lower case form of a text. -/
def lower (text : String) : String :=
  String.ofList (lowerFrom [] text.toList)

/-- Two words that are equal in lower case. -/
def sameWord (left right : String) : Bool :=
  lower left == lower right

/-! ## Capital letters -/

/-- The characters whose capital form is this ASCII capital letter: the
letter, its lower case form, and the long s for S and the dotless i for I. -/
def hasCapital (capital c : Char) : Bool :=
  c == capital || c == capital.toLower ||
    (c.toNat == 0x17F && capital == 'S') || (c.toNat == 0x131 && capital == 'I')

/-- The capital form of the text is the given text of ASCII capital letters. -/
def hasCapitals : List Char → List Char → Bool
  | [], [] => true
  | capital :: capitals, c :: cs => hasCapital capital c && hasCapitals capitals cs
  | _, _ => false

end Meteogram.Text
