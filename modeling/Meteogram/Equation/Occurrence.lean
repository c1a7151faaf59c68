import Meteogram.Text.Case

/-!
# Words inside a text

A word occurs at a place of a text if it is written there in any letter case,
with no word character or point in front of it and no word character or opening
square bracket after it. So a keyword does not occur inside a longer one, nor
where it is indexed already.
-/

set_option autoImplicit false

namespace Meteogram.Equation

open Meteogram.Text

/-- A word may begin after this character. -/
def opensWord : Option Char → Bool
  | none => true
  | some c => !(isWordChar c || c == '.')

/-- A word may end in front of this text. -/
def closesWord : List Char → Bool
  | [] => true
  | c :: _ => !(isWordChar c || c == '[')

/-- The text after the word, if it starts with the word in any letter case. -/
def afterWord? : List Char → List Char → Option (List Char)
  | [], cs => some cs
  | _ :: _, [] => none
  | w :: word, c :: cs =>
    if caselessKey w = caselessKey c then afterWord? word cs else none

/-- The word occurs at the start of the text that follows the character
`before`. -/
def occursHere (word : List Char) (before : Option Char) (text : List Char) : Bool :=
  opensWord before && ((afterWord? word text).map closesWord).getD false

/-- The word occurs somewhere in the text that follows the character
`before`. -/
def occursFrom (word : List Char) (before : Option Char) : List Char → Bool
  | [] => occursHere word before []
  | c :: cs => occursHere word before (c :: cs) || occursFrom word (some c) cs

/-- The word occurs in the text. -/
def occurs (word text : String) : Bool :=
  occursFrom word.toList none text.toList

/-- Replaces the occurrences of the word from the left; `skip` characters of
the last occurrence are still to be passed over. -/
def replaceFrom (word new : List Char) (before : Option Char) (skip : Nat) :
    List Char → List Char
  | [] => if skip = 0 && occursHere word before [] then new else []
  | c :: cs =>
    match skip with
    | skip + 1 => replaceFrom word new (some c) skip cs
    | 0 =>
      if occursHere word before (c :: cs) then
        match word with
        | [] => new ++ c :: replaceFrom word new (some c) 0 cs
        | _ :: more => new ++ replaceFrom word new (some c) more.length cs
      else c :: replaceFrom word new (some c) 0 cs

/-- Replaces each occurrence of the word. -/
def replaceWord (word new text : List Char) : List Char :=
  replaceFrom word new none 0 text

end Meteogram.Equation
