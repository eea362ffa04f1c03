import ExceptionFlow.Text.Property

set_option autoImplicit false

/-! # Characters of Unicode 17

Classes of characters by Unicode 17, for the places that know that version: the classes of Unicode
16 and what was added since. -/

namespace ExceptionFlow.Text

/-- The alphabetic characters that are new. -/
def newAlphabetic : CharSet := .ofTable
  ["88F C5C CDC A7CE-A7CF A7D2 A7D4 A7F1 10940-10959 10EC5-10EC7 10EFA-10EFB 11B60-11B67",
   "11DB0-11DDB 16EA0-16EB8 16EBB-16ED3 16FF2-16FF6 187F8-187FF 18D09-18D1E 18D80-18DF2",
   "1E6C0-1E6DE 1E6E0-1E6F5 1E6FE-1E6FF 2B73A-2B73F 2CEA2-2CEAD 323B0-33479"]

/-- The numbers that are new. -/
def newNumbers : CharSet := .ofTable ["11DE0-11DE9 16FF4-16FF6"]

/-- The new characters that show: all but marks that join the character before them. -/
def newVisible : CharSet := .ofTable
  ["88F C5C CDC 20C1 2B96 A7CE-A7CF A7D2 A7D4 A7F1 FBC3-FBD2 FD90-FD91 FDC8-FDCE 10940-10959",
   "10EC5-10EC7 10ED0-10ED8 11B61 11B65 11B67 11DB0-11DDB 11DE0-11DE9 16EA0-16EB8 16EBB-16ED3",
   "16FF2-16FF6 187F8-187FF 18D09-18D1E 18D80-18DF2 1CCFA-1CCFC 1CEBA-1CED0 1CEE0-1CEF0",
   "1E6C0-1E6DE 1E6E0-1E6E2 1E6E4-1E6E5 1E6E7-1E6ED 1E6F0-1E6F4 1E6FE-1E6FF 1F6D8 1F777-1F77A",
   "1F8D0-1F8D8 1FA54-1FA57 1FA8A 1FA8E 1FAC8 1FACD 1FAEA 1FAEF 1FBFA 2B73A-2B73F 2CEA2-2CEAD",
   "323B0-33479"]

/-- Letters and other alphabetic characters. -/
def currentAlphabetic : CharSet := alphabetic.union newAlphabetic

/-- Alphabetic characters and numbers. -/
def currentAlphanumeric : CharSet := .unionAll [currentAlphabetic, numbers, newNumbers]

/-- What does not show by itself: controls, formats, unassigned and private characters, separators
    other than the space, ignorable characters, and marks that join the character before them. -/
def unprintables : CharSet :=
  (CharSet.unionAll [others, separators.difference (.single ' '), defaultIgnorable,
    graphemeExtend.inter marks]).difference newVisible

def isUnprintable (c : Char) : Bool := unprintables.contains c

end ExceptionFlow.Text
