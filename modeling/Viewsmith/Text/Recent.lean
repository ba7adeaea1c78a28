import Viewsmith.Text.Ranges

/-!
# Recent letters and numerals

The tables of letters and numerals follow the seventeenth edition of the character standard. This
table has those that are new in it, so that a class can be kept to the edition before.
-/

namespace Viewsmith.Text

/-- The code points of the letters and numerals of the seventeenth edition that the sixteenth does
not have. -/
def recentRanges : List (Nat × Nat) :=
  [
   (0x88f, 0x88f), (0xc5c, 0xc5c), (0xcdc, 0xcdc), (0xa7ce, 0xa7cf), (0xa7d2, 0xa7d2),
   (0xa7d4, 0xa7d4), (0xa7f1, 0xa7f1), (0x10940, 0x10959), (0x10ec5, 0x10ec7),
   (0x11db0, 0x11ddb), (0x11de0, 0x11de9), (0x16ea0, 0x16eb8), (0x16ebb, 0x16ed3),
   (0x16ff2, 0x16ff6), (0x187f8, 0x187ff), (0x18d09, 0x18d1e), (0x18d80, 0x18df2),
   (0x1e6c0, 0x1e6de), (0x1e6e0, 0x1e6e2), (0x1e6e4, 0x1e6e5), (0x1e6e7, 0x1e6ed),
   (0x1e6f0, 0x1e6f4), (0x1e6fe, 0x1e6ff), (0x2b73a, 0x2b73f), (0x2cea2, 0x2cead),
   (0x323b0, 0x33479)]

/-- Whether a letter or numeral is new in the seventeenth edition. -/
def isRecent (c : Char) : Bool := inRanges recentRanges c.toNat

end Viewsmith.Text
