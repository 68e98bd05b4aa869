import CallPlan.Text.Boundaries

/-!
# CallPlan.Text.Script

Characters by the script they belong to.
-/

namespace CallPlan

namespace Text

/-- The boundaries of the Greek script. -/
def greekBoundaries : List Nat :=
  [0x370, 0x374, 0x375, 0x378, 0x37a, 0x37e, 0x37f, 0x380, 0x384, 0x385, 0x386, 0x387, 0x388,
   0x38b, 0x38c, 0x38d, 0x38e, 0x3a2, 0x3a3, 0x3e2, 0x3f0, 0x400, 0x1d26, 0x1d2b, 0x1d5d, 0x1d62,
   0x1d66, 0x1d6b, 0x1dbf, 0x1dc0, 0x1f00, 0x1f16, 0x1f18, 0x1f1e, 0x1f20, 0x1f46, 0x1f48, 0x1f4e,
   0x1f50, 0x1f58, 0x1f59, 0x1f5a, 0x1f5b, 0x1f5c, 0x1f5d, 0x1f5e, 0x1f5f, 0x1f7e, 0x1f80, 0x1fb5,
   0x1fb6, 0x1fc5, 0x1fc6, 0x1fd4, 0x1fd6, 0x1fdc, 0x1fdd, 0x1ff0, 0x1ff2, 0x1ff5, 0x1ff6, 0x1fff,
   0x2126, 0x2127, 0xab65, 0xab66, 0x10140, 0x1018f, 0x101a0, 0x101a1, 0x1d200, 0x1d246]

/-- The boundaries of the Hebrew script. -/
def hebrewBoundaries : List Nat :=
  [0x591, 0x5c8, 0x5d0, 0x5eb, 0x5ef, 0x5f5, 0xfb1d, 0xfb37, 0xfb38, 0xfb3d, 0xfb3e, 0xfb3f,
   0xfb40, 0xfb42, 0xfb43, 0xfb45, 0xfb46, 0xfb50]

/-- The boundaries of the scripts that Japanese is written in. -/
def japaneseBoundaries : List Nat :=
  [0x2e80, 0x2e9a, 0x2e9b, 0x2ef4, 0x2f00, 0x2fd6, 0x3005, 0x3006, 0x3007, 0x3008, 0x3021, 0x302a,
   0x3038, 0x303c, 0x3041, 0x3097, 0x309d, 0x30a0, 0x30a1, 0x30fb, 0x30fd, 0x3100, 0x31f0, 0x3200,
   0x32d0, 0x32ff, 0x3300, 0x3358, 0x3400, 0x4dc0, 0x4e00, 0xa000, 0xf900, 0xfa6e, 0xfa70, 0xfada,
   0xff66, 0xff70, 0xff71, 0xff9e, 0x16fe2, 0x16fe4, 0x16ff0, 0x16ff2, 0x1aff0, 0x1aff4, 0x1aff5,
   0x1affc, 0x1affd, 0x1afff, 0x1b000, 0x1b123, 0x1b132, 0x1b133, 0x1b150, 0x1b153, 0x1b155,
   0x1b156, 0x1b164, 0x1b168, 0x1f200, 0x1f201, 0x20000, 0x2a6e0, 0x2a700, 0x2b73a, 0x2b740,
   0x2b81e, 0x2b820, 0x2cea2, 0x2ceb0, 0x2ebe1, 0x2ebf0, 0x2ee5e, 0x2f800, 0x2fa1e, 0x30000,
   0x3134b, 0x31350, 0x323b0]

/-- Whether a character is Greek. -/
def isGreek (c : Char) : Bool := isWithin greekBoundaries c

/-- Whether a character is Hebrew. -/
def isHebrew (c : Char) : Bool := isWithin hebrewBoundaries c

/-- Whether a character is one that Japanese is written with. -/
def isJapanese (c : Char) : Bool := isWithin japaneseBoundaries c

end Text

end CallPlan
