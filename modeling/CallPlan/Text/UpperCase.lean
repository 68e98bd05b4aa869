import CallPlan.Text.Blank
import CallPlan.Text.Decomposition
import CallPlan.Text.LowerCase

/-!
# CallPlan.Text.UpperCase

Capitals and other forms of letters with case, in every script.

* Most small letters are the ones that stand for some capital (`capitalRuns`), and have it as their
  capital. What else has a capital is listed, some of it with several characters.
* At the start of a word some letters have a form of their own, of which only a part is a capital.
* Folding leaves out what tells letters apart that differ in case alone; it mostly gives the small
  letter.
* Letters of either case also count as such where they have no other form, in alphabets for formulas
  above all.
-/

namespace CallPlan

namespace Text

/-- What stands for some characters: runs of characters with the distance to what stands for each,
and single characters with all that stands for them. -/
structure Forms where
  runs : List (Nat × Nat × Int)
  singles : List (Nat × List Nat)

namespace Forms

/-- The single characters that a text lists in hexadecimal digits, each with an equals sign before
what stands for it. -/
def listed (text : String) : List (Nat × List Nat) :=
  (words text).map fun word =>
    let cs := word.toList
    let key := cs.takeWhile (· ≠ '=')
    (Decomposition.hexNumber key, Decomposition.hexNumbers '.' (cs.drop (key.length + 1)))

/-- What stands for a character, if anything is listed. -/
def find? (forms : Forms) (n : Nat) : Option (List Nat) :=
  match forms.runs.find? fun (first, last, _) => first ≤ n && n ≤ last with
  | some (_, _, distance) => some [(n + distance).toNat]
  | none => List.lookup n forms.singles

end Forms

/-! ## Capitals -/

/-- The capitals that are not found by what their small letters are. -/
def capitalForms : Forms :=
  ⟨[],
    Forms.listed
      "b5=39c df=53.53 131=49 149=2bc.4e 17f=53 1c5=1c4 1c8=1c7 1cb=1ca 1f0=4a.30c 1f2=1f1 345=399
    390=399.308.301 3b0=3a5.308.301 3c2=3a3 3d0=392 3d1=398 3d5=3a6 3d6=3a0 3f0=39a 3f1=3a1
    3f5=395 587=535.552 1c80=412 1c81=414 1c82=41e 1c83=421 1c84=422 1c85=422 1c86=42a 1c87=462
    1c88=a64a 1e96=48.331 1e97=54.308 1e98=57.30a 1e99=59.30a 1e9a=41.2be 1e9b=1e60 1f50=3a5.313
    1f52=3a5.313.300 1f54=3a5.313.301 1f56=3a5.313.342 1f80=1f08.399 1f81=1f09.399 1f82=1f0a.399
    1f83=1f0b.399 1f84=1f0c.399 1f85=1f0d.399 1f86=1f0e.399 1f87=1f0f.399 1f88=1f08.399
    1f89=1f09.399 1f8a=1f0a.399 1f8b=1f0b.399 1f8c=1f0c.399 1f8d=1f0d.399 1f8e=1f0e.399
    1f8f=1f0f.399 1f90=1f28.399 1f91=1f29.399 1f92=1f2a.399 1f93=1f2b.399 1f94=1f2c.399
    1f95=1f2d.399 1f96=1f2e.399 1f97=1f2f.399 1f98=1f28.399 1f99=1f29.399 1f9a=1f2a.399
    1f9b=1f2b.399 1f9c=1f2c.399 1f9d=1f2d.399 1f9e=1f2e.399 1f9f=1f2f.399 1fa0=1f68.399
    1fa1=1f69.399 1fa2=1f6a.399 1fa3=1f6b.399 1fa4=1f6c.399 1fa5=1f6d.399 1fa6=1f6e.399
    1fa7=1f6f.399 1fa8=1f68.399 1fa9=1f69.399 1faa=1f6a.399 1fab=1f6b.399 1fac=1f6c.399
    1fad=1f6d.399 1fae=1f6e.399 1faf=1f6f.399 1fb2=1fba.399 1fb3=391.399 1fb4=386.399
    1fb6=391.342 1fb7=391.342.399 1fbc=391.399 1fbe=399 1fc2=1fca.399 1fc3=397.399 1fc4=389.399
    1fc6=397.342 1fc7=397.342.399 1fcc=397.399 1fd2=399.308.300 1fd3=399.308.301 1fd6=399.342
    1fd7=399.308.342 1fe2=3a5.308.300 1fe3=3a5.308.301 1fe4=3a1.313 1fe6=3a5.342 1fe7=3a5.308.342
    1ff2=1ffa.399 1ff3=3a9.399 1ff4=38f.399 1ff6=3a9.342 1ff7=3a9.342.399 1ffc=3a9.399 fb00=46.46
    fb01=46.49 fb02=46.4c fb03=46.46.49 fb04=46.46.4c fb05=53.54 fb06=53.54 fb13=544.546
    fb14=544.535 fb15=544.53b fb16=54e.546 fb17=544.53d"⟩

/-- The capital of a character; other characters stay as they are. -/
def capital (n : Nat) : List Nat :=
  match capitalForms.find? n with
  | some form => form
  | none =>
    match capitalRuns.find? fun (first, last, step, distance) =>
        let capital : Int := n - distance
        first ≤ capital && capital ≤ last && (capital - first) % step = 0 with
    | some (_, _, _, distance) => [((n : Int) - distance).toNat]
    | none => [n]

/-- The forms at the start of a word that are no capitals. -/
def leadingForms : Forms :=
  ⟨[(0x10d0, 0x10fa, 0), (0x1f80, 0x1f87, 8), (0x1f88, 0x1f8f, 0), (0x1f90, 0x1f97, 8),
   (0x1f98, 0x1f9f, 0), (0x1fa0, 0x1fa7, 8), (0x1fa8, 0x1faf, 0)],
    Forms.listed
      "df=53.73 1c4=1c5 1c5=1c5 1c6=1c5 1c7=1c8 1c8=1c8 1c9=1c8 1ca=1cb 1cb=1cb 1cc=1cb 1f1=1f2
    1f2=1f2 1f3=1f2 587=535.582 10fd=10fd 10fe=10fe 10ff=10ff 1fb2=1fba.345 1fb3=1fbc
    1fb4=386.345 1fb7=391.342.345 1fbc=1fbc 1fc2=1fca.345 1fc3=1fcc 1fc4=389.345 1fc7=397.342.345
    1fcc=1fcc 1ff2=1ffa.345 1ff3=1ffc 1ff4=38f.345 1ff7=3a9.342.345 1ffc=1ffc fb00=46.66
    fb01=46.69 fb02=46.6c fb03=46.66.69 fb04=46.66.6c fb05=53.74 fb06=53.74 fb13=544.576
    fb14=544.565 fb15=544.56b fb16=54e.576 fb17=544.56d"⟩

/-- A character at the start of a word. -/
def leading (n : Nat) : List Nat := (leadingForms.find? n).getD (capital n)

/-! ## Folding -/

/-- What characters are folded to that do not fold to their small letters. -/
def foldedForms : Forms :=
  ⟨[(0x13a0, 0x13f5, 0), (0x13f8, 0x13fd, -8), (0xab70, 0xabbf, -38864)],
    Forms.listed
      "b5=3bc df=73.73 149=2bc.6e 17f=73 1f0=6a.30c 345=3b9 390=3b9.308.301 3b0=3c5.308.301 3c2=3c3
    3d0=3b2 3d1=3b8 3d5=3c6 3d6=3c0 3f0=3ba 3f1=3c1 3f5=3b5 587=565.582 1c80=432 1c81=434
    1c82=43e 1c83=441 1c84=442 1c85=442 1c86=44a 1c87=463 1c88=a64b 1e96=68.331 1e97=74.308
    1e98=77.30a 1e99=79.30a 1e9a=61.2be 1e9b=1e61 1e9e=73.73 1f50=3c5.313 1f52=3c5.313.300
    1f54=3c5.313.301 1f56=3c5.313.342 1f80=1f00.3b9 1f81=1f01.3b9 1f82=1f02.3b9 1f83=1f03.3b9
    1f84=1f04.3b9 1f85=1f05.3b9 1f86=1f06.3b9 1f87=1f07.3b9 1f88=1f00.3b9 1f89=1f01.3b9
    1f8a=1f02.3b9 1f8b=1f03.3b9 1f8c=1f04.3b9 1f8d=1f05.3b9 1f8e=1f06.3b9 1f8f=1f07.3b9
    1f90=1f20.3b9 1f91=1f21.3b9 1f92=1f22.3b9 1f93=1f23.3b9 1f94=1f24.3b9 1f95=1f25.3b9
    1f96=1f26.3b9 1f97=1f27.3b9 1f98=1f20.3b9 1f99=1f21.3b9 1f9a=1f22.3b9 1f9b=1f23.3b9
    1f9c=1f24.3b9 1f9d=1f25.3b9 1f9e=1f26.3b9 1f9f=1f27.3b9 1fa0=1f60.3b9 1fa1=1f61.3b9
    1fa2=1f62.3b9 1fa3=1f63.3b9 1fa4=1f64.3b9 1fa5=1f65.3b9 1fa6=1f66.3b9 1fa7=1f67.3b9
    1fa8=1f60.3b9 1fa9=1f61.3b9 1faa=1f62.3b9 1fab=1f63.3b9 1fac=1f64.3b9 1fad=1f65.3b9
    1fae=1f66.3b9 1faf=1f67.3b9 1fb2=1f70.3b9 1fb3=3b1.3b9 1fb4=3ac.3b9 1fb6=3b1.342
    1fb7=3b1.342.3b9 1fbc=3b1.3b9 1fbe=3b9 1fc2=1f74.3b9 1fc3=3b7.3b9 1fc4=3ae.3b9 1fc6=3b7.342
    1fc7=3b7.342.3b9 1fcc=3b7.3b9 1fd2=3b9.308.300 1fd3=3b9.308.301 1fd6=3b9.342 1fd7=3b9.308.342
    1fe2=3c5.308.300 1fe3=3c5.308.301 1fe4=3c1.313 1fe6=3c5.342 1fe7=3c5.308.342 1ff2=1f7c.3b9
    1ff3=3c9.3b9 1ff4=3ce.3b9 1ff6=3c9.342 1ff7=3c9.342.3b9 1ffc=3c9.3b9 fb00=66.66 fb01=66.69
    fb02=66.6c fb03=66.66.69 fb04=66.66.6c fb05=73.74 fb06=73.74 fb13=574.576 fb14=574.565
    fb15=574.56b fb16=57e.576 fb17=574.56d"⟩

/-- A character without what tells it apart from those that differ in case alone. -/
def folded (n : Nat) : List Nat :=
  (foldedForms.find? n).getD ((lowerChar (Char.ofNat n)).map Char.toNat)

/-! ## Kinds of letters -/

/-- The boundaries of the class of letters that only stand at the start of a word. -/
def leadingBoundaries : List Nat :=
  [0x1c5, 0x1c6, 0x1c8, 0x1c9, 0x1cb, 0x1cc, 0x1f2, 0x1f3, 0x1f88, 0x1f90, 0x1f98, 0x1fa0,
   0x1fa8, 0x1fb0, 0x1fbc, 0x1fbd, 0x1fcc, 0x1fcd, 0x1ffc, 0x1ffd]

/-- The boundaries of the class of small letters without capitals. -/
def loneSmallBoundaries : List Nat :=
  [0xaa, 0xab, 0xba, 0xbb, 0x138, 0x139, 0x18d, 0x18e, 0x19b, 0x19c, 0x1aa, 0x1ac, 0x1ba, 0x1bb,
   0x1be, 0x1bf, 0x221, 0x222, 0x234, 0x23a, 0x255, 0x256, 0x258, 0x259, 0x25a, 0x25b, 0x25d,
   0x260, 0x262, 0x263, 0x264, 0x265, 0x267, 0x268, 0x26d, 0x26f, 0x270, 0x271, 0x273, 0x275,
   0x276, 0x27d, 0x27e, 0x280, 0x281, 0x282, 0x284, 0x287, 0x28d, 0x292, 0x293, 0x294, 0x295,
   0x29d, 0x29f, 0x2b9, 0x2c0, 0x2c2, 0x2e0, 0x2e5, 0x37a, 0x37b, 0x3fc, 0x3fd, 0x560, 0x561,
   0x588, 0x589, 0x1d00, 0x1d79, 0x1d7a, 0x1d7d, 0x1d7e, 0x1d8e, 0x1d8f, 0x1dc0, 0x1e9c, 0x1e9e,
   0x1e9f, 0x1ea0, 0x2071, 0x2072, 0x207f, 0x2080, 0x2090, 0x209d, 0x210a, 0x210b, 0x210e,
   0x2110, 0x2113, 0x2114, 0x212f, 0x2130, 0x2134, 0x2135, 0x2139, 0x213a, 0x213c, 0x213e,
   0x2146, 0x214a, 0x2c71, 0x2c72, 0x2c74, 0x2c75, 0x2c77, 0x2c7e, 0x2ce4, 0x2ce5, 0xa69c,
   0xa69e, 0xa730, 0xa732, 0xa770, 0xa779, 0xa78e, 0xa78f, 0xa795, 0xa796, 0xa7af, 0xa7b0,
   0xa7d3, 0xa7d4, 0xa7d5, 0xa7d6, 0xa7f8, 0xa7fb, 0xab30, 0xab53, 0xab54, 0xab5b, 0xab5c,
   0xab69, 0x10780, 0x10781, 0x10783, 0x10786, 0x10787, 0x107b1, 0x107b2, 0x107bb, 0x1d41a,
   0x1d434, 0x1d44e, 0x1d455, 0x1d456, 0x1d468, 0x1d482, 0x1d49c, 0x1d4b6, 0x1d4ba, 0x1d4bb,
   0x1d4bc, 0x1d4bd, 0x1d4c4, 0x1d4c5, 0x1d4d0, 0x1d4ea, 0x1d504, 0x1d51e, 0x1d538, 0x1d552,
   0x1d56c, 0x1d586, 0x1d5a0, 0x1d5ba, 0x1d5d4, 0x1d5ee, 0x1d608, 0x1d622, 0x1d63c, 0x1d656,
   0x1d670, 0x1d68a, 0x1d6a6, 0x1d6c2, 0x1d6db, 0x1d6dc, 0x1d6e2, 0x1d6fc, 0x1d715, 0x1d716,
   0x1d71c, 0x1d736, 0x1d74f, 0x1d750, 0x1d756, 0x1d770, 0x1d789, 0x1d78a, 0x1d790, 0x1d7aa,
   0x1d7c3, 0x1d7c4, 0x1d7ca, 0x1d7cb, 0x1d7cc, 0x1df00, 0x1df0a, 0x1df0b, 0x1df1f]

/-- The boundaries of the class of capitals without small letters. -/
def loneCapitalBoundaries : List Nat :=
  [0x3d2, 0x3d5, 0x2102, 0x2103, 0x2107, 0x2108, 0x210b, 0x210e, 0x2110, 0x2113, 0x2115, 0x2116,
   0x2119, 0x211e, 0x2124, 0x2125, 0x2128, 0x2129, 0x212c, 0x212e, 0x2130, 0x2132, 0x2133,
   0x2134, 0x213e, 0x2140, 0x2145, 0x2146, 0x1d400, 0x1d41a, 0x1d434, 0x1d44e, 0x1d468, 0x1d482,
   0x1d49c, 0x1d49d, 0x1d49e, 0x1d4a0, 0x1d4a2, 0x1d4a3, 0x1d4a5, 0x1d4a7, 0x1d4a9, 0x1d4ad,
   0x1d4ae, 0x1d4b6, 0x1d4d0, 0x1d4ea, 0x1d504, 0x1d506, 0x1d507, 0x1d50b, 0x1d50d, 0x1d515,
   0x1d516, 0x1d51d, 0x1d538, 0x1d53a, 0x1d53b, 0x1d53f, 0x1d540, 0x1d545, 0x1d546, 0x1d547,
   0x1d54a, 0x1d551, 0x1d56c, 0x1d586, 0x1d5a0, 0x1d5ba, 0x1d5d4, 0x1d5ee, 0x1d608, 0x1d622,
   0x1d63c, 0x1d656, 0x1d670, 0x1d68a, 0x1d6a8, 0x1d6c1, 0x1d6e2, 0x1d6fb, 0x1d71c, 0x1d735,
   0x1d756, 0x1d76f, 0x1d790, 0x1d7a9, 0x1d7ca, 0x1d7cb, 0x1f130, 0x1f14a, 0x1f150, 0x1f16a,
   0x1f170, 0x1f18a]

/-- Whether a character is a form of a letter that only stands at the start of a word. -/
def isLeading (n : Nat) : Bool := isWithin leadingBoundaries (Char.ofNat n)

/-- Whether a character is a small letter. -/
def isSmall (n : Nat) : Bool :=
  (capital n ≠ [n] && !isLeading n) || isWithin loneSmallBoundaries (Char.ofNat n)

/-- Whether a character is a capital. -/
def isCapital (n : Nat) : Bool :=
  let c := Char.ofNat n
  (lowerChar c ≠ [c] && !isLeading n) || isWithin loneCapitalBoundaries c

end Text

end CallPlan
