import SchemaGraph.Text.Marks

/-!
# Direction of domain names

A name that mixes scripts of both directions must not be read in two ways. So when any character of
a name runs from right to left, each label has to keep to one direction: `Domain.keepsDirection`.
The tables hold for the characters that a domain name may hold.
-/

namespace SchemaGraph.Url.Domain

/-- The directional classes of characters. -/
inductive Direction where
  | left
  | right
  | arabicLetter
  | arabicNumber
  | europeanNumber
  | separator
  | terminator
  | neutral
  | mark
  deriving DecidableEq, Repr

/-- The ranges of the right-to-left letters outside the Arabic scripts. -/
def rightRanges : List (Nat × Nat) :=
  Text.ranges "
   5BE 5C0 5C3 5C6 5D0-5F4 7C0-7EA 7F4-7F5 7FA 7FE-815 81A 824 828 830-858 85E 10800-1091B
   10920-10A00 10A10-10A35 10A40-10AE4 10AEB-10B35 10B40-10CFF 10D4A-10D4F 10D6F-10D8F 10E80-10EA9
   10EAD-10EB1 10F00-10F27 10F70-10F81 10F86-10FF6 1E800-1E8CF 1E922-1E943 1E94B-1E95F"

/-- The ranges of the letters of the Arabic scripts. -/
def arabicLetterRanges : List (Nat × Nat) :=
  Text.ranges "
   608 60B 60D 61B-64A 66D-66F 671-6D5 6E5-6E6 6EE-6EF 6FA-710 712-72F 74D-7A5 7B1 860-88F 8A0-8C9
   FBB2-FBC2 FE73 10D00-10D23 10EC2-10EC7 10F30-10F45 10F51-10F59 1EC71-1ED3D"

/-- The ranges of the digits and number signs of the Arabic scripts. -/
def arabicNumberRanges : List (Nat × Nat) :=
  Text.ranges "
   660-669 66B-66C 10D30-10D49 10E60-10E7E"

/-- The ranges of the other digits that run from left to right in any text. -/
def europeanNumberRanges : List (Nat × Nat) :=
  Text.ranges "
   30-39 6F0-6F9 102E1-102FB"

/-- The ranges of the signs and points within numbers. -/
def separatorRanges : List (Nat × Nat) :=
  Text.ranges "
   2B-2F 3A 60C 2044 2212"

/-- The ranges of the signs beside numbers, such as those of currencies. -/
def terminatorRanges : List (Nat × Nat) :=
  Text.ranges "
   23-25 A2-A5 B0-B1 58F 609-60A 66A 9F2-9F3 9FB AF1 BF9 E3F 17DB 2030-2032 20A0-20C1 212E 2213
   A838-A839 11FDD-11FE0 1E2FF"

/-- The ranges of the characters without a direction of their own. -/
def neutralRanges : List (Nat × Nat) :=
  Text.ranges "
   0-8 E-1B 21-22 26-2A 3B-60 7B-A1 A6-AE B6-D7 F7 2B9-2BA 2C2-2CF 2D2-2ED 2EF-2FF 375 3F6 58A-58E
   606-607 60E-60F 6DE 6E9 7F6-7F9 BF3-BF8 BFA C78-C7E F3A-F3D 1390-1399 1400 169B-169C 17F0-180A
   1940-1945 19DE-19FF 200C-2027 2035-2043 2045-205E 2104-2129 213A-214D 218A-2211 2214-2335
   237B-2394 2396-26AB 26AD-27FF 2900-2BFF 2CE5-2CEA 2CF9-2CFF 2E00-3004 3008-3020 3030 3037
   303D-303F 30A0 30FB 31C0-31E5 4DC0-4DFF A490-A4C6 A60D-A60F A673 A67E-A67F A700-A721 A788
   A828-A82B A874-A877 AB6A-AB6B FBC3-FDFF FE45-FE46 10101 10140-1018C 10190-101A0 1091F
   10B39-10B3F 10D6E 10ED0-10ED8 11052-11065 11660-1166C 11FD5-11FDC 11FE1-11FF1 16FE2 1CC00-1CEF0
   1D1E9-1D241 1D245 1D300-1D356 1EEF0-1F12F 1F16D-1F16F 1F1AD 1F260-1FBFA"

/-- The nonspacing marks that have the direction of letters all the same. -/
def leftMarks : List Nat :=
  [0xCBF, 0xCC6, 0x11A07, 0x11A08, 0x11C3F]

/-- The directional classes that a table gives, with the tables. -/
def directionTables : List (Direction × List (Nat × Nat)) :=
  [(.right, rightRanges), (.arabicLetter, arabicLetterRanges), (.arabicNumber, arabicNumberRanges),
   (.europeanNumber, europeanNumberRanges), (.separator, separatorRanges),
   (.terminator, terminatorRanges), (.neutral, neutralRanges)]

/-- The directional class of a character. -/
def direction (c : Char) : Direction :=
  if Text.isNonspacing c && !leftMarks.contains c.toNat then .mark
  else match directionTables.find? fun entry => Text.inRanges entry.2 c.toNat with
    | some (found, _) => found
    | none => .left

/-- Whether a class makes a name run from right to left. -/
def Direction.isRightward : Direction → Bool
  | .right | .arabicLetter | .arabicNumber => true
  | _ => false

/-- Whether a class may stand in a label that runs from left to right. -/
def Direction.suitsLeft : Direction → Bool
  | .right | .arabicLetter | .arabicNumber => false
  | _ => true

/-- Whether a class may end a label that runs from left to right. -/
def Direction.endsLeft : Direction → Bool
  | .left | .europeanNumber => true
  | _ => false

/-- Whether a class may end a label that runs from right to left. -/
def Direction.endsRight : Direction → Bool
  | .right | .arabicLetter | .arabicNumber | .europeanNumber => true
  | _ => false

/-- Whether a label keeps to the direction of its first character, which has to be a letter. Marks
after the end do not count, and numbers of both kinds do not go together. -/
def keepsDirection (label : List Char) : Bool :=
  let classes := label.map direction
  let ending := (classes.reverse.dropWhile (· = .mark)).head?
  match classes.head? with
  | none => true
  | some .left => classes.all Direction.suitsLeft && ending.any Direction.endsLeft
  | some .right | some .arabicLetter =>
      classes.all (· ≠ .left) && ending.any Direction.endsRight &&
        !(classes.contains .europeanNumber && classes.contains .arabicNumber)
  | some _ => false

/-- Whether a text holds a character that runs from right to left. None does in ASCII. -/
def hasRightward (text : List Char) : Bool :=
  text.any fun c => c.toNat ≥ 0x80 && (direction c).isRightward

end SchemaGraph.Url.Domain
