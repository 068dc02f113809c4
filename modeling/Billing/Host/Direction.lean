import Billing.Text.Mark

/-!
# Writing directions

The direction in which the letters of a name are written. A name that is written from right to left
holds no letters of the other direction and ends in a letter or a digit (`isWellDirected`).

* `isWellDirected_nil`: a name without letters has no direction to break.
-/

namespace Billing.Host

open Text (Blocks isInBlocks)

/-- How a character of a name is written. -/
inductive Direction where
  | leftToRight
  | rightToLeft
  /-- Digits of any script but Arabic. -/
  | number
  | arabicNumber
  /-- Marks, which go with the character before them. -/
  | mark
  | neutral
  deriving DecidableEq, Repr

/-- The characters of scripts that are written from right to left. -/
def rightToLeftBlocks : Blocks :=
  [(0x590, 0x8FF), (0xFB1E, 0xFB1E), (0xFE73, 0xFE73), (0x10800, 0x10FFF), (0x1E800, 0x1EFFF)]

/-- The digits of Arabic and Rohingya. -/
def arabicNumberBlocks : Blocks := [(0x660, 0x669), (0x10D30, 0x10D39)]

/-- The other digits that are numbers in any direction. -/
def numberBlocks : Blocks := [(0x30, 0x39), (0x6F0, 0x6F9)]

/-- Signs without a direction. -/
def neutralBlocks : Blocks :=
  [(0x2D, 0x2D), (0xB7, 0xB7), (0x2B9, 0x2BA), (0x2C6, 0x2CF), (0x2EC, 0x2EC), (0x375, 0x375),
    (0x2E2F, 0x2E2F), (0x30FB, 0x30FB), (0xA67F, 0xA67F), (0xA717, 0xA71F), (0xA788, 0xA788)]

/-- The direction of a character that may stand in names. -/
def direction (c : Char) : Direction :=
  if Text.isMark c && !Text.isSpacing c then .mark
  else if isInBlocks numberBlocks c then .number
  else if isInBlocks arabicNumberBlocks c then .arabicNumber
  else if isInBlocks neutralBlocks c || c = '\u200C' || c = '\u200D' then .neutral
  else if isInBlocks rightToLeftBlocks c then .rightToLeft
  else .leftToRight

/-- Whether the directions of a name's characters go together. -/
def isWellDirected (name : List Char) : Bool :=
  let directions := name.map direction
  let goesLeft := directions.contains .rightToLeft || directions.contains .arabicNumber
  let last := (directions.reverse.dropWhile (· = .mark)).head?
  !goesLeft ||
    directions.head? = some .rightToLeft && !directions.contains .leftToRight &&
      !(directions.contains .number && directions.contains .arabicNumber) &&
      last.any [Direction.rightToLeft, .number, .arabicNumber].contains

theorem isWellDirected_nil : isWellDirected [] = true := rfl

end Billing.Host
