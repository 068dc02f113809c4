import Billing.Text.Mark

/-!
# Characters in context

Some characters may stand in names only next to certain others (`contextRule?`): signs beside
letters of their script, and digits of one kind at a time. Joiners stand between letters that join
(`joinerRule?`).

* `joinerRule?_mark`: the zero-width joiner stands behind a mark that joins.
-/

namespace Billing.Host

open Text (Blocks isInBlocks)

/-- Letters that join those on both sides. -/
def bothJoining : Blocks :=
  [(0x620, 0x620), (0x626, 0x626), (0x628, 0x628), (0x62A, 0x62E), (0x633, 0x647),
    (0x649, 0x64A), (0x66E, 0x66F), (0x679, 0x687), (0x69A, 0x6BF), (0x6C1, 0x6C2),
    (0x6CC, 0x6CC), (0x6CE, 0x6CE), (0x6D0, 0x6D1), (0x6FA, 0x6FC), (0x6FF, 0x6FF),
    (0x712, 0x714), (0x71A, 0x71D), (0x71F, 0x727), (0x729, 0x729), (0x72B, 0x72B),
    (0x72D, 0x72E), (0x74E, 0x758), (0x75C, 0x76A), (0x76D, 0x770), (0x772, 0x772),
    (0x775, 0x777), (0x77A, 0x77F), (0x7CA, 0x7EA), (0x841, 0x845), (0x848, 0x848),
    (0x84A, 0x853), (0x855, 0x855), (0x860, 0x860), (0x862, 0x865), (0x868, 0x868),
    (0x886, 0x886), (0x889, 0x88D), (0x8A0, 0x8A9), (0x8AF, 0x8B0), (0x8B3, 0x8B8),
    (0x8BA, 0x8C8), (0x1820, 0x1878), (0x1887, 0x18AA), (0xA840, 0xA871), (0x10AC0, 0x10AC4),
    (0x10AD3, 0x10AD6), (0x10AD8, 0x10ADC), (0x10ADE, 0x10AE0), (0x10B80, 0x10B80),
    (0x10B82, 0x10B82), (0x10B86, 0x10B88), (0x10B8A, 0x10B8B), (0x10B8D, 0x10B8D),
    (0x10B90, 0x10B90), (0x10D01, 0x10D21), (0x10D23, 0x10D23), (0x10F30, 0x10F32),
    (0x10F34, 0x10F44), (0x10F70, 0x10F73), (0x10F76, 0x10FB0), (0x10FB2, 0x10FB3),
    (0x10FB8, 0x10FB8), (0x10FBB, 0x10FBC), (0x10FBE, 0x10FBF), (0x10FC1, 0x10FC1),
    (0x10FC4, 0x10FC4), (0x1E922, 0x1E943)]

/-- Letters that join only the one behind them. -/
def nextJoining : Blocks :=
  [(0xA872, 0xA872), (0x10ACD, 0x10ACD), (0x10AD7, 0x10AD7), (0x10D00, 0x10D00)]

/-- Letters that join only the one before them. -/
def backJoining : Blocks :=
  [(0x622, 0x625), (0x627, 0x627), (0x629, 0x629), (0x62F, 0x632), (0x648, 0x648),
    (0x671, 0x673), (0x688, 0x699), (0x6C0, 0x6C0), (0x6C3, 0x6CB), (0x6CD, 0x6CD),
    (0x6CF, 0x6CF), (0x6D2, 0x6D5), (0x6EE, 0x6EF), (0x710, 0x710), (0x715, 0x719),
    (0x71E, 0x71E), (0x728, 0x728), (0x72A, 0x72A), (0x72C, 0x72C), (0x72F, 0x74D),
    (0x759, 0x75B), (0x76B, 0x76C), (0x771, 0x771), (0x773, 0x774), (0x778, 0x779),
    (0x840, 0x840), (0x846, 0x847), (0x849, 0x849), (0x854, 0x854), (0x856, 0x858),
    (0x867, 0x867), (0x869, 0x882), (0x88E, 0x88E), (0x8AA, 0x8AC), (0x8AE, 0x8AE),
    (0x8B1, 0x8B2), (0x8B9, 0x8B9), (0x10AC5, 0x10AC5), (0x10AC7, 0x10ACA), (0x10ACE, 0x10AD2),
    (0x10ADD, 0x10ADD), (0x10AE1, 0x10AE1), (0x10AE4, 0x10AE4), (0x10B81, 0x10B81),
    (0x10B83, 0x10B85), (0x10B89, 0x10B89), (0x10B8C, 0x10B8C), (0x10B8E, 0x10B8F),
    (0x10B91, 0x10B91), (0x10D22, 0x10D22), (0x10F33, 0x10F33), (0x10F74, 0x10F75),
    (0x10FB4, 0x10FB6), (0x10FB9, 0x10FBA), (0x10FBD, 0x10FBD), (0x10FC2, 0x10FC3)]

/-- The class of the marks that join two letters. -/
def joinerClass : Nat := 9

/-- Whether a character is a mark that joins two letters. -/
def isJoinerMark (c : Char) : Bool := Text.markClass c = joinerClass

/-- Whether joining passes over a character. -/
def isPassedOver (c : Char) : Bool := Text.isMark c && !Text.isSpacing c

/-- The Greek letters. -/
def greekBlocks : Blocks :=
  [(0x371, 0x3E1), (0x3F3, 0x3FC), (0x1D26, 0x1D2A), (0x1F00, 0x1FF6),
    (0xAB65, 0xAB65)]

/-- The Hebrew letters. -/
def hebrewBlocks : Blocks := [(0x591, 0x5F4), (0xFB1E, 0xFB1E)]

/-- The characters of Japanese. -/
def japaneseBlocks : Blocks :=
  [(0x3005, 0x3005), (0x3007, 0x3007), (0x3041, 0x3096), (0x309D, 0x30FA), (0x30FD, 0x30FE),
    (0x31F0, 0x9FFF), (0xFA0E, 0xFA29), (0x16FE3, 0x16FE3), (0x16FF0, 0x16FF1),
    (0x1AFF0, 0x1B167), (0x20000, 0x3134A)]

/-- The digits of Arabic. -/
def arabicDigits : Blocks := [(0x660, 0x669)]

/-- The digits of Persian. -/
def persianDigits : Blocks := [(0x6F0, 0x6F9)]

/-- A rule for a character: whether it may stand between the characters before it, in reverse, and
those behind it. -/
abbrev ContextRule := List Char → List Char → Bool

/-- The rule for a joiner. -/
def joinerRule? (c : Char) : Option ContextRule :=
  if c = '\u200C' then
    some fun before after =>
      let joins (blocks : Blocks) (s : List Char) : Bool :=
        (s.dropWhile isPassedOver).head?.any (isInBlocks (bothJoining ++ blocks))
      before.head?.any isJoinerMark || joins nextJoining before && joins backJoining after
  else if c = '\u200D' then some fun before _ => before.head?.any isJoinerMark
  else none

/-- The rule for a sign or a digit that needs others around it. -/
def contextRule? (c : Char) : Option ContextRule :=
  if c = '·' then some fun before after => before.head? = some 'l' && after.head? = some 'l'
  else if c = '\u0375' then some fun _ after => after.head?.any (isInBlocks greekBlocks)
  else if c = '\u05F3' || c = '\u05F4' then
    some fun before _ => before.head?.any (isInBlocks hebrewBlocks)
  else if c = '・' then some fun before after => (before ++ after).any (isInBlocks japaneseBlocks)
  else if isInBlocks arabicDigits c then
    some fun before after => !(before ++ after).any (isInBlocks persianDigits)
  else if isInBlocks persianDigits c then
    some fun before after => !(before ++ after).any (isInBlocks arabicDigits)
  else none

theorem joinerRule?_mark (c : Char) (before after : List Char) :
    (joinerRule? '\u200D').map (· (c :: before) after) = some (isJoinerMark c) := by
  simp [joinerRule?]

end Billing.Host
