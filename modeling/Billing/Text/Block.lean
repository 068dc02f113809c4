/-!
# Blocks of characters

Classes of characters as lists of blocks, each given by the codes of its first and its last
character (`isInBlocks`).

* `isInBlocks_append`: a character is in one of two lists if it is in either.
-/

namespace Billing.Text

/-- Blocks of characters by the codes of the first and the last one. -/
abbrev Blocks := List (Nat × Nat)

/-- Whether a character is in one of the blocks. -/
def isInBlocks (blocks : Blocks) (c : Char) : Bool :=
  blocks.any fun (first, last) => first ≤ c.toNat && c.toNat ≤ last

theorem isInBlocks_append (bs bs' : Blocks) (c : Char) :
    isInBlocks (bs ++ bs') c = (isInBlocks bs c || isInBlocks bs' c) := by
  simp [isInBlocks]

end Billing.Text
