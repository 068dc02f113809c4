import Billing.Layout.Closing

/-!
# Rendering a document

`Document.render` puts the blocks of a document together: the header, the table of entries, the
summary and the remarks. Its result is the marks in drawing order and the place after the last.
-/

namespace Billing

open Layout Coordinate

/-- The marks of a document, and the place where they end. -/
def Document.render {α : Type} [Coordinate α] (metrics : Metrics α) (p : LayoutParams α)
    (doc : Document) : Except Fault (List (Mark α) × Cursor α) := do
  let (title, c) ← drawTitle metrics doc ⟨1, pt 40⟩
  let (date, c) ← drawDate metrics p doc c
  let start := c.advance (pt 20)
  let (client, clientBottom) ← drawClient metrics doc start
  let (issuer, issuerBottom) ← drawIssuer metrics p doc start
  let (header, c) := startTable p (greater clientBottom issuerBottom) start
  let (rows, c) ← drawRows metrics p doc.entries c true
  let (closing, c) ← drawClosing metrics p doc c
  return (title ++ date ++ client ++ issuer ++ header ++ rows ++ closing, c)

end Billing
