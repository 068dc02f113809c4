import Billing.Text.Digit
import Billing.Text.Hex
import Billing.Text.Lines

/-!
# Addresses

Hosts by number: addresses of four decimal numbers (`isFourAddress`), and addresses of eight groups
of hexadecimal digits, of which a run may be left out (`isGroupAddress`).

* `isFourAddress_looks`: an address of four numbers looks like one.
-/

namespace Billing.Host

/-- Whether the text consists of four numbers with dots between them. -/
def looksLikeAddress (s : List Char) : Bool :=
  let parts := Text.splitOn '.' s
  parts.length = 4 && parts.all fun part => !part.isEmpty && part.all Char.isDigit

/-- Whether a number of an address is below 256 and has no zeros in front. -/
def isAddressNumber (s : List Char) : Bool :=
  s.length ≤ 3 && (s.length = 1 || s.head? != some '0') && Text.digitsValue s < 256

/-- Whether the text is an address of four numbers. -/
def isFourAddress (s : List Char) : Bool :=
  looksLikeAddress s && (Text.splitOn '.' s).all isAddressNumber

/-- Whether the text is a group of up to four hexadecimal digits. -/
def isAddressGroup (s : List Char) : Bool :=
  !s.isEmpty && s.length ≤ 4 && (Text.hexNumber? s).isSome

/-- Whether the parts between colons make an address of eight groups, of which a run may be left
out: an empty part stands for it, and for each end that it reaches another one does. -/
def areAddressParts (parts : List (List Char)) : Bool :=
  let inner := (parts.drop 1).dropLast
  if 9 < parts.length || parts.length < 3 then false
  else if inner.contains [] then
    let high := inner.takeWhile (!·.isEmpty)
    let low := (inner.dropWhile (!·.isEmpty)).tail
    let first := parts.head?.getD []
    let last := parts.getLast?.getD []
    let high := if first.isEmpty then high else first :: high
    let low := if last.isEmpty then low else last :: low
    (first.isEmpty → high.isEmpty) && (last.isEmpty → low.isEmpty) &&
      high.length + low.length < 8 && (high ++ low).all isAddressGroup
  else parts.length = 8 && parts.all isAddressGroup

/-- Whether the text is an address of groups, the last two of which may be written as an address of
four numbers. A zone may follow a percent sign. -/
def isGroupAddress (s : List Char) : Bool :=
  let address := s.takeWhile (· != '%')
  let zoneFits := match s.dropWhile (· != '%') with
    | _ :: zone => !zone.isEmpty && !zone.contains '%'
    | [] => true
  let parts := Text.splitOn ':' address
  let last := parts.getLast?.getD []
  zoneFits &&
    if last.contains '.' then
      3 ≤ parts.length && isFourAddress last && areAddressParts (parts.dropLast ++ [['0'], ['0']])
    else areAddressParts parts

theorem isFourAddress_looks {s : List Char} (h : isFourAddress s = true) :
    looksLikeAddress s = true := by
  simp only [isFourAddress, Bool.and_eq_true] at h
  exact h.1

end Billing.Host
