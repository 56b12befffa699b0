import SqlBuilder.Number.Digits
import SqlBuilder.Text.Characters

/-!
# Text between quotes

In statements a quote inside a pair of quotes is written twice, so every text has exactly one written
form and the closing quote can be found.

In messages a text is shown between single quotes, or between double quotes when it holds a single
one and no double one. Characters that are not printable are shown by their number.
-/

namespace SqlBuilder.Text

/-! ## In statements -/

/-- `cs` with every `q` written twice. -/
def doubled (q : Char) : List Char → List Char
  | [] => []
  | c :: cs => if c = q then q :: q :: doubled q cs else c :: doubled q cs

/-- `s` between two quotes `q`. -/
def quoted (q : Char) (s : String) : String :=
  String.ofList (q :: (doubled q s.toList ++ [q]))

@[simp] theorem doubled_nil (q : Char) : doubled q [] = [] := rfl

theorem doubled_cons_self (q : Char) (cs : List Char) :
    doubled q (q :: cs) = q :: q :: doubled q cs := by
  simp [doubled]

theorem doubled_cons_of_ne {q c : Char} (h : c ≠ q) (cs : List Char) :
    doubled q (c :: cs) = c :: doubled q cs := by
  simp [doubled, h]

/-! ## In messages -/

/-- The quotes to show a text between. -/
def shownQuote (cs : List Char) : Char := if '\'' ∈ cs ∧ '"' ∉ cs then '"' else '\''

/-- The number of a character, two, four or eight places wide. -/
def numbered (c : Char) : List Char :=
  let n := c.toNat
  if n < 0x100 then '\\' :: 'x' :: Number.paddedDigits 16 2 n
  else if n < 0x10000 then '\\' :: 'u' :: Number.paddedDigits 16 4 n
  else '\\' :: 'U' :: Number.paddedDigits 16 8 n

def shownChar (quote c : Char) : List Char :=
  if c = quote ∨ c = '\\' then ['\\', c]
  else if c = '\n' then ['\\', 'n']
  else if c = '\r' then ['\\', 'r']
  else if c = '\t' then ['\\', 't']
  else if isPrintable c then [c]
  else numbered c

def shown (s : String) : String :=
  let quote := shownQuote s.toList
  String.ofList (quote :: (s.toList.flatMap (shownChar quote) ++ [quote]))

/-- Octets are shown as the ASCII characters they stand for, the others by number. -/
def shownOctet (quote : Char) (octet : UInt8) : List Char :=
  let n := octet.toNat
  if n < 128 then shownChar quote (Char.ofNat n) else '\\' :: 'x' :: Number.paddedDigits 16 2 n

def shownOctets (octets : List UInt8) : String :=
  let quote := shownQuote (octets.map fun octet => Char.ofNat octet.toNat)
  String.ofList ('b' :: quote :: (octets.flatMap (shownOctet quote) ++ [quote]))

end SqlBuilder.Text
