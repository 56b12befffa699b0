import SqlBuilder.Number.Digits

/-!
# Percent-encoded text

Outside a set of safe characters a text is written as the octets of its UTF-8 form, each as `%` and
two digits. Reading is lenient: a `%` without two digits stands for itself, and octets that are no
UTF-8 text are read as U+FFFD, one for each longest start of a character.
-/

namespace SqlBuilder.Url

/-! ## Reading UTF-8 -/

/-- What an octet at the start of a character says: the character itself, or the bits it gives, how
many octets follow, and the bounds of the next one. -/
inductive Lead
  | whole (c : Char)
  | start (bits following low high : Nat)
  | stray

def lead (octet : Nat) : Lead :=
  if octet < 0x80 then .whole (Char.ofNat octet)
  else if octet < 0xC2 then .stray
  else if octet < 0xE0 then .start (octet - 0xC0) 1 0x80 0xBF
  else if octet = 0xE0 then .start 0 2 0xA0 0xBF
  else if octet = 0xED then .start 0xD 2 0x80 0x9F
  else if octet < 0xF0 then .start (octet - 0xE0) 2 0x80 0xBF
  else if octet = 0xF0 then .start 0 3 0x90 0xBF
  else if octet < 0xF4 then .start (octet - 0xF0) 3 0x80 0xBF
  else if octet = 0xF4 then .start 4 3 0x80 0x8F
  else .stray

/-- In place of octets that are no character. -/
def replacement : Char := Char.ofNat 0xFFFD

/-- A character of which a part has been read. -/
structure Begun where
  bits : Nat
  following : Nat
  low : Nat
  high : Nat

/-- What is read from an octet that starts a character. -/
def startOf (octet : Nat) : List Char × Option Begun :=
  match lead octet with
  | .whole c => ([c], none)
  | .start bits following low high => ([], some ⟨bits, following, low, high⟩)
  | .stray => ([replacement], none)

def decodedFrom : Option Begun → List UInt8 → List Char
  | none, [] => []
  | some _, [] => [replacement]
  | none, octet :: octets =>
    let (cs, begun) := startOf octet.toNat
    cs ++ decodedFrom begun octets
  | some b, octet :: octets =>
    let n := octet.toNat
    if b.low ≤ n ∧ n ≤ b.high then
      let bits := b.bits * 64 + (n - 0x80)
      if b.following ≤ 1 then Char.ofNat bits :: decodedFrom none octets
      else decodedFrom (some ⟨bits, b.following - 1, 0x80, 0xBF⟩) octets
    else
      let (cs, begun) := startOf n
      replacement :: (cs ++ decodedFrom begun octets)

/-! ## Percent signs -/

def hexDigit? (c : Char) : Option Nat :=
  if c.isDigit then some (c.toNat - '0'.toNat)
  else if 'a' ≤ c ∧ c ≤ 'f' then some (c.toNat - 'a'.toNat + 10)
  else if 'A' ≤ c ∧ c ≤ 'F' then some (c.toNat - 'A'.toNat + 10)
  else none

/-- The octet written with two digits. -/
def octet? (a b : Char) : Option UInt8 := do
  return UInt8.ofNat (16 * (← hexDigit? a) + (← hexDigit? b))

/-- A text decoded, after octets that have been read and wait for their end, the last one first. -/
def decodedAfter (waiting : List UInt8) : List Char → List Char
  | [] => decodedFrom none waiting.reverse
  | c :: cs =>
    if 128 ≤ c.toNat then decodedFrom none waiting.reverse ++ c :: decodedAfter [] cs
    else match c, cs with
      | '%', a :: b :: rest => match octet? a b with
        | some octet => decodedAfter (octet :: waiting) rest
        | none => decodedAfter (UInt8.ofNat c.toNat :: waiting) (a :: b :: rest)
      | c, cs => decodedAfter (UInt8.ofNat c.toNat :: waiting) cs

def percentDecoded (cs : List Char) : List Char := decodedAfter [] cs

/-- Characters that are never encoded. -/
def isUnreserved (c : Char) : Bool := c.isAlphanum || c == '_' || c == '.' || c == '-' || c == '~'

def percentEncoded (safe : List Char) (cs : List Char) : List Char :=
  cs.flatMap fun c =>
    if isUnreserved c || c ∈ safe then [c]
    else (String.utf8EncodeChar c).flatMap fun octet =>
      '%' :: (Number.paddedDigits 16 2 octet.toNat).map Char.toUpper

/-! ## Queries -/

/-- A text of a query, where a blank is written `+`. -/
def queryEncoded (cs : List Char) : List Char :=
  (percentEncoded [' '] cs).map fun c => if c = ' ' then '+' else c

def queryDecoded (cs : List Char) : List Char :=
  percentDecoded (cs.map fun c => if c = '+' then ' ' else c)

end SqlBuilder.Url
