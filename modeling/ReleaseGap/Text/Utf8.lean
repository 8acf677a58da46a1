/-!
# UTF-8

Octets read as UTF-8.  The reader is a machine that keeps the character it is inside of; an octet
that cannot continue that character ends a faulty piece and is read again as a first octet, so a
faulty piece is never longer than the start of some character.  `decode?` refuses a text with a
faulty piece and `decodeLossy` puts U+FFFD in the place of each.
-/

namespace ReleaseGap.Text.Utf8

/-- A character begun: how many octets it still needs, between which bounds the next one lies, and
the bits read so far. -/
structure Pending where
  need : Nat
  low : Nat
  high : Nat
  value : Nat

/-- What a first octet says. -/
inductive Lead where
  | char (c : Char)
  | more (p : Pending)
  | bad

/-- Reads a first octet. -/
def lead (b : Nat) : Lead :=
  if b < 0x80 then .char (Char.ofNat b)
  else if b < 0xC2 then .bad
  else if b < 0xE0 then .more ⟨1, 0x80, 0xBF, b - 0xC0⟩
  else if b = 0xE0 then .more ⟨2, 0xA0, 0xBF, 0⟩
  else if b = 0xED then .more ⟨2, 0x80, 0x9F, 0xD⟩
  else if b < 0xF0 then .more ⟨2, 0x80, 0xBF, b - 0xE0⟩
  else if b = 0xF0 then .more ⟨3, 0x90, 0xBF, 0⟩
  else if b < 0xF4 then .more ⟨3, 0x80, 0xBF, b - 0xF0⟩
  else if b = 0xF4 then .more ⟨3, 0x80, 0x8F, 4⟩
  else .bad

/-- The characters of the octets, `none` for each faulty piece. -/
def pieces : Option Pending → List UInt8 → List (Option Char)
  | none, [] => []
  | some _, [] => [none]
  | none, b :: r =>
    match lead b.toNat with
    | .char c => some c :: pieces none r
    | .more p => pieces (some p) r
    | .bad => none :: pieces none r
  | some p, b :: r =>
    if p.low ≤ b.toNat && b.toNat ≤ p.high then
      let value := p.value * 64 + (b.toNat - 0x80)
      if p.need = 1 then some (Char.ofNat value) :: pieces none r
      else pieces (some ⟨p.need - 1, 0x80, 0xBF, value⟩) r
    else
      match lead b.toNat with
      | .char c => none :: some c :: pieces none r
      | .more q => none :: pieces (some q) r
      | .bad => none :: none :: pieces none r

/-- The text of the octets, if all of them are UTF-8. -/
def decode? (octets : List UInt8) : Option String :=
  ((pieces none octets).mapM id).map String.ofList

/-- The text of the octets, with U+FFFD for each faulty piece. -/
def decodeLossy (octets : List UInt8) : String :=
  String.ofList ((pieces none octets).map (·.getD '\uFFFD'))

/-- The octets of a text. -/
def encode (s : String) : List UInt8 := s.toUTF8.toList

end ReleaseGap.Text.Utf8
