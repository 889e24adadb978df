/-!
# Encodings

Octets as text: UTF-8 and UTF-16, malformed parts replaced or refused, and the choice between them
for a source file.
-/

namespace FrameLens.Utf8

/-! ## UTF-8

A machine that takes one octet at a time splits octets into characters and malformed parts. A
malformed part is as long as it can be: it ends before the first octet that can no longer belong
to the character it began. Reading leniently puts one replacement character for each malformed
part; reading strictly fails at the first one. -/

/-- Why octets are no character. -/
inductive Fault where
  | invalidStart
  | invalidContinuation
  | unexpectedEnd
deriving DecidableEq, Repr

def Fault.message : Fault → String
  | invalidStart => "invalid start byte"
  | invalidContinuation => "invalid continuation byte"
  | unexpectedEnd => "unexpected end of data"

/-- What octets split into. -/
inductive Piece where
  | char (c : Char)
  | malformed (octets : List UInt8) (fault : Fault)
deriving DecidableEq, Repr

/-- What has been seen of a character: its octets, how many are to follow, the bounds of the next
one, and the bits so far. -/
structure Pending where
  seen : List UInt8
  wanted : Nat
  low : UInt8
  high : UInt8
  bits : Nat

/-- The state after a first octet: a whole character, a character under way, or a fault. -/
def start (octet : UInt8) : List Piece × Option Pending :=
  let under (wanted : Nat) (low high : UInt8) (bits : Nat) : List Piece × Option Pending :=
    ([], some ⟨[octet], wanted, low, high, bits⟩)
  let n := octet.toNat
  if n < 0x80 then ([.char (Char.ofNat n)], none)
  else if n < 0xC2 then ([.malformed [octet] .invalidStart], none)
  else if n < 0xE0 then under 1 0x80 0xBF (n - 0xC0)
  else if n = 0xE0 then under 2 0xA0 0xBF 0
  else if n = 0xED then under 2 0x80 0x9F 0xD
  else if n < 0xF0 then under 2 0x80 0xBF (n - 0xE0)
  else if n = 0xF0 then under 3 0x90 0xBF 0
  else if n < 0xF4 then under 3 0x80 0xBF (n - 0xF0)
  else if n = 0xF4 then under 3 0x80 0x8F 4
  else ([.malformed [octet] .invalidStart], none)

/-- One step of the machine. An octet that cannot go on the character under way ends it and is
taken as a first octet. -/
def step (pending : Option Pending) (octet : UInt8) : List Piece × Option Pending :=
  match pending with
  | none => start octet
  | some p =>
    if p.low ≤ octet && octet ≤ p.high then
      let bits := p.bits * 0x40 + (octet.toNat - 0x80)
      if p.wanted = 1 then ([.char (Char.ofNat bits)], none)
      else ([], some ⟨p.seen ++ [octet], p.wanted - 1, 0x80, 0xBF, bits⟩)
    else
      let (pieces, next) := start octet
      (.malformed p.seen .invalidContinuation :: pieces, next)

/-- Runs the machine over octets from a state on. -/
def piecesFrom (pending : Option Pending) : List UInt8 → List Piece
  | [] =>
    match pending with
    | none => []
    | some p => [.malformed p.seen .unexpectedEnd]
  | octet :: rest =>
    let (pieces, next) := step pending octet
    pieces ++ piecesFrom next rest

/-- The characters and malformed parts of octets. -/
def pieces (octets : List UInt8) : List Piece :=
  piecesFrom none octets

/-- The replacement character stands for a malformed part. -/
def Piece.toChar : Piece → Char
  | char c => c
  | malformed _ _ => '\uFFFD'

def decode (octets : List UInt8) : List Char :=
  (pieces octets).map Piece.toChar

def encodeChar (c : Char) : List UInt8 :=
  let n := c.toNat
  if n < 0x80 then [n.toUInt8]
  else if n < 0x800 then [(0xC0 + n / 0x40).toUInt8, (0x80 + n % 0x40).toUInt8]
  else if n < 0x10000 then
    [(0xE0 + n / 0x1000).toUInt8, (0x80 + n / 0x40 % 0x40).toUInt8, (0x80 + n % 0x40).toUInt8]
  else
    [(0xF0 + n / 0x40000).toUInt8, (0x80 + n / 0x1000 % 0x40).toUInt8,
      (0x80 + n / 0x40 % 0x40).toUInt8, (0x80 + n % 0x40).toUInt8]

def encode (text : List Char) : List UInt8 :=
  text.flatMap encodeChar

/-- The first malformed part of octets and the number of octets before it. -/
structure Malformed where
  position : Nat
  octets : List UInt8
  fault : Fault
deriving DecidableEq, Repr

/-- Collects characters up to the first malformed part. -/
def strictFrom (position : Nat) : List Piece → Except Malformed (List Char)
  | [] => .ok []
  | .char c :: rest =>
    match strictFrom (position + (encodeChar c).length) rest with
    | .ok text => .ok (c :: text)
    | .error e => .error e
  | .malformed octets fault :: _ => .error ⟨position, octets, fault⟩

def decodeStrict (octets : List UInt8) : Except Malformed (List Char) :=
  strictFrom 0 (pieces octets)

end FrameLens.Utf8

namespace FrameLens.Utf16

/-! ## UTF-16

Octets pair up to units, and a unit that is the first half of a character pairs up with the
second half after it. What does not pair up is replaced. -/

/-- Which octet of a unit comes first. -/
inductive ByteOrder where
  | littleEndian
  | bigEndian
deriving DecidableEq, Repr

def unit (order : ByteOrder) (a b : UInt8) : Nat :=
  match order with
  | .littleEndian => b.toNat * 0x100 + a.toNat
  | .bigEndian => a.toNat * 0x100 + b.toNat

/-- Whether a unit is the first half of a character. -/
def isHighHalf (n : Nat) : Bool :=
  0xD800 ≤ n && n < 0xDC00

/-- Whether a unit is the second half of a character. -/
def isLowHalf (n : Nat) : Bool :=
  0xDC00 ≤ n && n < 0xE000

/-- Reads octets leniently. A first half at the end takes an octet left over along with it. -/
def decode (order : ByteOrder) : List UInt8 → List Char
  | a :: b :: c :: d :: rest =>
    let first := unit order a b
    let second := unit order c d
    if isHighHalf first then
      if isLowHalf second then
        Char.ofNat (0x10000 + (first - 0xD800) * 0x400 + (second - 0xDC00)) :: decode order rest
      else '\uFFFD' :: decode order (c :: d :: rest)
    else if isLowHalf first then '\uFFFD' :: decode order (c :: d :: rest)
    else Char.ofNat first :: decode order (c :: d :: rest)
  | [a, b, _] =>
    let first := unit order a b
    if isHighHalf first then ['\uFFFD']
    else if isLowHalf first then ['\uFFFD', '\uFFFD']
    else [Char.ofNat first, '\uFFFD']
  | [a, b] =>
    let first := unit order a b
    if isHighHalf first || isLowHalf first then ['\uFFFD'] else [Char.ofNat first]
  | [_] => ['\uFFFD']
  | [] => []

end FrameLens.Utf16

namespace FrameLens

/-! ## The encoding of a source file

A byte order mark decides the encoding and is no part of the text. Without one a file is UTF-8.
Octets that are no text are replaced. -/

def decodeSource (octets : List UInt8) : List Char :=
  match octets with
  | 0xEF :: 0xBB :: 0xBF :: rest => Utf8.decode rest
  | 0xFF :: 0xFE :: rest => Utf16.decode .littleEndian rest
  | 0xFE :: 0xFF :: rest => Utf16.decode .bigEndian rest
  | octets => Utf8.decode octets

end FrameLens
