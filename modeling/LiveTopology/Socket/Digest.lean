import LiveTopology.Bytes

/-!
This module contains the SHA-1 digest of bytes and their Base64 form, which the two ends of a socket
use to show each other that they speak the same protocol.
-/

namespace LiveTopology.Socket

/-- `bs` in the pieces of 64 bytes that a digest is made of. The last piece holds the length. -/
def Digest.padded (bs : List UInt8) : List UInt8 :=
  bs ++ [0x80] ++ List.replicate ((119 - bs.length % 64) % 64) 0
    ++ Bytes.bigEndian 8 (8 * bs.length)

/-- The five words that a digest is computed in. -/
structure Digest where
  a : UInt32
  b : UInt32
  c : UInt32
  d : UInt32
  e : UInt32
  deriving DecidableEq, Repr

namespace Digest

def initial : Digest :=
  ⟨0x67452301, 0xEFCDAB89, 0x98BADCFE, 0x10325476, 0xC3D2E1F0⟩

def rotate (x : UInt32) (n : UInt32) : UInt32 :=
  x <<< n ||| x >>> (32 - n)

/-- What a round adds, by its number. -/
def mix (round : Nat) (w : Digest) : UInt32 :=
  if round < 20 then (w.b &&& w.c ||| ~~~w.b &&& w.d) + 0x5A827999
  else if round < 40 then (w.b ^^^ w.c ^^^ w.d) + 0x6ED9EBA1
  else if round < 60 then (w.b &&& w.c ||| w.b &&& w.d ||| w.c &&& w.d) + 0x8F1BBCDC
  else (w.b ^^^ w.c ^^^ w.d) + 0xCA62C1D6

/--
Goes through as many rounds as are left. The next sixteen words are at hand, and each round makes
one more.
-/
def rounds : Nat → List UInt32 → Digest → Digest
  | left + 1, word :: words, w =>
    let next := rotate
      (word ^^^ words.getD 1 0 ^^^ words.getD 7 0 ^^^ words.getD 12 0) 1
    rounds left (words ++ [next])
      ⟨rotate w.a 5 + mix (79 - left) w + w.e + word, w.a, rotate w.b 30, w.c, w.d⟩
  | _, _, w => w

def words : List UInt8 → List UInt32
  | a :: b :: c :: d :: bs => UInt32.ofNat (Bytes.ofBigEndian [a, b, c, d]) :: words bs
  | _ => []

def absorb (w : Digest) : Nat → List UInt32 → Digest
  | 0, _ => w
  | pieces + 1, ws =>
    let v := rounds 80 (ws.take 16) w
    absorb ⟨w.a + v.a, w.b + v.b, w.c + v.c, w.d + v.d, w.e + v.e⟩ pieces (ws.drop 16)

def bytes (w : Digest) : List UInt8 :=
  [w.a, w.b, w.c, w.d, w.e].flatMap fun x => Bytes.bigEndian 4 x.toNat

end Digest

def digest (bs : List UInt8) : List UInt8 :=
  let padded := Digest.padded bs
  (Digest.initial.absorb (padded.length / 64) (Digest.words padded)).bytes

def sextet (n : Nat) : Char :=
  if n < 26 then Char.ofNat ('A'.toNat + n)
  else if n < 52 then Char.ofNat ('a'.toNat + (n - 26))
  else if n < 62 then Char.ofNat ('0'.toNat + (n - 52))
  else if n = 62 then '+'
  else '/'

def base64 : List UInt8 → List Char
  | [] => []
  | [a] => (chars [a, 0, 0]).take 2 ++ ['=', '=']
  | [a, b] => (chars [a, b, 0]).take 3 ++ ['=']
  | a :: b :: c :: bs => chars [a, b, c] ++ base64 bs
where
  chars (bs : List UInt8) : List Char :=
    let n := Bytes.ofBigEndian bs
    [n / 0x40000, n / 0x1000 % 0x40, n / 0x40 % 0x40, n % 0x40].map sextet

end LiveTopology.Socket
