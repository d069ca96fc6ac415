import ParityGrid.Foundation.Framing

/-!
# SHA-256

An executable SHA-256 over byte lists.  Nothing about collisions is assumed
here; results that need distinct digests take `DistinctDigests` of the
preimages they use.
-/

namespace ParityGrid.Foundation

/-! ## Digests -/

/-- A SHA-256 digest: exactly thirty-two bytes. -/
structure Digest where
  bytes : Bytes
  size : bytes.length = 32
deriving DecidableEq

@[ext]
theorem Digest.ext {left right : Digest} (equal : left.bytes = right.bytes) :
    left = right := by
  cases left
  cases right
  cases equal
  rfl

/-! ## Compression -/

namespace Sha256

abbrev Word := BitVec 32

/-- The eight chaining words. -/
structure Chain where
  a : Word
  b : Word
  c : Word
  d : Word
  e : Word
  f : Word
  g : Word
  h : Word

def initial : Chain where
  a := 0x6a09e667
  b := 0xbb67ae85
  c := 0x3c6ef372
  d := 0xa54ff53a
  e := 0x510e527f
  f := 0x9b05688c
  g := 0x1f83d9ab
  h := 0x5be0cd19

def roundConstants : List Word :=
  [0x428a2f98, 0x71374491, 0xb5c0fbcf, 0xe9b5dba5,
    0x3956c25b, 0x59f111f1, 0x923f82a4, 0xab1c5ed5,
    0xd807aa98, 0x12835b01, 0x243185be, 0x550c7dc3,
    0x72be5d74, 0x80deb1fe, 0x9bdc06a7, 0xc19bf174,
    0xe49b69c1, 0xefbe4786, 0x0fc19dc6, 0x240ca1cc,
    0x2de92c6f, 0x4a7484aa, 0x5cb0a9dc, 0x76f988da,
    0x983e5152, 0xa831c66d, 0xb00327c8, 0xbf597fc7,
    0xc6e00bf3, 0xd5a79147, 0x06ca6351, 0x14292967,
    0x27b70a85, 0x2e1b2138, 0x4d2c6dfc, 0x53380d13,
    0x650a7354, 0x766a0abb, 0x81c2c92e, 0x92722c85,
    0xa2bfe8a1, 0xa81a664b, 0xc24b8b70, 0xc76c51a3,
    0xd192e819, 0xd6990624, 0xf40e3585, 0x106aa070,
    0x19a4c116, 0x1e376c08, 0x2748774c, 0x34b0bcb5,
    0x391c0cb3, 0x4ed8aa4a, 0x5b9cca4f, 0x682e6ff3,
    0x748f82ee, 0x78a5636f, 0x84c87814, 0x8cc70208,
    0x90befffa, 0xa4506ceb, 0xbef9a3f7, 0xc67178f2]

def sigma0 (w : Word) : Word :=
  w.rotateRight 7 ^^^ w.rotateRight 18 ^^^ w >>> 3

def sigma1 (w : Word) : Word :=
  w.rotateRight 17 ^^^ w.rotateRight 19 ^^^ w >>> 10

/--
Extend a message schedule by `count` words.  The schedule is kept latest word
first, so the four words of the recurrence stand at fixed places.
-/
def extend : Nat → List Word → List Word
  | 0, latest => latest
  | count + 1, latest =>
      let next :=
        sigma1 (latest.getD 1 0) + latest.getD 6 0 +
          sigma0 (latest.getD 14 0) + latest.getD 15 0
      extend count (next :: latest)

def round (s : Chain) (constant word : Word) : Chain :=
  let sum1 :=
    s.e.rotateRight 6 ^^^ s.e.rotateRight 11 ^^^ s.e.rotateRight 25
  let choose := (s.e &&& s.f) ^^^ (~~~ s.e &&& s.g)
  let first := s.h + sum1 + choose + constant + word
  let sum0 :=
    s.a.rotateRight 2 ^^^ s.a.rotateRight 13 ^^^ s.a.rotateRight 22
  let majority := (s.a &&& s.b) ^^^ (s.a &&& s.c) ^^^ (s.b &&& s.c)
  { a := first + (sum0 + majority), b := s.a, c := s.b, d := s.c
    e := s.d + first, f := s.e, g := s.f, h := s.g }

def rounds : List (Word × Word) → Chain → Chain
  | [], s => s
  | (constant, word) :: rest, s => rounds rest (round s constant word)

/-- Absorb one sixteen-word block. -/
def compress (s : Chain) (block : List Word) : Chain :=
  let schedule := (extend 48 block.reverse).reverse
  let next := rounds (roundConstants.zip schedule) s
  { a := s.a + next.a, b := s.b + next.b, c := s.c + next.c
    d := s.d + next.d, e := s.e + next.e, f := s.f + next.f
    g := s.g + next.g, h := s.h + next.h }

/-! ## Padding and blocks -/

/-- The message followed by its padding. -/
def padded (message : Bytes) : Bytes :=
  message ++ [0x80] ++
    List.replicate ((119 - message.length % 64) % 64) 0 ++
    bigEndian 8 (8 * message.length)

/-- The big-endian words of a byte sequence. -/
def words : Bytes → List Word
  | p :: q :: r :: s :: rest =>
      BitVec.ofNat 32
        (p.val * 0x1000000 + q.val * 0x10000 + r.val * 0x100 + s.val) ::
        words rest
  | _ => []

/-- Absorb `count` blocks from the front of a word sequence. -/
def absorb : Nat → List Word → Chain → Chain
  | 0, _, s => s
  | count + 1, message, s =>
      absorb count (message.drop 16) (compress s (message.take 16))

def wordBytes (w : Word) : Bytes :=
  bigEndian 4 w.toNat

def chainBytes (s : Chain) : Bytes :=
  wordBytes s.a ++ wordBytes s.b ++ wordBytes s.c ++ wordBytes s.d ++
    wordBytes s.e ++ wordBytes s.f ++ wordBytes s.g ++ wordBytes s.h

end Sha256

open Sha256 in
/-- `hashlib.sha256(message).digest()`. -/
def sha256 (message : Bytes) : Digest where
  bytes :=
    chainBytes
      (absorb ((padded message).length / 64) (words (padded message)) initial)
  size := by simp [chainBytes, wordBytes]

/-- SHA-256 is injective on the listed preimages. -/
def DistinctDigests (preimages : List Bytes) : Prop :=
  ∀ p ∈ preimages, ∀ q ∈ preimages, sha256 p = sha256 q → p = q

instance (preimages : List Bytes) : Decidable (DistinctDigests preimages) :=
  inferInstanceAs (Decidable
    (∀ p ∈ preimages, ∀ q ∈ preimages, sha256 p = sha256 q → p = q))

/-! ## Hexadecimal text -/

/-- The lowercase hexadecimal digit of a nibble. -/
def hexDigit (n : Fin 16) : CodePoint :=
  if n.val < 10 then Fin.ofNat _ (0x30 + n.val) else Fin.ofNat _ (0x57 + n.val)

theorem hexDigit_injective : Function.Injective hexDigit := by
  unfold Function.Injective
  decide

theorem hexDigit_isHexLower (n : Fin 16) : isHexLower (hexDigit n) := by
  revert n
  decide

def highNibble (b : Byte) : Fin 16 :=
  ⟨b.val / 16, by omega⟩

def lowNibble (b : Byte) : Fin 16 :=
  ⟨b.val % 16, by omega⟩

/-- `data.hex()`. -/
def hex (data : Bytes) : Text :=
  data.flatMap fun b => [hexDigit (highNibble b), hexDigit (lowNibble b)]

theorem hex_length (data : Bytes) : (hex data).length = 2 * data.length := by
  induction data with
  | nil => rfl
  | cons b rest ih =>
      simp only [hex, List.flatMap_cons, List.length_append] at *
      simp only [ih, List.length_cons, List.length_nil]
      omega

theorem hex_all_isHexLower (data : Bytes) : (hex data).all isHexLower := by
  simp only [hex, List.all_flatMap, List.all_eq_true]
  intro b _ c member
  simp only [List.mem_cons, List.not_mem_nil, or_false] at member
  rcases member with rfl | rfl <;> exact hexDigit_isHexLower _

theorem hex_injective : Function.Injective hex := by
  intro left
  induction left with
  | nil =>
      intro right equal
      have lengths := congrArg List.length equal
      rw [hex_length, hex_length, List.length_nil] at lengths
      exact (List.length_eq_zero_iff.mp (by omega)).symm
  | cons b rest ih =>
      intro right equal
      cases right with
      | nil => simp [hex] at equal
      | cons d tail =>
          simp only [hex, List.flatMap_cons, List.cons_append,
            List.nil_append, List.cons.injEq] at equal
          have high := congrArg Fin.val (hexDigit_injective equal.1)
          have low := congrArg Fin.val (hexDigit_injective equal.2.1)
          have headEqual : b = d := by
            simp only [highNibble, lowNibble] at high low
            exact Fin.ext (by omega)
          rw [headEqual, ih equal.2.2]

/-- `hashlib.sha256(message).hexdigest()`. -/
def Digest.hex (digest : Digest) : Text :=
  Foundation.hex digest.bytes

theorem Digest.hex_injective : Function.Injective Digest.hex := by
  intro left right equal
  exact Digest.ext (Foundation.hex_injective equal)

theorem Digest.hex_length (digest : Digest) : digest.hex.length = 64 := by
  rw [Digest.hex, Foundation.hex_length, digest.size]

theorem Digest.hex_all_isHexLower (digest : Digest) :
    digest.hex.all isHexLower :=
  Foundation.hex_all_isHexLower digest.bytes

/-- The digest of `"abc"` given with the standard. -/
example :
    (sha256 (encodeAscii (text "abc"))).hex =
      text "ba7816bf8f01cfea414140de5dae2223b00361a396177a9cb410ff61f20015ad" := by
  decide +kernel

end ParityGrid.Foundation
