/-!
# SHA-256

The digest of FIPS 180-4. A message is padded to whole blocks of sixteen words, each
block is spread to sixty-four words, and sixty-four rounds mix those words into eight
words of state, starting from a fixed state.
-/

set_option autoImplicit false

namespace BuildRules.Digest.Sha256

/-- The first thirty-two bits of the fractional parts of the cube roots of the first sixty-four
primes. -/
def roundConstants : List UInt32 := [
  0x428a2f98, 0x71374491, 0xb5c0fbcf, 0xe9b5dba5, 0x3956c25b, 0x59f111f1, 0x923f82a4, 0xab1c5ed5,
  0xd807aa98, 0x12835b01, 0x243185be, 0x550c7dc3, 0x72be5d74, 0x80deb1fe, 0x9bdc06a7, 0xc19bf174,
  0xe49b69c1, 0xefbe4786, 0x0fc19dc6, 0x240ca1cc, 0x2de92c6f, 0x4a7484aa, 0x5cb0a9dc, 0x76f988da,
  0x983e5152, 0xa831c66d, 0xb00327c8, 0xbf597fc7, 0xc6e00bf3, 0xd5a79147, 0x06ca6351, 0x14292967,
  0x27b70a85, 0x2e1b2138, 0x4d2c6dfc, 0x53380d13, 0x650a7354, 0x766a0abb, 0x81c2c92e, 0x92722c85,
  0xa2bfe8a1, 0xa81a664b, 0xc24b8b70, 0xc76c51a3, 0xd192e819, 0xd6990624, 0xf40e3585, 0x106aa070,
  0x19a4c116, 0x1e376c08, 0x2748774c, 0x34b0bcb5, 0x391c0cb3, 0x4ed8aa4a, 0x5b9cca4f, 0x682e6ff3,
  0x748f82ee, 0x78a5636f, 0x84c87814, 0x8cc70208, 0x90befffa, 0xa4506ceb, 0xbef9a3f7, 0xc67178f2]

/-- The eight words of state. -/
structure State where
  a : UInt32
  b : UInt32
  c : UInt32
  d : UInt32
  e : UInt32
  f : UInt32
  g : UInt32
  h : UInt32
  deriving DecidableEq, Repr

/-- The first thirty-two bits of the fractional parts of the square roots of the first eight
primes. -/
def start : State :=
  ⟨0x6a09e667, 0xbb67ae85, 0x3c6ef372, 0xa54ff53a, 0x510e527f, 0x9b05688c, 0x1f83d9ab, 0x5be0cd19⟩

def State.words (s : State) : List UInt32 := [s.a, s.b, s.c, s.d, s.e, s.f, s.g, s.h]

def State.add (s t : State) : State :=
  ⟨s.a + t.a, s.b + t.b, s.c + t.c, s.d + t.d, s.e + t.e, s.f + t.f, s.g + t.g, s.h + t.h⟩

/-- Rotation to the right by less than thirty-two places. -/
def rotate (places word : UInt32) : UInt32 := (word >>> places) ||| (word <<< (32 - places))

/-- One round with its word of the message and its constant. -/
def round (s : State) (word constant : UInt32) : State :=
  let choice := (s.e &&& s.f) ^^^ (~~~s.e &&& s.g)
  let majority := (s.a &&& s.b) ^^^ (s.a &&& s.c) ^^^ (s.b &&& s.c)
  let low := s.h + (rotate 6 s.e ^^^ rotate 11 s.e ^^^ rotate 25 s.e) + choice + constant + word
  let high := (rotate 2 s.a ^^^ rotate 13 s.a ^^^ rotate 22 s.a) + majority
  ⟨low + high, s.a, s.b, s.c, s.d + low, s.e, s.f, s.g⟩

/-- The next word of a spread block, from the words before it, the latest first. -/
def nextWord (latestFirst : List UInt32) : UInt32 :=
  let before (distance : Nat) : UInt32 := latestFirst.getD (distance - 1) 0
  let near := before 2
  let far := before 15
  (rotate 17 near ^^^ rotate 19 near ^^^ (near >>> 10)) + before 7 +
    (rotate 7 far ^^^ rotate 18 far ^^^ (far >>> 3)) + before 16

def spread (block : List UInt32) : List UInt32 :=
  ((List.range 48).foldl (fun words _ => nextWord words :: words) block.reverse).reverse

def compress (s : State) (block : List UInt32) : State :=
  s.add (((spread block).zip roundConstants).foldl (fun t pair => round t pair.1 pair.2) s)

/-- The message with its padding: a single one bit, zeros up to eight bytes short of a whole
block, and the number of bits of the message. -/
def padded (message : List UInt8) : List UInt8 :=
  let zeros := (119 - message.length % 64) % 64
  let bits := message.length * 8
  message ++ 0x80 :: List.replicate zeros 0 ++
    (List.range 8).map fun (i : Nat) => UInt8.ofNat (bits >>> (8 * (7 - i)))

/-- The words of a text of bytes, the high byte of each word first. -/
def wordsOf : List UInt8 → List UInt32
  | a :: b :: c :: d :: rest =>
    ((a.toUInt32 <<< 24) ||| (b.toUInt32 <<< 16) ||| (c.toUInt32 <<< 8) ||| d.toUInt32) ::
      wordsOf rest
  | _ => []

/-- The state after all whole blocks of the given words. -/
def compressAll (s : State) : List UInt32 → State
  | [] => s
  | word :: rest => compressAll (compress s ((word :: rest).take 16)) (rest.drop 15)
termination_by words => words.length
decreasing_by simp only [List.length_drop, List.length_cons]; omega

/-- The four bytes of a word, the high byte first. -/
def bytesOfWord (word : UInt32) : List UInt8 :=
  [(word >>> 24).toUInt8, (word >>> 16).toUInt8, (word >>> 8).toUInt8, word.toUInt8]

def digest (message : List UInt8) : List UInt8 :=
  (compressAll start (wordsOf (padded message))).words.flatMap bytesOfWord

end BuildRules.Digest.Sha256
