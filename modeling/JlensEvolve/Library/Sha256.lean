import Mathlib.Tactic.Common
import Mathlib.Data.List.GetD

/-!
SHA-256 (FIPS 180-4) and HMAC over byte lists, written to be evaluated. Words
are natural numbers kept below `2 ^ 32`. The only facts later modules use are
the shape of a hex digest; collision freeness is never assumed of the function
itself, only stated as a hypothesis about the finitely many texts a result
compares.
-/

namespace JlensEvolve.Library.Sha256

def word (n : Nat) : Nat := n % 0x100000000

def rotr (k x : Nat) : Nat := word ((x >>> k) ||| (x <<< (32 - k)))

def smallSigma0 (x : Nat) : Nat := rotr 7 x ^^^ rotr 18 x ^^^ (x >>> 3)

def smallSigma1 (x : Nat) : Nat := rotr 17 x ^^^ rotr 19 x ^^^ (x >>> 10)

def bigSigma0 (x : Nat) : Nat := rotr 2 x ^^^ rotr 13 x ^^^ rotr 22 x

def bigSigma1 (x : Nat) : Nat := rotr 6 x ^^^ rotr 11 x ^^^ rotr 25 x

def complement (x : Nat) : Nat := 0xffffffff - x

def choose (x y z : Nat) : Nat := (x &&& y) ^^^ (complement x &&& z)

def majority (x y z : Nat) : Nat := (x &&& y) ^^^ (x &&& z) ^^^ (y &&& z)

def roundConstants : List Nat :=
  [0x428a2f98, 0x71374491, 0xb5c0fbcf, 0xe9b5dba5, 0x3956c25b, 0x59f111f1,
   0x923f82a4, 0xab1c5ed5, 0xd807aa98, 0x12835b01, 0x243185be, 0x550c7dc3,
   0x72be5d74, 0x80deb1fe, 0x9bdc06a7, 0xc19bf174, 0xe49b69c1, 0xefbe4786,
   0x0fc19dc6, 0x240ca1cc, 0x2de92c6f, 0x4a7484aa, 0x5cb0a9dc, 0x76f988da,
   0x983e5152, 0xa831c66d, 0xb00327c8, 0xbf597fc7, 0xc6e00bf3, 0xd5a79147,
   0x06ca6351, 0x14292967, 0x27b70a85, 0x2e1b2138, 0x4d2c6dfc, 0x53380d13,
   0x650a7354, 0x766a0abb, 0x81c2c92e, 0x92722c85, 0xa2bfe8a1, 0xa81a664b,
   0xc24b8b70, 0xc76c51a3, 0xd192e819, 0xd6990624, 0xf40e3585, 0x106aa070,
   0x19a4c116, 0x1e376c08, 0x2748774c, 0x34b0bcb5, 0x391c0cb3, 0x4ed8aa4a,
   0x5b9cca4f, 0x682e6ff3, 0x748f82ee, 0x78a5636f, 0x84c87814, 0x8cc70208,
   0x90befffa, 0xa4506ceb, 0xbef9a3f7, 0xc67178f2]

/-- The eight working variables `a` to `h`, which are also the chaining value. -/
structure Registers where
  a : Nat
  b : Nat
  c : Nat
  d : Nat
  e : Nat
  f : Nat
  g : Nat
  h : Nat

def initialHash : Registers :=
  ⟨0x6a09e667, 0xbb67ae85, 0x3c6ef372, 0xa54ff53a,
   0x510e527f, 0x9b05688c, 0x1f83d9ab, 0x5be0cd19⟩

def Registers.words (r : Registers) : List Nat :=
  [r.a, r.b, r.c, r.d, r.e, r.f, r.g, r.h]

def Registers.add (x y : Registers) : Registers :=
  ⟨word (x.a + y.a), word (x.b + y.b), word (x.c + y.c), word (x.d + y.d),
   word (x.e + y.e), word (x.f + y.f), word (x.g + y.g), word (x.h + y.h)⟩

def round (r : Registers) (constant scheduled : Nat) : Registers :=
  let t1 := r.h + bigSigma1 r.e + choose r.e r.f r.g + constant + scheduled
  let t2 := bigSigma0 r.a + majority r.a r.b r.c
  ⟨word (t1 + t2), r.a, r.b, r.c, word (r.d + t1), r.e, r.f, r.g⟩

/-- The rounds of one block. `window` holds the sixteen latest schedule words,
oldest first, so the word of the current round is its head. -/
def rounds : List Nat → List Nat → Registers → Registers
  | [], _, r => r
  | constant :: constants, window, r =>
    let next := word (smallSigma1 (window.getD 14 0) + window.getD 9 0 +
      smallSigma0 (window.getD 1 0) + window.getD 0 0)
    rounds constants (window.tail ++ [next]) (round r constant (window.getD 0 0))

def compress (r : Registers) (block : List Nat) : Registers :=
  r.add (rounds roundConstants block r)

/-- Big-endian bytes of `n`, `width` of them. -/
def bigEndian : Nat → Nat → List Nat
  | 0, _ => []
  | width + 1, n => (n >>> (8 * width)) % 256 :: bigEndian width n

def wordsOfBytes : List Nat → List Nat
  | a :: b :: c :: d :: rest =>
    (((a * 256 + b) * 256 + c) * 256 + d) :: wordsOfBytes rest
  | _ => []

/-- The padded message: a one bit, zeros up to 56 bytes modulo 64, and the
message length in bits. -/
def pad (message : List Nat) : List Nat :=
  message ++ [0x80] ++ List.replicate ((119 - message.length % 64) % 64) 0 ++
    bigEndian 8 (8 * message.length)

/-- The blocks of the padded message, one for each unit of the first argument. -/
def absorb : Nat → List Nat → Registers → Registers
  | 0, _, r => r
  | blocks + 1, words, r => absorb blocks (words.drop 16) (compress r (words.take 16))

/-- The 32 digest bytes of a byte string. -/
def digest (message : List Nat) : List Nat :=
  let words := wordsOfBytes (pad message)
  (absorb (words.length / 16) words initialHash).words.flatMap (bigEndian 4)

def hexDigit (n : Nat) : Char :=
  ['0', '1', '2', '3', '4', '5', '6', '7', '8', '9', 'a', 'b', 'c', 'd', 'e', 'f'].getD n '0'

def hexByte (n : Nat) : List Char := [hexDigit (n / 16 % 16), hexDigit (n % 16)]

/-- `hashlib.sha256(message).hexdigest()`. -/
def hexdigest (message : List Nat) : String :=
  String.ofList ((digest message).flatMap hexByte)

def hmacKeyBlock (key : List Nat) : List Nat :=
  let short := if key.length > 64 then digest key else key
  short ++ List.replicate (64 - short.length) 0

/-- `hmac.new(key, message, sha256).hexdigest()`. -/
def hmacHexdigest (key message : List Nat) : String :=
  let block := hmacKeyBlock key
  hexdigest (block.map (0x5c ^^^ ·) ++ digest (block.map (0x36 ^^^ ·) ++ message))

def isHexChar (c : Char) : Bool :=
  ('0' ≤ c && c ≤ '9') || ('a' ≤ c && c ≤ 'f')

/-- `^[0-9a-f]{64}$` under `fullmatch`. -/
def isSha256 (s : String) : Bool :=
  s.toList.length == 64 && s.toList.all isHexChar

private theorem hexDigit_isHexChar (n : Nat) : isHexChar (hexDigit n) = true := by
  by_cases h : n < 16
  · revert n
    decide
  · have hd : hexDigit n = '0' := by
      unfold hexDigit
      rw [List.getD_eq_getElem?_getD, List.getElem?_eq_none (by simpa using h)]
      rfl
    rw [hd]
    rfl

private theorem bigEndian_length (width n : Nat) : (bigEndian width n).length = width := by
  induction width with
  | zero => rfl
  | succ width ih => simp [bigEndian, ih]

theorem digest_length (message : List Nat) : (digest message).length = 32 := by
  simp [digest, Registers.words, bigEndian_length]

theorem hexdigest_isSha256 (message : List Nat) :
    isSha256 (hexdigest message) = true := by
  have hlength : ((digest message).flatMap hexByte).length = 64 := by
    simp [List.length_flatMap, hexByte, List.map_const', digest_length]
  have hchars : ∀ c ∈ (digest message).flatMap hexByte, isHexChar c = true := by
    intro c hc
    obtain ⟨byte, -, hbyte⟩ := List.mem_flatMap.mp hc
    simp only [hexByte, List.mem_cons, List.not_mem_nil, or_false] at hbyte
    rcases hbyte with rfl | rfl <;> exact hexDigit_isHexChar _
  simp only [isSha256, hexdigest, String.toList_ofList, hlength, beq_self_eq_true,
    Bool.true_and, List.all_eq_true]
  exact hchars

example : (digest [0x61, 0x62, 0x63]).take 8 =
    [0xba, 0x78, 0x16, 0xbf, 0x8f, 0x01, 0xcf, 0xea] := by
  decide

end JlensEvolve.Library.Sha256

/-!
SHA-256 once more, with the primitive operations of natural numbers and with
registers and schedule as separate arguments. A kernel evaluates this form some
twenty times faster; digests of concrete messages are evaluated through it.
-/

namespace JlensEvolve.Library.Sha256

namespace Words

def rotr (k x : Nat) : Nat :=
  Nat.mod (Nat.lor (Nat.shiftRight x k) (Nat.shiftLeft x (Nat.sub 32 k))) 0x100000000

def xor3 (x y z : Nat) : Nat := Nat.xor (Nat.xor x y) z

def choose (x y z : Nat) : Nat :=
  Nat.xor (Nat.land x y) (Nat.land (Nat.sub 0xffffffff x) z)

def majority (x y z : Nat) : Nat := xor3 (Nat.land x y) (Nat.land x z) (Nat.land y z)

/-- The schedule word that follows sixteen, of which it reads four. -/
def nextWord (w0 w1 w9 w14 : Nat) : Nat :=
  Nat.mod (Nat.add (Nat.add (Nat.add
    (xor3 (rotr 17 w14) (rotr 19 w14) (Nat.shiftRight w14 10)) w9)
    (xor3 (rotr 7 w1) (rotr 18 w1) (Nat.shiftRight w1 3))) w0) 0x100000000

def rounds : List Nat → Nat → Nat → Nat → Nat → Nat → Nat → Nat → Nat →
    Nat → Nat → Nat → Nat → Nat → Nat → Nat → Nat → Nat → Nat → Nat → Nat → Nat → Nat → Nat →
    Nat → Registers
  | [], a, b, c, d, e, f, g, h, _, _, _, _, _, _, _, _, _, _, _, _, _, _, _, _ =>
    ⟨a, b, c, d, e, f, g, h⟩
  | constant :: constants, a, b, c, d, e, f, g, h,
      w0, w1, w2, w3, w4, w5, w6, w7, w8, w9, w10, w11, w12, w13, w14, w15 =>
      (fun t1 => rounds constants
        (Nat.mod (Nat.add t1
          (Nat.add (xor3 (rotr 2 a) (rotr 13 a) (rotr 22 a)) (majority a b c))) 0x100000000)
        a b c (Nat.mod (Nat.add d t1) 0x100000000) e f g
        w1 w2 w3 w4 w5 w6 w7 w8 w9 w10 w11 w12 w13 w14 w15 (nextWord w0 w1 w9 w14))
      (Nat.add (Nat.add (Nat.add (Nat.add h (xor3 (rotr 6 e) (rotr 11 e) (rotr 25 e)))
        (choose e f g)) constant) w0)

theorem rounds_eq (constants : List Nat) (a b c d e f g h w0 w1 w2 w3 w4 w5 w6 w7 w8 w9 w10 w11
    w12 w13 w14 w15 : Nat) :
    Sha256.rounds constants [w0, w1, w2, w3, w4, w5, w6, w7, w8, w9, w10, w11, w12, w13, w14, w15]
        ⟨a, b, c, d, e, f, g, h⟩ =
      rounds constants a b c d e f g h w0 w1 w2 w3 w4 w5 w6 w7 w8 w9 w10 w11 w12 w13 w14 w15 := by
  induction constants generalizing a b c d e f g h w0 w1 w2 w3 w4 w5 w6 w7 w8 w9 w10 w11 w12 w13
    w14 w15 with
  | nil => rfl
  | cons constant constants ih => exact ih _ _ _ _ _ _ _ _ _ _ _ _ _ _ _ _ _ _ _ _ _ _ _ _

def compress (r : Registers) (w : List Nat) : Registers :=
  r.add (rounds roundConstants r.a r.b r.c r.d r.e r.f r.g r.h
    (w.getD 0 0) (w.getD 1 0) (w.getD 2 0) (w.getD 3 0) (w.getD 4 0) (w.getD 5 0) (w.getD 6 0)
    (w.getD 7 0) (w.getD 8 0) (w.getD 9 0) (w.getD 10 0) (w.getD 11 0) (w.getD 12 0)
    (w.getD 13 0) (w.getD 14 0) (w.getD 15 0))

theorem take_eq_map_getD {w : List Nat} {n : Nat} (h : n ≤ w.length) :
    w.take n = (List.range n).map fun i => w.getD i 0 := by
  apply List.ext_getElem
  · simp [h]
  · intro i hi _
    have hlength : i < w.length := by
      rw [List.length_take] at hi
      omega
    simp [hlength]

theorem compress_eq (r : Registers) {w : List Nat} (h : 16 ≤ w.length) :
    Sha256.compress r (w.take 16) = compress r w := by
  obtain ⟨a, b, c, d, e, f, g, k⟩ := r
  rw [take_eq_map_getD h]
  exact congrArg (Registers.add _) (rounds_eq _ _ _ _ _ _ _ _ _ _ _ _ _ _ _ _ _ _ _ _ _ _ _ _ _)

/-- The blocks of a message, one for each unit, through a compression. -/
def absorb (compression : Registers → List Nat → Registers) :
    Nat → List Nat → Registers → Registers
  | 0, _, r => r
  | blocks + 1, w, r => absorb compression blocks (w.drop 16) (compression r w)

theorem absorb_congr {first second : Registers → List Nat → Registers}
    (hsame : ∀ r w, 16 ≤ w.length → first r w = second r w) (blocks : Nat) (w : List Nat)
    (r : Registers) (h : 16 * blocks ≤ w.length) :
    absorb first blocks w r = absorb second blocks w r := by
  induction blocks generalizing w r with
  | zero => rfl
  | succ blocks ih =>
    rw [absorb, absorb, hsame r w (by omega)]
    apply ih
    rw [List.length_drop]
    omega

theorem absorb_succ (blocks : Nat) (w : List Nat) (r : Registers) :
    Sha256.absorb (blocks + 1) w r =
      Sha256.absorb blocks (w.drop 16) (Sha256.compress r (w.take 16)) := by
  delta Sha256.absorb Sha256.absorb._f
  generalize Sha256.compress = compression
  rfl

theorem absorb_compress (blocks : Nat) (w : List Nat) (r : Registers) :
    Sha256.absorb blocks w r =
      absorb (fun r w => Sha256.compress r (w.take 16)) blocks w r := by
  induction blocks generalizing w r with
  | zero => rfl
  | succ blocks ih => rw [absorb_succ, absorb, ih]

def hexdigest (message : List Nat) : String :=
  let words := wordsOfBytes (pad message)
  String.ofList (((absorb compress (words.length / 16) words initialHash).words.flatMap
    (bigEndian 4)).flatMap hexByte)

theorem hexdigest_eq (message : List Nat) : Sha256.hexdigest message = hexdigest message := by
  have habsorb := absorb_congr (fun r w => compress_eq r (w := w))
    ((wordsOfBytes (pad message)).length / 16) _ initialHash (Nat.mul_div_le _ _)
  rw [Sha256.hexdigest, digest, hexdigest, absorb_compress, habsorb]

end Words

end JlensEvolve.Library.Sha256
