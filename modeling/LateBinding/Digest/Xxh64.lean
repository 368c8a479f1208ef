/-!
The 64-bit XXH digest of a list of bytes. All arithmetic wraps at 64 bits.
Input of 32 bytes or more runs through four lanes; what is left over after the
last full stripe is folded in word by word, then as a half word, then bytewise.
-/

namespace LateBinding.Digest.Xxh64

def prime1 : UInt64 := 0x9e3779b185ebca87
def prime2 : UInt64 := 0xc2b2ae3d27d4eb4f
def prime3 : UInt64 := 0x165667b19e3779f9
def prime4 : UInt64 := 0x85ebca77c2b2ae63
def prime5 : UInt64 := 0x27d4eb2f165667c5

def rotateLeft (word count : UInt64) : UInt64 :=
  (word <<< count) ||| (word >>> (64 - count))

/-- Bytes as one number, the first byte lowest. -/
def littleEndian (bytes : List UInt8) : UInt64 :=
  bytes.foldr (fun byte rest => (rest <<< 8) ||| byte.toUInt64) 0

/-- The full words of the input, and the at most seven bytes after them. -/
def words : List UInt8 → List UInt64 × List UInt8
  | a :: b :: c :: d :: e :: f :: g :: h :: rest =>
      let later := words rest
      (littleEndian [a, b, c, d, e, f, g, h] :: later.1, later.2)
  | tail => ([], tail)

def round (lane word : UInt64) : UInt64 :=
  rotateLeft (lane + word * prime2) 31 * prime1

structure Lanes where
  a : UInt64
  b : UInt64
  c : UInt64
  d : UInt64

def Lanes.ofSeed (seed : UInt64) : Lanes :=
  ⟨seed + prime1 + prime2, seed + prime2, seed, seed - prime1⟩

def Lanes.stripes : Lanes → List UInt64 → Lanes × List UInt64
  | lanes, w :: x :: y :: z :: rest =>
      Lanes.stripes ⟨round lanes.a w, round lanes.b x, round lanes.c y, round lanes.d z⟩ rest
  | lanes, rest => (lanes, rest)

def mergeLane (hash lane : UInt64) : UInt64 :=
  (hash ^^^ round 0 lane) * prime1 + prime4

def Lanes.join (lanes : Lanes) : UInt64 :=
  let sum := rotateLeft lanes.a 1 + rotateLeft lanes.b 7 +
    rotateLeft lanes.c 12 + rotateLeft lanes.d 18
  [lanes.a, lanes.b, lanes.c, lanes.d].foldl mergeLane sum

def takeWord (hash word : UInt64) : UInt64 :=
  rotateLeft (hash ^^^ round 0 word) 27 * prime1 + prime4

def takeHalf (hash half : UInt64) : UInt64 :=
  rotateLeft (hash ^^^ half * prime1) 23 * prime2 + prime3

def takeByte (hash : UInt64) (byte : UInt8) : UInt64 :=
  rotateLeft (hash ^^^ byte.toUInt64 * prime5) 11 * prime1

def takeTail (hash : UInt64) : List UInt8 → UInt64
  | a :: b :: c :: d :: rest => rest.foldl takeByte (takeHalf hash (littleEndian [a, b, c, d]))
  | rest => rest.foldl takeByte hash

def shiftXor (word count : UInt64) : UInt64 :=
  word ^^^ (word >>> count)

def avalanche (hash : UInt64) : UInt64 :=
  shiftXor (shiftXor (shiftXor hash 33 * prime2) 29 * prime3) 32

/-- The state after the full stripes, and the words behind them. Input that
has no full stripe never enters the lanes. -/
def opening (seed : UInt64) (input : List UInt64) : UInt64 × List UInt64 :=
  if input.length < 4 then (seed + prime5, input)
  else
    let run := (Lanes.ofSeed seed).stripes input
    (run.1.join, run.2)

def digest (seed : UInt64) (bytes : List UInt8) : UInt64 :=
  let split := words bytes
  let start := opening seed split.1
  let absorbed := start.2.foldl takeWord (start.1 + UInt64.ofNat bytes.length)
  avalanche (takeTail absorbed split.2)

/-- The digest of a text's UTF-8 bytes, with seed zero. -/
def ofText (text : String) : UInt64 :=
  digest 0 text.toUTF8.data.toList

def ofWord (seed word : UInt64) : UInt64 :=
  digest seed ((List.range 8).map fun i => (word >>> UInt64.ofNat (8 * i)).toUInt8)

end LateBinding.Digest.Xxh64
