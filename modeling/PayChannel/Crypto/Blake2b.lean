import PayChannel.Bytes

/-!
# BLAKE2b with digests of 32 bytes

The message is cut into blocks of 128 bytes, the last one filled up with zeros.  Each block is
stirred into the eight words of the state by twelve rounds over sixteen words.

* `length_digest`    a digest is 32 bytes long.
-/

namespace PayChannel.Blake2b

/-- square roots of the first eight primes -/
def startWords : Vector UInt64 8 :=
  #v[0x6a09e667f3bcc908, 0xbb67ae8584caa73b, 0x3c6ef372fe94f82b, 0xa54ff53a5f1d36f1,
     0x510e527fade682d1, 0x9b05688c2b3e6c1f, 0x1f83d9abfb41bd6b, 0x5be0cd19137e2179]

/-- the order in which each round takes the words of the block -/
def permutations : List (Vector (Fin 16) 16) :=
  [#v[0, 1, 2, 3, 4, 5, 6, 7, 8, 9, 10, 11, 12, 13, 14, 15],
   #v[14, 10, 4, 8, 9, 15, 13, 6, 1, 12, 0, 2, 11, 7, 5, 3],
   #v[11, 8, 12, 0, 5, 2, 15, 13, 10, 14, 3, 6, 7, 1, 9, 4],
   #v[7, 9, 3, 1, 13, 12, 11, 14, 2, 6, 5, 10, 4, 0, 15, 8],
   #v[9, 0, 5, 7, 2, 4, 10, 15, 14, 1, 11, 12, 6, 8, 3, 13],
   #v[2, 12, 6, 10, 0, 11, 8, 3, 4, 13, 7, 5, 15, 14, 1, 9],
   #v[12, 5, 1, 15, 14, 13, 4, 10, 0, 7, 6, 3, 9, 2, 8, 11],
   #v[13, 11, 7, 14, 12, 1, 3, 9, 5, 0, 15, 4, 8, 6, 2, 10],
   #v[6, 15, 14, 9, 11, 3, 0, 8, 12, 2, 13, 7, 1, 4, 10, 5],
   #v[10, 2, 8, 4, 7, 6, 1, 5, 15, 11, 9, 14, 3, 12, 13, 0]]

/-- the bits of `x` turned right by `n` places, for `n` from 1 to 63 -/
def rotateRight (x n : UInt64) : UInt64 :=
  (x >>> n) ||| (x <<< (64 - n))

def mix (v : Vector UInt64 16) (a b c d : Fin 16) (x y : UInt64) : Vector UInt64 16 :=
  let va := v[a] + v[b] + x
  let vd := rotateRight (v[d] ^^^ va) 32
  let vc := v[c] + vd
  let vb := rotateRight (v[b] ^^^ vc) 24
  let va := va + vb + y
  let vd := rotateRight (vd ^^^ va) 16
  let vc := vc + vd
  let vb := rotateRight (vb ^^^ vc) 63
  (((v.set a va).set b vb).set c vc).set d vd

/-- one round: the four columns, then the four diagonals -/
def round (m : Vector UInt64 16) (v : Vector UInt64 16) (order : Vector (Fin 16) 16) :
    Vector UInt64 16 :=
  let v := mix v 0 4 8 12 m[order[0]] m[order[1]]
  let v := mix v 1 5 9 13 m[order[2]] m[order[3]]
  let v := mix v 2 6 10 14 m[order[4]] m[order[5]]
  let v := mix v 3 7 11 15 m[order[6]] m[order[7]]
  let v := mix v 0 5 10 15 m[order[8]] m[order[9]]
  let v := mix v 1 6 11 12 m[order[10]] m[order[11]]
  let v := mix v 2 7 8 13 m[order[12]] m[order[13]]
  mix v 3 4 9 14 m[order[14]] m[order[15]]

def blockWords (block : Bytes) : Vector UInt64 16 :=
  let pieces := Bytes.pieces 8 16 block
  Vector.ofFn fun i => UInt64.ofNat (Bytes.ofLittleEndian (pieces.getD i []))

/-- the state after one more block, `count` bytes having been taken in so far -/
def compress (h : Vector UInt64 8) (count : Nat) (isLast : Bool) (block : Bytes) :
    Vector UInt64 8 :=
  let v : Vector UInt64 16 := h ++ startWords
  let v := v.set 12 (v[12] ^^^ UInt64.ofNat count)
  let v := v.set 13 (v[13] ^^^ UInt64.ofNat (count / Nat.pow 2 64))
  let v := if isLast then v.set 14 (~~~ v[14]) else v
  let w := (permutations ++ permutations.take 2).foldl (round (blockWords block)) v
  Vector.ofFn fun i : Fin 8 => h[i] ^^^ w[i.val] ^^^ w[i.val + 8]

/-- the state after all blocks of a message, `count` bytes having been taken in before them and
`more` whole blocks coming before the last one -/
def absorb (h : Vector UInt64 8) (count : Nat) : Nat → Bytes → Vector UInt64 8
  | 0, rest => compress h (count + rest.length) true rest
  | more + 1, rest => absorb (compress h (count + 128) false (rest.take 128)) (count + 128) more
      (rest.drop 128)

/-- the state before the first block: unkeyed, for digests of 32 bytes -/
def initial : Vector UInt64 8 :=
  startWords.set 0 (startWords[0] ^^^ 0x01010020)

def digest (message : Bytes) : Bytes :=
  let h := absorb initial 0 ((message.length - 1) / 128) message
  (h.toList.take 4).flatMap fun w => Bytes.littleEndian 8 w.toNat

theorem length_digest (message : Bytes) : (digest message).length = 32 := by
  simp [digest, Bytes.length_littleEndian, List.map_const']

end PayChannel.Blake2b
