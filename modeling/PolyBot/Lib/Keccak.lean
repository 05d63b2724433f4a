import Mathlib.Algebra.GroupWithZero.Nat

/-!
# Keccak-256

The hash of a list of bytes as Ethereum computes it: the sponge over the permutation of 25 lanes of
64 bits, at a rate of 136 bytes and with the padding that starts with the byte 1.

* `Keccak.round`, `Keccak.permute`: the permutation.
* `Keccak.keccak256`: the hash, as a word whose first byte is the most significant one.
-/

namespace Keccak

/-- The 25 lanes, the lane of column `x` and row `y` at `x + 5 * y`. -/
abbrev State := List (BitVec 64)

variable (state : State)

def lane (x y : ℕ) : BitVec 64 :=
  state.getD (x % 5 + 5 * (y % 5)) 0

/-- The state with the lane `f x y` in column `x` and row `y`. -/
def build (f : ℕ → ℕ → BitVec 64) : State :=
  (List.range 25).map fun i => f (i % 5) (i / 5)

def rotations : List ℕ :=
  [0, 1, 62, 28, 27, 36, 44, 6, 55, 20, 3, 10, 43, 25, 39, 41, 45, 15, 21, 8, 18, 2, 61, 56, 14]

def roundConstants : List (BitVec 64) :=
  [0x0000000000000001, 0x0000000000008082, 0x800000000000808a, 0x8000000080008000,
   0x000000000000808b, 0x0000000080000001, 0x8000000080008081, 0x8000000000008009,
   0x000000000000008a, 0x0000000000000088, 0x0000000080008009, 0x000000008000000a,
   0x000000008000808b, 0x800000000000008b, 0x8000000000008089, 0x8000000000008003,
   0x8000000000008002, 0x8000000000000080, 0x000000000000800a, 0x800000008000000a,
   0x8000000080008081, 0x8000000000008080, 0x0000000080000001, 0x8000000080008008]

def theta : State :=
  let parity := (List.range 5).map fun x =>
    lane state x 0 ^^^ lane state x 1 ^^^ lane state x 2 ^^^ lane state x 3 ^^^ lane state x 4
  let column := fun x => parity.getD (x % 5) 0
  build fun x y => lane state x y ^^^ column (x + 4) ^^^ (column (x + 1)).rotateLeft 1

/-- The rotations of the lanes and their new places. -/
def rhoPi : State :=
  build fun x y =>
    let source := x + 3 * y
    (lane state source x).rotateLeft (rotations.getD (source % 5 + 5 * x) 0)

def chi : State :=
  build fun x y => lane state x y ^^^ (~~~lane state (x + 1) y &&& lane state (x + 2) y)

def round (constant : BitVec 64) : State :=
  match chi (rhoPi (theta state)) with
  | [] => []
  | first :: rest => (first ^^^ constant) :: rest

def permute : State :=
  roundConstants.foldl round state

def rate : ℕ := 136

/-- The lane of eight bytes, the least significant one first. -/
def laneOfBytes (bytes : List UInt8) : BitVec 64 :=
  BitVec.ofNat 64 (bytes.foldr (fun byte value => byte.toNat + 256 * value) 0)

def absorb (block : List UInt8) : State :=
  permute ((List.range 25).map fun i =>
    state.getD i 0 ^^^ laneOfBytes ((block.drop (8 * i)).take 8))

/-- The message with its padding to whole blocks. -/
def pad (message : List UInt8) : List UInt8 :=
  let missing := rate - message.length % rate
  if missing = 1 then message ++ [0x81]
  else message ++ 0x01 :: List.replicate (missing - 2) 0 ++ [0x80]

def sponge (message : List UInt8) : State :=
  let padded := pad message
  (List.range (padded.length / rate)).foldl
    (fun state i => absorb state ((padded.drop (rate * i)).take rate)) (List.replicate 25 0)

/-- The bytes of a lane, the least significant one first. -/
def bytesOfLane (word : BitVec 64) : List UInt8 :=
  (List.range 8).map fun i => UInt8.ofNat (word.toNat / 256 ^ i % 256)

def keccak256 (message : List UInt8) : BitVec 256 :=
  let digest := ((sponge message).take 4).flatMap bytesOfLane
  BitVec.ofNat 256 (digest.foldl (fun value byte => value * 256 + byte.toNat) 0)

example : keccak256 [] =
    0xc5d2460186f7233c927e7db2dcc703c0e500b653ca82273b7bfad8045d85a470 := by decide +kernel

end Keccak
