import Mathlib.Logic.Equiv.Defs
import Capsrv.Types

/-! # The path cipher

AES-128 under the path key, taken as a permutation of 16-byte blocks. The
source passes the blocks as pairs of `u64` and as byte arrays; in memory both
are little-endian.
-/

namespace Capsrv

abbrev Block := Fin 16 → UInt8

namespace Block

def ofWords (low high : UInt64) : Block := fun index =>
  if index.val < 8 then (low.toNat / 256 ^ index.val % 256).toUInt8
  else (high.toNat / 256 ^ (index.val - 8) % 256).toUInt8

/-- The little-endian word of eight bytes. -/
def word (bytes : Fin 8 → UInt8) : UInt64 :=
  UInt64.ofNat ((List.ofFn bytes).foldr (fun byte value => byte.toNat + 256 * value) 0)

def low (block : Block) : UInt64 :=
  word fun index => block (Fin.castAdd 8 index)

def high (block : Block) : UInt64 :=
  word fun index => block (Fin.natAdd 8 index)

def ofBytes (bytes : List UInt8) : Block := fun index =>
  bytes.getD index.val 0

end Block

/-- AES-128 under `path_key`. -/
abbrev PathCipher := Equiv.Perm Block

namespace PathCipher

def encryptExtraPath (cipher : PathCipher) (applicationId : UInt64) : Block :=
  cipher (Block.ofWords applicationId 0)

/-- The flag goes into the last byte of the block, not into the second word. -/
def encryptFileExtension (cipher : PathCipher) (applicationId : UInt64)
    (isExtra : Bool) : Block :=
  cipher (Function.update (Block.ofWords applicationId 0) 15 isExtra.toUInt8)

/-- The two words of the decrypted block. -/
def decrypt (cipher : PathCipher) (block : Block) : UInt64 × UInt64 :=
  ((cipher.symm block).low, (cipher.symm block).high)

end PathCipher

end Capsrv
