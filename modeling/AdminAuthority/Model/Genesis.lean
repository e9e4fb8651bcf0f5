import AdminAuthority.Lib.Hex
import AdminAuthority.Model.Platform

/-! The genesis key, read from `SPEL_ADMIN_GENESIS` while the consumer builds. -/

namespace AdminAuthority

/-- A panic of the key parser, which fails the build: one of its own, or one that
arithmetic or an index out of range would raise. -/
inductive GenesisPanic where
  | refused (message : String)
  | subtractOverflow
  | addOverflow
  | indexOutOfBounds
deriving DecidableEq

namespace Genesis

def sub (a b : UInt8) : Except GenesisPanic UInt8 :=
  if b ≤ a then .ok (a - b) else .error .subtractOverflow

def add (a b : UInt8) : Except GenesisPanic UInt8 :=
  if a.toNat + b.toNat < 256 then .ok (a + b) else .error .addOverflow

def index (bytes : List UInt8) (i : Nat) : Except GenesisPanic UInt8 :=
  match bytes[i]? with
  | some c => .ok c
  | none => .error .indexOutOfBounds

def nibble (c : UInt8) : Except GenesisPanic UInt8 :=
  if '0'.toUInt8 ≤ c ∧ c ≤ '9'.toUInt8 then sub c '0'.toUInt8
  else if 'a'.toUInt8 ≤ c ∧ c ≤ 'f'.toUInt8 then do add (← sub c 'a'.toUInt8) 10
  else if 'A'.toUInt8 ≤ c ∧ c ≤ 'F'.toUInt8 then do add (← sub c 'A'.toUInt8) 10
  else .error (.refused "SPEL_ADMIN_GENESIS must be hexadecimal")

/-- The variables of the loop. -/
structure LoopVars where
  key : Vector UInt8 32
  nonzero : Bool

/-- The pass of the loop for the byte at `i`. The shift drops what it pushes out. -/
def loopPass (bytes : List UInt8) (vars : LoopVars) (i : Nat) : Except GenesisPanic LoopVars := do
  let high ← nibble (← index bytes (2 * i))
  let low ← nibble (← index bytes (2 * i + 1))
  let byte := high <<< 4 ||| low
  return ⟨vars.key.setIfInBounds i byte, vars.nonzero || byte != 0⟩

/-- The first `n` passes. -/
def loop (bytes : List UInt8) (n : Nat) : Except GenesisPanic LoopVars :=
  (List.range n).foldlM (loopPass bytes) ⟨Vector.replicate 32 0, false⟩

def genesisFromHex (hex : String) : Except GenesisPanic (Vector UInt8 32) := do
  let bytes := Hex.asBytes hex
  if bytes.length ≠ 64 then
    throw (.refused "SPEL_ADMIN_GENESIS must be 64 hexadecimal characters")
  let vars ← loop bytes 32
  -- The all-zero id is the renounced sentinel, nobody can sign as it.
  if vars.nonzero then return vars.key
  else throw (.refused "SPEL_ADMIN_GENESIS must not be all zeros")

/-- `GENESIS`, from what the build's environment sets. -/
def GENESIS (env : Option String) : Except GenesisPanic (Option (Vector UInt8 32)) :=
  match env with
  | some hex => (genesisFromHex hex).map some
  | none => .ok none

end Genesis
end AdminAuthority
