import AdminAuthority.Model.Platform

namespace AdminAuthority

/-- The errors of the shared `authority` crate. -/
inductive AuthorityError where
  | invalidCandidate
  | undeployedPda
  | candidateMismatch
  | notHolder
  | renounced
  | missingSignature
  | slotOutOfBounds
  | unownedSigner
  | noNomination
  | notNominee
deriving DecidableEq

inductive AdminError where
  | notInitialized
  | renounced
  | notAdmin
  | missingSignature
  | invalidCandidate
  | undeployedPda
  | candidateMismatch
  | encodingFailed
  | decodingFailed
  | accountDataTooLarge
  | slotOutOfBounds
  | unownedSigner
  | noNomination
  | notNominee
  | notGenesisAdmin
  | configNotOwned
deriving DecidableEq

/-- The stable code of an error, in the 1xx block. -/
def AdminError.code : AdminError → Nat
  | notInitialized => 101
  | renounced => 102
  | notAdmin => 103
  | missingSignature => 104
  | invalidCandidate => 105
  | undeployedPda => 106
  | candidateMismatch => 107
  | encodingFailed => 108
  | decodingFailed => 109
  | accountDataTooLarge => 110
  | slotOutOfBounds => 111
  | unownedSigner => 112
  | noNomination => 113
  | notNominee => 114
  | notGenesisAdmin => 115
  | configNotOwned => 116

/-- The `Display` text of an error. -/
def AdminError.message : AdminError → String
  | notInitialized => "admin authority not initialized"
  | renounced => "admin authority renounced"
  | notAdmin => "signer is not the current admin"
  | missingSignature => "admin signature missing"
  | invalidCandidate => "invalid admin candidate"
  | undeployedPda => "candidate PDA is not deployed"
  | candidateMismatch => "candidate address mismatch"
  | encodingFailed => "AdminConfig encoding failed"
  | decodingFailed => "AdminConfig decoding failed"
  | accountDataTooLarge => "AdminConfig too large for account data"
  | slotOutOfBounds => "embedded slot window out of bounds"
  | unownedSigner => "admin key is owned by no program"
  | noNomination => "no admin nominee to accept"
  | notNominee => "signer is not the admin nominee"
  | notGenesisAdmin => "signer is not this build's genesis admin"
  | configNotOwned => "admin config is not owned by this program"

/-- `From<AuthorityError> for AdminError`. -/
def AdminError.ofAuthority : AuthorityError → AdminError
  | .invalidCandidate => .invalidCandidate
  | .undeployedPda => .undeployedPda
  | .candidateMismatch => .candidateMismatch
  | .notHolder => .notAdmin
  | .renounced => .renounced
  | .missingSignature => .missingSignature
  | .slotOutOfBounds => .slotOutOfBounds
  | .unownedSigner => .unownedSigner
  | .noNomination => .noNomination
  | .notNominee => .notNominee

/-- The framework errors that the library, its samples and SPEL's checks raise. -/
inductive SpelError where
  | custom (code : Nat) (message : String)
  | serializationError (message : String)
  | accountAlreadyInitialized (accountIndex : Nat)
deriving DecidableEq

/-- `From<AdminError> for SpelError`. -/
def SpelError.ofAdmin (e : AdminError) : SpelError := .custom e.code e.message

end AdminAuthority
