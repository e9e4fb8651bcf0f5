import AdminAuthority.Model.Chain

/-! One concrete platform and `authority` crate with the documented behaviour.
The assumptions the development makes about them can be met together. The PDA
derivation and the seeds are stand-ins: they hash nothing, so no result rests on
them. -/

namespace AdminAuthority.Reference
open Handover

scoped instance : Lez where
  dataMaxLength := 100 * 1024
  forPublicPda _ seed := ⟨seed⟩
  publicAccountNonceIncrement nonce := nonce + 1
  seedFromStr text := Vector.replicate 32 (UInt8.ofNat (200 + text.length))

scoped instance : Build where
  programId := Vector.replicate 8 7
  deployed := by decide
  GENESIS := none

def checkPost (pre : AccountWithMetadata) (post : AccountPostState) : Bool :=
  post.account.nonce = pre.account.nonce ∧ post.account.programOwner = pre.account.programOwner ∧
    post.account.balance = pre.account.balance ∧
    (post.account.data = pre.account.data ∨ pre.account.programOwner = Build.programId ∨
      pre.account = default) ∧
    (post.account.programOwner = default → pre.account = default)

def checkPosts : List AccountWithMetadata → List AccountPostState → Bool
  | [], [] => true
  | before :: pre, post :: posts => checkPost before post && checkPosts pre posts
  | _, _ => false

scoped instance : ExecutionCheck where
  validateExecution pre posts _ := checkPosts pre posts

scoped instance : LawfulCheck where
  accepts pre posts h := by
    induction h with
    | nil => rfl
    | cons hp _ ih =>
      refine Bool.and_eq_true_iff.mpr ⟨decide_eq_true ?_, ih⟩
      exact ⟨hp.nonce, hp.programOwner, hp.balance, hp.data, hp.unowned⟩

theorem checkPosts_rules : ∀ pre posts, checkPosts pre posts = true →
    List.Forall₂ PostRule pre posts
  | [], [], _ => .nil
  | before :: pre, post :: posts, h => by
    obtain ⟨hp, hrest⟩ := Bool.and_eq_true_iff.mp h
    obtain ⟨hnonce, howner, hbalance, hdata, hunowned⟩ := of_decide_eq_true hp
    exact .cons ⟨hnonce, howner, hbalance, hdata, hunowned⟩ (checkPosts_rules pre posts hrest)

scoped instance : StrictCheck where
  asks pre posts h := checkPosts_rules pre posts h

def pending (s : AdminSeat) : Option AccountId :=
  if s.nominee = default then none else some s.nominee

def assert (s : AdminSeat) (signer : AccountWithMetadata) : Except AuthorityError Unit :=
  if s.holder = default then .error .renounced
  else if signer.isAuthorized = false then .error .missingSignature
  else if signer.accountId ≠ s.holder then .error .notHolder
  else .ok ()

def acceptCheck (s : AdminSeat) (nominee : AccountWithMetadata) : Except AuthorityError Unit :=
  if pending s = none then .error .noNomination
  else if nominee.isAuthorized = false then .error .missingSignature
  else if some nominee.accountId ≠ pending s then .error .notNominee
  else if nominee.account.programOwner = default then .error .unownedSigner
  else .ok ()

def accept (s : AdminSeat) (nominee : AccountWithMetadata) :
    Except AuthorityError Unit × AdminSeat :=
  match acceptCheck s nominee with
  | .ok () => (.ok (), ⟨nominee.accountId, default⟩)
  | .error e => (.error e, s)

def validate (c : AuthorityCandidate) (a : AccountWithMetadata) : Except AuthorityError AccountId :=
  match c with
  | .signer =>
    if a.isAuthorized = false ∨ a.accountId = default then .error .invalidCandidate
    else if a.account.programOwner = default then .error .unownedSigner
    else .ok a.accountId
  | .pda programId seed =>
    if a.accountId ≠ Lez.forPublicPda programId seed then .error .candidateMismatch
    else if a.account.programOwner = default then .error .undeployedPda
    else if a.accountId = default then .error .invalidCandidate
    else .ok a.accountId

scoped instance : AuthorityCrate where
  Slot := AdminSeat
  defaultSlot := ⟨default, default⟩
  initializeSlot id := if id = default then .error .invalidCandidate else .ok ⟨id, default⟩
  assert := assert
  holder s := s.holder
  pending := pending
  isRenounced s := decide (s.holder = default)
  transferTo s next :=
    if next = default then (.error .invalidCandidate, s) else (.ok (), ⟨next, default⟩)
  nominate s id := ⟨s.holder, id⟩
  accept := accept
  renounce _ := ⟨default, default⟩
  readAt bytes o :=
    if h : o + 64 ≤ bytes.length then
      .ok (AdminSeat.readAt bytes o h)
    else .error .slotOutOfBounds
  writeAt s bytes o :=
    if o + 64 ≤ bytes.length then (.ok (), Window.splice bytes o s.bytes)
    else (.error .slotOutOfBounds, bytes)
  toVec s := some s.bytes
  tryFromSlice bytes := if h : bytes.length = 64 then some (AdminSeat.ofBytes bytes h) else none
  validate := validate

theorem seat_eq (s : AdminSeat) : AuthorityCrate.seat (s : AuthorityCrate.Slot) = s := by
  change (⟨s.holder, (pending s).getD default⟩ : AdminSeat) = s
  unfold pending
  split
  · rename_i h
    simp [← h]
  · rfl

theorem validate_ok_iff (c : AuthorityCandidate) (a : AccountWithMetadata) (id : AccountId) :
    validate c a = .ok id ↔ id = a.accountId ∧ c.Eligible a := by
  cases c with
  | signer =>
    simp only [validate, AuthorityCandidate.Eligible]
    by_cases hs : a.isAuthorized = false ∨ a.accountId = default
    · rw [if_pos hs]
      rcases hs with h | h <;> simp [h]
    · rw [if_neg hs]
      simp only [not_or, Bool.not_eq_false] at hs
      by_cases ho : a.account.programOwner = default
      · simp [ho]
      · simp [ho, hs, eq_comm]
  | pda programId seed =>
    simp only [validate, AuthorityCandidate.Eligible]
    by_cases hm : a.accountId = Lez.forPublicPda programId seed
    · rw [if_neg (fun h => h hm), eq_comm (a := id)]
      by_cases ho : a.account.programOwner = default
      · simp [ho]
      · by_cases hd : a.accountId = default
        · simp [ho, hd]
        · simp [ho, hd, ← hm]
    · simp [hm]

theorem accept_result (s : AdminSeat) (nominee : AccountWithMetadata) :
    (accept s nominee).1 = acceptCheck s nominee := by
  unfold accept
  cases acceptCheck s nominee <;> rfl

scoped instance : LawfulAuthority where
  seat_injective s t h := by simpa only [seat_eq] using h
  pending_ne_default s h := by
    change pending s = some default at h
    unfold pending at h
    split at h
    · cases h
    · rename_i hn
      exact hn (Option.some.inj h)
  isRenounced_iff _ := decide_eq_true_iff
  defaultSlot_seat := seat_eq _
  initialize_default := if_pos rfl
  initialize_ok id h := ⟨⟨id, default⟩, if_neg h, seat_eq _⟩
  assert_eq _ _ := rfl
  transferTo_ok s next h := by
    change (if next = default then _ else _ : Except AuthorityError Unit × AdminSeat).1 = _ ∧
      AuthorityCrate.seat
        (if next = default then _ else _ : Except AuthorityError Unit × AdminSeat).2 = _
    rw [if_neg h]
    exact ⟨rfl, seat_eq _⟩
  transferTo_error s next e h := by
    change (if next = default then _ else _ : Except AuthorityError Unit × AdminSeat).2 = s
    change (if next = default then _ else _ : Except AuthorityError Unit × AdminSeat).1 = _ at h
    split
    · rfl
    · rename_i hn
      rw [if_neg hn] at h
      cases h
  nominate_seat _ _ := seat_eq _
  accept_result s nominee := accept_result s nominee
  accept_ok s nominee h := by
    have hc : acceptCheck s nominee = .ok () := (accept_result s nominee).symm.trans h
    change AuthorityCrate.seat (accept s nominee).2 = _
    rw [accept, hc]
    exact seat_eq _
  accept_error s nominee e h := by
    have hc : acceptCheck s nominee = .error e := (accept_result s nominee).symm.trans h
    change (accept s nominee).2 = s
    rw [accept, hc]
  renounce_seat _ := seat_eq _
  toVec_eq s := by rw [seat_eq]; rfl
  tryFromSlice_ok bytes h :=
    ⟨AdminSeat.ofBytes bytes h, dif_pos h, by rw [seat_eq, AdminSeat.bytes_ofBytes]⟩
  tryFromSlice_none _ h := dif_neg h
  readAt_ok bytes o h :=
    ⟨AdminSeat.readAt bytes o h, dif_pos h, by rw [seat_eq, AdminSeat.bytes_readAt]⟩
  readAt_short _ _ h := dif_neg (by omega)
  writeAt_ok s bytes o h := by rw [seat_eq]; exact if_pos h
  writeAt_short s bytes o h := by
    change (if o + 64 ≤ bytes.length then _ else _ : Except AuthorityError Unit × List UInt8).1 = _
    rw [if_neg (by omega)]
  validate_ok_iff := validate_ok_iff

/-- An id that repeats one byte. -/
def id (byte : UInt8) : AccountId := ⟨Vector.replicate 32 byte⟩

/-- A key that some program owns and that signs, or one that does neither. -/
def acct (byte : UInt8) (signed : Bool) : AccountWithMetadata where
  account := { (default : Account) with
    programOwner := if signed then Vector.replicate 8 5 else default }
  isAuthorized := signed
  accountId := id byte

/-- An account that holds the given data, or none if it is over the limit. -/
def holding (bytes : List UInt8) : AccountWithMetadata where
  account := { (default : Account) with data := (Data.tryFrom bytes).getD default }
  isAuthorized := false
  accountId := id 9

/-- A slot that fills its account, which the program has claimed. -/
def dedicated (s : AdminSeat) : AccountWithMetadata where
  account := { (default : Account) with
    programOwner := Build.programId
    data := ⟨s.bytes, by simp [Lez.dataMaxLength]⟩ }
  isAuthorized := false
  accountId := id 9

/-- A slot between eight sentinel bytes on each side. -/
def embedded (s : AdminSeat) : AccountWithMetadata :=
  holding (List.replicate 8 0xAA ++ s.bytes ++ List.replicate 8 0xAA)

/-- A chain with two keys that some program owns, and nothing else yet. -/
def ledger : World := fun other =>
  if other = id 1 then (acct 1 true).account
  else if other = id 2 then (acct 2 true).account
  else default

/-- The chain once a program has created the account of a third key. -/
def withThird (w : World) : World := fun other =>
  if other = id 3 then (acct 3 true).account else w other

end AdminAuthority.Reference
