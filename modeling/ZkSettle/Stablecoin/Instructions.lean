import ZkSettle.Library.Runs
import ZkSettle.Stablecoin.Token2022

/-!
# Instructions of the stablecoin program

Each instruction has the accounts the caller supplies, the checks Anchor runs on
them before the handler (`load`) and the handler. Anchor creates an `init` account
while it reads the accounts, before it checks the constraints of the others. The
signature of a derived address is a call of the token program under that address.
-/
namespace ZkSettle.Stablecoin

open Checks

variable {Key : Type} [DecidableEq Key]

inductive StablecoinError where
  | unauthorizedAdmin
  | unauthorizedOperator
  | unauthorizedHolder
  | zeroMintAmount
  | zeroBurnAmount
  | invalidNewAdmin
  | invalidNewOperator
  | mintMismatch
  | counterOverflow
  | paused
  | alreadyInState
  | adminAlreadyCurrent
  | notPendingAdmin
  | operatorAlreadyCurrent
  | noPendingAdmin
  | mintCapExceeded
  | mintCapUnchanged
  | zeroRedemptionAmount
  | unauthorizedCanceller
  | accountAlreadyFrozen
  | insufficientBalance
  | tokenAccountMismatch
  deriving DecidableEq, Repr

inductive AnchorError where
  | accountNotInitialized
  | constraintHasOne
  | constraintSeeds
  deriving DecidableEq, Repr

inductive Error where
  | stablecoin (error : StablecoinError)
  | anchor (error : AnchorError)
  | accountAlreadyInUse
  | token (code : Nat)
  deriving DecidableEq, Repr

/-! ## Reading accounts and calling the token program -/

def State.treasury (s : State Key) (address : Address Key) : Except Error (Treasury Key) :=
  okOr (s.treasuries address) (.anchor .accountNotInitialized)

def State.request (s : State Key) (address : Address Key) :
    Except Error (RedemptionRequest Key) :=
  okOr (s.requests address) (.anchor .accountNotInitialized)

def State.mint (s : State Key) (address : Address Key) : Except Error (Mint Key) :=
  okOr (s.bank.mints address) (.anchor .accountNotInitialized)

def State.tokenAccount (s : State Key) (address : Address Key) :
    Except Error (TokenAccount Key) :=
  okOr (s.bank.accounts address) (.anchor .accountNotInitialized)

/-- A call of the token program, signed by `authority`. -/
def State.invoke (process : TokenProgram Key) (s : State Key) (authority : Address Key)
    (op : TokenOp Key) : Except Error (State Key) :=
  match process s.bank authority op with
  | .ok bank => .ok { s with bank }
  | .error code => .error (.token code)

omit [DecidableEq Key] in
@[simp] theorem State.invoke_eq_ok {process : TokenProgram Key} {s s' : State Key}
    {authority : Address Key} {op : TokenOp Key} :
    s.invoke process authority op = .ok s' ↔
      ∃ bank, process s.bank authority op = .ok bank ∧ { s with bank } = s' := by
  unfold invoke
  cases process s.bank authority op <;> simp

def checkedAddU64 (a b : Nat) : Except Error Nat :=
  okOr (checkedAdd U64_SIZE a b) (.stablecoin .counterOverflow)

def thawTokenAccount (process : TokenProgram Key) (s : State Key)
    (tokenAccount mint freezeAuthority : Address Key) : Except Error (State Key) :=
  s.invoke process freezeAuthority (.thawAccount tokenAccount mint)

/-! ## initialize_mint -/

/-- `mintOwner` is the program that owns the mint account. -/
structure InitializeMint (Key : Type) where
  admin : Key
  mint : Address Key
  mintOwner : Address Key
  treasury : Address Key
  mintAuthority : Address Key
  freezeAuthority : Address Key
  escrowAuthority : Address Key

def InitializeMint.load (accounts : InitializeMint Key) (s : State Key) : Except Error Unit := do
  require (accounts.treasury = .treasury accounts.mint) (.anchor .constraintSeeds)
  require (s.treasuries accounts.treasury = none) .accountAlreadyInUse
  require (accounts.mintOwner = .token2022) (.stablecoin .mintMismatch)
  require (accounts.mintAuthority = .mintAuthority accounts.treasury) (.anchor .constraintSeeds)
  require (accounts.freezeAuthority = .freezeAuthority accounts.treasury)
    (.anchor .constraintSeeds)
  require (accounts.escrowAuthority = .escrowAuthority accounts.treasury)
    (.anchor .constraintSeeds)

def initializeMintHandler (process : TokenProgram Key) (s : State Key)
    (accounts : InitializeMint Key) (decimals : Nat) : Except Error (State Key) := do
  accounts.load s
  let s ← s.invoke process (.key accounts.admin)
    (.initializeMint2 accounts.mint decimals accounts.mintAuthority
      (some accounts.freezeAuthority))
  let s := s.setTreasury accounts.treasury
    { admin := .key accounts.admin
      operator := .key accounts.admin
      mint := accounts.mint
      totalMinted := 0
      totalBurned := 0
      decimals
      paused := false
      pendingAdmin := none
      mintCap := 0
      redemptionNonce := 0 }
  pure (s.emit (.mintInitialized accounts.treasury accounts.mint (.key accounts.admin)
    (.key accounts.admin)))

/-! ## mint_tokens -/

structure MintTokens (Key : Type) where
  operator : Key
  treasury : Address Key
  mint : Address Key
  mintAuthority : Address Key
  destination : Address Key

def MintTokens.load (accounts : MintTokens Key) (s : State Key) :
    Except Error (Treasury Key) := do
  let treasury ← s.treasury accounts.treasury
  let _ ← s.mint accounts.mint
  let destination ← s.tokenAccount accounts.destination
  require (accounts.treasury = .treasury treasury.mint) (.anchor .constraintSeeds)
  require (treasury.operator = .key accounts.operator) (.stablecoin .unauthorizedOperator)
  require (accounts.mint = treasury.mint) (.stablecoin .mintMismatch)
  require (accounts.mintAuthority = .mintAuthority accounts.treasury) (.anchor .constraintSeeds)
  require (destination.mint = treasury.mint) (.stablecoin .mintMismatch)
  pure treasury

/-- The cap, where zero means no cap. -/
def checkMintCap (treasury : Treasury Key) (amount : Nat) : Except Error Unit :=
  if 0 < treasury.mintCap then do
    let projected ← checkedAddU64 treasury.totalMinted amount
    require (projected ≤ treasury.mintCap) (.stablecoin .mintCapExceeded)
  else pure ()

def mintTokensHandler (process : TokenProgram Key) (s : State Key) (accounts : MintTokens Key)
    (amount : Nat) : Except Error (State Key) := do
  let treasury ← accounts.load s
  require (treasury.paused = false) (.stablecoin .paused)
  require (0 < amount) (.stablecoin .zeroMintAmount)
  checkMintCap treasury amount
  let s ← s.invoke process accounts.mintAuthority
    (.mintTo accounts.mint accounts.destination amount)
  let totalMinted ← checkedAddU64 treasury.totalMinted amount
  let s := s.setTreasury accounts.treasury { treasury with totalMinted }
  pure (s.emit (.tokensMinted accounts.mint accounts.destination amount (.key accounts.operator)))

/-! ## request_redemption -/

structure RequestRedemption (Key : Type) where
  holder : Key
  treasury : Address Key
  mint : Address Key
  holderTokenAccount : Address Key
  redemptionRequest : Address Key
  escrowAuthority : Address Key
  freezeAuthority : Address Key

def RequestRedemption.load (accounts : RequestRedemption Key) (s : State Key) :
    Except Error (Treasury Key × TokenAccount Key) := do
  let treasury ← s.treasury accounts.treasury
  let _ ← s.mint accounts.mint
  let holderTokenAccount ← s.tokenAccount accounts.holderTokenAccount
  require (accounts.redemptionRequest =
      .redemption accounts.treasury (.key accounts.holder) treasury.redemptionNonce)
    (.anchor .constraintSeeds)
  require (s.requests accounts.redemptionRequest = none) .accountAlreadyInUse
  require (accounts.treasury = .treasury treasury.mint) (.anchor .constraintSeeds)
  require (accounts.mint = treasury.mint) (.stablecoin .mintMismatch)
  require (holderTokenAccount.mint = treasury.mint) (.stablecoin .mintMismatch)
  require (holderTokenAccount.owner = .key accounts.holder) (.stablecoin .unauthorizedHolder)
  require (accounts.escrowAuthority = .escrowAuthority accounts.treasury)
    (.anchor .constraintSeeds)
  require (accounts.freezeAuthority = .freezeAuthority accounts.treasury)
    (.anchor .constraintSeeds)
  pure (treasury, holderTokenAccount)

def requestRedemptionHandler (process : TokenProgram Key) (now : Int) (s : State Key)
    (accounts : RequestRedemption Key) (amount : Nat) : Except Error (State Key) := do
  let (treasury, holderTokenAccount) ← accounts.load s
  require (treasury.paused = false) (.stablecoin .paused)
  require (0 < amount) (.stablecoin .zeroRedemptionAmount)
  require (holderTokenAccount.frozen = false) (.stablecoin .accountAlreadyFrozen)
  require (amount ≤ holderTokenAccount.amount) (.stablecoin .insufficientBalance)
  let nonce := treasury.redemptionNonce
  -- the tokens stay with the holder: an allowance and a freeze are the escrow
  let s ← s.invoke process (.key accounts.holder)
    (.approveChecked accounts.holderTokenAccount accounts.mint accounts.escrowAuthority amount
      treasury.decimals)
  let s ← s.invoke process accounts.freezeAuthority
    (.freezeAccount accounts.holderTokenAccount accounts.mint)
  let s := s.setRequest accounts.redemptionRequest (some
    { holder := .key accounts.holder
      treasury := accounts.treasury
      mint := accounts.mint
      tokenAccount := accounts.holderTokenAccount
      amount
      nonce
      requestedAt := now })
  let redemptionNonce ← checkedAddU64 treasury.redemptionNonce 1
  let s := s.setTreasury accounts.treasury { treasury with redemptionNonce }
  pure (s.emit (.redemptionRequested accounts.mint (.key accounts.holder) amount nonce
    accounts.redemptionRequest))

/-! ## approve_redemption and cancel_redemption -/

/-- The accounts that approve and cancel have in common; `holder` receives the rent. -/
structure RedemptionAccounts (Key : Type) where
  holder : Address Key
  treasury : Address Key
  mint : Address Key
  redemptionRequest : Address Key
  holderTokenAccount : Address Key
  escrowAuthority : Address Key
  freezeAuthority : Address Key

/-- `authorize` is the check of the signer against the treasury. -/
def RedemptionAccounts.load (accounts : RedemptionAccounts Key) (s : State Key)
    (authorize : Treasury Key → Except Error Unit) :
    Except Error (Treasury Key × RedemptionRequest Key) := do
  let treasury ← s.treasury accounts.treasury
  let _ ← s.mint accounts.mint
  let request ← s.request accounts.redemptionRequest
  let holderTokenAccount ← s.tokenAccount accounts.holderTokenAccount
  require (accounts.treasury = .treasury treasury.mint) (.anchor .constraintSeeds)
  authorize treasury
  require (accounts.mint = treasury.mint) (.stablecoin .mintMismatch)
  require (request.treasury = accounts.treasury) (.anchor .constraintHasOne)
  require (request.holder = accounts.holder) (.anchor .constraintHasOne)
  require (request.mint = accounts.mint) (.anchor .constraintHasOne)
  require (accounts.holderTokenAccount = request.tokenAccount)
    (.stablecoin .tokenAccountMismatch)
  require (holderTokenAccount.mint = treasury.mint) (.stablecoin .mintMismatch)
  require (holderTokenAccount.owner = accounts.holder) (.stablecoin .unauthorizedHolder)
  require (accounts.escrowAuthority = .escrowAuthority accounts.treasury)
    (.anchor .constraintSeeds)
  require (accounts.freezeAuthority = .freezeAuthority accounts.treasury)
    (.anchor .constraintSeeds)
  pure (treasury, request)

structure ApproveRedemption (Key : Type) extends RedemptionAccounts Key where
  operator : Key

def ApproveRedemption.load (accounts : ApproveRedemption Key) (s : State Key) :
    Except Error (Treasury Key × RedemptionRequest Key) :=
  accounts.toRedemptionAccounts.load s fun treasury =>
    require (treasury.operator = .key accounts.operator) (.stablecoin .unauthorizedOperator)

def approveRedemptionHandler (process : TokenProgram Key) (s : State Key)
    (accounts : ApproveRedemption Key) : Except Error (State Key) := do
  let (treasury, request) ← accounts.load s
  require (treasury.paused = false) (.stablecoin .paused)
  let s ← thawTokenAccount process s accounts.holderTokenAccount accounts.mint
    accounts.freezeAuthority
  let s ← s.invoke process accounts.escrowAuthority
    (.burn accounts.holderTokenAccount accounts.mint request.amount)
  let totalBurned ← checkedAddU64 treasury.totalBurned request.amount
  let s := s.setTreasury accounts.treasury { treasury with totalBurned }
  let s := s.emit (.redemptionApproved accounts.mint accounts.holder request.amount request.nonce
    (.key accounts.operator))
  -- `close = holder` runs when the handler has returned
  pure (s.setRequest accounts.redemptionRequest none)

structure CancelRedemption (Key : Type) extends RedemptionAccounts Key where
  canceller : Key

def CancelRedemption.load (accounts : CancelRedemption Key) (s : State Key) :
    Except Error (Treasury Key × RedemptionRequest Key) :=
  accounts.toRedemptionAccounts.load s fun _ => pure ()

def isExpired (now : Int) (request : RedemptionRequest Key) : Bool :=
  match checkedSubI64 now request.requestedAt with
  | some elapsed => REDEMPTION_EXPIRY_SECS ≤ elapsed
  | none => false

def cancelRedemptionHandler (process : TokenProgram Key) (now : Int) (s : State Key)
    (accounts : CancelRedemption Key) : Except Error (State Key) := do
  let (treasury, request) ← accounts.load s
  let canceller : Address Key := .key accounts.canceller
  require (canceller = request.holder ∨ canceller = treasury.admin ∨ isExpired now request)
    (.stablecoin .unauthorizedCanceller)
  let s ← thawTokenAccount process s accounts.holderTokenAccount accounts.mint
    accounts.freezeAuthority
  -- the allowance is revoked under the signature of the canceller, when that is the holder
  let s ← (if canceller = request.holder then
      s.invoke process canceller (.revoke accounts.holderTokenAccount)
    else pure s)
  let s := s.emit (.redemptionCancelled accounts.mint request.holder request.amount request.nonce
    canceller)
  pure (s.setRequest accounts.redemptionRequest none)

/-! ## freeze_account and thaw_account -/

structure FreezeOrThaw (Key : Type) where
  admin : Key
  treasury : Address Key
  mint : Address Key
  freezeAuthority : Address Key
  targetAccount : Address Key

def FreezeOrThaw.load (accounts : FreezeOrThaw Key) (s : State Key) :
    Except Error (Treasury Key) := do
  let treasury ← s.treasury accounts.treasury
  let _ ← s.mint accounts.mint
  -- open requests on the account are not looked at
  let targetAccount ← s.tokenAccount accounts.targetAccount
  require (accounts.treasury = .treasury treasury.mint) (.anchor .constraintSeeds)
  require (treasury.admin = .key accounts.admin) (.stablecoin .unauthorizedAdmin)
  require (accounts.mint = treasury.mint) (.stablecoin .mintMismatch)
  require (accounts.freezeAuthority = .freezeAuthority accounts.treasury)
    (.anchor .constraintSeeds)
  require (targetAccount.mint = treasury.mint) (.stablecoin .mintMismatch)
  pure treasury

def freezeHandler (process : TokenProgram Key) (s : State Key) (accounts : FreezeOrThaw Key) :
    Except Error (State Key) := do
  let treasury ← accounts.load s
  require (treasury.paused = false) (.stablecoin .paused)
  let s ← s.invoke process accounts.freezeAuthority
    (.freezeAccount accounts.targetAccount accounts.mint)
  pure (s.emit (.accountFrozen accounts.mint accounts.targetAccount (.key accounts.admin)))

/-- Thaw works while the program is paused. -/
def thawHandler (process : TokenProgram Key) (s : State Key) (accounts : FreezeOrThaw Key) :
    Except Error (State Key) := do
  let _ ← accounts.load s
  let s ← thawTokenAccount process s accounts.targetAccount accounts.mint accounts.freezeAuthority
  pure (s.emit (.accountThawed accounts.mint accounts.targetAccount (.key accounts.admin)))

/-! ## Administration -/

/-- The accounts of the instructions that only the admin signs. -/
structure AdminAccounts (Key : Type) where
  admin : Key
  treasury : Address Key

def AdminAccounts.load (accounts : AdminAccounts Key) (s : State Key) :
    Except Error (Treasury Key) := do
  let treasury ← s.treasury accounts.treasury
  require (accounts.treasury = .treasury treasury.mint) (.anchor .constraintSeeds)
  require (treasury.admin = .key accounts.admin) (.stablecoin .unauthorizedAdmin)
  pure treasury

structure AcceptAdmin (Key : Type) where
  newAdmin : Key
  treasury : Address Key

def AcceptAdmin.load (accounts : AcceptAdmin Key) (s : State Key) :
    Except Error (Treasury Key) := do
  let treasury ← s.treasury accounts.treasury
  require (accounts.treasury = .treasury treasury.mint) (.anchor .constraintSeeds)
  require (treasury.pendingAdmin = some (.key accounts.newAdmin)) (.stablecoin .notPendingAdmin)
  pure treasury

def proposeAdminHandler (s : State Key) (accounts : AdminAccounts Key) (newAdmin : Address Key) :
    Except Error (State Key) := do
  let treasury ← accounts.load s
  require (newAdmin ≠ .default) (.stablecoin .invalidNewAdmin)
  require (newAdmin ≠ treasury.admin) (.stablecoin .adminAlreadyCurrent)
  let s := s.emit (.adminProposed treasury.admin newAdmin)
  pure (s.setTreasury accounts.treasury { treasury with pendingAdmin := some newAdmin })

def acceptAdminHandler (s : State Key) (accounts : AcceptAdmin Key) :
    Except Error (State Key) := do
  let treasury ← accounts.load s
  let s := s.setTreasury accounts.treasury
    { treasury with admin := .key accounts.newAdmin, pendingAdmin := none }
  pure (s.emit (.adminAccepted treasury.admin (.key accounts.newAdmin)))

def cancelPendingAdminHandler (s : State Key) (accounts : AdminAccounts Key) :
    Except Error (State Key) := do
  let treasury ← accounts.load s
  let pending ← okOr treasury.pendingAdmin (.stablecoin .noPendingAdmin)
  let s := s.emit (.pendingAdminCancelled treasury.admin pending)
  pure (s.setTreasury accounts.treasury { treasury with pendingAdmin := none })

def setOperatorHandler (s : State Key) (accounts : AdminAccounts Key)
    (newOperator : Address Key) : Except Error (State Key) := do
  let treasury ← accounts.load s
  require (newOperator ≠ .default) (.stablecoin .invalidNewOperator)
  require (newOperator ≠ treasury.operator) (.stablecoin .operatorAlreadyCurrent)
  let s := s.setTreasury accounts.treasury { treasury with operator := newOperator }
  pure (s.emit (.operatorUpdated (.key accounts.admin) treasury.operator newOperator))

def updateMintCapHandler (s : State Key) (accounts : AdminAccounts Key) (newCap : Nat) :
    Except Error (State Key) := do
  let treasury ← accounts.load s
  require (newCap ≠ treasury.mintCap) (.stablecoin .mintCapUnchanged)
  let s := s.setTreasury accounts.treasury { treasury with mintCap := newCap }
  pure (s.emit (.mintCapUpdated (.key accounts.admin) treasury.mintCap newCap))

def pauseHandler (s : State Key) (accounts : AdminAccounts Key) : Except Error (State Key) := do
  let treasury ← accounts.load s
  require (treasury.paused = false) (.stablecoin .alreadyInState)
  let s := s.setTreasury accounts.treasury { treasury with paused := true }
  pure (s.emit (.paused (.key accounts.admin)))

def unpauseHandler (s : State Key) (accounts : AdminAccounts Key) : Except Error (State Key) := do
  let treasury ← accounts.load s
  require (treasury.paused = true) (.stablecoin .alreadyInState)
  let s := s.setTreasury accounts.treasury { treasury with paused := false }
  pure (s.emit (.unpaused (.key accounts.admin)))

/-! ## The system -/

/-- An instruction of the program, or one of the token program signed by a key. -/
inductive Instruction (Key : Type) where
  | initializeMint (accounts : InitializeMint Key) (decimals : Nat)
  | mintTokens (accounts : MintTokens Key) (amount : Nat)
  | requestRedemption (accounts : RequestRedemption Key) (amount : Nat)
  | approveRedemption (accounts : ApproveRedemption Key)
  | cancelRedemption (accounts : CancelRedemption Key)
  | freezeAccount (accounts : FreezeOrThaw Key)
  | thawAccount (accounts : FreezeOrThaw Key)
  | proposeAdmin (accounts : AdminAccounts Key) (newAdmin : Address Key)
  | acceptAdmin (accounts : AcceptAdmin Key)
  | cancelPendingAdmin (accounts : AdminAccounts Key)
  | setOperator (accounts : AdminAccounts Key) (newOperator : Address Key)
  | updateMintCap (accounts : AdminAccounts Key) (newCap : Nat)
  | pause (accounts : AdminAccounts Key)
  | unpause (accounts : AdminAccounts Key)
  | token (signer : Key) (op : TokenOp Key)

/-- An instruction and the unix time it runs at. -/
structure Call (Key : Type) where
  now : Int
  instruction : Instruction Key

def step (process : TokenProgram Key) (s : State Key) (call : Call Key) :
    Except Error (State Key) :=
  match call.instruction with
  | .initializeMint accounts decimals => initializeMintHandler process s accounts decimals
  | .mintTokens accounts amount => mintTokensHandler process s accounts amount
  | .requestRedemption accounts amount =>
    requestRedemptionHandler process call.now s accounts amount
  | .approveRedemption accounts => approveRedemptionHandler process s accounts
  | .cancelRedemption accounts => cancelRedemptionHandler process call.now s accounts
  | .freezeAccount accounts => freezeHandler process s accounts
  | .thawAccount accounts => thawHandler process s accounts
  | .proposeAdmin accounts newAdmin => proposeAdminHandler s accounts newAdmin
  | .acceptAdmin accounts => acceptAdminHandler s accounts
  | .cancelPendingAdmin accounts => cancelPendingAdminHandler s accounts
  | .setOperator accounts newOperator => setOperatorHandler s accounts newOperator
  | .updateMintCap accounts newCap => updateMintCapHandler s accounts newCap
  | .pause accounts => pauseHandler s accounts
  | .unpause accounts => unpauseHandler s accounts
  | .token signer op => s.invoke process (.key signer) op

/-- The state after any sequence of calls, accepted or not. -/
abbrev run (process : TokenProgram Key) : State Key → List (Call Key) → State Key :=
  Transactional.run (step process)

end ZkSettle.Stablecoin
