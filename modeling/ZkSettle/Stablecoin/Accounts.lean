import Mathlib.Algebra.Group.Int.Defs
import Mathlib.Algebra.Group.Nat.Defs
import Mathlib.Logic.Function.Basic

/-!
# Accounts of the stablecoin program

The accounts the program owns (`Treasury`, `RedemptionRequest`), the mints and
token accounts the Token-2022 program owns, and the state of the chain they live
in. An address is either a key, which signs transactions, or derived from seeds,
which only the program signs for; derived addresses are named by their seeds.
Bumps are fixed by the seeds and left out.
-/
namespace ZkSettle.Stablecoin

/-- Seeds are listed in the order of the source; `REDEMPTION_SEED` takes the treasury,
the holder and the nonce. -/
inductive Address (Key : Type) where
  | default
  | token2022
  | key (key : Key)
  | treasury (mint : Address Key)
  | mintAuthority (treasury : Address Key)
  | freezeAuthority (treasury : Address Key)
  | escrowAuthority (treasury : Address Key)
  | redemption (treasury holder : Address Key) (nonce : Nat)
  deriving DecidableEq, Repr

/-- The number of values of a `u64`. -/
def U64_SIZE : Nat := 2 ^ 64

/-- `i64::checked_sub`. -/
def checkedSubI64 (a b : Int) : Option Int :=
  if -(2 ^ 63) ≤ a - b ∧ a - b < 2 ^ 63 then some (a - b) else none

/-- Seconds after which anyone may cancel a request. -/
def REDEMPTION_EXPIRY_SECS : Int := 604800

def EVENT_VERSION : Nat := 1

variable {Key : Type}

structure Treasury (Key : Type) where
  admin : Address Key
  operator : Address Key
  mint : Address Key
  totalMinted : Nat
  totalBurned : Nat
  decimals : Nat
  paused : Bool
  pendingAdmin : Option (Address Key)
  mintCap : Nat
  redemptionNonce : Nat
  deriving DecidableEq, Repr

structure RedemptionRequest (Key : Type) where
  holder : Address Key
  treasury : Address Key
  mint : Address Key
  tokenAccount : Address Key
  amount : Nat
  nonce : Nat
  requestedAt : Int
  deriving DecidableEq, Repr

/-- A Token-2022 mint. -/
structure Mint (Key : Type) where
  supply : Nat
  decimals : Nat
  mintAuthority : Option (Address Key)
  freezeAuthority : Option (Address Key)
  deriving DecidableEq, Repr

/-- A Token-2022 token account. -/
structure TokenAccount (Key : Type) where
  mint : Address Key
  owner : Address Key
  amount : Nat
  delegate : Option (Address Key)
  delegatedAmount : Nat
  frozen : Bool
  deriving DecidableEq, Repr

/-- The accounts owned by the Token-2022 program. -/
structure Bank (Key : Type) where
  mints : Address Key → Option (Mint Key)
  accounts : Address Key → Option (TokenAccount Key)

inductive Event (Key : Type) where
  | mintInitialized (treasury mint admin operator : Address Key)
  | tokensMinted (mint destination : Address Key) (amount : Nat) (operator : Address Key)
  | redemptionRequested (mint holder : Address Key) (amount nonce : Nat)
      (redemptionRequest : Address Key)
  | redemptionApproved (mint holder : Address Key) (amount nonce : Nat) (operator : Address Key)
  | redemptionCancelled (mint holder : Address Key) (amount nonce : Nat) (canceller : Address Key)
  | accountFrozen (mint tokenAccount admin : Address Key)
  | accountThawed (mint tokenAccount admin : Address Key)
  | adminProposed (currentAdmin proposedAdmin : Address Key)
  | adminAccepted (oldAdmin newAdmin : Address Key)
  | pendingAdminCancelled (admin cancelledPending : Address Key)
  | operatorUpdated (admin oldOperator newOperator : Address Key)
  | mintCapUpdated (admin : Address Key) (oldCap newCap : Nat)
  | paused (admin : Address Key)
  | unpaused (admin : Address Key)
  deriving DecidableEq, Repr

/-- An event as `emit!` writes it. -/
structure Emitted (Key : Type) where
  version : Nat := EVENT_VERSION
  event : Event Key
  deriving DecidableEq, Repr

/-- The program's accounts, the token program's accounts and the log of emitted events. -/
structure State (Key : Type) where
  treasuries : Address Key → Option (Treasury Key)
  requests : Address Key → Option (RedemptionRequest Key)
  bank : Bank Key
  events : List (Emitted Key)

/-- Before the first instruction no account exists. -/
def State.empty : State Key where
  treasuries := fun _ => none
  requests := fun _ => none
  bank := { mints := fun _ => none, accounts := fun _ => none }
  events := []

def State.emit (s : State Key) (event : Event Key) : State Key :=
  { s with events := s.events ++ [{ event := event }] }

@[simp] theorem State.emit_treasuries (s : State Key) (event : Event Key) :
    (s.emit event).treasuries = s.treasuries := rfl

@[simp] theorem State.emit_requests (s : State Key) (event : Event Key) :
    (s.emit event).requests = s.requests := rfl

@[simp] theorem State.emit_bank (s : State Key) (event : Event Key) :
    (s.emit event).bank = s.bank := rfl

variable [DecidableEq Key]

def Bank.setMint (b : Bank Key) (mint : Address Key) (m : Mint Key) : Bank Key :=
  { b with mints := Function.update b.mints mint (some m) }

def Bank.setAccount (b : Bank Key) (account : Address Key) (a : Option (TokenAccount Key)) :
    Bank Key :=
  { b with accounts := Function.update b.accounts account a }

@[simp] theorem Bank.setMint_accounts (b : Bank Key) (mint : Address Key) (m : Mint Key) :
    (b.setMint mint m).accounts = b.accounts := rfl

@[simp] theorem Bank.setMint_mints (b : Bank Key) (mint : Address Key) (m : Mint Key) :
    (b.setMint mint m).mints = Function.update b.mints mint (some m) := rfl

@[simp] theorem Bank.setAccount_mints (b : Bank Key) (account : Address Key)
    (a : Option (TokenAccount Key)) : (b.setAccount account a).mints = b.mints := rfl

@[simp] theorem Bank.setAccount_accounts (b : Bank Key) (account : Address Key)
    (a : Option (TokenAccount Key)) :
    (b.setAccount account a).accounts = Function.update b.accounts account a := rfl

theorem Bank.setAccount_self (b : Bank Key) (account : Address Key)
    (a : Option (TokenAccount Key)) : (b.setAccount account a).accounts account = a :=
  Function.update_self ..

def State.setTreasury (s : State Key) (address : Address Key) (t : Treasury Key) : State Key :=
  { s with treasuries := Function.update s.treasuries address (some t) }

def State.setRequest (s : State Key) (address : Address Key) (r : Option (RedemptionRequest Key)) :
    State Key :=
  { s with requests := Function.update s.requests address r }

@[simp] theorem State.setTreasury_treasuries (s : State Key) (address : Address Key)
    (t : Treasury Key) :
    (s.setTreasury address t).treasuries = Function.update s.treasuries address (some t) := rfl

@[simp] theorem State.setTreasury_requests (s : State Key) (address : Address Key)
    (t : Treasury Key) : (s.setTreasury address t).requests = s.requests := rfl

@[simp] theorem State.setTreasury_bank (s : State Key) (address : Address Key) (t : Treasury Key) :
    (s.setTreasury address t).bank = s.bank := rfl

@[simp] theorem State.setRequest_treasuries (s : State Key) (address : Address Key)
    (r : Option (RedemptionRequest Key)) : (s.setRequest address r).treasuries = s.treasuries := rfl

@[simp] theorem State.setRequest_requests (s : State Key) (address : Address Key)
    (r : Option (RedemptionRequest Key)) :
    (s.setRequest address r).requests = Function.update s.requests address r := rfl

@[simp] theorem State.setRequest_bank (s : State Key) (address : Address Key)
    (r : Option (RedemptionRequest Key)) : (s.setRequest address r).bank = s.bank := rfl

end ZkSettle.Stablecoin
