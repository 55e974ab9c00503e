import ZkSettle.Indexer.Parse
import ZkSettle.Library.Sha256

/-!
# Account data of the stablecoin program

What the data of an account holds: a discriminator and the fields in Borsh. An account has
the length of its largest value, and a shorter value leaves the bytes behind it as they were.
-/
namespace ZkSettle.Stablecoin.Layout

open Program (Bytes32)
open Indexer (leBytes)

/-! ## Fields -/

structure Treasury where
  admin : Bytes32
  operator : Bytes32
  mint : Bytes32
  mintAuthorityBump : UInt8
  freezeAuthorityBump : UInt8
  bump : UInt8
  totalMinted : UInt64
  totalBurned : UInt64
  decimals : UInt8
  paused : Bool
  pendingAdmin : Option Bytes32
  mintCap : UInt64
  redemptionNonce : UInt64
  escrowAuthorityBump : UInt8

def Treasury.LEN : Nat := 32 + 32 + 32 + 1 + 1 + 1 + 8 + 8 + 1 + 1 + 33 + 8 + 8 + 1

structure RedemptionRequest where
  holder : Bytes32
  treasury : Bytes32
  mint : Bytes32
  tokenAccount : Bytes32
  amount : UInt64
  nonce : UInt64
  requestedAt : Int64
  bump : UInt8

def RedemptionRequest.LEN : Nat := 32 + 32 + 32 + 32 + 8 + 8 + 8 + 1

def boolByte (b : Bool) : UInt8 := if b then 1 else 0

/-- A tag, then the value when there is one. -/
def optionBytes : Option Bytes32 → List UInt8
  | none => [0]
  | some key => 1 :: key.bytes

def Treasury.serialize (t : Treasury) : List UInt8 :=
  t.admin.bytes ++ (t.operator.bytes ++ (t.mint.bytes ++ (t.mintAuthorityBump ::
    t.freezeAuthorityBump :: t.bump :: (leBytes t.totalMinted ++ (leBytes t.totalBurned ++
    (t.decimals :: boolByte t.paused :: (optionBytes t.pendingAdmin ++ (leBytes t.mintCap ++
    (leBytes t.redemptionNonce ++ [t.escrowAuthorityBump])))))))))

def RedemptionRequest.serialize (r : RedemptionRequest) : List UInt8 :=
  r.holder.bytes ++ (r.treasury.bytes ++ (r.mint.bytes ++ (r.tokenAccount.bytes ++
    (leBytes r.amount ++ (leBytes r.nonce ++ (leBytes r.requestedAt.toUInt64 ++ [r.bump]))))))

/-! ## Accounts -/

/-- The first bytes of the hash of `account:` and the name of the type. -/
def accountDiscriminator (name : String) : List UInt8 :=
  (Sha256.sha256 (("account:" ++ name).toList.map fun c => .ofNat c.toNat)).take 8

/-- The data of an account after a value has been written to its start. -/
def write (account value : List UInt8) : List UInt8 := value ++ account.drop value.length

def Treasury.store (t : Treasury) (account : List UInt8) : List UInt8 :=
  write account (accountDiscriminator "Treasury" ++ t.serialize)

def RedemptionRequest.store (r : RedemptionRequest) (account : List UInt8) : List UInt8 :=
  write account (accountDiscriminator "RedemptionRequest" ++ r.serialize)

theorem write_length {account value : List UInt8} (short : value.length ≤ account.length) :
    (write account value).length = account.length := by
  rw [write, List.length_append, List.length_drop]
  omega

theorem accountDiscriminator_length (name : String) :
    (accountDiscriminator name).length = 8 := by
  simp [accountDiscriminator, Sha256.sha256_length]

theorem leBytes_length (x : UInt64) : (leBytes x).length = 8 := by simp [leBytes]

theorem optionBytes_length_pos (key : Option Bytes32) : 1 ≤ (optionBytes key).length := by
  cases key with
  | none => simp [optionBytes]
  | some key => simp [optionBytes]

theorem optionBytes_length_le (key : Option Bytes32) : (optionBytes key).length ≤ 33 := by
  cases key with
  | none => simp [optionBytes]
  | some key => simp [optionBytes, key.length_eq]

theorem Treasury.serialize_length (t : Treasury) :
    t.serialize.length = 134 + (optionBytes t.pendingAdmin).length := by
  simp only [serialize, List.length_append, List.length_cons, List.length_nil, Bytes32.length_eq,
    leBytes_length]
  omega

/-- Every treasury fits into its account. -/
theorem Treasury.store_length (t : Treasury) {account : List UInt8}
    (size : account.length = 8 + LEN) : (t.store account).length = 8 + LEN := by
  have option := optionBytes_length_le t.pendingAdmin
  rw [store, write_length, size]
  rw [List.length_append, accountDiscriminator_length, t.serialize_length, size, LEN]
  omega

theorem RedemptionRequest.serialize_length (r : RedemptionRequest) :
    r.serialize.length = LEN := by
  simp only [serialize, List.length_append, List.length_cons, List.length_nil, Bytes32.length_eq,
    leBytes_length]
  rfl

/-- A request fills its account. -/
theorem RedemptionRequest.store_length (r : RedemptionRequest) {account : List UInt8}
    (size : account.length = 8 + LEN) : (r.store account).length = 8 + LEN := by
  rw [store, write_length, size]
  rw [List.length_append, accountDiscriminator_length, r.serialize_length, size]

end ZkSettle.Stablecoin.Layout
