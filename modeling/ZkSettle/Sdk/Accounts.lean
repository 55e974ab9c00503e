import ZkSettle.Stablecoin.Layout

/-!
# Stablecoin accounts in the SDK

The SDK reads the data of an account from its offsets, one field after the other. A key is
an object of the web3 library, which is made from its bytes. An error is thrown with its
text, or by a read beyond the end of the data.
-/
namespace ZkSettle.Sdk

open Checks
open ZkSettle.Program (Bytes32)
open ZkSettle.Indexer (leBytes takeU64)
open ZkSettle.Stablecoin.Layout (accountDiscriminator)

structure Treasury where
  admin : Bytes32
  operator : Bytes32
  mint : Bytes32
  mintAuthorityBump : Nat
  freezeAuthorityBump : Nat
  bump : Nat
  totalMinted : Int
  totalBurned : Int
  decimals : Nat
  paused : Bool
  pendingAdmin : Option Bytes32
  mintCap : Int
  redemptionNonce : Int
  escrowAuthorityBump : Nat

structure RedemptionRequest where
  holder : Bytes32
  treasury : Bytes32
  mint : Bytes32
  tokenAccount : Bytes32
  amount : Int
  nonce : Int
  requestedAt : Int
  bump : Nat

inductive SdkError where
  | error (message : String)
  | rangeError
  deriving DecidableEq, Repr

/-! ## Reading a buffer -/

def subarray (data : List UInt8) (start stop : Nat) : List UInt8 :=
  (data.drop start).take (stop - start)

def readUInt8 (data : List UInt8) (offset : Nat) : Except SdkError Nat :=
  match data.drop offset with
  | byte :: _ => .ok byte.toNat
  | [] => .error .rangeError

def readBigUInt64LE (data : List UInt8) (offset : Nat) : Except SdkError Int :=
  match takeU64 (data.drop offset) with
  | some (x, _) => .ok x.toNat
  | none => .error .rangeError

def readBigInt64LE (data : List UInt8) (offset : Nat) : Except SdkError Int :=
  match takeU64 (data.drop offset) with
  | some (x, _) => .ok x.toInt64.toInt
  | none => .error .rangeError

/-! ## decodeTreasury and decodeRedemptionRequest -/

def DISC_TREASURY : List UInt8 := [0xee, 0xef, 0x7b, 0xee, 0x59, 0x01, 0xa8, 0xfd]

def DISC_REDEMPTION_REQUEST : List UInt8 := [0x75, 0x9d, 0xd6, 0xd6, 0x40, 0xa0, 0x1f, 0x3a]

def TREASURY_MIN_DATA_LEN : Nat := 8 + 135

def REDEMPTION_REQUEST_DATA_LEN : Nat := 8 + 153

def tooShort (name : String) (length minimum : Nat) : SdkError :=
  .error (name ++ " data too short: " ++ toString length ++ " < " ++ toString minimum)

section Decode

-- `new PublicKey(bytes)`
variable (publicKey : List UInt8 → Except SdkError Bytes32)

def decodeTreasury (data : List UInt8) : Except SdkError Treasury := do
  require (TREASURY_MIN_DATA_LEN ≤ data.length)
    (tooShort "Treasury" data.length TREASURY_MIN_DATA_LEN)
  require (subarray data 0 8 = DISC_TREASURY)
    (SdkError.error "Invalid Treasury account discriminator")
  let offset := 8
  let admin ← publicKey (subarray data offset (offset + 32))
  let offset := offset + 32
  let operator ← publicKey (subarray data offset (offset + 32))
  let offset := offset + 32
  let mint ← publicKey (subarray data offset (offset + 32))
  let offset := offset + 32
  let mintAuthorityBump ← readUInt8 data offset
  let offset := offset + 1
  let freezeAuthorityBump ← readUInt8 data offset
  let offset := offset + 1
  let bump ← readUInt8 data offset
  let offset := offset + 1
  let totalMinted ← readBigUInt64LE data offset
  let offset := offset + 8
  let totalBurned ← readBigUInt64LE data offset
  let offset := offset + 8
  let decimals ← readUInt8 data offset
  let offset := offset + 1
  let paused ← readUInt8 data offset
  let offset := offset + 1
  let pendingAdminTag ← readUInt8 data offset
  let offset := offset + 1
  let (pendingAdmin, offset) ←
    if pendingAdminTag = 1 then do
      let key ← publicKey (subarray data offset (offset + 32))
      pure (some key, offset + 32)
    else pure (none, offset)
  let mintCap ← readBigUInt64LE data offset
  let offset := offset + 8
  let redemptionNonce ← readBigUInt64LE data offset
  let offset := offset + 8
  let escrowAuthorityBump ← readUInt8 data offset
  pure
    { admin, operator, mint, mintAuthorityBump, freezeAuthorityBump, bump, totalMinted, totalBurned,
      decimals, paused := paused ≠ 0, pendingAdmin, mintCap, redemptionNonce, escrowAuthorityBump }

def decodeRedemptionRequest (data : List UInt8) : Except SdkError RedemptionRequest := do
  require (REDEMPTION_REQUEST_DATA_LEN ≤ data.length)
    (tooShort "RedemptionRequest" data.length REDEMPTION_REQUEST_DATA_LEN)
  require (subarray data 0 8 = DISC_REDEMPTION_REQUEST)
    (SdkError.error "Invalid RedemptionRequest account discriminator")
  let offset := 8
  let holder ← publicKey (subarray data offset (offset + 32))
  let offset := offset + 32
  let treasury ← publicKey (subarray data offset (offset + 32))
  let offset := offset + 32
  let mint ← publicKey (subarray data offset (offset + 32))
  let offset := offset + 32
  let tokenAccount ← publicKey (subarray data offset (offset + 32))
  let offset := offset + 32
  let amount ← readBigUInt64LE data offset
  let offset := offset + 8
  let nonce ← readBigUInt64LE data offset
  let offset := offset + 8
  let requestedAt ← readBigInt64LE data offset
  let offset := offset + 8
  let bump ← readUInt8 data offset
  pure { holder, treasury, mint, tokenAccount, amount, nonce, requestedAt, bump }

end Decode

/-! ## Stored accounts -/

/-- The field values of a treasury of the program. -/
def Treasury.ofLayout (t : Stablecoin.Layout.Treasury) : Treasury where
  admin := t.admin
  operator := t.operator
  mint := t.mint
  mintAuthorityBump := t.mintAuthorityBump.toNat
  freezeAuthorityBump := t.freezeAuthorityBump.toNat
  bump := t.bump.toNat
  totalMinted := t.totalMinted.toNat
  totalBurned := t.totalBurned.toNat
  decimals := t.decimals.toNat
  paused := t.paused
  pendingAdmin := t.pendingAdmin
  mintCap := t.mintCap.toNat
  redemptionNonce := t.redemptionNonce.toNat
  escrowAuthorityBump := t.escrowAuthorityBump.toNat

/-- The field values of a request of the program. -/
def RedemptionRequest.ofLayout (r : Stablecoin.Layout.RedemptionRequest) : RedemptionRequest where
  holder := r.holder
  treasury := r.treasury
  mint := r.mint
  tokenAccount := r.tokenAccount
  amount := r.amount.toNat
  nonce := r.nonce.toNat
  requestedAt := r.requestedAt.toInt
  bump := r.bump.toNat

/-- The constants of the SDK are the discriminators of the program. -/
theorem disc_treasury : accountDiscriminator "Treasury" = DISC_TREASURY := by
  decide +kernel

theorem disc_redemptionRequest :
    accountDiscriminator "RedemptionRequest" = DISC_REDEMPTION_REQUEST := by
  decide +kernel

section Reads

variable {data rest : List UInt8} {offset : Nat}

/-- What is left at an offset moves by what is read there. -/
theorem drop_advance {field : List UInt8} (here : data.drop offset = field ++ rest) {width : Nat}
    (length : field.length = width) : data.drop (offset + width) = rest := by
  rw [← List.drop_drop, here, List.drop_left' length]

theorem drop_succ {byte : UInt8} (here : data.drop offset = byte :: rest) :
    data.drop (offset + 1) = rest := by
  rw [← List.drop_drop, here, List.drop_one, List.tail_cons]

theorem subarray_key {key : Bytes32} (here : data.drop offset = key.bytes ++ rest) :
    subarray data offset (offset + 32) = key.bytes := by
  rw [subarray, here, Nat.add_sub_cancel_left, List.take_left' key.length_eq]

theorem readUInt8_of {byte : UInt8} (here : data.drop offset = byte :: rest) :
    readUInt8 data offset = .ok byte.toNat := by
  rw [readUInt8, here]

theorem readBigUInt64LE_of {x : UInt64} (here : data.drop offset = leBytes x ++ rest) :
    readBigUInt64LE data offset = .ok x.toNat := by
  rw [readBigUInt64LE, here, Indexer.takeU64_append]

theorem readBigInt64LE_of {x : Int64} (here : data.drop offset = leBytes x.toUInt64 ++ rest) :
    readBigInt64LE data offset = .ok x.toInt := by
  rw [readBigInt64LE, here, Indexer.takeU64_append]
  rfl

end Reads

theorem boolByte_ne_zero (b : Bool) :
    decide ((Stablecoin.Layout.boolByte b).toNat ≠ 0) = b := by
  cases b with
  | false => rfl
  | true => rfl

section Stored

variable {publicKey : List UInt8 → Except SdkError Bytes32}

/-- A treasury is read from its account, whatever the bytes behind it. -/
theorem decodeTreasury_store (keys : ∀ key : Bytes32, publicKey key.bytes = .ok key)
    (t : Stablecoin.Layout.Treasury) (account : List UInt8) :
    decodeTreasury publicKey (t.store account) = .ok (.ofLayout t) := by
  have data : t.store account = DISC_TREASURY ++ (t.serialize ++ account.drop
      (DISC_TREASURY ++ t.serialize).length) := by
    rw [Stablecoin.Layout.Treasury.store, disc_treasury, Stablecoin.Layout.write, List.append_assoc]
  generalize account.drop (DISC_TREASURY ++ t.serialize).length = stale at data
  generalize t.store account = stored at data ⊢
  have long : TREASURY_MIN_DATA_LEN ≤ stored.length := by
    have option : 1 ≤ (Stablecoin.Layout.optionBytes t.pendingAdmin).length :=
      Stablecoin.Layout.optionBytes_length_pos t.pendingAdmin
    rw [data, List.length_append, List.length_append, t.serialize_length, TREASURY_MIN_DATA_LEN,
      DISC_TREASURY]
    simp only [List.length_cons, List.length_nil]
    omega
  have discriminator : subarray stored 0 8 = DISC_TREASURY := by
    rw [subarray, data]
    rfl
  have admin : stored.drop 8 = t.serialize ++ stale := by
    rw [data]
    rfl
  simp only [Stablecoin.Layout.Treasury.serialize, List.append_assoc, List.cons_append] at admin
  have operator := drop_advance admin t.admin.length_eq
  have mint := drop_advance operator t.operator.length_eq
  have mintAuthorityBump := drop_advance mint t.mint.length_eq
  have freezeAuthorityBump := drop_succ mintAuthorityBump
  have bump := drop_succ freezeAuthorityBump
  have totalMinted := drop_succ bump
  have totalBurned := drop_advance totalMinted (Stablecoin.Layout.leBytes_length _)
  have decimals := drop_advance totalBurned (Stablecoin.Layout.leBytes_length _)
  have paused := drop_succ decimals
  have tag := drop_succ paused
  rw [decodeTreasury]
  simp only [(require_eq_ok (u := ⟨⟩)).mpr long, (require_eq_ok (u := ⟨⟩)).mpr discriminator,
    ok_bind, subarray_key admin, subarray_key operator, subarray_key mint, keys,
    readUInt8_of mintAuthorityBump, readUInt8_of freezeAuthorityBump, readUInt8_of bump,
    readBigUInt64LE_of totalMinted, readBigUInt64LE_of totalBurned, readUInt8_of decimals,
    readUInt8_of paused]
  -- the tag decides where the fields after it are
  cases pending : t.pendingAdmin with
  | none =>
    rw [pending, Stablecoin.Layout.optionBytes, List.singleton_append] at tag
    have mintCap := drop_succ tag
    have redemptionNonce := drop_advance mintCap (Stablecoin.Layout.leBytes_length _)
    have escrowAuthorityBump := drop_advance redemptionNonce (Stablecoin.Layout.leBytes_length _)
    have absent : ¬ (0 : UInt8).toNat = 1 := by decide
    simp only [readUInt8_of tag, ok_bind, if_neg absent, pure_bind, readBigUInt64LE_of mintCap,
      readBigUInt64LE_of redemptionNonce, readUInt8_of escrowAuthorityBump,
      boolByte_ne_zero, Treasury.ofLayout, pending]
    rfl
  | some key =>
    rw [pending, Stablecoin.Layout.optionBytes, List.cons_append] at tag
    have pendingAdmin := drop_succ tag
    have mintCap := drop_advance pendingAdmin key.length_eq
    have redemptionNonce := drop_advance mintCap (Stablecoin.Layout.leBytes_length _)
    have escrowAuthorityBump := drop_advance redemptionNonce (Stablecoin.Layout.leBytes_length _)
    have present : (1 : UInt8).toNat = 1 := rfl
    simp only [readUInt8_of tag, ok_bind, if_pos present, subarray_key pendingAdmin, keys,
      pure_bind, readBigUInt64LE_of mintCap, readBigUInt64LE_of redemptionNonce,
      readUInt8_of escrowAuthorityBump,
      boolByte_ne_zero, Treasury.ofLayout, pending]
    rfl

/-- A request is read from its account. -/
theorem decodeRedemptionRequest_store (keys : ∀ key : Bytes32, publicKey key.bytes = .ok key)
    (r : Stablecoin.Layout.RedemptionRequest) (account : List UInt8) :
    decodeRedemptionRequest publicKey (r.store account) = .ok (.ofLayout r) := by
  have data : r.store account = DISC_REDEMPTION_REQUEST ++ (r.serialize ++ account.drop
      (DISC_REDEMPTION_REQUEST ++ r.serialize).length) := by
    rw [Stablecoin.Layout.RedemptionRequest.store, disc_redemptionRequest,
      Stablecoin.Layout.write, List.append_assoc]
  generalize account.drop (DISC_REDEMPTION_REQUEST ++ r.serialize).length = stale at data
  generalize r.store account = stored at data ⊢
  have long : REDEMPTION_REQUEST_DATA_LEN ≤ stored.length := by
    rw [data, List.length_append, List.length_append, r.serialize_length]
    simp only [REDEMPTION_REQUEST_DATA_LEN, DISC_REDEMPTION_REQUEST,
      Stablecoin.Layout.RedemptionRequest.LEN, List.length_cons, List.length_nil]
    omega
  have discriminator : subarray stored 0 8 = DISC_REDEMPTION_REQUEST := by
    rw [subarray, data]
    rfl
  have holder : stored.drop 8 = r.serialize ++ stale := by
    rw [data]
    rfl
  simp only [Stablecoin.Layout.RedemptionRequest.serialize, List.append_assoc] at holder
  have treasury := drop_advance holder r.holder.length_eq
  have mint := drop_advance treasury r.treasury.length_eq
  have tokenAccount := drop_advance mint r.mint.length_eq
  have amount := drop_advance tokenAccount r.tokenAccount.length_eq
  have nonce := drop_advance amount (Stablecoin.Layout.leBytes_length _)
  have requestedAt := drop_advance nonce (Stablecoin.Layout.leBytes_length _)
  have bump := drop_advance requestedAt (Stablecoin.Layout.leBytes_length _)
  rw [decodeRedemptionRequest]
  simp only [(require_eq_ok (u := ⟨⟩)).mpr long, (require_eq_ok (u := ⟨⟩)).mpr discriminator,
    ok_bind, subarray_key holder, subarray_key treasury, subarray_key mint,
    subarray_key tokenAccount, keys, readBigUInt64LE_of amount, readBigUInt64LE_of nonce,
    readBigInt64LE_of requestedAt, readUInt8_of bump]
  rfl

/-- The decoders invert the layouts of the program. -/
theorem decode_store (keys : ∀ key : Bytes32, publicKey key.bytes = .ok key)
    (account : List UInt8) :
    (∀ t : Stablecoin.Layout.Treasury,
      decodeTreasury publicKey (t.store account) = .ok (.ofLayout t)) ∧
    ∀ r : Stablecoin.Layout.RedemptionRequest,
      decodeRedemptionRequest publicKey (r.store account) = .ok (.ofLayout r) :=
  ⟨fun t => decodeTreasury_store keys t account,
    fun r => decodeRedemptionRequest_store keys r account⟩

end Stored

/-- A key is a number of at most 32 bytes. -/
def keyOfBytes (bytes : List UInt8) : Except SdkError Bytes32 :=
  if BigEndian.value bytes < 256 ^ 32 then .ok (.ofNat (BigEndian.value bytes))
  else .error (.error "Invalid public key input")

theorem keyOfBytes_bytes (key : Bytes32) : keyOfBytes key.bytes = .ok key := by
  have small : BigEndian.value key.bytes < 256 ^ 32 := by
    rw [← key.length_eq]
    exact BigEndian.value_lt key.bytes
  have same : Bytes32.ofNat (BigEndian.value key.bytes) = key :=
    Program.Bytes32.toNat_injective (Program.Bytes32.toNat_ofNat key.toNat_lt)
  rw [keyOfBytes, if_pos small, same]

/-- Accounts of zeros. -/
theorem decode_store_zero :
    (∀ t : Stablecoin.Layout.Treasury,
      decodeTreasury keyOfBytes (t.store (List.replicate 175 0)) = .ok (.ofLayout t)) ∧
    ∀ r : Stablecoin.Layout.RedemptionRequest,
      decodeRedemptionRequest keyOfBytes (r.store (List.replicate 175 0)) = .ok (.ofLayout r) :=
  decode_store keyOfBytes_bytes _

end ZkSettle.Sdk
