import ZkSettle.Program.System
import ZkSettle.Service.Records

/-!
# Publication

What the issuer service and the sanctions updater read from the chain and send to it.
Both register the issuer account or update its roots, as their own flag says; the flag
is what they know of the account. The issuer sends the roots of its state, the updater
the roots it has read with its own sanctions root between them.
-/
namespace ZkSettle.Service

open Crypto Program Checks

variable {Proof Address World : Type} (env : External Proof Address World)

/-- What both services are configured with, and the bump of the issuer account. -/
structure Config where
  authority : Pubkey
  statePath : Option String
  bump : UInt8

variable (config : Config)

/-- `issuer_pda` -/
def issuerPda : Pubkey := env.issuerAddress config.authority

/-- The one instruction of a transaction: `register_issuer` or `update_issuer_root`. -/
structure Transaction where
  register : Bool
  roots : Roots
  deriving DecidableEq, Repr

def Transaction.instruction (tx : Transaction) (clock : Clock) : Call :=
  let accounts : IssuerAccounts :=
    { authority := config.authority, issuer := issuerPda env config }
  if tx.register then
    .registerIssuer clock accounts tx.roots.merkle tx.roots.sanctions tx.roots.jurisdiction
  else
    .updateIssuerRoot clock accounts tx.roots.merkle tx.roots.sanctions tx.roots.jurisdiction

/-- The transaction is executed by the program. -/
def Transaction.execute (tx : Transaction) (chain : State World) (clock : Clock) :
    Except Error (State World) :=
  step env chain (tx.instruction env config clock)

/-! ## Account data -/

/-- The discriminator of `Issuer`. -/
def ISSUER_DISCRIMINATOR : List UInt8 := [216, 19, 83, 230, 108, 53, 80, 14]

/-- The account as it is stored: the discriminator, then the fields in order. -/
def issuerData (bump : UInt8) (issuer : Issuer) : List UInt8 :=
  ISSUER_DISCRIMINATOR ++ issuer.authority.bytes ++ issuer.merkleRoot.bytes ++
    issuer.sanctionsRoot.bytes ++ issuer.jurisdictionRoot.bytes ++ toLeBytes issuer.rootSlot ++
    [bump]

/-- `get_account_data` of the issuer account, where no other kind of account lives. An address
that holds nothing but lamports, for which the cluster answers empty data, is not represented:
there is an account of the program, or none. -/
def getAccountData (chain : State World) : Option (List UInt8) :=
  match chain.accounts (issuerPda env config) with
  | some (.issuer issuer) => some (issuerData config.bump issuer)
  | some _ => some []
  | none => none

/-- `is_issuer_registered`, of either service. -/
def isIssuerRegistered (probeFault : Bool) (chain : State World) : Except Unit Bool :=
  if probeFault then .error () else .ok (getAccountData env config chain).isSome

/-- What both start with when the probe fails: not registered. -/
def probe (probeFault : Bool) (chain : State World) : Bool :=
  match isIssuerRegistered env config probeFault chain with
  | .ok registered => registered
  | .error _ => false

/-! ## The issuer service -/

/-- The start of a process: the file is loaded or forgotten, the flag is probed. -/
def startIssuer (loadFault probeFault : Bool) (disk : Disk) (chain : State World) : IssuerState :=
  let initialState := match config.statePath with
    | some _ =>
      match load loadFault disk with
      | .ok state => state
      | .error _ => .new
    | none => .new
  { initialState with registered := probe env config probeFault chain }

/-- What the publish handler and the rotation task send, when they do not skip. -/
def IssuerState.snapshot (st : IssuerState) : Option Transaction :=
  if st.rootsDirty = false ∧ st.registered = true then none
  else some { register := !st.registered, roots := st.rootsAsBytes }

/-- What they do when the transaction has been confirmed. -/
def IssuerState.confirm (st : IssuerState) (slot : UInt64) (didRegister : Bool) : IssuerState :=
  { st with
    registered := if didRegister && !st.registered then true else st.registered
    lastPublishSlot := slot
    rootsDirty := false }

/-! ## The sanctions updater -/

namespace Updater

inductive UpdaterError where
  | fetch
  | parse (message : String)
  | rpc
  | pdaNotFound
  | pdaTooShort (length : Nat)
  | invalidHex (error : HexError)
  | panicked
  deriving DecidableEq, Repr

def walletToFr (hexStr : String) : Except UpdaterError Fr :=
  ((decodeWallet hexStr).map bytesBeToFr).mapError .invalidHex

def insertWallet (tree : SparseMerkleTree) (wallet : String) :
    Except UpdaterError SparseMerkleTree := do
  let fr ← walletToFr wallet
  pure (tree.insert fr)

def buildSanctionsTree (wallets : List String) : Except UpdaterError (SparseMerkleTree × Bytes32) :=
  do
    let tree ← wallets.foldlM insertWallet .new
    pure (tree, frToBytesBe tree.root)

/-- `copy_from_slice(&data[start..start + 32])`, which panics outside the data. -/
def slice32 (data : List UInt8) (start : Nat) : Except UpdaterError Bytes32 :=
  if length_eq : ((data.drop start).take 32).length = 32 then .ok ⟨_, length_eq⟩
  else .error .panicked

def readCurrentRoots (rpcFault : Bool) (chain : State World) : Except UpdaterError Roots := do
  require (rpcFault = false) .rpc
  let data ← okOr (getAccountData env config chain) .pdaNotFound
  require (8 + 32 + 32 * 3 ≤ data.length) (.pdaTooShort data.length)
  let merkle ← slice32 data 40
  let sanctions ← slice32 data 72
  let jurisdiction ← slice32 data 104
  pure { merkle, sanctions, jurisdiction }

/-- The transaction of `publish_sanctions_root`. -/
def prepare (registered rpcFault : Bool) (newSanctionsRoot : Bytes32) (chain : State World) :
    Except UpdaterError Transaction := do
  let current ← (if registered then readCurrentRoots env config rpcFault chain
    else pure { merkle := .zero, sanctions := .zero, jurisdiction := .zero })
  pure { register := !registered, roots := { current with sanctions := newSanctionsRoot } }

/-- `run_tick` up to the transaction; `fetched` is what the list of wallets came to. -/
def beginTick (registered rpcFault : Bool) (fetched : Except UpdaterError (List String))
    (chain : State World) : Except UpdaterError Transaction := do
  let wallets ← fetched
  let (_, rootBytes) ← buildSanctionsTree wallets
  prepare env config registered rpcFault rootBytes chain

end Updater

/-! ## Reading the roots back -/

theorem issuerData_length (bump : UInt8) (issuer : Issuer) :
    (issuerData bump issuer).length = 145 := by
  simp [issuerData, ISSUER_DISCRIMINATOR, toLeBytes, Bytes32.length_eq]

private theorem slice32_of_append {before rest : List UInt8} {value : Bytes32} {start : Nat}
    (length : before.length = start) :
    Updater.slice32 (before ++ (value.bytes ++ rest)) start = .ok value := by
  have taken : ((before ++ (value.bytes ++ rest)).drop start).take 32 = value.bytes := by
    rw [← length, List.drop_left, ← value.length_eq, List.take_left]
  rw [Updater.slice32, dif_pos (by rw [taken, value.length_eq])]
  exact congrArg Except.ok (Bytes32.ext taken)

/-- The roots that are read are those of the account. -/
theorem readCurrentRoots_issuer {chain : State World} {issuer : Issuer}
    (found : chain.accounts (issuerPda env config) = some (.issuer issuer)) :
    Updater.readCurrentRoots env config false chain = .ok
      { merkle := issuer.merkleRoot
        sanctions := issuer.sanctionsRoot
        jurisdiction := issuer.jurisdictionRoot } := by
  have data : getAccountData env config chain = some (issuerData config.bump issuer) := by
    rw [getAccountData, found]
  have enough : 8 + 32 + 32 * 3 ≤ (issuerData config.bump issuer).length := by
    rw [issuerData_length]
    omega
  -- the discriminator and the authority stand before the roots, thirty-two bytes each
  have merkle : Updater.slice32 (issuerData config.bump issuer) 40 = .ok issuer.merkleRoot := by
    rw [issuerData]
    simp only [List.append_assoc]
    rw [← List.append_assoc]
    exact slice32_of_append (by simp [ISSUER_DISCRIMINATOR, Bytes32.length_eq])
  have sanctions : Updater.slice32 (issuerData config.bump issuer) 72 =
      .ok issuer.sanctionsRoot := by
    rw [issuerData]
    simp only [List.append_assoc]
    rw [← List.append_assoc, ← List.append_assoc]
    exact slice32_of_append (by simp [ISSUER_DISCRIMINATOR, Bytes32.length_eq])
  have jurisdiction : Updater.slice32 (issuerData config.bump issuer) 104 =
      .ok issuer.jurisdictionRoot := by
    rw [issuerData]
    simp only [List.append_assoc]
    rw [← List.append_assoc, ← List.append_assoc, ← List.append_assoc]
    exact slice32_of_append (by simp [ISSUER_DISCRIMINATOR, Bytes32.length_eq])
  simp only [Updater.readCurrentRoots, bind_eq_ok, require_eq_ok, okOr_eq_ok, pure_eq_ok]
  exact ⟨⟨⟩, trivial, _, data, ⟨⟩, enough, _, merkle, _, sanctions, _, jurisdiction, rfl⟩

end ZkSettle.Service
