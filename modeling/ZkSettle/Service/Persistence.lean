import ZkSettle.Crypto.Sparse
import ZkSettle.Service.Coherence

/-!
# Saves that fail and saves that succeed

What a handler leaves in memory when its save fails, and what a load brings back after a
save. A revocation is taken back by hand, which is exact because of the coherence of the
state; a new credential is not taken back. The file has the records in the order of their
indices, whatever order the map gives them in, so that the tree is rebuilt leaf by leaf.
-/
namespace ZkSettle.Service

open Crypto Program

variable {Proof Address World : Type} {env : External Proof Address World} {config : Config}

/-- Two states with the same credentials, leaves and sanctioned keys, and the same mark. -/
structure Unchanged (st st' : IssuerState) : Prop where
  leaves : st'.membershipTree.leaves = st.membershipTree.leaves
  sanctioned : ∀ bits,
    st'.sanctionsTree.leaves.lookup bits = st.sanctionsTree.leaves.lookup bits
  sanctionsRoot : st'.sanctionsTree.root = st.sanctionsTree.root
  credentials : ∀ wallet, st'.credentials.lookup wallet = st.credentials.lookup wallet
  rootsDirty : st'.rootsDirty = st.rootsDirty

theorem Unchanged.refl (st : IssuerState) : Unchanged st st where
  leaves := rfl
  sanctioned := fun _ => rfl
  sanctionsRoot := rfl
  credentials := fun _ => rfl
  rootsDirty := rfl

/-! ## New credentials -/

/-- An error leaves the state as it was, and a retry, at any time and with any outcome of
its save, goes as a first attempt would go. -/
def Atomic {α : Type} (handler : Bool → UInt64 → IssuerState → Disk → Reply α) (saveFault : Bool)
    (now : UInt64) (st : IssuerState) (disk : Disk) : Prop :=
  ∀ error st' disk', handler saveFault now st disk = (.error error, st', disk') →
    Unchanged st st' ∧
      ∀ (saveFault : Bool) (later : UInt64),
        handler saveFault later st' disk' = handler saveFault later st disk

/-- A new wallet comes to a service whose save fails. -/
def SaveFails (statePath : Option String) (saveFault : Bool) (text : String) (st : IssuerState) :
    Prop :=
  statePath.isSome = true ∧ saveFault = true ∧
    ∃ wallet, walletHexToBytes text = .ok wallet ∧ wallet ∉ st.credentials

section Insert

variable {statePath : Option String} {saveFault : Bool} {now : UInt64} {text jurisdiction : String}
  {st : IssuerState} {disk : Disk}

/-- An error with nothing to save leaves everything as it was. -/
theorem serveInsert_error (saves : ¬ SaveFails statePath saveFault text st) {error : ServiceError}
    {st' : IssuerState} {disk' : Disk}
    (failed : serveInsert statePath saveFault now text jurisdiction st disk =
      (.error error, st', disk')) : st' = st ∧ disk' = disk := by
  rw [serveInsert] at failed
  cases decoded : walletHexToBytes text with
  | error e =>
    rw [decoded] at failed
    cases failed
    exact ⟨rfl, rfl⟩
  | ok wallet =>
    simp only [decoded] at failed
    by_cases known : wallet ∈ st.credentials
    · rw [if_pos known] at failed
      cases failed
      exact ⟨rfl, rfl⟩
    · -- the wallet is new, so its save has to go well
      rw [if_neg known] at failed
      cases statePath with
      | none => cases failed
      | some path =>
        cases saveFault with
        | false => cases failed
        | true => exact absurd ⟨rfl, rfl, wallet, decoded, known⟩ saves

variable (now jurisdiction disk) in
/-- A save that fails leaves the new leaf in memory. -/
theorem serveInsert_unsaved (fails : SaveFails statePath saveFault text st) :
    ∃ st', serveInsert statePath saveFault now text jurisdiction st disk =
        (.error (.persist .write), st', disk) ∧ ¬ Unchanged st st' := by
  obtain ⟨path, fault, wallet, decoded, fresh⟩ := fails
  obtain ⟨path, rfl⟩ := Option.isSome_iff_exists.mp path
  subst fault
  refine ⟨st.insertCredential wallet (bytesBeToFr wallet) jurisdiction now, ?_, ?_⟩
  · rw [serveInsert, decoded]
    simp only [if_neg fresh]
    rfl
  · intro unchanged
    have length := congrArg List.length unchanged.leaves
    simp [IssuerState.insertCredential, MerkleTree.insert] at length

/-- The handler inserts as both of them do, whatever it answers with. -/
def Inserts {α : Type} (handler : Bool → UInt64 → IssuerState → Disk → Reply α)
    (statePath : Option String) (text jurisdiction : String) : Prop :=
  ∀ saveFault now st disk,
    ((handler saveFault now st disk).1.map fun _ => (), (handler saveFault now st disk).2) =
      serveInsert statePath saveFault now text jurisdiction st disk

theorem Inserts.error_iff {α : Type} {handler : Bool → UInt64 → IssuerState → Disk → Reply α}
    (inserts : Inserts handler statePath text jurisdiction) {error : ServiceError}
    {st' : IssuerState} {disk' : Disk} :
    handler saveFault now st disk = (.error error, st', disk') ↔
      serveInsert statePath saveFault now text jurisdiction st disk =
        (.error error, st', disk') := by
  rw [← inserts]
  rcases handler saveFault now st disk with ⟨reply, left⟩
  cases reply <;> simp [Except.map]

/-- A handler that inserts is atomic except where a save fails. -/
theorem Inserts.atomic_iff {α : Type} {handler : Bool → UInt64 → IssuerState → Disk → Reply α}
    (inserts : Inserts handler statePath text jurisdiction) :
    Atomic handler saveFault now st disk ↔ ¬ SaveFails statePath saveFault text st := by
  constructor
  · intro atomic fails
    obtain ⟨st', unsaved, changed⟩ := serveInsert_unsaved now jurisdiction disk fails
    exact changed (atomic _ _ _ (inserts.error_iff.mpr unsaved)).1
  · intro saves error st' disk' failed
    obtain ⟨rfl, rfl⟩ := serveInsert_error saves (inserts.error_iff.mp failed)
    exact ⟨.refl _, fun _ _ => rfl⟩

end Insert

/-- Issuing a credential and adding a wallet are atomic if and only if it is not the save of
a new wallet that fails. -/
theorem insert_atomic_iff (statePath : Option String) (saveFault : Bool) (now : UInt64)
    (st : IssuerState) (disk : Disk) :
    (∀ req : IssueRequest,
      Atomic (fun saveFault now => issueCredential statePath saveFault now req) saveFault now st
          disk ↔ ¬ SaveFails statePath saveFault req.wallet st) ∧
      ∀ wallet : String,
        Atomic (fun saveFault now => addWallet statePath saveFault now wallet) saveFault now st
          disk ↔ ¬ SaveFails statePath saveFault wallet st := by
  constructor
  · intro req
    have inserts : Inserts (fun saveFault now => issueCredential statePath saveFault now req)
        statePath req.wallet req.jurisdiction :=
      fun saveFault now st disk => serve_issue_eq statePath saveFault now req st disk
    exact inserts.atomic_iff
  · intro wallet
    have inserts : Inserts (fun saveFault now => addWallet statePath saveFault now wallet)
        statePath wallet "UNKNOWN" :=
      fun saveFault now st disk => serve_add_eq statePath saveFault now wallet st disk
    exact inserts.atomic_iff

/-- The first credential, issued twice because its first save fails: the retry is refused. -/
theorem not_issue_atomic :
    (∃ st' disk',
      issueCredential (some "state.json") true 0 ⟨Sample.textOne, "US"⟩ .new none =
          (.error (.persist .write), st', disk') ∧
        (issueCredential (some "state.json") false 1 ⟨Sample.textOne, "US"⟩ st' disk').1 =
          .error .duplicateWallet) ∧
      ¬ ∀ (statePath : Option String) (saveFault : Bool) (now : UInt64) (req : IssueRequest)
        (st : IssuerState) (disk : Disk),
        Atomic (fun saveFault now => issueCredential statePath saveFault now req) saveFault now st
          disk := by
  have bytes : walletHexToBytes Sample.textOne = .ok Sample.one := Sample.decode_one
  have residue := walletToFr_of_bytes bytes
  have unknown : Sample.one ∉ IssuerState.new.credentials := AList.notMem_empty _
  have first : issueCredential (some "state.json") true 0 ⟨Sample.textOne, "US"⟩ .new none =
      (.error (.persist .write),
        IssuerState.new.insertCredential Sample.one (bytesBeToFr Sample.one) "US" 0, none) := by
    rw [issueCredential, bytes, residue]
    simp only [if_neg unknown]
    rfl
  have known : Sample.one ∈ (IssuerState.new.insertCredential Sample.one
      (bytesBeToFr Sample.one) "US" 0).credentials := by
    simp [IssuerState.insertCredential]
  refine ⟨⟨_, _, first, ?_⟩, fun always => ?_⟩
  · rw [issueCredential, bytes, residue]
    simp only [if_pos known]
  · have unchanged := (always _ _ _ _ _ _ _ _ _ first).1
    -- the credential is there, and was not
    have same := unchanged.credentials Sample.one
    rw [AList.lookup_eq_none.mpr unknown, AList.lookup_eq_none] at same
    exact same known

/-! ## Revocations -/

/-- A state whose own tree of sanctions has seen some operations. -/
def IssuerState.sanction (st : IssuerState) (operations : List Operation) : IssuerState :=
  { st with sanctionsTree := operations.foldl SparseMerkleTree.apply st.sanctionsTree }

/-- What the sparse tree holds has the value one. -/
def Binary (tree : SparseMerkleTree) : Prop :=
  ∀ bits value, tree.leaves.lookup bits = some value → value = 1

/-- A wallet removed and put back where it was is as if it had stayed. -/
theorem lookup_reinserted {tree : SparseMerkleTree} (binary : Binary tree) (wallet : Fr)
    (bits : List Bool) :
    (if (tree.remove wallet).2 then (tree.remove wallet).1.insert wallet
      else (tree.remove wallet).1).leaves.lookup bits = tree.leaves.lookup bits := by
  by_cases same : bits = keyBits (poseidon2Hash [wallet])
  · subst same
    cases found : tree.leaves.lookup (keyBits (poseidon2Hash [wallet])) with
    | none => simp [SparseMerkleTree.remove, found]
    | some value => simp [SparseMerkleTree.remove, SparseMerkleTree.insert, found, binary _ _ found]
  · split
    · rw [SparseMerkleTree.insert, AList.lookup_insert_ne same, SparseMerkleTree.remove,
        AList.lookup_erase_ne same]
    · rw [SparseMerkleTree.remove, AList.lookup_erase_ne same]

section Revoke

variable {st : IssuerState} {wallet : Bytes32} {cred : CredentialRecord}

/-- The revocation of a live credential taken back. -/
theorem Coherent.unmarkRevoked (coherent : Coherent st) (binary : Binary st.sanctionsTree)
    (known : st.credentials.lookup wallet = some cred) (live : cred.revoked = false) :
    Unchanged st
      ((st.markRevoked ⟨st.membershipTree.leaves.set cred.leafIndex 0⟩
        (st.sanctionsTree.remove (bytesBeToFr wallet)).1 wallet cred).unmarkRevoked wallet cred
          (bytesBeToFr wallet) (st.sanctionsTree.remove (bytesBeToFr wallet)).2
          st.rootsDirty) := by
  have leaf := coherent.leaves wallet cred known
  rw [live] at leaf
  obtain ⟨inside, leaf⟩ := List.getElem?_eq_some_iff.mp leaf
  have sanctioned := lookup_reinserted binary (bytesBeToFr wallet)
  constructor
  case leaves =>
    have room : cred.leafIndex <
        (MerkleTree.mk (st.membershipTree.leaves.set cred.leafIndex 0)).leaves.length := by
      simpa using inside
    rw [IssuerState.unmarkRevoked, IssuerState.markRevoked]
    simp only [MerkleTree.setLeaf_of_lt room, List.set_set]
    have same : walletLeaf (bytesBeToFr wallet) = st.membershipTree.leaves[cred.leafIndex] :=
      leaf.symm
    rw [same, List.set_getElem_self]
  case sanctioned => exact sanctioned
  case sanctionsRoot => exact subtreeHash_congr sanctioned MERKLE_DEPTH []
  case credentials =>
    intro other
    by_cases same : other = wallet
    · subst same
      simp [IssuerState.unmarkRevoked, known]
    · simp [IssuerState.unmarkRevoked, IssuerState.markRevoked, AList.lookup_insert_ne same]
  case rootsDirty => rfl

/-- A revocation that fails leaves a coherent state as it was. -/
theorem Coherent.revoke_error (coherent : Coherent st) (binary : Binary st.sanctionsTree)
    {statePath : Option String} {saveFault : Bool} {text : String} {disk disk' : Disk}
    {error : ServiceError} {st' : IssuerState}
    (failed : revokeCredential statePath saveFault text st disk = (.error error, st', disk')) :
    Unchanged st st' := by
  have reply := revokeCredential_reply statePath saveFault text st disk
  rw [failed] at reply
  cases reply with
  | refused => exact .refl st
  | @unsaved wallet cred tree _ _ marks =>
    have inside := (List.getElem?_eq_some_iff.mp (coherent.leaves wallet cred marks.known)).1
    have zeroed := marks.zeroed
    rw [MerkleTree.zeroLeaf, MerkleTree.setLeaf_of_lt inside] at zeroed
    cases zeroed
    -- the save has failed, and every change is undone
    exact coherent.unmarkRevoked binary marks.known marks.live

end Revoke

theorem sanction_binary {st : IssuerState} (empty : st.sanctionsTree = .new)
    (operations : List Operation) : Binary (st.sanction operations).sanctionsTree := by
  intro bits value found
  have after : (st.sanction operations).sanctionsTree = .after operations := by
    rw [IssuerState.sanction, empty]
    rfl
  rw [after, SparseMerkleTree.lookup_after] at found
  split at found
  · exact (Option.some.inj found).symm
  · cases found

/-- In every reachable state, whatever its tree of sanctions has been filled with, a
revocation that fails changes nothing. -/
theorem revoke_rollsBack (issuerFault updaterFault : Bool) (clock : Clock) (chain : State World)
    (actions : List (Action World)) {s : System World}
    (ends : run env config (System.start env config issuerFault updaterFault clock chain) actions =
      s) (sanctioned : List Operation) (statePath : Option String) (saveFault : Bool)
    (text : String) {disk disk' : Disk} {error : ServiceError} {st' : IssuerState}
    (failed : revokeCredential statePath saveFault text (s.issuer.sanction sanctioned) disk =
      (.error error, st', disk')) : Unchanged (s.issuer.sanction sanctioned) st' := by
  obtain ⟨records, represents⟩ :=
    run_represents env config issuerFault updaterFault clock chain actions
  rw [ends] at represents
  obtain ⟨count, indices, leaves⟩ := represents.coherent
  have coherent : Coherent (s.issuer.sanction sanctioned) := ⟨count, indices, leaves⟩
  exact coherent.revoke_error (sanction_binary represents.sanctions sanctioned) failed

/-- The only member, who is on the sanctions list as well; the save of the revocation fails. -/
theorem revoke_rollsBack_one : ∃ (s : System Reference.Ledger) (st' : IssuerState) (disk' : Disk),
    run reference (Sample.service none) Sample.started [.request false Sample.issue] = s ∧
      revokeCredential (some "state.json") true Sample.textOne (s.issuer.sanction [.insert 1])
          none = (.error (.persist .write), st', disk') ∧
      Unchanged (s.issuer.sanction [.insert 1]) st' := by
  obtain ⟨s, ends, represents⟩ := Sample.run_one
  have known : (s.issuer.sanction [.insert 1]).credentials.lookup Sample.one =
      some (newRecord [] Sample.one "US" 0) :=
    (represents.lookup Sample.one _).mpr ⟨List.mem_singleton_self _, rfl⟩
  have inside : 0 < (s.issuer.sanction [.insert 1]).membershipTree.leaves.length := by
    rw [IssuerState.sanction, represents.leaves]
    exact Nat.zero_lt_one
  have bytes : walletHexToBytes Sample.textOne = .ok Sample.one := Sample.decode_one
  have failed : ∃ st' disk', revokeCredential (some "state.json") true Sample.textOne
      (s.issuer.sanction [.insert 1]) none = (.error (.persist .write), st', disk') := by
    rw [revokeCredential, bytes, walletToFr_of_bytes bytes]
    simp only [known, newRecord, List.length_nil, MerkleTree.zeroLeaf,
      MerkleTree.setLeaf_of_lt inside, Bool.false_eq_true, if_false]
    exact ⟨_, _, rfl⟩
  obtain ⟨st', disk', failed⟩ := failed
  exact ⟨s, st', disk', ends [], failed, revoke_rollsBack false false (Sample.clock 0)
    (State.deployed []) [.request false Sample.issue] (ends []) [.insert 1] _ _ _ failed⟩

/-! ## The file -/

/-- In every reachable state, and whatever the order in which the map gives its records, a
save is loaded again as the same credentials over the same tree. -/
theorem save_load_roundTrip (issuerFault updaterFault : Bool) (clock : Clock)
    (chain : State World) (actions : List (Action World)) {s : System World}
    (ends : run env config (System.start env config issuerFault updaterFault clock chain) actions =
      s) {credentials : Credentials}
    (order : credentials.entries.Perm s.issuer.credentials.entries) (disk : Disk) :
    ∃ disk' st', save false { s.issuer with credentials } disk = (.ok (), disk') ∧
      load false disk' = .ok st' ∧
      (∀ wallet, st'.credentials.lookup wallet = s.issuer.credentials.lookup wallet) ∧
      st'.membershipTree = s.issuer.membershipTree ∧ st'.registered = s.issuer.registered := by
  obtain ⟨records, represents⟩ :=
    run_represents env config issuerFault updaterFault clock chain actions
  rw [ends] at represents
  -- the map in the other order stands for the same records
  have shuffled : Represents { s.issuer with credentials } records :=
    { represents with
      lookup := fun wallet record => by
        rw [AList.perm_lookup order]
        exact represents.lookup wallet record }
  have saved : IssuerState.persisted { s.issuer with credentials } =
      { credentials := records, registered := s.issuer.registered } := by
    rw [← shuffled.persisted]
    rfl
  obtain ⟨st', loaded, represents', -, registered⟩ :
      ∃ st, load false (some { credentials := records, registered := s.issuer.registered }) =
        .ok st ∧ Represents st records ∧ st.rootsDirty = false ∧
          st.registered = s.issuer.registered :=
    represents_load represents.wallets represents.indices
  refine ⟨some _, st', rfl, ?_, ?_, ?_, registered⟩
  · rw [saved]
    exact loaded
  · intro wallet
    apply Option.ext
    intro record
    rw [represents'.lookup, represents.lookup]
  · exact MerkleTree.ext (represents'.leaves.trans represents.leaves.symm)

/-- Two credentials, the first of them revoked, in a map that gives the last one first. -/
theorem save_load_roundTrip_two : ∃ (s : System Reference.Ledger) (credentials : Credentials),
    run reference (Sample.service none) Sample.started
        [.request false Sample.issue, .request false (.issue 0 Sample.requestAgain),
          .request false (.revoke Sample.textOne)] = s ∧
      s.issuer.membershipTree.leaves = [0, walletLeaf (bytesBeToFr Sample.oneAgain)] ∧
      credentials.entries = s.issuer.credentials.entries.reverse ∧
      ∃ disk' st', save false { s.issuer with credentials } none = (.ok (), disk') ∧
        load false disk' = .ok st' ∧
        (∀ wallet, st'.credentials.lookup wallet = s.issuer.credentials.lookup wallet) ∧
        st'.membershipTree = s.issuer.membershipTree ∧
        st'.registered = s.issuer.registered := by
  obtain ⟨s₁, first, represents⟩ := Sample.run_one
  obtain ⟨s₂, second, represents⟩ := run_issue reference (Sample.service none) represents 0
    Sample.decode_again (by decide)
  obtain ⟨issuer, disk, -, third, represents⟩ := run_revoke reference (Sample.service none)
    represents Sample.decode_one List.mem_cons_self rfl rfl
  have ends := (first _).trans ((second _).trans (third []))
  have order := List.reverse_perm issuer.credentials.entries
  have keys := (List.perm_nodupKeys order).mpr issuer.credentials.nodupKeys
  refine ⟨{ s₂ with issuer, disk }, ⟨issuer.credentials.entries.reverse, keys⟩, ends, ?_, rfl, ?_⟩
  · rw [represents.leaves]
    rfl
  · exact save_load_roundTrip false false (Sample.clock 0) (State.deployed []) _ ends order none

end ZkSettle.Service
