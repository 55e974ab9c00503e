import ZkSettle.Library.Slots
import ZkSettle.Service.State

/-!
# The records behind the state

The abstract state of the issuer is the list of its records in the order of issue. The
association list and the membership tree represent that list, each request changes it in
one place, and what is saved and loaded is the list itself.
-/
namespace ZkSettle.Service

open Crypto Program

/-- The state represents the records, and nothing is sanctioned. -/
structure Represents (st : IssuerState) (records : List CredentialRecord) : Prop where
  lookup : ∀ wallet record, st.credentials.lookup wallet = some record ↔
    record ∈ records ∧ record.wallet = wallet
  wallets : (records.map CredentialRecord.wallet).Nodup
  indices : records.map CredentialRecord.leafIndex = List.range records.length
  leaves : st.membershipTree.leaves = records.map CredentialRecord.leaf
  sanctions : st.sanctionsTree = .new
  jurisdiction : st.jurisdictionTree = IssuerState.new.jurisdictionTree

theorem represents_new : Represents .new [] where
  lookup := by simp [IssuerState.new]
  wallets := List.nodup_nil
  indices := rfl
  leaves := rfl
  sanctions := rfl
  jurisdiction := rfl

/-- The records determine the roots. -/
theorem Represents.rootsAsBytes {st st' : IssuerState} {records : List CredentialRecord}
    (represents : Represents st records) (represents' : Represents st' records) :
    st'.rootsAsBytes = st.rootsAsBytes := by
  have same : st'.membershipTree = st.membershipTree :=
    MerkleTree.ext (represents'.leaves.trans represents.leaves.symm)
  rw [IssuerState.rootsAsBytes, IssuerState.rootsAsBytes, same, represents.sanctions,
    represents'.sanctions, represents.jurisdiction, represents'.jurisdiction]

/-! ## Records and their indices -/

theorem leafIndex_of_getElem {records : List CredentialRecord}
    (indices : records.map CredentialRecord.leafIndex = List.range records.length) {i : Nat}
    {record : CredentialRecord} (found : records[i]? = some record) : record.leafIndex = i := by
  have below : i < records.length := (List.getElem?_eq_some_iff.mp found).1
  have entry : (records.map CredentialRecord.leafIndex)[i]? = some record.leafIndex := by
    simp [found]
  rw [indices, List.getElem?_range below] at entry
  exact (Option.some.inj entry).symm

theorem Represents.find {st : IssuerState} {records : List CredentialRecord}
    (represents : Represents st records) {wallet : Bytes32} {record : CredentialRecord}
    (found : st.credentials.lookup wallet = some record) :
    records[record.leafIndex]? = some record ∧ record.wallet = wallet := by
  obtain ⟨member, owner⟩ := (represents.lookup wallet record).mp found
  obtain ⟨i, present⟩ := List.mem_iff_getElem?.mp member
  rw [leafIndex_of_getElem represents.indices present]
  exact ⟨present, owner⟩

theorem Represents.fresh {st : IssuerState} {records : List CredentialRecord}
    (represents : Represents st records) {wallet : Bytes32} (absent : wallet ∉ st.credentials) :
    wallet ∉ records.map CredentialRecord.wallet := by
  intro member
  obtain ⟨record, present, rfl⟩ := List.mem_map.mp member
  have found := (represents.lookup record.wallet record).mpr ⟨present, rfl⟩
  rw [AList.lookup_eq_none.mpr absent] at found
  cases found

/-! ## What is saved -/

theorem Represents.entries_perm {st : IssuerState} {records : List CredentialRecord}
    (represents : Represents st records) :
    st.credentials.entries.Perm (records.map fun record => ⟨record.wallet, record⟩) := by
  have keys : (records.map fun record =>
      (⟨record.wallet, record⟩ : Sigma fun _ : Bytes32 => CredentialRecord)).NodupKeys := by
    rw [List.NodupKeys, List.keys, List.map_map]
    exact represents.wallets
  apply List.lookup_ext st.credentials.nodupKeys keys
  intro wallet record
  rw [List.mem_dlookup_iff keys, List.mem_map]
  constructor
  · intro found
    obtain ⟨member, rfl⟩ := (represents.lookup wallet record).mp found
    exact ⟨record, member, rfl⟩
  · rintro ⟨other, member, same⟩
    cases same
    exact (represents.lookup _ _).mpr ⟨member, rfl⟩

theorem Represents.count {st : IssuerState} {records : List CredentialRecord}
    (represents : Represents st records) : st.credentials.entries.length = records.length := by
  rw [represents.entries_perm.length_eq, List.length_map]

theorem pairwise_of_indices {records : List CredentialRecord}
    (indices : records.map CredentialRecord.leafIndex = List.range records.length) :
    records.Pairwise fun a b => a.leafIndex < b.leafIndex := by
  rw [← List.pairwise_map (f := CredentialRecord.leafIndex) (R := fun a b => a < b), indices]
  exact List.pairwise_lt_range

/-- Sorting by index restores the order of issue, whatever the order of the map. -/
theorem insertionSort_records {records shuffled : List CredentialRecord}
    (indices : records.map CredentialRecord.leafIndex = List.range records.length)
    (perm : shuffled.Perm records) : shuffled.insertionSort byLeafIndex = records := by
  have total : Std.Total byLeafIndex := ⟨fun a b => Nat.le_total _ _⟩
  have transitive : IsTrans CredentialRecord byLeafIndex := ⟨fun a b c => Nat.le_trans⟩
  have increasing := pairwise_of_indices indices
  have same := (List.perm_insertionSort byLeafIndex shuffled).trans perm
  -- records of one index are one record
  have antisymm : ∀ a b, a ∈ shuffled.insertionSort byLeafIndex → b ∈ records →
      byLeafIndex a b → byLeafIndex b a → a = b := ?_
  · exact List.Perm.eq_of_pairwise antisymm (List.pairwise_insertionSort _ _)
      (increasing.imp Nat.le_of_lt) same
  intro a b member member' le ge
  obtain ⟨i, present⟩ := List.mem_iff_getElem?.mp (same.subset member)
  obtain ⟨j, present'⟩ := List.mem_iff_getElem?.mp member'
  have index := leafIndex_of_getElem indices present
  have index' := leafIndex_of_getElem indices present'
  have equal : i = j := by
    rw [← index, ← index']
    exact Nat.le_antisymm le ge
  subst equal
  exact Option.some.inj (present.symm.trans present')

theorem Represents.persisted {st : IssuerState} {records : List CredentialRecord}
    (represents : Represents st records) : st.persisted.credentials = records := by
  apply insertionSort_records represents.indices
  have values := represents.entries_perm.map Sigma.snd
  rwa [List.map_map, List.map_id''] at values
  intro record
  rfl

/-! ## What is loaded -/

/-- The records put back one after another: wallets are looked up as they were saved. -/
theorem restore_records (records : List CredentialRecord) (st : IssuerState)
    (wallets : (records.map CredentialRecord.wallet).Nodup)
    (fresh : ∀ record ∈ records, st.credentials.lookup record.wallet = none) :
    (∀ wallet record, (records.foldl IssuerState.restore st).credentials.lookup wallet =
        some record ↔ st.credentials.lookup wallet = some record ∨
          record ∈ records ∧ record.wallet = wallet) ∧
      records.foldl IssuerState.restore st =
        { st with
          membershipTree := ⟨st.membershipTree.leaves ++ records.map CredentialRecord.leaf⟩
          credentials := (records.foldl IssuerState.restore st).credentials } := by
  induction records generalizing st with
  | nil => simp
  | cons first rest ih =>
    -- the tree grows at its end and the map by a wallet that is not in it
    rw [List.map_cons, List.nodup_cons] at wallets
    obtain ⟨distinct, wallets⟩ := wallets
    have others : ∀ record ∈ rest, record.wallet ≠ first.wallet := by
      intro record member same
      exact distinct (List.mem_map.mpr ⟨record, member, same⟩)
    have later : ∀ record ∈ rest, (st.restore first).credentials.lookup record.wallet = none := by
      intro record member
      rw [IssuerState.restore, AList.lookup_insert_ne (others record member)]
      exact fresh record (List.mem_cons_of_mem _ member)
    obtain ⟨lookup, rebuilt⟩ := ih (st.restore first) wallets later
    rw [List.foldl_cons]
    constructor
    · intro wallet record
      rw [lookup, List.mem_cons, IssuerState.restore]
      -- the wallet that was put back first is not among the others
      by_cases same : wallet = first.wallet
      · subst same
        have absent := fresh first List.mem_cons_self
        rw [AList.lookup_insert, absent]
        constructor
        · rintro (found | found)
          · exact Or.inr ⟨Or.inl (Option.some.inj found).symm, by rw [← Option.some.inj found]⟩
          · exact Or.inr ⟨Or.inr found.1, found.2⟩
        · rintro (found | ⟨rfl | member, owner⟩)
          · cases found
          · exact Or.inl rfl
          · exact absurd owner (others record member)
      · rw [AList.lookup_insert_ne same]
        constructor
        · rintro (found | found)
          · exact Or.inl found
          · exact Or.inr ⟨Or.inr found.1, found.2⟩
        · rintro (found | ⟨rfl | member, owner⟩)
          · exact Or.inl found
          · exact absurd owner.symm same
          · exact Or.inr ⟨member, owner⟩
    · rw [rebuilt]
      simp [IssuerState.restore, MerkleTree.insert]

/-- The state that is loaded represents the records that were saved. -/
theorem represents_load {records : List CredentialRecord} {registered : Bool}
    (wallets : (records.map CredentialRecord.wallet).Nodup)
    (indices : records.map CredentialRecord.leafIndex = List.range records.length) :
    ∃ st, load false (some { credentials := records, registered }) = .ok st ∧
      Represents st records ∧ st.rootsDirty = false ∧ st.registered = registered := by
  have fresh : ∀ record ∈ records,
      ({ IssuerState.new with registered } : IssuerState).credentials.lookup record.wallet =
        none := fun record _ => AList.lookup_empty _
  -- sorted by their indices the records are in the order they were saved in
  obtain ⟨lookup, rebuilt⟩ := restore_records records _ wallets fresh
  refine ⟨records.foldl IssuerState.restore { IssuerState.new with registered }, ?_, ?_, ?_, ?_⟩
  · rw [load, insertionSort_records indices (.refl records)]
    rfl
  · constructor
    case lookup =>
      intro wallet record
      rw [lookup, IssuerState.new, AList.lookup_empty]
      simp
    case wallets => exact wallets
    case indices => exact indices
    case leaves =>
      rw [rebuilt]
      exact List.nil_append _
    case sanctions => rw [rebuilt]; rfl
    case jurisdiction => rw [rebuilt]
  · rw [rebuilt]
    rfl
  · rw [rebuilt]

/-! ## Requests -/

def newRecord (records : List CredentialRecord) (wallet : Bytes32) (jurisdiction : String)
    (issuedAt : UInt64) : CredentialRecord :=
  { wallet, leafIndex := records.length, jurisdiction, issuedAt, revoked := false }

theorem Represents.insert {st : IssuerState} {records : List CredentialRecord}
    (represents : Represents st records) {wallet : Bytes32} (absent : wallet ∉ st.credentials)
    (jurisdiction : String) (issuedAt : UInt64) :
    Represents (st.insertCredential wallet (bytesBeToFr wallet) jurisdiction issuedAt)
      (records ++ [newRecord records wallet jurisdiction issuedAt]) := by
  have fresh := represents.fresh absent
  constructor
  case lookup =>
    intro other record
    rw [IssuerState.insertCredential, List.mem_append, List.mem_singleton, represents.count]
    by_cases same : other = wallet
    · subst same
      rw [AList.lookup_insert]
      constructor
      · intro found
        cases found
        exact ⟨Or.inr rfl, rfl⟩
      · rintro ⟨member | rfl, owner⟩
        · exact absurd (List.mem_map.mpr ⟨record, member, owner⟩) fresh
        · rfl
    · rw [AList.lookup_insert_ne same, represents.lookup]
      constructor
      · rintro ⟨member, owner⟩
        exact ⟨Or.inl member, owner⟩
      · rintro ⟨member | rfl, owner⟩
        · exact ⟨member, owner⟩
        · exact absurd owner.symm same
  case wallets =>
    rw [List.map_append, List.nodup_append]
    refine ⟨represents.wallets, List.nodup_singleton _, ?_⟩
    -- a wallet that was not known is the wallet of no record
    rintro other member _ same rfl
    rw [List.map_singleton, List.mem_singleton] at same
    subst same
    exact fresh member
  case indices =>
    rw [List.map_append, represents.indices, List.length_append, List.length_singleton,
      List.range_succ]
    rfl
  case leaves =>
    rw [List.map_append, ← represents.leaves]
    rfl
  case sanctions => exact represents.sanctions
  case jurisdiction => exact represents.jurisdiction

/-- A field that is the same in the new element is the same in the whole list. -/
private theorem map_set_of_same {α β : Type} {f : α → β} {xs : List α} {i : Nat} {x y : α}
    (found : xs[i]? = some x) (same : f y = f x) : (xs.set i y).map f = xs.map f := by
  rw [List.map_set, same]
  apply List.ext_getElem?
  intro j
  by_cases here : i = j
  · subst here
    obtain ⟨below, rfl⟩ := List.getElem?_eq_some_iff.mp found
    simp [below]
  · rw [List.getElem?_set_ne here]

/-- The map and the tree after one record has been rewritten in place. -/
theorem Represents.rewrite {st st' : IssuerState} {records : List CredentialRecord}
    (represents : Represents st records) {record changed : CredentialRecord}
    (found : records[record.leafIndex]? = some record) (wallet : changed.wallet = record.wallet)
    (index : changed.leafIndex = record.leafIndex)
    (credentials : st'.credentials = st.credentials.insert record.wallet changed)
    (leaves : st'.membershipTree.leaves =
      st.membershipTree.leaves.set record.leafIndex changed.leaf)
    (sanctions : st'.sanctionsTree = st.sanctionsTree)
    (jurisdiction : st'.jurisdictionTree = st.jurisdictionTree) :
    Represents st' (records.set record.leafIndex changed) := by
  have wallets : (records.set record.leafIndex changed).map CredentialRecord.wallet =
      records.map CredentialRecord.wallet := map_set_of_same found wallet
  have indices : (records.set record.leafIndex changed).map CredentialRecord.leafIndex =
      records.map CredentialRecord.leafIndex := map_set_of_same found index
  have unique := wallets ▸ represents.wallets
  have stored : changed ∈ records.set record.leafIndex changed :=
    List.mem_set (List.getElem?_eq_some_iff.mp found).1 changed
  constructor
  case lookup =>
    intro other r
    rw [credentials]
    by_cases same : other = record.wallet
    · subst same
      rw [AList.lookup_insert, Option.some.injEq]
      constructor
      · rintro rfl
        exact ⟨stored, wallet⟩
      · rintro ⟨member, owner⟩
        exact List.inj_on_of_nodup_map unique stored member (wallet.trans owner.symm)
    · rw [AList.lookup_insert_ne same, represents.lookup]
      constructor
      · rintro ⟨member, owner⟩
        -- the record is not the one that changes
        rcases Slots.mem_set_or_eq found member changed with rfl | stays
        · exact absurd owner.symm same
        · exact ⟨stays, owner⟩
      · rintro ⟨member, owner⟩
        rcases List.mem_or_eq_of_mem_set member with member | rfl
        · exact ⟨member, owner⟩
        · exact absurd (owner.symm.trans wallet) same
  case wallets => exact unique
  case indices =>
    rw [indices, List.length_set]
    exact represents.indices
  case leaves => rw [leaves, represents.leaves, List.map_set]
  case sanctions => rw [sanctions, represents.sanctions]
  case jurisdiction => rw [jurisdiction, represents.jurisdiction]

/-- What a reply says about the file. -/
def Saved (statePath : Option String) (st : IssuerState) (disk : Disk)
    (reply : Except ServiceError Unit) (disk' : Disk) : Prop :=
  match reply, statePath with
  | .ok _, some _ => disk' = some st.persisted
  | .ok _, none => disk' = disk
  | .error _, _ => disk' = disk

theorem saveAt_saved (statePath : Option String) (saveFault : Bool) (st : IssuerState)
    (disk : Disk) : Saved statePath st disk (saveAt statePath saveFault st disk).1
      (saveAt statePath saveFault st disk).2 := by
  cases statePath with
  | none => rfl
  | some path => cases saveFault <;> rfl

/-- A request that changes the records, and the time it comes at. -/
inductive Request where
  | issue (now : UInt64) (req : IssueRequest)
  | add (now : UInt64) (wallet : String)
  | revoke (wallet : String)

/-- The handler's reply without its body. -/
def Request.serve (statePath : Option String) (saveFault : Bool) (request : Request)
    (st : IssuerState) (disk : Disk) : Reply Unit :=
  match request with
  | .issue now req =>
    let (reply, st, disk) := issueCredential statePath saveFault now req st disk
    (reply.map fun _ => (), st, disk)
  | .add now wallet =>
    let (reply, st, disk) := addWallet statePath saveFault now wallet st disk
    (reply.map fun _ => (), st, disk)
  | .revoke wallet =>
    let (reply, st, disk) := revokeCredential statePath saveFault wallet st disk
    (reply.map fun _ => (), st, disk)

/-- The flags that no request touches. -/
structure SameFlags (st st' : IssuerState) : Prop where
  registered : st'.registered = st.registered
  lastPublishSlot : st'.lastPublishSlot = st.lastPublishSlot

/-- What a request does to the records, the flags and the file. -/
inductive Served (statePath : Option String) (st : IssuerState) (disk : Disk)
    (records : List CredentialRecord) : Reply Unit → List CredentialRecord → Prop where
  | refused {error st'} (represents : Represents st' records) (flags : SameFlags st st')
      (dirty : st'.rootsDirty = st.rootsDirty) :
      Served statePath st disk records (.error error, st', disk) records
  | added {reply st' disk'} (wallet : Bytes32) (jurisdiction : String) (issuedAt : UInt64)
      (fresh : wallet ∉ records.map CredentialRecord.wallet)
      (represents :
        Represents st' (records ++ [newRecord records wallet jurisdiction issuedAt]))
      (flags : SameFlags st st') (dirty : st'.rootsDirty = true)
      (saved : Saved statePath st' disk reply disk') :
      Served statePath st disk records (reply, st', disk')
        (records ++ [newRecord records wallet jurisdiction issuedAt])
  | revoked {st' disk'} (record : CredentialRecord)
      (found : records[record.leafIndex]? = some record) (live : record.revoked = false)
      (represents :
        Represents st' (records.set record.leafIndex { record with revoked := true }))
      (flags : SameFlags st st') (dirty : st'.rootsDirty = true)
      (saved : Saved statePath st' disk (.ok ()) disk') :
      Served statePath st disk records (.ok (), st', disk')
        (records.set record.leafIndex { record with revoked := true })

section Served

variable {statePath : Option String} {st : IssuerState} {disk : Disk}
  {records records' : List CredentialRecord} {reply : Reply Unit}

theorem Served.represents (served : Served statePath st disk records reply records') :
    Represents reply.2.1 records' := by
  cases served with
  | refused represents => exact represents
  | added _ _ _ _ represents => exact represents
  | revoked _ _ _ represents => exact represents

theorem Served.flags (served : Served statePath st disk records reply records') :
    SameFlags st reply.2.1 := by
  cases served with
  | refused _ flags => exact flags
  | added _ _ _ _ _ flags => exact flags
  | revoked _ _ _ _ flags => exact flags

theorem Saved.file {answer : Except ServiceError Unit} {disk' : Disk}
    (saved : Saved statePath st disk answer disk') : disk' = disk ∨ disk' = some st.persisted := by
  cases answer with
  | error e => exact Or.inl saved
  | ok =>
    cases statePath with
    | none => exact Or.inl saved
    | some path => exact Or.inr saved

/-- The file stays as it was, or holds the new state. -/
theorem Served.file (served : Served statePath st disk records reply records') :
    reply.2.2 = disk ∨ reply.2.2 = some reply.2.1.persisted := by
  cases served with
  | refused => exact Or.inl rfl
  | added _ _ _ _ _ _ _ saved => exact saved.file
  | revoked _ _ _ _ _ _ saved => exact saved.file

end Served

theorem walletToFr_of_bytes {hexStr : String} {wallet : Bytes32}
    (decoded : walletHexToBytes hexStr = .ok wallet) :
    walletToFr hexStr = .ok (bytesBeToFr wallet) := by
  cases outcome : decodeWallet hexStr with
  | error e =>
    rw [walletHexToBytes, outcome] at decoded
    cases decoded
  | ok bytes =>
    rw [walletHexToBytes, outcome] at decoded
    cases decoded
    rw [walletToFr, outcome]
    rfl

/-- The live record that a revocation marks, and the tree without its leaf. -/
structure Marks (st : IssuerState) (text : String) (wallet : Bytes32) (cred : CredentialRecord)
    (tree : MerkleTree) : Prop where
  decoded : walletHexToBytes text = .ok wallet
  known : st.credentials.lookup wallet = some cred
  live : cred.revoked = false
  zeroed : st.membershipTree.zeroLeaf cred.leafIndex = .ok tree

def IssuerState.marked (st : IssuerState) (tree : MerkleTree) (wallet : Bytes32)
    (cred : CredentialRecord) : IssuerState :=
  st.markRevoked tree (st.sanctionsTree.remove (bytesBeToFr wallet)).1 wallet cred

/-- A revocation is refused, or it marks a live record; a mark that cannot be saved is taken
back. -/
inductive RevokeReply (statePath : Option String) (saveFault : Bool) (text : String)
    (st : IssuerState) (disk : Disk) : Reply RevokeResponse → Prop where
  | refused {e : ServiceError} : RevokeReply statePath saveFault text st disk (.error e, st, disk)
  | saved {wallet : Bytes32} {cred : CredentialRecord} {tree : MerkleTree} {disk' : Disk}
      (marks : Marks st text wallet cred tree)
      (saved : saveAt statePath saveFault (st.marked tree wallet cred) disk = (.ok (), disk')) :
      RevokeReply statePath saveFault text st disk
        (.ok { wallet := text, revoked := true }, st.marked tree wallet cred, disk')
  | unsaved {wallet : Bytes32} {cred : CredentialRecord} {tree : MerkleTree} {e : ServiceError}
      {disk' : Disk} (marks : Marks st text wallet cred tree)
      (unsaved : saveAt statePath saveFault (st.marked tree wallet cred) disk =
        (.error e, disk')) :
      RevokeReply statePath saveFault text st disk
        (.error e, (st.marked tree wallet cred).unmarkRevoked wallet cred (bytesBeToFr wallet)
          (st.sanctionsTree.remove (bytesBeToFr wallet)).2 st.rootsDirty, disk')

theorem revokeCredential_reply (statePath : Option String) (saveFault : Bool) (text : String)
    (st : IssuerState) (disk : Disk) :
    RevokeReply statePath saveFault text st disk
      (revokeCredential statePath saveFault text st disk) := by
  rw [revokeCredential]
  cases decoded : walletHexToBytes text with
  | error e => exact .refused
  | ok wallet =>
    rw [walletToFr_of_bytes decoded]
    cases known : st.credentials.lookup wallet with
    | none =>
      simp only [known]
      exact .refused
    | some cred =>
      cases live : cred.revoked with
      | true =>
        simp only [known, live]
        exact .refused
      | false =>
        simp only [known, live, Bool.false_eq_true, if_false]
        cases zeroed : st.membershipTree.zeroLeaf cred.leafIndex with
        | error e => exact .refused
        | ok tree =>
          have marks : Marks st text wallet cred tree := ⟨decoded, known, live, zeroed⟩
          cases outcome : saveAt statePath saveFault (st.marked tree wallet cred) disk with
          | mk reply disk' =>
            have answer := outcome
            rw [IssuerState.marked] at answer
            simp only [answer]
            cases reply with
            | ok => exact .saved marks outcome
            | error e => exact .unsaved marks outcome

/-- What `issue_credential` and `add_wallet` share, with the reply but not its body. -/
def serveInsert (statePath : Option String) (saveFault : Bool) (now : UInt64)
    (hexStr jurisdiction : String) (st : IssuerState) (disk : Disk) : Reply Unit :=
  match walletHexToBytes hexStr with
  | .error e => (.error e, st, disk)
  | .ok wallet =>
    if wallet ∈ st.credentials then (.error .duplicateWallet, st, disk)
    else
      let st := st.insertCredential wallet (bytesBeToFr wallet) jurisdiction now
      let (reply, disk) := saveAt statePath saveFault st disk
      (reply, st, disk)

theorem serve_issue_eq (statePath : Option String) (saveFault : Bool) (now : UInt64)
    (req : IssueRequest) (st : IssuerState) (disk : Disk) :
    (Request.issue now req).serve statePath saveFault st disk =
      serveInsert statePath saveFault now req.wallet req.jurisdiction st disk := by
  rw [Request.serve, issueCredential, serveInsert]
  cases decoded : walletHexToBytes req.wallet with
  | error e => rfl
  | ok wallet =>
    rw [walletToFr_of_bytes decoded]
    by_cases known : wallet ∈ st.credentials
    · simp only [if_pos known]
      rfl
    · simp only [if_neg known]
      cases saveAt statePath saveFault
          (st.insertCredential wallet (bytesBeToFr wallet) req.jurisdiction now) disk with
      | mk reply disk' => cases reply <;> rfl

theorem serve_add_eq (statePath : Option String) (saveFault : Bool) (now : UInt64)
    (hexStr : String) (st : IssuerState) (disk : Disk) :
    (Request.add now hexStr).serve statePath saveFault st disk =
      serveInsert statePath saveFault now hexStr "UNKNOWN" st disk := by
  rw [Request.serve, addWallet, serveInsert]
  cases decoded : walletHexToBytes hexStr with
  | error e => rfl
  | ok wallet =>
    rw [walletToFr_of_bytes decoded]
    by_cases known : wallet ∈ st.credentials
    · simp only [if_pos known]
      rfl
    · simp only [if_neg known]
      cases saveAt statePath saveFault
          (st.insertCredential wallet (bytesBeToFr wallet) "UNKNOWN" now) disk with
      | mk reply disk' => cases reply <;> rfl

/-- A new credential that is saved, or has nowhere to be saved. -/
theorem serve_issue (statePath : Option String) (now : UInt64) {req : IssueRequest}
    {wallet : Bytes32} (decoded : walletHexToBytes req.wallet = .ok wallet) {st : IssuerState}
    (absent : wallet ∉ st.credentials) (disk : Disk) :
    (Request.issue now req).serve statePath false st disk =
      (.ok (), st.insertCredential wallet (bytesBeToFr wallet) req.jurisdiction now,
        if statePath.isSome then
          some (st.insertCredential wallet (bytesBeToFr wallet) req.jurisdiction now).persisted
        else disk) := by
  rw [serve_issue_eq, serveInsert, decoded]
  simp only [if_neg absent]
  cases statePath with
  | none => rfl
  | some path => rfl

/-- The leaf of a record can be written. -/
theorem Represents.zeroLeaf {st : IssuerState} {records : List CredentialRecord}
    (represents : Represents st records) {wallet : Bytes32} {record : CredentialRecord}
    (known : st.credentials.lookup wallet = some record) :
    st.membershipTree.zeroLeaf record.leafIndex =
      .ok ⟨st.membershipTree.leaves.set record.leafIndex 0⟩ := by
  have below : record.leafIndex < st.membershipTree.leaves.length := by
    rw [represents.leaves, List.length_map]
    exact (List.getElem?_eq_some_iff.mp (represents.find known).1).1
  rw [MerkleTree.zeroLeaf, MerkleTree.setLeaf_of_lt below]

/-- The sanctions tree of the service is empty, so there is nothing to remove. -/
theorem Represents.remove {st : IssuerState} {records : List CredentialRecord}
    (represents : Represents st records) (wallet : Fr) :
    st.sanctionsTree.remove wallet = (st.sanctionsTree, false) := by
  rw [represents.sanctions]
  rfl

/-- A revocation that is saved, or has nowhere to be saved. -/
theorem serve_revoke (statePath : Option String) {text : String} {wallet : Bytes32}
    (decoded : walletHexToBytes text = .ok wallet) {st : IssuerState}
    {records : List CredentialRecord} (represents : Represents st records)
    {record : CredentialRecord} (known : st.credentials.lookup wallet = some record)
    (live : record.revoked = false) (disk : Disk) :
    (Request.revoke text).serve statePath false st disk =
      (.ok (), st.markRevoked ⟨st.membershipTree.leaves.set record.leafIndex 0⟩ st.sanctionsTree
          wallet record,
        if statePath.isSome then
          some (st.markRevoked ⟨st.membershipTree.leaves.set record.leafIndex 0⟩ st.sanctionsTree
            wallet record).persisted
        else disk) := by
  rw [Request.serve, revokeCredential, decoded, walletToFr_of_bytes decoded]
  simp only [known, live, represents.zeroLeaf known, represents.remove, Bool.false_eq_true,
    if_false]
  cases statePath with
  | none => rfl
  | some path => rfl

private theorem served_insert (statePath : Option String) (saveFault : Bool) (now : UInt64)
    (hexStr jurisdiction : String) {st : IssuerState} (disk : Disk)
    {records : List CredentialRecord} (represents : Represents st records) :
    ∃ records', Served statePath st disk records
      (serveInsert statePath saveFault now hexStr jurisdiction st disk) records' := by
  rw [serveInsert]
  cases walletHexToBytes hexStr with
  | error e => exact ⟨_, .refused represents ⟨rfl, rfl⟩ rfl⟩
  | ok wallet =>
    by_cases known : wallet ∈ st.credentials
    · simp only [if_pos known]
      exact ⟨_, .refused represents ⟨rfl, rfl⟩ rfl⟩
    · simp only [if_neg known]
      exact ⟨_, .added wallet jurisdiction now (represents.fresh known)
        (represents.insert known jurisdiction now) ⟨rfl, rfl⟩ rfl (saveAt_saved _ _ _ _)⟩

/-- A live record marked as revoked. -/
theorem Represents.markRevoked {st : IssuerState} {records : List CredentialRecord}
    (represents : Represents st records) {record : CredentialRecord}
    (found : records[record.leafIndex]? = some record) :
    Represents
      (st.markRevoked ⟨st.membershipTree.leaves.set record.leafIndex 0⟩ st.sanctionsTree
        record.wallet record)
      (records.set record.leafIndex { record with revoked := true }) :=
  represents.rewrite found rfl rfl rfl rfl rfl rfl

theorem Represents.marked_eq {st : IssuerState} {records : List CredentialRecord}
    (represents : Represents st records) {text : String} {wallet : Bytes32}
    {record : CredentialRecord} {tree : MerkleTree} (marks : Marks st text wallet record tree) :
    st.marked tree wallet record =
      st.markRevoked ⟨st.membershipTree.leaves.set record.leafIndex 0⟩ st.sanctionsTree
        wallet record := by
  have zeroed := (represents.zeroLeaf marks.known).symm.trans marks.zeroed
  rw [IssuerState.marked, represents.remove, Except.ok.inj zeroed]

theorem Represents.marked {st : IssuerState} {records : List CredentialRecord}
    (represents : Represents st records) {text : String} {wallet : Bytes32}
    {record : CredentialRecord} {tree : MerkleTree} (marks : Marks st text wallet record tree) :
    Represents (st.marked tree wallet record)
      (records.set record.leafIndex { record with revoked := true }) := by
  obtain ⟨found, rfl⟩ := represents.find marks.known
  rw [represents.marked_eq marks]
  exact represents.markRevoked found

/-- Taking a revocation back restores what was represented. -/
private theorem Represents.unmarkRevoked {st : IssuerState} {records : List CredentialRecord}
    (represents : Represents st records) {record : CredentialRecord}
    (found : records[record.leafIndex]? = some record) (live : record.revoked = false)
    (dirty : Bool) :
    Represents
      ((st.markRevoked ⟨st.membershipTree.leaves.set record.leafIndex 0⟩ st.sanctionsTree
        record.wallet record).unmarkRevoked record.wallet record
          (bytesBeToFr record.wallet) false dirty) records := by
  have below : record.leafIndex < records.length := (List.getElem?_eq_some_iff.mp found).1
  have leaf : record.leaf = walletLeaf (bytesBeToFr record.wallet) := by
    rw [CredentialRecord.leaf, live]
    rfl
  have marked := represents.markRevoked found
  have found' : (records.set record.leafIndex { record with revoked := true })[
      ({ record with revoked := true } : CredentialRecord).leafIndex]? =
        some { record with revoked := true } := by
    simp [below]
  -- revoking and taking it back writes the record that was there
  have twice : (records.set record.leafIndex { record with revoked := true }).set
      record.leafIndex record = records := by
    rw [List.set_set]
    apply List.ext_getElem?
    intro i
    by_cases here : record.leafIndex = i
    · subst here
      rw [List.getElem?_set_self below, found]
    · rw [List.getElem?_set_ne here]
  have room : record.leafIndex < (st.markRevoked
      ⟨st.membershipTree.leaves.set record.leafIndex 0⟩ st.sanctionsTree record.wallet
        record).membershipTree.leaves.length := by
    rw [IssuerState.markRevoked, List.length_set, represents.leaves, List.length_map]
    exact below
  rw [← twice]
  apply marked.rewrite found'
  case leaves => rw [IssuerState.unmarkRevoked, MerkleTree.setLeaf_of_lt room, leaf]
  all_goals rfl

theorem serve_served (statePath : Option String) (saveFault : Bool) (request : Request)
    {st : IssuerState} (disk : Disk) {records : List CredentialRecord}
    (represents : Represents st records) :
    ∃ records', Served statePath st disk records (request.serve statePath saveFault st disk)
      records' := by
  cases request with
  | issue now req =>
    rw [serve_issue_eq]
    exact served_insert statePath saveFault now req.wallet req.jurisdiction disk represents
  | add now wallet =>
    rw [serve_add_eq]
    exact served_insert statePath saveFault now wallet "UNKNOWN" disk represents
  | revoke wallet =>
    have reply := revokeCredential_reply statePath saveFault wallet st disk
    rw [Request.serve]
    generalize revokeCredential statePath saveFault wallet st disk = answer at reply ⊢
    cases reply with
    | refused => exact ⟨_, .refused represents ⟨rfl, rfl⟩ rfl⟩
    | @saved bytes record tree disk' marks saved =>
      obtain ⟨found, rfl⟩ := represents.find marks.known
      have written := saveAt_saved statePath saveFault (st.marked tree record.wallet record) disk
      rw [saved] at written
      exact ⟨_, .revoked record found marks.live (represents.marked marks) ⟨rfl, rfl⟩ rfl written⟩
    | @unsaved bytes record tree e disk' marks unsaved =>
      obtain ⟨found, rfl⟩ := represents.find marks.known
      have kept := saveAt_saved statePath saveFault (st.marked tree record.wallet record) disk
      rw [unsaved] at kept
      -- the save has failed, and the handler takes the revocation back
      obtain rfl : disk' = disk := kept
      refine ⟨_, .refused ?_ ⟨rfl, rfl⟩ rfl⟩
      rw [represents.marked_eq marks, represents.remove]
      exact represents.unmarkRevoked found marks.live _

end ZkSettle.Service
