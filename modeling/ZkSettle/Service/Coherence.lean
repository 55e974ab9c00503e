import Mathlib.Data.Set.Function
import ZkSettle.Service.Attempts
import ZkSettle.Service.Queries

/-!
# Coherence of the issuer's state

In every reachable state each credential has its own leaf, which is zero once it is
revoked. The leaf stands for the residue of the wallet modulo the order of the field:
wallets are told apart by their bytes, leaves by their residues, so that a revocation
removes a member only as far as no other live credential has the same residue.
-/
namespace ZkSettle.Service

open Crypto Program

variable {Proof Address World : Type} {env : External Proof Address World} {config : Config}

/-! ## Credentials and leaves -/

abbrev Entry := Sigma fun _ : Bytes32 => CredentialRecord

/-- The credentials and the membership tree agree. -/
structure Coherent (st : IssuerState) : Prop where
  count : st.credentials.entries.length = st.membershipTree.leaves.length
  indices : Set.BijOn (fun entry : Entry => entry.2.leafIndex)
    {entry | entry ∈ st.credentials.entries} (Set.Iio st.membershipTree.leaves.length)
  leaves : ∀ wallet record, st.credentials.lookup wallet = some record →
    st.membershipTree.leaves[record.leafIndex]? =
      some (if record.revoked then 0 else walletLeaf (bytesBeToFr wallet))

section Represents

variable {st : IssuerState} {records : List CredentialRecord}

theorem Represents.leaves_length (represents : Represents st records) :
    st.membershipTree.leaves.length = records.length := by
  rw [represents.leaves, List.length_map]

theorem Represents.leaf_of_lookup (represents : Represents st records) {wallet : Bytes32}
    {record : CredentialRecord} (known : st.credentials.lookup wallet = some record) :
    st.membershipTree.leaves[record.leafIndex]? = some record.leaf ∧ record.wallet = wallet := by
  obtain ⟨found, owner⟩ := represents.find known
  rw [represents.leaves, List.getElem?_map, found]
  exact ⟨rfl, owner⟩

theorem Represents.mem_entries (represents : Represents st records) {entry : Entry} :
    entry ∈ st.credentials.entries ↔ entry.2 ∈ records ∧ entry.2.wallet = entry.1 := by
  rw [represents.entries_perm.mem_iff, List.mem_map]
  constructor
  · rintro ⟨record, member, rfl⟩
    exact ⟨member, rfl⟩
  · rintro ⟨member, owner⟩
    exact ⟨entry.2, member, Sigma.ext owner HEq.rfl⟩

theorem Represents.coherent (represents : Represents st records) : Coherent st where
  count := by rw [represents.count, represents.leaves_length]
  indices := by
    rw [represents.leaves_length]
    have position : ∀ entry ∈ st.credentials.entries,
        records[entry.2.leafIndex]? = some entry.2 := by
      intro entry member
      obtain ⟨i, found⟩ := List.mem_iff_getElem?.mp (represents.mem_entries.mp member).1
      rw [leafIndex_of_getElem represents.indices found, found]
    refine ⟨?inside, ?distinct, ?covered⟩
    case inside =>
      intro entry member
      exact (List.getElem?_eq_some_iff.mp (position entry member)).1
    case distinct =>
      -- records at one index are one record, and the record names its wallet
      intro entry member other member' same
      have equal : entry.2 = other.2 := by
        have found := position entry member
        simp only at same
        rw [same, position other member'] at found
        exact (Option.some.inj found).symm
      have owner := (represents.mem_entries.mp member).2
      have owner' := (represents.mem_entries.mp member').2
      exact Sigma.ext (by rw [← owner, ← owner', equal]) (heq_of_eq equal)
    case covered =>
      intro i below
      have found : records[i]? = some records[i] := List.getElem?_eq_getElem below
      refine ⟨⟨records[i].wallet, records[i]⟩, ?_, leafIndex_of_getElem represents.indices found⟩
      exact represents.mem_entries.mpr ⟨List.getElem_mem below, rfl⟩
  leaves := by
    intro wallet record known
    obtain ⟨leaf, rfl⟩ := represents.leaf_of_lookup known
    exact leaf

end Represents

variable (env config) in
theorem run_represents (issuerFault updaterFault : Bool) (clock : Clock) (chain : State World)
    (actions : List (Action World)) :
    ∃ records, Represents
      (run env config (System.start env config issuerFault updaterFault clock chain)
        actions).issuer records :=
  (run_recorded (recorded_start issuerFault updaterFault clock chain) actions).represented

/-- In every state that requests, failing saves and restarts lead to, the credentials and
the leaves agree. -/
theorem run_coherent (issuerFault updaterFault : Bool) (clock : Clock) (chain : State World)
    (actions : List (Action World)) :
    Coherent
      (run env config (System.start env config issuerFault updaterFault clock chain)
        actions).issuer := by
  obtain ⟨records, represents⟩ :=
    run_represents env config issuerFault updaterFault clock chain actions
  exact represents.coherent

/-! ## Revocation and residues -/

def IssuerState.Live (st : IssuerState) (wallet : Bytes32) : Prop :=
  ∃ record, st.credentials.lookup wallet = some record ∧ record.revoked = false

/-- The one-input hash tells the residues of the wallets in the state apart. -/
def HashInjectiveOn (st : IssuerState) : Prop :=
  Set.InjOn walletLeaf {x | ∃ wallet ∈ st.credentials, bytesBeToFr wallet = x}

/-- Another live credential has the residue of the wallet. -/
def SharesResidue (st : IssuerState) (wallet : Bytes32) : Prop :=
  ∃ other, st.Live other ∧ other ≠ wallet ∧ bytesBeToFr other = bytesBeToFr wallet

/-- Live credentials of different wallets have different leaves in the tree. -/
def LeavesDistinct (st : IssuerState) : Prop :=
  ∀ wallet record other record', st.credentials.lookup wallet = some record →
    st.credentials.lookup other = some record' → record.revoked = false →
    record'.revoked = false → wallet ≠ other →
    st.membershipTree.leaves[record.leafIndex]? ≠ st.membershipTree.leaves[record'.leafIndex]?

/-- A revocation that succeeds marks one live record. -/
theorem serve_revoke_ok {statePath : Option String} {saveFault : Bool} {text : String}
    {st st' : IssuerState} {disk disk' : Disk} {u : Unit} {records : List CredentialRecord}
    (represents : Represents st records)
    (served : (Request.revoke text).serve statePath saveFault st disk = (.ok u, st', disk')) :
    ∃ wallet record, walletHexToBytes text = .ok wallet ∧
      st.credentials.lookup wallet = some record ∧ record.revoked = false ∧
      Represents st' (records.set record.leafIndex { record with revoked := true }) := by
  have reply := revokeCredential_reply statePath saveFault text st disk
  rw [Request.serve] at served
  generalize revokeCredential statePath saveFault text st disk = answer at reply served
  cases reply with
  | refused => cases served
  | unsaved => cases served
  | saved marks =>
    cases served
    exact ⟨_, _, marks.decoded, marks.known, marks.live, represents.marked marks⟩

section Represents

variable {st : IssuerState} {records : List CredentialRecord} {record : CredentialRecord}

theorem Represents.live_iff (represents : Represents st records) {wallet : Bytes32} :
    st.Live wallet ↔ ∃ record ∈ records, record.wallet = wallet ∧ record.revoked = false := by
  simp only [IssuerState.Live, represents.lookup, and_assoc]

/-- The records after a revocation: the one that is revoked and those of other wallets. -/
theorem Represents.mem_revoked (represents : Represents st records)
    (found : records[record.leafIndex]? = some record) {other : CredentialRecord} :
    other ∈ records.set record.leafIndex { record with revoked := true } ↔
      other = { record with revoked := true } ∨
        other ∈ records ∧ other.wallet ≠ record.wallet := by
  constructor
  · intro member
    obtain ⟨j, present⟩ := List.mem_iff_getElem?.mp member
    rcases Slots.set_cases present with ⟨-, rfl⟩ | ⟨elsewhere, before⟩
    · exact Or.inl rfl
    · refine Or.inr ⟨List.mem_of_getElem? before, fun owner => elsewhere ?_⟩
      -- one wallet has one record
      have same := List.inj_on_of_nodup_map represents.wallets (List.mem_of_getElem? before)
        (List.mem_of_getElem? found) owner
      rw [← same]
      exact (leafIndex_of_getElem represents.indices before).symm
  · rintro (rfl | ⟨member, distinct⟩)
    · exact Slots.mem_set_self found _
    · rcases Slots.mem_set_or_eq found member { record with revoked := true } with rfl | stays
      · exact absurd rfl distinct
      · exact stays

theorem leaf_live (live : record.revoked = false) :
    record.leaf = walletLeaf (bytesBeToFr record.wallet) := by
  rw [CredentialRecord.leaf, live]
  rfl

theorem HashInjectiveOn.residue_eq (injective : HashInjectiveOn st)
    (represents : Represents st records) {other : CredentialRecord} (member : record ∈ records)
    (member' : other ∈ records)
    (same : walletLeaf (bytesBeToFr record.wallet) = walletLeaf (bytesBeToFr other.wallet)) :
    bytesBeToFr record.wallet = bytesBeToFr other.wallet := by
  have known : ∀ r ∈ records, r.wallet ∈ st.credentials := by
    intro r member
    rw [← AList.lookup_isSome, (represents.lookup r.wallet r).mpr ⟨member, rfl⟩]
    rfl
  exact injective ⟨_, known record member, rfl⟩ ⟨_, known other member', rfl⟩ same

/-- A revoked wallet leaves the tree if its leaf is not zero and nobody shares its residue. -/
theorem Represents.revoked_leaf_iff (represents : Represents st records)
    (injective : HashInjectiveOn st) (found : records[record.leafIndex]? = some record) :
    walletLeaf (bytesBeToFr record.wallet) ∉
        (records.set record.leafIndex { record with revoked := true }).map CredentialRecord.leaf ↔
      walletLeaf (bytesBeToFr record.wallet) ≠ 0 ∧ ¬ SharesResidue st record.wallet := by
  have present : record ∈ records := List.mem_iff_getElem?.mpr ⟨_, found⟩
  rw [List.mem_map, ← not_or, not_iff_not]
  constructor
  · rintro ⟨other, member, leaf⟩
    rcases (represents.mem_revoked found).mp member with rfl | ⟨member, distinct⟩
    · exact Or.inl leaf.symm
    · cases live : other.revoked with
      | true =>
        -- a revoked record's leaf is zero
        rw [CredentialRecord.leaf, live] at leaf
        exact Or.inl leaf.symm
      | false =>
        rw [leaf_live live] at leaf
        refine Or.inr
          ⟨other.wallet, represents.live_iff.mpr ⟨other, member, rfl, live⟩, distinct, ?_⟩
        exact injective.residue_eq represents member present leaf
  · rintro (zero | ⟨wallet, alive, distinct, same⟩)
    · exact ⟨_, (represents.mem_revoked found).mpr (Or.inl rfl), zero.symm⟩
    · obtain ⟨other, member, rfl, live⟩ := represents.live_iff.mp alive
      refine ⟨other, (represents.mem_revoked found).mpr (Or.inr ⟨member, distinct⟩), ?_⟩
      rw [leaf_live live, same]

/-- Live credentials have different leaves if their residues are different. -/
theorem Represents.leavesDistinct_iff (represents : Represents st records)
    (injective : HashInjectiveOn st) :
    LeavesDistinct st ↔ Set.InjOn bytesBeToFr {wallet | st.Live wallet} := by
  have leaf : ∀ wallet record, st.credentials.lookup wallet = some record →
      record.revoked = false → st.membershipTree.leaves[record.leafIndex]? =
        some (walletLeaf (bytesBeToFr wallet)) := by
    intro wallet record known live
    rw [represents.coherent.leaves wallet record known, live]
    rfl
  constructor
  · rintro distinct wallet ⟨record, known, live⟩ other ⟨record', known', live'⟩ same
    by_contra different
    apply distinct wallet record other record' known known' live live' different
    rw [leaf wallet record known live, leaf other record' known' live', same]
  · intro apart wallet record other record' known known' live live' different same
    obtain ⟨member, rfl⟩ := (represents.lookup wallet record).mp known
    obtain ⟨member', rfl⟩ := (represents.lookup other record').mp known'
    rw [leaf _ record known live, leaf _ record' known' live', Option.some.injEq] at same
    have residues := injective.residue_eq represents member member' same
    exact different (apart ⟨record, known, live⟩ ⟨record', known', live'⟩ residues)

end Represents

/-! ## Histories -/

section Histories

variable {s : System World} {records : List CredentialRecord} {wallet : Bytes32}

theorem Represents.mem_credentials {st : IssuerState} (represents : Represents st records) :
    wallet ∈ st.credentials ↔ ∃ record ∈ records, record.wallet = wallet := by
  rw [← AList.lookup_isSome, Option.isSome_iff_exists]
  simp only [represents.lookup]

/-- Wallets with different leaves have residues that the hash tells apart. -/
theorem hashInjectiveOn_of_leaves {st : IssuerState}
    (injective : Set.InjOn (walletLeaf ∘ bytesBeToFr) {wallet | wallet ∈ st.credentials}) :
    HashInjectiveOn st :=
  injective.image_of_comp

/-- Wallets of one residue cannot collide. -/
theorem hashInjectiveOn_of_residue {st : IssuerState} (represents : Represents st records) {x : Fr}
    (same : ∀ record ∈ records, bytesBeToFr record.wallet = x) : HashInjectiveOn st := by
  have residue : ∀ wallet ∈ st.credentials, bytesBeToFr wallet = x := by
    intro wallet known
    obtain ⟨record, member, rfl⟩ := represents.mem_credentials.mp known
    exact same record member
  rintro _ ⟨wallet, known, rfl⟩ _ ⟨other, known', rfl⟩ -
  rw [residue wallet known, residue other known']

theorem Represents.absent {st : IssuerState} (represents : Represents st records)
    (fresh : wallet ∉ records.map CredentialRecord.wallet) : wallet ∉ st.credentials := by
  rw [represents.mem_credentials, ← List.mem_map]
  exact fresh

variable (env config)

/-- A credential for a new wallet is issued and saved. -/
theorem run_issue (represents : Represents s.issuer records) (now : UInt64) {req : IssueRequest}
    (decoded : walletHexToBytes req.wallet = .ok wallet)
    (fresh : wallet ∉ records.map CredentialRecord.wallet) :
    ∃ s' : System World,
      (∀ rest, run env config s (.request false (.issue now req) :: rest) =
        run env config s' rest) ∧
      Represents s'.issuer (records ++ [newRecord records wallet req.jurisdiction now]) := by
  have absent := represents.absent fresh
  have served := serve_issue config.statePath now decoded absent s.disk
  exact ⟨_, (Stepped.request served).run, represents.insert absent req.jurisdiction now⟩

/-- A live credential is revoked and the revocation saved. -/
theorem run_revoke (represents : Represents s.issuer records) {text : String}
    (decoded : walletHexToBytes text = .ok wallet) {record : CredentialRecord}
    (member : record ∈ records) (owner : record.wallet = wallet) (live : record.revoked = false) :
    ∃ issuer disk, (Request.revoke text).serve config.statePath false s.issuer s.disk =
        (.ok (), issuer, disk) ∧
      (∀ rest, run env config s (.request false (.revoke text) :: rest) =
        run env config { s with issuer, disk } rest) ∧
      Represents issuer (records.set record.leafIndex { record with revoked := true }) := by
  have known := (represents.lookup wallet record).mpr ⟨member, owner⟩
  have served := serve_revoke config.statePath decoded represents known live s.disk
  subst owner
  exact ⟨_, _, served, (Stepped.request served).run,
    represents.markRevoked (represents.find known).1⟩

end Histories

/-- A revocation removes the member if and only if the leaf is not the empty one and no
other live credential has the residue of the wallet. -/
theorem revoked_removed_iff (issuerFault updaterFault : Bool) (clock : Clock)
    (chain : State World) (actions : List (Action World)) {s : System World}
    (ends : run env config (System.start env config issuerFault updaterFault clock chain) actions =
      s) (injective : HashInjectiveOn s.issuer) :
    (∀ (text : String) (wallet : Bytes32) (saveFault : Bool) (issuer : IssuerState) (disk : Disk),
      walletHexToBytes text = .ok wallet →
      (Request.revoke text).serve config.statePath saveFault s.issuer s.disk =
        (.ok (), issuer, disk) →
      (walletLeaf (bytesBeToFr wallet) ∉ issuer.membershipTree.leaves ↔
        walletLeaf (bytesBeToFr wallet) ≠ 0 ∧ ¬ SharesResidue s.issuer wallet)) ∧
      (LeavesDistinct s.issuer ↔ Set.InjOn bytesBeToFr {wallet | s.issuer.Live wallet}) := by
  obtain ⟨records, represents⟩ :=
    run_represents env config issuerFault updaterFault clock chain actions
  rw [ends] at represents
  refine ⟨?_, represents.leavesDistinct_iff injective⟩
  intro text wallet saveFault issuer disk decoded served
  obtain ⟨_, record, decoded', known, -, revoked⟩ := serve_revoke_ok represents served
  cases decoded.symm.trans decoded'
  obtain ⟨found, rfl⟩ := represents.find known
  rw [revoked.leaves]
  exact represents.revoked_leaf_iff injective found

namespace Sample

/-- The wallet 1 plus the order of the field, which has the residue of the wallet 1. -/
def oneAgain : Bytes32 := .ofNat (Circuit.BN254_ORDER + 1)

def requestAgain : IssueRequest where
  wallet := "30644e72e131a029b85045b68181585d2833e84879b9709143e1f593f0000002"
  jurisdiction := "US"

def textOne : String := "0000000000000000000000000000000000000000000000000000000000000001"

theorem decode_again : walletHexToBytes requestAgain.wallet = .ok oneAgain := by decide +kernel

theorem fr_again : bytesBeToFr oneAgain = 1 := by decide +kernel

theorem leaf_one_ne_zero : walletLeaf 1 ≠ 0 := by decide +kernel

theorem leaves_apart : Set.InjOn (walletLeaf ∘ bytesBeToFr) {one, two} := by
  have differ : (walletLeaf ∘ bytesBeToFr) one ≠ (walletLeaf ∘ bytesBeToFr) two := by
    decide +kernel
  exact Set.injOn_pair.mpr fun same => absurd same differ

/-- A service without a file. -/
def started : System Reference.Ledger :=
  .start reference (service none) false false (clock 0) (State.deployed [])

theorem represents_started : Represents started.issuer [] := { represents_new with }

/-- The first credential. -/
theorem run_one : ∃ s : System Reference.Ledger,
    (∀ rest, run reference (service none) started (.request false issue :: rest) =
      run reference (service none) s rest) ∧
      Represents s.issuer [newRecord [] one "US" 0] :=
  run_issue reference (service none) represents_started 0 decode_one List.not_mem_nil

end Sample

/-- Of two wallets the first is revoked, and the leaf of the second stays. -/
theorem revoked_removed_first :
    ∃ (s : System Reference.Ledger) (issuer : IssuerState) (disk : Disk),
      run reference (Sample.service none) Sample.started
          [.request false Sample.issue, .request false (.issue 0 Sample.requestTwo)] = s ∧
        (Request.revoke Sample.textOne).serve none false s.issuer s.disk =
          (.ok (), issuer, disk) ∧
        walletLeaf (bytesBeToFr Sample.one) ∉ issuer.membershipTree.leaves ∧
          LeavesDistinct s.issuer := by
  obtain ⟨s, first, represents⟩ := Sample.run_one
  obtain ⟨s', second, represents⟩ := run_issue reference (Sample.service none) represents 0
    Sample.decode_two (by decide)
  obtain ⟨issuer, disk, served, -, -⟩ := run_revoke reference (Sample.service none) represents
    Sample.decode_one List.mem_cons_self rfl rfl
  have ends := (first _).trans (second [])
  have known : {wallet | wallet ∈ s'.issuer.credentials} ⊆ {Sample.one, Sample.two} := by
    intro wallet present
    obtain ⟨record, member, rfl⟩ := represents.mem_credentials.mp present
    rcases List.mem_pair.mp member with rfl | rfl
    · exact Or.inl rfl
    · exact Or.inr rfl
  have leaves := Sample.leaves_apart.mono known
  have live : {wallet | s'.issuer.Live wallet} ⊆ {wallet | wallet ∈ s'.issuer.credentials} := by
    rintro wallet ⟨record, found, -⟩
    exact AList.lookup_isSome.mp (by rw [found]; rfl)
  have removed := revoked_removed_iff false false (Sample.clock 0) (State.deployed []) _ ends
    (hashInjectiveOn_of_leaves leaves)
  refine ⟨s', issuer, disk, ends, served, ?_, removed.2.mpr (leaves.of_comp.mono live)⟩
  rw [removed.1 Sample.textOne Sample.one false issuer disk Sample.decode_one served]
  refine ⟨?_, ?_⟩
  · rw [Sample.fr_one]
    exact Sample.leaf_one_ne_zero
  · -- the other wallet has another residue
    rintro ⟨other, lives, distinct, same⟩
    have present : Sample.one ∈ s'.issuer.credentials :=
      represents.mem_credentials.mpr ⟨_, List.mem_cons_self, rfl⟩
    exact distinct (leaves.of_comp (live lives) present same)

/-- Two wallets with one residue have equal leaves, and one stays after the other is revoked. -/
theorem not_revoked_removed : ¬ ∀ (Proof Address World : Type)
    (env : External Proof Address World) (config : Config) (issuerFault updaterFault : Bool)
    (clock : Clock) (chain : State World) (actions : List (Action World)) (s : System World)
    (text : String) (wallet : Bytes32) (saveFault : Bool) (issuer : IssuerState) (disk : Disk),
      run env config (System.start env config issuerFault updaterFault clock chain) actions = s →
      HashInjectiveOn s.issuer → walletHexToBytes text = .ok wallet →
      (Request.revoke text).serve config.statePath saveFault s.issuer s.disk =
        (.ok (), issuer, disk) →
      walletLeaf (bytesBeToFr wallet) ∉ issuer.membershipTree.leaves := by
  intro always
  obtain ⟨s, first, represents⟩ := Sample.run_one
  obtain ⟨s', second, represents'⟩ := run_issue reference (Sample.service none) represents 0
    Sample.decode_again (by decide)
  obtain ⟨issuer, disk, served, -, revoked⟩ := run_revoke reference (Sample.service none)
    represents' Sample.decode_one List.mem_cons_self rfl rfl
  have residue : ∀ record ∈ [newRecord [] Sample.one "US" 0] ++
      [newRecord [newRecord [] Sample.one "US" 0] Sample.oneAgain "US" 0],
      bytesBeToFr record.wallet = 1 := by
    intro record member
    rcases List.mem_append.mp member with member | member
    · rw [List.mem_singleton.mp member]
      exact Sample.fr_one
    · rw [List.mem_singleton.mp member]
      exact Sample.fr_again
  have removed := always _ _ _ reference (Sample.service none) false false (Sample.clock 0)
    (State.deployed []) [.request false Sample.issue, .request false (.issue 0 Sample.requestAgain)]
    s' Sample.textOne Sample.one false issuer disk ((first _).trans (second []))
    (hashInjectiveOn_of_residue represents' residue) Sample.decode_one served
  -- the leaf of the second credential is the same
  apply removed
  have same : bytesBeToFr Sample.one = bytesBeToFr Sample.oneAgain := by
    rw [Sample.fr_one, Sample.fr_again]
  rw [revoked.leaves, same]
  exact List.mem_cons_of_mem _ List.mem_cons_self

end ZkSettle.Service
