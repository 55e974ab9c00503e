import ZkSettle.Gateway.Tenants

/-!
# The custody of keys

Whose a key is, in every run of the gateway. A key that exists was made by a request of its
tenant or of the administrator, a key that was handed out is good until one of them deletes it,
and the session of a tenant leads to no other's keys.
-/
namespace ZkSettle.Gateway.Tenancy

open Checks Program SignIn

variable {standard : Base64.Engine} {ed : Ed25519} {jwt : Jwt} {settings : Settings}

/-! ## Keys -/

/-- The request has handed the key out, and written its row. -/
structure MadeBy (call : KeyCall) (authority : Authority) (rawKey : String) (tier : Tier)
    (key : KeyRow) : Prop where
  admitted : call.authority = some authority
  answered : call.stage = .ended (.ok (.created rawKey tier key.owner))
  writes : Writes call.handler authority rawKey tier key

/-- A request has deleted the key, and its authority covers it. -/
def Taken (s : System) (key : KeyRow) : Prop :=
  ∃ call ∈ s.calls, ∃ authority, call.authority = some authority ∧
    call.stage = .ended (.ok (.deleted key.keyHash)) ∧ InScope authority.scope key

/-- A session of the tenant was handed a key with the hash. -/
def Owned (s : System) (tenantId keyHash : String) : Prop :=
  ∃ call ∈ s.calls, ∃ session rawKey tier key, MadeBy call (.tenant session) rawKey tier key ∧
    session.tenantId = tenantId ∧ key.keyHash = keyHash

/-- What a session is shown, and what it deletes, are keys of its tenant. -/
def Confined (s : System) (call : KeyCall) : Prop :=
  ∀ session, call.authority = some (.tenant session) →
    (∀ keys, call.stage = .ended (.ok (.listed keys)) →
      ∀ record ∈ keys, Owned s session.tenantId record.keyHash) ∧
    ∀ keyHash, call.stage = .ended (.ok (.deleted keyHash)) → Owned s session.tenantId keyHash

structure Custody (jwt : Jwt) (settings : Settings) (s : System) : Prop where
  sound : ∀ call ∈ s.calls, Sound jwt settings call
  hashes : (s.db.apiKeys.map KeyRow.keyHash).Nodup
  references : ∀ key ∈ s.db.apiKeys, ∀ id, key.tenantId = some id →
    ∃ tenant ∈ s.db.tenants, tenant.id = id
  made : ∀ key ∈ s.db.apiKeys, ∃ call ∈ s.calls, ∃ authority rawKey tier,
    MadeBy call authority rawKey tier key
  kept : ∀ call ∈ s.calls, ∀ rawKey tier owner,
    call.stage = .ended (.ok (.created rawKey tier owner)) →
      ∃ authority key, MadeBy call authority rawKey tier key ∧ (key ∈ s.db.apiKeys ∨ Taken s key)
  confined : ∀ call ∈ s.calls, Confined s call

theorem custody_start (clock : Nat) : Custody jwt settings (.start clock) where
  sound := by rintro call ⟨⟩
  hashes := List.nodup_nil
  references := by rintro key ⟨⟩
  made := by rintro key ⟨⟩
  kept := by rintro call ⟨⟩
  confined := by rintro call ⟨⟩

/-- Requests that are over stay among the requests. -/
def OverKept (s next : System) : Prop :=
  ∀ call ∈ s.calls, ∀ response, call.stage = .ended (.ok response) → call ∈ next.calls

theorem OverKept.taken {s next : System} (kept : OverKept s next) {key : KeyRow}
    (taken : Taken s key) : Taken next key := by
  obtain ⟨call, member, authority, admitted, deleted, inScope⟩ := taken
  exact ⟨call, kept call member _ deleted, authority, admitted, deleted, inScope⟩

theorem OverKept.owned {s next : System} (kept : OverKept s next) {tenantId keyHash : String}
    (owned : Owned s tenantId keyHash) : Owned next tenantId keyHash := by
  obtain ⟨call, member, session, rawKey, tier, key, made, rest⟩ := owned
  exact ⟨call, kept call member _ made.answered, session, rawKey, tier, key, made, rest⟩

theorem OverKept.confined {s next : System} (kept : OverKept s next) {call : KeyCall}
    (confined : Confined s call) : Confined next call := by
  intro session admitted
  obtain ⟨shown, removed⟩ := confined session admitted
  exact ⟨fun keys listed record member => kept.owned (shown keys listed record member),
    fun keyHash deleted => kept.owned (removed keyHash deleted)⟩

/-- A row of a tenant was made by one of its sessions. -/
theorem Custody.owned {s : System} (custody : Custody jwt settings s) {key : KeyRow}
    (member : key ∈ s.db.apiKeys) {tenantId : String} (own : key.tenantId = some tenantId) :
    Owned s tenantId key.keyHash := by
  obtain ⟨call, there, authority, rawKey, tier, made⟩ := custody.made key member
  have scope := made.writes.tenant
  rw [own] at scope
  cases authority with
  | tenant session => exact ⟨call, there, session, rawKey, tier, key, made,
      (Option.some.inj scope).symm, rfl⟩
  | administrator => cases scope

/-- What does not touch the keys and the requests keeps the custody. -/
theorem Custody.of_same {s next : System} (custody : Custody jwt settings s)
    (keys : next.db.apiKeys = s.db.apiKeys) (calls : next.calls = s.calls)
    (tenants : ∀ row ∈ s.db.tenants, row ∈ next.db.tenants) : Custody jwt settings next := by
  have kept : OverKept s next := fun call member response ended => by rwa [calls]
  refine ⟨?_, ?_, ?_, ?_, ?_, ?_⟩
  · rw [calls]
    exact custody.sound
  · rw [keys]
    exact custody.hashes
  · rw [keys]
    intro key member id names
    obtain ⟨tenant, there, same⟩ := custody.references key member id names
    exact ⟨tenant, tenants tenant there, same⟩
  · rw [keys, calls]
    exact custody.made
  · rw [keys, calls]
    intro call member rawKey tier owner answered
    obtain ⟨authority, key, made, where'⟩ := custody.kept call member rawKey tier owner answered
    exact ⟨authority, key, made, where'.imp_right kept.taken⟩
  · rw [calls]
    exact fun call member => kept.confined (custody.confined call member)

theorem Custody.request {s : System} (custody : Custody jwt settings s) (handler : Handler)
    (headers : HeaderMap) (session : Option String) :
    Custody jwt settings { s with calls := s.calls ++ [.begin handler headers session] } := by
  have kept : OverKept s { s with calls := s.calls ++ [.begin handler headers session] } :=
    fun call member response ended => List.mem_append_left _ member
  refine ⟨?_, custody.hashes, custody.references, ?_, ?_, ?_⟩
  · intro call member
    rcases List.mem_append.mp member with earlier | new
    · exact custody.sound call earlier
    · rw [List.mem_singleton.mp new]
      exact sound_begin handler headers session
  · intro key member
    obtain ⟨call, there, rest⟩ := custody.made key member
    exact ⟨call, List.mem_append_left _ there, rest⟩
  · intro call member rawKey tier owner answered
    rcases List.mem_append.mp member with earlier | new
    · obtain ⟨authority, key, made, where'⟩ := custody.kept call earlier rawKey tier owner answered
      exact ⟨authority, key, made, where'.imp_right kept.taken⟩
    · rw [List.mem_singleton.mp new] at answered
      cases answered
  · intro call member
    rcases List.mem_append.mp member with earlier | new
    · exact kept.confined (custody.confined call earlier)
    · rw [List.mem_singleton.mp new]
      rintro session ⟨⟩

theorem modelToRecord_keyHash {key : KeyRow} {record : ApiKeyRecord}
    (read : modelToRecord key = .ok record) : record.keyHash = key.keyHash := by
  simp only [modelToRecord, bind_eq_ok, pure_eq_ok] at read
  obtain ⟨tier, -, rfl⟩ := read
  rfl

/-- The keys that a tenant is shown are rows of the tenant. -/
theorem mem_listByTenant {db : Database} {tenantId : String} {records : List ApiKeyRecord}
    (listed : listByTenant db tenantId = .ok records) {record : ApiKeyRecord}
    (member : record ∈ latestFirst records) :
    ∃ key ∈ db.apiKeys, key.tenantId = some tenantId ∧ record.keyHash = key.keyHash := by
  have shown : record ∈ records := (List.perm_insertionSort _ records).mem_iff.mp member
  obtain ⟨key, filtered, read⟩ := mem_of_mapM_eq_ok listed shown
  obtain ⟨there, own⟩ := List.mem_filter.mp filtered
  exact ⟨key, there, by simpa using own, modelToRecord_keyHash read⟩

/-- The rows after a statement of a request. -/
theorem Effect.rows {db db' : Database} {call call' : KeyCall} (effect : Effect db call db' call') :
    (∀ key ∈ db'.apiKeys, key ∈ db.apiKeys ∨
      ∃ rawKey tier, call.stage = .inserting rawKey tier key ∧
        call' = { call with stage := .ended (.ok (.created rawKey tier key.owner)) }) ∧
    ∀ key ∈ db.apiKeys, key ∈ db'.apiKeys ∨ ∃ authority, call'.authority = some authority ∧
      call'.stage = .ended (.ok (.deleted key.keyHash)) ∧ InScope authority.scope key := by
  cases effect with
  | none => exact ⟨fun key member => Or.inl member, fun key member => Or.inl member⟩
  | listed => exact ⟨fun key member => Or.inl member, fun key member => Or.inl member⟩
  | removed authority keyHash named there same inScope =>
    refine ⟨fun key member => Or.inl (mem_removeKey.mp member).1, fun key member => ?_⟩
    by_cases hit : key.keyHash = keyHash ∧ InScope authority.scope key
    · obtain ⟨rfl, covered⟩ := hit
      exact Or.inr ⟨authority, rfl, rfl, covered⟩
    · exact Or.inl (mem_removeKey.mpr ⟨member, hit⟩)
  | created rawKey tier row inserting acceptable =>
    refine ⟨fun key member => ?_, fun key member => Or.inl (List.mem_append_left _ member)⟩
    rcases List.mem_append.mp member with earlier | new
    · exact Or.inl earlier
    · obtain rfl := List.mem_singleton.mp new
      exact Or.inr ⟨rawKey, tier, inserting, rfl⟩

theorem Effect.hashes {db db' : Database} {call call' : KeyCall}
    (effect : Effect db call db' call') (unique : (db.apiKeys.map KeyRow.keyHash).Nodup) :
    (db'.apiKeys.map KeyRow.keyHash).Nodup := by
  cases effect with
  | none => exact unique
  | listed => exact unique
  | removed => exact unique.sublist (List.filter_sublist.map _)
  | created rawKey tier row inserting acceptable =>
    rw [List.map_append]
    exact List.nodup_append_comm.mp (List.nodup_cons.mpr ⟨acceptable.hash, unique⟩)

theorem Custody.resume {s : System} (custody : Custody jwt settings s) {id : Nat}
    {answers : Answers} {call call' : KeyCall} {db : Database} (found : s.calls[id]? = some call)
    (advanced : call.advance jwt settings s.db answers = .ok (db, call')) :
    Custody jwt settings { s with db, calls := s.calls.set id call' } := by
  have sound := (custody.sound call (List.mem_of_getElem? found))
  have effect := KeyCall.advance_effect advanced
  have new : call' ∈ s.calls.set id call' := Slots.mem_set_self found call'
  -- the request that goes on is not over
  have kept : OverKept s { s with db, calls := s.calls.set id call' } := by
    intro other member response ended
    rcases Slots.mem_set_or_eq found member call' with rfl | stays
    · rw [KeyCall.advance, ended] at advanced
      cases advanced
    · exact stays
  refine ⟨?_, effect.hashes custody.hashes, ?_, ?_, ?_, ?_⟩
  · intro other member
    rcases List.mem_or_eq_of_mem_set member with earlier | rfl
    · exact custody.sound other earlier
    · exact sound.advance advanced
  · intro key member tenantId names
    rw [effect.tenants]
    cases effect with
    | none => exact custody.references key member tenantId names
    | listed => exact custody.references key member tenantId names
    | removed => exact custody.references key (mem_removeKey.mp member).1 tenantId names
    | created rawKey tier row inserting acceptable =>
      rcases List.mem_append.mp member with earlier | added
      · exact custody.references key earlier tenantId names
      · rw [List.mem_singleton.mp added] at names
        exact acceptable.tenant tenantId names
  · intro key member
    rcases effect.rows.1 key member with earlier | ⟨rawKey, tier, inserting, rfl⟩
    · obtain ⟨other, there, authority, rawKey, tier, made⟩ := custody.made key earlier
      exact ⟨other, kept other there _ made.answered, authority, rawKey, tier, made⟩
    · have stage := sound.stage
      rw [StageSound, inserting] at stage
      obtain ⟨authority, admitted, writes⟩ := stage
      exact ⟨_, new, authority, rawKey, tier, admitted, rfl, writes⟩
  · intro other member rawKey tier owner answered
    rcases List.mem_or_eq_of_mem_set member with earlier | rfl
    · obtain ⟨authority, key, made, where'⟩ := custody.kept other earlier rawKey tier owner answered
      refine ⟨authority, key, made, ?_⟩
      rcases where' with there | taken
      · refine (effect.rows.2 key there).imp_right fun deleted => ?_
        obtain ⟨remover, rest⟩ := deleted
        exact ⟨call', new, remover, rest⟩
      · exact Or.inr (kept.taken taken)
    · cases effect with
      | none _ same quiet => exact absurd answered (quiet _)
      | listed => cases answered
      | removed => cases answered
      | created rawKey' tier' row inserting acceptable =>
        cases answered
        have stage := sound.stage
        rw [StageSound, inserting] at stage
        obtain ⟨authority, admitted, writes⟩ := stage
        exact ⟨authority, row, ⟨admitted, rfl, writes⟩,
          Or.inl (List.mem_append_right _ List.mem_cons_self)⟩
  · intro other member
    rcases List.mem_or_eq_of_mem_set member with earlier | rfl
    · exact kept.confined (custody.confined other earlier)
    · intro session admitted
      cases effect with
      | none _ same quiet =>
        exact ⟨fun keys listed => absurd listed (quiet _),
          fun keyHash deleted => absurd deleted (quiet _)⟩
      | listed authority records listing =>
        cases admitted
        refine ⟨?_, by rintro keyHash ⟨⟩⟩
        rintro keys ⟨⟩ record shown
        obtain ⟨key, there, own, same⟩ := mem_listByTenant listing shown
        rw [same]
        exact kept.owned (custody.owned there own)
      | removed authority keyHash key there named inScope =>
        cases admitted
        refine ⟨by rintro keys ⟨⟩, ?_⟩
        rintro _ ⟨⟩
        subst named
        exact kept.owned (custody.owned there (inScope _ rfl))
      | created => exact ⟨by rintro keys ⟨⟩, by rintro keyHash ⟨⟩⟩

theorem step_custody {s next : System} {action : Action} (custody : Custody jwt settings s)
    (accepted : step standard ed jwt settings s action = .ok next) :
    Custody jwt settings next := by
  cases step_stepped accepted with
  | signIn => exact custody.of_same rfl rfl fun row member => member
  | upsert id answers login db before after found there upserted =>
    exact custody.of_same upserted.grows.2 rfl upserted.grows.1
  | finish => exact custody.of_same rfl rfl fun row member => member
  | request handler headers session => exact custody.request handler headers session
  | resume id answers call call' db found advanced => exact custody.resume found advanced

theorem run_custody (clock : Nat) (actions : List Action) :
    Custody jwt settings (run standard ed jwt settings (.start clock) actions) :=
  Transactional.run_invariant
    (fun _ _ _ custody accepted => step_custody custody accepted) _ _ (custody_start clock)

/-! ## Sessions of requests -/

/-- Right after the earlier actions the request was let in as the tenant: the token was its
session, and the decoder took it then. -/
structure LetIn (standard : Base64.Engine) (ed : Ed25519) (jwt : Jwt) (settings : Settings)
    (clock : Nat) (earlier past : List Action) (id : Nat) (token : String)
    (tenant : AuthenticatedTenant) : Prop where
  entered : ∃ call, (run standard ed jwt settings (.start clock) earlier).calls[id]? = some call ∧
    call.stage = .entered ∧ call.session = some token
  taken : ∃ answers, earlier ++ [.resume id answers] <+: past ∧ ∃ secret claims,
    settings.jwtSecret = some secret ∧ jwt.decode token secret answers.now = some claims ∧
      tenant = ⟨claims.sub, claims.wallet⟩

theorem LetIn.later {clock : Nat} {earlier past : List Action} {id : Nat} {token : String}
    {tenant : AuthenticatedTenant}
    (letIn : LetIn standard ed jwt settings clock earlier past id token tenant) (action : Action) :
    LetIn standard ed jwt settings clock earlier (past ++ [action]) id token tenant := by
  obtain ⟨entered, answers, before, rest⟩ := letIn
  exact ⟨entered, answers, before.trans (List.prefix_append _ _), rest⟩

theorem advance_session {db db' : Database} {answers : Answers} {call call' : KeyCall}
    (advanced : call.advance jwt settings db answers = .ok (db', call')) :
    call'.session = call.session := by
  cases KeyCall.advance_effect advanced with
  | none call' same quiet => exact same.2
  | _ => rfl

/-- Who a request is taken for is settled in its first step. -/
theorem advance_authority {db db' : Database} {answers : Answers} {call call' : KeyCall}
    (advanced : call.advance jwt settings db answers = .ok (db', call')) :
    call'.authority = call.authority ∨ call.stage = .entered ∧ ∃ authority,
      authorize jwt settings call answers.now = .ok authority ∧
        call'.authority = some authority := by
  obtain ⟨handler, headers, session, stage, authority⟩ := call
  cases stage with
  | entered =>
    simp only [KeyCall.advance] at advanced
    split at advanced
    · cases advanced
      exact Or.inl rfl
    next authority' admitted =>
      cases advanced
      exact Or.inr ⟨rfl, authority', admitted, rfl⟩
  | finding tenant rawKey now =>
    simp only [KeyCall.advance] at advanced
    split at advanced
    all_goals
      cases advanced
      exact Or.inl rfl
  | inserting rawKey tier row =>
    simp only [KeyCall.advance] at advanced
    split at advanced
    all_goals
      cases advanced
      exact Or.inl rfl
  | ended result => cases advanced

/-- A request that is let in as a tenant has shown a token of the tenant. -/
theorem authorize_tenant {call : KeyCall} {now : Nat} {tenant : AuthenticatedTenant}
    (admitted : authorize jwt settings call now = .ok (.tenant tenant)) :
    ∃ token, call.session = some token ∧ ∃ secret claims, settings.jwtSecret = some secret ∧
      jwt.decode token secret now = some claims ∧ tenant = ⟨claims.sub, claims.wallet⟩ := by
  rw [authorize] at admitted
  split at admitted
  next tenant' authenticated =>
    cases admitted
    simp only [authenticateTenant, bind_eq_ok, okOr_eq_ok, pure_eq_ok] at authenticated
    obtain ⟨secret, configured, token, sent, claims, decoded, rfl⟩ := authenticated
    exact ⟨token, sent, secret, claims, configured, decoded, rfl⟩
  next =>
    obtain ⟨⟨⟩, -, other⟩ := map_eq_ok.mp admitted
    cases other

/-- Every request that is taken for a tenant was let in as the tenant. -/
def AllLetIn (standard : Base64.Engine) (ed : Ed25519) (jwt : Jwt) (settings : Settings)
    (clock : Nat) (past : List Action) (s : System) : Prop :=
  ∀ id call, s.calls[id]? = some call → ∀ tenant, call.authority = some (.tenant tenant) →
    ∃ earlier token, call.session = some token ∧
      LetIn standard ed jwt settings clock earlier past id token tenant

theorem AllLetIn.later {clock : Nat} {past : List Action} {s next : System}
    (all : AllLetIn standard ed jwt settings clock past s) (calls : next.calls = s.calls)
    (action : Action) : AllLetIn standard ed jwt settings clock (past ++ [action]) next := by
  intro id call found tenant admitted
  rw [calls] at found
  obtain ⟨earlier, token, sent, letIn⟩ := all id call found tenant admitted
  exact ⟨earlier, token, sent, letIn.later action⟩

theorem step_letIn {clock : Nat} {past : List Action} {next : System} {action : Action}
    (all : AllLetIn standard ed jwt settings clock past
      (run standard ed jwt settings (.start clock) past))
    (accepted : step standard ed jwt settings (run standard ed jwt settings (.start clock) past)
      action = .ok next) :
    AllLetIn standard ed jwt settings clock (past ++ [action]) next := by
  cases step_stepped accepted with
  | signIn => exact all.later rfl _
  | upsert => exact all.later rfl _
  | finish => exact all.later rfl _
  | request handler headers session =>
    intro id call there tenant admitted
    rcases Slots.snoc_cases there with rfl | before
    · cases admitted
    · obtain ⟨earlier, token, sent, letIn⟩ := all id call before tenant admitted
      exact ⟨earlier, token, sent, letIn.later _⟩
  | resume id answers call call' db found advanced =>
    intro other moved there tenant admitted
    rcases Slots.set_cases there with ⟨rfl, rfl⟩ | ⟨-, before⟩
    · rw [advance_session advanced]
      rcases advance_authority advanced with same | ⟨entered, authority, authorized, now⟩
      · rw [same] at admitted
        obtain ⟨earlier, token, sent, letIn⟩ := all _ call found tenant admitted
        exact ⟨earlier, token, sent, letIn.later _⟩
      · -- the session is looked at in this step
        obtain rfl : authority = .tenant tenant := Option.some.inj (now.symm.trans admitted)
        obtain ⟨token, sent, shown⟩ := authorize_tenant authorized
        exact ⟨past, token, sent, ⟨call, found, entered, sent⟩, answers, List.prefix_refl _, shown⟩
    · obtain ⟨earlier, token, sent, letIn⟩ := all other moved before tenant admitted
      exact ⟨earlier, token, sent, letIn.later _⟩

theorem run_letIn (clock : Nat) (actions : List Action) :
    AllLetIn standard ed jwt settings clock actions
      (run standard ed jwt settings (.start clock) actions) := by
  refine Transactional.run_invariant_of_past
    (AllLetIn standard ed jwt settings clock) (.start clock) ?_ ?_ ?_ actions
  · rintro id call ⟨⟩
  · exact fun past action failure all rejected => all.later rfl action
  · exact fun past action next all accepted => step_letIn all accepted

/-! ## Who is behind a key -/

/-- A login was handed the token, as the tenant. -/
def Handed (s : System) (token : String) (tenant : AuthenticatedTenant) : Prop :=
  ∃ (id : Nat) (login : Login) (cookie : Cookie) (response : LoginResponse),
    s.signIn.logins[id]? = some login ∧ Login.succeeded login cookie response ∧
      cookie.value = token ∧ tenant = ⟨response.tenantId, response.wallet⟩

/-- No login has been handed the token. -/
def Forged (s : System) (token : String) : Prop := ∀ tenant, ¬ Handed s token tenant

/-- The token was handed to a login, with the identifier and the wallet of a tenant, when the
account of the login, which is that wallet, had signed its message. -/
structure SignedIn (standard : Base64.Engine) (ed : Ed25519) (settings : Settings) (s : System)
    (token : String) (tenant : AuthenticatedTenant) (id : Nat) (login : Login) : Prop where
  found : s.signIn.logins[id]? = some login
  account : login.body.account = tenant.wallet
  tenant : ∃ row ∈ s.db.tenants, row.id = tenant.tenantId ∧ row.wallet = tenant.wallet
  succeeded : ∃ message consumedAt now cookie response,
    login.stage = .succeeded message consumedAt now cookie response ∧ cookie.value = token ∧
      UsedOnce s.signIn id message.parsed.nonce consumedAt ∧
        SignIn.Reads standard login.body message ∧
          Authentic ed settings.toConfig login.body message now

theorem Seated.signedIn {s : System} (seated : Seated standard ed jwt settings s) {token : String}
    {tenant : AuthenticatedTenant} (handed : Handed s token tenant) :
    ∃ id login, SignedIn standard ed settings s token tenant id login := by
  obtain ⟨id, login, cookie, response, found, succeeded, same, rfl⟩ := handed
  obtain ⟨row, answered⟩ := seated.answered id login cookie response found succeeded
  obtain ⟨message, consumedAt, now, kept⟩ := succeeded
  exact ⟨id, login, found, answered.own.symm.trans answered.wallet.symm,
    ⟨row, answered.member, answered.id.symm, answered.wallet.symm⟩,
    message, consumedAt, now, cookie, response, kept, same, seated.authentic found kept⟩

/-- A token that was taken had been handed to a login that was signed for, or is forged. -/
theorem LetIn.behind {clock : Nat} {earlier past : List Action} {id : Nat} {token : String}
    {tenant : AuthenticatedTenant}
    (letIn : LetIn standard ed jwt settings clock earlier past id token tenant)
    (seated : Seated standard ed jwt settings
      (run standard ed jwt settings (.start clock) earlier)) :
    (∃ id login, SignedIn standard ed settings
        (run standard ed jwt settings (.start clock) earlier) token tenant id login) ∨
      Forged (run standard ed jwt settings (.start clock) earlier) token := by
  obtain ⟨-, answers, -, secret, claims, configured, decoded, rfl⟩ := letIn
  by_cases handed : ∃ tenant,
      Handed (run standard ed jwt settings (.start clock) earlier) token tenant
  · obtain ⟨tenant, id, login, cookie, response, found, succeeded, rfl, rfl⟩ := handed
    obtain ⟨row, answered⟩ := seated.answered id login cookie response found succeeded
    obtain ⟨secret', exp, iat, configured', encoded⟩ := answered.token
    obtain rfl : secret = secret' := Option.some.inj (configured.symm.trans configured')
    -- the decoder reads what the encoder has written for the row
    obtain rfl := jwt.decode_encode _ _ _ _ _ encoded decoded
    exact Or.inl (seated.signedIn ⟨id, login, cookie, response, found, succeeded, rfl, by
      rw [answered.id, answered.wallet]⟩)
  · exact Or.inr fun tenant held => handed ⟨tenant, held⟩

/-- What stands behind a key of an owner that a request was handed: the administrator, or a
session of the owner's wallet. When the request was let in, a login had been handed the token of
the session, for which the wallet had signed, or no one had. -/
def Attested (standard : Base64.Engine) (ed : Ed25519) (jwt : Jwt) (settings : Settings)
    (clock : Nat) (actions : List Action) (id : Nat) (call : KeyCall) (owner : String) :
    Authority → Prop
  | .tenant session => session.wallet = owner ∧ ∃ earlier token, call.session = some token ∧
      LetIn standard ed jwt settings clock earlier actions id token session ∧
        ((∃ login signed, SignedIn standard ed settings
            (run standard ed jwt settings (.start clock) earlier) token session login signed) ∨
          Forged (run standard ed jwt settings (.start clock) earlier) token)
  | .administrator => Administers settings call.headers

theorem authenticateKey_ok {db : Database} {headers : HeaderMap} {record : ApiKeyRecord}
    (authenticated : authenticateKey db headers = .ok record) :
    ∃ token key, bearer headers = some token ∧ key ∈ db.apiKeys ∧ key.keyHash = hashKey token ∧
      modelToRecord key = .ok record := by
  simp only [authenticateKey, bind_eq_ok, okOr_eq_ok, require_eq_ok] at authenticated
  obtain ⟨token, shown, -, -, found, looked, rfl⟩ := authenticated
  rw [lookupByHash] at looked
  split at looked
  next key there =>
    obtain ⟨record', read, same⟩ := map_eq_ok.mp looked
    cases same
    exact ⟨token, key, shown, List.mem_of_find?_eq_some there,
      by simpa using List.find?_some there, read⟩
  next => cases looked

/-- Whoever the gateway takes for the holder of a key shows a text that a request was handed as
a key, or one with its digest. The request was the administrator's, or it came in a session
whose wallet owns the key, and that wallet has signed in for it. -/
theorem authenticated_attested {clock : Nat} {actions : List Action}
    (fresh : Transactional.Meets (step standard ed jwt settings) Fresh (.start clock) actions)
    {headers : HeaderMap} {record : ApiKeyRecord}
    (authenticated : authenticateKey
      (run standard ed jwt settings (.start clock) actions).db headers = .ok record) :
    ∃ token rawKey id call authority, bearer headers = some token ∧
      (token = rawKey ∨ Collision token rawKey) ∧
      (run standard ed jwt settings (.start clock) actions).calls[id]? = some call ∧
      call.authority = some authority ∧
      call.stage = .ended (.ok (.created rawKey record.tier record.owner)) ∧
      Attested standard ed jwt settings clock actions id call record.owner authority := by
  have custody : Custody jwt settings (run standard ed jwt settings (.start clock) actions) :=
    run_custody clock actions
  obtain ⟨token, key, shown, member, hash, read⟩ := authenticateKey_ok authenticated
  obtain ⟨call, there, authority, rawKey, tier, made⟩ := custody.made key member
  obtain ⟨id, found⟩ := List.mem_iff_getElem?.mp there
  simp only [modelToRecord, bind_eq_ok, pure_eq_ok, mapError_eq_ok] at read
  obtain ⟨tier', parsed, rfl⟩ := read
  -- the tier of the row is the text of the one in the response
  rw [made.writes.tier, parseTier_tierText] at parsed
  cases parsed
  refine ⟨token, rawKey, id, call, authority, shown, ?_, found, made.admitted, made.answered, ?_⟩
  · exact hashKey_eq (hash.symm.trans made.writes.hash)
  · cases authority with
    | tenant session =>
      obtain ⟨earlier, sessionToken, sent, letIn⟩ :=
        run_letIn clock actions id call found session made.admitted
      obtain ⟨answers, before, -⟩ := letIn.taken
      -- the actions before the request was let in are fresh as well
      obtain ⟨later, rfl⟩ := before
      rw [List.append_assoc] at fresh
      have past := ((Transactional.meets_append _ earlier _).mp fresh).1
      exact ⟨made.writes.owner.symm, earlier, sessionToken, sent, letIn,
        letIn.behind (run_seated past)⟩
    | administrator =>
      exact (custody.sound call there).admitted .administrator made.admitted

/-! ## How long a key is good -/

/-- In a table with one row for each hash, the row of a hash is found. -/
theorem lookupByHash_of_mem {db : Database} {key : KeyRow}
    (unique : (db.apiKeys.map KeyRow.keyHash).Nodup) (member : key ∈ db.apiKeys) :
    lookupByHash db key.keyHash = (modelToRecord key).map some := by
  have some' : (db.apiKeys.find? fun other => other.keyHash == key.keyHash).isSome :=
    List.find?_isSome.mpr ⟨key, member, beq_self_eq_true _⟩
  obtain ⟨other, found⟩ := Option.isSome_iff_exists.mp some'
  have same : other.keyHash = key.keyHash := by simpa using List.find?_some found
  obtain rfl := List.inj_on_of_nodup_map unique (List.mem_of_find?_eq_some found) member same
  rw [lookupByHash, found]

theorem modelToRecord_of_tier {key : KeyRow} {tier : Tier} (text : key.tier = tierText tier) :
    modelToRecord key = .ok ⟨key.keyHash, tier, key.owner, key.createdAt⟩ := by
  rw [modelToRecord, text, parseTier_tierText]
  rfl

/-- Whoever shows the text of a key is let in with the record of its row. -/
theorem authenticateKey_of_mem {db : Database} {key : KeyRow} {headers : HeaderMap}
    {rawKey : String} {record : ApiKeyRecord}
    (unique : (db.apiKeys.map KeyRow.keyHash).Nodup) (member : key ∈ db.apiKeys)
    (shown : bearer headers = some rawKey) (nonempty : rawKey ≠ "")
    (hash : key.keyHash = hashKey rawKey) (read : modelToRecord key = .ok record) :
    authenticateKey db headers = .ok record := by
  have looked : lookupByHash db (hashKey rawKey) = .ok (some record) := by
    rw [← hash, lookupByHash_of_mem unique member, read]
    rfl
  simp only [authenticateKey, bind_eq_ok, okOr_eq_ok, require_eq_ok]
  exact ⟨rawKey, shown, ⟨⟩, nonempty, _, looked, rfl⟩

theorem generateKey_ne_empty (bytes : Bytes32) : generateKey bytes ≠ "" := by
  intro empty
  have chars := congrArg String.toList empty
  simp [generateKey] at chars

def zerosKey : String := generateKey zeros

/-- A session of the tenant asks for a key. -/
def keyActions : List Action :=
  .request (.createKey "") [] (some "token") :: List.replicate 3 (.resume 0 working)

def keyCall (stage : KeyStage) : KeyCall where
  handler := .createKey ""
  headers := []
  session := some "token"
  stage
  authority := some (.tenant ⟨"tenant", wallet⟩)

def zerosRow : KeyRow := keyRow zerosKey wallet .developer 1777723300 (some "tenant")

def withCall (db : Database) (call : KeyCall) : System :=
  { tenantSystem with db, calls := [call] }

def keySystem : System :=
  withCall { tenants := [tenantRow], apiKeys := [zerosRow] }
    (keyCall (.ended (.ok (.created zerosKey .developer wallet))))

theorem authorize_token (handler : Handler) :
    authorize oneToken signInSettings (.begin handler [] (some "token")) 1777723300 =
      .ok (.tenant ⟨"tenant", wallet⟩) := by
  rfl

theorem run_keyActions : run Base64.standard oneSignature oneToken signInSettings tenantSystem
    keyActions = keySystem := by
  have entered : KeyCall.advance oneToken signInSettings (firstTenant tenantRow) working
      (.begin (.createKey "") [] (some "token")) =
        .ok (firstTenant tenantRow,
          keyCall (.finding ⟨"tenant", wallet⟩ zerosKey 1777723300)) := by
    have admitted : authorize oneToken signInSettings (.begin (.createKey "") [] (some "token"))
        working.now = .ok (.tenant ⟨"tenant", wallet⟩) := authorize_token (.createKey "")
    simp only [KeyCall.advance, KeyCall.begin] at admitted ⊢
    rw [admitted]
    rfl
  have found : KeyCall.advance oneToken signInSettings (firstTenant tenantRow) working
      (keyCall (.finding ⟨"tenant", wallet⟩ zerosKey 1777723300)) =
        .ok (firstTenant tenantRow, keyCall (.inserting zerosKey .developer zerosRow)) := by
    rfl
  have inserted : KeyCall.advance oneToken signInSettings (firstTenant tenantRow) working
      (keyCall (.inserting zerosKey .developer zerosRow)) =
        .ok ({ tenants := [tenantRow], apiKeys := [zerosRow] },
          keyCall (.ended (.ok (.created zerosKey .developer wallet)))) := by
    rfl
  have requested : step Base64.standard oneSignature oneToken signInSettings tenantSystem
      (.request (.createKey "") [] (some "token")) =
        .ok (withCall (firstTenant tenantRow) (.begin (.createKey "") [] (some "token"))) := by
    rfl
  have resumed : ∀ (call call' : KeyCall) (db db' : Database),
      KeyCall.advance oneToken signInSettings db working call = .ok (db', call') →
        step Base64.standard oneSignature oneToken signInSettings (withCall db call)
          (.resume 0 working) = .ok (withCall db' call') := by
    intro call call' db db' advanced
    simp [step, withCall, advanced, bind, Except.bind]
  simp only [keyActions, List.replicate]
  rw [run, Transactional.run_cons_ok requested,
    Transactional.run_cons_ok (resumed _ _ _ _ entered),
    Transactional.run_cons_ok (resumed _ _ _ _ found),
    Transactional.run_cons_ok (resumed _ _ _ _ inserted)]
  rfl

theorem run_key : run Base64.standard oneSignature oneToken signInSettings (.start 0)
    (tenantActions keyActions) = keySystem := by
  rw [run_tenantActions, run_keyActions]

theorem fresh_key : Transactional.Meets
    (step Base64.standard oneSignature oneToken signInSettings) Fresh (.start 0)
      (tenantActions keyActions) := by
  refine fresh_tenantActions keyActions fun action member s => ?_
  rcases List.mem_cons.mp member with rfl | resumes
  · trivial
  · rw [List.eq_of_mem_replicate resumes]
    trivial

def keyHeaders : HeaderMap := [("authorization", ("Bearer " ++ zerosKey).toUTF8.data.toList)]

def zerosRecord : ApiKeyRecord where
  keyHash := hashKey zerosKey
  tier := .developer
  owner := wallet
  createdAt := 1777723300

theorem bearer_keyHeaders : bearer keyHeaders = some zerosKey := by
  decide

theorem authenticate_key : authenticateKey
    (run Base64.standard oneSignature oneToken signInSettings (.start 0)
      (tenantActions keyActions)).db keyHeaders = .ok zerosRecord := by
  have unique : (keySystem.db.apiKeys.map KeyRow.keyHash).Nodup := List.nodup_singleton _
  have member : zerosRow ∈ keySystem.db.apiKeys := List.mem_cons_self
  have tier : zerosRow.tier = tierText .developer := rfl
  rw [run_key]
  exact authenticateKey_of_mem unique member bearer_keyHeaders (generateKey_ne_empty zeros) rfl
    (modelToRecord_of_tier tier)

theorem authenticated_attested_key :
    ∃ token rawKey id call authority, bearer keyHeaders = some token ∧
      (token = rawKey ∨ Collision token rawKey) ∧
      (run Base64.standard oneSignature oneToken signInSettings (.start 0)
        (tenantActions keyActions)).calls[id]? = some call ∧
      call.authority = some authority ∧
      call.stage = .ended (.ok (.created rawKey .developer wallet)) ∧
      Attested Base64.standard oneSignature oneToken signInSettings 0 (tenantActions keyActions)
        id call wallet authority :=
  authenticated_attested fresh_key authenticate_key

end ZkSettle.Gateway.Tenancy
